import Mathlib.Algebra.Order.BigOperators.Group.List
import TempestaFw.ParserTest.Driver

/-!
# A test case's run of parser tests

The test macros share the globals `frames`, `frames_cnt`, `frames_max_sz`, `frames_total_sz`,
`hm_exp_len` and the builder's buffer.  `TestMacro` is one test as a test case writes it;
`runTest` runs it on the globals (`test_case_parse_prepare_http`, or the builder block and
`test_case_parse_prepare_h2`, then the loop) and `runTests` runs a test case's tests one after
the other.  `FOR_REQ_H2_CHUNK_OFF(str)` and `EXPECT_BLOCK_REQ_H2_CHUNK_OFF(str)` only log `str`:
they parse the table the tests before them left.

`runTests_settled`: when no verdict code is `1`, from globals where the builder is idle and
`frames_max_sz` and `frames_total_sz` are the largest frame and the sum of the frames, every
sequence of tests whose H2 blocks have at most two frames that fit in `frames_str_buf` runs
through without a `BUG_ON`, each test's loop ends after at most `CHUNK_SIZE_CNT + 1` passes,
and the globals are settled again after every test, so that a test parsing the table an
earlier test left finds it fitting in `frames_max_sz`.
-/

set_option autoImplicit false

namespace TempestaFw.ParserTest

/-! ## The globals and the tests -/

/-- `strlen(str)`: the bytes before the first NUL. -/
def strlen (str : List UInt8) : Nat := (str.takeWhile (· != 0)).length

/-- The globals the tests share: both records of `frames`, `frames_cnt`, `frames_max_sz`,
`frames_total_sz`, `hm_exp_len`, and the builder with `frames_str_buf`, `frames_buf_ptr` and
`frames_buf_capacity`.  The builder keeps its own copy of the frame counters while a block
runs: `H2_BUILDER_INIT` clears them before a step reads them, and the block's end copies them
out.  `chunk_size_index` is set to `0` by every test before it is read, and `req` and `resp`
are replaced by every test's first pass before they are read. -/
structure Globals where
  builder : H2Builder
  frames : List TfwFrameRec
  frames_length : frames.length = 2
  framesCnt : Nat
  cnt_le : framesCnt ≤ 2
  framesMaxSz : Nat
  framesTotalSz : Nat
  hmExpLen : Nat

def Globals.initial (zeroType : TfwFrameType) : Globals where
  builder := H2Builder.initial
  frames := [⟨0, [], zeroType⟩, ⟨0, [], zeroType⟩]
  frames_length := rfl
  framesCnt := 0
  cnt_le := Nat.zero_le _
  framesMaxSz := 0
  framesTotalSz := 0
  hmExpLen := 0

def Globals.harness (g : Globals) : Harness :=
  ⟨0, ⟨g.frames.take g.framesCnt, (List.length_take_le' _ _).trans g.frames_length.le⟩,
    g.framesMaxSz⟩

/-- `test_case_parse_prepare_http(str, sz_diff)`: `frames[0]` points at `str` with its `strlen`
and keeps its subtype, and `hm_exp_len = str_len - sz_diff` wraps as a `size_t`. -/
def testCaseParsePrepareHttp (str : List UInt8) (szDiff : UInt64) (g : Globals) : Globals where
  builder := g.builder
  frames := g.frames.modifyHead fun f => { f with len := strlen str, str := str }
  frames_length := by rw [List.length_modifyHead, g.frames_length]
  framesCnt := 1
  cnt_le := by decide
  framesMaxSz := strlen str
  framesTotalSz := strlen str
  hmExpLen := (UInt64.ofNat (strlen str) - szDiff).toNat

/-- `test_case_parse_prepare_h2()`: the table stays as the last block left it.  The HTTP/2
context it resets belongs to the parser. -/
def testCaseParsePrepareH2 (g : Globals) : Globals := { g with hmExpLen := g.framesTotalSz }

def testCaseParsePrepare (type : FuzzType) (str : List UInt8) (szDiff : UInt64) (g : Globals) :
    Globals :=
  if type = .reqH2 then testCaseParsePrepareH2 g else testCaseParsePrepareHttp str szDiff g

/-- A test as a test case writes it: `__FOR_REQ(str, sz_diff, type, chunk_mode)` (`FOR_REQ(str)`
is its `FUZZ_REQ`, `CHUNK_ON` case and `FOR_REQ_H2_CHUNK_OFF(str)` its `FUZZ_REQ_H2`,
`CHUNK_OFF` one), `FOR_REQ_H2(block)`, `__EXPECT_BLOCK_REQ(str, type, chunk_mode)`
(`EXPECT_BLOCK_REQ(str)`, `EXPECT_BLOCK_REQ_H2_CHUNK_OFF(str)`), `EXPECT_BLOCK_REQ_H2(block)`,
`__FOR_RESP(str, sz_diff, chunk_mode)` (`FOR_RESP(str)`) and `EXPECT_BLOCK_RESP(str)`. -/
inductive TestMacro where
  | forReq (str : List UInt8) (szDiff : UInt64) (type : FuzzType) (mode : ChunkMode)
  | forReqH2 (block : List FrameSpec)
  | expectBlockReq (str : List UInt8) (type : FuzzType) (mode : ChunkMode)
  | expectBlockReqH2 (block : List FrameSpec)
  | forResp (str : List UInt8) (szDiff : UInt64) (mode : ChunkMode)
  | expectBlockResp (str : List UInt8)

section Run
variable {σ : Type} (p : Parser σ) (codes : TfwCodes) (parserFuel : Nat) (rGarbage : Int)
  (writeInt : Nat → List UInt8)

def Globals.withBlock (g : Globals) (b : H2Builder) : Globals where
  builder := b
  frames := b.table.frames ++ g.frames.drop b.frames.length
  frames_length := by
    simp only [H2Builder.table, List.length_append, List.length_map, List.length_drop,
      g.frames_length]
    have := b.cnt_le
    omega
  framesCnt := b.frames.length
  cnt_le := b.cnt_le
  framesMaxSz := b.framesMaxSz
  framesTotalSz := b.framesTotalSz
  hmExpLen := g.hmExpLen

/-- `H2_BUILDER_INIT(); H2_BUILDER_SET_BUF(frames_str_buf); H2_BUILDER_BLOCK;
H2_BUILDER_RESET_BUF();` on the globals. -/
def h2BuilderBlock (block : List FrameSpec) (g : Globals) : Except HarnessStop Globals := do
  let b ← forReqH2Build writeInt block g.builder
  return g.withBlock b

/-- `while (TRY_PARSE_EXPECT_PASS(type, chunk_mode))` of `__FOR_REQ` and `__FOR_RESP` on the
prepared globals. -/
def forReqPass (type : FuzzType) (mode : ChunkMode) (g : Globals) :
    Except HarnessStop (Globals × List TryRecord) :=
  (forReqLoop p codes parserFuel rGarbage type mode g.hmExpLen g.harness none).map (g, ·)

/-- `while (TRY_PARSE_EXPECT_BLOCK(type, chunk_mode));` of `__EXPECT_BLOCK_REQ` and
`EXPECT_BLOCK_RESP`. -/
def expectBlockPass (type : FuzzType) (mode : ChunkMode) (g : Globals) :
    Except HarnessStop (Globals × List TryRecord) :=
  (expectBlockReqLoop p codes parserFuel rGarbage type mode g.harness none).map (g, ·)

/-- One test: the globals after it and the calls of its loop. -/
def runTest (g : Globals) : TestMacro → Except HarnessStop (Globals × List TryRecord)
  | .forReq str szDiff type mode =>
    forReqPass p codes parserFuel rGarbage type mode (testCaseParsePrepare type str szDiff g)
  | .forReqH2 block => do
    let g ← h2BuilderBlock writeInt block g
    forReqPass p codes parserFuel rGarbage .reqH2 .chunkOn (testCaseParsePrepareH2 g)
  | .expectBlockReq str type mode =>
    expectBlockPass p codes parserFuel rGarbage type mode (testCaseParsePrepare type str 0 g)
  | .expectBlockReqH2 block => do
    let g ← h2BuilderBlock writeInt block g
    expectBlockPass p codes parserFuel rGarbage .reqH2 .chunkOn (testCaseParsePrepareH2 g)
  | .forResp str szDiff mode =>
    forReqPass p codes parserFuel rGarbage .resp mode (testCaseParsePrepareHttp str szDiff g)
  | .expectBlockResp str =>
    expectBlockPass p codes parserFuel rGarbage .resp .chunkOn (testCaseParsePrepareHttp str 0 g)

/-- A test case's tests, one after the other, with the calls of each loop. -/
def runTests : Globals → List TestMacro → Except HarnessStop (Globals × List (List TryRecord))
  | g, [] => .ok (g, [])
  | g, t :: ts => do
    let first ← runTest p codes parserFuel rGarbage writeInt g t
    let later ← runTests first.1 ts
    return (later.1, first.2 :: later.2)

end Run

/-! ## Settled globals -/

/-- The globals between two tests: the builder is idle, `frames_max_sz` is the largest frame of
the table and `frames_total_sz` the sum of its frames. -/
structure Globals.Settled (g : Globals) : Prop where
  idle : g.builder.bufPtr = none
  maxSz : g.framesMaxSz = ((g.frames.take g.framesCnt).map TfwFrameRec.len).foldl max 0
  totalSz : g.framesTotalSz = ((g.frames.take g.framesCnt).map TfwFrameRec.len).sum

theorem Globals.initial_settled (zeroType : TfwFrameType) : (Globals.initial zeroType).Settled :=
  ⟨rfl, rfl, rfl⟩

theorem Globals.Settled.fitting {g : Globals} (settled : g.Settled) :
    ∀ f ∈ g.harness.table.frames, f.len ≤ g.harness.framesMaxSz := by
  intro f member
  rw [Globals.harness, settled.maxSz]
  exact (le_foldl_max _ 0).2 _ (List.mem_map_of_mem _ member)

theorem testCaseParsePrepareHttp_settled (str : List UInt8) (szDiff : UInt64) {g : Globals}
    (settled : g.Settled) : (testCaseParsePrepareHttp str szDiff g).Settled := by
  obtain ⟨f, rest, split⟩ : ∃ f rest, g.frames = f :: rest := by
    cases framesEq : g.frames with
    | nil => simpa [framesEq] using g.frames_length
    | cons f rest => exact ⟨f, rest, rfl⟩
  exact ⟨settled.idle, by simp [testCaseParsePrepareHttp, split],
    by simp [testCaseParsePrepareHttp, split]⟩

theorem testCaseParsePrepareH2_settled {g : Globals} (settled : g.Settled) :
    (testCaseParsePrepareH2 g).Settled :=
  ⟨settled.idle, settled.maxSz, settled.totalSz⟩

theorem testCaseParsePrepare_settled (type : FuzzType) (str : List UInt8) (szDiff : UInt64)
    {g : Globals} (settled : g.Settled) : (testCaseParsePrepare type str szDiff g).Settled := by
  unfold testCaseParsePrepare
  split_ifs
  · exact testCaseParsePrepareH2_settled settled
  · exact testCaseParsePrepareHttp_settled str szDiff settled

theorem Globals.withBlock_settled (g : Globals) {b : H2Builder} (idle : b.bufPtr = none)
    (maxSz : b.framesMaxSz = (b.frames.map BuiltFrame.len).foldl max 0)
    (totalSz : b.framesTotalSz = (b.frames.map BuiltFrame.len).sum) : (g.withBlock b).Settled := by
  have lens : ((b.table.frames ++ g.frames.drop b.frames.length).take b.frames.length).map
      TfwFrameRec.len = b.frames.map BuiltFrame.len := by
    rw [List.take_left' (by simp [H2Builder.table])]
    simp [H2Builder.table]
  exact ⟨idle, maxSz.trans (by rw [← lens]; rfl), totalSz.trans (by rw [← lens]; rfl)⟩

theorem h2BuilderBlock_settled (writeInt : Nat → List UInt8) (block : List FrameSpec)
    {g : Globals} (settled : g.Settled) (few : block.length ≤ 2)
    (fits : (blockBytes writeInt block).length ≤ FRAMES_STR_BUF_SIZE) :
    ∃ g', h2BuilderBlock writeInt block g = .ok g' ∧ g'.Settled ∧
      g'.framesMaxSz ≤ (blockBytes writeInt block).length := by
  have ends := h2Build_ends writeInt block g.builder settled.idle
  rw [BuildEnds, if_pos few, if_pos fits] at ends
  obtain ⟨b, built, layout⟩ := ends
  have totalSz : b.framesTotalSz = (b.frames.map BuiltFrame.len).sum := by
    rw [layout.totalSz, layout.frames, sum_len_layoutFrom]
  refine ⟨g.withBlock { b with bufPtr := none, bufCapacity := 0 },
    by rw [h2BuilderBlock, forReqH2Build_eq writeInt built layout, ok_bind]; rfl,
    g.withBlock_settled rfl layout.maxSz totalSz, ?_⟩
  calc b.framesMaxSz = (b.frames.map BuiltFrame.len).foldl max 0 := layout.maxSz
    _ ≤ (b.frames.map BuiltFrame.len).sum :=
      foldl_max_le _ (Nat.zero_le _) fun _ member => List.le_sum_of_mem member
    _ = (blockBytes writeInt block).length := by rw [← totalSz, layout.totalSz]

/-! ## Every test of a test case runs through -/

def TestMacro.Fits (writeInt : Nat → List UInt8) (parserFuel : Nat) : TestMacro → Prop
  | .forReq str _ type _ | .expectBlockReq str type _ => type = .reqH2 ∨ strlen str ≤ parserFuel
  | .forReqH2 block | .expectBlockReqH2 block =>
    block.length ≤ 2 ∧ (blockBytes writeInt block).length ≤ FRAMES_STR_BUF_SIZE ∧
      (blockBytes writeInt block).length ≤ parserFuel
  | .forResp str _ _ | .expectBlockResp str => strlen str ≤ parserFuel

instance (writeInt : Nat → List UInt8) (parserFuel : Nat) :
    DecidablePred (TestMacro.Fits writeInt parserFuel)
  | .forReq str _ type _ | .expectBlockReq str type _ =>
    inferInstanceAs (Decidable (type = .reqH2 ∨ strlen str ≤ parserFuel))
  | .forReqH2 block | .expectBlockReqH2 block =>
    inferInstanceAs (Decidable (block.length ≤ 2 ∧
      (blockBytes writeInt block).length ≤ FRAMES_STR_BUF_SIZE ∧
        (blockBytes writeInt block).length ≤ parserFuel))
  | .forResp str _ _ | .expectBlockResp str => inferInstanceAs (Decidable (strlen str ≤ parserFuel))

section Ends
variable {σ : Type} (p : Parser σ) (codes : TfwCodes) (parserFuel : Nat) (rGarbage : Int)
  (writeInt : Nat → List UInt8)

def SettledRun (parserFuel : Nat) (run : Except HarnessStop (Globals × List TryRecord)) : Prop :=
  ∃ g' calls, run = .ok (g', calls) ∧ g'.Settled ∧ g'.framesMaxSz ≤ parserFuel ∧
    calls.length ≤ CHUNK_SIZE_CNT + 1

theorem passes_end (passNotEnd : codes.pass ≠ 1) (blockNotEnd : codes.block ≠ 1)
    (postponeNotEnd : codes.postpone ≠ 1) (g : Globals) (settled : g.Settled)
    (covered : g.framesMaxSz ≤ parserFuel) (type : FuzzType) (mode : ChunkMode) :
    SettledRun parserFuel (forReqPass p codes parserFuel rGarbage type mode g) ∧
      SettledRun parserFuel (expectBlockPass p codes parserFuel rGarbage type mode g) := by
  obtain ⟨passCalls, passRan, passCounted, -⟩ := tryParseLoop_ends p codes parserFuel rGarbage
    type mode (fun r => decide (r = codes.pass)) (expectPassFail codes g.hmExpLen)
    (by simpa using passNotEnd.symm) (CHUNK_SIZE_CNT + 1) { g.harness with chunkSizeIndex := 0 }
    none settled.fitting covered (Nat.zero_le _) (Nat.sub_le _ _)
  obtain ⟨blockCalls, blockRan, blockCounted, -⟩ := tryParseLoop_ends p codes parserFuel
    rGarbage type mode (fun r => decide (r = codes.block ∨ r = codes.postpone))
    (fun r _ => decide (r = codes.pass)) (by simp [blockNotEnd.symm, postponeNotEnd.symm])
    (CHUNK_SIZE_CNT + 1) { g.harness with chunkSizeIndex := 0 } none settled.fitting covered
    (Nat.zero_le _) (Nat.sub_le _ _)
  exact ⟨⟨g, passCalls, by rw [forReqPass, forReqLoop, passRan]; rfl, settled, covered,
      passCounted⟩,
    g, blockCalls, by rw [expectBlockPass, expectBlockReqLoop, blockRan]; rfl, settled, covered,
      blockCounted⟩

theorem testCaseParsePrepare_covered (type : FuzzType) (str : List UInt8) (szDiff : UInt64)
    {g : Globals} (covered : g.framesMaxSz ≤ parserFuel)
    (fits : type = .reqH2 ∨ strlen str ≤ parserFuel) :
    (testCaseParsePrepare type str szDiff g).framesMaxSz ≤ parserFuel := by
  unfold testCaseParsePrepare
  split_ifs with h2
  · exact covered
  · exact fits.resolve_left h2

theorem runTest_settled (passNotEnd : codes.pass ≠ 1) (blockNotEnd : codes.block ≠ 1)
    (postponeNotEnd : codes.postpone ≠ 1) {g : Globals} (settled : g.Settled)
    (covered : g.framesMaxSz ≤ parserFuel) (t : TestMacro) (fits : t.Fits writeInt parserFuel) :
    SettledRun parserFuel (runTest p codes parserFuel rGarbage writeInt g t) := by
  have ends := passes_end p codes parserFuel rGarbage passNotEnd blockNotEnd postponeNotEnd
  cases t with
  | forReq str szDiff type mode =>
      exact (ends _ (testCaseParsePrepare_settled type str szDiff settled)
        (testCaseParsePrepare_covered parserFuel type str szDiff covered fits) type mode).1
  | expectBlockReq str type mode =>
      exact (ends _ (testCaseParsePrepare_settled type str 0 settled)
        (testCaseParsePrepare_covered parserFuel type str 0 covered fits) type mode).2
  | forResp str szDiff mode =>
      exact (ends _ (testCaseParsePrepareHttp_settled str szDiff settled) fits .resp mode).1
  | expectBlockResp str =>
      exact (ends _ (testCaseParsePrepareHttp_settled str 0 settled) fits .resp .chunkOn).2
  | forReqH2 block =>
      obtain ⟨few, room, fuelled⟩ := fits
      obtain ⟨g', built, settled', small⟩ := h2BuilderBlock_settled writeInt block settled few room
      rw [runTest, built, ok_bind]
      exact (ends _ (testCaseParsePrepareH2_settled settled') (small.trans fuelled) .reqH2
        .chunkOn).1
  | expectBlockReqH2 block =>
      obtain ⟨few, room, fuelled⟩ := fits
      obtain ⟨g', built, settled', small⟩ := h2BuilderBlock_settled writeInt block settled few room
      rw [runTest, built, ok_bind]
      exact (ends _ (testCaseParsePrepareH2_settled settled') (small.trans fuelled) .reqH2
        .chunkOn).2

/-- When no verdict code is `1`, from settled globals whose frames the fuel covers, every
sequence of tests whose H2 blocks have at most two frames that fit in `frames_str_buf` (and
whose frames the fuel covers) runs through without a `BUG_ON` or a write past an array: one
loop per test, each ending after at most `CHUNK_SIZE_CNT + 1` passes, and the globals settled
after the last test, the builder idle and `frames_max_sz` the largest frame of the table. -/
theorem runTests_settled (passNotEnd : codes.pass ≠ 1) (blockNotEnd : codes.block ≠ 1)
    (postponeNotEnd : codes.postpone ≠ 1) :
    ∀ (tests : List TestMacro) (g : Globals), g.Settled → g.framesMaxSz ≤ parserFuel →
      (∀ t ∈ tests, t.Fits writeInt parserFuel) →
    ∃ g' logs, runTests p codes parserFuel rGarbage writeInt g tests = .ok (g', logs) ∧
      g'.Settled ∧ logs.length = tests.length ∧ ∀ calls ∈ logs, calls.length ≤ CHUNK_SIZE_CNT + 1
  | [], g, settled, _, _ => ⟨g, [], rfl, settled, rfl, by simp⟩
  | t :: ts, g, settled, covered, fits => by
      obtain ⟨g₁, calls, ran, settled₁, covered₁, counted⟩ := runTest_settled p codes parserFuel
        rGarbage writeInt passNotEnd blockNotEnd postponeNotEnd settled covered t
        (fits t (List.mem_cons_self t ts))
      obtain ⟨g', logs, ranRest, settled', lengths, countedRest⟩ := runTests_settled passNotEnd
        blockNotEnd postponeNotEnd ts g₁ settled₁ covered₁ fun t' member =>
          fits t' (List.mem_cons_of_mem t member)
      refine ⟨g', calls :: logs, ?_, settled', by simp [lengths], ?_⟩
      · rw [runTests, ran, ok_bind]
        dsimp only
        rw [ranRest, ok_bind]
        rfl
      · intro c member
        rcases List.mem_cons.mp member with rfl | member
        · exact counted
        · exact countedRest c member

end Ends

def sampleTestCase : List TestMacro :=
  [.forReq [71, 69, 84, 32, 47, 32, 72, 84, 84, 80, 47, 49, 46, 49, 13, 10, 13, 10] 0 .req .chunkOn,
    .forReqH2 methodGetBlock, .forReq [] 0 .reqH2 .chunkOff, .expectBlockResp [120]]

theorem sample_test_case_settled :
    sampleCodes.pass ≠ 1 ∧ sampleCodes.block ≠ 1 ∧ sampleCodes.postpone ≠ 1 ∧
      (∀ t ∈ sampleTestCase, t.Fits (hpackInt 0x7F 0) FRAMES_STR_BUF_SIZE) ∧
      ∃ g' logs, runTests passingParser sampleCodes FRAMES_STR_BUF_SIZE 0 (hpackInt 0x7F 0)
        (Globals.initial .data) sampleTestCase = .ok (g', logs) ∧ g'.Settled :=
  have fits : ∀ t ∈ sampleTestCase, t.Fits (hpackInt 0x7F 0) FRAMES_STR_BUF_SIZE := by decide
  ⟨by decide, by decide, by decide, fits,
    (runTests_settled passingParser sampleCodes FRAMES_STR_BUF_SIZE 0 (hpackInt 0x7F 0) (by decide)
      (by decide) (by decide) sampleTestCase _ (Globals.initial_settled .data) (Nat.zero_le _)
      fits).imp fun _ => Exists.imp fun _ ran => ⟨ran.1, ran.2.1⟩⟩

end TempestaFw.ParserTest
