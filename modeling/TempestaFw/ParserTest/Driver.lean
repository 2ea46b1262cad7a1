import TempestaFw.ParserTest.H2Builder

/-!
# The loop of a parser test

`FOR_REQ`, `FOR_RESP` and `FOR_REQ_H2` set `chunk_size_index` to zero and run
`while (TRY_PARSE_EXPECT_PASS(type, chunk_mode))`: one pass of `do_split_and_parse` per chunk
size until a pass returns something other than `TFW_PASS`; `do_split_and_parse` returns `1` once
every size was tried.

`tryParseLoop` is both loops, `while (TRY_PARSE_EXPECT_PASS(type, chunk_mode))` of `__FOR_REQ`
and `while (TRY_PARSE_EXPECT_BLOCK(type, chunk_mode));` of `__EXPECT_BLOCK_REQ`.
`tryParseLoop_ends`: when the returned `1` stops the loop, the frames fit in `frames_max_sz` and
the parser gets a unit of fuel per byte, the loop from index `i` ends after at most
`CHUNK_SIZE_CNT + 1 - i` calls, and its passes follow `ChunkSchedule`: with `CHUNK_ON` the sizes
of `CHUNK_SIZES` from `i` on, in order, each but the last below `frames_max_sz`; with
`CHUNK_OFF` one pass with `frames_max_sz`.  `testLoops_end` reads this off for both loops, and
`forReqH2Test_ends` runs a whole `FOR_REQ_H2` test: the builder, then the loop over the table
it built.
-/

set_option autoImplicit false

namespace TempestaFw.ParserTest

/-- What one `TRY_PARSE_EXPECT_PASS(type, chunk_mode)` did: the chunk size of its pass (`none`
for the call that found every size tried), the value `do_split_and_parse` returned, and whether
it ran `TEST_FAIL`. -/
structure TryRecord where
  chunkSize : Option Nat
  r : Int
  testFail : Bool
  deriving DecidableEq, Repr

section Loop
variable {σ : Type} (p : Parser σ) (codes : TfwCodes) (parserFuel : Nat) (rGarbage : Int)
  (type : FuzzType) (mode : ChunkMode)

def validateDataFullyParsed (hmExpLen : Nat) (msg : Option (HttpMsg σ)) : Bool :=
  msg.any fun hm => hm.len == hmExpLen

/-- The loops `while (TRY_PARSE_EXPECT_PASS(type, chunk_mode))` of `__FOR_REQ` and
`while (TRY_PARSE_EXPECT_BLOCK(type, chunk_mode));` of `__EXPECT_BLOCK_REQ` differ only in the
verdicts that go on to the next pass (`continues`) and in when they run `TEST_FAIL`
(`testFail`, given the verdict and the message `req` or `resp` points at).  One unit of fuel
per call. -/
def tryParseLoop (continues : Int → Bool) (testFail : Int → Option (HttpMsg σ) → Bool) :
    Nat → Harness → Option (HttpMsg σ) → Except HarnessStop (List TryRecord)
  | 0, _, _ => .error .outOfFuel
  | fuel + 1, h, msg => do
    let out ← doSplitAndParse p codes parserFuel rGarbage type mode h
    let msg := out.msg.orElse fun _ => msg
    let record : TryRecord :=
      ⟨if h.chunkSizeIndex = CHUNK_SIZE_CNT then none else chunkSizeFor mode h, out.r,
        testFail out.r msg⟩
    if continues out.r then
      (tryParseLoop continues testFail fuel { h with chunkSizeIndex := out.chunkSizeIndex }
        msg).map (record :: ·)
    else .ok [record]

def expectPassFail (hmExpLen : Nat) (r : Int) (msg : Option (HttpMsg σ)) : Bool :=
  r = codes.block ∨ r = codes.postpone ∨ !validateDataFullyParsed hmExpLen msg

/-- `chunk_size_index = 0;` of `test_case_parse_prepare_*`, then the loop of `__FOR_REQ`, which
goes on while a pass returns `TFW_PASS`; one call more than there are chunk sizes. -/
def forReqLoop (hmExpLen : Nat) (h : Harness) (msg : Option (HttpMsg σ)) :
    Except HarnessStop (List TryRecord) :=
  tryParseLoop p codes parserFuel rGarbage type mode (· = codes.pass)
    (expectPassFail codes hmExpLen) (CHUNK_SIZE_CNT + 1) { h with chunkSizeIndex := 0 } msg

/-- `chunk_size_index = 0;`, then the loop of `__EXPECT_BLOCK_REQ`, which goes on while a pass
returns `TFW_BLOCK` or `TFW_POSTPONE` and runs `TEST_FAIL` on `TFW_PASS`. -/
def expectBlockReqLoop (h : Harness) (msg : Option (HttpMsg σ)) :
    Except HarnessStop (List TryRecord) :=
  tryParseLoop p codes parserFuel rGarbage type mode
    (fun r => r = codes.block ∨ r = codes.postpone) (fun r _ => r = codes.pass)
    (CHUNK_SIZE_CNT + 1) { h with chunkSizeIndex := 0 } msg

theorem doSplitAndParse_at_end {h : Harness} (atEnd : h.chunkSizeIndex = CHUNK_SIZE_CNT) :
    doSplitAndParse p codes parserFuel rGarbage type mode h =
      .ok ⟨1, [], none, CHUNK_SIZE_CNT⟩ := by
  rw [doSplitAndParse, if_pos atEnd, atEnd]

theorem doSplitAndParse_next {h : Harness} (fitting : ∀ f ∈ h.table.frames, f.len ≤ h.framesMaxSz)
    (indexed : h.chunkSizeIndex < CHUNK_SIZE_CNT) (enough : h.framesMaxSz ≤ parserFuel) :
    ∃ c out, chunkSizeFor mode h = some c ∧
      doSplitAndParse p codes parserFuel rGarbage type mode h = .ok out ∧
      out.chunkSizeIndex = if mode = .chunkOff ∨ c ≥ h.framesMaxSz then CHUNK_SIZE_CNT
        else h.chunkSizeIndex + 1 := by
  obtain ⟨c, chosen, nonzero⟩ := chunkSizeFor_fits mode fitting indexed
  obtain ⟨looped, ran, -⟩ := frameLoop_feeds p codes parserFuel type c h.table.frames rGarbage
    (p.alloc type h.framesMaxSz) fun f member =>
      ⟨nonzero f member, (fitting f member).trans enough⟩
  refine ⟨c, ?_⟩
  rw [doSplitAndParse, if_neg (Nat.ne_of_lt indexed), chosen]
  dsimp only
  rw [ran]
  exact ⟨_, rfl, rfl, by dsimp only; split_ifs <;> rfl⟩

/-- The chunk sizes the passes from `h`'s index use: with `CHUNK_ON` the sizes of `CHUNK_SIZES`
from the index on, in order, each but the last below `frames_max_sz`; with `CHUNK_OFF` one pass
with `frames_max_sz`, none from the end of the sizes. -/
def ChunkSchedule (mode : ChunkMode) (h : Harness) (sizes : List Nat) : Prop :=
  match mode with
  | .chunkOn => sizes = (CHUNK_SIZES.drop h.chunkSizeIndex).take sizes.length ∧
      ∀ c ∈ sizes.dropLast, c < h.framesMaxSz
  | .chunkOff => sizes = if h.chunkSizeIndex = CHUNK_SIZE_CNT then [] else [h.framesMaxSz]

theorem chunkSchedule_single {mode : ChunkMode} {h : Harness} {c : Nat}
    (below : h.chunkSizeIndex < CHUNK_SIZE_CNT) (chosen : chunkSizeFor mode h = some c) :
    ChunkSchedule mode h [c] := by
  cases mode with
  | chunkOn =>
      simp only [chunkSizeFor, List.getElem?_eq_getElem below, Option.some.injEq] at chosen
      refine ⟨?_, by simp⟩
      rw [List.drop_eq_getElem_cons below, chosen]
      rfl
  | chunkOff =>
      simp only [chunkSizeFor, Option.some.injEq] at chosen
      simp [ChunkSchedule, Nat.ne_of_lt below, chosen]

theorem chunkSchedule_cons {mode : ChunkMode} {h : Harness} {c next : Nat} {sizes : List Nat}
    (below : h.chunkSizeIndex < CHUNK_SIZE_CNT) (chosen : chunkSizeFor mode h = some c)
    (nextIndex : next = if mode = .chunkOff ∨ c ≥ h.framesMaxSz then CHUNK_SIZE_CNT
      else h.chunkSizeIndex + 1)
    (later : ChunkSchedule mode { h with chunkSizeIndex := next } sizes) :
    ChunkSchedule mode h (c :: sizes) := by
  split_ifs at nextIndex with covered
  · have none : sizes = [] := by
      subst nextIndex
      cases mode with
      | chunkOn => simpa [CHUNK_SIZE_CNT] using later.1
      | chunkOff => simpa [ChunkSchedule] using later
    rw [none]
    exact chunkSchedule_single below chosen
  · simp only [not_or, not_le] at covered
    cases mode with
    | chunkOff => exact absurd rfl covered.1
    | chunkOn =>
        obtain ⟨schedule, smaller⟩ := later
        simp only [chunkSizeFor, List.getElem?_eq_getElem below, Option.some.injEq] at chosen
        subst nextIndex
        refine ⟨?_, fun x member => ?_⟩
        · rw [List.drop_eq_getElem_cons below, List.length_cons, List.take_succ_cons, chosen]
          exact congrArg (c :: ·) schedule
        · cases sizes with
          | nil => simp at member
          | cons s rest =>
              rw [List.dropLast_cons₂] at member
              rcases List.mem_cons.mp member with rfl | member
              · exact covered.2
              · exact smaller x member

section Ends
variable (continues : Int → Bool) (testFail : Int → Option (HttpMsg σ) → Bool)

theorem tryParseLoop_at_end (stops : continues 1 = false) (fuel : Nat) {h : Harness}
    (msg : Option (HttpMsg σ)) (atEnd : h.chunkSizeIndex = CHUNK_SIZE_CNT) :
    ∃ record, tryParseLoop p codes parserFuel rGarbage type mode continues testFail (fuel + 1) h
      msg = .ok [record] ∧ record.chunkSize = none := by
  rw [tryParseLoop, doSplitAndParse_at_end p codes parserFuel rGarbage type mode atEnd, ok_bind]
  dsimp only
  rw [stops]
  exact ⟨_, rfl, if_pos atEnd⟩

theorem tryParseLoop_ends (stops : continues 1 = false) :
    ∀ (fuel : Nat) (h : Harness) (msg : Option (HttpMsg σ)),
      (∀ f ∈ h.table.frames, f.len ≤ h.framesMaxSz) → h.framesMaxSz ≤ parserFuel →
      h.chunkSizeIndex ≤ CHUNK_SIZE_CNT → CHUNK_SIZE_CNT + 1 - h.chunkSizeIndex ≤ fuel →
      ∃ calls, tryParseLoop p codes parserFuel rGarbage type mode continues testFail fuel h msg =
          .ok calls ∧
        calls.length ≤ CHUNK_SIZE_CNT + 1 - h.chunkSizeIndex ∧
        ChunkSchedule mode h (calls.filterMap TryRecord.chunkSize)
  | 0, _, _, _, _, indexed, enoughCalls => absurd enoughCalls (by omega)
  | fuel + 1, h, msg, fitting, enough, indexed, enoughCalls => by
      rcases Nat.lt_or_ge h.chunkSizeIndex CHUNK_SIZE_CNT with below | atEnd
      · obtain ⟨c, out, chosen, ran, nextIndex⟩ :=
          doSplitAndParse_next p codes parserFuel rGarbage type mode fitting below enough
        rw [tryParseLoop, ran, ok_bind]
        dsimp only
        rw [if_neg (Nat.ne_of_lt below), chosen]
        have nextBounds : h.chunkSizeIndex < out.chunkSizeIndex ∧
            out.chunkSizeIndex ≤ CHUNK_SIZE_CNT := by
          rw [nextIndex]
          split_ifs <;> omega
        split_ifs with passed
        · obtain ⟨calls, ran', counted, scheduled⟩ := tryParseLoop_ends stops fuel
            { h with chunkSizeIndex := out.chunkSizeIndex } _ fitting enough nextBounds.2
            (by dsimp only; omega)
          rw [ran']
          refine ⟨_, rfl, by dsimp only at counted; simp only [List.length_cons]; omega, ?_⟩
          simpa using chunkSchedule_cons below chosen nextIndex scheduled
        · exact ⟨_, rfl, by simp; omega, by simpa using chunkSchedule_single below chosen⟩
      · have atEnd' : h.chunkSizeIndex = CHUNK_SIZE_CNT := by omega
        obtain ⟨record, ran, none⟩ :=
          tryParseLoop_at_end p codes parserFuel rGarbage type mode continues testFail stops fuel msg
            atEnd'
        refine ⟨[record], ran, by simp [atEnd'], ?_⟩
        simp only [List.filterMap_cons, none, List.filterMap_nil]
        cases mode <;> simp [ChunkSchedule, atEnd']

end Ends

/-- On frames that fit in `frames_max_sz`, for every parser, the loop of `__FOR_REQ` (when
`TFW_PASS` is not `1`) and the loop of `__EXPECT_BLOCK_REQ` (when neither `TFW_BLOCK` nor
`TFW_POSTPONE` is `1`) end after at most `CHUNK_SIZE_CNT + 1` calls of `do_split_and_parse`,
their passes using the sizes `ChunkSchedule` gives from the first size on. -/
theorem testLoops_end (hmExpLen : Nat) (h : Harness) (msg : Option (HttpMsg σ))
    (fitting : ∀ f ∈ h.table.frames, f.len ≤ h.framesMaxSz) (enough : h.framesMaxSz ≤ parserFuel) :
    (codes.pass ≠ 1 → ∃ calls,
      forReqLoop p codes parserFuel rGarbage type mode hmExpLen h msg = .ok calls ∧
        calls.length ≤ CHUNK_SIZE_CNT + 1 ∧
        ChunkSchedule mode { h with chunkSizeIndex := 0 } (calls.filterMap TryRecord.chunkSize)) ∧
    (codes.block ≠ 1 → codes.postpone ≠ 1 → ∃ calls,
      expectBlockReqLoop p codes parserFuel rGarbage type mode h msg = .ok calls ∧
        calls.length ≤ CHUNK_SIZE_CNT + 1 ∧
        ChunkSchedule mode { h with chunkSizeIndex := 0 } (calls.filterMap TryRecord.chunkSize)) :=
  ⟨fun passNotEnd => tryParseLoop_ends p codes parserFuel rGarbage type mode _ _
      (by simpa using passNotEnd.symm) _ _ msg fitting enough (Nat.zero_le _) le_rfl,
    fun blockNotEnd postponeNotEnd => tryParseLoop_ends p codes parserFuel rGarbage type mode _ _
      (by simp [blockNotEnd.symm, postponeNotEnd.symm]) _ _ msg fitting enough (Nat.zero_le _)
      le_rfl⟩

end Loop

theorem three_byte_request_loops_end :
    ∃ calls, forReqLoop passingParser sampleCodes 3 0 .req .chunkOn 3 threeByteRequest none =
      .ok calls ∧ calls.length ≤ CHUNK_SIZE_CNT + 1 :=
  ((testLoops_end passingParser sampleCodes 3 0 .req .chunkOn 3 threeByteRequest none (by decide)
    le_rfl).1 (by decide)).imp fun _ ended => ⟨ended.1, ended.2.1⟩

/-! ## A whole `FOR_REQ_H2` test -/

section Test
variable {σ : Type} (p : Parser σ) (codes : TfwCodes) (parserFuel : Nat) (rGarbage : Int)
  (writeInt : Nat → List UInt8)

/-- `FOR_REQ_H2(H2_BUILDER_BLOCK)`: the builder, then `__FOR_REQ` over the table it built with
`hm_exp_len = frames_total_sz`, as `test_case_parse_prepare_h2` sets it. -/
def forReqH2Test (specs : List FrameSpec) (b : H2Builder) (msg : Option (HttpMsg σ)) :
    Except HarnessStop (H2Builder × List TryRecord) := do
  let b ← forReqH2Build writeInt specs b
  let calls ← forReqLoop p codes parserFuel rGarbage .reqH2 .chunkOn b.framesTotalSz
    ⟨0, b.table, b.framesMaxSz⟩ msg
  return (b, calls)

/-- From an idle builder, a `FOR_REQ_H2` test whose block has at most two frames that fit in
`frames_str_buf` runs through: the builder hits no `BUG_ON` and leaves the pointer NULL, and the
loop ends after at most `CHUNK_SIZE_CNT + 1` calls, trying the chunk sizes in order from the
first, each but the last below `frames_max_sz`. -/
theorem forReqH2Test_ends (passNotEnd : codes.pass ≠ 1) (specs : List FrameSpec) (b0 : H2Builder)
    (msg : Option (HttpMsg σ)) (idle : b0.bufPtr = none) (few : specs.length ≤ 2)
    (fits : (blockBytes writeInt specs).length ≤ FRAMES_STR_BUF_SIZE)
    (enough : FRAMES_STR_BUF_SIZE ≤ parserFuel) :
    ∃ b calls, forReqH2Test p codes parserFuel rGarbage writeInt specs b0 msg = .ok (b, calls) ∧
      b.bufPtr = none ∧ calls.length ≤ CHUNK_SIZE_CNT + 1 ∧
      (calls.filterMap TryRecord.chunkSize) =
        CHUNK_SIZES.take (calls.filterMap TryRecord.chunkSize).length ∧
      ∀ c ∈ (calls.filterMap TryRecord.chunkSize).dropLast, c < b.framesMaxSz := by
  have ends := h2Build_ends writeInt specs b0 idle
  rw [BuildEnds, if_pos few, if_pos fits] at ends
  obtain ⟨b, built, layout⟩ := ends
  obtain ⟨calls, ran, counted, scheduled, smaller⟩ := tryParseLoop_ends p codes parserFuel
    rGarbage .reqH2 .chunkOn (fun r => decide (r = codes.pass))
    (expectPassFail codes b.framesTotalSz) (by simpa using passNotEnd.symm) _
    ⟨0, b.table, b.framesMaxSz⟩ msg layout.table_fits (layout.maxSz_le.trans enough)
    (Nat.zero_le _) le_rfl
  refine ⟨{ b with bufPtr := none, bufCapacity := 0 }, calls, ?_, rfl, counted, scheduled, smaller⟩
  rw [forReqH2Test, forReqH2Build_eq writeInt built layout, ok_bind]
  exact congrArg (Except.map _) ran

end Test

theorem method_get_test_ends :
    sampleCodes.pass ≠ 1 ∧ H2Builder.initial.bufPtr = none ∧ methodGetBlock.length ≤ 2 ∧
      ∃ b calls, forReqH2Test passingParser sampleCodes FRAMES_STR_BUF_SIZE 0 (hpackInt 0x7F 0)
        methodGetBlock H2Builder.initial none = .ok (b, calls) ∧ b.bufPtr = none :=
  ⟨by decide, rfl, by decide,
    (forReqH2Test_ends passingParser sampleCodes FRAMES_STR_BUF_SIZE 0 (hpackInt 0x7F 0) (by decide)
      methodGetBlock H2Builder.initial none rfl (by decide) (by decide) le_rfl).imp
      fun _ ended => ended.imp fun _ ended => ⟨ended.1, ended.2.1⟩⟩

end TempestaFw.ParserTest
