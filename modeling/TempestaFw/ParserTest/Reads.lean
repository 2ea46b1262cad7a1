import TempestaFw.ParserTest.Suite

/-!
# What the harness reads of a frame's memory

A `TfwFrameRec` points at memory: `str` is all of it, of which `split_and_parse_n` is to read
the first `len` bytes.  `TfwFrameRec.visible` keeps those bytes only.

`doSplitAndParse_reads_within_len`: a pass of `do_split_and_parse`, and a whole loop of passes,
never reads a frame's byte at or past its `len`: two harnesses whose frames agree on their first
`len` bytes make the same calls and return the same values.
`runTests_cut_at_nul`: `test_case_parse_prepare_http` sets `len` to the string's `strlen`, so a
test case's tests make the same calls when each test string is cut at its first NUL.  In
`COMMON_ETAG_BLOCK` the value `"\x00"` is therefore a test of the head and one quote
(`commonEtagBlock_cut_at_nul`): the bytes after the NUL never reach the parser.
-/

set_option autoImplicit false

namespace TempestaFw.ParserTest

/-- The memory of a frame that `split_and_parse_n` may read: its first `len` bytes. -/
def TfwFrameRec.visible (f : TfwFrameRec) : TfwFrameRec := { f with str := f.str.take f.len }

def Harness.mapFrames (φ : TfwFrameRec → TfwFrameRec) (h : Harness) : Harness :=
  { h with table := ⟨h.table.frames.map φ, by simpa using h.table.cnt_le⟩ }

@[simp] theorem TfwFrameRec.visible_len (f : TfwFrameRec) : f.visible.len = f.len := rfl

@[simp] theorem TfwFrameRec.visible_subtype (f : TfwFrameRec) : f.visible.subtype = f.subtype :=
  rfl

@[simp] theorem TfwFrameRec.visible_str (f : TfwFrameRec) : f.visible.str = f.str.take f.len :=
  rfl

theorem Harness.mapFrames_eq (φ : TfwFrameRec → TfwFrameRec) {h h' : Harness}
    (sameIndex : h.chunkSizeIndex = h'.chunkSizeIndex) (sameMax : h.framesMaxSz = h'.framesMaxSz)
    (sameFrames : h.table.frames.map φ = h'.table.frames.map φ) :
    h.mapFrames φ = h'.mapFrames φ := by
  obtain ⟨i, ⟨frames, _⟩, m⟩ := h
  obtain ⟨i', ⟨frames', _⟩, m'⟩ := h'
  simp only at sameIndex sameMax sameFrames
  simp only [Harness.mapFrames, sameIndex, sameMax, sameFrames]

/-! ## A pass reads a frame only through the frame loop's body -/

section Lift
variable {σ : Type} (p : Parser σ) (codes : TfwCodes) (type : FuzzType)
  (φ : TfwFrameRec → TfwFrameRec)

/-- A map of the frames that the body of the frame loop does not see. -/
def BodyBlind : Prop :=
  ∀ fuel chunkSize frame (hm : HttpMsg σ),
    frameBody p codes fuel type chunkSize (φ frame) hm =
      frameBody p codes fuel type chunkSize frame hm

theorem frameLoop_mapFrames (blind : BodyBlind p codes type φ) (fuel chunkSize : Nat) :
    ∀ (frames : List TfwFrameRec) (r : Int) (hm : HttpMsg σ),
      frameLoop p codes fuel type chunkSize (frames.map φ) r hm =
        frameLoop p codes fuel type chunkSize frames r hm
  | [], _, _ => rfl
  | frame :: rest, r, hm => by
      simp only [List.map_cons, frameLoop, blind fuel chunkSize frame hm,
        frameLoop_mapFrames blind fuel chunkSize rest]

theorem doSplitAndParse_mapFrames (blind : BodyBlind p codes type φ) (parserFuel : Nat)
    (rGarbage : Int) (mode : ChunkMode) (h : Harness) :
    doSplitAndParse p codes parserFuel rGarbage type mode (h.mapFrames φ) =
      doSplitAndParse p codes parserFuel rGarbage type mode h := by
  simp only [doSplitAndParse, Harness.mapFrames, frameLoop_mapFrames p codes type φ blind]
  rfl

theorem tryParseLoop_mapFrames (blind : BodyBlind p codes type φ) (parserFuel : Nat)
    (rGarbage : Int) (mode : ChunkMode) (continues : Int → Bool)
    (testFail : Int → Option (HttpMsg σ) → Bool) :
    ∀ (fuel : Nat) (h : Harness) (msg : Option (HttpMsg σ)),
      tryParseLoop p codes parserFuel rGarbage type mode continues testFail fuel (h.mapFrames φ)
          msg =
        tryParseLoop p codes parserFuel rGarbage type mode continues testFail fuel h msg
  | 0, _, _ => rfl
  | fuel + 1, h, msg => by
      simp only [tryParseLoop, doSplitAndParse_mapFrames p codes type φ blind]
      cases doSplitAndParse p codes parserFuel rGarbage type mode h with
      | error e => rfl
      | ok out =>
          simp only [ok_bind]
          rw [← tryParseLoop_mapFrames blind parserFuel rGarbage mode continues testFail fuel
            { h with chunkSizeIndex := out.chunkSizeIndex }]
          rfl

theorem tryParseLoop_of_mapFrames_eq (blind : BodyBlind p codes type φ) (parserFuel : Nat)
    (rGarbage : Int) (mode : ChunkMode) {h h' : Harness} (same : h.mapFrames φ = h'.mapFrames φ)
    (continues : Int → Bool) (testFail : Int → Option (HttpMsg σ) → Bool) (fuel : Nat)
    (msg : Option (HttpMsg σ)) :
    tryParseLoop p codes parserFuel rGarbage type mode continues testFail fuel h msg =
      tryParseLoop p codes parserFuel rGarbage type mode continues testFail fuel h' msg := by
  rw [← tryParseLoop_mapFrames p codes type φ blind, same,
    tryParseLoop_mapFrames p codes type φ blind]

end Lift

/-! ## One frame -/

section Loop
variable {σ : Type} (parse : List UInt8 → σ → Int × Nat × σ) (postpone : Int)
  (str : List UInt8) (len : Nat)

theorem splitLoop_take : ∀ (fuel pos chunkSize : Nat) (r : Int) (hm : HttpMsg σ),
    splitLoop parse postpone str len fuel pos chunkSize r hm =
      splitLoop parse postpone (str.take len) len fuel pos chunkSize r hm
  | 0, pos, chunkSize, r, hm => by
      by_cases before : pos < len
      · simp only [splitLoop.eq_def, if_pos before]
      · rw [splitLoop_of_not_lt _ _ _ _ _ _ _ before, splitLoop_of_not_lt _ _ _ _ _ _ _ before]
  | fuel + 1, pos, chunkSize, r, hm => by
      by_cases before : pos < len
      · have chunk : ((str.take len).drop pos).take (min chunkSize (len - pos)) =
            (str.drop pos).take (min chunkSize (len - pos)) := by
          rw [List.drop_take, List.take_take, min_eq_left (min_le_right _ _)]
        rw [splitLoop_succ _ _ _ _ _ _ _ before, splitLoop_succ _ _ _ _ _ _ _ before]
        dsimp only
        rw [chunk, splitLoop_take fuel]
      · rw [splitLoop_of_not_lt _ _ _ _ _ _ _ before, splitLoop_of_not_lt _ _ _ _ _ _ _ before]

end Loop

theorem frameBody_visible {σ : Type} (p : Parser σ) (codes : TfwCodes) (type : FuzzType) :
    BodyBlind p codes type TfwFrameRec.visible := by
  intro fuel chunkSize frame hm
  have ctx : setFrameCtx p type frame.visible hm = setFrameCtx p type frame hm := rfl
  have verdict : ∀ r events (hm' : HttpMsg σ),
      frameVerdict p codes type frame.visible r events hm' =
        frameVerdict p codes type frame r events hm' := fun _ _ _ => rfl
  simp only [frameBody, ctx, verdict, TfwFrameRec.visible_len, TfwFrameRec.visible_subtype,
    TfwFrameRec.visible_str, splitAndParseN, ← splitLoop_take]

section Passes
variable {σ : Type} (p : Parser σ) (codes : TfwCodes) (parserFuel : Nat) (rGarbage : Int)
  (type : FuzzType) (mode : ChunkMode)

/-- Two harnesses at the same index and `frames_max_sz` whose frames agree on their first `len`
bytes make the same calls and return the same values, in one pass and in a whole loop: no pass
reads a frame's byte at or past its `len`. -/
theorem doSplitAndParse_reads_within_len {h h' : Harness}
    (sameIndex : h.chunkSizeIndex = h'.chunkSizeIndex) (sameMax : h.framesMaxSz = h'.framesMaxSz)
    (sameBytes : h.table.frames.map TfwFrameRec.visible = h'.table.frames.map TfwFrameRec.visible) :
    (doSplitAndParse p codes parserFuel rGarbage type mode h : Except HarnessStop (DoSplitOut σ)) =
        doSplitAndParse p codes parserFuel rGarbage type mode h' ∧
      ∀ continues testFail fuel msg,
        tryParseLoop p codes parserFuel rGarbage type mode continues testFail fuel h msg =
          tryParseLoop p codes parserFuel rGarbage type mode continues testFail fuel h' msg := by
  have blind := frameBody_visible p codes type
  have same := Harness.mapFrames_eq TfwFrameRec.visible sameIndex sameMax sameBytes
  refine ⟨?_, tryParseLoop_of_mapFrames_eq p codes type _ blind parserFuel rGarbage mode same⟩
  rw [← doSplitAndParse_mapFrames p codes type _ blind, same,
    doSplitAndParse_mapFrames p codes type _ blind]

end Passes

theorem three_byte_request_reads_within_len :
    threeByteRequest.chunkSizeIndex = 0 ∧ threeByteRequest.framesMaxSz = 3 ∧
      threeByteRequest.table.frames.map TfwFrameRec.visible =
        [TfwFrameRec.visible ⟨3, [71, 69, 84, 0, 255], .data⟩] ∧
      ((doSplitAndParse passingParser sampleCodes 3 0 .req .chunkOn threeByteRequest =
          doSplitAndParse passingParser sampleCodes 3 0 .req .chunkOn
            ⟨0, ⟨[⟨3, [71, 69, 84, 0, 255], .data⟩], by decide⟩, 3⟩) ∧
        ∀ continues testFail fuel msg,
          tryParseLoop passingParser sampleCodes 3 0 .req .chunkOn continues testFail fuel
              threeByteRequest msg =
            tryParseLoop passingParser sampleCodes 3 0 .req .chunkOn continues testFail fuel
              ⟨0, ⟨[⟨3, [71, 69, 84, 0, 255], .data⟩], by decide⟩, 3⟩ msg) :=
  ⟨rfl, rfl, by decide, doSplitAndParse_reads_within_len passingParser sampleCodes 3 0 .req .chunkOn
    rfl rfl (by decide)⟩

/-! ## Test strings are C strings -/

def cstr (str : List UInt8) : List UInt8 := str.takeWhile (· != 0)

theorem strlen_eq_length_cstr (str : List UInt8) : strlen str = (cstr str).length := rfl

theorem cstr_cstr (str : List UInt8) : cstr (cstr str) = cstr str := by
  unfold cstr
  exact List.takeWhile_eq_self_iff.mpr fun _ member => (List.mem_takeWhile_imp member :)

theorem take_strlen (str : List UInt8) : str.take (strlen str) = cstr str :=
  (List.prefix_iff_eq_take.mp (List.takeWhile_prefix _)).symm

theorem cstr_of_no_nul {str : List UInt8} (noNul : 0 ∉ str) : cstr str = str :=
  List.takeWhile_eq_self_iff.mpr fun b member => by
    simpa using ne_of_mem_of_not_mem member noNul

theorem cstr_append_of_no_nul {front : List UInt8} (noNul : 0 ∉ front) (back : List UInt8) :
    cstr (front ++ back) = front ++ cstr back :=
  List.takeWhile_append_of_pos fun b member => by
    simpa using ne_of_mem_of_not_mem member noNul

theorem cstr_append_nul {front : List UInt8} (noNul : 0 ∉ front) (back : List UInt8) :
    cstr (front ++ 0 :: back) = front := by
  rw [cstr_append_of_no_nul noNul, cstr, List.takeWhile_cons_of_neg (by decide),
    List.append_nil]

theorem Globals.frames_cons (g : Globals) : ∃ f rest, g.frames = f :: rest :=
  List.exists_cons_of_length_pos (by rw [g.frames_length]; decide)

def Globals.visible (g : Globals) : Globals :=
  { g with
    frames := g.frames.map TfwFrameRec.visible
    frames_length := by rw [List.length_map, g.frames_length] }

theorem Globals.visible_eq_iff {g g' : Globals} : g.visible = g'.visible ↔
    g.builder = g'.builder ∧
      g.frames.map TfwFrameRec.visible = g'.frames.map TfwFrameRec.visible ∧
      g.framesCnt = g'.framesCnt ∧ g.framesMaxSz = g'.framesMaxSz ∧
        g.framesTotalSz = g'.framesTotalSz ∧ g.hmExpLen = g'.hmExpLen := by
  constructor
  · intro same
    exact ⟨(congrArg Globals.builder same :), congrArg Globals.frames same,
      (congrArg Globals.framesCnt same :), (congrArg Globals.framesMaxSz same :),
      (congrArg Globals.framesTotalSz same :), (congrArg Globals.hmExpLen same :)⟩
  · obtain ⟨b, fs, _, c, _, m, t, e⟩ := g
    obtain ⟨b', fs', _, c', _, m', t', e'⟩ := g'
    rintro ⟨rfl, frames, rfl, rfl, rfl, rfl⟩
    simp only [Globals.visible] at frames ⊢
    simp only [frames]

theorem Globals.harness_visible {g g' : Globals} (same : g.visible = g'.visible) (i : Nat) :
    Harness.mapFrames TfwFrameRec.visible { g.harness with chunkSizeIndex := i } =
      Harness.mapFrames TfwFrameRec.visible { g'.harness with chunkSizeIndex := i } := by
  obtain ⟨-, frames, cnt, maxSz, -⟩ := Globals.visible_eq_iff.mp same
  refine Harness.mapFrames_eq _ rfl maxSz ?_
  simp only [Globals.harness, List.map_take, frames, cnt]

theorem testCaseParsePrepareHttp_visible (str : List UInt8) (szDiff : UInt64) {g g' : Globals}
    (same : g.visible = g'.visible) :
    (testCaseParsePrepareHttp str szDiff g).visible =
      (testCaseParsePrepareHttp (cstr str) szDiff g').visible := by
  obtain ⟨builder, frames, -, -, -, -⟩ := Globals.visible_eq_iff.mp same
  have sameLen : strlen (cstr str) = strlen str := by
    rw [strlen_eq_length_cstr, cstr_cstr, ← strlen_eq_length_cstr]
  refine Globals.visible_eq_iff.mpr ⟨builder, ?_, rfl, sameLen.symm, sameLen.symm, by
    simp only [testCaseParsePrepareHttp, sameLen]⟩
  obtain ⟨f, rest, split⟩ := g.frames_cons
  obtain ⟨f', rest', split'⟩ := g'.frames_cons
  rw [split, split', List.map_cons, List.map_cons, List.cons.injEq] at frames
  have subtype : f.subtype = f'.subtype := (congrArg TfwFrameRec.subtype frames.1 :)
  simp only [testCaseParsePrepareHttp, split, split', List.modifyHead_cons, List.map_cons,
    frames.2, List.cons.injEq, and_true, TfwFrameRec.visible]
  rw [take_strlen, take_strlen, cstr_cstr, sameLen, subtype]

theorem testCaseParsePrepare_visible (type : FuzzType) (str : List UInt8) (szDiff : UInt64)
    {g g' : Globals} (same : g.visible = g'.visible) :
    (testCaseParsePrepare type str szDiff g).visible =
      (testCaseParsePrepare type (cstr str) szDiff g').visible := by
  unfold testCaseParsePrepare
  split_ifs
  · obtain ⟨builder, frames, cnt, maxSz, totalSz, -⟩ := Globals.visible_eq_iff.mp same
    exact Globals.visible_eq_iff.mpr ⟨builder, frames, cnt, maxSz, totalSz, totalSz⟩
  · exact testCaseParsePrepareHttp_visible str szDiff same

theorem Globals.withBlock_visible {g g' : Globals} (same : g.visible = g'.visible) (b : H2Builder) :
    (g.withBlock b).visible = (g'.withBlock b).visible := by
  obtain ⟨-, frames, -⟩ := Globals.visible_eq_iff.mp same
  refine Globals.visible_eq_iff.mpr ⟨rfl, ?_, rfl, rfl, rfl, ?_⟩
  · simp only [Globals.withBlock, List.map_append, List.map_drop, frames]
  · exact (Globals.visible_eq_iff.mp same).2.2.2.2.2

def TestMacro.cutAtNul : TestMacro → TestMacro
  | .forReq str szDiff type mode => .forReq (cstr str) szDiff type mode
  | .forReqH2 block => .forReqH2 block
  | .expectBlockReq str type mode => .expectBlockReq (cstr str) type mode
  | .expectBlockReqH2 block => .expectBlockReqH2 block
  | .forResp str szDiff mode => .forResp (cstr str) szDiff mode
  | .expectBlockResp str => .expectBlockResp (cstr str)

/-- A run as the tests after it and a reader of its calls see it: the globals up to the memory
no test reads. -/
def seen {α : Type} (run : Except HarnessStop (Globals × α)) :
    Except HarnessStop (Globals × α) :=
  run.map fun out => (out.1.visible, out.2)

theorem seen_map {α : Type} (g : Globals) (run : Except HarnessStop α) :
    seen (run.map (g, ·)) = run.map (g.visible, ·) := by
  cases run <;> rfl

theorem seen_bind {α β : Type} {run run' : Except HarnessStop (Globals × α)}
    {next next' : Globals × α → Except HarnessStop (Globals × β)}
    (same : seen run = seen run')
    (sameNext : ∀ out out', out.1.visible = out'.1.visible → out.2 = out'.2 →
      seen (next out) = seen (next' out')) :
    seen (run >>= next) = seen (run' >>= next') := by
  cases run with
  | error e =>
      cases run' with
      | error e' =>
          cases same
          rfl
      | ok out' => cases same
  | ok out =>
      cases run' with
      | error e' => cases same
      | ok out' =>
          obtain ⟨sameOut, sameCalls⟩ := Prod.mk.inj (Except.ok.inj same)
          simpa only [ok_bind] using sameNext out out' sameOut sameCalls

section Run
variable {σ : Type} (p : Parser σ) (codes : TfwCodes) (parserFuel : Nat) (rGarbage : Int)
  (writeInt : Nat → List UInt8)

theorem forReqPass_seen (type : FuzzType) (mode : ChunkMode) {g g' : Globals}
    (same : g.visible = g'.visible) :
    seen (forReqPass p codes parserFuel rGarbage type mode g) =
      seen (forReqPass p codes parserFuel rGarbage type mode g') := by
  have expLen := (Globals.visible_eq_iff.mp same).2.2.2.2.2
  simp only [forReqPass, forReqLoop, expLen, seen_map, same]
  rw [tryParseLoop_of_mapFrames_eq p codes type _ (frameBody_visible p codes type) parserFuel
    rGarbage mode (Globals.harness_visible same 0)]

theorem expectBlockPass_seen (type : FuzzType) (mode : ChunkMode) {g g' : Globals}
    (same : g.visible = g'.visible) :
    seen (expectBlockPass p codes parserFuel rGarbage type mode g) =
      seen (expectBlockPass p codes parserFuel rGarbage type mode g') := by
  simp only [expectBlockPass, expectBlockReqLoop, seen_map, same]
  rw [tryParseLoop_of_mapFrames_eq p codes type _ (frameBody_visible p codes type) parserFuel
    rGarbage mode (Globals.harness_visible same 0)]

theorem runTest_seen {g g' : Globals} (same : g.visible = g'.visible) (t : TestMacro) :
    seen (runTest p codes parserFuel rGarbage writeInt g t) =
      seen (runTest p codes parserFuel rGarbage writeInt g' t.cutAtNul) := by
  have builder := (Globals.visible_eq_iff.mp same).1
  cases t with
  | forReq str szDiff type mode =>
      exact forReqPass_seen p codes parserFuel rGarbage type mode
        (testCaseParsePrepare_visible type str szDiff same)
  | expectBlockReq str type mode =>
      exact expectBlockPass_seen p codes parserFuel rGarbage type mode
        (testCaseParsePrepare_visible type str 0 same)
  | forResp str szDiff mode =>
      exact forReqPass_seen p codes parserFuel rGarbage .resp mode
        (testCaseParsePrepareHttp_visible str szDiff same)
  | expectBlockResp str =>
      exact expectBlockPass_seen p codes parserFuel rGarbage .resp .chunkOn
        (testCaseParsePrepareHttp_visible str 0 same)
  | forReqH2 block =>
      simp only [runTest, TestMacro.cutAtNul, h2BuilderBlock, builder]
      cases forReqH2Build writeInt block g'.builder with
      | error e => rfl
      | ok b =>
          exact forReqPass_seen p codes parserFuel rGarbage .reqH2 .chunkOn
            (testCaseParsePrepare_visible .reqH2 [] 0 (Globals.withBlock_visible same b))
  | expectBlockReqH2 block =>
      simp only [runTest, TestMacro.cutAtNul, h2BuilderBlock, builder]
      cases forReqH2Build writeInt block g'.builder with
      | error e => rfl
      | ok b =>
          exact expectBlockPass_seen p codes parserFuel rGarbage .reqH2 .chunkOn
            (testCaseParsePrepare_visible .reqH2 [] 0 (Globals.withBlock_visible same b))

theorem runTests_seen : ∀ (tests : List TestMacro) {g g' : Globals}, g.visible = g'.visible →
    seen (runTests p codes parserFuel rGarbage writeInt g tests) =
      seen (runTests p codes parserFuel rGarbage writeInt g' (tests.map TestMacro.cutAtNul))
  | [], _, _, same => by simp [runTests, seen, Except.map, same]
  | t :: ts, g, g', same => by
      simp only [runTests, List.map_cons]
      refine seen_bind (runTest_seen p codes parserFuel rGarbage writeInt same t)
        fun out out' sameOut sameCalls => seen_bind (runTests_seen ts sameOut)
          fun later later' sameLater sameLaterCalls => ?_
      simp [seen, pure, Except.pure, Except.map, sameLater, sameLaterCalls, sameCalls]

/-- A test case makes the same calls, and leaves the globals the same up to memory no test
reads, when every test string is cut at its first NUL: no test hands the parser a byte at or
after a NUL of its string. -/
theorem runTests_cut_at_nul (g : Globals) (tests : List TestMacro) :
    seen (runTests p codes parserFuel rGarbage writeInt g tests) =
      seen (runTests p codes parserFuel rGarbage writeInt g (tests.map TestMacro.cutAtNul)) :=
  runTests_seen p codes parserFuel rGarbage writeInt tests rfl

end Run

/-! ## `COMMON_ETAG_BLOCK` -/

def lit (s : String) : List UInt8 := s.toList.map fun c => c.toNat.toUInt8

/-- The values `COMMON_ETAG_BLOCK` appends to `head`, in order. -/
def commonEtagValues : List (List UInt8) :=
  ["\"dummy", "dummy\"", "\x27dummy\x27", "W/ \"dummy\"", "w/\"dummy\"", "\"\x00\"", "\"\x0F\"",
    "\"\x7F\"", "\" \"", "\"\"\""].map lit

/-- `COMMON_ETAG_BLOCK(head, BLOCK_MACRO)`. -/
def commonEtagBlock (head : List UInt8) (blockMacro : List UInt8 → TestMacro) : List TestMacro :=
  commonEtagValues.map fun value => blockMacro (head ++ value)

theorem block_cut_at_nul (mk : List UInt8 → TestMacro)
    (cuts : ∀ s, (mk s).cutAtNul = mk (cstr s))
    {pre head post : List UInt8} (noNul : 0 ∉ pre ++ head ++ post) (values : List (List UInt8))
    (i : Nat) (front back : List UInt8) (nulAt : values[i]? = some (front ++ 0 :: back))
    (noNulFront : 0 ∉ front)
    (others : ∀ (j : Nat) (h : j < values.length), j ≠ i → 0 ∉ values[j]) :
    (values.map fun value => mk (pre ++ (head ++ value) ++ post)).map TestMacro.cutAtNul =
      (values.map fun value => mk (pre ++ (head ++ value) ++ post)).set i
        (mk (pre ++ head ++ front)) := by
  simp only [List.mem_append, not_or] at noNul
  obtain ⟨⟨noNulPre, noNulHead⟩, noNulPost⟩ := noNul
  refine List.ext_getElem (by simp) fun j inMap inSet => ?_
  have inValues : j < values.length := by simpa using inMap
  simp only [List.getElem_set, List.getElem_map]
  rw [cuts, List.append_assoc, List.append_assoc, cstr_append_of_no_nul noNulPre,
    cstr_append_of_no_nul noNulHead]
  split_ifs with atNul
  · subst atNul
    rw [List.getElem?_eq_getElem inValues, Option.some.injEq] at nulAt
    rw [nulAt, List.append_assoc, List.cons_append, cstr_append_nul noNulFront, List.append_assoc]
  · rw [cstr_append_of_no_nul (others j inValues (Ne.symm atNul)), cstr_of_no_nul noNulPost]

section Etag
variable {σ : Type} (p : Parser σ) (codes : TfwCodes) (parserFuel : Nat) (rGarbage : Int)
  (writeInt : Nat → List UInt8)

/-- `COMMON_ETAG_BLOCK(head, BLOCK_MACRO)` where `BLOCK_MACRO` is a string test of `pre`, its
argument and `post`, none of them with a NUL: the test of the value `"\x00"` makes the calls of
a test of `pre`, `head` and one quote, with neither the value's closing quote nor `post`.  The
whole test case runs alike with that test replaced. -/
theorem commonEtagBlock_cut_at_nul (mk : List UInt8 → TestMacro)
    (cuts : ∀ s, (mk s).cutAtNul = mk (cstr s)) {pre head post : List UInt8}
    (noNul : 0 ∉ pre ++ head ++ post) (g : Globals) :
    seen (runTests p codes parserFuel rGarbage writeInt g
        (commonEtagBlock head fun s => mk (pre ++ s ++ post))) =
      seen (runTests p codes parserFuel rGarbage writeInt g
        ((commonEtagBlock head fun s => mk (pre ++ s ++ post)).set 5
          (mk (pre ++ head ++ lit "\""))))
    := by
  have cut := block_cut_at_nul mk cuts noNul commonEtagValues 5 (lit "\"") [34] (by decide)
    (by decide) (by decide)
  have quote : (mk (pre ++ head ++ lit "\"")).cutAtNul = mk (pre ++ head ++ lit "\"") := by
    refine (cuts _).trans (congrArg mk (cstr_of_no_nul ?_))
    simp only [List.mem_append, not_or] at noNul ⊢
    exact ⟨noNul.1, by decide⟩
  calc _ = seen (runTests p codes parserFuel rGarbage writeInt g
          ((commonEtagBlock head fun s => mk (pre ++ s ++ post)).map TestMacro.cutAtNul)) :=
        runTests_seen p codes parserFuel rGarbage writeInt _ rfl
    _ = seen (runTests p codes parserFuel rGarbage writeInt g
          (((commonEtagBlock head fun s => mk (pre ++ s ++ post)).set 5
            (mk (pre ++ head ++ lit "\""))).map TestMacro.cutAtNul)) := by
        rw [List.map_set, commonEtagBlock, cut, List.set_set, quote]
    _ = _ := (runTests_seen p codes parserFuel rGarbage writeInt _ rfl).symm

end Etag

theorem if_none_match_nul_test :
    (∀ s, (TestMacro.expectBlockReq s .req .chunkOn).cutAtNul =
      .expectBlockReq (cstr s) .req .chunkOn) ∧
    0 ∉ lit "GET / HTTP/1.1\r\n" ++ lit "If-None-Match: " ++ lit "\r\n\r\n" ∧
    seen (runTests passingParser sampleCodes FRAMES_STR_BUF_SIZE 0 (hpackInt 0x7F 0)
        (Globals.initial .data) (commonEtagBlock (lit "If-None-Match: ") fun s =>
          .expectBlockReq (lit "GET / HTTP/1.1\r\n" ++ s ++ lit "\r\n\r\n") .req .chunkOn)) =
      seen (runTests passingParser sampleCodes FRAMES_STR_BUF_SIZE 0 (hpackInt 0x7F 0)
        (Globals.initial .data) ((commonEtagBlock (lit "If-None-Match: ") fun s =>
          .expectBlockReq (lit "GET / HTTP/1.1\r\n" ++ s ++ lit "\r\n\r\n") .req .chunkOn).set 5
            (.expectBlockReq (lit "GET / HTTP/1.1\r\n" ++ lit "If-None-Match: " ++ lit "\"") .req
              .chunkOn))) :=
  ⟨fun _ => rfl, by decide, commonEtagBlock_cut_at_nul passingParser sampleCodes
    FRAMES_STR_BUF_SIZE 0 (hpackInt 0x7F 0) (fun s => .expectBlockReq s .req .chunkOn)
    (fun _ => rfl) (by decide) _⟩

end TempestaFw.ParserTest
