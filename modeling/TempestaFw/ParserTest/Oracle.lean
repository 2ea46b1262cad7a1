import TempestaFw.ParserTest.Driver

/-!
# What an `__EXPECT_BLOCK_REQ` loop checks

`TRY_PARSE_EXPECT_BLOCK` runs `TEST_FAIL` when a pass returns `TFW_PASS`, and the loop of
`__EXPECT_BLOCK_REQ` goes on while passes return `TFW_BLOCK` or `TFW_POSTPONE`.

`tryParseLoop_closed`: on a table of non-empty frames, every value a pass returns is one that the
parser's entry points, `tfw_h2_parse_req_finish`, the method check or the end of the sizes can
return, for any property those values share.
`expectBlockReqLoop_accepts_never_pass`: so a parser that never returns `TFW_PASS` passes every
`__EXPECT_BLOCK_REQ` and `EXPECT_BLOCK_RESP` loop on non-empty frames, one that blocks nothing
and postpones every slice included: the tests check that no pass is accepted, not that the
message is blocked.
-/

set_option autoImplicit false

namespace TempestaFw.ParserTest

section Split
variable {σ : Type} (parse : List UInt8 → σ → Int × Nat × σ) (postpone : Int)
  (str : List UInt8) (len : Nat) (V : Int → Prop)

theorem splitLoop_r_of_not_lt {fuel pos chunkSize : Nat} {r : Int} {hm : HttpMsg σ}
    {out : SplitOut σ} (after : ¬ pos < len)
    (ran : splitLoop parse postpone str len fuel pos chunkSize r hm = .ok out) : out.r = r := by
  rw [splitLoop_of_not_lt _ _ _ _ _ _ _ after] at ran
  split_ifs at ran
  cases ran
  rfl

theorem splitLoop_closed (parsed : ∀ data st, V (parse data st).1) {fuel pos chunkSize : Nat}
    {r : Int} {hm : HttpMsg σ} {out : SplitOut σ} (start : V r ∨ pos < len)
    (ran : splitLoop parse postpone str len fuel pos chunkSize r hm = .ok out) : V out.r := by
  induction fuel generalizing pos chunkSize r hm out with
  | zero =>
      by_cases before : pos < len
      · simp [splitLoop.eq_def, before] at ran
      · rw [splitLoop_r_of_not_lt parse postpone str len before ran]
        exact start.resolve_right before
  | succ fuel inductionHypothesis =>
      by_cases before : pos < len
      · rw [splitLoop_succ _ _ _ _ _ _ _ before] at ran
        dsimp only at ran
        split_ifs at ran
        · cases ran
          exact parsed _ _
        · obtain ⟨rest, restRan, rfl⟩ := except_map_eq_ok.mp ran
          have later := inductionHypothesis (.inl (parsed _ _)) restRan
          exact later
      · rw [splitLoop_r_of_not_lt parse postpone str len before ran]
        exact start.resolve_right before

end Split

section Pass
variable {σ : Type} (p : Parser σ) (codes : TfwCodes) (fuel : Nat) (type : FuzzType)
  (chunkSize : Nat) (V : Int → Prop)

theorem frameBody_closed (parsed : ∀ data st, V (p.parseFor type data st).1)
    (blocked : V codes.block) (frame : TfwFrameRec) (filled : 0 < frame.len) (hm : HttpMsg σ)
    {out : FrameOut σ} (ran : frameBody p codes fuel type chunkSize frame hm = .ok out) :
    V out.r := by
  rw [frameBody, if_neg fun emptyData => by omega] at ran
  obtain ⟨split, splitRan, rfl⟩ := except_map_eq_ok.mp ran
  rcases frameVerdict_r p codes type frame split.r
    [.split frame.len chunkSize split.slices split.r (setFrameCtx p type frame hm).len
      split.msg.len] split.msg with same | ⟨isBlock, -⟩
  · rw [same]
    exact splitLoop_closed _ _ _ _ V parsed (.inr filled) splitRan
  · rw [isBlock]
    exact blocked

theorem frameLoop_closed (parsed : ∀ data st, V (p.parseFor type data st).1)
    (blocked : V codes.block) :
    ∀ (frames : List TfwFrameRec) (r0 : Int) (hm : HttpMsg σ)
      {looped : Int × List HarnessEvent × HttpMsg σ}, (∀ f ∈ frames, 0 < f.len) →
      V r0 ∨ frames ≠ [] →
      frameLoop p codes fuel type chunkSize frames r0 hm = .ok looped → V looped.1
  | [], _, _, _, _, start, ran => by
      cases ran
      exact start.resolve_right (by simp)
  | frame :: rest, _, hm, _, filled, _, ran => by
      rw [frameLoop] at ran
      cases body : frameBody p codes fuel type chunkSize frame hm with
      | error e =>
          rw [body] at ran
          cases ran
      | ok out =>
          rw [body] at ran
          dsimp only at ran
          have here := frameBody_closed p codes fuel type chunkSize V parsed blocked frame
            (filled frame (List.mem_cons_self _ _)) hm body
          split_ifs at ran
          · obtain ⟨later, laterRan, rfl⟩ := except_map_eq_ok.mp ran
            have later := frameLoop_closed parsed blocked rest out.r out.msg
              (fun f member => filled f (List.mem_cons_of_mem _ member)) (.inl here) laterRan
            exact later
          · cases ran
            exact here

end Pass

section Passes
variable {σ : Type} (p : Parser σ) (codes : TfwCodes) (parserFuel : Nat) (rGarbage : Int)
  (type : FuzzType) (mode : ChunkMode) (V : Int → Prop)

/-- The shape of a table whose frames `do_split_and_parse` hands to the parser. -/
structure Filled (h : Harness) : Prop where
  nonempty : h.table.frames ≠ []
  len_pos : ∀ f ∈ h.table.frames, 0 < f.len

theorem doSplitAndParse_closed (parsed : ∀ data st, V (p.parseFor type data st).1)
    (blocked : V codes.block) (finished : type = .reqH2 → ∀ st, V (p.h2ParseReqFinish st).1)
    (ended : V 1) {h : Harness} (filled : Filled h) {out : DoSplitOut σ}
    (ran : doSplitAndParse p codes parserFuel rGarbage type mode h = .ok out) : V out.r := by
  unfold doSplitAndParse at ran
  split_ifs at ran
  · cases ran
    exact ended
  cases chosen : chunkSizeFor mode h with
  | none =>
      rw [chosen] at ran
      cases ran
  | some c =>
      rw [chosen] at ran
      obtain ⟨looped, loopRan, rfl⟩ := except_map_eq_ok.mp ran
      by_cases finishing : type = .reqH2 ∧ looped.1 = codes.postpone
      · simp only [if_pos finishing]
        exact finished finishing.1 _
      · simp only [if_neg finishing]
        exact frameLoop_closed p codes parserFuel type c V parsed blocked h.table.frames rGarbage _
          filled.len_pos (.inr filled.nonempty) loopRan

theorem tryParseLoop_closed (parsed : ∀ data st, V (p.parseFor type data st).1)
    (blocked : V codes.block) (finished : type = .reqH2 → ∀ st, V (p.h2ParseReqFinish st).1)
    (ended : V 1) (continues : Int → Bool) (testFail : Int → Option (HttpMsg σ) → Bool) :
    ∀ (fuel : Nat) (h : Harness) (msg : Option (HttpMsg σ)) {records : List TryRecord},
      Filled h →
      tryParseLoop p codes parserFuel rGarbage type mode continues testFail fuel h msg =
        .ok records →
      ∀ record ∈ records, V record.r ∧ ∃ m, record.testFail = testFail record.r m
  | 0, _, _, _, _, ran => by cases ran
  | fuel + 1, h, msg, _, filled, ran => by
      rw [tryParseLoop] at ran
      cases pass : doSplitAndParse p codes parserFuel rGarbage type mode h with
      | error e =>
          rw [pass] at ran
          cases ran
      | ok out =>
          rw [pass, ok_bind] at ran
          dsimp only at ran
          have here := doSplitAndParse_closed p codes parserFuel rGarbage type mode V parsed blocked
            finished ended filled pass
          intro record member
          by_cases going : continues out.r
          · rw [if_pos going] at ran
            obtain ⟨later, laterRan, rfl⟩ := except_map_eq_ok.mp ran
            rcases List.mem_cons.mp member with rfl | member
            · exact ⟨here, _, rfl⟩
            · exact tryParseLoop_closed parsed blocked finished ended continues testFail fuel
                { h with chunkSizeIndex := out.chunkSizeIndex } _
                ⟨filled.nonempty, filled.len_pos⟩ laterRan record member
          · rw [if_neg going] at ran
            cases ran
            rw [List.mem_singleton.mp member]
            exact ⟨here, _, rfl⟩

/-- A parser that never returns `TFW_PASS`, neither from its entry point for `type` nor, for an
HTTP/2 request, from `tfw_h2_parse_req_finish`, passes the loop of `__EXPECT_BLOCK_REQ` (and of
`EXPECT_BLOCK_RESP`) on every table of non-empty frames that fit in `frames_max_sz`: the loop
ends after at most `CHUNK_SIZE_CNT + 1` passes with the sizes `ChunkSchedule` gives, and no pass
runs `TEST_FAIL`.  A parser that blocks nothing and postpones every slice is such a parser. -/
theorem expectBlockReqLoop_accepts_never_pass
    (neverPass : ∀ data st, (p.parseFor type data st).1 ≠ codes.pass)
    (finishNeverPass : type = .reqH2 → ∀ st, (p.h2ParseReqFinish st).1 ≠ codes.pass)
    (blockNotPass : codes.block ≠ codes.pass) (passNotEnd : codes.pass ≠ 1)
    (blockNotEnd : codes.block ≠ 1) (postponeNotEnd : codes.postpone ≠ 1) (h : Harness)
    (msg : Option (HttpMsg σ)) (filled : Filled h)
    (fitting : ∀ f ∈ h.table.frames, f.len ≤ h.framesMaxSz)
    (enough : h.framesMaxSz ≤ parserFuel) :
    ∃ records, expectBlockReqLoop p codes parserFuel rGarbage type mode h msg = .ok records ∧
      records.length ≤ CHUNK_SIZE_CNT + 1 ∧
      ChunkSchedule mode { h with chunkSizeIndex := 0 } (records.filterMap TryRecord.chunkSize) ∧
      ∀ record ∈ records, record.testFail = false := by
  obtain ⟨records, ran, counted, scheduled⟩ := tryParseLoop_ends p codes parserFuel rGarbage
    type mode (fun r => decide (r = codes.block ∨ r = codes.postpone))
    (fun r _ => decide (r = codes.pass)) (by simp [blockNotEnd.symm, postponeNotEnd.symm])
    (CHUNK_SIZE_CNT + 1) { h with chunkSizeIndex := 0 } msg fitting enough (Nat.zero_le _) le_rfl
  refine ⟨records, ran, counted, scheduled, fun record member => ?_⟩
  obtain ⟨notPass, m, failed⟩ := tryParseLoop_closed p codes parserFuel rGarbage type mode
    (· ≠ codes.pass) neverPass blockNotPass finishNeverPass passNotEnd.symm _ _ _
    { h with chunkSizeIndex := 0 } msg ⟨filled.nonempty, filled.len_pos⟩ ran record member
  rw [failed]
  exact decide_eq_false notPass

end Passes

/-- A parser that takes every slice whole and asks for more: it blocks nothing. -/
def postponingParser : Parser Unit where
  alloc _ _ := ⟨0, ()⟩
  parseReq data st := (-1, data.length, st)
  h2ParseReq data st := (-1, data.length, st)
  parseResp data st := (-1, data.length, st)
  setFrame _ _ st := st
  checkBodylessMeth _ := false
  setHeadersParsed st := st
  h2ParseReqFinish st := (-1, st)

theorem postponing_parser_passes_expect_block :
    (∀ data st, (postponingParser.parseFor .req data st).1 ≠ sampleCodes.pass) ∧
    (FuzzType.req = .reqH2 →
      ∀ st, (postponingParser.h2ParseReqFinish st).1 ≠ sampleCodes.pass) ∧
    sampleCodes.block ≠ sampleCodes.pass ∧
    sampleCodes.pass ≠ 1 ∧ sampleCodes.block ≠ 1 ∧ sampleCodes.postpone ≠ 1 ∧
    Filled threeByteRequest ∧
    (∀ f ∈ threeByteRequest.table.frames, f.len ≤ threeByteRequest.framesMaxSz) ∧
    threeByteRequest.framesMaxSz ≤ 3 ∧
    ∃ records, expectBlockReqLoop postponingParser sampleCodes 3 0 .req .chunkOn threeByteRequest
        none = .ok records ∧
      records.length ≤ CHUNK_SIZE_CNT + 1 ∧
      ChunkSchedule .chunkOn { threeByteRequest with chunkSizeIndex := 0 }
        (records.filterMap TryRecord.chunkSize) ∧
      ∀ record ∈ records, record.testFail = false :=
  have neverPass : ∀ data st, (postponingParser.parseFor .req data st).1 ≠ sampleCodes.pass :=
    fun _ _ => show (-1 : Int) ≠ 0 by decide
  have finishNeverPass : FuzzType.req = .reqH2 →
      ∀ st, (postponingParser.h2ParseReqFinish st).1 ≠ sampleCodes.pass :=
    fun _ _ => show (-1 : Int) ≠ 0 by decide
  have filled : Filled threeByteRequest := ⟨by decide, by decide⟩
  ⟨neverPass, finishNeverPass, by decide, by decide, by decide, by decide, filled, by decide,
    le_rfl,
    expectBlockReqLoop_accepts_never_pass postponingParser sampleCodes 3 0 .req .chunkOn neverPass
      finishNeverPass (by decide) (by decide) (by decide) (by decide) threeByteRequest none filled
      (by decide) le_rfl⟩

end TempestaFw.ParserTest
