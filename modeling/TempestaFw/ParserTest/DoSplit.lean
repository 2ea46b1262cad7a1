import TempestaFw.ParserTest.Split

/-!
# `do_split_and_parse`: one pass of the harness over the frame table

One call allocates a fresh message, picks the chunk size of this pass, runs
`split_and_parse_n` on every frame until a verdict other than `TFW_POSTPONE`, checks the method
after an HTTP/2 `HEADERS` frame, finishes an HTTP/2 request still postponed, and moves
`chunk_size_index` on.  The model logs every call it makes (`HarnessEvent`).

`doSplitAndParse_feeds`: on a frame table whose frames fit in `frames_max_sz`, the call returns,
and every frame handed to `split_and_parse_n` is fed as `FeedsInSlices` says.
`doSplitAndParse_verdict`: on a non-empty table the value returned is the end-of-sizes `1`, a
verdict a parser call returned, the `TFW_BLOCK` of the method check, or the initial `TFW_PASS`
of `split_and_parse_n` on an empty frame, which calls no parser at all
(`empty_frame_pass_without_parser_call`).
-/

set_option autoImplicit false

namespace TempestaFw.ParserTest

def CHUNK_SIZES : List Nat := [1, 2, 3, 4, 8, 16, 32, 64, 128, 256, 1500, 9216, 1024 * 1024]

def CHUNK_SIZE_CNT : Nat := CHUNK_SIZES.length

/-- `CHUNK_OFF` and `CHUNK_ON`. -/
inductive ChunkMode where
  | chunkOff
  | chunkOn
  deriving DecidableEq, Repr

/-- `TfwFrameRec`: `str` is the memory the record points at. -/
structure TfwFrameRec where
  len : Nat
  str : List UInt8
  subtype : TfwFrameType
  deriving DecidableEq, Repr

structure FrameTable where
  frames : List TfwFrameRec
  cnt_le : frames.length ≤ 2

/-- The globals `do_split_and_parse` reads besides the message. -/
structure Harness where
  chunkSizeIndex : Nat
  table : FrameTable
  framesMaxSz : Nat

/-- The calls one `do_split_and_parse` makes: `split_and_parse_n` on a frame of `len` bytes
with chunk size `c` (its parser calls, its verdict, and `msg.len` before and after it),
`tfw_http_parse_check_bodyless_meth`, and `tfw_h2_parse_req_finish`. -/
inductive HarnessEvent where
  | split (len c : Nat) (slices : List Slice) (r : Int) (lenBefore lenAfter : Nat)
  | bodyless (verdict : Bool)
  | finish (r : Int)
  deriving DecidableEq, Repr

def HarnessEvent.verdicts : HarnessEvent → List Int
  | .split _ _ slices _ _ _ => slices.map Slice.r
  | .bodyless _ => []
  | .finish r => [r]

def calledVerdicts (events : List HarnessEvent) : List Int :=
  events.flatMap HarnessEvent.verdicts

/-- The chunk size of the pass: `frames_max_sz`, or `CHUNK_SIZES[chunk_size_index]` (`none`
when that reads past the array). -/
def chunkSizeFor (mode : ChunkMode) (h : Harness) : Option Nat :=
  match mode with
  | .chunkOff => some h.framesMaxSz
  | .chunkOn => CHUNK_SIZES[h.chunkSizeIndex]?

structure FrameOut (σ : Type) where
  r : Int
  events : List HarnessEvent
  msg : HttpMsg σ
  continues : Bool

section Pass
variable {σ : Type} (p : Parser σ) (codes : TfwCodes) (fuel : Nat) (type : FuzzType)
  (chunkSize : Nat)

/-- The frame loop's body from `if (r != TFW_POSTPONE) break;` on, given the frame's verdict. -/
def frameVerdict (frame : TfwFrameRec) (r : Int) (events : List HarnessEvent)
    (hm : HttpMsg σ) : FrameOut σ :=
  if r ≠ codes.postpone then ⟨r, events, hm, false⟩
  else if type = .reqH2 ∧ frame.subtype = .headers then
    if p.checkBodylessMeth hm.state then ⟨codes.block, events ++ [.bodyless true], hm, false⟩
    else ⟨r, events ++ [.bodyless false], { hm with state := p.setHeadersParsed hm.state }, true⟩
  else ⟨r, events, hm, true⟩

/-- `ctx->hdr.type = frame.subtype; ctx->plen = frame.len;` for an HTTP/2 request. -/
def setFrameCtx (frame : TfwFrameRec) (hm : HttpMsg σ) : HttpMsg σ :=
  if type = .reqH2 then { hm with state := p.setFrame frame.subtype frame.len hm.state } else hm

/-- The body of `for (frame_index = 0; frame_index < frames_cnt; ++frame_index)` for one
frame. -/
def frameBody (frame : TfwFrameRec) (hm : HttpMsg σ) : Except HarnessStop (FrameOut σ) :=
  let hm := setFrameCtx p type frame hm
  if type = .reqH2 ∧ frame.subtype = .data ∧ frame.len = 0 then
    .ok (frameVerdict p codes type frame codes.postpone [] hm)
  else
    (splitAndParseN p codes fuel frame.str type frame.len chunkSize hm).map fun out =>
      frameVerdict p codes type frame out.r
        [.split frame.len chunkSize out.slices out.r hm.len out.msg.len] out.msg

def frameLoop : List TfwFrameRec → Int → HttpMsg σ →
    Except HarnessStop (Int × List HarnessEvent × HttpMsg σ)
  | [], r, hm => .ok (r, [], hm)
  | frame :: rest, _, hm =>
    match frameBody p codes fuel type chunkSize frame hm with
    | .error e => .error e
    | .ok out =>
      if out.continues then
        (frameLoop rest out.r out.msg).map fun later => (later.1, out.events ++ later.2.1, later.2.2)
      else .ok (out.r, out.events, out.msg)

end Pass

structure DoSplitOut (σ : Type) where
  r : Int
  events : List HarnessEvent
  msg : Option (HttpMsg σ)
  chunkSizeIndex : Nat

/-- `do_split_and_parse(type, chunk_mode)`; `rGarbage` is the value `r` holds before anything is
assigned to it. -/
def doSplitAndParse {σ : Type} (p : Parser σ) (codes : TfwCodes) (fuel : Nat) (rGarbage : Int)
    (type : FuzzType) (mode : ChunkMode) (h : Harness) : Except HarnessStop (DoSplitOut σ) :=
  if h.chunkSizeIndex = CHUNK_SIZE_CNT then .ok ⟨1, [], none, h.chunkSizeIndex⟩
  else
    match chunkSizeFor mode h with
    | none => .error .outOfRange
    | some chunkSize =>
      (frameLoop p codes fuel type chunkSize h.table.frames rGarbage
          (p.alloc type h.framesMaxSz)).map fun looped =>
        let next := if mode = .chunkOff ∨ chunkSize ≥ h.framesMaxSz then CHUNK_SIZE_CNT
          else h.chunkSizeIndex + 1
        if type = .reqH2 ∧ looped.1 = codes.postpone then
          let finished := p.h2ParseReqFinish looped.2.2.state
          ⟨finished.1, looped.2.1 ++ [.finish finished.1],
            some { looped.2.2 with state := finished.2 }, next⟩
        else ⟨looped.1, looped.2.1, some looped.2.2, next⟩

/-! ## Every frame handed to `split_and_parse_n` is fed in slices -/

/-- Every `split_and_parse_n` run among `events` was on one of `frames` with chunk size `c`,
fed that frame's bytes to `parse` as `FeedsInSlices` says, and grew `msg.len` by the reported
`parsed` counts. -/
def SplitsFeed {σ : Type} (codes : TfwCodes) (parse : List UInt8 → σ → Int × Nat × σ) (c : Nat)
    (frames : List TfwFrameRec) (events : List HarnessEvent) : Prop :=
  ∀ len c' slices r before after, HarnessEvent.split len c' slices r before after ∈ events →
    c' = c ∧ (∃ f ∈ frames, f.len = len ∧ FeedsInSlices parse codes f.str c len slices r) ∧
      after = before + (slices.map Slice.parsed).sum

section Feeds
variable {σ : Type} {codes : TfwCodes} {parse : List UInt8 → σ → Int × Nat × σ} {c : Nat}

theorem SplitsFeed.append {frames : List TfwFrameRec} {first second : List HarnessEvent}
    (feedsFirst : SplitsFeed codes parse c frames first)
    (feedsSecond : SplitsFeed codes parse c frames second) :
    SplitsFeed codes parse c frames (first ++ second) := by
  intro len c' slices r before after member
  rcases List.mem_append.mp member with inFirst | inSecond
  · exact feedsFirst len c' slices r before after inFirst
  · exact feedsSecond len c' slices r before after inSecond

theorem SplitsFeed.mono {frames frames' : List TfwFrameRec} {events : List HarnessEvent}
    (feeds : SplitsFeed codes parse c frames events) (sub : frames ⊆ frames') :
    SplitsFeed codes parse c frames' events := by
  intro len c' slices r before after member
  obtain ⟨chunk, ⟨f, inFrames, fed⟩, grown⟩ := feeds len c' slices r before after member
  exact ⟨chunk, ⟨f, sub inFrames, fed⟩, grown⟩

theorem splitsFeed_of_no_split {frames : List TfwFrameRec} {events : List HarnessEvent}
    (noSplit : ∀ e ∈ events, (∃ b, e = .bodyless b) ∨ ∃ r, e = .finish r) :
    SplitsFeed codes parse c frames events := by
  intro len c' slices r before after member
  rcases noSplit _ member with ⟨b, isBodyless⟩ | ⟨r', isFinish⟩
  · cases isBodyless
  · cases isFinish

end Feeds

section PassFacts
variable {σ : Type} (p : Parser σ) (codes : TfwCodes) (fuel : Nat) (type : FuzzType)
  (chunkSize : Nat)

theorem frameVerdict_events (frame : TfwFrameRec) (r : Int) (events : List HarnessEvent)
    (hm : HttpMsg σ) :
    ∃ extra, (frameVerdict p codes type frame r events hm).events = events ++ extra ∧
      ∀ e ∈ extra, ∃ b, e = .bodyless b := by
  unfold frameVerdict
  split_ifs
  · exact ⟨[], by simp, by simp⟩
  · exact ⟨[.bodyless true], rfl, by simp⟩
  · exact ⟨[.bodyless false], rfl, by simp⟩
  · exact ⟨[], by simp, by simp⟩

theorem frameVerdict_r (frame : TfwFrameRec) (r : Int) (events : List HarnessEvent)
    (hm : HttpMsg σ) :
    (frameVerdict p codes type frame r events hm).r = r ∨
      ((frameVerdict p codes type frame r events hm).r = codes.block ∧
        .bodyless true ∈ (frameVerdict p codes type frame r events hm).events) := by
  unfold frameVerdict
  split_ifs <;> simp

theorem frameVerdict_feeds {frames : List TfwFrameRec} (frame : TfwFrameRec) (r : Int)
    {events : List HarnessEvent} (hm : HttpMsg σ)
    (feeds : SplitsFeed codes (p.parseFor type) chunkSize frames events) :
    SplitsFeed codes (p.parseFor type) chunkSize frames
      (frameVerdict p codes type frame r events hm).events := by
  obtain ⟨extra, grown, onlyChecks⟩ := frameVerdict_events p codes type frame r events hm
  rw [grown]
  exact feeds.append (splitsFeed_of_no_split fun e member => .inl (onlyChecks e member))

theorem frameBody_feeds (frame : TfwFrameRec) (hm : HttpMsg σ)
    (nonzero : 0 < chunkSize ∨ frame.len = 0) (enough : frame.len ≤ fuel) :
    ∃ out, frameBody p codes fuel type chunkSize frame hm = .ok out ∧
      SplitsFeed codes (p.parseFor type) chunkSize [frame] out.events := by
  by_cases emptyData : type = .reqH2 ∧ frame.subtype = .data ∧ frame.len = 0
  · refine ⟨frameVerdict p codes type frame codes.postpone [] (setFrameCtx p type frame hm),
      by simp only [frameBody, if_pos emptyData], ?_⟩
    exact frameVerdict_feeds p codes type chunkSize frame _ _ (splitsFeed_of_no_split (by simp))
  · obtain ⟨out, ran, fed, grown⟩ := splitAndParseN_feeds p codes frame.str type frame.len
      chunkSize fuel (setFrameCtx p type frame hm) nonzero enough
    refine ⟨_, by simp only [frameBody, if_neg emptyData, ran]; rfl,
      frameVerdict_feeds p codes type chunkSize frame _ _ ?_⟩
    intro len c' slices r before after member
    rw [List.mem_singleton, HarnessEvent.split.injEq] at member
    obtain ⟨rfl, rfl, rfl, rfl, rfl, rfl⟩ := member
    exact ⟨rfl, ⟨frame, List.mem_singleton_self _, rfl, fed⟩, grown⟩

theorem frameLoop_feeds : ∀ (frames : List TfwFrameRec) (r : Int) (hm : HttpMsg σ),
    (∀ f ∈ frames, (0 < chunkSize ∨ f.len = 0) ∧ f.len ≤ fuel) →
    ∃ looped, frameLoop p codes fuel type chunkSize frames r hm = .ok looped ∧
      SplitsFeed codes (p.parseFor type) chunkSize frames looped.2.1
  | [], r, hm, _ => ⟨_, rfl, splitsFeed_of_no_split (by simp)⟩
  | frame :: rest, r, hm, fitting => by
      obtain ⟨nonzero, enough⟩ := fitting frame (List.mem_cons_self _ _)
      obtain ⟨out, ran, fed⟩ := frameBody_feeds p codes fuel type chunkSize frame hm nonzero enough
      have fedHere : SplitsFeed codes (p.parseFor type) chunkSize (frame :: rest) out.events :=
        fed.mono fun f member => by
          rw [List.mem_singleton.mp member]
          exact List.mem_cons_self _ _
      rw [frameLoop, ran]
      dsimp only
      split_ifs
      · obtain ⟨later, laterRan, laterFed⟩ := frameLoop_feeds rest out.r out.msg
          fun f member => fitting f (List.mem_cons_of_mem _ member)
        rw [laterRan]
        exact ⟨_, rfl, fedHere.append (laterFed.mono (List.subset_cons_self _ _))⟩
      · exact ⟨_, rfl, fedHere⟩

end PassFacts

theorem chunk_sizes_pos : ∀ c ∈ CHUNK_SIZES, 0 < c := by decide

theorem chunkSizeFor_fits (mode : ChunkMode) {h : Harness}
    (fitting : ∀ f ∈ h.table.frames, f.len ≤ h.framesMaxSz)
    (indexed : h.chunkSizeIndex < CHUNK_SIZE_CNT) :
    ∃ c, chunkSizeFor mode h = some c ∧ ∀ f ∈ h.table.frames, 0 < c ∨ f.len = 0 := by
  cases mode with
  | chunkOff =>
      refine ⟨_, rfl, fun f member => ?_⟩
      have := fitting f member
      omega
  | chunkOn =>
      exact ⟨_, List.getElem?_eq_getElem indexed,
        fun _ _ => .inl (chunk_sizes_pos _ (List.getElem_mem indexed))⟩

/-- With `chunk_size_index` below `CHUNK_SIZE_CNT`, frames that fit in `frames_max_sz` and a unit
of fuel per byte of the largest frame, `do_split_and_parse` returns, and every frame it hands to
`split_and_parse_n` is fed to the parser in consecutive slices of the pass's chunk size
(`FeedsInSlices`) while `msg.len` grows by the parsed counts. -/
theorem doSplitAndParse_feeds {σ : Type} (p : Parser σ) (codes : TfwCodes) (rGarbage : Int)
    (type : FuzzType) (mode : ChunkMode) (h : Harness)
    (fitting : ∀ f ∈ h.table.frames, f.len ≤ h.framesMaxSz)
    (indexed : h.chunkSizeIndex < CHUNK_SIZE_CNT) (fuel : Nat) (enough : h.framesMaxSz ≤ fuel) :
    ∃ c out, chunkSizeFor mode h = some c ∧
      doSplitAndParse p codes fuel rGarbage type mode h = .ok out ∧
      SplitsFeed codes (p.parseFor type) c h.table.frames out.events := by
  obtain ⟨c, chosen, nonzero⟩ := chunkSizeFor_fits mode fitting indexed
  obtain ⟨looped, ran, fed⟩ := frameLoop_feeds p codes fuel type c h.table.frames rGarbage
    (p.alloc type h.framesMaxSz) fun f member =>
      ⟨nonzero f member, (fitting f member).trans enough⟩
  refine ⟨c, ?_⟩
  rw [doSplitAndParse, if_neg (Nat.ne_of_lt indexed), chosen]
  dsimp only
  rw [ran]
  refine ⟨_, rfl, rfl, ?_⟩
  dsimp only
  split_ifs <;> first
    | exact fed
    | exact fed.append (splitsFeed_of_no_split (by simp))

/-- A parser that answers `0` to every slice, having parsed it whole: `TFW_PASS` under
`sampleCodes`. -/
def passingParser : Parser Unit where
  alloc _ _ := ⟨0, ()⟩
  parseReq data st := (0, data.length, st)
  h2ParseReq data st := (0, data.length, st)
  parseResp data st := (0, data.length, st)
  setFrame _ _ st := st
  checkBodylessMeth _ := false
  setHeadersParsed st := st
  h2ParseReqFinish st := (0, st)

/-- Codes that fit the comment on `do_split_and_parse`'s return value: `0` to go on, negative
when parsing failed. -/
def sampleCodes : TfwCodes := ⟨0, -2, -1⟩

def threeByteRequest : Harness := ⟨0, ⟨[⟨3, [71, 69, 84], .data⟩], by decide⟩, 3⟩

theorem three_byte_request_feeds :
    (∀ f ∈ threeByteRequest.table.frames, f.len ≤ threeByteRequest.framesMaxSz) ∧
      threeByteRequest.chunkSizeIndex < CHUNK_SIZE_CNT ∧
      ∃ c out, chunkSizeFor .chunkOn threeByteRequest = some c ∧
        doSplitAndParse passingParser sampleCodes 3 0 .req .chunkOn threeByteRequest = .ok out ∧
        SplitsFeed sampleCodes (passingParser.parseFor .req) c threeByteRequest.table.frames
          out.events :=
  ⟨by decide, by decide, doSplitAndParse_feeds passingParser sampleCodes 0 .req .chunkOn
    threeByteRequest (by decide) (by decide) 3 le_rfl⟩

/-! ## Where the returned value comes from -/

/-- `r` is a verdict some parser call among `events` returned, the `TFW_BLOCK` of a method check
that reported a body-less method, or the initial `TFW_PASS` of `split_and_parse_n` on an empty
frame. -/
def VerdictSource (codes : TfwCodes) (r : Int) (events : List HarnessEvent) : Prop :=
  r ∈ calledVerdicts events ∨ (r = codes.block ∧ .bodyless true ∈ events) ∨
    (r = codes.pass ∧ ∃ c before, HarnessEvent.split 0 c [] codes.pass before before ∈ events)

theorem VerdictSource.mono {codes : TfwCodes} {r : Int} {events events' : List HarnessEvent}
    (source : VerdictSource codes r events) (sub : events ⊆ events') :
    VerdictSource codes r events' := by
  rcases source with called | ⟨blocked, checked⟩ | ⟨passed, c, before, empty⟩
  · obtain ⟨e, member, inEvent⟩ := List.mem_flatMap.mp called
    exact .inl (List.mem_flatMap.mpr ⟨e, sub member, inEvent⟩)
  · exact .inr (.inl ⟨blocked, sub checked⟩)
  · exact .inr (.inr ⟨passed, c, before, sub empty⟩)

section VerdictFacts
variable {σ : Type} (p : Parser σ) (codes : TfwCodes) (fuel : Nat) (type : FuzzType)
  (chunkSize : Nat)

theorem frameBody_verdict (frame : TfwFrameRec) (hm : HttpMsg σ) {out : FrameOut σ}
    (ran : frameBody p codes fuel type chunkSize frame hm = .ok out) :
    VerdictSource codes out.r out.events ∨ (type = .reqH2 ∧ out.r = codes.postpone) := by
  unfold frameBody at ran
  dsimp only at ran
  split_ifs at ran with emptyData
  · cases ran
    rcases frameVerdict_r p codes type frame codes.postpone [] (setFrameCtx p type frame hm)
      with same | ⟨blocked, checked⟩
    · exact .inr ⟨emptyData.1, same⟩
    · exact .inl (.inr (.inl ⟨blocked, checked⟩))
  · obtain ⟨split, splitRan, rfl⟩ := except_map_eq_ok.mp ran
    set hm' := setFrameCtx p type frame hm
    obtain ⟨extra, grown, -⟩ := frameVerdict_events p codes type frame split.r
      [.split frame.len chunkSize split.slices split.r hm'.len split.msg.len] split.msg
    have splitIn : HarnessEvent.split frame.len chunkSize split.slices split.r hm'.len
        split.msg.len ∈ (frameVerdict p codes type frame split.r
          [.split frame.len chunkSize split.slices split.r hm'.len split.msg.len]
          split.msg).events := by
      rw [grown]
      exact List.mem_append_left _ (List.mem_singleton_self _)
    rcases frameVerdict_r p codes type frame split.r
      [.split frame.len chunkSize split.slices split.r hm'.len split.msg.len] split.msg
      with same | ⟨blocked, checked⟩
    · left
      rw [same]
      rcases splitLoop_verdict _ _ _ _ splitRan with ⟨noSlices, initial, emptyFrame, unchanged⟩ | called
      · have emptyEvent : HarnessEvent.split frame.len chunkSize split.slices split.r hm'.len
            split.msg.len = .split 0 chunkSize [] codes.pass hm'.len hm'.len := by
          rw [noSlices, initial, ← emptyFrame, unchanged]
        exact .inr (.inr ⟨initial, chunkSize, hm'.len, emptyEvent ▸ splitIn⟩)
      · exact .inl (List.mem_flatMap.mpr ⟨_, splitIn, called⟩)
    · exact .inl (.inr (.inl ⟨blocked, checked⟩))

theorem frameLoop_verdict : ∀ (frames : List TfwFrameRec) (r0 : Int) (hm : HttpMsg σ)
    {looped : Int × List HarnessEvent × HttpMsg σ},
    frameLoop p codes fuel type chunkSize frames r0 hm = .ok looped →
      (frames = [] ∧ looped.1 = r0) ∨ VerdictSource codes looped.1 looped.2.1 ∨
        (type = .reqH2 ∧ looped.1 = codes.postpone)
  | [], r0, hm, looped, ran => by
      cases ran
      exact .inl ⟨rfl, rfl⟩
  | frame :: rest, r0, hm, looped, ran => by
      rw [frameLoop] at ran
      cases body : frameBody p codes fuel type chunkSize frame hm with
      | error e =>
          rw [body] at ran
          cases ran
      | ok out =>
          rw [body] at ran
          dsimp only at ran
          have here := frameBody_verdict p codes fuel type chunkSize frame hm body
          split_ifs at ran
          · obtain ⟨later, laterRan, rfl⟩ := except_map_eq_ok.mp ran
            right
            rcases frameLoop_verdict rest out.r out.msg laterRan with
              ⟨-, same⟩ | source | postponed
            · rw [same]
              exact here.imp_left fun source => source.mono (List.subset_append_left _ _)
            · exact .inl (source.mono (List.subset_append_right _ _))
            · exact .inr postponed
          · cases ran
            exact .inr here

end VerdictFacts

/-- On a non-empty frame table `do_split_and_parse` returns the end-of-sizes `1` (having called
nothing), a verdict a parser call of this run returned, the `TFW_BLOCK` of a method check that
reported a body-less method, or the initial `TFW_PASS` of `split_and_parse_n` on an empty frame,
which calls no parser. -/
theorem doSplitAndParse_verdict {σ : Type} (p : Parser σ) (codes : TfwCodes) (fuel : Nat)
    (rGarbage : Int) (type : FuzzType) (mode : ChunkMode) (h : Harness)
    (nonempty : h.table.frames ≠ []) {out : DoSplitOut σ}
    (ran : doSplitAndParse p codes fuel rGarbage type mode h = .ok out) :
    (h.chunkSizeIndex = CHUNK_SIZE_CNT ∧ out.r = 1 ∧ out.events = []) ∨
      out.r ∈ calledVerdicts out.events ∨
      (out.r = codes.block ∧ .bodyless true ∈ out.events) ∨
      (out.r = codes.pass ∧
        ∃ c before, HarnessEvent.split 0 c [] codes.pass before before ∈ out.events) := by
  unfold doSplitAndParse at ran
  split_ifs at ran with exhausted
  · cases ran
    exact .inl ⟨exhausted, rfl, rfl⟩
  right
  cases chosen : chunkSizeFor mode h with
  | none =>
      rw [chosen] at ran
      cases ran
  | some c =>
      rw [chosen] at ran
      obtain ⟨looped, loopRan, rfl⟩ := except_map_eq_ok.mp ran
      by_cases finishing : type = .reqH2 ∧ looped.1 = codes.postpone
      · simp only [if_pos finishing]
        exact .inl (List.mem_flatMap.mpr ⟨_, List.mem_append_right _ (List.mem_singleton_self _),
          List.mem_singleton_self _⟩)
      · simp only [if_neg finishing]
        rcases frameLoop_verdict p codes fuel type c _ rGarbage _ loopRan with
          ⟨noFrames, -⟩ | source | postponed
        · exact absurd noFrames nonempty
        · exact source
        · exact absurd postponed finishing

theorem three_byte_request_verdict :
    threeByteRequest.table.frames ≠ [] ∧
      ∃ out, doSplitAndParse passingParser sampleCodes 3 0 .req .chunkOn threeByteRequest = .ok out ∧
        ((threeByteRequest.chunkSizeIndex = CHUNK_SIZE_CNT ∧ out.r = 1 ∧ out.events = []) ∨
          out.r ∈ calledVerdicts out.events ∨
          (out.r = sampleCodes.block ∧ .bodyless true ∈ out.events) ∨
          (out.r = sampleCodes.pass ∧
            ∃ c before, HarnessEvent.split 0 c [] sampleCodes.pass before before ∈ out.events)) :=
  ⟨by decide, _, rfl, doSplitAndParse_verdict passingParser sampleCodes 3 0 .req .chunkOn
    threeByteRequest (by decide) rfl⟩

def emptyRequest : Harness := ⟨0, ⟨[⟨0, [], .data⟩], by decide⟩, 0⟩

/-- On an empty frame `split_and_parse_n` returns its initial `TFW_PASS` without calling the
parser, and `do_split_and_parse` returns it. -/
theorem empty_frame_pass_without_parser_call :
    ¬ ∀ (σ : Type) (p : Parser σ) (codes : TfwCodes) (fuel : Nat) (rGarbage : Int)
        (type : FuzzType) (mode : ChunkMode) (h : Harness) (out : DoSplitOut σ),
      doSplitAndParse p codes fuel rGarbage type mode h = .ok out → out.r = codes.pass →
        codes.pass ∈ calledVerdicts out.events := fun passCalled =>
  absurd (passCalled Unit passingParser sampleCodes 0 0 .req .chunkOn emptyRequest _ rfl rfl)
    (by decide)

end TempestaFw.ParserTest
