import Mathlib.Data.List.Basic
import Mathlib.Algebra.Order.Ring.Nat

/-!
# `split_and_parse_n`: one frame fed to the parser in slices

The parser tests cut every frame into slices of `chunk_size` bytes and hand them to the parser
one after the other until it answers something other than `TFW_POSTPONE`.  The parser
functions and the verdict codes are declared outside the test header, so the model takes them
as arguments (`Parser`, `TfwCodes`) and every theorem holds for all of them.  The loop costs
one unit of fuel per iteration: with a zero `chunk_size` it would never end.

`splitLoop_sliceRun`: with a non-zero chunk size and fuel for every byte the loop returns, and
its calls form a `SliceRun`: the parser gets the bytes
`str[pos, pos + min chunk_size (len - pos))` at consecutive offsets, its state carried from call
to call, every verdict but the last `TFW_POSTPONE`, while `msg.len` grows by the reported
`parsed` counts.  `FeedsInSlices` collects what a run of the
loop from offset `0` does to a frame.
-/

set_option autoImplicit false

namespace TempestaFw.ParserTest

/-- `FUZZ_REQ`, `FUZZ_REQ_H2` and `FUZZ_RESP`. -/
inductive FuzzType where
  | req
  | reqH2
  | resp
  deriving DecidableEq, Repr

/-- The values of `TFW_PASS`, `TFW_BLOCK` and `TFW_POSTPONE`. -/
structure TfwCodes where
  pass : Int
  block : Int
  postpone : Int

inductive HarnessStop where
  | bug
  | outOfRange
  | outOfFuel
  deriving DecidableEq, Repr

/-- `TfwFrameType`; the harness itself only writes `HTTP2_HEADERS` and `HTTP2_DATA`. -/
inductive TfwFrameType where
  | data
  | headers
  | other (code : Nat)
  deriving DecidableEq, Repr

/-- The message of the test, `req` or `resp`: its `msg.len`, and the state the parser keeps in
it and in its connection. -/
structure HttpMsg (σ : Type) where
  len : Nat
  state : σ

/-- The parser functions the harness calls.  A parse function gets the slice's bytes and
returns the verdict, the `parsed` count and the new state. -/
structure Parser (σ : Type) where
  /-- `test_req_alloc` or `test_resp_alloc` of `frames_max_sz` bytes, with the set-up
  `do_split_and_parse` does for the message type. -/
  alloc : FuzzType → Nat → HttpMsg σ
  parseReq : List UInt8 → σ → Int × Nat × σ
  h2ParseReq : List UInt8 → σ → Int × Nat × σ
  parseResp : List UInt8 → σ → Int × Nat × σ
  /-- `ctx->hdr.type = subtype; ctx->plen = len;` -/
  setFrame : TfwFrameType → Nat → σ → σ
  checkBodylessMeth : σ → Bool
  /-- `__set_bit(TFW_HTTP_B_HEADERS_PARSED, req->flags)` -/
  setHeadersParsed : σ → σ
  h2ParseReqFinish : σ → Int × σ

def Parser.parseFor {σ : Type} (p : Parser σ) : FuzzType → List UInt8 → σ → Int × Nat × σ
  | .req => p.parseReq
  | .reqH2 => p.h2ParseReq
  | .resp => p.parseResp

/-- One parser call of `split_and_parse_n`: the offset, the `chunk_size`, the bytes the parser
was handed, its verdict and its `parsed` count. -/
structure Slice where
  pos : Nat
  size : Nat
  data : List UInt8
  r : Int
  parsed : Nat
  deriving DecidableEq, Repr

structure SplitOut (σ : Type) where
  slices : List Slice
  r : Int
  msg : HttpMsg σ

/-! ## The loop -/

theorem except_map_eq_ok {ε α β : Type} {f : α → β} {x : Except ε α} {b : β} :
    x.map f = .ok b ↔ ∃ a, x = .ok a ∧ f a = b := by
  cases x <;> simp [Except.map]

theorem trimmed_chunk_eq_min (c room : Nat) :
    (if c ≥ room then room else c) = min c room := by
  split <;> omega

section Loop
variable {σ : Type} (parse : List UInt8 → σ → Int × Nat × σ) (postpone : Int)
  (str : List UInt8) (len : Nat)

/-- The `while (pos < len)` loop of `split_and_parse_n` from offset `pos`, with the current
`chunk_size`, the last verdict `r` and the message, followed by `BUG_ON(pos != len)`. -/
def splitLoop : Nat → Nat → Nat → Int → HttpMsg σ → Except HarnessStop (SplitOut σ)
  | fuel, pos, chunkSize, r, hm =>
    if pos < len then
      match fuel with
      | 0 => .error .outOfFuel
      | fuel + 1 =>
        let chunkSize := if chunkSize ≥ len - pos then len - pos else chunkSize
        let data := (str.drop pos).take chunkSize
        let out := parse data hm.state
        let s : Slice := ⟨pos, chunkSize, data, out.1, out.2.1⟩
        let hm' : HttpMsg σ := ⟨hm.len + out.2.1, out.2.2⟩
        if out.1 ≠ postpone then .ok ⟨[s], out.1, hm'⟩
        else (splitLoop fuel (pos + chunkSize) chunkSize out.1 hm').map
          fun rest => { rest with slices := s :: rest.slices }
    else if pos ≠ len then .error .bug
    else .ok ⟨[], r, hm⟩

theorem splitLoop_at_end (fuel chunkSize : Nat) (r : Int) (hm : HttpMsg σ) :
    splitLoop parse postpone str len fuel len chunkSize r hm = .ok ⟨[], r, hm⟩ := by
  rw [splitLoop.eq_def]
  simp

theorem splitLoop_of_not_lt {fuel pos : Nat} (chunkSize : Nat) (r : Int) (hm : HttpMsg σ)
    (after : ¬ pos < len) :
    splitLoop parse postpone str len fuel pos chunkSize r hm =
      if pos ≠ len then .error .bug else .ok ⟨[], r, hm⟩ := by
  rw [splitLoop.eq_def]
  simp only [if_neg after]

theorem splitLoop_succ {fuel pos : Nat} (chunkSize : Nat) (r : Int) (hm : HttpMsg σ)
    (before : pos < len) :
    splitLoop parse postpone str len (fuel + 1) pos chunkSize r hm =
      let size := min chunkSize (len - pos)
      let data := (str.drop pos).take size
      let out := parse data hm.state
      if out.1 ≠ postpone then
        .ok ⟨[⟨pos, size, data, out.1, out.2.1⟩], out.1, ⟨hm.len + out.2.1, out.2.2⟩⟩
      else (splitLoop parse postpone str len fuel (pos + size) size out.1
          ⟨hm.len + out.2.1, out.2.2⟩).map
        fun rest => { rest with slices := ⟨pos, size, data, out.1, out.2.1⟩ :: rest.slices } := by
  rw [splitLoop.eq_def]
  simp only [if_pos before, trimmed_chunk_eq_min]

theorem splitLoop_verdict {fuel pos chunkSize : Nat} {r : Int} {hm : HttpMsg σ}
    {out : SplitOut σ} (ran : splitLoop parse postpone str len fuel pos chunkSize r hm = .ok out) :
    (out.slices = [] ∧ out.r = r ∧ pos = len ∧ out.msg = hm) ∨ out.r ∈ out.slices.map Slice.r := by
  induction fuel generalizing pos chunkSize r hm out with
  | zero =>
      by_cases before : pos < len
      · rw [splitLoop.eq_def] at ran
        simp [before] at ran
      · rw [splitLoop_of_not_lt parse postpone str len chunkSize r hm before] at ran
        split_ifs at ran with atEnd
        cases ran
        exact .inl ⟨rfl, rfl, not_not.mp atEnd, rfl⟩
  | succ fuel inductionHypothesis =>
      by_cases before : pos < len
      · rw [splitLoop_succ parse postpone str len chunkSize r hm before] at ran
        dsimp only at ran
        split_ifs at ran with verdict
        · cases ran
          exact .inr (List.mem_singleton_self _)
        · obtain ⟨rest, restRan, rfl⟩ := except_map_eq_ok.mp ran
          right
          rcases inductionHypothesis restRan with ⟨_, restR, _, _⟩ | inRest
          · simp [restR, not_not.mp verdict]
          · exact List.mem_cons_of_mem _ inRest
      · rw [splitLoop_of_not_lt parse postpone str len chunkSize r hm before] at ran
        split_ifs at ran with atEnd
        cases ran
        exact .inl ⟨rfl, rfl, not_not.mp atEnd, rfl⟩

end Loop

/-- `split_and_parse_n(str, type, len, chunk_size)` on the message `hm`. -/
def splitAndParseN {σ : Type} (p : Parser σ) (codes : TfwCodes) (fuel : Nat)
    (str : List UInt8) (type : FuzzType) (len chunkSize : Nat) (hm : HttpMsg σ) :
    Except HarnessStop (SplitOut σ) :=
  splitLoop (p.parseFor type) codes.postpone str len fuel 0 chunkSize codes.pass hm

/-! ## What a run of the loop is -/

/-- The parser, from state `st`, answers the bytes of each slice in turn with the slice's verdict
and `parsed` count, and ends in state `st'`. -/
def Answers {σ : Type} (parse : List UInt8 → σ → Int × Nat × σ) : σ → List Slice → σ → Prop
  | st, [], st' => st' = st
  | st, s :: rest, st' => ∃ mid, parse s.data st = (s.r, s.parsed, mid) ∧ Answers parse mid rest st'

/-- The calls of the loop from offset `pos`, verdict `r0` and parser state `st` when it returns
`r` in state `st'`: none once `pos = len`; otherwise the parser gets the `min c (len - pos)`
bytes of `str` at `pos`, and the loop stops at the first verdict other than `postpone`. -/
inductive SliceRun {σ : Type} (parse : List UInt8 → σ → Int × Nat × σ) (postpone : Int)
    (str : List UInt8) (c len : Nat) : Nat → Int → σ → List Slice → Int → σ → Prop where
  | done {pos : Nat} {r0 : Int} {st : σ} : pos = len →
      SliceRun parse postpone str c len pos r0 st [] r0 st
  | stop {pos : Nat} {r0 : Int} {st st' : σ} {s : Slice} : 0 < c → pos < len → s.pos = pos →
      s.size = min c (len - pos) → s.data = (str.drop pos).take s.size →
      parse s.data st = (s.r, s.parsed, st') → s.r ≠ postpone →
      SliceRun parse postpone str c len pos r0 st [s] s.r st'
  | next {pos : Nat} {r0 r : Int} {st mid st' : σ} {s : Slice} {rest : List Slice} : 0 < c →
      pos < len → s.pos = pos → s.size = min c (len - pos) → s.data = (str.drop pos).take s.size →
      parse s.data st = (s.r, s.parsed, mid) → s.r = postpone →
      SliceRun parse postpone str c len (pos + s.size) s.r mid rest r st' →
      SliceRun parse postpone str c len pos r0 st (s :: rest) r st'

/-- With a non-zero chunk size and a unit of fuel for every byte left, the loop returns, its
calls form a `SliceRun` from the message's state to the state it leaves, and `msg.len` grows by
their `parsed` counts. -/
theorem splitLoop_sliceRun {σ : Type} (parse : List UInt8 → σ → Int × Nat × σ)
    (postpone : Int) (str : List UInt8) (len c : Nat) (positive : 0 < c) :
    ∀ fuel pos r (hm : HttpMsg σ), pos ≤ len → len - pos ≤ fuel →
      ∃ out, splitLoop parse postpone str len fuel pos c r hm = .ok out ∧
        SliceRun parse postpone str c len pos r hm.state out.slices out.r out.msg.state ∧
        out.msg.len = hm.len + (out.slices.map Slice.parsed).sum := by
  intro fuel
  induction fuel with
  | zero =>
      intro pos r hm inside enough
      have atEnd : pos = len := by omega
      subst atEnd
      exact ⟨_, splitLoop_at_end parse postpone str pos 0 c r hm, .done rfl, by simp⟩
  | succ fuel inductionHypothesis =>
      intro pos r hm inside enough
      rcases Nat.lt_or_ge pos len with before | atEnd
      · rw [splitLoop_succ parse postpone str len c r hm before]
        dsimp only
        split_ifs with verdict
        · exact ⟨_, rfl, .stop positive before rfl rfl rfl rfl verdict, by simp⟩
        · set out := parse ((str.drop pos).take (min c (len - pos))) hm.state
          obtain ⟨rest, ran, run, grown⟩ :
              ∃ rest, splitLoop parse postpone str len fuel (pos + min c (len - pos))
                  (min c (len - pos)) out.1 ⟨hm.len + out.2.1, out.2.2⟩ = .ok rest ∧
                SliceRun parse postpone str c len (pos + min c (len - pos)) out.1 out.2.2
                  rest.slices rest.r rest.msg.state ∧
                rest.msg.len = hm.len + out.2.1 + (rest.slices.map Slice.parsed).sum := by
            rcases Nat.lt_or_ge c (len - pos) with full | last
            · rw [show min c (len - pos) = c by omega]
              exact inductionHypothesis _ _ _ (by omega) (by omega)
            · rw [show pos + min c (len - pos) = len by omega]
              exact ⟨_, splitLoop_at_end parse postpone str len fuel _ _ _, .done rfl, by simp⟩
          refine ⟨_, by rw [ran]; rfl,
            .next positive before rfl rfl rfl rfl (not_not.mp verdict) run, ?_⟩
          simp only [List.map_cons, List.sum_cons, grown]
          omega
      · have atEnd : pos = len := by omega
        subst atEnd
        exact ⟨_, splitLoop_at_end parse postpone str pos _ c r hm, .done rfl, by simp⟩

/-! ## What a run feeds the parser -/

section Run
variable {σ : Type} {parse : List UInt8 → σ → Int × Nat × σ} {postpone : Int}
  {str : List UInt8} {c len : Nat}

theorem SliceRun.slice_bounds {pos : Nat} {r0 r : Int} {st st' : σ} {slices : List Slice}
    (run : SliceRun parse postpone str c len pos r0 st slices r st') :
    ∀ s ∈ slices, 0 < s.size ∧ s.size = min c (len - s.pos) ∧ pos ≤ s.pos ∧
      s.pos + s.size ≤ len := by
  induction run with
  | done => simp
  | stop positive before located sized =>
      intro s member
      rw [List.mem_singleton] at member
      subst member
      refine ⟨?_, located ▸ sized, located.ge, ?_⟩ <;> omega
  | next positive before located sized _ _ _ _ inductionHypothesis =>
      intro s member
      rcases List.mem_cons.mp member with rfl | later
      · refine ⟨?_, located ▸ sized, located.ge, ?_⟩ <;> omega
      · obtain ⟨nonempty, trimmed, after, within⟩ := inductionHypothesis s later
        exact ⟨nonempty, trimmed, by omega, within⟩

theorem SliceRun.bytes {pos : Nat} {r0 r : Int} {st st' : σ} {slices : List Slice}
    (run : SliceRun parse postpone str c len pos r0 st slices r st') :
    ∀ s ∈ slices, s.data = (str.drop s.pos).take s.size := by
  induction run with
  | done => simp
  | stop _ _ located _ fed =>
      intro s member
      rw [List.mem_singleton.mp member, located]
      exact fed
  | next _ _ located _ fed _ _ _ inductionHypothesis =>
      intro s member
      rcases List.mem_cons.mp member with rfl | later
      · rw [located]
        exact fed
      · exact inductionHypothesis s later

theorem SliceRun.answers {pos : Nat} {r0 r : Int} {st st' : σ} {slices : List Slice}
    (run : SliceRun parse postpone str c len pos r0 st slices r st') :
    Answers parse st slices st' := by
  induction run with
  | done => rfl
  | @stop _ _ _ st' _ _ _ _ _ _ answered _ => exact ⟨st', answered, rfl⟩
  | @next _ _ _ _ mid _ _ _ _ _ _ _ _ answered _ _ inductionHypothesis =>
      exact ⟨mid, answered, inductionHypothesis⟩

theorem SliceRun.positions {pos : Nat} {r0 r : Int} {st st' : σ} {slices : List Slice}
    (run : SliceRun parse postpone str c len pos r0 st slices r st') :
    ∀ j s, slices[j]? = some s → s.pos = pos + ((slices.take j).map Slice.size).sum := by
  induction run with
  | done => simp
  | stop _ _ located =>
      intro j s found
      rcases j with _ | j
      · rw [List.getElem?_cons_zero, Option.some.injEq] at found
        subst found
        simp [located]
      · simp at found
  | next _ _ located _ _ _ _ _ inductionHypothesis =>
      intro j s found
      rcases j with _ | j
      · rw [List.getElem?_cons_zero, Option.some.injEq] at found
        subst found
        simp [located]
      · rw [List.getElem?_cons_succ] at found
        rw [inductionHypothesis j s found]
        simp [Nat.add_assoc]

theorem SliceRun.length_le {pos : Nat} {r0 r : Int} {st st' : σ} {slices : List Slice}
    (run : SliceRun parse postpone str c len pos r0 st slices r st') :
    slices.length ≤ (len - pos + c - 1) / c := by
  induction run with
  | done => simp
  | @stop pos _ _ _ _ positive before =>
      rw [List.length_singleton, Nat.le_div_iff_mul_le positive]
      omega
  | @next pos _ _ _ _ _ s rest positive before _ sized _ _ _ run inductionHypothesis =>
      rw [List.length_cons]
      rcases Nat.lt_or_ge c (len - pos) with full | last
      · rw [sized, show min c (len - pos) = c by omega,
          show len - (pos + c) + c - 1 = len - pos - 1 by omega] at inductionHypothesis
        calc rest.length + 1 ≤ (len - pos - 1) / c + 1 := by omega
          _ = (len - pos - 1 + c) / c := (Nat.add_div_right _ positive).symm
          _ = (len - pos + c - 1) / c := by rw [show len - pos - 1 + c = len - pos + c - 1 by omega]
      · rw [sized, show pos + min c (len - pos) = len by omega] at run
        cases run with
        | done =>
            rw [List.length_nil, Nat.le_div_iff_mul_le positive]
            omega
        | stop _ beyond => omega
        | next _ beyond => omega

theorem SliceRun.postponed_before_last {pos : Nat} {r0 r : Int} {st st' : σ}
    {slices : List Slice} (run : SliceRun parse postpone str c len pos r0 st slices r st') :
    ∀ j s, slices[j]? = some s → j + 1 < slices.length → s.r = postpone := by
  induction run with
  | done => simp
  | stop => intro j s _ beyond; simp at beyond
  | next _ _ _ _ _ _ postponed _ inductionHypothesis =>
      intro j s found beyond
      rcases j with _ | j
      · rw [List.getElem?_cons_zero, Option.some.injEq] at found
        exact found ▸ postponed
      · rw [List.getElem?_cons_succ] at found
        exact inductionHypothesis j s found (by simpa using beyond)

theorem SliceRun.returns_last {pos : Nat} {r0 r : Int} {st st' : σ} {slices : List Slice}
    (run : SliceRun parse postpone str c len pos r0 st slices r st') :
    (slices = [] ∧ r = r0) ∨ ∃ s, slices.getLast? = some s ∧ r = s.r := by
  induction run with
  | done => exact .inl ⟨rfl, rfl⟩
  | @stop _ _ _ _ s => exact .inr ⟨s, rfl, rfl⟩
  | @next _ _ _ _ _ _ s rest _ _ _ _ _ _ _ _ inductionHypothesis =>
      right
      rcases inductionHypothesis with ⟨rfl, rfl⟩ | ⟨last, found, rfl⟩
      · exact ⟨s, rfl, rfl⟩
      · refine ⟨last, ?_, rfl⟩
        rw [List.getLast?_cons, found]
        rfl

/-- A run that only postponed has handed the parser `str[pos, len)`, slice after slice. -/
theorem SliceRun.covers {pos : Nat} {r0 r : Int} {st st' : σ} {slices : List Slice}
    (run : SliceRun parse postpone str c len pos r0 st slices r st') :
    (∀ s ∈ slices, s.r = postpone) → pos + (slices.map Slice.size).sum = len ∧
      slices.flatMap Slice.data = (str.drop pos).take (len - pos) := by
  induction run with
  | done atEnd => intro _; simp [atEnd]
  | stop _ _ _ _ _ _ stopped =>
      intro postponed
      exact absurd (postponed _ (List.mem_singleton_self _)) stopped
  | @next pos _ _ _ _ _ s _ _ before _ sized fed _ _ _ inductionHypothesis =>
      intro postponed
      obtain ⟨sum, data⟩ :=
        inductionHypothesis fun s member => postponed s (List.mem_cons_of_mem _ member)
      have split : len - pos = s.size + (len - (pos + s.size)) := by omega
      refine ⟨by rw [List.map_cons, List.sum_cons, ← Nat.add_assoc, sum], ?_⟩
      rw [List.flatMap_cons, data, fed, split, List.take_add, List.drop_drop]

end Run

/-- What one `split_and_parse_n` run does to a frame `str` of `len` bytes with chunk size `c`,
given its calls `slices` and the verdict `r` it returns. -/
structure FeedsInSlices {σ : Type} (parse : List UInt8 → σ → Int × Nat × σ) (codes : TfwCodes)
    (str : List UInt8) (c len : Nat) (slices : List Slice) (r : Int) : Prop where
  consecutive : ∀ j s, slices[j]? = some s → s.pos = ((slices.take j).map Slice.size).sum
  sized : ∀ s ∈ slices, 1 ≤ s.size ∧ s.size = min c (len - s.pos)
  bytes : ∀ s ∈ slices, s.data = (str.drop s.pos).take s.size
  answered : ∃ st st', Answers parse st slices st'
  within : ∀ s ∈ slices, s.pos + s.size ≤ len
  calls_le : slices.length ≤ (len + c - 1) / c
  postponed_before_last : ∀ j s, slices[j]? = some s → j + 1 < slices.length →
    s.r = codes.postpone
  returns_last : (slices = [] ∧ r = codes.pass) ∨ ∃ s, slices.getLast? = some s ∧ r = s.r
  covers : (∀ s ∈ slices, s.r = codes.postpone) →
    (slices.map Slice.size).sum = len ∧ slices.flatMap Slice.data = str.take len

theorem SliceRun.feedsInSlices {σ : Type} {parse : List UInt8 → σ → Int × Nat × σ}
    {codes : TfwCodes} {str : List UInt8} {c len : Nat} {st st' : σ} {slices : List Slice}
    {r : Int} (run : SliceRun parse codes.postpone str c len 0 codes.pass st slices r st') :
    FeedsInSlices parse codes str c len slices r where
  consecutive j s found := by simpa using run.positions j s found
  sized s member := by
    obtain ⟨nonempty, trimmed, -, -⟩ := run.slice_bounds s member
    exact ⟨nonempty, trimmed⟩
  bytes := run.bytes
  answered := ⟨st, st', run.answers⟩
  within s member := (run.slice_bounds s member).2.2.2
  calls_le := by simpa using run.length_le
  postponed_before_last := run.postponed_before_last
  returns_last := run.returns_last
  covers postponed := by simpa using run.covers postponed

theorem splitAndParseN_feeds {σ : Type} (p : Parser σ) (codes : TfwCodes) (str : List UInt8)
    (type : FuzzType) (len c fuel : Nat) (hm : HttpMsg σ) (nonzero : 0 < c ∨ len = 0)
    (enough : len ≤ fuel) :
    ∃ out, splitAndParseN p codes fuel str type len c hm = .ok out ∧
      FeedsInSlices (p.parseFor type) codes str c len out.slices out.r ∧
      out.msg.len = hm.len + (out.slices.map Slice.parsed).sum := by
  rcases nonzero with positive | empty
  · obtain ⟨out, ran, run, grown⟩ := splitLoop_sliceRun (p.parseFor type) codes.postpone str
      len c positive fuel 0 codes.pass hm (Nat.zero_le _) (by omega)
    exact ⟨out, ran, run.feedsInSlices, grown⟩
  · subst empty
    have run : SliceRun (p.parseFor type) codes.postpone str c 0 0 codes.pass hm.state [] codes.pass
        hm.state := .done rfl
    exact ⟨_, splitLoop_at_end _ _ _ 0 fuel c codes.pass hm, run.feedsInSlices, by simp⟩

end TempestaFw.ParserTest
