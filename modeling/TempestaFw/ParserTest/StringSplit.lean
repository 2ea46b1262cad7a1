import TempestaFw.ParserTest.Split

/-!
# `test_string_split`: the chunking oracle of the parser tests

`test_string_split(expected, parsed)` checks that the parser cut a string into chunks as
expected: it walks the expected chunks in runs of equal flags, takes the run of parsed chunks
with the same flags, and compares the two runs' lengths and bytes.  The `EXPECT_*` macros
record a failure and go on; the model returns the failures in the order they are recorded.
`tfw_strcmp` is declared outside the test header, so it is an argument, and the results
assume only that it returns `0` exactly on equal bytes.

`stringSplitLoop_sound`: a loop that records nothing has matched the expected chunks with a
prefix of the parsed ones, byte for byte and flag for flag.  `stringSplitLoop_complete`: with
no empty chunk, equal bytes and flags make it record nothing.  `testStringSplit_correct`
puts them together with the checks before the loop and after it.
-/

set_option autoImplicit false

namespace TempestaFw.ParserTest

/-- A chunk, a plain `TfwStr`: its `len` bytes and its `flags`. -/
structure TfwChunk where
  data : List UInt8
  flags : UInt16
  deriving DecidableEq, Repr

def TfwChunk.len (c : TfwChunk) : Nat := c.data.length

def TfwChunk.hasFlags (flags : UInt16) (c : TfwChunk) : Bool := c.flags == flags

/-- `TfwStr`: `chunks[0 .. nchunks)` and `len`.  A plain string (`nchunks = 0`) keeps its
bytes in place of the chunks; no code modelled here reads them. -/
structure TfwStr where
  chunks : List TfwChunk
  len : Nat
  deriving DecidableEq, Repr

def TfwStr.nchunks (s : TfwStr) : Nat := s.chunks.length

def chunkBytes (cs : List TfwChunk) : List UInt8 := cs.flatMap TfwChunk.data

def chunkFlags (cs : List TfwChunk) : List UInt16 :=
  cs.flatMap fun c => List.replicate c.len c.flags

def TfwStr.flat (s : TfwStr) : List UInt8 := chunkBytes s.chunks

def TfwStr.byteFlags (s : TfwStr) : List UInt16 := chunkFlags s.chunks

/-- The `EXPECT_*` checks of `test_string_split`, in source order. -/
inductive StrExpect where
  /-- `EXPECT_FALSE(TFW_STR_PLAIN(parsed))` -/
  | notPlain
  /-- `EXPECT_GE(parsed->nchunks, expected->nchunks)` -/
  | nchunksGe
  /-- `EXPECT_EQ(parsed->len, expected->len)` -/
  | lenEq
  /-- `EXPECT_EQ(p_part.len, e_part.len)` -/
  | partLenEq
  /-- `EXPECT_OK(tfw_strcmp(&e_part, &p_part))` -/
  | strcmpOk
  /-- `EXPECT_EQ(c_p, end_p)` -/
  | endP
  /-- `EXPECT_EQ(c_e, end_e)` -/
  | endE
  deriving DecidableEq, Repr

/-- `while ((c < end) && (c->flags == flags)) { part.nchunks++; part.len += c->len; c++; }`:
the part grown by the run, and the chunks from `c` on. -/
def takeRun (flags : UInt16) : List TfwChunk → TfwStr → TfwStr × List TfwChunk
  | [], part => (part, [])
  | c :: rest, part =>
    if c.hasFlags flags then takeRun flags rest ⟨part.chunks ++ [c], part.len + c.len⟩
    else (part, c :: rest)

/-- How the outer loop ends: the `return` after a length mismatch, or its test failing with
`c_e` and `c_p` at the given chunks. -/
inductive SplitLoopEnd where
  | returned
  | exited (restE restP : List TfwChunk)
  deriving DecidableEq, Repr

/-- `EXPECT_EQ(c_p, end_p); EXPECT_EQ(c_e, end_e);` after the loop. -/
def SplitLoopEnd.finalFails : SplitLoopEnd → List StrExpect
  | .returned => []
  | .exited restE restP =>
    (if restP = [] then [] else [.endP]) ++ (if restE = [] then [] else [.endE])

/-- `while (c_e < end_e) { ... }`, one unit of fuel per iteration, with the failures it
records. -/
def stringSplitLoop (tfwStrcmp : TfwStr → TfwStr → Int) :
    Nat → List TfwChunk → List TfwChunk → Except HarnessStop (List StrExpect × SplitLoopEnd)
  | _, [], ps => .ok ([], .exited [] ps)
  | 0, _ :: _, _ => .error .outOfFuel
  | fuel + 1, e :: es, ps =>
    let flags := e.flags
    let eRun := takeRun flags (e :: es) ⟨[], 0⟩
    let pRun := takeRun flags ps ⟨[], 0⟩
    if pRun.1.len ≠ eRun.1.len then .ok ([.partLenEq], .returned)
    else
      let fails := if tfwStrcmp eRun.1 pRun.1 = 0 then [] else [StrExpect.strcmpOk]
      (stringSplitLoop tfwStrcmp fuel eRun.2 pRun.2).map fun out => (fails ++ out.1, out.2)

/-- `test_string_split(expected, parsed)`, with fuel for one iteration per expected chunk. -/
def testStringSplit (tfwStrcmp : TfwStr → TfwStr → Int) (expected parsed : TfwStr) :
    Except HarnessStop (List StrExpect) :=
  if expected.chunks = [] then .error .bug
  else if parsed.chunks = [] then .ok [.notPlain]
  else
    let nchunksFails := if expected.nchunks ≤ parsed.nchunks then [] else [StrExpect.nchunksGe]
    if parsed.len ≠ expected.len then .ok (nchunksFails ++ [.lenEq])
    else
      (stringSplitLoop tfwStrcmp expected.nchunks expected.chunks parsed.chunks).map fun out =>
        nchunksFails ++ out.1 ++ out.2.finalFails

/-! ## Chunks and runs -/

@[simp] theorem chunkBytes_nil : chunkBytes [] = [] := rfl

@[simp] theorem chunkBytes_cons (c : TfwChunk) (cs : List TfwChunk) :
    chunkBytes (c :: cs) = c.data ++ chunkBytes cs := by simp [chunkBytes]

@[simp] theorem chunkBytes_append (cs ds : List TfwChunk) :
    chunkBytes (cs ++ ds) = chunkBytes cs ++ chunkBytes ds := by simp [chunkBytes]

@[simp] theorem chunkFlags_nil : chunkFlags [] = [] := rfl

@[simp] theorem chunkFlags_cons (c : TfwChunk) (cs : List TfwChunk) :
    chunkFlags (c :: cs) = List.replicate c.len c.flags ++ chunkFlags cs := by simp [chunkFlags]

@[simp] theorem chunkFlags_append (cs ds : List TfwChunk) :
    chunkFlags (cs ++ ds) = chunkFlags cs ++ chunkFlags ds := by simp [chunkFlags]

theorem length_chunkBytes (cs : List TfwChunk) :
    (chunkBytes cs).length = (cs.map TfwChunk.len).sum := by
  induction cs with
  | nil => rfl
  | cons c cs inductionHypothesis => simp [inductionHypothesis, TfwChunk.len]

theorem chunkFlags_of_flags {flags : UInt16} :
    ∀ {cs : List TfwChunk}, (∀ c ∈ cs, c.flags = flags) →
      chunkFlags cs = List.replicate (cs.map TfwChunk.len).sum flags
  | [], _ => rfl
  | c :: cs, same => by
      rw [chunkFlags_cons, chunkFlags_of_flags fun d member => same d (List.mem_cons_of_mem c member),
        same c (List.mem_cons_self c cs), List.map_cons, List.sum_cons, List.replicate_add]

theorem chunkFlags_takeWhile (flags : UInt16) (cs : List TfwChunk) :
    chunkFlags (cs.takeWhile (TfwChunk.hasFlags flags)) =
      List.replicate ((cs.takeWhile (TfwChunk.hasFlags flags)).map TfwChunk.len).sum flags :=
  chunkFlags_of_flags fun _ member => by
    simpa [TfwChunk.hasFlags] using List.mem_takeWhile_imp member

theorem length_dropWhile_flags_le (e : TfwChunk) (es : List TfwChunk) :
    ((e :: es).dropWhile (TfwChunk.hasFlags e.flags)).length ≤ es.length := by
  rw [List.dropWhile_cons_of_pos (by simp [TfwChunk.hasFlags])]
  exact (List.dropWhile_sublist _).length_le

theorem head?_chunkFlags_dropWhile (flags : UInt16) :
    ∀ {cs : List TfwChunk}, (∀ c ∈ cs, c.data ≠ []) →
      (chunkFlags (cs.dropWhile (TfwChunk.hasFlags flags))).head? ≠ some flags
  | [], _ => by simp
  | c :: cs, nonempty => by
      rw [List.dropWhile_cons]
      split
      · exact head?_chunkFlags_dropWhile flags fun d member =>
          nonempty d (List.mem_cons_of_mem c member)
      · next other =>
          obtain ⟨b, bs, split⟩ := List.exists_cons_of_ne_nil (nonempty c (List.mem_cons_self c cs))
          simp only [TfwChunk.hasFlags, beq_iff_eq] at other
          simp [TfwChunk.len, split, List.replicate_succ, other]

theorem replicate_append_cancel {α : Type} {x : α} :
    ∀ {a b : Nat} {l l' : List α}, List.replicate a x ++ l = List.replicate b x ++ l' →
      l.head? ≠ some x → l'.head? ≠ some x → a = b ∧ l = l'
  | 0, 0, _, _, same, _, _ => ⟨rfl, same⟩
  | 0, b + 1, l, _, same, other, _ => by
      simp only [List.replicate_succ, List.replicate_zero, List.nil_append, List.cons_append] at same
      simp [same] at other
  | a + 1, 0, _, l', same, _, other' => by
      simp only [List.replicate_succ, List.replicate_zero, List.nil_append, List.cons_append] at same
      simp [← same] at other'
  | a + 1, b + 1, _, _, same, other, other' => by
      simp only [List.replicate_succ, List.cons_append, List.cons.injEq, true_and] at same
      obtain ⟨counts, rests⟩ := replicate_append_cancel same other other'
      exact ⟨congrArg (· + 1) counts, rests⟩

theorem takeRun_eq (flags : UInt16) : ∀ (cs : List TfwChunk) (part : TfwStr),
    takeRun flags cs part =
      (⟨part.chunks ++ cs.takeWhile (TfwChunk.hasFlags flags),
        part.len + ((cs.takeWhile (TfwChunk.hasFlags flags)).map TfwChunk.len).sum⟩,
        cs.dropWhile (TfwChunk.hasFlags flags))
  | [], part => by simp [takeRun]
  | c :: rest, part => by
      rw [takeRun, List.takeWhile_cons, List.dropWhile_cons]
      split
      · rw [takeRun_eq flags rest]
        simp [Nat.add_assoc]
      · simp

section Loop
variable (tfwStrcmp : TfwStr → TfwStr → Int)

theorem stringSplitLoop_succ (fuel : Nat) (e : TfwChunk) (es ps : List TfwChunk) :
    let p := TfwChunk.hasFlags e.flags
    let ePart : TfwStr := ⟨(e :: es).takeWhile p, (((e :: es).takeWhile p).map TfwChunk.len).sum⟩
    let pPart : TfwStr := ⟨ps.takeWhile p, ((ps.takeWhile p).map TfwChunk.len).sum⟩
    stringSplitLoop tfwStrcmp (fuel + 1) (e :: es) ps =
      if pPart.len ≠ ePart.len then .ok ([.partLenEq], .returned)
      else (stringSplitLoop tfwStrcmp fuel ((e :: es).dropWhile p) (ps.dropWhile p)).map
        fun out => ((if tfwStrcmp ePart pPart = 0 then [] else [StrExpect.strcmpOk]) ++ out.1,
          out.2) := by
  simp only [stringSplitLoop, takeRun_eq, List.nil_append, Nat.zero_add]

theorem stringSplitLoop_ok : ∀ (fuel : Nat) (es ps : List TfwChunk), es.length ≤ fuel →
    ∃ out, stringSplitLoop tfwStrcmp fuel es ps = .ok out
  | _, [], ps, _ => ⟨([], .exited [] ps), by simp only [stringSplitLoop]⟩
  | 0, _ :: _, _, enough => absurd enough (by simp)
  | fuel + 1, e :: es, ps, enough => by
      rw [stringSplitLoop_succ]
      dsimp only
      split
      · exact ⟨_, rfl⟩
      · obtain ⟨out, ran⟩ := stringSplitLoop_ok fuel _ (ps.dropWhile _)
          ((length_dropWhile_flags_le e es).trans (by simpa using enough))
        exact ⟨_, by rw [ran]; rfl⟩

variable {tfwStrcmp}

theorem stringSplitLoop_sound (equalBytes : ∀ a b, tfwStrcmp a b = 0 → a.flat = b.flat) :
    ∀ (fuel : Nat) (es ps : List TfwChunk) (ending : SplitLoopEnd),
      stringSplitLoop tfwStrcmp fuel es ps = .ok ([], ending) →
      ∃ consumed restP, ending = .exited [] restP ∧ ps = consumed ++ restP ∧
        chunkBytes es = chunkBytes consumed ∧ chunkFlags es = chunkFlags consumed
  | _, [], ps, ending, ran => by
      simp only [stringSplitLoop, Except.ok.injEq, Prod.mk.injEq, true_and] at ran
      exact ⟨[], ps, ran.symm, rfl, rfl, rfl⟩
  | 0, _ :: _, _, _, ran => by simp [stringSplitLoop] at ran
  | fuel + 1, e :: es, ps, ending, ran => by
      rw [stringSplitLoop_succ] at ran
      dsimp only at ran
      split at ran
      · simp at ran
      · next sameLen =>
          obtain ⟨⟨later, ending'⟩, rest, returned⟩ := (except_map_eq_ok.mp ran)
          simp only [Prod.mk.injEq, List.append_eq_nil] at returned
          obtain ⟨⟨matched, rfl⟩, rfl⟩ := returned
          split at matched
          · next compared =>
              obtain ⟨consumed, restP, rfl, split, bytes, flags⟩ :=
                stringSplitLoop_sound equalBytes fuel _ _ _ rest
              refine ⟨ps.takeWhile (TfwChunk.hasFlags e.flags) ++ consumed, restP, rfl, ?_, ?_, ?_⟩
              · rw [List.append_assoc, ← split, List.takeWhile_append_dropWhile]
              · have runBytes := equalBytes _ _ compared
                simp only [TfwStr.flat] at runBytes
                rw [← List.takeWhile_append_dropWhile (TfwChunk.hasFlags e.flags) (e :: es),
                  chunkBytes_append, chunkBytes_append, runBytes, bytes]
              · rw [← List.takeWhile_append_dropWhile (TfwChunk.hasFlags e.flags) (e :: es),
                  chunkFlags_append, chunkFlags_append, chunkFlags_takeWhile, chunkFlags_takeWhile,
                  flags]
                simp only [ne_eq, Decidable.not_not] at sameLen
                rw [sameLen]
          · simp at matched

theorem stringSplitLoop_complete (equalBytes : ∀ a b, a.flat = b.flat → tfwStrcmp a b = 0) :
    ∀ (fuel : Nat) (es ps : List TfwChunk), es.length ≤ fuel →
      (∀ c ∈ es, c.data ≠ []) → (∀ c ∈ ps, c.data ≠ []) →
      chunkBytes es = chunkBytes ps → chunkFlags es = chunkFlags ps →
      stringSplitLoop tfwStrcmp fuel es ps = .ok ([], .exited [] [])
  | _, [], ps, _, _, nonemptyP, bytes, _ => by
      cases ps with
      | nil => simp only [stringSplitLoop]
      | cons c cs =>
          have empty : c.data = [] := by
            have := congrArg List.length bytes
            simp only [chunkBytes_nil, chunkBytes_cons, List.length_nil, List.length_append] at this
            exact List.eq_nil_of_length_eq_zero (by omega)
          exact absurd empty (nonemptyP c (List.mem_cons_self c cs))
  | 0, _ :: _, _, enough, _, _, _, _ => absurd enough (by simp)
  | fuel + 1, e :: es, ps, enough, nonemptyE, nonemptyP, bytes, flags => by
      let p := TfwChunk.hasFlags e.flags
      have splitFlags := flags
      rw [← List.takeWhile_append_dropWhile p (e :: es), ← List.takeWhile_append_dropWhile p ps,
        chunkFlags_append, chunkFlags_append, chunkFlags_takeWhile, chunkFlags_takeWhile]
        at splitFlags
      obtain ⟨sameLen, restFlags⟩ := replicate_append_cancel splitFlags
        (head?_chunkFlags_dropWhile e.flags nonemptyE) (head?_chunkFlags_dropWhile e.flags nonemptyP)
      have splitBytes := bytes
      rw [← List.takeWhile_append_dropWhile p (e :: es), ← List.takeWhile_append_dropWhile p ps,
        chunkBytes_append, chunkBytes_append] at splitBytes
      obtain ⟨runBytes, restBytes⟩ := List.append_inj splitBytes
        (by rw [length_chunkBytes, length_chunkBytes, sameLen])
      have rest := stringSplitLoop_complete equalBytes fuel _ _
        ((length_dropWhile_flags_le e es).trans (by simpa using enough))
        (fun c member => nonemptyE c ((List.dropWhile_sublist p).subset member))
        (fun c member => nonemptyP c ((List.dropWhile_sublist p).subset member))
        restBytes restFlags
      rw [stringSplitLoop_succ]
      dsimp only
      rw [if_neg (by simpa [p] using sameLen.symm), rest,
        if_pos (equalBytes _ _ (by simpa [TfwStr.flat, p] using runBytes))]
      rfl

end Loop

/-! ## The whole check -/

/-- Given a `tfw_strcmp` that returns `0` exactly on equal bytes, a compound `expected` and
strings whose `len` is the length of their chunks, `test_string_split` returns; when it records
nothing, `parsed` is compound, has at least as many chunks, and holds the same bytes under the
same flags; and when no chunk is empty, these conditions make it record nothing. -/
theorem testStringSplit_correct (tfwStrcmp : TfwStr → TfwStr → Int)
    (strcmpSpec : ∀ a b, tfwStrcmp a b = 0 ↔ a.flat = b.flat) (expected parsed : TfwStr)
    (compound : expected.chunks ≠ [])
    (expectedLen : expected.len = (expected.chunks.map TfwChunk.len).sum)
    (parsedLen : parsed.len = (parsed.chunks.map TfwChunk.len).sum) :
    ∃ fails, testStringSplit tfwStrcmp expected parsed = .ok fails ∧
      (fails = [] → parsed.chunks ≠ [] ∧ expected.nchunks ≤ parsed.nchunks ∧
        expected.flat = parsed.flat ∧ expected.byteFlags = parsed.byteFlags) ∧
      ((∀ c ∈ expected.chunks, c.data ≠ []) → (∀ c ∈ parsed.chunks, c.data ≠ []) →
        parsed.chunks ≠ [] → expected.nchunks ≤ parsed.nchunks →
        expected.flat = parsed.flat → expected.byteFlags = parsed.byteFlags → fails = []) := by
  by_cases plain : parsed.chunks = []
  · refine ⟨[.notPlain], by simp [testStringSplit, compound, plain], by simp, ?_⟩
    intro _ _ compound'
    exact absurd plain compound'
  by_cases sameLen : parsed.len = expected.len
  · obtain ⟨⟨loopFails, ending⟩, ran⟩ := stringSplitLoop_ok tfwStrcmp expected.nchunks
      expected.chunks parsed.chunks le_rfl
    refine ⟨_, by simp only [testStringSplit, compound, plain, sameLen, ran, if_false, ne_eq,
      not_true_eq_false]; rfl, ?_, ?_⟩
    · intro recorded
      simp only [List.append_eq_nil] at recorded
      obtain ⟨⟨counted, rfl⟩, final⟩ := recorded
      obtain ⟨consumed, restP, rfl, split, bytes, flags⟩ :=
        stringSplitLoop_sound (fun a b => (strcmpSpec a b).mp) _ _ _ _ ran
      have used : restP = [] := by
        by_contra left
        simp [SplitLoopEnd.finalFails, left] at final
      rw [used, List.append_nil] at split
      refine ⟨plain, ?_, by rw [TfwStr.flat, TfwStr.flat, bytes, split],
        by rw [TfwStr.byteFlags, TfwStr.byteFlags, flags, split]⟩
      by_contra fewer
      simp [fewer] at counted
    · intro nonemptyE nonemptyP _ enough bytes flags
      rw [stringSplitLoop_complete (fun a b => (strcmpSpec a b).mpr) expected.nchunks _ _ le_rfl
        nonemptyE nonemptyP bytes flags, Except.ok.injEq] at ran
      rw [← ran]
      simp [enough, SplitLoopEnd.finalFails]
  · refine ⟨(if expected.nchunks ≤ parsed.nchunks then [] else [.nchunksGe]) ++ [.lenEq],
      by simp only [testStringSplit, compound, plain, sameLen, if_false, ne_eq, not_false_eq_true,
        if_true], by simp, ?_⟩
    intro _ _ _ _ bytes _
    have lengths := congrArg List.length bytes
    rw [TfwStr.flat, TfwStr.flat, length_chunkBytes, length_chunkBytes, ← expectedLen,
      ← parsedLen] at lengths
    exact absurd lengths.symm sameLen

/-- A `tfw_strcmp` that returns `0` exactly on equal bytes, as the one of `str.c` does. -/
def bytesStrcmp (a b : TfwStr) : Int := if a.flat = b.flat then 0 else 1

theorem bytesStrcmp_eq_zero (a b : TfwStr) : bytesStrcmp a b = 0 ↔ a.flat = b.flat := by
  unfold bytesStrcmp
  split_ifs with same <;> simp [same]

def expectedAbc : TfwStr := ⟨[⟨[97, 98], 1⟩, ⟨[99], 2⟩], 3⟩

def parsedAbc : TfwStr := ⟨[⟨[97], 1⟩, ⟨[98], 1⟩, ⟨[99], 2⟩], 3⟩

theorem abc_split_recorded_nothing :
    ∃ fails, testStringSplit bytesStrcmp expectedAbc parsedAbc = .ok fails ∧ fails = [] := by
  obtain ⟨fails, ran, -, complete⟩ := testStringSplit_correct bytesStrcmp bytesStrcmp_eq_zero
    expectedAbc parsedAbc (by decide) rfl rfl
  exact ⟨fails, ran, complete (by decide) (by decide) (by decide) (by decide) (by decide)
    (by decide)⟩

/-- Completeness needs chunks that are not empty: an empty chunk splits a run of the expected
flags, so `"a"`, an empty chunk and `"b"` against `"ab"`, the same bytes under the same flags,
record a length mismatch. -/
example :
    TfwStr.flat ⟨[⟨[97], 1⟩, ⟨[], 2⟩, ⟨[98], 1⟩], 2⟩ = TfwStr.flat ⟨[⟨[97, 98], 1⟩], 2⟩ ∧
      TfwStr.byteFlags ⟨[⟨[97], 1⟩, ⟨[], 2⟩, ⟨[98], 1⟩], 2⟩ =
        TfwStr.byteFlags ⟨[⟨[97, 98], 1⟩], 2⟩ ∧
      testStringSplit bytesStrcmp ⟨[⟨[97], 1⟩, ⟨[], 2⟩, ⟨[98], 1⟩], 2⟩ ⟨[⟨[97, 98], 1⟩], 2⟩ =
        .ok [.nchunksGe, .partLenEq] :=
  ⟨by decide, by decide, rfl⟩

end TempestaFw.ParserTest
