import TempestaFw.SockClnt.Listeners

/-!
# Histories of the listening-socket registry

Every call keeps the abstraction of `TempestaFw.SockClnt.Listeners` (`regStep_abstracts`), so
every registry a history reaches stores some list of listeners (`reachable_abstracts`).
`reachable_registry_consistent` reads the invariants of the arrays off that, and
`eight_listen_entries_read_past_array` shows both `FOR_EACH_SOCK` loops of a full registry
reading `listen_socks[8]`, one slot past the array, before they test the count.
-/

set_option autoImplicit false

namespace TempestaFw.SockClnt

section Step
variable {st : Registry} {l : Listeners}

theorem regStep_start (abs : st.Abstracts l) (listen : Socket → Int) :
    regStep st (.start listen) = some st := by
  obtain ⟨k, -, -, ended⟩ :=
    forEachSock_abstracts abs (fun s => if listen s ≠ 0 then some (listen s) else none)
  simp only [regStep, startListenSocks]
  rcases ended with ⟨-, done⟩ | ⟨r, -, returned⟩
  · rw [done]
  · rw [returned]

theorem regStep_abstracts (abs : st.Abstracts l) (op : RegOp) :
    ∃ st', regStep st op = some st' ∧ ∃ l', st'.Abstracts l' := by
  cases op with
  | add type createR handle bindR =>
      obtain ⟨r, st', added, ended⟩ := addListenSock_abstracts abs type createR handle bindR
      refine ⟨st', by simp [regStep, added], ?_⟩
      rcases ended with ⟨-, -, -, -, room, abs'⟩ | ⟨-, -, abs'⟩
      · exact ⟨_, abs'⟩
      · exact ⟨_, abs'⟩
  | start listen => exact ⟨st, regStep_start abs listen, l, abs⟩
  | stop =>
      exact ⟨_, by simp [regStep, stopListenSocks_abstracts abs], _, abstracts_zero⟩

end Step

theorem reachable_abstracts {st : Registry} (reach : Reachable st) :
    ∃ l, st.Abstracts l := by
  induction reach with
  | zero => exact ⟨_, abstracts_zero⟩
  | step op _ stepped inductionHypothesis =>
      obtain ⟨l, abs⟩ := inductionHypothesis
      obtain ⟨st', result, l', abs'⟩ := regStep_abstracts abs op
      rw [stepped, Option.some.injEq] at result
      exact ⟨l', result ▸ abs'⟩

/-! ## Histories of calls -/

/-- Apply calls in order; `none` once a call hits a `BUG_ON` or a NULL socket. -/
def runOps : Registry → List RegOp → Option Registry
  | st, [] => some st
  | st, op :: rest => (regStep st op).bind (runOps · rest)

theorem runOps_reachable : ∀ (ops : List RegOp) {st st' : Registry}, Reachable st →
    runOps st ops = some st' → Reachable st'
  | [], _, _, reach, ran => by
      rw [runOps, Option.some.injEq] at ran
      exact ran ▸ reach
  | op :: rest, st, _, reach, ran => by
      rw [runOps] at ran
      cases stepped : regStep st op with
      | none => simp [stepped] at ran
      | some next =>
          rw [stepped, Option.some_bind] at ran
          exact runOps_reachable rest (Reachable.step op reach stepped) ran

/-- Eight `listen` entries whose socket creation and bind succeed. -/
def eightListenEntries : List RegOp :=
  (List.range LISTEN_SOCKS_MAX).map fun k => .add 0 0 k 0

/-- A `listen` entry whose bind fails with `-EADDRINUSE`, one whose `sock_create_kern` fails
with `-ENOMEM`, then eight that succeed. -/
def fullHistory : List RegOp := .add 0 0 9 (-98) :: .add 0 (-12) 9 0 :: eightListenEntries

def fullRegistry : Registry := (runOps Registry.zero fullHistory).getD Registry.zero

/-! ## The invariants of the arrays -/

/-- In every reachable state the count is at most `LISTEN_SOCKS_MAX`, exactly the slots below
it hold sockets, socket `i` was set up with `protos[i]`, `add_listen_sock` cannot reach its
`BUG_ON`, a failing `add_listen_sock` leaves the sockets, the count and the registered
descriptors alone, and `start_listen_socks` changes nothing. -/
theorem reachable_registry_consistent (st : Registry) (reach : Reachable st) :
    st.listenSocksN ≤ LISTEN_SOCKS_MAX ∧
    (∀ i < LISTEN_SOCKS_MAX, (st.listenSocks[i]?.join).isSome ↔ i < st.listenSocksN) ∧
    (∀ i < st.listenSocksN, ∃ s, st.listenSocks[i]? = some (some s) ∧ s.proto = i) ∧
    (∀ type createR handle bindR, addListenSock st type createR handle bindR ≠ none) ∧
    (∀ type createR handle bindR r st',
      addListenSock st type createR handle bindR = some (r, st') → r ≠ 0 →
        st'.listenSocks = st.listenSocks ∧ st'.listenSocksN = st.listenSocksN ∧
          st'.protos.take st.listenSocksN = st.protos.take st.listenSocksN) ∧
    (∀ listen, regStep st (.start listen) = some st) := by
  obtain ⟨l, abs⟩ := reachable_abstracts reach
  refine ⟨abs.count_le, ?_, ?_, ?_, ?_, regStep_start abs⟩
  · intro i inArray
    by_cases below : i < st.listenSocksN
    · obtain ⟨e, -, slot⟩ := abs.slot_of_lt below
      simp [slot, below]
    · simp [abs.slot_of_ge (Nat.le_of_not_lt below) inArray, below]
  · intro i below
    obtain ⟨e, entry, slot⟩ := abs.slot_of_lt below
    exact ⟨e.1, slot, l.proto_eq i e entry⟩
  · intro type createR handle bindR
    obtain ⟨r, st', added, -⟩ := addListenSock_abstracts abs type createR handle bindR
    simp [added]
  · intro type createR handle bindR r st' added failed
    obtain ⟨r', st'', added', ended⟩ := addListenSock_abstracts abs type createR handle bindR
    rw [added, Option.some.injEq, Prod.mk.injEq] at added'
    obtain ⟨rfl, rfl⟩ := added'
    rcases ended with ⟨-, -, -, succeeded, -⟩ | ⟨-, -, abs'⟩
    · exact absurd succeeded failed
    · exact abs.frame abs'

theorem full_registry_consistent :
    Reachable fullRegistry ∧
    (fullRegistry.listenSocksN ≤ LISTEN_SOCKS_MAX ∧
    (∀ i < LISTEN_SOCKS_MAX, (fullRegistry.listenSocks[i]?.join).isSome ↔
      i < fullRegistry.listenSocksN) ∧
    (∀ i < fullRegistry.listenSocksN, ∃ s, fullRegistry.listenSocks[i]? = some (some s) ∧
      s.proto = i) ∧
    (∀ type createR handle bindR, addListenSock fullRegistry type createR handle bindR ≠ none) ∧
    (∀ type createR handle bindR r st',
      addListenSock fullRegistry type createR handle bindR = some (r, st') → r ≠ 0 →
        st'.listenSocks = fullRegistry.listenSocks ∧
          st'.listenSocksN = fullRegistry.listenSocksN ∧
          st'.protos.take fullRegistry.listenSocksN = fullRegistry.protos.take
            fullRegistry.listenSocksN) ∧
    (∀ listen, regStep fullRegistry (.start listen) = some fullRegistry)) :=
  have reach : Reachable fullRegistry := runOps_reachable fullHistory .zero rfl
  ⟨reach, reachable_registry_consistent fullRegistry reach⟩

/-- After eight successful `listen` entries both loops read `listen_socks[8]`, one slot past
the array. -/
theorem eight_listen_entries_read_past_array :
    ∃ st, runOps Registry.zero eightListenEntries = some st ∧ Reachable st ∧
      st.listenSocks[LISTEN_SOCKS_MAX]? = none ∧
      LISTEN_SOCKS_MAX ∈ (stopListenSocks st).1 ∧
      LISTEN_SOCKS_MAX ∈ (startListenSocks (fun _ => 0) st).1 := by
  obtain ⟨st, ran⟩ : ∃ st, runOps Registry.zero eightListenEntries = some st := ⟨_, rfl⟩
  have reach := runOps_reachable _ Reachable.zero ran
  obtain ⟨l, abs⟩ := reachable_abstracts reach
  have full : st.listenSocksN = LISTEN_SOCKS_MAX := by
    rw [Option.some.inj (ran.symm.trans rfl)]
    rfl
  obtain ⟨k, -, reads, allListen⟩ := startListenSocks_abstracts abs fun _ => 0
  refine ⟨st, ran, reach, List.getElem?_eq_none (by rw [st.listenSocks_length]), ?_, ?_⟩
  · rw [stopListenSocks_abstracts abs, full]
    exact List.mem_range.mpr (Nat.lt_succ_self _)
  · rw [reads, allListen fun _ => rfl, full]
    exact List.mem_range.mpr (Nat.lt_succ_self _)

end TempestaFw.SockClnt
