import TempestaFw.SockClnt.Refinement

/-!
# Every socket the file creates is released once, and only while it is alive

`add_listen_sock` asks the kernel for a socket, binds it, and releases it when the bind fails;
`start_listen_socks` calls `listen` on the registered sockets and `stop_listen_socks` releases
them.  `SockCall` is one such call on a socket, named by the handle `sock_create_kern` gave it,
and `runOpsCalls` runs a history with the calls it makes.  `replayCalls` checks calls against
the sockets alive: a socket comes alive when it is created and dies when it is released, and a
`bind`, `listen` or `sock_release` of a socket that is not alive fails.

`runOps_custody`: along every history from the initial registry the file binds, listens on
and releases only live sockets, so no socket is released twice or used after its release; the
sockets alive are at every point those registered, so a history that ends with
`stop_listen_socks` leaves none alive: no socket leaks.
-/

set_option autoImplicit false

namespace TempestaFw.SockClnt

inductive SockCall where
  | create (handle : Nat)
  | bind (handle : Nat)
  | listen (handle : Nat)
  | release (handle : Nat)
  deriving DecidableEq, Repr

/-- The socket calls of `add_listen_sock`: none when the array is full or `sock_create_kern`
fails; otherwise the new socket is bound, and released when the bind fails. -/
def addListenSockCalls (st : Registry) (createR : Int) (handle : Nat) (bindR : Int) :
    List SockCall :=
  if st.listenSocksN = LISTEN_SOCKS_MAX ∨ createR ≠ 0 then []
  else [.create handle, .bind handle] ++ if bindR ≠ 0 then [.release handle] else []

/-- The sockets the body of a `FOR_EACH_SOCK` loop that read the slots `reads` ran on: the slots
it read below the count. -/
def forEachSockBody (socks : List (Option Socket)) (n : Nat) (reads : List Nat) : List Socket :=
  (reads.filter (· < n)).filterMap fun i => socks[i]?.join

/-- The socket calls of one call into the file. -/
def regStepCalls (st : Registry) : RegOp → List SockCall
  | .add _ createR handle bindR => addListenSockCalls st createR handle bindR
  | .start listen =>
    (forEachSockBody st.listenSocks st.listenSocksN (startListenSocks listen st).1).map
      fun s => .listen s.handle
  | .stop =>
    (forEachSockBody st.listenSocks st.listenSocksN (stopListenSocks st).1).map
      fun s => .release s.handle

/-- `runOps` with the socket calls of the history. -/
def runOpsCalls : Registry → List RegOp → Option (Registry × List SockCall)
  | st, [] => some (st, [])
  | st, op :: rest => (regStep st op).bind fun st' =>
    (runOpsCalls st' rest).map fun out => (out.1, regStepCalls st op ++ out.2)

/-- Calls replayed against the handles of the sockets alive. -/
def replayCalls : List Nat → List SockCall → Option (List Nat)
  | live, [] => some live
  | live, .create h :: rest => replayCalls (h :: live) rest
  | live, .bind h :: rest => if h ∈ live then replayCalls live rest else none
  | live, .listen h :: rest => if h ∈ live then replayCalls live rest else none
  | live, .release h :: rest => if h ∈ live then replayCalls (live.erase h) rest else none

/-- The handles of the registered sockets. -/
def Registry.handles (st : Registry) : List Nat :=
  ((st.listenSocks.take st.listenSocksN).filterMap id).map Socket.handle

def Listeners.handles (l : Listeners) : List Nat := l.entries.map fun e => e.1.handle

/-! ## Replaying calls -/

theorem replayCalls_append (live : List Nat) (first second : List SockCall) :
    replayCalls live (first ++ second) = (replayCalls live first).bind (replayCalls · second) := by
  induction first generalizing live with
  | nil => rfl
  | cons call first inductionHypothesis =>
      cases call with
      | create h => exact inductionHypothesis (h :: live)
      | bind h | listen h | release h =>
          by_cases alive : h ∈ live <;> simp [replayCalls, alive, inductionHypothesis]

theorem replayCalls_listens {live : List Nat} :
    ∀ ss : List Socket, (∀ s ∈ ss, s.handle ∈ live) →
      replayCalls live (ss.map fun s => .listen s.handle) = some live
  | [], _ => rfl
  | s :: ss, alive => by
      rw [List.map_cons, replayCalls, if_pos (alive s (List.mem_cons_self s ss))]
      exact replayCalls_listens ss fun s' member => alive s' (List.mem_cons_of_mem s member)

theorem replayCalls_releases (rest : List Nat) :
    ∀ (ss : List Socket) {live : List Nat}, live.Perm (ss.map Socket.handle ++ rest) →
      ∃ live', replayCalls live (ss.map fun s => .release s.handle) = some live' ∧
        live'.Perm rest
  | [], _, alive => ⟨_, rfl, alive⟩
  | s :: ss, live, alive => by
      have member : s.handle ∈ live := alive.mem_iff.mpr (List.mem_cons_self _ _)
      have erased : (live.erase s.handle).Perm (ss.map Socket.handle ++ rest) := by
        simpa using alive.erase s.handle
      rw [List.map_cons, replayCalls, if_pos member]
      exact replayCalls_releases rest ss erased

/-! ## What the loops of a registry that stores `l` run on -/

theorem filterMap_getElem?_range {α : Type} :
    ∀ xs : List α, (List.range xs.length).filterMap (fun i => xs[i]?) = xs
  | [] => rfl
  | x :: xs => by
      rw [List.length_cons, List.range_succ_eq_map, List.filterMap_cons, List.filterMap_map]
      simp only [List.getElem?_cons_zero, Function.comp_def, List.getElem?_cons_succ,
        filterMap_getElem?_range xs]

section Loops
variable {st : Registry} {l : Listeners}

theorem Registry.Abstracts.handles (abs : st.Abstracts l) : st.handles = l.handles := by
  have kept : (l.entries.filterMap fun e => some e.1) = l.entries.map Prod.fst :=
    List.filterMap_eq_map_iff_forall_eq_some.mpr fun _ _ => rfl
  simp [Registry.handles, Listeners.handles, abs.socks, abs.count, kept]

theorem forEachSockBody_mem (abs : st.Abstracts l) (reads : List Nat) {s : Socket}
    (member : s ∈ forEachSockBody st.listenSocks st.listenSocksN reads) :
    s.handle ∈ l.handles := by
  obtain ⟨i, read, slot⟩ := List.mem_filterMap.mp member
  obtain ⟨e, entry, slot'⟩ := abs.slot_of_lt (of_decide_eq_true (List.mem_filter.mp read).2)
  have found : e.1 = s := by simpa [slot'] using slot
  rw [← found]
  exact List.mem_map_of_mem _ (List.getElem?_mem entry)

theorem forEachSockBody_range (abs : st.Abstracts l) :
    forEachSockBody st.listenSocks st.listenSocksN (List.range (st.listenSocksN + 1)) =
      l.entries.map Prod.fst := by
  have below : (List.range (st.listenSocksN + 1)).filter (· < st.listenSocksN) =
      List.range l.entries.length := by
    rw [List.range_succ, List.filter_append, abs.count]
    simp [List.filter_eq_self.mpr fun i member => decide_eq_true (List.mem_range.mp member)]
  have slots : ∀ i ∈ List.range l.entries.length,
      st.listenSocks[i]?.join = (l.entries.map Prod.fst)[i]? := by
    intro i member
    rw [abs.socks, List.getElem?_append_left (by simpa using List.mem_range.mp member),
      List.getElem?_map, List.getElem?_map]
    cases l.entries[i]? <;> rfl
  rw [forEachSockBody, below, List.filterMap_congr slots, ← List.length_map l.entries Prod.fst]
  exact filterMap_getElem?_range _

end Loops

/-! ## One call, then a whole history -/

theorem regStepCalls_custody {st : Registry} {l : Listeners} (abs : st.Abstracts l) (op : RegOp)
    {live : List Nat} (alive : live.Perm l.handles) :
    ∃ live', replayCalls live (regStepCalls st op) = some live' ∧
      live'.Perm (l.step op).handles := by
  cases op with
  | add type createR handle bindR =>
      have countEq := abs.count
      have bounded := l.length_le
      simp only [regStepCalls, addListenSockCalls, Listeners.step]
      by_cases refused : st.listenSocksN = LISTEN_SOCKS_MAX ∨ createR ≠ 0
      · rw [if_pos refused, dif_neg (by omega)]
        exact ⟨live, rfl, alive⟩
      · by_cases bound : bindR ≠ 0
        · rw [if_neg refused, if_pos bound, dif_neg (by omega)]
          exact ⟨live, by simp [replayCalls], alive⟩
        · rw [if_neg refused, if_neg bound, dif_pos (by omega)]
          refine ⟨handle :: live, by simp [replayCalls], ?_⟩
          simpa [Listeners.handles, Listeners.add] using
            (alive.cons handle).trans (List.perm_append_singleton _ _).symm
  | start listen =>
      refine ⟨live, replayCalls_listens _ fun s member => ?_, alive⟩
      exact alive.mem_iff.mpr (forEachSockBody_mem abs _ member)
  | stop =>
      rw [regStepCalls, stopListenSocks_abstracts abs, forEachSockBody_range abs]
      obtain ⟨live', replayed, left⟩ := replayCalls_releases [] (l.entries.map Prod.fst)
        (by simpa [Listeners.handles] using alive)
      exact ⟨live', replayed,
        by simpa [Listeners.step, Listeners.handles, Listeners.empty] using left⟩

theorem runOpsCalls_custody : ∀ (ops : List RegOp) {st : Registry} {l : Listeners}
    {live : List Nat}, st.Abstracts l → live.Perm l.handles →
    ∃ st' calls live', runOpsCalls st ops = some (st', calls) ∧
      replayCalls live calls = some live' ∧ st'.Abstracts (l.run ops) ∧
      live'.Perm (l.run ops).handles
  | [], st, _, live, abs, alive => ⟨st, [], live, rfl, rfl, abs, alive⟩
  | op :: rest, st, l, live, abs, alive => by
      obtain ⟨st₁, stepped, abs₁⟩ := regStep_refines abs op
      obtain ⟨live₁, replayed, alive₁⟩ := regStepCalls_custody abs op alive
      obtain ⟨st', calls, live', ran, replayedRest, abs', alive'⟩ :=
        runOpsCalls_custody rest abs₁ alive₁
      refine ⟨st', regStepCalls st op ++ calls, live', ?_, ?_, abs', alive'⟩
      · rw [runOpsCalls, stepped, Option.some_bind, ran]
        rfl
      · rw [replayCalls_append, replayed, Option.some_bind, replayedRest]

/-- Along every history from the initial registry, the calls `bind`, `listen` and
`sock_release` of `sock_clnt.c` are on sockets created and not yet released, so none is
released twice; the sockets alive at the end are those registered, and none is alive after a
history that ends with `stop_listen_socks`. -/
theorem runOps_custody (ops : List RegOp) :
    ∃ st calls live, runOpsCalls Registry.zero ops = some (st, calls) ∧
      replayCalls [] calls = some live ∧ live.Perm st.handles ∧
      (ops.getLast? = some .stop → live = []) := by
  obtain ⟨st, calls, live, ran, replayed, abs, alive⟩ :=
    runOpsCalls_custody ops abstracts_zero (List.Perm.refl [])
  refine ⟨st, calls, live, ran, replayed, abs.handles ▸ alive, fun stopped => ?_⟩
  have emptied : (Listeners.empty.run ops).entries = [] := by
    rw [← List.dropLast_append_getLast? _ stopped, Listeners.run, List.foldl_append]
    rfl
  exact List.Perm.eq_nil (by simpa [Listeners.handles, emptied] using alive)

end TempestaFw.SockClnt
