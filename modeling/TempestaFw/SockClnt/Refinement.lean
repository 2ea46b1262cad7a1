import TempestaFw.SockClnt.Runs

/-!
# Histories of the registry refine histories of listeners

`Listeners.step` is what one call into `sock_clnt.c` does to the registered listeners: a
`listen` entry registers one more socket when there is room and the kernel created and bound
it, `start_listen_socks` registers nothing, and `stop_listen_socks` forgets them all.

`runOps_refines`: every history run on a registry that stores some listeners goes through
without a `BUG_ON` or a NULL socket, and ends storing the listeners the abstract history gives.
-/

set_option autoImplicit false

namespace TempestaFw.SockClnt

/-- One call on the listeners. -/
def Listeners.step (l : Listeners) : RegOp → Listeners
  | .add type createR handle bindR =>
    if room : l.entries.length < LISTEN_SOCKS_MAX ∧ createR = 0 ∧ bindR = 0 then
      l.add handle type room.1
    else l
  | .start _ => l
  | .stop => .empty

def Listeners.run (l : Listeners) (ops : List RegOp) : Listeners := ops.foldl Listeners.step l

theorem regStep_refines {st : Registry} {l : Listeners} (abs : st.Abstracts l) (op : RegOp) :
    ∃ st', regStep st op = some st' ∧ st'.Abstracts (l.step op) := by
  cases op with
  | add type createR handle bindR =>
      obtain ⟨r, st', added, ended⟩ := addListenSock_abstracts abs type createR handle bindR
      refine ⟨st', by simp [regStep, added], ?_⟩
      rcases ended with ⟨room, created, bound, -, _, abs'⟩ | ⟨failed, -, abs'⟩
      · rwa [Listeners.step, dif_pos ⟨room, created, bound⟩]
      · rwa [Listeners.step, dif_neg failed]
  | start listen => exact ⟨st, regStep_start abs listen, abs⟩
  | stop => exact ⟨_, by simp [regStep, stopListenSocks_abstracts abs], abstracts_zero⟩

/-- Every history on a registry that stores `l` runs without a `BUG_ON` or a NULL socket and
ends storing `l.run ops`: the sockets, the count and the descriptors of the arrays are those of
the abstract history. -/
theorem runOps_refines : ∀ (ops : List RegOp) {st : Registry} {l : Listeners}, st.Abstracts l →
    ∃ st', runOps st ops = some st' ∧ st'.Abstracts (l.run ops)
  | [], st, _, abs => ⟨st, rfl, abs⟩
  | op :: rest, _, _, abs => by
      obtain ⟨st₁, stepped, abs₁⟩ := regStep_refines abs op
      obtain ⟨st', ran, abs'⟩ := runOps_refines rest abs₁
      exact ⟨st', by rw [runOps, stepped, Option.some_bind, ran], abs'⟩

/-- Two `listen` entries, the second failing to bind, a start, a stop and one more entry. -/
def sampleHistory : List RegOp :=
  [.add 0 0 7 0, .add 0 0 9 (-98), .start fun _ => 0, .stop, .add 0 0 3 0]

theorem zero_history_refines :
    Registry.zero.Abstracts Listeners.empty ∧
      ∃ st', runOps Registry.zero sampleHistory = some st' ∧
        st'.Abstracts (Listeners.empty.run sampleHistory) :=
  ⟨abstracts_zero, runOps_refines sampleHistory abstracts_zero⟩

end TempestaFw.SockClnt
