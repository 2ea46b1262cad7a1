import Mathlib.Data.List.Basic

/-!
# The listening-socket registry of `sock_clnt.c`

`listen_socks`, `listen_socks_n` and `protos` as one record, and the functions of the file
that read or write them: `add_listen_sock`, `handle_listen_cfg_entry`, `start_listen_socks`
and `stop_listen_socks`.  The kernel calls (`sock_create_kern`, `ops->bind`, `ops->listen`)
are not part of the file, so every operation takes the outcome the kernel reported as an
argument.  `FOR_EACH_SOCK` reads `listen_socks[i]` before it tests `i < listen_socks_n`: the
loop model returns the indices it read next to the way it ended, and a read past the array
is `none`.
-/

set_option autoImplicit false

namespace TempestaFw.SockClnt

def LISTEN_SOCKS_MAX : Nat := 8

def ENOBUFS : Int := 105

def EINVAL : Int := 22

/-- A socket `sock_create_kern` handed back (never NULL), and the `protos` slot whose address
`ss_set_proto` stored in it. -/
structure Socket where
  handle : Nat
  proto : Nat
  deriving DecidableEq, Repr

/-- `SsProto`: the connection type, and whether `ss_client_hooks` is installed. -/
structure SsProto where
  type : Int
  clientHooks : Bool
  deriving DecidableEq, Repr

def SsProto.zero : SsProto := ⟨0, false⟩

/-- The file's static state; both arrays have their declared length. -/
structure Registry where
  listenSocks : List (Option Socket)
  listenSocksN : Nat
  protos : List SsProto
  listenSocks_length : listenSocks.length = LISTEN_SOCKS_MAX
  protos_length : protos.length = LISTEN_SOCKS_MAX
  deriving DecidableEq

/-- The static initial state, which `stop_listen_socks` also restores. -/
def Registry.zero : Registry where
  listenSocks := List.replicate LISTEN_SOCKS_MAX none
  listenSocksN := 0
  protos := List.replicate LISTEN_SOCKS_MAX SsProto.zero
  listenSocks_length := List.length_replicate _ _
  protos_length := List.length_replicate _ _

def Registry.setProto (st : Registry) (i : Nat) (p : SsProto) : Registry :=
  { st with
    protos := st.protos.set i p
    protos_length := (List.length_set _ _ _).trans st.protos_length }

def Registry.push (st : Registry) (s : Socket) : Registry :=
  { st with
    listenSocks := st.listenSocks.set st.listenSocksN (some s)
    listenSocksN := st.listenSocksN + 1
    listenSocks_length := (List.length_set _ _ _).trans st.listenSocks_length }

@[simp] theorem Registry.setProto_listenSocks (st : Registry) (i : Nat) (p : SsProto) :
    (st.setProto i p).listenSocks = st.listenSocks := rfl

@[simp] theorem Registry.setProto_listenSocksN (st : Registry) (i : Nat) (p : SsProto) :
    (st.setProto i p).listenSocksN = st.listenSocksN := rfl

@[simp] theorem Registry.setProto_protos (st : Registry) (i : Nat) (p : SsProto) :
    (st.setProto i p).protos = st.protos.set i p := rfl

@[simp] theorem Registry.push_listenSocks (st : Registry) (s : Socket) :
    (st.push s).listenSocks = st.listenSocks.set st.listenSocksN (some s) := rfl

@[simp] theorem Registry.push_listenSocksN (st : Registry) (s : Socket) :
    (st.push s).listenSocksN = st.listenSocksN + 1 := rfl

@[simp] theorem Registry.push_protos (st : Registry) (s : Socket) :
    (st.push s).protos = st.protos := rfl

/-! ## `add_listen_sock` and `handle_listen_cfg_entry` -/

/-- `add_listen_sock`, given what `sock_create_kern` returned (`createR`, and the socket
`handle` when it is `0`) and what `ops->bind` returned.  `none` is the `BUG_ON` firing. -/
def addListenSock (st : Registry) (type createR : Int) (handle : Nat) (bindR : Int) :
    Option (Int × Registry) :=
  if st.listenSocksN = LISTEN_SOCKS_MAX then some (-ENOBUFS, st)
  else if createR ≠ 0 then some (createR, st)
  else
    let s : Socket := ⟨handle, st.listenSocksN⟩
    let st' := st.setProto st.listenSocksN ⟨type, true⟩
    if bindR ≠ 0 then some (bindR, st')
    else if (st'.listenSocks[st'.listenSocksN]?.join).isSome then none
    else some (0, st'.push s)

/-- `handle_listen_cfg_entry`: `parsed` is the verdict of the value checks it delegates to
`tfw_cfg_check_single_val`, `tfw_cfg_parse_int`, `tfw_cfg_check_range` and `tfw_addr_pton`
(all outside this file); `fsmHttp` is `TFW_FSM_HTTP`. -/
def handleListenCfgEntry (fsmHttp : Int) (parsed : Bool) (st : Registry) (createR : Int)
    (handle : Nat) (bindR : Int) : Option (Int × Registry) :=
  if parsed then addListenSock st fsmHttp createR handle bindR else some (-EINVAL, st)

/-! ## `FOR_EACH_SOCK`, `start_listen_socks` and `stop_listen_socks` -/

/-- How a `FOR_EACH_SOCK` loop ended: the test `i < listen_socks_n` failed, the body left with
`return r`, or the body was handed a NULL `sock` (or one read past the array) at index `i`. -/
inductive LoopEnd (α : Type) where
  | done
  | ret (r : α)
  | nullSock (i : Nat)
  deriving DecidableEq, Repr

/-- `FOR_EACH_SOCK (sock, i) body` from index `i` on.  Each iteration first reads
`listen_socks[i]`, then tests `i < listen_socks_n`; `body` returns `some r` for `return r`.
The list holds every index read, in order. -/
def forEachSock {α : Type} (body : Socket → Option α) (socks : List (Option Socket))
    (n i : Nat) : List Nat × LoopEnd α :=
  if i < n then
    match socks[i]?.join with
    | none => ([i], .nullSock i)
    | some s =>
      match body s with
      | some r => ([i], .ret r)
      | none =>
        let rest := forEachSock body socks n (i + 1)
        (i :: rest.1, rest.2)
  else ([i], .done)
termination_by n - i

theorem forEachSock_of_not_lt {α : Type} (body : Socket → Option α)
    (socks : List (Option Socket)) {n i : Nat} (stop : ¬ i < n) :
    forEachSock body socks n i = ([i], .done) := by
  rw [forEachSock, if_neg stop]

theorem forEachSock_of_filled {α : Type} (body : Socket → Option α)
    (socks : List (Option Socket)) (n : Nat) : ∀ i, i ≤ n →
      (∀ j, i ≤ j → j < n → (socks[j]?.join).isSome) →
      ∃ k, i ≤ k ∧ k ≤ n ∧ (forEachSock body socks n i).1 = List.range' i (k + 1 - i) ∧
        ((k = n ∧ (forEachSock body socks n i).2 = .done) ∨
          ∃ r, k < n ∧ (forEachSock body socks n i).2 = .ret r) := by
  intro i
  induction i using forEachSock.induct body socks n with
  | case1 i below empty =>
      intro _ filled
      have present := filled i le_rfl below
      rw [empty] at present
      exact absurd present Bool.false_ne_true
  | case2 i below s slot r returned =>
      intro _ _
      have unfold : forEachSock body socks n i = ([i], .ret r) := by
        rw [forEachSock, if_pos below, slot]
        simp [returned]
      refine ⟨i, le_rfl, below.le, ?_, .inr ⟨r, below, ?_⟩⟩ <;> simp [unfold]
  | case3 i below s slot continued inductionHypothesis =>
      intro _ filled
      obtain ⟨k, after, bounded, reads, ended⟩ := inductionHypothesis below
        (fun j hj hjn => filled j (by omega) hjn)
      have unfold : forEachSock body socks n i =
          (i :: (forEachSock body socks n (i + 1)).1, (forEachSock body socks n (i + 1)).2) := by
        rw [forEachSock, if_pos below, slot]
        simp [continued]
      refine ⟨k, by omega, bounded, ?_, by rwa [unfold]⟩
      rw [unfold, reads, show k + 1 - i = (k + 1 - (i + 1)) + 1 by omega, List.range'_succ]
  | case4 i stop =>
      intro bounded _
      have atEnd : i = n := by omega
      refine ⟨i, le_rfl, bounded, ?_, .inl ⟨atEnd, ?_⟩⟩ <;>
        simp [forEachSock_of_not_lt body socks stop]

theorem forEachSock_ne_ret {α : Type} (socks : List (Option Socket)) (n : Nat) :
    ∀ i (r : α), (forEachSock (fun _ => none) socks n i).2 ≠ .ret r := by
  intro i
  induction i using forEachSock.induct (fun _ => (none : Option α)) socks n with
  | case1 i below empty =>
      intro r
      rw [forEachSock, if_pos below, empty]
      simp
  | case2 i below s slot r' returned => exact absurd returned (by simp)
  | case3 i below s slot continued inductionHypothesis =>
      intro r
      rw [forEachSock, if_pos below, slot]
      exact inductionHypothesis r
  | case4 i stop =>
      intro r
      simp [forEachSock_of_not_lt _ socks stop]

/-- `start_listen_socks`: `listen` is what `ops->listen` returns for each socket. -/
def startListenSocks (listen : Socket → Int) (st : Registry) : List Nat × LoopEnd Int :=
  forEachSock (fun s => if listen s ≠ 0 then some (listen s) else none)
    st.listenSocks st.listenSocksN 0

/-- `stop_listen_socks`: release every socket, then zero both arrays and the count.  The state
is `none` when the loop hands `sock_release` a NULL socket. -/
def stopListenSocks (st : Registry) : List Nat × Option Registry :=
  let loop := forEachSock (fun _ => (none : Option Unit)) st.listenSocks st.listenSocksN 0
  (loop.1, match loop.2 with
    | .nullSock _ => none
    | _ => some Registry.zero)

/-! ## Histories -/

inductive RegOp where
  | add (type createR : Int) (handle : Nat) (bindR : Int)
  | start (listen : Socket → Int)
  | stop

def regStep (st : Registry) : RegOp → Option Registry
  | .add type createR handle bindR => (addListenSock st type createR handle bindR).map Prod.snd
  | .start listen =>
    match (startListenSocks listen st).2 with
    | .nullSock _ => none
    | _ => some st
  | .stop => (stopListenSocks st).2

/-- The states some history reaches from the all-zero one. -/
inductive Reachable : Registry → Prop where
  | zero : Reachable Registry.zero
  | step {st st' : Registry} (op : RegOp) :
      Reachable st → regStep st op = some st' → Reachable st'

end TempestaFw.SockClnt
