import Bmc.Lib.Table
import Bmc.Vnc.Session

/-!
# The session table

* `Consistent`: the slots in use are those of the clients;
* `Tidy`, `Swept`, `Kept`: what is expected after an event; `Orderly`: what it takes;
* `consistent_connect`, `consistent_sweep`: orderly events keep the table consistent;
* `orderly_connect`, `orderly_sweep`: other events do not;
* **`everyStep_kept_iff`**: every event of a run is as expected exactly when every event is orderly.
-/

namespace BmcVnc

open BmcLib

variable {s : Server}

/-! ## Lists of sockets -/

/-- The sockets that are in use. -/
def used (socks : List ℤ) : List ℤ := socks.filter (0 < ·)

theorem mem_used {socks : List ℤ} {v : ℤ} : v ∈ used socks ↔ v ∈ socks ∧ 0 < v := by
  rw [used, List.mem_filter, decide_eq_true_iff]

theorem count_used {socks : List ℤ} {v : ℤ} (hv : 0 < v) : (used socks).count v = socks.count v :=
  List.count_filter (decide_eq_true hv)

theorem used_append (socks socks' : List ℤ) : used (socks ++ socks') = used socks ++ used socks' :=
  List.filter_append _ _

theorem used_cons_of_pos {v : ℤ} (hv : 0 < v) (socks : List ℤ) : used (v :: socks) = v :: used socks :=
  List.filter_cons_of_pos (decide_eq_true hv)

theorem used_cons_of_not_pos {v : ℤ} (hv : ¬ 0 < v) (socks : List ℤ) : used (v :: socks) = used socks :=
  List.filter_cons_of_neg (by simpa using hv)

theorem set_eq {socks : List ℤ} {i : ℕ} {a : ℤ} (h : socks[i]? = some a) (v : ℤ) :
    socks = socks.take i ++ a :: socks.drop (i + 1) ∧
      socks.set i v = socks.take i ++ v :: socks.drop (i + 1) := by
  obtain ⟨hi, rfl⟩ := List.getElem?_eq_some_iff.1 h
  refine ⟨?_, List.set_eq_take_append_cons_drop.trans (if_pos hi)⟩
  rw [← List.drop_eq_getElem_cons hi, List.take_append_drop]

/-- A slot in use is released. -/
theorem used_release {socks : List ℤ} {i : ℕ} {a : ℤ} (h : socks[i]? = some a) (ha : 0 < a) :
    (a :: used (socks.set i (-1))).Perm (used socks) := by
  obtain ⟨hsocks, hset⟩ := set_eq h (-1)
  have hused := congrArg used hsocks
  rw [used_append, used_cons_of_pos ha] at hused
  rw [hset, hused, used_append, used_cons_of_not_pos (by decide)]
  exact List.perm_middle.symm

/-- A slot that is not in use is released once more. -/
theorem used_release_free {socks : List ℤ} {i : ℕ} {a : ℤ} (h : socks[i]? = some a) (ha : ¬ 0 < a) :
    used (socks.set i (-1)) = used socks := by
  obtain ⟨hsocks, hset⟩ := set_eq h (-1)
  have hused := congrArg used hsocks
  rw [used_append, used_cons_of_not_pos ha] at hused
  rw [hset, hused, used_append, used_cons_of_not_pos (by decide)]

/-! ## Slots -/

/-- The sockets of the slots. -/
def Server.socks (s : Server) : List ℤ := s.sessionInfo.map Session.sock

@[simp] theorem length_socks : s.socks.length = s.maxSession := List.length_map _

@[simp] theorem length_setSessionInfo (fd : ℤ) (slots : List Session) :
    (setSessionInfo fd slots).length = slots.length := by
  induction slots with
  | nil => rfl
  | cons slot slots ih =>
    rw [setSessionInfo]
    split_ifs
    · rfl
    · rw [List.length_cons, ih, List.length_cons]

/-- The first free slot is filled. -/
theorem used_setSessionInfo {fd : ℤ} (hfd : 0 < fd) {slots : List Session}
    (hfree : ∃ slot ∈ slots, slot.sock ≤ 0) :
    (used ((setSessionInfo fd slots).map Session.sock)).Perm (fd :: used (slots.map Session.sock)) := by
  induction slots with
  | nil => obtain ⟨slot, hslot, -⟩ := hfree; cases hslot
  | cons slot slots ih =>
    rw [setSessionInfo]
    split_ifs with h
    · rw [List.map_cons, List.map_cons, used_cons_of_pos hfd, used_cons_of_not_pos (not_lt.2 h)]
    · have hpos : 0 < slot.sock := not_le.1 h
      have hrest : ∃ slot ∈ slots, slot.sock ≤ 0 := by
        obtain ⟨slot', hslot', hle⟩ := hfree
        rcases List.mem_cons.1 hslot' with rfl | hmem
        · exact absurd hle h
        · exact ⟨slot', hmem, hle⟩
      rw [List.map_cons, List.map_cons, used_cons_of_pos hpos, used_cons_of_pos hpos]
      exact ((ih hrest).cons slot.sock).trans (List.Perm.swap _ _ _)

theorem map_sock_setTimedOut (fd : ℤ) (slots : List Session) :
    (setTimedOut fd slots).map Session.sock = slots.map Session.sock := by
  induction slots with
  | nil => rfl
  | cons slot slots ih =>
    rw [setTimedOut]
    split_ifs
    · rfl
    · rw [List.map_cons, ih, List.map_cons]

@[simp] theorem length_setTimedOut (fd : ℤ) (slots : List Session) :
    (setTimedOut fd slots).length = slots.length := by
  have := congrArg List.length (map_sock_setTimedOut fd slots)
  rwa [List.length_map, List.length_map] at this

theorem map_sock_cleanUp (slots : List Session) (i : ℕ) :
    (cleanUpInvalidSession slots i).map Session.sock = (slots.map Session.sock).set i (-1) :=
  List.map_set

theorem findDown_spec {slots : List Session} {fd : ℤ} {n i : ℕ} {slot : Session}
    (h : findDown slots fd n = some (i, slot)) : i < n ∧ slots[i]? = some slot ∧ slot.sock = fd := by
  induction n with
  | zero => cases h
  | succ n ih =>
    rw [findDown] at h
    cases hslot : slots[n]? with
    | none =>
      rw [hslot] at h
      obtain ⟨hlt, hrest⟩ := ih h
      exact ⟨Nat.lt_succ_of_lt hlt, hrest⟩
    | some slot' =>
      rw [hslot] at h
      dsimp only at h
      split_ifs at h with hsock
      · obtain ⟨rfl, rfl⟩ := Prod.mk.inj (Option.some_injective _ h)
        exact ⟨Nat.lt_succ_self _, hslot, hsock⟩
      · obtain ⟨hlt, hrest⟩ := ih h
        exact ⟨Nat.lt_succ_of_lt hlt, hrest⟩

/-- What `isCleanUpSession` does: it releases a slot of the socket, or nothing. -/
theorem isCleanUpSession_cases (slots : List Session) (fd : ℤ) :
    isCleanUpSession slots fd = (false, slots) ∨
      0 < fd ∧ ∃ i, (slots.map Session.sock)[i]? = some fd ∧
        isCleanUpSession slots fd = (true, cleanUpInvalidSession slots i) := by
  rw [isCleanUpSession]
  split_ifs with hfd
  swap
  · exact .inl rfl
  cases hfind : findDown slots fd slots.length with
  | none => exact .inl rfl
  | some found =>
    obtain ⟨i, slot⟩ := found
    obtain ⟨-, hslot, hsock⟩ := findDown_spec hfind
    dsimp only
    split_ifs
    · refine .inr ⟨hfd, i, ?_, rfl⟩
      rw [List.getElem?_map, hslot, Option.map_some, hsock]
    · exact .inl rfl

/-! ## Active sockets -/

theorem activeSocketLoop_eq {n : ℤ} {count : ℕ} {clients : List Client}
    (h : (count : ℤ) + clients.length ≤ n + 1) :
    activeSocketLoop n count clients = clients.map Client.sock := by
  induction clients generalizing count with
  | nil => rfl
  | cons cl clients ih =>
    rw [List.length_cons] at h
    push_cast at h
    rw [activeSocketLoop, if_neg (by omega), ih (by push_cast; omega), List.map_cons]

theorem getActiveSocketList_eq (clients : List Client) :
    getActiveSocketList clients clients.length = clients.map Client.sock :=
  activeSocketLoop_eq (by push_cast; omega)

theorem isActiveSocket_eq (written : List ℤ) (heap : ℕ → ℤ) (sock : ℤ) :
    isActiveSocket written.length written heap sock = decide (sock ∈ written) := by
  rw [isActiveSocket, Int.toNat_natCast, Bool.eq_iff_iff, List.any_eq_true, decide_eq_true_iff]
  constructor
  · rintro ⟨i, hi, h⟩
    rw [List.mem_range] at hi
    rw [decide_eq_true_iff, List.getElem?_eq_getElem hi, Option.getD_some] at h
    exact h ▸ List.getElem_mem hi
  · intro h
    obtain ⟨i, hi, rfl⟩ := List.getElem_of_mem h
    exact ⟨i, List.mem_range.2 hi, by rw [List.getElem?_eq_getElem hi, Option.getD_some, decide_eq_true_iff]⟩

/-- The search for a stale slot ends at the first one, if there is one. -/
theorem staleIndex_spec (active : ℤ → Bool) {slots : List Session} {j : ℕ} {v : ℤ}
    (hj : (slots.map Session.sock)[j]? = some v) (hv : active v = false) :
    staleIndex slots active ≤ j ∧
      ∃ a, (slots.map Session.sock)[staleIndex slots active]? = some a ∧ active a = false := by
  rw [List.getElem?_map, Option.map_eq_some_iff] at hj
  obtain ⟨slot, hslot, rfl⟩ := hj
  obtain ⟨hlt, hget⟩ := List.getElem?_eq_some_iff.1 hslot
  have hle : staleIndex slots active ≤ j := by
    by_contra hc
    have := List.not_of_lt_findIdx (not_le.1 hc)
    rw [hget, hv] at this
    exact absurd this (by decide)
  have hidx : staleIndex slots active < slots.length := hle.trans_lt hlt
  refine ⟨hle, (slots[staleIndex slots active]).sock, ?_, ?_⟩
  · rw [List.getElem?_map, List.getElem?_eq_getElem hidx, Option.map_some]
  · have hfound : (!active (slots[staleIndex slots active]).sock) = true :=
      List.findIdx_getElem (p := fun slot : Session => !active slot.sock) (w := hidx)
    rwa [Bool.not_eq_true'] at hfound

/-! ## What is expected -/

/-- The slots and the clients: the socket of an open client is in exactly one slot, and a slot in use is
that of a client that is not gone. -/
structure Tidy (s : Server) : Prop where
  live : ∀ cl ∈ s.clients, cl.isOpen = true → s.socks.count cl.fd = 1
  released : ∀ sock ∈ s.socks, 0 < sock → ∃ cl ∈ s.clients, cl.fd = sock

/-- The server that `clientgone` finds. -/
def gone (s : Server) (k : ℕ) (cl : Client) : Server := (s.looked cl).without k

/-- The sockets that `getActiveSocketList` writes for `clientgone`. -/
def goneSockets (s : Server) (k : ℕ) (cl : Client) : List ℤ :=
  getActiveSocketList (gone s k cl).clients (countAfter (gone s k cl) cl)

/-- The slot that `onClientGone` finds. -/
def goneIndex (s : Server) (k : ℕ) (cl : Client) (heap : ℕ → ℤ) : ℕ :=
  staleIndex (gone s k cl).sessionInfo
    (isActiveSocket (countAfter (gone s k cl) cl) (goneSockets s k cl) heap)

/-- A client that is gone: the array for the active sockets has room for them, it has exactly those of the
open clients, and the slot that is released is inside the table. -/
structure Swept (s : Server) (k : ℕ) (cl : Client) (heap : ℕ → ℤ) : Prop where
  inside : (goneSockets s k cl).length ≤ (countAfter (gone s k cl) cl).toNat
  sockets : ∀ sock, sock ∈ goneSockets s k cl ↔
    ∃ cl' ∈ (gone s k cl).clients, cl'.isOpen = true ∧ cl'.fd = sock
  index : goneIndex s k cl heap < s.maxSession

/-- The loop over the clients closes the client at place `k`. -/
def Sweeps (s : Server) (k : ℕ) (kvm : Bool) (cl : Client) : Prop :=
  s.clients[k]? = some cl ∧ closes kvm cl (isCleanUpSession s.sessionInfo cl.sock).1

/-- **What is expected of an event.** -/
structure Kept (s : Server) (e : Event) : Prop where
  tidy : Tidy (s.step e)
  swept : ∀ k kvm heap cl, e = .sweep k kvm heap → Sweeps s k kvm cl → Swept s k cl heap

/-- **What it takes**: a new socket is not that of a client that is closed but not yet gone; when a client
is gone, the others are open, and if others are there and its slot was not released by `isCleanUpSession`,
no free slot is before its slot. -/
structure Orderly (s : Server) (e : Event) : Prop where
  fresh : ∀ fd a, e = .connect fd a → s.accepts a → ∀ cl ∈ s.clients, cl.fd ≠ fd
  others : ∀ k kvm heap cl, e = .sweep k kvm heap → Sweeps s k kvm cl →
    ∀ cl' ∈ s.clients.eraseIdx k, cl'.isOpen = true
  packed : ∀ k kvm heap cl, e = .sweep k kvm heap → Sweeps s k kvm cl →
    (isCleanUpSession s.sessionInfo cl.sock).1 = false → s.clients.eraseIdx k ≠ [] →
      ∀ (i j : ℕ) (free : ℤ), s.socks[i]? = some free → free ≤ 0 → s.socks[j]? = some cl.fd → j < i

/-! ## Consistent tables -/

/-- **The slots in use are those of the clients**, each once. -/
structure Consistent (s : Server) : Prop where
  count : s.actvSessCount = s.clients.length
  room : s.clients.length ≤ s.maxSession
  data : ∀ cl ∈ s.clients, cl.clientData = true
  pos : ∀ cl ∈ s.clients, 0 < cl.fd
  nodup : (s.clients.map Client.fd).Nodup
  slots : (used s.socks).Perm (s.clients.map Client.fd)

theorem Consistent.tidy (h : Consistent s) : Tidy s where
  live cl hcl _ := by
    rw [← count_used (h.pos cl hcl), h.slots.count_eq]
    exact List.count_eq_one_of_mem h.nodup (List.mem_map_of_mem hcl)
  released sock hsock hpos := by
    have hmem := h.slots.mem_iff.1 (mem_used.2 ⟨hsock, hpos⟩)
    obtain ⟨cl, hcl, rfl⟩ := List.mem_map.1 hmem
    exact ⟨cl, hcl, rfl⟩

theorem consistent_start (n : ℕ) : Consistent (.start n) where
  count := rfl
  room := Nat.zero_le _
  data := by simp [Server.start]
  pos := by simp [Server.start]
  nodup := by simp [Server.start]
  slots := by
    have hzeros : (Server.start n).socks = List.replicate n 0 := by
      simp [Server.start, Server.socks, Session.zero]
    rw [hzeros, used, List.filter_eq_nil_iff.2]
    · rfl
    · intro a ha
      rw [List.eq_of_mem_replicate ha]
      decide

/-- A client without a slot finds a free one. -/
theorem exists_free (h : Consistent s) (hlt : s.clients.length < s.maxSession) :
    ∃ slot ∈ s.sessionInfo, slot.sock ≤ 0 := by
  by_contra hc
  push Not at hc
  have hall : used s.socks = s.socks := by
    refine List.filter_eq_self.2 fun sock hsock => ?_
    obtain ⟨slot, hslot, rfl⟩ := List.mem_map.1 hsock
    exact decide_eq_true (hc slot hslot)
  have hlen := h.slots.length_eq
  rw [hall, length_socks, List.length_map] at hlen
  omega

theorem newclient_of_accepts (h : Consistent s) (fd : ℤ) {a : Arrival} (ha : s.accepts a) :
    ∃ viewOnly, newclient s fd a =
      ⟨⟨fd, true, viewOnly, true⟩ :: s.clients, setSessionInfo fd s.sessionInfo, s.actvSessCount + 1, true⟩ := by
  have hcount : ¬ s.actvSessCount < 0 := by
    rw [h.count]
    omega
  rw [newclient, if_pos ha]
  dsimp only
  rw [if_neg hcount]
  exact ⟨_, rfl⟩

/-- The slots after a connection. -/
theorem used_connect (h : Consistent s) {fd : ℤ} (hfd : 0 < fd) {a : Arrival} (ha : s.accepts a) :
    (used (newclient s fd a).socks).Perm (fd :: s.clients.map Client.fd) := by
  have hlt : s.clients.length < s.maxSession := by
    have := ha.2.2.1
    rw [h.count] at this
    omega
  obtain ⟨viewOnly, heq⟩ := newclient_of_accepts h fd ha
  rw [heq]
  exact (used_setSessionInfo hfd (exists_free h hlt)).trans (h.slots.cons fd)

theorem consistent_connect (h : Consistent s) {fd : ℤ} {a : Arrival} (hfd : 0 < fd)
    (hfresh : s.accepts a → ∀ cl ∈ s.clients, cl.fd ≠ fd) : Consistent (newclient s fd a) := by
  by_cases ha : s.accepts a
  swap
  · rwa [newclient, if_neg ha]
  have hslots := used_connect h hfd ha
  have hroom := ha.2.2.1
  obtain ⟨viewOnly, heq⟩ := newclient_of_accepts h fd ha
  rw [heq] at hslots ⊢
  refine ⟨?_, ?_, ?_, ?_, ?_, hslots⟩
  · dsimp only
    rw [h.count, List.length_cons]
    push_cast
    rfl
  · rw [h.count] at hroom
    rw [Server.maxSession, length_setSessionInfo, List.length_cons]
    rw [Server.maxSession] at hroom
    omega
  · exact List.forall_mem_cons.2 ⟨rfl, h.data⟩
  · exact List.forall_mem_cons.2 ⟨hfd, h.pos⟩
  · rw [List.map_cons, List.nodup_cons]
    refine ⟨fun hmem => ?_, h.nodup⟩
    obtain ⟨cl, hcl, heq'⟩ := List.mem_map.1 hmem
    exact hfresh ha cl hcl heq'

/-! ## A client is gone -/

theorem neg_notMem_eraseIdx (h : Consistent s) (k : ℕ) : (-1 : ℤ) ∉ (s.clients.eraseIdx k).map Client.fd := by
  intro hmem
  obtain ⟨cl', hcl', heq⟩ := List.mem_map.1 hmem
  have hpos := h.pos cl' ((List.eraseIdx_sublist _ _).subset hcl')
  rw [heq] at hpos
  exact absurd hpos (by decide)

section Gone

variable {k : ℕ} {cl : Client} (h : Consistent s) (hk : s.clients[k]? = some cl)

include hk

theorem perm_eraseIdx : s.clients.Perm (cl :: s.clients.eraseIdx k) := by
  obtain ⟨hlt, rfl⟩ := List.getElem?_eq_some_iff.1 hk
  exact (List.getElem_cons_eraseIdx_perm hlt).symm

include h

theorem countAfter_gone : countAfter (gone s k cl) cl = (s.clients.eraseIdx k).length := by
  have hlen := (perm_eraseIdx hk).length_eq
  rw [countAfter, if_pos (h.data cl (List.mem_of_getElem? hk))]
  change s.actvSessCount - 1 = _
  rw [h.count, hlen, List.length_cons]
  push_cast
  omega

theorem goneSockets_eq : goneSockets s k cl = (s.clients.eraseIdx k).map Client.sock := by
  rw [goneSockets, countAfter_gone h hk]
  exact getActiveSocketList_eq _

/-- With the others open, a socket is active if it is that of one of them. -/
theorem active_eq (hopen : ∀ cl' ∈ s.clients.eraseIdx k, cl'.isOpen = true) (heap : ℕ → ℤ) :
    isActiveSocket (countAfter (gone s k cl) cl) (goneSockets s k cl) heap =
      fun sock => decide (sock ∈ (s.clients.eraseIdx k).map Client.fd) := by
  have hfd : (s.clients.eraseIdx k).map Client.sock = (s.clients.eraseIdx k).map Client.fd := by
    refine List.map_congr_left fun cl' hcl' => ?_
    rw [Client.sock, if_pos (hopen cl' hcl')]
  have hlen : countAfter (gone s k cl) cl = ((s.clients.eraseIdx k).map Client.fd).length := by
    rw [countAfter_gone h hk, List.length_map]
  funext sock
  rw [goneSockets_eq h hk, hfd, hlen, isActiveSocket_eq]

theorem nodup_eraseIdx : (cl.fd :: (s.clients.eraseIdx k).map Client.fd).Nodup := by
  have hperm := (perm_eraseIdx hk).map Client.fd
  rw [List.map_cons] at hperm
  exact hperm.nodup_iff.1 h.nodup

theorem used_eq : (used s.socks).Perm (cl.fd :: (s.clients.eraseIdx k).map Client.fd) := by
  have hperm := (perm_eraseIdx hk).map Client.fd
  rw [List.map_cons] at hperm
  exact h.slots.trans hperm

/-- The slots that `clientgone` finds: those of the client and the others, or those of the others and a
free one. -/
theorem gone_socks_cases :
    ((isCleanUpSession s.sessionInfo cl.sock).1 = false ∧ (gone s k cl).socks = s.socks) ∨
      ((used (gone s k cl).socks).Perm ((s.clients.eraseIdx k).map Client.fd) ∧
        ∃ j : ℕ, (gone s k cl).socks[j]? = some (-1)) := by
  rcases isCleanUpSession_cases s.sessionInfo cl.sock with heq | ⟨hpos, j, hj, heq⟩
  · refine .inl ⟨congrArg Prod.fst heq, ?_⟩
    change (isCleanUpSession s.sessionInfo cl.sock).2.map Session.sock = _
    rw [heq]
    rfl
  · have hopen : cl.sock = cl.fd := by
      by_contra hne
      rw [Client.sock] at hpos hne
      split_ifs at hpos hne
      · exact hne rfl
      · exact absurd hpos (by decide)
    have hsocks : (gone s k cl).socks = s.socks.set j (-1) := by
      change (isCleanUpSession s.sessionInfo cl.sock).2.map Session.sock = _
      rw [heq]
      exact map_sock_cleanUp _ _
    refine .inr ⟨?_, j, ?_⟩
    · have hrelease := (used_release hj hpos).trans (used_eq h hk)
      rw [hopen] at hrelease
      rw [hsocks]
      exact hrelease.cons_inv
    · have hlt : j < s.socks.length := (List.getElem?_eq_some_iff.1 hj).1
      rw [hsocks, List.getElem?_set_self hlt]

/-- A slot that is not active is found, and it is free or that of the client. -/
theorem staleIndex_gone (hopen : ∀ cl' ∈ s.clients.eraseIdx k, cl'.isOpen = true) (heap : ℕ → ℤ)
    {j : ℕ} {v : ℤ} (hj : (gone s k cl).socks[j]? = some v)
    (hv : v ∉ (s.clients.eraseIdx k).map Client.fd) :
    goneIndex s k cl heap ≤ j ∧
      ∃ a, (gone s k cl).socks[goneIndex s k cl heap]? = some a ∧
        a ∉ (s.clients.eraseIdx k).map Client.fd := by
  have hspec := staleIndex_spec (fun sock => decide (sock ∈ (s.clients.eraseIdx k).map Client.fd))
    hj (decide_eq_false hv)
  rw [goneIndex, active_eq h hk hopen]
  obtain ⟨hle, a, ha, hna⟩ := hspec
  exact ⟨hle, a, ha, of_decide_eq_false hna⟩

/-- The slots after a client is gone. -/
theorem used_gone (hopen : ∀ cl' ∈ s.clients.eraseIdx k, cl'.isOpen = true) (heap : ℕ → ℤ)
    (hpacked : (isCleanUpSession s.sessionInfo cl.sock).1 = false →
      ∀ (i j : ℕ) (free : ℤ), s.socks[i]? = some free → free ≤ 0 → s.socks[j]? = some cl.fd → j < i) :
    (used ((gone s k cl).socks.set (goneIndex s k cl heap) (-1))).Perm
      ((s.clients.eraseIdx k).map Client.fd) := by
  rcases gone_socks_cases h hk with ⟨hkeep, hsocks⟩ | ⟨hperm, j, hj⟩
  · have hmem : cl.fd ∈ s.socks :=
      (mem_used.1 ((used_eq h hk).mem_iff.2 List.mem_cons_self)).1
    obtain ⟨j, hj⟩ := List.mem_iff_getElem?.1 hmem
    obtain ⟨hle, a, ha, hna⟩ := staleIndex_gone h hk hopen heap (hsocks ▸ hj)
      (List.nodup_cons.1 (nodup_eraseIdx h hk)).1
    rw [hsocks] at ha ⊢
    have hpos : 0 < a := by
      by_contra hneg
      exact absurd (hpacked hkeep _ j a ha (not_lt.1 hneg) hj) (by omega)
    have hfd : a = cl.fd := by
      have hused := (used_eq h hk).mem_iff.1 (mem_used.2 ⟨List.mem_of_getElem? ha, hpos⟩)
      exact (List.mem_cons.1 hused).resolve_right hna
    have hrelease := (used_release ha hpos).trans (used_eq h hk)
    rw [hfd] at hrelease
    exact hrelease.cons_inv
  · obtain ⟨-, a, ha, hna⟩ := staleIndex_gone h hk hopen heap hj (neg_notMem_eraseIdx h k)
    have hneg : ¬ 0 < a := fun hpos => hna (hperm.mem_iff.1 (mem_used.2 ⟨List.mem_of_getElem? ha, hpos⟩))
    rwa [used_release_free ha hneg]

end Gone

/-! ## Events -/

theorem step_sweep {k : ℕ} {kvm : Bool} {heap : ℕ → ℤ} {cl : Client} (hk : s.clients[k]? = some cl) :
    s.step (.sweep k kvm heap) =
      if closes kvm cl (isCleanUpSession s.sessionInfo cl.sock).1 then clientgone (gone s k cl) cl heap
      else s.looked cl := by
  rw [Server.step, sweep, hk]
  rfl

/-- A client that is not closed keeps its slot. -/
theorem looked_of_not_closes {kvm : Bool} {cl : Client}
    (h : ¬ closes kvm cl (isCleanUpSession s.sessionInfo cl.sock).1) : s.looked cl = s := by
  rcases isCleanUpSession_cases s.sessionInfo cl.sock with heq | ⟨-, j, -, heq⟩
  · rw [Server.looked, heq]
  · exact absurd (.inr (.inr (congrArg Prod.fst heq))) h

theorem length_gone_sessionInfo (s : Server) (k : ℕ) (cl : Client) :
    (gone s k cl).sessionInfo.length = s.maxSession := by
  change (isCleanUpSession s.sessionInfo cl.sock).2.length = s.sessionInfo.length
  rcases isCleanUpSession_cases s.sessionInfo cl.sock with heq | ⟨-, j, -, heq⟩
  · rw [heq]
  · rw [heq, cleanUpInvalidSession, List.length_set]

/-- The server after a client is gone. -/
theorem clientgone_gone {k : ℕ} {cl : Client} (h : Consistent s) (hk : s.clients[k]? = some cl)
    (heap : ℕ → ℤ) :
    (clientgone (gone s k cl) cl heap).clients = s.clients.eraseIdx k ∧
      (clientgone (gone s k cl) cl heap).actvSessCount = (s.clients.eraseIdx k).length ∧
      (clientgone (gone s k cl) cl heap).maxSession = s.maxSession ∧
      (clientgone (gone s k cl) cl heap).socks =
        if s.clients.eraseIdx k = [] then List.replicate s.maxSession 0
        else (gone s k cl).socks.set (goneIndex s k cl heap) (-1) := by
  have hcount := countAfter_gone h hk
  have hzero : countAfter (gone s k cl) cl = 0 ↔ s.clients.eraseIdx k = [] := by
    rw [hcount, Nat.cast_eq_zero, List.length_eq_zero_iff]
  refine ⟨rfl, hcount, ?_, ?_⟩
  · rw [Server.maxSession, clientgone]
    dsimp only
    split_ifs
    · rw [List.length_replicate, Server.maxSession, length_gone_sessionInfo]
    · rw [onClientGone, cleanUpInvalidSession, List.length_set, length_gone_sessionInfo]
  · rw [Server.socks, clientgone]
    dsimp only
    rw [if_congr hzero rfl rfl]
    split_ifs
    · rw [List.map_replicate, Server.maxSession, length_gone_sessionInfo]
      rfl
    · exact map_sock_cleanUp _ _

/-- An orderly event keeps the table consistent when a client is gone. -/
theorem consistent_gone {k : ℕ} {cl : Client} (h : Consistent s) (hk : s.clients[k]? = some cl)
    (heap : ℕ → ℤ) (hopen : ∀ cl' ∈ s.clients.eraseIdx k, cl'.isOpen = true)
    (hpacked : (isCleanUpSession s.sessionInfo cl.sock).1 = false → s.clients.eraseIdx k ≠ [] →
      ∀ (i j : ℕ) (free : ℤ), s.socks[i]? = some free → free ≤ 0 → s.socks[j]? = some cl.fd → j < i) :
    Consistent (clientgone (gone s k cl) cl heap) := by
  obtain ⟨hclients, hcount, hmax, hsocks⟩ := clientgone_gone h hk heap
  have hsub : s.clients.eraseIdx k ⊆ s.clients := (List.eraseIdx_sublist _ _).subset
  refine ⟨by rw [hcount, hclients], ?_, ?_, ?_, ?_, ?_⟩
  · rw [hclients, hmax]
    exact (List.eraseIdx_sublist _ _).length_le.trans h.room
  · rw [hclients]
    exact fun cl' hcl' => h.data cl' (hsub hcl')
  · rw [hclients]
    exact fun cl' hcl' => h.pos cl' (hsub hcl')
  · rw [hclients]
    exact (List.nodup_cons.1 (nodup_eraseIdx h hk)).2
  · rw [hclients, hsocks]
    split_ifs with hnil
    · have hzeros : used (List.replicate s.maxSession (0 : ℤ)) = [] := by
        refine List.filter_eq_nil_iff.2 fun a ha => ?_
        rw [List.eq_of_mem_replicate ha]
        decide
      rw [hzeros, hnil]
      rfl
    · exact used_gone h hk hopen heap fun hkeep => hpacked hkeep hnil

/-- The array and the index when a client is gone. -/
theorem swept_of_open {k : ℕ} {cl : Client} (h : Consistent s) (hk : s.clients[k]? = some cl)
    (heap : ℕ → ℤ) (hopen : ∀ cl' ∈ s.clients.eraseIdx k, cl'.isOpen = true) : Swept s k cl heap := by
  refine ⟨?_, fun sock => ?_, ?_⟩
  · rw [goneSockets_eq h hk, countAfter_gone h hk, List.length_map, Int.toNat_natCast]
  · rw [goneSockets_eq h hk, List.mem_map]
    refine exists_congr fun cl' => and_congr_right fun hcl' => ?_
    rw [Client.sock, if_pos (hopen cl' hcl'), and_iff_right (hopen cl' hcl')]
  · have hfound : ∃ (j : ℕ) (v : ℤ), (gone s k cl).socks[j]? = some v ∧ v ∉ (s.clients.eraseIdx k).map Client.fd := by
      rcases gone_socks_cases h hk with ⟨-, hsocks⟩ | ⟨-, j, hj⟩
      · obtain ⟨j, hj⟩ := List.mem_iff_getElem?.1
          (mem_used.1 ((used_eq h hk).mem_iff.2 List.mem_cons_self)).1
        exact ⟨j, cl.fd, hsocks ▸ hj, (List.nodup_cons.1 (nodup_eraseIdx h hk)).1⟩
      · exact ⟨j, -1, hj, neg_notMem_eraseIdx h k⟩
    obtain ⟨j, v, hj, hv⟩ := hfound
    obtain ⟨-, a, ha, -⟩ := staleIndex_gone h hk hopen heap hj hv
    have hlt := (List.getElem?_eq_some_iff.1 ha).1
    rwa [length_socks, Server.maxSession, length_gone_sessionInfo] at hlt

/-- **An orderly event keeps the table consistent.** -/
theorem consistent_step {e : Event} (h : Consistent s) (hp : e.Possible s) (hc : Orderly s e) :
    Consistent (s.step e) := by
  cases e with
  | connect fd a => exact consistent_connect h hp.1 (hc.fresh fd a rfl)
  | close k =>
    have hfd : (s.clients.modify k fun cl => { cl with isOpen := false }).map Client.fd =
        s.clients.map Client.fd := map_modify_of_eq _ fun _ => rfl
    have hdata : (s.clients.modify k fun cl => { cl with isOpen := false }).map Client.clientData =
        s.clients.map Client.clientData := map_modify_of_eq _ fun _ => rfl
    refine ⟨?_, ?_, ?_, ?_, ?_, ?_⟩
    · exact h.count.trans (congrArg Nat.cast (List.length_modify _ _ _).symm)
    · exact (List.length_modify _ _ _).trans_le h.room
    · intro cl hcl
      have hmem : cl.clientData ∈ s.clients.map Client.clientData := hdata ▸ List.mem_map_of_mem hcl
      obtain ⟨cl', hcl', heq⟩ := List.mem_map.1 hmem
      exact heq ▸ h.data cl' hcl'
    · intro cl hcl
      have hmem : cl.fd ∈ s.clients.map Client.fd := hfd ▸ List.mem_map_of_mem hcl
      obtain ⟨cl', hcl', heq⟩ := List.mem_map.1 hmem
      exact heq ▸ h.pos cl' hcl'
    · exact hfd ▸ h.nodup
    · exact hfd ▸ h.slots
  | timeout k =>
    rw [Server.step]
    split
    · exact h
    · split_ifs
      · refine ⟨h.count, h.room.trans_eq (length_setTimedOut _ _).symm, h.data, h.pos, h.nodup, ?_⟩
        rw [Server.socks, map_sock_setTimedOut]
        exact h.slots
      · exact h
  | sweep k kvm heap =>
    cases hk : s.clients[k]? with
    | none =>
      rw [Server.step, sweep, hk]
      exact h
    | some cl =>
      rw [step_sweep hk]
      split_ifs with hcloses
      · exact consistent_gone h hk heap (hc.others k kvm heap cl rfl ⟨hk, hcloses⟩)
          (hc.packed k kvm heap cl rfl ⟨hk, hcloses⟩)
      · rwa [looked_of_not_closes hcloses]

/-- An orderly event is as expected. -/
theorem kept_of_orderly {e : Event} (h : Consistent s) (hp : e.Possible s) (hc : Orderly s e) : Kept s e where
  tidy := (consistent_step h hp hc).tidy
  swept k kvm heap cl he hsweeps := swept_of_open h hsweeps.1 heap (hc.others k kvm heap cl he hsweeps)

/-- A socket that a closed client still holds is then in two slots. -/
theorem fresh_of_kept {fd : ℤ} {a : Arrival} (h : Consistent s) (hfd : 0 < fd)
    (hkept : Kept s (.connect fd a)) (ha : s.accepts a) : ∀ cl ∈ s.clients, cl.fd ≠ fd := by
  rintro cl hcl rfl
  obtain ⟨viewOnly, heq⟩ := newclient_of_accepts h cl.fd ha
  have hlive := hkept.tidy.live ⟨cl.fd, true, viewOnly, true⟩
    (by rw [Server.step, heq]; exact List.mem_cons_self) rfl
  have hmem : cl.fd ∈ s.clients.map Client.fd := List.mem_map_of_mem hcl
  have hcount : (newclient s cl.fd a).socks.count cl.fd = 2 := by
    rw [← count_used hfd, (used_connect h hfd ha).count_eq, List.count_cons_self,
      List.count_eq_one_of_mem h.nodup hmem]
  have htwo : 2 = 1 := hcount.symm.trans hlive
  exact absurd htwo (by decide)

/-- A closed client that is still there is among the active sockets. -/
theorem others_of_swept {k : ℕ} {heap : ℕ → ℤ} {cl : Client} (h : Consistent s)
    (hk : s.clients[k]? = some cl) (hswept : Swept s k cl heap) :
    ∀ cl' ∈ s.clients.eraseIdx k, cl'.isOpen = true := by
  intro cl' hcl'
  by_contra hclosed
  have hsock : cl'.sock = -1 := by rw [Client.sock, if_neg hclosed]
  have hmem : (-1 : ℤ) ∈ goneSockets s k cl := by
    rw [goneSockets_eq h hk, ← hsock]
    exact List.mem_map_of_mem hcl'
  obtain ⟨cl'', hcl'', -, hfd⟩ := (hswept.sockets (-1)).1 hmem
  exact neg_notMem_eraseIdx h k (hfd ▸ List.mem_map_of_mem hcl'')

/-- A free slot before that of the client is found in its place. -/
theorem packed_of_tidy {k : ℕ} {heap : ℕ → ℤ} {cl : Client} (h : Consistent s)
    (hk : s.clients[k]? = some cl) (hopen : ∀ cl' ∈ s.clients.eraseIdx k, cl'.isOpen = true)
    (htidy : Tidy (clientgone (gone s k cl) cl heap))
    (hkeep : (isCleanUpSession s.sessionInfo cl.sock).1 = false) (hnil : s.clients.eraseIdx k ≠ [])
    (i j : ℕ) (free : ℤ) (hi : s.socks[i]? = some free) (hfree : free ≤ 0)
    (hj : s.socks[j]? = some cl.fd) : j < i := by
  by_contra hle
  have hfd : 0 < cl.fd := h.pos cl (List.mem_of_getElem? hk)
  have hne : i ≠ j := by
    rintro rfl
    rw [hi] at hj
    have := Option.some_injective _ hj
    omega
  have hsocks : (gone s k cl).socks = s.socks := by
    rcases isCleanUpSession_cases s.sessionInfo cl.sock with heq | ⟨-, j, -, heq⟩
    · change (isCleanUpSession s.sessionInfo cl.sock).2.map Session.sock = _
      rw [heq]
      rfl
    · rw [heq] at hkeep
      cases hkeep
  have hstale : free ∉ (s.clients.eraseIdx k).map Client.fd := by
    intro hmem
    obtain ⟨cl', hcl', rfl⟩ := List.mem_map.1 hmem
    have := h.pos cl' ((List.eraseIdx_sublist _ _).subset hcl')
    omega
  obtain ⟨hidx, -⟩ := staleIndex_gone h hk hopen heap (hsocks ▸ hi) hstale
  obtain ⟨hclients, -, -, hafter⟩ := clientgone_gone h hk heap
  rw [if_neg hnil, hsocks] at hafter
  have hstill : cl.fd ∈ (clientgone (gone s k cl) cl heap).socks := by
    rw [hafter]
    refine List.mem_of_getElem? (i := j) ?_
    rwa [List.getElem?_set_ne (by omega)]
  obtain ⟨cl', hcl', heq⟩ := htidy.released cl.fd hstill hfd
  rw [hclients] at hcl'
  exact (List.nodup_cons.1 (nodup_eraseIdx h hk)).1 (heq ▸ List.mem_map_of_mem hcl')

/-- An event is as expected only if it is orderly. -/
theorem orderly_of_kept {e : Event} (h : Consistent s) (hp : e.Possible s) (hkept : Kept s e) :
    Orderly s e where
  fresh fd a he := by
    subst he
    exact fresh_of_kept h hp.1 hkept
  others k kvm heap cl he hsweeps := others_of_swept h hsweeps.1 (hkept.swept k kvm heap cl he hsweeps)
  packed k kvm heap cl he hsweeps := by
    have htidy := hkept.tidy
    rw [he, step_sweep hsweeps.1, if_pos hsweeps.2] at htidy
    exact packed_of_tidy h hsweeps.1
      (others_of_swept h hsweeps.1 (hkept.swept k kvm heap cl he hsweeps)) htidy

/-! ## Runs -/

theorem everyStep_iff_of_consistent (h : Consistent s) (events : List Event) :
    EveryStep Kept s events ↔ EveryStep Orderly s events := by
  induction events generalizing s with
  | nil => rfl
  | cons e es ih =>
    refine forall_congr' fun hp => ?_
    have hiff : Kept s e ↔ Orderly s e := ⟨orderly_of_kept h hp, kept_of_orderly h hp⟩
    rw [hiff]
    exact and_congr_right fun hc => ih (consistent_step h hp hc)

/-- **The session table over a run.** From the start of the server on, every event is as expected exactly
when every event is orderly. -/
theorem everyStep_kept_iff (maxSession : ℕ) (events : List Event) :
    EveryStep Kept (.start maxSession) events ↔ EveryStep Orderly (.start maxSession) events :=
  everyStep_iff_of_consistent (consistent_start maxSession) events

/-- A client that nothing refuses. -/
def welcome : Arrival := ⟨false, true, true, true, true⟩

/-- Three clients come, and the first two of them leave one after the other. -/
def twoLeave : List Event :=
  [.connect 5 welcome, .connect 6 welcome, .connect 7 welcome, .close 2, .sweep 2 true fun _ => 0,
    .close 1, .sweep 1 true fun _ => 0]

/-- The slot of the second client is not released: the search stops at the free slot of the first. -/
theorem not_kept_twoLeave : ¬ ∀ (maxSession : ℕ) (events : List Event),
    EveryStep Kept (.start maxSession) events := by
  intro h
  have hrun := ((h 3 twoLeave ⟨by decide, by decide⟩).2 ⟨by decide, by decide⟩).2 ⟨by decide, by decide⟩
  have hkept := ((((hrun.2 trivial).2 trivial).2 trivial).2 trivial).1
  have hreleased := hkept.tidy.released 6 (by decide) (by decide)
  exact absurd hreleased (by decide)

end BmcVnc
