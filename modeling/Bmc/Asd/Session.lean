import Bmc.Asd.Common
import Bmc.Lib.Loop

/-!
# Remote sessions

The session table of `session.c`: `maxSessions` slots, of which one may be authenticated. Whether a
slot is authenticated is stored twice, in the slot and in `nAuthenticatedId`.

* `Session`, `SessionSlot`, `ExtnetConn`; the operations `sessionOpen`, `sessionClose`,
  `sessionCloseAll`, `sessionCloseExpiredUnauth`, `sessionAuthComplete`, `sessionSetDataPending`;
* `Session.Single`: the two records of the authenticated slot agree and open slots have different
  descriptors; `Session.Keeps`: what an operation on other connections leaves alone;
* **`sessionRun_single`**: in every run at most one session is authenticated, the id names it, and
  only an operation on its own connection takes that away.
-/

namespace BmcAsd

open BmcLib

/-- `MAX_SESSIONS`. -/
abbrev maxSessions : ℕ := 5

/-- `SESSION_AUTH_EXPIRE_TIMEOUT`. -/
abbrev sessionAuthExpireTimeout : ℤ := 15

/-- `NO_SESSION_AUTHENTICATED`. -/
abbrev noSessionAuthenticated : ℤ := -1

/-- `UNUSED_SOCKET_FD`. -/
abbrev unusedSocketFd : ℤ := -1

/-- `extnet_conn_t`; `pHdlrData` is a pointer, `none` the null pointer. -/
structure ExtnetConn where
  sockfd : ℤ
  pHdlrData : Option ℕ
  deriving DecidableEq, Repr

/-- `session_t`. -/
structure SessionSlot where
  id : ℤ
  extconn : ExtnetConn
  tAuthTout : ℤ
  bAuthenticated : Bool
  bDataPending : Bool
  deriving DecidableEq, Repr

/-- `Session`, once `session_init` has set `b_initialized`. -/
structure Session where
  sessions : Fin maxSessions → SessionSlot
  nAuthenticatedId : ℤ

/-- `extnet_is_client_closed`. -/
def extnetIsClientClosed (conn : ExtnetConn) : Bool := conn.sockfd < 0

/-- `extnet_close_client` on an open connection. -/
def extnetCloseClient (_conn : ExtnetConn) : ExtnetConn := ⟨unusedSocketFd, none⟩

/-- Slot `i` holds an open connection. -/
def Session.IsOpen (s : Session) (i : Fin maxSessions) : Prop := 0 ≤ (s.sessions i).extconn.sockfd

instance (s : Session) (i : Fin maxSessions) : Decidable (s.IsOpen i) := by
  unfold Session.IsOpen
  infer_instance

/-- Replace slot `i`. -/
def Session.setSlot (s : Session) (i : Fin maxSessions) (slot : SessionSlot) : Session :=
  { s with sessions := Function.update s.sessions i slot }

/-! ## The operations -/

/-- `session_init`; `data i` is the handler pointer that `extnet_init_client` leaves in slot `i`. -/
def sessionInit (data : Fin maxSessions → Option ℕ) : Session where
  sessions i := ⟨(i : ℕ), ⟨unusedSocketFd, data i⟩, 0, false, false⟩
  nAuthenticatedId := noSessionAuthenticated

/-- `session_find_private`: the first slot with that descriptor. -/
def sessionFindPrivate (s : Session) (sockfd : ℤ) : Option (Fin maxSessions) :=
  (List.finRange maxSessions).find? fun i => (s.sessions i).extconn.sockfd = sockfd

/-- `session_lookup_conn`. -/
def sessionLookupConn (s : Session) (fd : ℤ) : Option ExtnetConn :=
  match sessionFindPrivate s fd with
  | some i => if (s.sessions i).extconn.sockfd ≥ 0 then some (s.sessions i).extconn else none
  | none => none

/-- `session_open` at the time `now`. -/
def sessionOpen (s : Session) (conn : ExtnetConn) (now : ℤ) : Status × Session :=
  match sessionFindPrivate s unusedSocketFd with
  | none => (.err, s)
  | some i => (.ok, s.setSlot i { s.sessions i with
      extconn := conn, tAuthTout := sessionAuthExpireTimeout + now, bAuthenticated := false })

/-- `session_close_private`. -/
def sessionClosePrivate (s : Session) (i : Fin maxSessions) : Session :=
  let slot := s.sessions i
  { s.setSlot i { slot with
      extconn :=
        if extnetIsClientClosed slot.extconn then slot.extconn else extnetCloseClient slot.extconn
      tAuthTout := 0
      bAuthenticated := false } with
    nAuthenticatedId :=
      if slot.id = s.nAuthenticatedId then noSessionAuthenticated else s.nAuthenticatedId }

/-- `session_close`. -/
def sessionClose (s : Session) (sockfd : ℤ) : Status × Session :=
  if sockfd = unusedSocketFd then (.err, s)
  else
    match sessionFindPrivate s sockfd with
    | none => (.err, s)
    | some i => (.ok, sessionClosePrivate s i)

/-- One round of the loop of `session_close_all`. -/
def sessionCloseAllStep (s : Session) (i : Fin maxSessions) : Session :=
  if extnetIsClientClosed (s.sessions i).extconn then s else sessionClosePrivate s i

/-- `session_close_all`. -/
def sessionCloseAll (s : Session) : Session :=
  (List.finRange maxSessions).foldl sessionCloseAllStep s

/-- One round of the loop of `session_close_expired_unauth`; the round for slot `i` reads the time
`now i`. -/
def sessionCloseExpiredStep (now : Fin maxSessions → ℤ) (s : Session) (i : Fin maxSessions) :
    Session :=
  if !extnetIsClientClosed (s.sessions i).extconn && !(s.sessions i).bAuthenticated &&
    (s.sessions i).tAuthTout ≤ now i then sessionClosePrivate s i else s

/-- `session_close_expired_unauth`. -/
def sessionCloseExpiredUnauth (s : Session) (now : Fin maxSessions → ℤ) : Session :=
  (List.finRange maxSessions).foldl (sessionCloseExpiredStep now) s

/-- `session_already_authenticated`. -/
def sessionAlreadyAuthenticated (s : Session) (conn : ExtnetConn) : Status :=
  if extnetIsClientClosed conn then .err
  else
    match sessionFindPrivate s conn.sockfd with
    | none => .err
    | some i => if (s.sessions i).bAuthenticated then .ok else .err

/-- `session_auth_complete`. -/
def sessionAuthComplete (s : Session) (sockfd : ℤ) : Status × Session :=
  if s.nAuthenticatedId ≥ 0 then (.err, s)
  else
    match sessionFindPrivate s sockfd with
    | none => (.err, s)
    | some i => (.ok, { s.setSlot i { s.sessions i with bAuthenticated := true } with
        nAuthenticatedId := (s.sessions i).id })

/-- `session_get_authenticated_conn`; the caller may leave out the place for the connection. -/
def sessionGetAuthenticatedConn (s : Session) (withConn : Bool) : Status × Option ExtnetConn :=
  if withConn then
    match (List.finRange maxSessions).find? fun i : Fin maxSessions => s.nAuthenticatedId = (i : ℕ) with
    | some i => (.ok, some (s.sessions i).extconn)
    | none => (.err, none)
  else (.err, none)

/-- `session_get_data_pending`: the flag, `none` when the call fails. -/
def sessionGetDataPending (s : Session) (sockfd : ℤ) : Option Bool :=
  (sessionFindPrivate s sockfd).map fun i => (s.sessions i).bDataPending

/-- `session_set_data_pending`. -/
def sessionSetDataPending (s : Session) (sockfd : ℤ) (b : Bool) : Status × Session :=
  match sessionFindPrivate s sockfd with
  | none => (.err, s)
  | some i => (.ok, s.setSlot i { s.sessions i with bDataPending := b })

/-- A call of the session interface. -/
inductive SessionOp where
  | openConn (conn : ExtnetConn) (now : ℤ)
  | close (sockfd : ℤ)
  | closeAll
  | closeExpiredUnauth (now : Fin maxSessions → ℤ)
  | authComplete (sockfd : ℤ)
  | setDataPending (sockfd : ℤ) (b : Bool)

/-- The table after a call. -/
def sessionStep (s : Session) : SessionOp → Session
  | .openConn conn now => (sessionOpen s conn now).2
  | .close sockfd => (sessionClose s sockfd).2
  | .closeAll => sessionCloseAll s
  | .closeExpiredUnauth now => sessionCloseExpiredUnauth s now
  | .authComplete sockfd => (sessionAuthComplete s sockfd).2
  | .setDataPending sockfd b => (sessionSetDataPending s sockfd b).2

/-- What the callers promise: a new connection has a descriptor that no open one has, and
authentication completes only for an open connection. -/
def SessionOp.Allowed (s : Session) : SessionOp → Prop
  | .openConn conn _ =>
      0 ≤ conn.sockfd ∧ ∀ i, s.IsOpen i → (s.sessions i).extconn.sockfd ≠ conn.sockfd
  | .authComplete sockfd => ∃ i, s.IsOpen i ∧ (s.sessions i).extconn.sockfd = sockfd
  | _ => True

instance (s : Session) (op : SessionOp) : Decidable (op.Allowed s) := by
  unfold SessionOp.Allowed
  cases op <;> infer_instance

/-- The calls that are asked to close the connection `sockfd`. -/
def SessionOp.Closes (sockfd : ℤ) : SessionOp → Prop
  | .close fd => fd = sockfd
  | .closeAll => True
  | _ => False

/-! ## The slot a descriptor selects -/

theorem sessionFindPrivate_some {s : Session} {fd : ℤ} {i : Fin maxSessions}
    (h : sessionFindPrivate s fd = some i) : (s.sessions i).extconn.sockfd = fd := by
  simpa using List.find?_some h

/-! ## The invariant -/

/-- **The table is consistent.** -/
structure Session.Single (s : Session) : Prop where
  id : ∀ i, (s.sessions i).id = (i : ℕ)
  unused : ∀ i, ¬ s.IsOpen i → (s.sessions i).extconn.sockfd = unusedSocketFd
  distinct : ∀ i j, s.IsOpen i → (s.sessions i).extconn.sockfd = (s.sessions j).extconn.sockfd → i = j
  isOpen : ∀ i, (s.sessions i).bAuthenticated = true → s.IsOpen i
  auth : ∀ i : Fin maxSessions, s.nAuthenticatedId = (i : ℕ) ↔ (s.sessions i).bAuthenticated = true
  named : 0 ≤ s.nAuthenticatedId → ∃ i : Fin maxSessions, s.nAuthenticatedId = (i : ℕ)

/-- The connection of slot `i` and its authentication are the same in `t`. -/
def Session.Keeps (s t : Session) (i : Fin maxSessions) : Prop :=
  (t.sessions i).extconn = (s.sessions i).extconn ∧
    (t.sessions i).bAuthenticated = (s.sessions i).bAuthenticated ∧
    t.nAuthenticatedId = s.nAuthenticatedId

variable {s t u : Session} {i j : Fin maxSessions}

theorem Session.Keeps.refl (s : Session) (i : Fin maxSessions) : s.Keeps s i := ⟨rfl, rfl, rfl⟩

theorem Session.Keeps.trans (h : s.Keeps t i) (h' : t.Keeps u i) : s.Keeps u i :=
  ⟨h'.1.trans h.1, h'.2.1.trans h.2.1, h'.2.2.trans h.2.2⟩

@[simp] theorem Session.setSlot_self (s : Session) (i : Fin maxSessions) (slot : SessionSlot) :
    (s.setSlot i slot).sessions i = slot := by
  simp [setSlot]

theorem Session.setSlot_of_ne (s : Session) (slot : SessionSlot) (h : j ≠ i) :
    (s.setSlot i slot).sessions j = s.sessions j := by
  simp [setSlot, h]

theorem Session.Single.eq_of_auth (h : s.Single) (hi : (s.sessions i).bAuthenticated = true)
    (hj : (s.sessions j).bAuthenticated = true) : i = j := by
  have h1 := (h.auth i).mpr hi
  have h2 := (h.auth j).mpr hj
  apply Fin.ext
  omega

theorem noSessionAuthenticated_ne (i : Fin maxSessions) : noSessionAuthenticated ≠ (i : ℕ) := by
  have : noSessionAuthenticated = -1 := rfl
  omega

theorem sessionInit_single (data : Fin maxSessions → Option ℕ) : (sessionInit data).Single where
  id _ := rfl
  unused _ _ := rfl
  distinct i _ hi := absurd hi (by simp [Session.IsOpen, sessionInit])
  isOpen i hi := by simp [sessionInit] at hi
  auth i := by
    simp only [sessionInit, Bool.false_eq_true, iff_false]
    exact noSessionAuthenticated_ne i
  named h := by simp [sessionInit] at h

/-- **Replacing a slot and the authenticated id.** The new slot has an unused or a fresh connection,
and the new id names it exactly if it is authenticated; for the other slots nothing changes. -/
theorem Session.Single.replace (h : s.Single) {slot : SessionSlot} {n : ℤ}
    (hid : slot.id = (i : ℕ))
    (hunused : ¬ 0 ≤ slot.extconn.sockfd → slot.extconn.sockfd = unusedSocketFd)
    (hfresh : 0 ≤ slot.extconn.sockfd → ∀ j ≠ i,
      (s.sessions j).extconn.sockfd ≠ slot.extconn.sockfd)
    (hopen : slot.bAuthenticated = true → 0 ≤ slot.extconn.sockfd)
    (hauth : n = (i : ℕ) ↔ slot.bAuthenticated = true)
    (hother : ∀ j : Fin maxSessions, j ≠ i → (n = (j : ℕ) ↔ s.nAuthenticatedId = (j : ℕ)))
    (hnamed : 0 ≤ n → ∃ k : Fin maxSessions, n = (k : ℕ)) :
    Session.Single { s.setSlot i slot with nAuthenticatedId := n } where
  id j := by
    by_cases hj : j = i
    · subst hj
      rw [setSlot_self, hid]
    · rw [setSlot_of_ne _ _ hj, h.id]
  unused j := by
    unfold IsOpen
    by_cases hj : j = i
    · subst hj
      rwa [setSlot_self]
    · rw [setSlot_of_ne _ _ hj]
      exact h.unused j
  distinct j k := by
    unfold IsOpen
    by_cases hj : j = i <;> by_cases hk : k = i
    · intros
      rw [hj, hk]
    · subst hj
      rw [setSlot_self, setSlot_of_ne _ _ hk]
      intro ho he
      exact absurd he.symm (hfresh ho k hk)
    · subst hk
      rw [setSlot_self, setSlot_of_ne _ _ hj]
      intro ho he
      exact absurd he (hfresh (he ▸ ho) j hj)
    · rw [setSlot_of_ne _ _ hj, setSlot_of_ne _ _ hk]
      exact h.distinct j k
  isOpen j := by
    unfold IsOpen
    by_cases hj : j = i
    · subst hj
      rw [setSlot_self]
      exact hopen
    · rw [setSlot_of_ne _ _ hj]
      exact h.isOpen j
  auth j := by
    by_cases hj : j = i
    · subst hj
      rw [setSlot_self]
      exact hauth
    · rw [setSlot_of_ne _ _ hj]
      exact (hother j hj).trans (h.auth j)
  named := hnamed

/-! ## Each operation -/

theorem extnetIsClientClosed_iff (conn : ExtnetConn) :
    extnetIsClientClosed conn = true ↔ ¬ 0 ≤ conn.sockfd := by
  simp [extnetIsClientClosed]

theorem sessionClosePrivate_single (h : s.Single) (hi : s.IsOpen i) :
    (sessionClosePrivate s i).Single := by
  have hc : extnetIsClientClosed (s.sessions i).extconn = false := by
    rwa [← Bool.not_eq_true, extnetIsClientClosed_iff, not_not]
  have hid := h.id i
  unfold sessionClosePrivate
  simp only [hc, Bool.false_eq_true, if_false, extnetCloseClient]
  apply h.replace
  · exact hid
  · intro _
    rfl
  · intro ho
    simp at ho
  · intro ha
    simp at ha
  · simp only [Bool.false_eq_true, iff_false]
    split_ifs with hn
    · exact noSessionAuthenticated_ne i
    · omega
  · intro j hj
    have h1 := Fin.val_ne_of_ne hj
    have h2 := noSessionAuthenticated_ne j
    split_ifs with hn <;> omega
  · intro hn
    split_ifs at hn ⊢
    · simp at hn
    · exact h.named hn

theorem sessionClosePrivate_keeps (h : s.Single) (hj : (s.sessions j).bAuthenticated = true)
    (hij : i ≠ j) : s.Keeps (sessionClosePrivate s i) j := by
  have hn : (s.sessions i).id ≠ s.nAuthenticatedId := by
    have h1 := h.id i
    have h2 := (h.auth j).mpr hj
    have h3 := Fin.val_ne_of_ne hij
    omega
  refine ⟨?_, ?_, if_neg hn⟩
  all_goals
    simp only [sessionClosePrivate]
    rw [Session.setSlot_of_ne _ _ hij.symm]

theorem sessionOpen_single (h : s.Single) {conn : ExtnetConn} {now : ℤ}
    (ha : SessionOp.Allowed s (.openConn conn now)) : (sessionOpen s conn now).2.Single := by
  obtain ⟨h0, hfd⟩ := ha
  unfold sessionOpen
  split
  · exact h
  next i hi =>
    have hc : ¬ s.IsOpen i := by
      unfold Session.IsOpen
      rw [sessionFindPrivate_some hi]
      decide
    have hn : ¬ s.nAuthenticatedId = (i : ℕ) := fun hn => hc (h.isOpen i ((h.auth i).mp hn))
    apply h.replace
    · exact h.id i
    · exact fun hn => absurd h0 hn
    · intro _ j _ he
      refine hfd j ?_ he
      unfold Session.IsOpen
      simp only at he
      omega
    · exact fun _ => h0
    · simpa using hn
    · exact fun j _ => Iff.rfl
    · exact h.named

theorem sessionSetDataPending_single (h : s.Single) (fd : ℤ) (b : Bool) :
    (sessionSetDataPending s fd b).2.Single := by
  unfold sessionSetDataPending
  split
  · exact h
  next i _ =>
    apply h.replace
    · exact h.id i
    · exact h.unused i
    · exact fun ho j hj he => hj (h.distinct i j ho he.symm).symm
    · exact h.isOpen i
    · exact h.auth i
    · exact fun j _ => Iff.rfl
    · exact h.named

theorem sessionAuthComplete_single (h : s.Single) {fd : ℤ}
    (ha : SessionOp.Allowed s (.authComplete fd)) : (sessionAuthComplete s fd).2.Single := by
  obtain ⟨k, hk, hkfd⟩ := ha
  unfold sessionAuthComplete
  split_ifs with hn
  · exact h
  split
  · exact h
  next i hi =>
    have hi' := sessionFindPrivate_some hi
    obtain rfl : k = i := h.distinct k i hk (hkfd.trans hi'.symm)
    have hid := h.id k
    apply h.replace
    · exact hid
    · exact h.unused k
    · exact fun ho j hj he => hj (h.distinct k j ho he.symm).symm
    · exact fun _ => hk
    · simpa using hid
    · intro j hj
      have := Fin.val_ne_of_ne hj
      omega
    · exact fun _ => ⟨k, hid⟩

theorem sessionClose_single (h : s.Single) (fd : ℤ) : (sessionClose s fd).2.Single := by
  unfold sessionClose
  split_ifs with hfd
  · exact h
  split
  · exact h
  next i hi =>
    apply sessionClosePrivate_single h
    by_contra hc
    exact hfd ((sessionFindPrivate_some hi).symm.trans (h.unused i hc))

theorem sessionCloseAll_single (h : s.Single) : (sessionCloseAll s).Single := by
  refine List.foldlRecOn _ _ h fun t ht i _ => ?_
  unfold sessionCloseAllStep
  split_ifs with hc
  · exact ht
  · exact sessionClosePrivate_single ht (by rwa [extnetIsClientClosed_iff, not_not] at hc)

theorem sessionCloseExpiredStep_spec (now : Fin maxSessions → ℤ) (h : s.Single)
    (i : Fin maxSessions) :
    (sessionCloseExpiredStep now s i).Single ∧
      ∀ j, (s.sessions j).bAuthenticated = true → s.Keeps (sessionCloseExpiredStep now s i) j := by
  unfold sessionCloseExpiredStep
  split_ifs with hc
  · simp only [Bool.and_eq_true, Bool.not_eq_true', ← Bool.not_eq_true, extnetIsClientClosed_iff,
      not_not] at hc
    obtain ⟨⟨ho, ha⟩, -⟩ := hc
    refine ⟨sessionClosePrivate_single h ho, fun j hj => sessionClosePrivate_keeps h hj ?_⟩
    rintro rfl
    exact ha hj
  · exact ⟨h, fun j _ => .refl s j⟩

theorem sessionCloseExpiredUnauth_spec (h : s.Single) (now : Fin maxSessions → ℤ) :
    (sessionCloseExpiredUnauth s now).Single ∧
      ∀ j, (s.sessions j).bAuthenticated = true → s.Keeps (sessionCloseExpiredUnauth s now) j := by
  refine List.foldlRecOn (motive := fun t => t.Single ∧
    ∀ j, (s.sessions j).bAuthenticated = true → s.Keeps t j) _ _ ⟨h, fun j _ => .refl s j⟩ ?_
  intro t ht i _
  have hstep := sessionCloseExpiredStep_spec now ht.1 i
  refine ⟨hstep.1, fun j hj => ?_⟩
  have hk := ht.2 j hj
  exact hk.trans (hstep.2 j (hk.2.1.trans hj))

/-! ## The run -/

theorem sessionStep_single (h : s.Single) {op : SessionOp} (ha : op.Allowed s) :
    (sessionStep s op).Single := by
  cases op with
  | openConn conn now => exact sessionOpen_single h ha
  | close fd => exact sessionClose_single h fd
  | closeAll => exact sessionCloseAll_single h
  | closeExpiredUnauth now => exact (sessionCloseExpiredUnauth_spec h now).1
  | authComplete fd => exact sessionAuthComplete_single h ha
  | setDataPending fd b => exact sessionSetDataPending_single h fd b

/-- **Frame rule.** A call on another connection leaves the authenticated one alone. -/
theorem sessionStep_keeps (h : s.Single) {op : SessionOp} (ha : op.Allowed s)
    (hi : (s.sessions i).bAuthenticated = true)
    (hop : ¬ op.Closes (s.sessions i).extconn.sockfd) : s.Keeps (sessionStep s op) i := by
  cases op with
  | openConn conn now =>
    simp only [sessionStep, sessionOpen]
    split
    · exact .refl s i
    next k hk =>
      -- the free slot is not the authenticated one
      have hki : i ≠ k := by
        rintro rfl
        have ho : 0 ≤ (s.sessions i).extconn.sockfd := h.isOpen i hi
        rw [sessionFindPrivate_some hk] at ho
        exact absurd ho (by decide)
      exact ⟨by rw [Session.setSlot_of_ne _ _ hki], by rw [Session.setSlot_of_ne _ _ hki], rfl⟩
  | close fd =>
    simp only [sessionStep, sessionClose]
    split_ifs with hfd
    · exact .refl s i
    split
    · exact .refl s i
    next k hk =>
      refine sessionClosePrivate_keeps h hi ?_
      rintro rfl
      exact hop (sessionFindPrivate_some hk).symm
  | closeAll => exact absurd trivial hop
  | closeExpiredUnauth now => exact (sessionCloseExpiredUnauth_spec h now).2 i hi
  | authComplete fd =>
    have hn : s.nAuthenticatedId ≥ 0 := by
      rw [(h.auth i).mpr hi]
      omega
    simp only [sessionStep, sessionAuthComplete, if_pos hn]
    exact .refl s i
  | setDataPending fd b =>
    simp only [sessionStep, sessionSetDataPending]
    split
    · exact .refl s i
    next k _ =>
      by_cases hki : i = k
      · subst hki
        exact ⟨by rw [Session.setSlot_self], by rw [Session.setSlot_self], rfl⟩
      · exact ⟨by rw [Session.setSlot_of_ne _ _ hki], by rw [Session.setSlot_of_ne _ _ hki], rfl⟩

theorem sessionRun_invariant {ops : List SessionOp} (h : s.Single)
    (hops : AllSteps sessionStep (fun s op => op.Allowed s) s ops) :
    (ops.foldl sessionStep s).Single :=
  hops.foldl_inv (fun _ _ hs ha => sessionStep_single hs ha) h

/-- **At most one authenticated session.** In every state of every run at most one slot is
authenticated, `nAuthenticatedId` is that slot exactly if it is open and authenticated, and no call
that is not asked to close the authenticated connection closes or de-authenticates it. -/
theorem sessionRun_single (data : Fin maxSessions → Option ℕ) (ops : List SessionOp)
    (hops : AllSteps sessionStep (fun s op => op.Allowed s) (sessionInit data) ops) :
    let s := ops.foldl sessionStep (sessionInit data)
    (∀ i j, (s.sessions i).bAuthenticated = true → (s.sessions j).bAuthenticated = true → i = j) ∧
    (∀ i : Fin maxSessions,
      s.nAuthenticatedId = (i : ℕ) ↔ s.IsOpen i ∧ (s.sessions i).bAuthenticated = true) ∧
    ∀ op : SessionOp, op.Allowed s → ∀ i, s.IsOpen i → (s.sessions i).bAuthenticated = true →
      ¬ op.Closes (s.sessions i).extconn.sockfd → s.Keeps (sessionStep s op) i := by
  have h := sessionRun_invariant (sessionInit_single data) hops
  refine ⟨fun i j => h.eq_of_auth, fun i => ?_, fun op ha i _ hi hop => sessionStep_keeps h ha hi hop⟩
  rw [h.auth i]
  exact ⟨fun hi => ⟨h.isOpen i hi, hi⟩, And.right⟩

/-- Two clients connect, the second one authenticates, the first one expires. -/
def twoClients : List SessionOp :=
  [.openConn ⟨4, none⟩ 100, .openConn ⟨7, none⟩ 101, .authComplete 7,
    .closeExpiredUnauth fun _ => 200]

theorem sessionRun_single_two_clients :
    let s := twoClients.foldl sessionStep (sessionInit fun _ => none)
    s.nAuthenticatedId = 1 ∧ s.Keeps (sessionStep s (.openConn ⟨4, none⟩ 201)) 1 := by
  have h := sessionRun_single (fun _ => none) twoClients (by decide)
  exact ⟨(h.2.1 1).mpr (by decide),
    h.2.2 (.openConn ⟨4, none⟩ 201) (by decide) 1 (by decide) (by decide) id⟩

end BmcAsd
