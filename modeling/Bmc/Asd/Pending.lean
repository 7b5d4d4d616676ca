import Bmc.Asd.Session

/-!
# Pending data

The flag that more data of a session is pending, over the calls of the session interface. A slot keeps its flag when its session
is closed, and when a new one is opened in it.

* `LeftPending`: the last session of a slot was closed while its data was pending;
* `OpensFresh`: a new session has no data pending;
* **`opensFresh_iff`**: this holds in a run exactly when no session is opened in a slot that was left so.
-/

namespace BmcAsd

open BmcLib

/-- The flag is set for open connections only. -/
def SessionOp.OnOpen : SessionOp → Prop
  | .setDataPending sockfd _ => 0 ≤ sockfd
  | _ => True

instance : DecidablePred SessionOp.OnOpen
  | .setDataPending sockfd _ => inferInstanceAs (Decidable (0 ≤ sockfd))
  | .openConn _ _ | .close _ | .closeExpiredUnauth _ | .authComplete _ | .closeAll => instDecidableTrue

/-- The table after some calls. -/
def tableAfter (data : Fin maxSessions → Option ℕ) (ops : List SessionOp) : Session := ops.foldl sessionStep (sessionInit data)

/-- The last session of slot `i` was closed while its data was pending, and none was opened there since. -/
def LeftPending (data : Fin maxSessions → Option ℕ) (ops : List SessionOp) (i : Fin maxSessions) : Prop :=
  ∃ before op since, ops = before ++ op :: since ∧ (tableAfter data before).IsOpen i ∧
    ((tableAfter data before).sessions i).bDataPending = true ∧
      ∀ part, part <+: since → ¬ (tableAfter data (before ++ op :: part)).IsOpen i

/-- **New sessions are fresh**: no data is pending in a session that was just opened. -/
def OpensFresh (data : Fin maxSessions → Option ℕ) (ops : List SessionOp) : Prop :=
  ∀ before conn now behind, ops = before ++ .openConn conn now :: behind →
    ∀ i, sessionFindPrivate (tableAfter data before) unusedSocketFd = some i →
      ((sessionOpen (tableAfter data before) conn now).2.sessions i).bDataPending = false

/-- No session is opened in a slot whose last session was closed while its data was pending. -/
def OpensElsewhere (data : Fin maxSessions → Option ℕ) (ops : List SessionOp) : Prop :=
  ∀ before conn now behind, ops = before ++ .openConn conn now :: behind →
    ∀ i, sessionFindPrivate (tableAfter data before) unusedSocketFd = some i → ¬ LeftPending data before i

/-! ## The flag of a closed slot -/

section Step

variable {s : Session} {i : Fin maxSessions} {op : SessionOp}

theorem not_isOpen_of_find (h : sessionFindPrivate s unusedSocketFd = some i) : ¬ s.IsOpen i := by
  rw [Session.IsOpen, sessionFindPrivate_some h]
  decide

theorem sessionClosePrivate_pending (s : Session) (i j : Fin maxSessions) :
    ((sessionClosePrivate s i).sessions j).bDataPending = (s.sessions j).bDataPending := by
  rcases eq_or_ne j i with rfl | hne
  · rw [sessionClosePrivate]
    dsimp only
    rw [Session.setSlot_self]
  · rw [sessionClosePrivate]
    dsimp only
    rw [Session.setSlot_of_ne _ _ hne]

theorem sessionCloseAll_pending (s : Session) (i : Fin maxSessions) :
    ((sessionCloseAll s).sessions i).bDataPending = (s.sessions i).bDataPending := by
  refine List.foldlRecOn (motive := fun t : Session => (t.sessions i).bDataPending = (s.sessions i).bDataPending) _ _ rfl ?_
  intro t ht j _
  rw [sessionCloseAllStep]
  split_ifs
  · exact ht
  · rw [sessionClosePrivate_pending, ht]

theorem sessionCloseExpiredUnauth_pending (s : Session) (now : Fin maxSessions → ℤ) (i : Fin maxSessions) :
    ((sessionCloseExpiredUnauth s now).sessions i).bDataPending = (s.sessions i).bDataPending := by
  refine List.foldlRecOn (motive := fun t : Session => (t.sessions i).bDataPending = (s.sessions i).bDataPending) _ _ rfl ?_
  intro t ht j _
  rw [sessionCloseExpiredStep]
  split_ifs
  · rw [sessionClosePrivate_pending, ht]
  · exact ht

/-- Opening a session keeps all flags. -/
theorem sessionOpen_pending (s : Session) (conn : ExtnetConn) (now : ℤ) (i : Fin maxSessions) :
    ((sessionOpen s conn now).2.sessions i).bDataPending = (s.sessions i).bDataPending := by
  rw [sessionOpen]
  rcases sessionFindPrivate s unusedSocketFd with - | k
  · rfl
  · dsimp only
    rcases eq_or_ne i k with rfl | hne
    · rw [Session.setSlot_self]
    · rw [Session.setSlot_of_ne _ _ hne]

theorem sessionAuthComplete_pending (s : Session) (fd : ℤ) (i : Fin maxSessions) :
    ((sessionAuthComplete s fd).2.sessions i).bDataPending = (s.sessions i).bDataPending := by
  rw [sessionAuthComplete]
  split_ifs
  · rfl
  · rcases sessionFindPrivate s fd with - | k
    · rfl
    · dsimp only
      rcases eq_or_ne i k with rfl | hne
      · rw [Session.setSlot_self]
      · rw [Session.setSlot_of_ne _ _ hne]

/-- **A call** keeps the flag of each slot that is not open after it. -/
theorem sessionStep_pending (hop : op.OnOpen) (hclosed : ¬ (sessionStep s op).IsOpen i) :
    ((sessionStep s op).sessions i).bDataPending = (s.sessions i).bDataPending := by
  cases op with
  | openConn conn now => exact sessionOpen_pending s conn now i
  | close fd =>
    rw [sessionStep, sessionClose]
    split_ifs
    · rfl
    · rcases sessionFindPrivate s fd with - | k
      · rfl
      · exact sessionClosePrivate_pending s k i
  | closeAll => exact sessionCloseAll_pending s i
  | closeExpiredUnauth now => exact sessionCloseExpiredUnauth_pending s now i
  | authComplete fd => exact sessionAuthComplete_pending s fd i
  | setDataPending fd b =>
    rw [sessionStep, sessionSetDataPending] at hclosed ⊢
    rcases hfind : sessionFindPrivate s fd with - | k
    · rfl
    · rw [hfind] at hclosed
      dsimp only at hclosed ⊢
      rcases eq_or_ne i k with rfl | hne
      · -- the slot of the call stays open
        refine absurd ?_ hclosed
        rw [Session.IsOpen, Session.setSlot_self]
        exact (hop : 0 ≤ fd).trans_eq (sessionFindPrivate_some hfind).symm
      · rw [Session.setSlot_of_ne _ _ hne]

end Step

/-! ## What a slot was left with -/

section Run

variable {data : Fin maxSessions → Option ℕ} {ops : List SessionOp} {i : Fin maxSessions}

theorem tableAfter_append (ops : List SessionOp) (op : SessionOp) :
    tableAfter data (ops ++ [op]) = sessionStep (tableAfter data ops) op := by
  rw [tableAfter, List.foldl_append]
  rfl

/-- One more call, after which the slot is not open. -/
theorem leftPending_append {op : SessionOp} (hclosed : ¬ (tableAfter data (ops ++ [op])).IsOpen i) :
    LeftPending data (ops ++ [op]) i ↔
      ((tableAfter data ops).IsOpen i ∧ ((tableAfter data ops).sessions i).bDataPending = true) ∨
        (¬ (tableAfter data ops).IsOpen i ∧ LeftPending data ops i) := by
  constructor
  · rintro ⟨before, op', since, heq, hopen, hpending, hsince⟩
    rcases List.eq_nil_or_concat since with rfl | ⟨since, op'', rfl⟩
    · rw [List.append_singleton_inj] at heq
      rw [heq.1]
      exact .inl ⟨hopen, hpending⟩
    · rw [List.concat_eq_append, ← List.cons_append, ← List.append_assoc, List.append_singleton_inj] at heq
      rw [heq.1]
      rw [List.concat_eq_append] at hsince
      exact .inr ⟨hsince since (List.prefix_append _ _), before, op', since, rfl, hopen, hpending,
        fun part hpart => hsince part (hpart.trans (List.prefix_append _ _))⟩
  · rintro (⟨hopen, hpending⟩ | ⟨-, before, op', since, heq, hopen, hpending, hsince⟩)
    · refine ⟨ops, op, [], rfl, hopen, hpending, fun part hpart => ?_⟩
      rw [List.prefix_nil.1 hpart]
      exact hclosed
    · refine ⟨before, op', since ++ [op], by rw [heq, List.append_assoc, List.cons_append], hopen, hpending,
        fun part hpart => ?_⟩
      rcases List.prefix_concat_iff.1 hpart with rfl | hpart
      · rw [heq, List.append_assoc, List.cons_append] at hclosed
        exact hclosed
      · exact hsince part hpart

/-- **The flag of a closed slot** is what its last session left. -/
theorem pending_iff_leftPending (hops : ∀ op ∈ ops, op.OnOpen) (hclosed : ¬ (tableAfter data ops).IsOpen i) :
    ((tableAfter data ops).sessions i).bDataPending = true ↔ LeftPending data ops i := by
  induction ops using List.reverseRecOn with
  | nil =>
    refine ⟨fun h => absurd h Bool.false_ne_true, ?_⟩
    rintro ⟨before, op, since, heq, -⟩
    exact absurd heq.symm (List.append_ne_nil_of_right_ne_nil _ (List.cons_ne_nil _ _))
  | append_singleton ops op ih =>
    rw [leftPending_append hclosed]
    rw [tableAfter_append] at hclosed ⊢
    rw [sessionStep_pending (hops op (List.mem_append_right _ List.mem_cons_self)) hclosed]
    by_cases hopen : (tableAfter data ops).IsOpen i
    · exact ⟨fun h => .inl ⟨hopen, h⟩, fun h => h.elim And.right fun h => absurd hopen h.1⟩
    · rw [ih (fun op hop => hops op (List.mem_append_left _ hop)) hopen]
      exact ⟨fun h => .inr ⟨hopen, h⟩, fun h => h.elim (fun h => absurd h.1 hopen) And.right⟩

/-- **New sessions** are fresh in a run exactly when none is opened in a slot that was left with pending data. -/
theorem opensFresh_iff (hops : ∀ op ∈ ops, op.OnOpen) : OpensFresh data ops ↔ OpensElsewhere data ops := by
  refine forall_congr' fun before => forall_congr' fun conn => forall_congr' fun now => forall_congr' fun behind =>
    forall_congr' fun heq => forall_congr' fun i => forall_congr' fun hfind => ?_
  have hbefore : ∀ op ∈ before, op.OnOpen := fun op hop => hops op (by rw [heq]; exact List.mem_append_left _ hop)
  rw [sessionOpen_pending, ← pending_iff_leftPending hbefore (not_isOpen_of_find hfind), Bool.not_eq_true]

end Run

end BmcAsd
