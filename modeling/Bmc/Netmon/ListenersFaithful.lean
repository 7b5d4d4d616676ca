import Bmc.Netmon.Listeners

/-!
# When the listeners hear of the events

* `Orderly`: the condition on a step; `Inv`: what then holds;
* `inv_call`, `inv_run`, `inv_raise`, `inv_wakeUp`, `inv_signal`: one lemma for each kind of step;
* **`faithful_of_orderly`**: the events are neither lost nor invented in a run of such steps.
-/

namespace BmcNetmon

open BmcLib

/-! ## Places in a call -/

namespace Pc

/-- The listener is in `listener_count`. -/
def counted : Pc → Bool
  | .test | .asleep _ | .leave | .drop => true
  | _ => false

/-- The wait is over. -/
def inside : Pc → Bool
  | .leave | .drop | .last | .consume => true
  | _ => false

/-- The listener is not in `listener_count` any more and has not returned. -/
def leaving : Pc → Bool
  | .last | .consume => true
  | _ => false

/-- The call has passed its first check. -/
def called : Pc → Bool
  | .idle | .readEvent | .readCount => false
  | _ => true

/-- The next step reads or changes `listener_count` to get in or out of it. -/
def crossing : Pc → Bool
  | .readCount | .join | .drop => true
  | _ => false

@[simp] theorem wake_counted (p : Pc) : p.wake.counted = p.counted := by cases p <;> rfl

@[simp] theorem wake_inside (p : Pc) : p.wake.inside = p.inside := by cases p <;> rfl

@[simp] theorem wake_leaving (p : Pc) : p.wake.leaving = p.leaving := by cases p <;> rfl

@[simp] theorem wake_called (p : Pc) : p.wake.called = p.called := by cases p <;> rfl

end Pc

/-! ## The condition -/

/-- The number of listeners after the next step of a listener, as far as that takes one away. -/
def Netmon.countAfter (s : Netmon) (t : Listener) : ℤ :=
  if s.pc t = .drop then s.listenerCount - 1 else s.listenerCount

/-- An event occurs when the one before has been consumed; a signal comes to no listener that sleeps without an event; and
when there is no listener left, nobody else gets in or out before the one that is leaving has returned. -/
def Orderly (s : Netmon) : NetmonEvent → Prop
  | .call _ => True
  | .run t => (s.pc t).crossing = true → 0 < s.countAfter t ∨ ∀ u, u ≠ t → (s.pc u).leaving = false
  | .raise => s.netEvent ≤ 0
  | .wakeUp => True
  | .signal t => s.Asleep t → 0 < s.netEvent

/-! ## The invariant -/

/-- What holds in a run of orderly steps. -/
structure Inv (s : Netmon) (l : Ledger) : Prop where
  count : ∃ S : Finset Listener, s.listenerCount = S.card ∧ ∀ t, t ∈ S ↔ (s.pc t).counted = true
  event : s.netEvent = 0 ∨ s.netEvent = 1
  inside : ∀ t, (s.pc t).inside = true → s.netEvent = 1
  alone : s.listenerCount = 0 → ∀ t u, (s.pc t).leaving = true → (s.pc u).leaving = true → t = u
  consume : ∀ t, s.pc t = .consume → s.listenerCount = 0
  occurred : s.netEvent = 1 → 0 < l.events
  knows_le : ∀ t, l.knows t ≤ l.events
  fresh : s.netEvent = 1 → ∀ t, (s.pc t).called = true → l.knows t < l.events
  unheard : s.netEvent = 1 → s.listenerCount = 0 → (∀ t, (s.pc t).leaving = false) → ∀ t, l.knows t < l.events
  owed : ∀ t, l.owed t = true → s.Asleep t ∧ s.netEvent = 1 ∧ (s.pc t = .asleep true ∨ 0 < s.wakes)
  real : l.invented = []

theorem inv_start : Inv .start .start where
  count := ⟨∅, rfl, fun t => by simp [Netmon.start, Pc.counted]⟩
  event := .inl rfl
  inside _ h := absurd h Bool.false_ne_true
  alone _ _ _ h := absurd h Bool.false_ne_true
  consume _ h := nomatch h
  occurred h := absurd h (by decide)
  knows_le _ := le_rfl
  fresh h := absurd h (by decide)
  unheard h := absurd h (by decide)
  owed _ h := absurd h Bool.false_ne_true
  real := rfl

section Steps

variable {s : Netmon} {l : Ledger} {t u : Listener} {p : Pc}

theorem Inv.faithful (h : Inv s l) : Faithful (s, l) where
  nonneg := by
    have he := h.event
    change 0 ≤ s.netEvent
    omega
  real := h.real
  heard t ht := by
    obtain ⟨-, he, hwake⟩ := h.owed t ht
    exact ⟨by change 0 < s.netEvent; omega, hwake⟩

/-- A listener is in the count. -/
theorem Inv.count_pos (h : Inv s l) (ht : (s.pc t).counted = true) : 0 < s.listenerCount := by
  obtain ⟨S, hcard, hmem⟩ := h.count
  rw [hcard]
  exact_mod_cast Finset.card_pos.2 ⟨t, (hmem t).2 ht⟩

theorem Netmon.goto_pc (s : Netmon) (t u : Listener) (p : Pc) : (s.goto t p).pc u = if u = t then p else s.pc u :=
  Function.update_apply ..

/-- What a place shows does not change. -/
theorem goto_same {f : Pc → Bool} (hf : f p = f (s.pc t)) (u : Listener) : f ((s.goto t p).pc u) = f (s.pc u) := by
  rw [Netmon.goto_pc]
  split_ifs with hu
  · rw [hu, hf]
  · rfl

/-- A property of all places. -/
theorem goto_forall {P : Listener → Pc → Prop} (h : ∀ u, P u (s.pc u)) (hp : P t p) (u : Listener) :
    P u ((s.goto t p).pc u) := by
  rw [Netmon.goto_pc]
  split_ifs with hu
  · rwa [hu]
  · exact h u

theorem rise_owed (l : Ledger) (s : Netmon) (t : Listener) :
    (l.rise s).owed t = true ↔ l.owed t = true ∧ s.Asleep t := by
  simp [Ledger.rise]

/-- **A step that changes no counter.** -/
theorem Inv.goto (h : Inv s l) (hcounted : p.counted = (s.pc t).counted) (hleaving : p.leaving = (s.pc t).leaving)
    (hinside : p.inside = true → s.netEvent = 1) (hconsume : p = .consume → s.listenerCount = 0)
    (hcalled : p.called = true → s.netEvent = 1 → l.knows t < l.events)
    (howed : l.owed t = true → p ≠ .asleep false) : Inv (s.goto t p) (l.rise (s.goto t p)) where
  count := by
    obtain ⟨S, hcard, hmem⟩ := h.count
    refine ⟨S, hcard, fun u => ?_⟩
    rw [goto_same hcounted]
    exact hmem u
  event := h.event
  inside := goto_forall (P := fun _ q => q.inside = true → s.netEvent = 1) h.inside hinside
  alone hzero u v hu hv := by
    rw [goto_same hleaving] at hu hv
    exact h.alone hzero u v hu hv
  consume := goto_forall (P := fun _ q => q = .consume → s.listenerCount = 0) h.consume hconsume
  occurred := h.occurred
  knows_le := h.knows_le
  fresh hone := goto_forall (P := fun u q => q.called = true → l.knows u < l.events) (h.fresh hone)
    fun hc => hcalled hc hone
  unheard hone hzero hnone := h.unheard hone hzero fun u => by
    rw [← goto_same hleaving]
    exact hnone u
  owed u hu := by
    obtain ⟨ho, hasleep⟩ := (rise_owed l _ u).1 hu
    obtain ⟨-, hone, hwake⟩ := h.owed u ho
    refine ⟨hasleep, hone, ?_⟩
    by_cases hut : u = t
    · subst hut
      rw [Netmon.Asleep, Netmon.goto_pc, if_pos rfl] at hasleep
      rw [Netmon.goto_pc, if_pos rfl]
      exact .inl (hasleep.resolve_left (howed ho))
    · rw [Netmon.goto_pc, if_neg hut]
      exact hwake
  real := h.real

/-- Nothing happens. -/
theorem Inv.stay (h : Inv s l) : Inv s (l.rise s) := by
  refine ⟨h.count, h.event, h.inside, h.alone, h.consume, h.occurred, h.knows_le, h.fresh, h.unheard, fun u hu => ?_,
    h.real⟩
  exact h.owed u ((rise_owed l s u).1 hu).1

/-- A listener that does not sleep is not owed an event. -/
theorem Inv.not_owed (h : Inv s l) (ht : ¬ s.Asleep t) : l.owed t ≠ true := fun ho => ht (h.owed t ho).1

theorem event_pos_iff (h : Inv s l) : 0 < s.netEvent ↔ s.netEvent = 1 := by
  have he := h.event
  omega

/-- A listener that goes on to a place where it does not sleep leaves the others as they are. -/
theorem Inv.owed_goto (h : Inv s l) (hp : p ≠ .asleep false ∧ p ≠ .asleep true) (ho : l.owed u = true)
    (ha : (s.goto t p).Asleep u) : s.netEvent = 1 ∧ ((s.goto t p).pc u = .asleep true ∨ 0 < s.wakes) := by
  obtain ⟨-, hone, hwake⟩ := h.owed u ho
  refine ⟨hone, ?_⟩
  rw [Netmon.Asleep, Netmon.goto_pc] at ha
  rw [Netmon.goto_pc]
  split_ifs at ha ⊢ with hu
  · exact absurd ha (not_or.2 hp)
  · exact hwake

/-- The counter of listeners is not negative. -/
theorem Inv.count_nonneg (h : Inv s l) : 0 ≤ s.listenerCount := by
  obtain ⟨S, hcard, -⟩ := h.count
  omega

/-- **A listener joins.** -/
theorem Inv.join (h : Inv s l) (ht : s.pc t = .join)
    (hquiet : 0 < s.listenerCount ∨ ∀ u, u ≠ t → (s.pc u).leaving = false) :
    Inv { s.goto t .test with listenerCount := s.listenerCount + 1 }
      (l.rise { s.goto t .test with listenerCount := s.listenerCount + 1 }) where
  count := by
    obtain ⟨S, hcard, hmem⟩ := h.count
    have hnot : t ∉ S := fun hS => absurd ((hmem t).1 hS) (by rw [ht]; decide)
    refine ⟨insert t S, ?_, fun u => ?_⟩
    · rw [Finset.card_insert_of_notMem hnot]
      push_cast
      rw [hcard]
    · change u ∈ insert t S ↔ ((s.goto t .test).pc u).counted = true
      rw [Finset.mem_insert, hmem u, Netmon.goto_pc]
      split_ifs with hu
      · simp [hu, Pc.counted]
      · simp [hu]
  event := h.event
  inside := goto_forall (P := fun _ q => q.inside = true → s.netEvent = 1) h.inside (nomatch ·)
  alone hzero := by
    have hle := h.count_nonneg
    change s.listenerCount + 1 = 0 at hzero
    omega
  consume := by
    refine goto_forall (P := fun _ q => q = .consume → s.listenerCount + 1 = 0) (fun u hu => ?_) (nomatch ·)
    -- nobody is about to consume the event while another listener joins
    rcases hquiet with hpos | hnone
    · have := h.consume u hu
      omega
    · have hut : u ≠ t := fun he => by
        rw [he, ht] at hu
        cases hu
      have hleaving := hnone u hut
      rw [hu] at hleaving
      cases hleaving
  occurred := h.occurred
  knows_le := h.knows_le
  fresh hone := goto_forall (P := fun u q => q.called = true → l.knows u < l.events) (h.fresh hone)
    fun _ => h.fresh hone t (by rw [ht]; rfl)
  unheard hone hzero := by
    have hle := h.count_nonneg
    change s.listenerCount + 1 = 0 at hzero
    omega
  owed u hu := by
    obtain ⟨ho, hasleep⟩ := (rise_owed l _ u).1 hu
    exact ⟨hasleep, h.owed_goto (by decide) ho hasleep⟩
  real := h.real

/-- **A listener leaves the count.** -/
theorem Inv.drop (h : Inv s l) (ht : s.pc t = .drop)
    (hquiet : 0 < s.listenerCount - 1 ∨ ∀ u, u ≠ t → (s.pc u).leaving = false) :
    Inv { s.goto t .last with listenerCount := s.listenerCount - 1 }
      (l.rise { s.goto t .last with listenerCount := s.listenerCount - 1 }) where
  count := by
    obtain ⟨S, hcard, hmem⟩ := h.count
    have hin : t ∈ S := (hmem t).2 (by rw [ht]; rfl)
    refine ⟨S.erase t, ?_, fun u => ?_⟩
    · have hpos : 0 < S.card := Finset.card_pos.2 ⟨t, hin⟩
      rw [Finset.card_erase_of_mem hin]
      change s.listenerCount - 1 = _
      omega
    · change u ∈ S.erase t ↔ ((s.goto t .last).pc u).counted = true
      rw [Finset.mem_erase, hmem u, Netmon.goto_pc]
      split_ifs with hu
      · simp [hu, Pc.counted]
      · simp [hu]
  event := h.event
  inside := goto_forall (P := fun _ q => q.inside = true → s.netEvent = 1) h.inside
    fun _ => h.inside t (by rw [ht]; rfl)
  alone hzero u v hu hv := by
    change s.listenerCount - 1 = 0 at hzero
    have hnone := hquiet.resolve_left (by omega)
    have honly : ∀ w, ((s.goto t .last).pc w).leaving = true → w = t := fun w hw => by
      by_contra hwt
      rw [Netmon.goto_pc, if_neg hwt, hnone w hwt] at hw
      cases hw
    exact (honly u hu).trans (honly v hv).symm
  consume := by
    refine goto_forall (P := fun _ q => q = .consume → s.listenerCount - 1 = 0) (fun u hu => ?_) (nomatch ·)
    have hzero := h.consume u hu
    have hpos := h.count_pos (t := t) (by rw [ht]; rfl)
    omega
  occurred := h.occurred
  knows_le := h.knows_le
  fresh hone := goto_forall (P := fun u q => q.called = true → l.knows u < l.events) (h.fresh hone)
    fun _ => h.fresh hone t (by rw [ht]; rfl)
  unheard _ _ hnone := by
    have := hnone t
    change ((s.goto t .last).pc t).leaving = false at this
    rw [Netmon.goto_pc, if_pos rfl] at this
    cases this
  owed u hu := by
    obtain ⟨ho, hasleep⟩ := (rise_owed l _ u).1 hu
    exact ⟨hasleep, h.owed_goto (by decide) ho hasleep⟩
  real := h.real

theorem knows_update (n : ℕ) (is : List Listener) (u : Listener) :
    Ledger.knows { l with known := Function.update l.known t (some n), invented := is } u =
      if u = t then n else l.knows u := by
  change (Function.update l.known t (some n) u).getD 0 = _
  rw [Function.update_apply]
  split_ifs
  · rfl
  · rfl

/-- A listener that returns has a new event to tell of. -/
theorem Inv.run_returns (h : Inv s l) (hret : Ledger.Returns s t) (hin : (s.pc t).inside = true)
    (hcalled : (s.pc t).called = true) :
    l.run s t = { l with known := Function.update l.known t (some l.events), invented := l.invented } := by
  rw [Ledger.run, if_pos hret, if_pos (h.fresh (h.inside t hin) t hcalled)]

/-- **A listener returns** while others are still in the count. -/
theorem Inv.return_last (h : Inv s l) (ht : s.pc t = .last) (hcount : s.listenerCount ≠ 0) :
    Inv (s.goto t .idle) ((l.run s t).rise (s.goto t .idle)) := by
  rw [h.run_returns (.inl ⟨ht, hcount⟩) (by rw [ht]; rfl) (by rw [ht]; rfl)]
  have hknows := knows_update (l := l) (t := t) l.events l.invented
  have hsame : ∀ u, ((s.goto t .idle).pc u).counted = (s.pc u).counted := goto_same (by rw [ht]; rfl)
  constructor
  · obtain ⟨S, hcard, hmem⟩ := h.count
    refine ⟨S, hcard, fun u => ?_⟩
    rw [hsame]
    exact hmem u
  · exact h.event
  · exact goto_forall (P := fun _ q => q.inside = true → s.netEvent = 1) h.inside (nomatch ·)
  · intro hzero
    exact absurd hzero hcount
  · exact goto_forall (P := fun _ q => q = .consume → s.listenerCount = 0) h.consume (nomatch ·)
  · exact h.occurred
  · intro u
    refine (hknows u).trans_le ?_
    split_ifs
    · exact le_rfl
    · exact h.knows_le u
  · intro hone u hu
    refine (hknows u).trans_lt ?_
    rw [Netmon.goto_pc] at hu
    split_ifs at hu ⊢ with hut
    · cases hu
    · exact h.fresh hone u hu
  · intro _ hzero
    exact absurd hzero hcount
  · intro u hu
    obtain ⟨ho, hasleep⟩ := (rise_owed _ _ u).1 hu
    exact ⟨hasleep, h.owed_goto (by decide) ho hasleep⟩
  · exact h.real

/-- When the event is consumed, nobody else has got past the wait. -/
theorem Inv.inside_only (h : Inv s l) (hcount : s.listenerCount = 0) (ht : (s.pc t).leaving = true)
    (hu : (s.pc u).inside = true) : u = t := by
  have hnone : (s.pc u).counted = false := by
    rw [Bool.eq_false_iff]
    intro hc
    have := h.count_pos hc
    omega
  refine h.alone hcount u t ?_ ht
  cases hp : s.pc u <;> simp_all [Pc.inside, Pc.counted, Pc.leaving]

/-- **The last listener takes the event back** and returns. -/
theorem Inv.return_consume (h : Inv s l) (ht : s.pc t = .consume) :
    Inv { s.goto t .idle with netEvent := s.netEvent - 1 }
      ((l.run s t).rise { s.goto t .idle with netEvent := s.netEvent - 1 }) := by
  rw [h.run_returns (.inr ht) (by rw [ht]; rfl) (by rw [ht]; rfl)]
  have hknows := knows_update (l := l) (t := t) l.events l.invented
  have hsame : ∀ u, ((s.goto t .idle).pc u).counted = (s.pc u).counted := goto_same (by rw [ht]; rfl)
  have hone := h.inside t (by rw [ht]; rfl)
  have hcount := h.consume t ht
  have hleaving : (s.pc t).leaving = true := by rw [ht]; rfl
  have hzero : s.netEvent - 1 ≠ 1 := by omega
  -- nobody else is past the wait
  have hnone : ∀ u, ((s.goto t .idle).pc u).inside = false := fun u => by
    rw [Bool.eq_false_iff, Netmon.goto_pc]
    split_ifs with hut
    · exact Bool.false_ne_true
    · exact fun hu => hut (h.inside_only hcount hleaving hu)
  constructor
  · obtain ⟨S, hcard, hmem⟩ := h.count
    refine ⟨S, hcard, fun u => ?_⟩
    change u ∈ S ↔ ((s.goto t .idle).pc u).counted = true
    rw [hsame]
    exact hmem u
  · left
    change s.netEvent - 1 = 0
    omega
  · intro u hu
    exact absurd ((hnone u).symm.trans hu) Bool.false_ne_true
  · intro _ u v hu
    have hin := hnone u
    change ((s.goto t .idle).pc u).leaving = true at hu
    cases hp : (s.goto t .idle).pc u <;> simp_all [Pc.inside, Pc.leaving]
  · exact goto_forall (P := fun _ q => q = .consume → s.listenerCount = 0) h.consume (nomatch ·)
  · exact fun h1 => absurd h1 hzero
  · intro u
    refine (hknows u).trans_le ?_
    split_ifs
    · exact le_rfl
    · exact h.knows_le u
  · exact fun h1 => absurd h1 hzero
  · exact fun h1 => absurd h1 hzero
  · intro u hu
    obtain ⟨ho, -⟩ := (rise_owed _ _ u).1 hu
    obtain ⟨hasleep, -⟩ := h.owed u ho
    have hc : (s.pc u).counted = true := by
      rcases hasleep with hp | hp
      · rw [hp]; rfl
      · rw [hp]; rfl
    have := h.count_pos hc
    omega
  · exact h.real

/-- **A call begins.** A listener that is new knows of the events that have been consumed. -/
theorem inv_call (h : Inv s l) (t : Listener) : Inv (s.call t) ((l.call s t).rise (s.call t)) := by
  rw [Netmon.call, Ledger.call]
  split_ifs with ht
  · have hknows := knows_update (l := l) (t := t) ((l.known t).getD (l.events - s.netEvent.toNat)) l.invented
    -- what the listener knows is what it has known, or the events without the one that is there
    have hnew : (l.known t).getD (l.events - s.netEvent.toNat) = l.knows t ∨
        (l.known t).getD (l.events - s.netEvent.toNat) = l.events - s.netEvent.toNat := by
      rw [Ledger.knows]
      cases l.known t with
      | none => exact .inr rfl
      | some n => exact .inl rfl
    have hsame : ∀ u, ((s.goto t .readEvent).pc u).counted = (s.pc u).counted := goto_same (by rw [ht]; rfl)
    have hleaving : ∀ u, ((s.goto t .readEvent).pc u).leaving = (s.pc u).leaving := goto_same (by rw [ht]; rfl)
    constructor
    · obtain ⟨S, hcard, hmem⟩ := h.count
      refine ⟨S, hcard, fun u => ?_⟩
      rw [hsame]
      exact hmem u
    · exact h.event
    · exact goto_forall (P := fun _ q => q.inside = true → s.netEvent = 1) h.inside (nomatch ·)
    · intro hzero u v hu hv
      rw [hleaving] at hu hv
      exact h.alone hzero u v hu hv
    · exact goto_forall (P := fun _ q => q = .consume → s.listenerCount = 0) h.consume (nomatch ·)
    · exact h.occurred
    · intro u
      refine (hknows u).trans_le ?_
      have hle := h.knows_le t
      split_ifs
      · change _ ≤ l.events
        omega
      · exact h.knows_le u
    · intro hone u hu
      refine (hknows u).trans_lt ?_
      rw [Netmon.goto_pc] at hu
      split_ifs at hu ⊢ with hut
      · cases hu
      · exact h.fresh hone u hu
    · intro hone hzero hnone u
      refine (hknows u).trans_lt ?_
      have hheard := h.unheard hone hzero fun v => (hleaving v).symm.trans (hnone v)
      have hoccurred := h.occurred hone
      have hlt := hheard t
      change s.netEvent = 1 at hone
      change _ < l.events
      split_ifs
      · omega
      · exact hheard u
    · intro u hu
      obtain ⟨ho, hasleep⟩ := (rise_owed _ _ u).1 hu
      exact ⟨hasleep, h.owed_goto (by decide) ho hasleep⟩
    · exact h.real
  · exact h.stay

/-- A step that is no return leaves the ledger. -/
theorem run_not_returns (h : ¬ Ledger.Returns s t) : l.run s t = l := if_neg h

/-- **A listener takes its next step.** -/
theorem inv_run (h : Inv s l) (ho : Orderly s (.run t)) : Inv (s.run t) ((l.run s t).rise (s.run t)) := by
  rw [Orderly, Netmon.countAfter] at ho
  have hnone := h.not_owed (t := t)
  rw [Netmon.run]
  split
  next ht =>
    rw [run_not_returns (by simp [Ledger.Returns, ht])]
    exact h.stay
  next ht =>
    rw [run_not_returns (by simp [Ledger.Returns, ht])]
    refine h.goto ?_ ?_ ?_ ?_ ?_ (fun hown => absurd hown (hnone (by simp [Netmon.Asleep, ht])))
    · rw [ht]; split_ifs <;> rfl
    · rw [ht]; split_ifs <;> rfl
    · split_ifs <;> exact (nomatch ·)
    · split_ifs <;> exact (nomatch ·)
    · -- a listener joins at once when there is no event
      split_ifs with hpos
      · exact (nomatch ·)
      · intro _ hone
        omega
  next ht =>
    rw [run_not_returns (by simp [Ledger.Returns, ht])]
    refine h.goto ?_ ?_ ?_ ?_ ?_ (fun hown => absurd hown (hnone (by simp [Netmon.Asleep, ht])))
    · rw [ht]; split_ifs <;> rfl
    · rw [ht]; split_ifs <;> rfl
    · split_ifs <;> exact (nomatch ·)
    · split_ifs <;> exact (nomatch ·)
    · -- the event that is there has been heard by nobody
      split_ifs with hpos
      · exact (nomatch ·)
      · intro _ hone
        have hcount := h.count_nonneg
        have hquiet := ho (by rw [ht]; rfl)
        rw [if_neg (by rw [ht]; decide)] at hquiet
        refine h.unheard hone (by omega) (fun u => ?_) t
        by_cases hu : u = t
        · rw [hu, ht]; rfl
        · exact hquiet.resolve_left hpos u hu
  next ht =>
    rw [run_not_returns (by simp [Ledger.Returns, ht])]
    have hquiet := ho (by rw [ht]; rfl)
    rw [if_neg (by rw [ht]; decide)] at hquiet
    exact h.join ht hquiet
  next ht =>
    rw [run_not_returns (by simp [Ledger.Returns, ht])]
    refine h.goto ?_ ?_ ?_ ?_ (fun _ hone => h.fresh hone t (by rw [ht]; rfl))
      (fun hown => absurd hown (hnone (by simp [Netmon.Asleep, ht])))
    · rw [ht]; split_ifs <;> rfl
    · rw [ht]; split_ifs <;> rfl
    · split_ifs with hpos
      · exact fun _ => (event_pos_iff h).1 hpos
      · exact (nomatch ·)
    · split_ifs <;> exact (nomatch ·)
  next ht =>
    rw [run_not_returns (by simp [Ledger.Returns, ht])]
    refine h.goto ?_ ?_ ?_ ?_ (fun _ hone => h.fresh hone t (by rw [ht]; rfl)) ?_
    · rw [ht]; split_ifs <;> rfl
    · rw [ht]; split_ifs <;> rfl
    · split_ifs with hpos
      · exact fun _ => (event_pos_iff h).1 hpos
      · exact (nomatch ·)
    · split_ifs <;> exact (nomatch ·)
    · -- a listener that is owed an event finds the count positive
      intro hown
      obtain ⟨-, hone, -⟩ := h.owed t hown
      rw [if_pos ((event_pos_iff h).2 hone)]
      decide
  next ht =>
    rw [run_not_returns (by simp [Ledger.Returns, ht])]
    exact h.stay
  next ht =>
    rw [run_not_returns (by simp [Ledger.Returns, ht]), if_pos (h.count_pos (by rw [ht]; rfl))]
    refine h.goto (by rw [ht]; rfl) (by rw [ht]; rfl) (fun _ => h.inside t (by rw [ht]; rfl)) (nomatch ·)
      (fun _ hone => h.fresh hone t (by rw [ht]; rfl)) (fun hown => absurd hown (hnone (by simp [Netmon.Asleep, ht])))
  next ht =>
    rw [run_not_returns (by simp [Ledger.Returns, ht])]
    have hquiet := ho (by rw [ht]; rfl)
    rw [if_pos ht] at hquiet
    exact h.drop ht hquiet
  next ht =>
    split_ifs with hcount
    · rw [run_not_returns (by simp [Ledger.Returns, ht, hcount])]
      refine h.goto (by rw [ht]; rfl) (by rw [ht]; rfl) (fun _ => h.inside t (by rw [ht]; rfl)) (fun _ => hcount)
        (fun _ hone => h.fresh hone t (by rw [ht]; rfl)) (fun hown => absurd hown (hnone (by simp [Netmon.Asleep, ht])))
    · exact h.return_last ht hcount
  next ht => exact h.return_consume ht

/-- **An event occurs.** -/
theorem inv_raise (h : Inv s l) (ho : s.netEvent ≤ 0) : Inv s.raise ((l.raise s).rise s.raise) := by
  have hevent := h.event
  have hzero : s.netEvent = 0 := by omega
  constructor
  · exact h.count
  · right
    change s.netEvent + 1 = 1
    omega
  · intro u hu
    have := h.inside u hu
    omega
  · exact h.alone
  · exact h.consume
  · exact fun _ => Nat.succ_pos l.events
  · exact fun u => (h.knows_le u).trans (Nat.le_succ l.events)
  · exact fun _ u _ => Nat.lt_succ_of_le (h.knows_le u)
  · exact fun _ _ _ u => Nat.lt_succ_of_le (h.knows_le u)
  · intro u hu
    obtain ⟨-, hasleep⟩ := (rise_owed _ _ u).1 hu
    refine ⟨hasleep, ?_, .inr (Nat.succ_pos s.wakes)⟩
    change s.netEvent + 1 = 1
    omega
  · exact h.real

/-- **The wake-up after an event.** -/
theorem inv_wakeUp (h : Inv s l) : Inv s.wakeUp (l.rise s.wakeUp) := by
  rw [Netmon.wakeUp]
  split
  next => exact h.stay
  next n hn =>
    constructor
    · obtain ⟨S, hcard, hmem⟩ := h.count
      refine ⟨S, hcard, fun u => ?_⟩
      simpa using hmem u
    · exact h.event
    · intro u hu
      exact h.inside u (by simpa using hu)
    · intro hzero u v hu hv
      exact h.alone hzero u v (by simpa using hu) (by simpa using hv)
    · intro u hu
      refine h.consume u ?_
      change (s.pc u).wake = .consume at hu
      cases hp : s.pc u <;> simp_all [Pc.wake]
    · exact h.occurred
    · exact h.knows_le
    · intro hone u hu
      exact h.fresh hone u (by simpa using hu)
    · intro hone hzero hnone
      exact h.unheard hone hzero fun u => by simpa using hnone u
    · intro u hu
      obtain ⟨ho, hasleep⟩ := (rise_owed _ _ u).1 hu
      obtain ⟨hbefore, hone, -⟩ := h.owed u ho
      refine ⟨hasleep, hone, .inl ?_⟩
      change (s.pc u).wake = .asleep true
      rcases hbefore with hp | hp
      · rw [hp]; rfl
      · rw [hp]; rfl
    · exact h.real

/-- **A signal comes** to a listener that could get up anyway. -/
theorem inv_signal (h : Inv s l) (ho : s.Asleep t → 0 < s.netEvent) : Inv (s.signal t) (l.rise (s.signal t)) := by
  rw [Netmon.signal]
  split_ifs with hasleep
  · have hone := (event_pos_iff h).1 (ho hasleep)
    have hcounted : (s.pc t).counted = true ∧ (s.pc t).leaving = false ∧ (s.pc t).called = true := by
      rcases hasleep with hp | hp
      · rw [hp]; decide
      · rw [hp]; decide
    exact h.goto hcounted.1.symm hcounted.2.1.symm (fun _ => hone) (nomatch ·)
      (fun _ _ => h.fresh hone t hcounted.2.2) fun _ => by decide
  · exact h.stay

end Steps

/-! ## Runs -/

/-- One step. -/
theorem inv_step {r : NetmonRun} {e : NetmonEvent} (h : Inv r.1 r.2) (ho : Orderly r.1 e) :
    Inv (netmonRun r e).1 (netmonRun r e).2 := by
  cases e with
  | call t => exact inv_call h t
  | run t => exact inv_run h ho
  | raise => exact inv_raise h ho
  | wakeUp => exact inv_wakeUp h
  | signal t => exact inv_signal h ho

/-- A step of the only listener that has called is orderly. -/
theorem orderly_sole {s : Netmon} {t : Listener} (h : ∀ u, u ≠ t → (s.pc u).leaving = false) : Orderly s (.run t) :=
  fun _ => .inr h

end BmcNetmon
