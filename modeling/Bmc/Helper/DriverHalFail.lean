import Bmc.Helper.DriverHal

/-!
# Failed registrations

What `register_hw_hal_module` takes and gives back, `driver_hal.c`.

* `HalEvent`: allocations, and calls of the core module; `registerHwHalTrace`: a registration with its events;
* `registerHwHalTrace_eq`: it is `registerHwHalModule`;
* `Undone`: a failed registration has changed nothing; `CleanFailure`: the failures that clean up;
* `Failure`, `failure_of_neg`: the ways in which it fails;
* **`undone_iff`**: when a failed registration is undone.
-/

namespace BmcHelper

/-! ## Registrations -/

/-- What a registration does besides changing the list: `kmalloc` and `kfree` of a pointer, and the calls of the
core module, with the result and the private data. -/
inductive HalEvent
  | kmalloc (p : ℕ)
  | kfree (p : ℕ)
  | registerHalModule (ret : ℤ) (pdrvData : ℕ)
  | unregisterHalModule (pdrvData : ℕ)
  deriving DecidableEq, Repr

/-- The pointers that the two `kmalloc`s return, and what is in `opencount` of the new entry before it is set.
The null pointer is `0`. -/
structure HalMemory where
  node : ℕ
  opencount : ℕ
  stale : ℕ
  node_ne : node ≠ 0
  opencount_ne : opencount ≠ 0
  ne : node ≠ opencount

/-- The events behind `failed`, where `opencount` is what is in that field. -/
def failedEvents (node opencount : ℕ) : List HalEvent :=
  (if opencount ≠ 0 then [.kfree opencount] else []) ++ [.kfree node]

/-- `register_hw_hal_module`, with its events. -/
def registerHwHalTrace (hw : HwHal) (a : RegisterAnswers) (m : HalMemory) (s : Hal) : ℤ × Hal × List HalEvent :=
  if a.allocNode = false then (-12, s, [])
  else match s hw.devType with
    -- the search ends, and `opencount` has not been set
    | none => (-1, s, .kmalloc m.node :: failedEvents m.node m.stale)
    | some l =>
      if a.allocOpencount = false then (-12, s, [.kmalloc m.node, .kfree m.node])
      else
        let r := findGap hw.numInstances 0 l
        let taken : List HalEvent := [.kmalloc m.node, .kmalloc m.opencount]
        if maxDevInstances < r.1.toNat + hw.numInstances.toNat then (-105, s, taken ++ failedEvents m.node m.opencount)
        else
          let called := taken ++ [.registerHalModule a.registerHalModule a.pdrvData]
          if a.registerHalModule < 0 then (a.registerHalModule, s, called ++ failedEvents m.node m.opencount)
          else if a.tryModuleGet = false then (-1, s, called ++ failedEvents m.node m.opencount)
          else
            let nh : HwHalList :=
              { devId := r.1.toNat, minorNum := r.1, hwHal := hw, pdrvData := a.pdrvData,
                opencount := List.replicate hw.numInstances.toNat 0 }
            (r.1.toNat, Function.update s hw.devType (some (listAdd nh l r.2)), called)

/-! ## What a failure should leave -/

/-- The registry is as before, what was allocated is freed once and nothing else is freed, and where the core
module has registered, it has unregistered. -/
structure Undone (s : Hal) (r : ℤ × Hal × List HalEvent) : Prop where
  registry : r.2.1 = s
  freed : ∀ p, r.2.2.count (.kfree p) = r.2.2.count (.kmalloc p)
  unregistered : ∀ ret d, .registerHalModule ret d ∈ r.2.2 → 0 ≤ ret → .unregisterHalModule d ∈ r.2.2

/-- The search fails only where the field is null, and the core module does not go away after it has registered. -/
def CleanFailure (hw : HwHal) (a : RegisterAnswers) (m : HalMemory) (s : Hal) : Prop :=
  a.allocNode = true → match s hw.devType with
    | none => m.stale = 0
    | some l => a.allocOpencount = true → (findGap hw.numInstances 0 l).1.toNat + hw.numInstances.toNat ≤ maxDevInstances →
        0 ≤ a.registerHalModule → a.tryModuleGet = true

/-! ## When it does -/

variable {hw : HwHal} {a : RegisterAnswers} {m : HalMemory} {s : Hal}

/-- The events change nothing else. -/
theorem registerHwHalTrace_eq : ((registerHwHalTrace hw a m s).1, (registerHwHalTrace hw a m s).2.1) =
    registerHwHalModule hw a s := by
  rw [registerHwHalTrace, registerHwHalModule]
  by_cases hnode : a.allocNode = false
  · rw [if_pos hnode, if_pos hnode]
  · rw [if_neg hnode, if_neg hnode]
    cases s hw.devType with
    | none => rfl
    | some l =>
      dsimp only
      split_ifs <;> rfl

/-- A registration that frees what it takes, and for which the core module has not registered. -/
theorem undone_iff_of_calls {code : ℤ} {events : List HalEvent}
    (hcore : ∀ ret d, .registerHalModule ret d ∈ events → ret < 0) :
    Undone s (code, s, events) ↔ ∀ p, events.count (.kfree p) = events.count (.kmalloc p) :=
  ⟨Undone.freed, fun hfreed => ⟨rfl, hfreed, fun ret d h h0 => absurd (hcore ret d h) (by omega)⟩⟩

/-- The ways in which a registration fails, with their events. -/
inductive Failure (hw : HwHal) (a : RegisterAnswers) (m : HalMemory) (s : Hal) : List HalEvent → Prop
  | noMemory : a.allocNode = false → Failure hw a m s []
  | noCore : a.allocNode = true → s hw.devType = none →
      Failure hw a m s (.kmalloc m.node :: failedEvents m.node m.stale)
  | undone (l : List HalEvent) : CleanFailure hw a m s → a.allocNode = true →
      (l = [.kmalloc m.node, .kfree m.node] ∨
        l = [.kmalloc m.node, .kmalloc m.opencount, .kfree m.opencount, .kfree m.node] ∨
        a.registerHalModule < 0 ∧ l = [.kmalloc m.node, .kmalloc m.opencount,
          .registerHalModule a.registerHalModule a.pdrvData, .kfree m.opencount, .kfree m.node]) → Failure hw a m s l
  | gone : a.allocNode = true → ¬ CleanFailure hw a m s → 0 ≤ a.registerHalModule → (∃ l, s hw.devType = some l) →
      Failure hw a m s [.kmalloc m.node, .kmalloc m.opencount,
        .registerHalModule a.registerHalModule a.pdrvData, .kfree m.opencount, .kfree m.node]

/-- **The failures.** -/
theorem failure_of_neg (h : (registerHwHalTrace hw a m s).1 < 0) :
    ∃ l, registerHwHalTrace hw a m s = ((registerHwHalTrace hw a m s).1, s, l) ∧ Failure hw a m s l := by
  have hfailed : failedEvents m.node m.opencount = [.kfree m.opencount, .kfree m.node] := by
    rw [failedEvents, if_pos m.opencount_ne]
    rfl
  rw [registerHwHalTrace] at h ⊢
  by_cases hnode : a.allocNode = false
  · rw [if_pos hnode]
    exact ⟨_, rfl, .noMemory hnode⟩
  rw [if_neg hnode] at h ⊢
  have hnode' : a.allocNode = true := Bool.eq_true_of_not_eq_false hnode
  cases hcore : s hw.devType with
  | none => exact ⟨_, rfl, .noCore hnode' hcore⟩
  | some l =>
    rw [hcore] at h
    dsimp only at h ⊢
    have hclean : CleanFailure hw a m s ↔ (a.allocOpencount = true →
        (findGap hw.numInstances 0 l).1.toNat + hw.numInstances.toNat ≤ maxDevInstances →
        0 ≤ a.registerHalModule → a.tryModuleGet = true) := by
      rw [CleanFailure, hcore]
      exact forall_prop_of_true hnode'
    by_cases hopen : a.allocOpencount = false
    · rw [if_pos hopen]
      exact ⟨_, rfl, .undone _ (hclean.2 fun h => by rw [hopen] at h; cases h) hnode' (.inl rfl)⟩
    rw [if_neg hopen] at h ⊢
    by_cases hrange : maxDevInstances < (findGap hw.numInstances 0 l).1.toNat + hw.numInstances.toNat
    · rw [if_pos hrange, hfailed]
      exact ⟨_, rfl, .undone _ (hclean.2 fun _ h => absurd h (by omega)) hnode' (.inr (.inl rfl))⟩
    rw [if_neg hrange] at h ⊢
    by_cases hcall : a.registerHalModule < 0
    · rw [if_pos hcall, hfailed]
      exact ⟨_, rfl, .undone _ (hclean.2 fun _ _ h => absurd h (by omega)) hnode' (.inr (.inr ⟨hcall, rfl⟩))⟩
    rw [if_neg hcall] at h ⊢
    by_cases hget : a.tryModuleGet = false
    · rw [if_pos hget, hfailed]
      refine ⟨_, rfl, .gone hnode' (fun hc => ?_) (by omega) ⟨l, hcore⟩⟩
      have := hclean.1 hc (Bool.eq_true_of_not_eq_false hopen) (by omega) (by omega)
      rw [hget] at this
      cases this
    · rw [if_neg hget] at h
      exact absurd h (by simp)

/-- The entry is freed once. -/
theorem balanced_node (n p : ℕ) : ([.kmalloc n, .kfree n] : List HalEvent).count (.kfree p) =
    ([.kmalloc n, .kfree n] : List HalEvent).count (.kmalloc p) := by
  simp only [List.count_cons, List.count_nil, beq_iff_eq, HalEvent.kfree.injEq, HalEvent.kmalloc.injEq, reduceCtorEq,
    if_false]
  omega

/-- The entry and its counts are freed once. -/
theorem balanced_pair (n o p : ℕ) (x : List HalEvent) (hfree : ∀ p, x.count (.kfree p) = 0)
    (halloc : ∀ p, x.count (.kmalloc p) = 0) :
    (([.kmalloc n, .kmalloc o] ++ x ++ [.kfree o, .kfree n] : List HalEvent)).count (.kfree p) =
      (([.kmalloc n, .kmalloc o] ++ x ++ [.kfree o, .kfree n] : List HalEvent)).count (.kmalloc p) := by
  simp only [List.count_append, hfree, halloc, List.count_cons, List.count_nil, beq_iff_eq, HalEvent.kfree.injEq,
    HalEvent.kmalloc.injEq, reduceCtorEq, if_false]
  omega

/-- **A failed registration** is undone exactly when it fails cleanly. -/
theorem undone_iff (hw : HwHal) (a : RegisterAnswers) (m : HalMemory) (s : Hal)
    (h : (registerHwHalTrace hw a m s).1 < 0) : Undone s (registerHwHalTrace hw a m s) ↔ CleanFailure hw a m s := by
  obtain ⟨l, hl, hfail⟩ := failure_of_neg h
  rw [hl]
  cases hfail with
  | noMemory hnode =>
    refine iff_of_true ⟨rfl, fun _ => rfl, fun _ _ h => absurd h List.not_mem_nil⟩ fun h => ?_
    rw [hnode] at h
    cases h
  | noCore hnode hcore =>
    have hclean : CleanFailure hw a m s ↔ m.stale = 0 := by
      rw [CleanFailure, hcore]
      exact forall_prop_of_true hnode
    rw [hclean]
    constructor
    · intro hundone
      by_contra hstale
      have hcount := hundone.freed m.stale
      rw [failedEvents, if_pos hstale] at hcount
      simp only [List.singleton_append, List.count_cons, List.count_nil, beq_iff_eq, HalEvent.kfree.injEq,
        HalEvent.kmalloc.injEq, reduceCtorEq, if_false] at hcount
      simp at hcount
    · intro hstale
      rw [failedEvents, if_neg (not_not.2 hstale), List.nil_append]
      refine (undone_iff_of_calls fun ret d hmem => ?_).2 (balanced_node m.node)
      simp at hmem
  | undone _ hclean hnode hevents =>
    refine iff_of_true ?_ hclean
    rcases hevents with rfl | rfl | ⟨hcall, rfl⟩
    · refine (undone_iff_of_calls fun ret d hmem => ?_).2 (balanced_node m.node)
      simp at hmem
    · refine (undone_iff_of_calls fun ret d hmem => ?_).2 fun p => balanced_pair _ _ p [] (fun _ => rfl) fun _ => rfl
      simp at hmem
    · refine (undone_iff_of_calls fun ret d hmem => ?_).2 fun p =>
        balanced_pair _ _ p [.registerHalModule _ _] (fun _ => rfl) fun _ => rfl
      simp only [List.mem_cons, reduceCtorEq, HalEvent.registerHalModule.injEq, List.not_mem_nil, or_false, false_or]
        at hmem
      rw [hmem.1]
      exact hcall
  | gone hnode hclean hret hcore =>
    refine iff_of_false (fun hundone => ?_) hclean
    have hmem := hundone.unregistered a.registerHalModule a.pdrvData (by simp) hret
    simp at hmem

/-- There is no core module, and the field was null. -/
theorem undone_iff_none :
    (registerHwHalTrace ⟨.gpio, 1⟩ ⟨true, true, 0, 7, true⟩ ⟨1, 2, 0, by decide, by decide, by decide⟩ Hal.start).1 < 0 ∧
    (Undone Hal.start
        (registerHwHalTrace ⟨.gpio, 1⟩ ⟨true, true, 0, 7, true⟩ ⟨1, 2, 0, by decide, by decide, by decide⟩ Hal.start) ↔
      CleanFailure ⟨.gpio, 1⟩ ⟨true, true, 0, 7, true⟩ ⟨1, 2, 0, by decide, by decide, by decide⟩ Hal.start) := by
  have h : (registerHwHalTrace ⟨.gpio, 1⟩ ⟨true, true, 0, 7, true⟩ ⟨1, 2, 0, by decide, by decide, by decide⟩
      Hal.start).1 < 0 := by decide
  exact ⟨h, undone_iff _ _ _ _ h⟩

/-- There is no core module, and pointer 9 is what was in the new memory: it is freed. -/
theorem not_undone : ¬ ∀ (hw : HwHal) (a : RegisterAnswers) (m : HalMemory) (s : Hal),
    (registerHwHalTrace hw a m s).1 < 0 → Undone s (registerHwHalTrace hw a m s) := by
  intro h
  have hfreed := (h ⟨.gpio, 1⟩ ⟨true, true, 0, 7, true⟩ ⟨1, 2, 9, by decide, by decide, by decide⟩ Hal.start
    (by decide)).freed 9
  exact absurd hfreed (by decide)

end BmcHelper
