import Bmc.Lib.Loop

/-!
# Properties of every state of a run

A system takes a step for each event.

* `Always`: a property of every state that a run passes through;
* **`always_of_allSteps`**, **`always_iff_of_inv`**, **`always_iff_allSteps`**: a property that a step keeps when, or
  exactly when, a condition is met. The condition is asked of `AllSteps` of the run then.
-/

namespace BmcLib

variable {σ ε : Type*}

/-- The states that the run passes through, the first included, are good. -/
def Always (step : σ → ε → σ) (good : σ → Prop) : σ → List ε → Prop
  | s, [] => good s
  | s, e :: es => good s ∧ Always step good (step s e) es

variable {step : σ → ε → σ} {inv good : σ → Prop} {ok : σ → ε → Prop} {s : σ}

theorem Always.start {es : List ε} (h : Always step good s es) : good s := by
  cases es with
  | nil => exact h
  | cons e es => exact h.1

/-- The last state of the run is good. -/
theorem Always.foldl {es : List ε} (h : Always step good s es) : good (es.foldl step s) := by
  induction es generalizing s with
  | nil => exact h
  | cons e es ih => exact ih h.2

theorem Always.mono {good' : σ → Prop} (himp : ∀ s, good s → good' s) {es : List ε}
    (h : Always step good s es) : Always step good' s es := by
  induction es generalizing s with
  | nil => exact himp s h
  | cons e es ih => exact ⟨himp s h.1, ih h.2⟩

/-- **A property that a step keeps when a condition is met.** -/
theorem always_of_allSteps (hstep : ∀ s e, good s → ok s e → good (step s e)) (hs : good s) {es : List ε}
    (h : AllSteps step ok s es) : Always step good s es := by
  induction es generalizing s with
  | nil => exact hs
  | cons e es ih => exact ⟨hs, ih (hstep s e hs h.1) h.2⟩

/-- **Exact conditions.** The steps from the states in which `inv` holds keep `inv` when a condition is met, and end the
property when it is not. -/
theorem always_iff_of_inv (hgood : ∀ s, inv s → good s) (hok : ∀ s e, inv s → ok s e → inv (step s e))
    (hbad : ∀ s e, inv s → ¬ ok s e → ¬ good (step s e)) (hs : inv s) (es : List ε) :
    Always step good s es ↔ AllSteps step ok s es := by
  induction es generalizing s with
  | nil => exact iff_of_true (hgood s hs) trivial
  | cons e es ih =>
    constructor
    · intro h
      have he : ok s e := by
        by_contra hno
        exact hbad s e hs hno h.2.start
      exact ⟨he, (ih (hok s e hs he)).1 h.2⟩
    · intro h
      exact ⟨hgood s hs, (ih (hok s e hs h.1)).2 h.2⟩

/-- **A property that a step keeps exactly when a condition is met.** -/
theorem always_iff_allSteps (hinv : ∀ s e, inv s → inv (step s e))
    (hstep : ∀ s e, inv s → good s → (good (step s e) ↔ ok s e)) (hs : inv s) (hgood : good s)
    (es : List ε) : Always step good s es ↔ AllSteps step ok s es := by
  have hboth : ∀ s e, inv s ∧ good s → ok s e → inv (step s e) ∧ good (step s e) := fun s e h he =>
    ⟨hinv s e h.1, (hstep s e h.1 h.2).2 he⟩
  exact always_iff_of_inv (fun _ h => h.2) hboth (fun s e h hno hnext => hno ((hstep s e h.1 h.2).1 hnext))
    ⟨hs, hgood⟩ es

end BmcLib
