import Mathlib.Tactic

/-!
# Programs that ask

A program makes calls one after the other, where each call may depend on the answers so far, and ends with a result or is
left early.

* `Code`, a monad: `Code.call`, `Code.leave`;
* `Code.Runs`: a transcript of calls and answers, with what the program comes to; **`runs_bind`**;
* `Code.attempt`: a program that is not left;
* `Code.Calls`: the calls that a program can make, with `Runs.calls`;
* `Code.exec`: the program on a list of answers.
-/

namespace BmcLib

/-- A program with calls in `κ`, answers in `α` and results in `β`. It may be left early, with a code in `ε`. -/
inductive Code (κ α ε β : Type) where
  | ret (b : β)
  | leave (e : ε)
  | ask (c : κ) (k : α → Code κ α ε β)

namespace Code

variable {κ α ε β γ : Type}

/-- One program after another. -/
def bind : Code κ α ε β → (β → Code κ α ε γ) → Code κ α ε γ
  | ret b, f => f b
  | leave e, _ => leave e
  | ask c k, f => ask c fun a => (k a).bind f

instance : Monad (Code κ α ε) where
  pure := ret
  bind := bind

/-- A single call. -/
def call (c : κ) : Code κ α ε α := ask c ret

@[simp] theorem pure_bind (b : β) (f : β → Code κ α ε γ) : (pure b : Code κ α ε β) >>= f = f b := rfl

@[simp] theorem leave_bind (e : ε) (f : β → Code κ α ε γ) : (leave e : Code κ α ε β) >>= f = leave e := rfl

/-! ## Runs -/

/-- The program can come to `r` with the transcript `t`. -/
def Runs : Code κ α ε β → List (κ × α) → Except ε β → Prop
  | ret b, t, r => t = [] ∧ r = .ok b
  | leave e, t, r => t = [] ∧ r = .error e
  | ask c k, t, r => ∃ a t', t = (c, a) :: t' ∧ (k a).Runs t' r

variable {x : Code κ α ε β} {f : β → Code κ α ε γ} {t : List (κ × α)}

@[simp] theorem runs_pure {b : β} {r : Except ε β} :
    (pure b : Code κ α ε β).Runs t r ↔ t = [] ∧ r = .ok b := Iff.rfl

@[simp] theorem runs_leave {e : ε} {r : Except ε β} :
    (leave e : Code κ α ε β).Runs t r ↔ t = [] ∧ r = .error e := Iff.rfl

@[simp] theorem runs_call {c : κ} {r : Except ε α} :
    (call c : Code κ α ε α).Runs t r ↔ ∃ a, t = [(c, a)] ∧ r = .ok a := by
  constructor
  · rintro ⟨a, t', rfl, rfl, rfl⟩
    exact ⟨a, rfl, rfl⟩
  · rintro ⟨a, rfl, rfl⟩
    exact ⟨a, [], rfl, rfl, rfl⟩

/-- **One program after another.** The second one runs when the first has not been left. -/
theorem runs_bind {r : Except ε γ} : (x >>= f).Runs t r ↔
    (∃ t₁ t₂ b, t = t₁ ++ t₂ ∧ x.Runs t₁ (.ok b) ∧ (f b).Runs t₂ r) ∨ ∃ e, x.Runs t (.error e) ∧ r = .error e := by
  change (x.bind f).Runs t r ↔ _
  induction x generalizing t with
  | ret b =>
    constructor
    · exact fun h => .inl ⟨[], t, b, rfl, ⟨rfl, rfl⟩, h⟩
    · rintro (⟨t₁, t₂, b', rfl, ⟨rfl, hb⟩, h⟩ | ⟨e, ⟨-, he⟩, -⟩)
      · rw [Except.ok.inj hb] at h
        exact h
      · cases he
  | leave e =>
    constructor
    · rintro ⟨rfl, rfl⟩
      exact .inr ⟨e, ⟨rfl, rfl⟩, rfl⟩
    · rintro (⟨t₁, t₂, b, rfl, ⟨-, hb⟩, -⟩ | ⟨e', ⟨rfl, he⟩, rfl⟩)
      · cases hb
      · rw [Except.error.inj he]
        exact ⟨rfl, rfl⟩
  | ask c k ih =>
    constructor
    · rintro ⟨a, t', rfl, h⟩
      rcases (ih a).1 h with ⟨t₁, t₂, b, rfl, h₁, h₂⟩ | ⟨e, he, rfl⟩
      · exact .inl ⟨(c, a) :: t₁, t₂, b, rfl, ⟨a, t₁, rfl, h₁⟩, h₂⟩
      · exact .inr ⟨e, ⟨a, t', rfl, he⟩, rfl⟩
    · rintro (⟨t₁, t₂, b, rfl, ⟨a, t', rfl, h₁⟩, h₂⟩ | ⟨e, ⟨a, t', rfl, he⟩, rfl⟩)
      · exact ⟨a, t' ++ t₂, rfl, (ih a).2 (.inl ⟨t', t₂, b, rfl, h₁, h₂⟩)⟩
      · exact ⟨a, t', rfl, (ih a).2 (.inr ⟨e, he, rfl⟩)⟩

/-- A program whose end, by a result or a code, is its result. -/
def attempt : Code κ α ε β → Code κ α γ (Except ε β)
  | ret b => ret (.ok b)
  | leave e => ret (.error e)
  | ask c k => ask c fun a => (k a).attempt

theorem runs_attempt {r : Except γ (Except ε β)} :
    (x.attempt : Code κ α γ (Except ε β)).Runs t r ↔ ∃ r', x.Runs t r' ∧ r = .ok r' := by
  induction x generalizing t with
  | ret b => exact ⟨fun h => ⟨.ok b, ⟨h.1, rfl⟩, h.2⟩, fun ⟨_, ⟨ht, hr'⟩, hr⟩ => ⟨ht, hr' ▸ hr⟩⟩
  | leave e => exact ⟨fun h => ⟨.error e, ⟨h.1, rfl⟩, h.2⟩, fun ⟨_, ⟨ht, hr'⟩, hr⟩ => ⟨ht, hr' ▸ hr⟩⟩
  | ask c k ih =>
    constructor
    · rintro ⟨a, t', rfl, h⟩
      obtain ⟨r', h', hr⟩ := (ih a).1 h
      exact ⟨r', ⟨a, t', rfl, h'⟩, hr⟩
    · rintro ⟨r', ⟨a, t', rfl, h'⟩, hr⟩
      exact ⟨a, t', rfl, (ih a).2 ⟨r', h', hr⟩⟩

/-- What the end of a run shows of its result. -/
theorem Runs.of_bind {S : List (κ × α) → γ → Prop} (h : ∀ s t c, S t c → S (s ++ t) c)
    (hf : ∀ b t c, (f b).Runs t (.ok c) → S t c) {c : γ} (hrun : (x >>= f).Runs t (.ok c)) : S t c := by
  rcases runs_bind.1 hrun with ⟨t₁, t₂, b, rfl, -, h₂⟩ | ⟨e, -, he⟩
  · exact h t₁ t₂ c (hf b t₂ c h₂)
  · cases he

/-! ## Calls -/

/-- The program makes good calls only. -/
def Calls (P : κ → Prop) : Code κ α ε β → Prop
  | ret _ => True
  | leave _ => True
  | ask c k => P c ∧ ∀ a, (k a).Calls P

variable {P : κ → Prop}

theorem calls_pure (b : β) : (pure b : Code κ α ε β).Calls P := trivial

theorem calls_leave (e : ε) : (leave e : Code κ α ε β).Calls P := trivial

theorem calls_call {c : κ} (h : P c) : (call c : Code κ α ε α).Calls P := ⟨h, fun _ => trivial⟩

theorem calls_bind (hx : x.Calls P) (hf : ∀ b, (f b).Calls P) : (x >>= f).Calls P := by
  change (x.bind f).Calls P
  induction x with
  | ret b => exact hf b
  | leave e => trivial
  | ask c k ih => exact ⟨hx.1, fun a => ih a (hx.2 a)⟩

theorem calls_ite {p : Prop} [Decidable p] {y : Code κ α ε β} (hx : x.Calls P) (hy : y.Calls P) :
    (if p then x else y).Calls P := by
  split_ifs
  · exact hx
  · exact hy

/-- The calls of a run. -/
theorem Runs.calls {r : Except ε β} (h : x.Runs t r) (hx : x.Calls P) : ∀ p ∈ t, P p.1 := by
  induction x generalizing t with
  | ret b =>
    obtain ⟨rfl, -⟩ := h
    exact fun p hp => absurd hp List.not_mem_nil
  | leave e =>
    obtain ⟨rfl, -⟩ := h
    exact fun p hp => absurd hp List.not_mem_nil
  | ask c k ih =>
    obtain ⟨a, t', rfl, h⟩ := h
    intro p hp
    rcases List.mem_cons.1 hp with rfl | hp
    · exact hx.1
    · exact ih a h (hx.2 a) p hp

/-! ## Execution -/

/-- The program on a list of answers, when these are enough. -/
def exec : Code κ α ε β → List α → Option (List (κ × α) × Except ε β)
  | ret b, _ => some ([], .ok b)
  | leave e, _ => some ([], .error e)
  | ask _ _, [] => none
  | ask c k, a :: as => ((k a).exec as).map fun r => ((c, a) :: r.1, r.2)

/-- An execution is a run. -/
theorem runs_of_exec {as : List α} {r : Except ε β} (h : x.exec as = some (t, r)) : x.Runs t r := by
  induction x generalizing as t with
  | ret b =>
    obtain ⟨rfl, rfl⟩ := Prod.mk.inj (Option.some_inj.1 h)
    exact ⟨rfl, rfl⟩
  | leave e =>
    obtain ⟨rfl, rfl⟩ := Prod.mk.inj (Option.some_inj.1 h)
    exact ⟨rfl, rfl⟩
  | ask c k ih =>
    cases as with
    | nil => cases h
    | cons a as =>
      obtain ⟨⟨t', r'⟩, h', heq⟩ := Option.map_eq_some_iff.1 h
      obtain ⟨rfl, rfl⟩ := Prod.mk.inj heq
      exact ⟨a, t', rfl, ih a h'⟩

end Code

end BmcLib
