import Mathlib.Tactic

/-!
# Bounded loops and runs

A C loop `while (c) f;` is modelled by `whileN c f n`: at most `n` rounds of `f`, stopping as soon
as `c` fails. A run of a state machine over a list of inputs is `List.foldl step`.

* `whileN_inv`: the invariant rule; `whileN_iff_heads`: the exact condition on the loop heads of the run;
* `whileN_done`: if a measure decreases in every round, enough rounds reach the exit; `ends_iff_of_finite`: a loop with finitely
  many heads ends exactly when none comes twice;
* `Sweeps`: a loop that ends and whose rounds begin at ever greater positions, with **`sweeps_iff`**;
* `AllSteps`: a condition on every step of a run, with the invariant rules
  `AllSteps.foldl_inv`, `AllSteps.imp_inv`, `allSteps_congr` and `foldl_iff_allSteps`.
-/

namespace BmcLib

variable {σ α : Type*}

/-! ## Loops -/

/-- At most `n` rounds of `while (c) f;`. -/
def whileN (c : σ → Bool) (f : σ → σ) : ℕ → σ → σ
  | 0, s => s
  | n + 1, s => if c s then whileN c f n (f s) else s

section While

variable {c : σ → Bool} {f : σ → σ}

@[simp] theorem whileN_zero (s : σ) : whileN c f 0 s = s := rfl

theorem whileN_succ_pos {s : σ} (h : c s = true) (n : ℕ) :
    whileN c f (n + 1) s = whileN c f n (f s) := by
  simp [whileN, h]

theorem whileN_of_exit {s : σ} (h : c s = false) (n : ℕ) : whileN c f n s = s := by
  cases n <;> simp [whileN, h]

theorem whileN_add (m n : ℕ) (s : σ) : whileN c f (m + n) s = whileN c f n (whileN c f m s) := by
  induction m generalizing s with
  | zero => simp
  | succ m ih =>
    cases h : c s with
    | true => rw [Nat.add_right_comm, whileN_succ_pos h, whileN_succ_pos h, ih]
    | false => rw [whileN_of_exit h, whileN_of_exit h, whileN_of_exit h]

theorem whileN_succ' (n : ℕ) (s : σ) :
    whileN c f (n + 1) s = if c (whileN c f n s) then f (whileN c f n s) else whileN c f n s := by
  rw [whileN_add]
  rfl

/-- **Invariant rule.** -/
theorem whileN_inv {P : σ → Prop} (hf : ∀ s, P s → c s = true → P (f s)) {s : σ} (hs : P s) (n : ℕ) :
    P (whileN c f n s) := by
  induction n generalizing s with
  | zero => exact hs
  | succ n ih =>
    cases h : c s with
    | true => rw [whileN_succ_pos h]; exact ih (hf s hs h)
    | false => rw [whileN_of_exit h]; exact hs

/-- **Exact conditions on the loop heads.** If, under the invariant `P`, a round keeps `I` exactly if
its head satisfies `C`, then `I` holds after the loop exactly if all its heads satisfy `C`. -/
theorem whileN_iff_heads {P I C : σ → Prop} (hP : ∀ s, P s → c s = true → P (f s))
    (hI : ∀ s, P s → c s = true → (I (f s) ↔ I s ∧ C s)) {s : σ} (hs : P s) (n : ℕ) :
    I (whileN c f n s) ↔
      I s ∧ ∀ k < n, c (whileN c f k s) = true → C (whileN c f k s) := by
  induction n with
  | zero => simp
  | succ n ih =>
    have hn := whileN_inv (f := f) hP hs n
    rw [Nat.forall_lt_succ_right, ← and_assoc, ← ih, whileN_succ']
    split_ifs with h
    · simpa [h] using hI _ hn h
    · simp [h]

/-- **Simulation rule.** Loops whose rounds keep a relation between their states end in states that are related. -/
theorem whileN_simulates {τ : Type*} {R : σ → τ → Prop} {d : τ → Bool} {g : τ → τ} (hc : ∀ s t, R s t → c s = d t)
    (hf : ∀ s t, R s t → c s = true → R (f s) (g t)) {s : σ} {t : τ} (h : R s t) (n : ℕ) :
    R (whileN c f n s) (whileN d g n t) := by
  induction n generalizing s t with
  | zero => exact h
  | succ n ih =>
    cases hs : c s with
    | true =>
      rw [whileN_succ_pos hs, whileN_succ_pos (hc s t h ▸ hs)]
      exact ih (hf s t h hs)
    | false =>
      rw [whileN_of_exit hs, whileN_of_exit (hc s t h ▸ hs)]
      exact h

/-- A loop that has ended stays where it is. -/
theorem whileN_eq_of_exits {m n : ℕ} {s : σ} (hm : c (whileN c f m s) = false) (hn : c (whileN c f n s) = false) :
    whileN c f m s = whileN c f n s := by
  rcases Nat.le_total m n with h | h
  · obtain ⟨k, rfl⟩ := Nat.exists_eq_add_of_le h
    rw [whileN_add, whileN_of_exit hm]
  · obtain ⟨k, rfl⟩ := Nat.exists_eq_add_of_le h
    rw [whileN_add, whileN_of_exit hn]

/-- **Loops over finitely many heads.** A loop whose head is known by one of finitely many keys ends exactly when no head comes
twice. -/
theorem ends_iff_of_finite {κ : Type*} [Finite κ] (key : σ → κ)
    (hkey : ∀ s t, c s = true → c t = true → key s = key t → s = t) (s : σ) :
    (∃ n, c (whileN c f n s) = false) ↔
      ¬ ∃ j k, j < k ∧ c (whileN c f k s) = true ∧ whileN c f j s = whileN c f k s := by
  constructor
  · rintro ⟨n, hn⟩ ⟨j, k, hjk, hk, heq⟩
    -- from the head that comes twice on, the rounds repeat
    have hgo : ∀ m, c (whileN c f m s) = true := by
      intro m
      induction m using Nat.strong_induction_on with
      | _ m ih =>
        rcases Nat.lt_or_ge m k with hlt | hge
        · by_contra hm
          obtain ⟨i, rfl⟩ := Nat.exists_eq_add_of_lt hlt
          rw [Nat.add_assoc, whileN_add, whileN_of_exit (Bool.eq_false_of_not_eq_true hm)] at hk
          exact hm hk
        · obtain ⟨i, rfl⟩ := Nat.exists_eq_add_of_le hge
          rw [whileN_add, ← heq, ← whileN_add]
          exact ih (j + i) (Nat.add_lt_add_right hjk i)
    exact absurd (hgo n) (by rw [hn]; exact Bool.false_ne_true)
  · intro hno
    by_contra hend
    have hgo : ∀ m, c (whileN c f m s) = true := fun m =>
      Bool.eq_true_of_not_eq_false fun hm => hend ⟨m, hm⟩
    obtain ⟨j, k, hne, heq⟩ := Finite.exists_ne_map_eq_of_infinite fun m => key (whileN c f m s)
    have hsame := hkey _ _ (hgo j) (hgo k) heq
    rcases Nat.lt_or_gt_of_ne hne with hjk | hkj
    · exact hno ⟨j, k, hjk, hgo k, hsame⟩
    · exact hno ⟨k, j, hkj, hgo j, hsame.symm⟩

/-- **Exit rule.** If a measure decreases in every round, enough rounds leave the loop. -/
theorem whileN_done {P : σ → Prop} (μ : σ → ℕ) (hf : ∀ s, P s → c s = true → P (f s) ∧ μ (f s) < μ s)
    {s : σ} (hs : P s) {n : ℕ} (hn : μ s ≤ n) : c (whileN c f n s) = false := by
  induction n generalizing s with
  | zero =>
    by_contra h
    have := (hf s hs (by simpa using h)).2
    omega
  | succ n ih =>
    cases h : c s with
    | true =>
      rw [whileN_succ_pos h]
      have := hf s hs h
      exact ih this.1 (by omega)
    | false => rwa [whileN_of_exit h]

/-- The loop ends, and each of its rounds begins at a greater position than those before. -/
structure Sweeps (c : σ → Bool) (f : σ → σ) (pos : σ → ℕ) (s : σ) : Prop where
  ends : ∃ n, c (whileN c f n s) = false
  increasing : ∀ j k, j < k → c (whileN c f k s) = true → pos (whileN c f j s) < pos (whileN c f k s)

theorem goesOn_of_succ {k : ℕ} {s : σ} (h : c (whileN c f (k + 1) s) = true) :
    c (whileN c f k s) = true ∧ whileN c f (k + 1) s = f (whileN c f k s) := by
  rw [whileN_succ'] at h ⊢
  by_cases hk : c (whileN c f k s) = true
  · exact ⟨hk, if_pos hk⟩
  · rw [if_neg hk] at h
    exact absurd h hk

/-- **Sweeps.** A loop whose positions are bounded sweeps over them exactly when each round that is not the last one
leads to a greater position. -/
theorem sweeps_iff {pos : σ → ℕ} (bound : ℕ) (hb : ∀ s, c s = true → pos s < bound) (s : σ) :
    Sweeps c f pos s ↔ ∀ k, c (whileN c f k s) = true → c (f (whileN c f k s)) = true →
      pos (whileN c f k s) < pos (f (whileN c f k s)) := by
  constructor
  · intro h k hk hnext
    have hsucc : whileN c f (k + 1) s = f (whileN c f k s) := by rw [whileN_succ', if_pos hk]
    rw [← hsucc] at hnext ⊢
    exact h.increasing k (k + 1) k.lt_succ_self hnext
  · intro h
    have hlt : ∀ j k, j < k → c (whileN c f k s) = true → pos (whileN c f j s) < pos (whileN c f k s) := by
      intro j k hjk hk
      induction k with
      | zero => exact absurd hjk (Nat.not_lt_zero j)
      | succ k ih =>
        obtain ⟨hgo, hsucc⟩ := goesOn_of_succ hk
        rw [hsucc] at hk ⊢
        have hstep := h k hgo hk
        rcases Nat.lt_succ_iff_lt_or_eq.1 hjk with hjk | rfl
        · exact (ih hjk hgo).trans hstep
        · exact hstep
    refine ⟨?_, hlt⟩
    by_contra hno
    have hgo : ∀ k, c (whileN c f k s) = true := fun k =>
      Bool.eq_true_of_not_eq_false fun hk => hno ⟨k, hk⟩
    have hle : ∀ k, k ≤ pos (whileN c f k s) := by
      intro k
      induction k with
      | zero => exact Nat.zero_le _
      | succ k ih => exact Nat.succ_le_of_lt (ih.trans_lt (hlt k (k + 1) k.lt_succ_self (hgo (k + 1))))
    exact absurd (hb _ (hgo bound)) (not_lt.2 (hle bound))

end While

/-! ## Runs -/

/-- Every step of the run of `step` over the inputs satisfies `C`. -/
def AllSteps (step : σ → α → σ) (C : σ → α → Prop) : σ → List α → Prop
  | _, [] => True
  | s, a :: as => C s a ∧ AllSteps step C (step s a) as

instance AllSteps.decidable (step : σ → α → σ) (C : σ → α → Prop) [∀ s a, Decidable (C s a)] :
    ∀ s as, Decidable (AllSteps step C s as)
  | _, [] => isTrue trivial
  | s, a :: as =>
    have := AllSteps.decidable step C (step s a) as
    inferInstanceAs (Decidable (C s a ∧ AllSteps step C (step s a) as))

section Runs

variable {step : σ → α → σ} {C D : σ → α → Prop} {I : σ → Prop}

/-- **Invariant of a run** whose steps all satisfy `C`. -/
theorem AllSteps.foldl_inv (hI : ∀ s a, I s → C s a → I (step s a)) {s : σ} {as : List α}
    (h : AllSteps step C s as) (hs : I s) : I (as.foldl step s) := by
  induction as generalizing s with
  | nil => exact hs
  | cons a as ih => exact ih h.2 (hI s a hs h.1)

/-- In a run that keeps `I`, a condition on the steps may be replaced by one it implies. -/
theorem AllSteps.imp_inv (hI : ∀ s a, I s → C s a → D s a ∧ I (step s a)) {s : σ} {as : List α}
    (h : AllSteps step C s as) (hs : I s) : AllSteps step D s as := by
  induction as generalizing s with
  | nil => trivial
  | cons a as ih =>
    have := hI s a hs h.1
    exact ⟨this.1, ih h.2 this.2⟩

/-- A run that goes on. -/
theorem allSteps_append {s : σ} {as bs : List α} :
    AllSteps step C s (as ++ bs) ↔ AllSteps step C s as ∧ AllSteps step C (as.foldl step s) bs := by
  induction as generalizing s with
  | nil => exact (iff_of_eq (true_and _)).symm
  | cons a as ih => rw [List.cons_append, AllSteps, ih, AllSteps, List.foldl_cons, and_assoc]

/-- Two conditions that agree on the inputs of a run, in the states satisfying `I`, hold in the same
runs over these inputs. -/
theorem allSteps_congr_mem {s : σ} {as : List α} (hCD : ∀ s, ∀ a ∈ as, I s → (C s a ↔ D s a))
    (hI : ∀ s, ∀ a ∈ as, I s → D s a → I (step s a)) (hs : I s) :
    AllSteps step C s as ↔ AllSteps step D s as := by
  induction as generalizing s with
  | nil => exact Iff.rfl
  | cons a as ih =>
    have ih := fun s hs => @ih s (fun s b hb => hCD s b (List.mem_cons_of_mem a hb))
      (fun s b hb => hI s b (List.mem_cons_of_mem a hb)) hs
    have ha : a ∈ a :: as := List.mem_cons_self
    constructor
    · rintro ⟨hC, h⟩
      have hD := (hCD s a ha hs).mp hC
      exact ⟨hD, (ih _ (hI s a ha hs hD)).mp h⟩
    · rintro ⟨hD, h⟩
      exact ⟨(hCD s a ha hs).mpr hD, (ih _ (hI s a ha hs hD)).mpr h⟩

/-- Two conditions that agree in the states satisfying `I` hold in the same runs. -/
theorem allSteps_congr (hCD : ∀ s a, I s → (C s a ↔ D s a))
    (hI : ∀ s a, I s → D s a → I (step s a)) {s : σ} {as : List α} (hs : I s) :
    AllSteps step C s as ↔ AllSteps step D s as :=
  allSteps_congr_mem (fun s a _ => hCD s a) (fun s a _ => hI s a) hs

/-- **Exact conditions.** If, under the invariant `J`, the steps with the inputs of a run keep `I`
exactly if they satisfy `C`, and `I` never comes back, then `I` holds after the run exactly if all its
steps satisfy `C`. -/
theorem foldl_iff_allSteps_mem {J : σ → Prop} {s : σ} {as : List α}
    (hJ : ∀ s, ∀ a ∈ as, J s → J (step s a)) (hI : ∀ s, ∀ a ∈ as, J s → (I (step s a) ↔ I s ∧ C s a))
    (hs : J s) : I (as.foldl step s) ↔ I s ∧ AllSteps step C s as := by
  induction as generalizing s with
  | nil => simp [AllSteps]
  | cons a as ih =>
    have ha : a ∈ a :: as := List.mem_cons_self
    rw [List.foldl_cons, ih (fun s b hb => hJ s b (List.mem_cons_of_mem a hb))
      (fun s b hb => hI s b (List.mem_cons_of_mem a hb)) (hJ s a ha hs), hI s a ha hs, AllSteps,
      and_assoc]

/-- The same, for a condition that is exact for every input. -/
theorem foldl_iff_allSteps {J : σ → Prop} (hJ : ∀ s a, J s → J (step s a))
    (hI : ∀ s a, J s → (I (step s a) ↔ I s ∧ C s a)) {s : σ} (hs : J s) (as : List α) :
    I (as.foldl step s) ↔ I s ∧ AllSteps step C s as :=
  foldl_iff_allSteps_mem (fun s a _ => hJ s a) (fun s a _ => hI s a) hs

end Runs

end BmcLib
