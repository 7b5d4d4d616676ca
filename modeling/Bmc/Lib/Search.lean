import Mathlib.Tactic

/-!
# Searches with a weaker test

A search that tests less than it should, such as for a prefix in place of the whole text.

* `map_find?_cons`: the comparisons are made one after the other;
* **`find?_eq_find?_iff`**: it finds the same element exactly if what it finds passes the full test;
* `rel_find?`: searches in lists whose elements belong together; `find?_eq_some_iff_least`: in a sorted list.
-/

namespace BmcLib

/-- A chain of comparisons, one at a time. -/
theorem map_find?_cons {α β : Type*} {p : α → Bool} (f : α → β) (a : α) (l : List α) :
    ((a :: l).find? p).map f = if p a = true then some (f a) else (l.find? p).map f := by
  split_ifs with h
  · rw [List.find?_cons_of_pos h, Option.map_some]
  · rw [List.find?_cons_of_neg h]

variable {α : Type*} {p q : α → Bool}

/-- **Searches.** Where the test `q` implies the test `p`, both find the same element if what `p` finds passes `q`. -/
theorem find?_eq_find?_iff {l : List α} (hqp : ∀ a ∈ l, q a = true → p a = true) :
    l.find? p = l.find? q ↔ ∀ a, l.find? p = some a → q a = true := by
  induction l with
  | nil => simp
  | cons b l ih =>
    have hl : ∀ a ∈ l, q a = true → p a = true := fun a ha => hqp a (List.mem_cons_of_mem b ha)
    cases hp : p b with
    | false =>
      have hq : q b = false := by
        by_contra h
        rw [hqp b List.mem_cons_self (Bool.eq_true_of_not_eq_false h)] at hp
        exact Bool.noConfusion hp
      rw [List.find?_cons_of_neg (by simp [hp]), List.find?_cons_of_neg (by simp [hq])]
      exact ih hl
    | true =>
      rw [List.find?_cons_of_pos hp]
      constructor
      · intro h a ha
        exact List.find?_some (h.symm.trans ha)
      · intro h
        rw [List.find?_cons_of_pos (h b rfl)]

/-- Searches in lists whose elements belong together. -/
theorem rel_find? {β : Type*} {R : α → β → Prop} {r : β → Bool} {l : List α} {l' : List β}
    (h : List.Forall₂ R l l') (hr : ∀ a b, R a b → r b = p a) : Option.Rel R (l.find? p) (l'.find? r) := by
  induction h with
  | nil => exact .none
  | @cons a b l l' hab _ ih =>
    cases hp : p a with
    | true =>
      rw [List.find?_cons_of_pos hp, List.find?_cons_of_pos ((hr a b hab).trans hp)]
      exact .some hab
    | false =>
      have hb : r b = false := (hr a b hab).trans hp
      rw [List.find?_cons_of_neg (by simp [hp]), List.find?_cons_of_neg (by simp [hb])]
      exact ih

/-- In a sorted list a search finds the least element that passes the test. -/
theorem find?_eq_some_iff_least {R : α → α → Prop} (hasymm : ∀ a b, R a b → ¬ R b a) {l : List α}
    (hl : l.Pairwise R) {x : α} :
    l.find? p = some x ↔ x ∈ l ∧ p x = true ∧ ∀ y ∈ l, R y x → p y = false := by
  induction hl with
  | nil => simp
  | @cons a l ha _ ih =>
    cases hp : p a with
    | true =>
      rw [List.find?_cons_of_pos hp]
      constructor
      · intro h
        obtain rfl := Option.some.inj h
        refine ⟨List.mem_cons_self, hp, fun y hy hya => ?_⟩
        rcases List.mem_cons.1 hy with rfl | hy
        · exact absurd hya (hasymm _ _ hya)
        · exact absurd hya (hasymm _ _ (ha y hy))
      · rintro ⟨hx, -, hleast⟩
        rcases List.mem_cons.1 hx with rfl | hx
        · rfl
        · exact absurd (hp.symm.trans (hleast a List.mem_cons_self (ha x hx))) Bool.noConfusion
    | false =>
      rw [List.find?_cons_of_neg (by simp [hp]), ih]
      constructor
      · rintro ⟨hx, hpx, hleast⟩
        refine ⟨List.mem_cons_of_mem a hx, hpx, fun y hy hyx => ?_⟩
        rcases List.mem_cons.1 hy with rfl | hy
        · exact hp
        · exact hleast y hy hyx
      · rintro ⟨hx, hpx, hleast⟩
        rcases List.mem_cons.1 hx with rfl | hx
        · exact absurd (hp.symm.trans hpx) Bool.noConfusion
        · exact ⟨hx, hpx, fun y hy => hleast y (List.mem_cons_of_mem a hy)⟩

end BmcLib
