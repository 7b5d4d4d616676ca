import Mathlib.Tactic

/-!
# Comparing texts

Texts in arrays of a fixed size, which end at a zero byte or at the end of the array.

* `cstr`: the text in an array;
* `strncpy`: a text is copied and the array filled up, with `cstr_strncpy`;
* **`strncmp_neg_iff`**, `strncmp_pos_iff`: `strncmp` is the lexicographic order of the texts.
-/

namespace BmcLib

/-- `strncmp` -/
def strncmp : ℕ → List UInt8 → List UInt8 → Int
  | n + 1, x :: a, y :: b => if x ≠ y then x.toNat - y.toNat else if x = 0 then 0 else strncmp n a b
  | _, _, _ => 0

/-- `strncpy`, which fills up with zeros. -/
def strncpy (n : ℕ) (a : List UInt8) : List UInt8 :=
  (a.take n).takeWhile (· ≠ 0) ++ List.replicate (n - ((a.take n).takeWhile (· ≠ 0)).length) 0

/-- The text up to the terminator. -/
def cstr (a : List UInt8) : List ℕ := (a.takeWhile (· ≠ 0)).map UInt8.toNat

theorem cstr_cons_zero (a : List UInt8) : cstr (0 :: a) = [] := by simp [cstr]

theorem cstr_cons {x : UInt8} (hx : x ≠ 0) (a : List UInt8) : cstr (x :: a) = x.toNat :: cstr a := by simp [cstr, hx]

/-- **`strncmp` is negative exactly for the smaller text.** -/
theorem strncmp_neg_iff {n : ℕ} {a b : List UInt8} (ha : a.length = n) (hb : b.length = n) :
    strncmp n a b < 0 ↔ cstr a < cstr b := by
  induction n generalizing a b with
  | zero =>
    obtain rfl := List.length_eq_zero_iff.1 ha
    obtain rfl := List.length_eq_zero_iff.1 hb
    exact iff_of_false (lt_irrefl _) (lt_irrefl _)
  | succ n ih =>
    obtain ⟨x, a, rfl⟩ := List.exists_cons_of_length_eq_add_one ha
    obtain ⟨y, b, rfl⟩ := List.exists_cons_of_length_eq_add_one hb
    rw [strncmp]
    by_cases hxy : x = y
    · subst hxy
      rw [if_neg (not_not.2 rfl)]
      by_cases hx : x = 0
      · rw [if_pos hx, hx, cstr_cons_zero, cstr_cons_zero]
        exact iff_of_false (lt_irrefl _) (lt_irrefl _)
      · rw [if_neg hx, ih (Nat.succ.inj ha) (Nat.succ.inj hb), cstr_cons hx, cstr_cons hx, List.cons_lt_cons_iff]
        simp
    · rw [if_pos hxy]
      have hne : x.toNat ≠ y.toNat := fun h => hxy (UInt8.toNat_inj.1 h)
      by_cases hx : x = 0
      · have hy : y ≠ 0 := fun h => hxy (hx.trans h.symm)
        have hpos : 0 < y.toNat := Nat.pos_of_ne_zero fun h => hy (UInt8.toNat_inj.1 h)
        rw [hx, cstr_cons_zero, cstr_cons hy]
        refine iff_of_true ?_ (List.nil_lt_cons _ _)
        change (0 : Int) - _ < 0
        omega
      · by_cases hy : y = 0
        · rw [hy, cstr_cons_zero]
          refine iff_of_false ?_ (List.not_lt_nil _)
          change ¬ (_ - (0 : Int) < 0)
          omega
        · rw [cstr_cons hx, cstr_cons hy, List.cons_lt_cons_iff]
          omega

theorem strncmp_swap (n : ℕ) (a b : List UInt8) : strncmp n b a = -strncmp n a b := by
  induction n generalizing a b with
  | zero => simp [strncmp]
  | succ n ih =>
    cases a with
    | nil => cases b <;> simp [strncmp]
    | cons x a =>
      cases b with
      | nil => simp [strncmp]
      | cons y b =>
        rw [strncmp, strncmp]
        by_cases hxy : x = y
        · subst hxy
          simp only [ne_eq, not_true_eq_false, if_false]
          split_ifs
          · rfl
          · exact ih a b
        · rw [if_pos hxy, if_pos (Ne.symm hxy)]
          omega

theorem strncmp_pos_iff {n : ℕ} {a b : List UInt8} (ha : a.length = n) (hb : b.length = n) :
    0 < strncmp n a b ↔ cstr b < cstr a := by
  rw [← strncmp_neg_iff hb ha, strncmp_swap]
  omega

theorem length_strncpy (n : ℕ) (a : List UInt8) : (strncpy n a).length = n := by
  have h : ((a.take n).takeWhile (· ≠ 0)).length ≤ n :=
    (List.takeWhile_prefix _).length_le.trans (List.length_take_le _ _)
  rw [strncpy, List.length_append, List.length_replicate]
  omega

theorem cstr_strncpy (n : ℕ) (a : List UInt8) : cstr (strncpy n a) = cstr (a.take n) := by
  rw [cstr, cstr, strncpy, List.takeWhile_append_of_pos (List.all_eq_true.1 List.all_takeWhile)]
  have hzeros : ∀ k : ℕ, (List.replicate k (0 : UInt8)).takeWhile (· ≠ 0) = [] := by
    intro k
    cases k <;> simp [List.replicate]
  rw [hzeros, List.append_nil]

end BmcLib
