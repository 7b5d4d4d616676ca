import Mathlib.Tactic

/-!
# Byte memory

A block of memory is a function from offsets to cells. `slice m o n` reads `n` cells from offset
`o`, `store m o l` writes the list `l` there.

* `slice_store_same`, `slice_store_disjoint`: reading back what was written, and the frame rule;
* `slice_add`, `store_shift`: adjacent slices and shifted blocks;
* `slice_append_store`: appending to a buffer that is filled from its start; `store_append`: adjacent
  writes.
-/

namespace BmcLib

variable {α : Type*}

/-- The `n` cells from offset `o`. -/
def slice (m : ℕ → α) (o n : ℕ) : List α := (List.range n).map fun i => m (o + i)

/-- Write `l` at offset `o`. -/
def store (m : ℕ → α) (o : ℕ) (l : List α) : ℕ → α :=
  fun i => if o ≤ i then (l[i - o]?).getD (m i) else m i

/-- The block that holds `l` from offset `0`, and `d` behind it. -/
def block (d : α) (l : List α) : ℕ → α := fun i => l.getD i d

@[simp] theorem length_slice (m : ℕ → α) (o n : ℕ) : (slice m o n).length = n := by simp [slice]

@[simp] theorem slice_zero (m : ℕ → α) (o : ℕ) : slice m o 0 = [] := rfl

theorem getElem_slice {m : ℕ → α} {o n i : ℕ} (h : i < (slice m o n).length) :
    (slice m o n)[i] = m (o + i) := by
  simp [slice]

theorem slice_congr {m m' : ℕ → α} {o n : ℕ} (h : ∀ i, o ≤ i → i < o + n → m i = m' i) :
    slice m o n = slice m' o n := by
  refine List.map_congr_left fun i hi => h _ (by omega) ?_
  have := List.mem_range.mp hi
  omega

theorem slice_add (m : ℕ → α) (o n k : ℕ) : slice m o (n + k) = slice m o n ++ slice m (o + n) k := by
  simp [slice, List.range_add, Function.comp_def, add_assoc]

theorem slice_shift (m : ℕ → α) (o n : ℕ) : slice (fun i => m (o + i)) 0 n = slice m o n := by
  simp [slice]

theorem take_slice (m : ℕ → α) (o n k : ℕ) : (slice m o n).take k = slice m o (min k n) := by
  rw [slice, slice, ← List.map_take, List.take_range]

theorem store_apply_lt {m : ℕ → α} {o i : ℕ} {l : List α} (h : i < o) : store m o l i = m i := by
  simp [store, Nat.not_le.mpr h]

theorem store_apply_ge {m : ℕ → α} {o i : ℕ} {l : List α} (h : o + l.length ≤ i) :
    store m o l i = m i := by
  have : l.length ≤ i - o := by omega
  simp [store, List.getElem?_eq_none this]

theorem store_apply_add {m : ℕ → α} {o i : ℕ} {l : List α} (h : i < l.length) :
    store m o l (o + i) = l[i] := by
  simp [store, h]

@[simp] theorem store_nil (m : ℕ → α) (o : ℕ) : store m o [] = m := by
  funext i
  simp [store]

theorem store_shift (m : ℕ → α) (b o : ℕ) (l : List α) :
    (fun i => store m (b + o) l (b + i)) = store (fun i => m (b + i)) o l := by
  funext i
  simp only [store, Nat.add_le_add_iff_left, Nat.add_sub_add_left]

theorem store_zero_apply (m : ℕ → α) (l : List α) (i : ℕ) : store m 0 l i = (l[i]?).getD (m i) := by
  simp [store]

theorem slice_store_disjoint {m : ℕ → α} {o a n : ℕ} {l : List α}
    (h : a + n ≤ o ∨ o + l.length ≤ a) : slice (store m o l) a n = slice m a n := by
  refine slice_congr fun i h1 h2 => ?_
  rcases h with h | h
  · exact store_apply_lt (by omega)
  · exact store_apply_ge (by omega)

theorem slice_store_same (m : ℕ → α) (o : ℕ) (l : List α) : slice (store m o l) o l.length = l := by
  refine List.ext_getElem (by simp) fun i h1 h2 => ?_
  rw [getElem_slice, store_apply_add h2]

theorem slice_store_zero {m : ℕ → α} {l : List α} {n : ℕ} (h : n ≤ l.length) :
    slice (store m 0 l) 0 n = l.take n := by
  have htake := take_slice (store m 0 l) 0 l.length n
  rw [slice_store_same, Nat.min_eq_left h] at htake
  exact htake.symm

theorem slice_store_inner (m : ℕ → α) {l : List α} {o n : ℕ} (h : o + n ≤ l.length) :
    slice (store m 0 l) o n = (l.drop o).take n := by
  refine List.ext_getElem (by simp; omega) fun i h1 h2 => ?_
  have hi : o + i < l.length := by
    rw [length_slice] at h1
    omega
  rw [getElem_slice, store_zero_apply, List.getElem?_eq_getElem hi, Option.getD_some, List.getElem_take, List.getElem_drop]

/-- A part of what has been written. -/
theorem slice_store_middle (m : ℕ → α) (l l' l'' : List α) :
    slice (store m 0 (l ++ l' ++ l'')) l.length l'.length = l' := by
  refine List.ext_getElem (by simp) fun i h1 h2 => ?_
  rw [getElem_slice, store_zero_apply, List.append_assoc, List.getElem?_append_right (Nat.le_add_right _ _),
    Nat.add_sub_cancel_left, List.getElem?_append_left h2, List.getElem?_eq_getElem h2, Option.getD_some]

/-- Writes to different places commute. -/
theorem store_comm {m : ℕ → α} {o o' : ℕ} {l l' : List α} (h : o + l.length ≤ o') :
    store (store m o' l') o l = store (store m o l) o' l' := by
  funext i
  rcases Nat.lt_or_ge i o' with hi | hi
  · rw [store_apply_lt hi]
    simp only [store, Nat.not_le.mpr hi, if_false]
  · rw [store_apply_ge (h.trans hi)]
    simp only [store, hi, if_true, List.getElem?_eq_none (show l.length ≤ i - o by omega),
      Option.getD_none, ite_self]

/-- Adjacent writes. -/
theorem store_append (m : ℕ → α) (o : ℕ) (l l' : List α) :
    store (store m o l) (o + l.length) l' = store m o (l ++ l') := by
  funext i
  rcases Nat.lt_or_ge i (o + l.length) with hi | hi
  · rw [store_apply_lt hi]
    rcases Nat.lt_or_ge i o with ho | ho
    · rw [store_apply_lt ho, store_apply_lt ho]
    · obtain ⟨k, rfl⟩ := Nat.exists_eq_add_of_le ho
      have hk : k < l.length := by omega
      have hk' : k < (l ++ l').length := by
        rw [List.length_append]
        omega
      rw [store_apply_add hk, store_apply_add hk', List.getElem_append_left hk]
  · have ho : o ≤ i := by omega
    have hsub : i - (o + l.length) = i - o - l.length := by omega
    have hlen : l.length ≤ i - o := by omega
    simp only [store, hi, ho, if_true, hsub, List.getElem?_append_right hlen,
      List.getElem?_eq_none hlen, Option.getD_none]

/-- Writing changes nothing exactly if it writes what is there. -/
theorem store_eq_self_iff (m : ℕ → α) (o : ℕ) (l : List α) :
    store m o l = m ↔ slice m o l.length = l := by
  constructor
  · intro h
    have hl := slice_store_same m o l
    rwa [h] at hl
  · intro h
    funext i
    rcases Nat.lt_or_ge i o with hi | hi
    · exact store_apply_lt hi
    rcases Nat.lt_or_ge i (o + l.length) with hi' | hi'
    · obtain ⟨k, rfl⟩ := Nat.exists_eq_add_of_le hi
      have hk : k < l.length := by omega
      rw [store_apply_add hk]
      have hk' : k < (slice m o l.length).length := by rwa [length_slice]
      rw [← getElem_slice hk']
      simp only [h]
    · exact store_apply_ge hi'

/-- **Appending to a buffer.** -/
theorem slice_append_store (m : ℕ → α) (n : ℕ) (l : List α) :
    slice (store m n l) 0 (n + l.length) = slice m 0 n ++ l := by
  rw [slice_add, Nat.zero_add, slice_store_disjoint (Or.inl (by omega)), slice_store_same]

theorem slice_block (d : α) (l : List α) : slice (block d l) 0 l.length = l := by
  refine List.ext_getElem (by simp) fun i h1 h2 => ?_
  rw [getElem_slice, Nat.zero_add]
  simp [block, h2]

end BmcLib
