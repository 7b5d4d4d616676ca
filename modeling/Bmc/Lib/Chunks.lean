import Bmc.Lib.Memory

/-!
# Cutting a block into chunks

`chunks m n b` cuts the first `n` cells of the block `b` into pieces of `m` cells; only the last one
may be shorter.

* `lt_length_chunks`, `chunks_eq_append`: how many pieces there are, and what comes after the first `k`;
* **`flatten_chunks`**: the pieces, one after the other, are the block.
-/

namespace BmcLib

variable {α : Type*}

/-- The pieces of `m` cells of the first `n` cells of `b`. -/
def chunks (m n : ℕ) (b : ℕ → α) : List (List α) :=
  (List.range ((n + m - 1) / m)).map fun i => slice b (i * m) (min m (n - i * m))

section Chunks

variable {m n : ℕ} {b : ℕ → α}

theorem length_chunks : (chunks m n b).length = (n + m - 1) / m := by simp [chunks]

theorem lt_length_chunks (hm : 0 < m) {k : ℕ} : k < (chunks m n b).length ↔ k * m < n := by
  rw [length_chunks, ← Nat.succ_le_iff, Nat.le_div_iff_mul_le hm, Nat.succ_mul]
  omega

theorem getElem_chunks {k : ℕ} (h : k < (chunks m n b).length) :
    (chunks m n b)[k] = slice b (k * m) (min m (n - k * m)) := by
  simp [chunks]

theorem flatten_take_chunks (hm : 0 < m) {k : ℕ} (hk : k ≤ (chunks m n b).length) :
    ((chunks m n b).take k).flatten = slice b 0 (min (k * m) n) := by
  induction k with
  | zero => simp
  | succ k ih =>
    have hlt := (lt_length_chunks hm).mp hk
    rw [List.take_succ_eq_append_getElem hk, List.flatten_append, ih (by omega), getElem_chunks]
    have h1 : min (k * m) n = k * m := by omega
    have h2 : min ((k + 1) * m) n = k * m + min m (n - k * m) := by
      rw [Nat.succ_mul]
      omega
    rw [h1, h2, slice_add]
    simp

/-- **The pieces are the block.** -/
theorem flatten_chunks (hm : 0 < m) : (chunks m n b).flatten = slice b 0 n := by
  have h := flatten_take_chunks (b := b) (n := n) hm le_rfl
  have hn : ¬ (chunks m n b).length * m < n := fun hc =>
    absurd ((lt_length_chunks (b := b) hm).mpr hc) (lt_irrefl _)
  rwa [List.take_length, Nat.min_eq_right (by omega)] at h

theorem length_chunks_of_dvd (hm : 0 < m) (hd : m ∣ n) : (chunks m n b).length * m = n := by
  obtain ⟨c, rfl⟩ := hd
  have h : (m * c + m - 1) / m = c := by
    rw [Nat.add_sub_assoc hm, Nat.mul_add_div hm, Nat.div_eq_of_lt (by omega), Nat.add_zero]
  rw [length_chunks, h, Nat.mul_comm]

end Chunks

end BmcLib
