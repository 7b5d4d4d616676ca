import Mathlib.Tactic

/-!
# Bit fields of bytes

What the masks and shifts of bytes come to as numbers.

* `toNat_and_low`, `toNat_and_high`, `toNat_low_shiftLeft`: some bits of a byte, moved to another place;
* `toNat_or_of_parts`: two parts that do not meet;
* `or_and_same`, `or_and_of_disjoint`: masks that are set.
-/

namespace BmcLib

variable (x : UInt8)

/-- The lower bits. -/
theorem toNat_and_low {m : UInt8} {i : ℕ} (hm : m.toNat = 2 ^ i - 1) : (x &&& m).toNat = x.toNat % 2 ^ i := by
  rw [UInt8.toNat_and, hm, Nat.and_two_pow_sub_one_eq_mod]

/-- The bits above, moved down. -/
theorem toNat_and_high {m k : UInt8} {i j : ℕ} (hk : k.toNat % 8 = i) (hm : m.toNat >>> i = 2 ^ j - 1) :
    ((x &&& m) >>> k).toNat = x.toNat / 2 ^ i % 2 ^ j := by
  rw [UInt8.toNat_shiftRight, UInt8.toNat_and, hk, Nat.shiftRight_and_distrib, hm, Nat.and_two_pow_sub_one_eq_mod,
    Nat.shiftRight_eq_div_pow]

/-- The lower bits, moved up. -/
theorem toNat_low_shiftLeft {m k : UInt8} {i j : ℕ} (hm : m.toNat = 2 ^ i - 1) (hk : k.toNat % 8 = j) (hij : i + j ≤ 8) :
    ((x &&& m) <<< k).toNat = 2 ^ j * (x.toNat % 2 ^ i) := by
  have hlt : x.toNat % 2 ^ i < 2 ^ i := Nat.mod_lt _ (Nat.two_pow_pos i)
  have hfit : 2 ^ j * (x.toNat % 2 ^ i) < 2 ^ 8 := by
    calc 2 ^ j * (x.toNat % 2 ^ i) < 2 ^ j * 2 ^ i := Nat.mul_lt_mul_of_pos_left hlt (Nat.two_pow_pos j)
      _ = 2 ^ (i + j) := by rw [← pow_add, add_comm]
      _ ≤ 2 ^ 8 := Nat.pow_le_pow_right (by decide) hij
  rw [UInt8.toNat_shiftLeft, toNat_and_low x hm, hk, Nat.shiftLeft_eq, mul_comm, Nat.mod_eq_of_lt hfit]

/-- The two parts of a value do not meet. -/
theorem toNat_or_of_parts {x y : UInt8} {i a b : ℕ} (hx : x.toNat = 2 ^ i * a) (hy : y.toNat = b)
    (hb : b < 2 ^ i) : (x ||| y).toNat = 2 ^ i * a + b := by
  rw [UInt8.toNat_or, hx, hy, Nat.two_pow_add_eq_or_of_lt hb]

/-! ## Masks -/

/-- A mask that has been set. -/
theorem or_and_same (v m : UInt8) : (v ||| m) &&& m = m := by
  refine UInt8.toBitVec_inj.1 (BitVec.eq_of_getElem_eq fun i hi => ?_)
  simp only [UInt8.toBitVec_and, UInt8.toBitVec_or, BitVec.getElem_and, BitVec.getElem_or]
  cases m.toBitVec[i] <;> simp

/-- A mask that another mask does not meet. -/
theorem or_and_of_disjoint {m m' : UInt8} (v : UInt8) (h : m' &&& m = 0) : (v ||| m') &&& m = v &&& m := by
  refine UInt8.toBitVec_inj.1 (BitVec.eq_of_getElem_eq fun i hi => ?_)
  have hbit : (m'.toBitVec[i] && m.toBitVec[i]) = false := by
    rw [← BitVec.getElem_and, ← UInt8.toBitVec_and, h]
    exact BitVec.getElem_zero hi
  simp only [UInt8.toBitVec_and, UInt8.toBitVec_or, BitVec.getElem_and, BitVec.getElem_or]
  rw [Bool.and_or_distrib_right, hbit, Bool.or_false]

end BmcLib
