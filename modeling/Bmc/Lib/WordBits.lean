import Mathlib.Tactic

/-!
# The bits of a word

What the operators of 32-bit words do to a single bit.

* `wordBit`: a bit of a word; `wordBit_and`, `wordBit_or`, `wordBit_not`: bit by bit;
* `wordBit_shiftLeft`, `wordBit_shiftRight`: bits that move, for shifts of less than a word;
* `eq_of_wordBit`: a word is its 32 bits.
-/

namespace BmcLib

/-- Bit `i` of a word. -/
def wordBit (x : UInt32) (i : ℕ) : Bool := x.toNat.testBit i

variable (x y : UInt32) (i : ℕ)

/-- A word has no bits from 32 on. -/
theorem wordBit_of_ge (hi : 32 ≤ i) : wordBit x i = false :=
  Nat.testBit_lt_two_pow (lt_of_lt_of_le (UInt32.toNat_lt x) (Nat.pow_le_pow_right (by norm_num) hi))

theorem lt_of_wordBit {x : UInt32} {i : ℕ} (h : wordBit x i = true) : i < 32 := by
  by_contra hi
  rw [wordBit_of_ge x i (by omega)] at h
  exact absurd h (by decide)

theorem wordBit_zero : wordBit 0 i = false := Nat.zero_testBit i

theorem wordBit_and : wordBit (x &&& y) i = (wordBit x i && wordBit y i) := by
  rw [wordBit, UInt32.toNat_and, Nat.testBit_and]
  rfl

theorem wordBit_or : wordBit (x ||| y) i = (wordBit x i || wordBit y i) := by
  rw [wordBit, UInt32.toNat_or, Nat.testBit_or]
  rfl

/-- The complement, within the word. -/
theorem wordBit_not : wordBit (~~~x) i = (decide (i < 32) && !wordBit x i) := by
  rw [wordBit, wordBit, ← UInt32.toNat_toBitVec, ← UInt32.toNat_toBitVec, UInt32.toBitVec_not, BitVec.testBit_toNat,
    BitVec.testBit_toNat, BitVec.getLsbD_not]

/-- A shift to the left by less than a word. -/
theorem wordBit_shiftLeft (hy : y < 32) :
    wordBit (x <<< y) i = (decide (i < 32) && decide (y.toNat ≤ i) && wordBit x (i - y.toNat)) := by
  have hy' : y.toNat % 32 = y.toNat := Nat.mod_eq_of_lt (UInt32.lt_iff_toNat_lt.1 hy)
  rw [wordBit, UInt32.toNat_shiftLeft, hy', Nat.testBit_mod_two_pow, Nat.testBit_shiftLeft, ← Bool.and_assoc]
  rfl

/-- A shift to the right by less than a word. -/
theorem wordBit_shiftRight (hy : y < 32) : wordBit (x >>> y) i = wordBit x (y.toNat + i) := by
  have hy' : y.toNat % 32 = y.toNat := Nat.mod_eq_of_lt (UInt32.lt_iff_toNat_lt.1 hy)
  rw [wordBit, UInt32.toNat_shiftRight, hy', Nat.testBit_shiftRight]
  rfl

/-- A mask of the lower bits. -/
theorem wordBit_low {m : UInt32} {w : ℕ} (hm : m.toNat = 2 ^ w - 1) : wordBit m i = decide (i < w) := by
  rw [wordBit, hm, Nat.testBit_two_pow_sub_one]

variable {x y}

/-- A word is its bits. -/
theorem eq_of_wordBit (h : ∀ i < 32, wordBit x i = wordBit y i) : x = y := by
  refine UInt32.toNat_inj.1 (Nat.eq_of_testBit_eq fun i => ?_)
  rcases Nat.lt_or_ge i 32 with hi | hi
  · exact h i hi
  · exact (wordBit_of_ge x i hi).trans (wordBit_of_ge y i hi).symm

end BmcLib
