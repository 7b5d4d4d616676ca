import Bmc.Lib.Hex
import Bmc.Lib.Endian
import Bmc.Lib.CText

/-!
# Hexadecimal digits byte by byte

* `hexByte`: a byte as `%02x`; `byteDigits`: the digits of a number, two for each byte;
* **`flatMap_hexByte`**: bytes printed one after the other, from a byte that is not zero on.
-/

namespace BmcLib

/-- `%02x`. -/
def hexByte (c : UInt8) : List Char := [Nat.digitChar (c.toNat / 16), Nat.digitChar (c.toNat % 16)]

/-- The hexadecimal digits of a number, two for each of its bytes, and `0` for zero. -/
def byteDigits (n : ℕ) : List Char :=
  if n = 0 then ['0']
  else if (Nat.toDigits 16 n).length % 2 = 0 then Nat.toDigits 16 n
  else '0' :: Nat.toDigits 16 n

theorem length_flatMap_hexByte (l : List UInt8) : (l.flatMap hexByte).length = 2 * l.length := by
  induction l with
  | nil => rfl
  | cons c l ih =>
    rw [List.flatMap_cons, List.length_append, ih, List.length_cons]
    show 2 + 2 * l.length = _
    omega

theorem digitChar_ne_nul : ∀ n < 16, Nat.digitChar n ≠ nul := by decide

theorem nul_notMem_flatMap_hexByte (l : List UInt8) : nul ∉ l.flatMap hexByte := by
  intro h
  obtain ⟨c, -, hc⟩ := List.mem_flatMap.1 h
  have hlt := c.toNat_lt
  rcases List.mem_pair.1 hc with hc | hc
  · exact digitChar_ne_nul _ (by omega) hc.symm
  · exact digitChar_ne_nul _ (by omega) hc.symm

theorem toDigits_of_lt_byte {x : ℕ} (h : 16 ≤ x) (hx : x < 256) :
    Nat.toDigits 16 x = [Nat.digitChar (x / 16), Nat.digitChar (x % 16)] := by
  rw [Nat.toDigits_of_base_le (by decide) h, Nat.toDigits_of_lt_base (by omega)]
  rfl

/-- One byte more. -/
theorem toDigits_mul_byte {x : ℕ} (hx : 0 < x) (c : UInt8) :
    Nat.toDigits 16 (c.toNat + 256 * x) = Nat.toDigits 16 x ++ hexByte c := by
  have hc := c.toNat_lt
  have hdiv : (c.toNat + 256 * x) / 16 / 16 = x := by omega
  have hdiv' : (c.toNat + 256 * x) / 16 % 16 = c.toNat / 16 := by omega
  have hmod : (c.toNat + 256 * x) % 16 = c.toNat % 16 := by omega
  rw [Nat.toDigits_of_base_le (by decide) (by omega), Nat.toDigits_of_base_le (by decide) (by omega), hdiv, hdiv', hmod,
    List.append_assoc]
  rfl

theorem leNat_reverse_pos {c : UInt8} (hc : c ≠ 0) (l : List UInt8) : 0 < leNat (c :: l).reverse := by
  have hpos : 0 < c.toNat := Nat.pos_of_ne_zero fun h => hc (UInt8.toNat_inj.1 h)
  rw [List.reverse_cons, leNat_append]
  have hle : c.toNat ≤ 256 ^ l.reverse.length * (c.toNat + 256 * 0) :=
    Nat.le_mul_of_pos_left c.toNat (Nat.pow_pos (by decide))
  exact lt_of_lt_of_le (lt_of_lt_of_le hpos hle) (Nat.le_add_left _ _)

/-- The digits of the first byte, and then two for each byte. -/
theorem toDigits_leNat {c : UInt8} (hc : c ≠ 0) (l : List UInt8) :
    Nat.toDigits 16 (leNat (c :: l).reverse) = Nat.toDigits 16 c.toNat ++ l.flatMap hexByte := by
  induction l using List.reverseRecOn with
  | nil => simp
  | append_singleton l a ih =>
    have hrev : leNat (c :: (l ++ [a])).reverse = a.toNat + 256 * leNat (c :: l).reverse := by simp
    rw [hrev, toDigits_mul_byte (leNat_reverse_pos hc l), ih, List.flatMap_append, List.flatMap_singleton,
      List.append_assoc]

/-- **Bytes, the highest one first.** -/
theorem flatMap_hexByte {c : UInt8} (hc : c ≠ 0) (l : List UInt8) :
    (c :: l).flatMap hexByte = byteDigits (leNat (c :: l).reverse) := by
  have hlt := c.toNat_lt
  rw [byteDigits, if_neg (leNat_reverse_pos hc l).ne', toDigits_leNat hc, List.flatMap_cons, List.length_append,
    length_flatMap_hexByte]
  by_cases h16 : c.toNat < 16
  · rw [Nat.toDigits_of_lt_base h16, if_neg (by simp), hexByte, Nat.div_eq_of_lt h16, Nat.mod_eq_of_lt h16]
    rfl
  · rw [toDigits_of_lt_byte (not_lt.1 h16) hlt, if_pos (by simp)]
    rfl

end BmcLib
