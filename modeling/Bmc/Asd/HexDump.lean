import Mathlib.Tactic

/-!
# Shifted data in the log

`logging.c` prints the bits of a shift as one hexadecimal number, the last byte first.

* `bufferToHex`: the digits as they are written, and the bytes that are read;
* `Rendered`: exactly the digits of the number are written, from the bytes that hold it;
* `digit_eq`, `digits_at`: what is written after some bytes;
* `digits_iff`: when the digits are right; **`rendered_iff`**: when only the bytes of the number are read.
-/

namespace BmcAsd

/-! ## The function -/

/-- `itoh`. -/
def itoh : List Char := ['0', '1', '2', '3', '4', '5', '6', '7', '8', '9', 'a', 'b', 'c', 'd', 'e', 'f']

/-- A run of `buffer_to_hex`: `result_index`, the string `result` and the indices of the bytes read. -/
structure HexRun where
  resultIndex : ℤ
  result : ℤ → Char
  reads : List ℕ

/-- `result[result_index--] = itoh[n]`. -/
def HexRun.put (s : HexRun) (n : ℕ) : HexRun :=
  { s with result := Function.update s.result s.resultIndex (itoh.getD n '0'), resultIndex := s.resultIndex - 1 }

section

variable (numberOfBits numberOfBytes : ℕ) (buffer : ℕ → UInt8)

/-- `last_bit_mask`. -/
def lastBitMask : ℕ := 0xff >>> (8 - numberOfBits % 8)

/-- The variables before the loop. The test reads `buffer[number_of_bytes]`. -/
def hexStart (result : ℤ → Char) : HexRun :=
  if lastBitMask numberOfBits = 0 then ⟨2 * numberOfBytes - 1, result, []⟩
  else if ((buffer numberOfBytes).toNat &&& lastBitMask numberOfBits) >>> 4 = 0 then
    ⟨2 * numberOfBytes - 1 - 1, result, [numberOfBytes]⟩
  else ⟨2 * numberOfBytes - 1, result, [numberOfBytes]⟩

/-- `bit_mask` for byte `i`: excess bits of the last byte are left out. -/
def bitMask (i : ℕ) : ℕ :=
  if i + 1 = numberOfBytes ∧ numberOfBits % 8 ≠ 0 then lastBitMask numberOfBits else 0xff

/-- The bits of byte `i` that are printed. -/
def maskedByte (i : ℕ) : ℕ := (buffer i).toNat &&& bitMask numberOfBits numberOfBytes i

/-- The body of the loop. -/
def hexStep (i : ℕ) (s : HexRun) : HexRun :=
  let s := { s with reads := s.reads ++ [i] }.put (maskedByte numberOfBits numberOfBytes buffer i &&& 0xf)
  if 0 ≤ s.resultIndex then s.put (maskedByte numberOfBits numberOfBytes buffer i >>> 4) else s

/-- The loop, after `i` bytes. -/
def hexLoop (s : HexRun) : ℕ → HexRun
  | 0 => s
  | i + 1 => hexStep numberOfBits numberOfBytes buffer i (hexLoop s i)

/-- `buffer_to_hex`. -/
def bufferToHex (result : ℤ → Char) : HexRun :=
  hexLoop numberOfBits numberOfBytes buffer (hexStart numberOfBits numberOfBytes buffer result) numberOfBytes

end

/-! ## What it is for -/

section

variable (bits : ℕ) (buffer : ℕ → UInt8)

/-- The number whose bits are the first bits of the buffer. -/
def bitNumber : ℕ := Nat.ofBits fun p : Fin bits => (buffer (p / 8)).toNat.testBit (p % 8)

/-- The number of bytes that hold the bits, which the callers pass. -/
def bytesOf : ℕ := (bits + 7) / 8

/-- The number of digits. -/
def digitsOf : ℕ := (bits + 3) / 4

/-- Digit `m` of the number, from the last one on. -/
def digit (m : ℕ) : Char := itoh.getD (bitNumber bits buffer / 16 ^ m % 16) '0'

/-- The string: the digits of the number, and behind them and in front of them what was there. -/
def rendering (result : ℤ → Char) (j : ℤ) : Char :=
  if 0 ≤ j ∧ j < digitsOf bits then digit bits buffer (digitsOf bits - 1 - j).toNat else result j

/-- The digits of the number are written and nothing else, and only its bytes are read. -/
structure Rendered : Prop where
  result : ∀ result, (bufferToHex bits (bytesOf bits) buffer result).result = rendering bits buffer result
  reads : ∀ result, ∀ i ∈ (bufferToHex bits (bytesOf bits) buffer result).reads, i < bytesOf bits

end

/-! ## Digits of bytes -/

variable {bits : ℕ} {buffer : ℕ → UInt8}

/-- The mask has the bits of the last byte. -/
theorem lastBitMask_eq : lastBitMask bits = 2 ^ (bits % 8) - 1 := by
  have h : bits % 8 < 8 := Nat.mod_lt _ (by norm_num)
  rw [lastBitMask]
  interval_cases bits % 8 <;> rfl

theorem lastBitMask_eq_zero : lastBitMask bits = 0 ↔ bits % 8 = 0 := by
  rw [lastBitMask_eq]
  have h : bits % 8 < 8 := Nat.mod_lt _ (by norm_num)
  interval_cases bits % 8 <;> decide

theorem testBit_maskedByte {i : ℕ} (hi : i < bytesOf bits) (t : ℕ) (ht : t < 8) :
    (maskedByte bits (bytesOf bits) buffer i).testBit t =
      (decide (8 * i + t < bits) && (buffer i).toNat.testBit t) := by
  rw [bytesOf] at hi
  rw [maskedByte, bitMask, Nat.testBit_and, Bool.and_comm]
  congr 1
  split_ifs with h
  · rw [lastBitMask_eq, Nat.testBit_two_pow_sub_one, bytesOf] at *
    exact decide_eq_decide.2 (by omega)
  · rw [show (0xff : ℕ) = 2 ^ 8 - 1 from rfl, Nat.testBit_two_pow_sub_one, decide_eq_true ht,
      decide_eq_true (by rw [bytesOf] at h; omega)]

theorem testBit_bitNumber (p : ℕ) : (bitNumber bits buffer).testBit p =
    (decide (p < bits) && (buffer (p / 8)).toNat.testBit (p % 8)) := by
  rw [bitNumber, Nat.testBit_ofBits]
  split_ifs with h
  · rw [decide_eq_true h, Bool.true_and]
  · rw [decide_eq_false h, Bool.false_and]

/-- Four bits of a byte are a digit of the number. -/
theorem nibble_eq {i h : ℕ} (hi : i < bytesOf bits) (hh : h < 2) :
    maskedByte bits (bytesOf bits) buffer i / 2 ^ (4 * h) % 16 = bitNumber bits buffer / 16 ^ (2 * i + h) % 16 := by
  have hpow : 16 ^ (2 * i + h) = 2 ^ (4 * (2 * i + h)) := by
    rw [pow_mul]
    norm_num
  refine Nat.eq_of_testBit_eq fun j => ?_
  rw [hpow, show 16 = 2 ^ 4 from rfl, Nat.testBit_mod_two_pow, Nat.testBit_mod_two_pow, Nat.testBit_div_two_pow,
    Nat.testBit_div_two_pow]
  by_cases hj : j < 4
  · rw [testBit_maskedByte hi _ (by omega), testBit_bitNumber, show (j + 4 * (2 * i + h)) / 8 = i by omega,
      show (j + 4 * (2 * i + h)) % 8 = j + 4 * h by omega]
    congr 2
    exact decide_eq_decide.2 (by omega)
  · rw [decide_eq_false hj, Bool.false_and, Bool.false_and]

/-- The two digits of a byte. -/
theorem digit_eq {i : ℕ} (hi : i < bytesOf bits) :
    itoh.getD (maskedByte bits (bytesOf bits) buffer i &&& 0xf) '0' = digit bits buffer (2 * i) ∧
      itoh.getD (maskedByte bits (bytesOf bits) buffer i >>> 4) '0' = digit bits buffer (2 * i + 1) := by
  have hlow := @nibble_eq _ buffer _ 0 hi (by norm_num)
  have hhigh := @nibble_eq _ buffer _ 1 hi (by norm_num)
  have hlt : maskedByte bits (bytesOf bits) buffer i < 256 :=
    lt_of_le_of_lt Nat.and_le_left (UInt8.toNat_lt _)
  rw [Nat.mul_zero, pow_zero, Nat.div_one, Nat.add_zero] at hlow
  rw [Nat.mod_eq_of_lt (by omega)] at hhigh
  rw [show (0xf : ℕ) = 2 ^ 4 - 1 from rfl, Nat.and_two_pow_sub_one_eq_mod, Nat.shiftRight_eq_div_pow, digit, digit]
  exact ⟨congrArg (itoh.getD · '0') hlow, congrArg (itoh.getD · '0') hhigh⟩

/-! ## The loop -/

/-- What stands in the string after `m` digits, the first one at `top`. -/
def digitsAt (bits : ℕ) (buffer : ℕ → UInt8) (top : ℤ) (m : ℕ) (result : ℤ → Char) (j : ℤ) : Char :=
  if top - m < j ∧ j ≤ top then digit bits buffer (top - j).toNat else result j

/-- The last `m` digits are written from `top` on. -/
structure Filled (bits : ℕ) (buffer : ℕ → UInt8) (top : ℤ) (result : ℤ → Char) (m : ℕ) (s : HexRun) : Prop where
  index : s.resultIndex = top - m
  result : s.result = digitsAt bits buffer top m result

variable {top : ℤ} {result : ℤ → Char} {s : HexRun}

/-- One more digit. -/
theorem Filled.put {m n : ℕ} (h : Filled bits buffer top result m s) (hn : itoh.getD n '0' = digit bits buffer m) :
    Filled bits buffer top result (m + 1) (s.put n) := by
  refine ⟨?_, funext fun j => ?_⟩
  · change s.resultIndex - 1 = _
    rw [h.index]
    omega
  · change Function.update s.result s.resultIndex _ j = _
    rw [h.index, h.result, hn]
    by_cases hj : j = top - m
    · rw [hj, Function.update_self, digitsAt, if_pos (by omega)]
      congr 1
      omega
    · rw [Function.update_of_ne hj, digitsAt, digitsAt]
      by_cases hin : top - m < j ∧ j ≤ top
      · rw [if_pos hin, if_pos (by omega)]
      · rw [if_neg hin, if_neg (by omega)]

/-- A byte writes two digits, or one where the string begins. -/
theorem Filled.step {i : ℕ} (h : Filled bits buffer top result (2 * i) s) (hi : i < bytesOf bits) :
    Filled bits buffer top result (if (2 * i + 1 : ℕ) ≤ top then 2 * i + 2 else 2 * i + 1)
      (hexStep bits (bytesOf bits) buffer i s) := by
  obtain ⟨hlow, hhigh⟩ := @digit_eq _ buffer _ hi
  have hread : Filled bits buffer top result (2 * i) { s with reads := s.reads ++ [i] } := ⟨h.index, h.result⟩
  have hone := hread.put hlow
  have hindex := hone.index
  rw [hexStep]
  by_cases hroom : (2 * i + 1 : ℕ) ≤ top
  · rw [if_pos hroom, if_pos (by rw [hindex]; omega)]
    exact hone.put hhigh
  · rw [if_neg hroom, if_neg (by rw [hindex]; omega)]
    exact hone

/-- The loop, as long as there is room for both digits. -/
theorem Filled.loop (h : Filled bits buffer top result 0 s) {i : ℕ} (hi : i ≤ bytesOf bits)
    (hroom : 2 * (i : ℤ) ≤ top + 1) : Filled bits buffer top result (2 * i) (hexLoop bits (bytesOf bits) buffer s i) := by
  induction i with
  | zero => exact h
  | succ i ih =>
    have hstep := (ih (by omega) (by omega)).step (by omega : i < bytesOf bits)
    rw [if_pos (by omega)] at hstep
    exact hstep

/-- The bytes are read in order. -/
theorem hexLoop_reads (bytes : ℕ) (s : HexRun) (i : ℕ) :
    (hexLoop bits bytes buffer s i).reads = s.reads ++ List.range i := by
  induction i with
  | zero => exact (List.append_nil _).symm
  | succ i ih =>
    rw [hexLoop, hexStep, List.range_succ, ← List.append_assoc, ← ih]
    split_ifs <;> rfl

/-! ## The digits -/

/-- The test before the loop finds a digit that is 0. It looks at the byte behind the last one. -/
def Dropped (bits : ℕ) (buffer : ℕ → UInt8) : Prop :=
  bits % 8 ≠ 0 ∧ ((buffer (bytesOf bits)).toNat &&& lastBitMask bits) >>> 4 = 0

/-- With up to four bits in the last byte the digit is there to drop. -/
theorem dropped_of_le (h : bits % 8 ≠ 0) (hle : bits % 8 ≤ 4) : Dropped bits buffer := by
  have hpow : 2 ^ (bits % 8) ≤ 2 ^ 4 := Nat.pow_le_pow_right (by norm_num) hle
  have hand : (buffer (bytesOf bits)).toNat &&& lastBitMask bits ≤ lastBitMask bits := Nat.and_le_right
  refine ⟨h, ?_⟩
  rw [lastBitMask_eq] at hand ⊢
  rw [Nat.shiftRight_eq_div_pow]
  exact Nat.div_eq_of_lt (by omega)

/-- The start of the loop, at the index of the last digit. -/
theorem filled_start (result : ℤ → Char) :
    (¬ Dropped bits buffer → Filled bits buffer (2 * bytesOf bits - 1) result 0
        (hexStart bits (bytesOf bits) buffer result)) ∧
      (Dropped bits buffer → Filled bits buffer (2 * bytesOf bits - 2) result 0
        (hexStart bits (bytesOf bits) buffer result)) := by
  have hnone : ∀ top : ℤ, digitsAt bits buffer top 0 result = result := fun top =>
    funext fun j => if_neg (by omega)
  rw [Dropped, hexStart, Ne, ← lastBitMask_eq_zero]
  by_cases hmask : lastBitMask bits = 0
  · rw [if_pos hmask]
    exact ⟨fun _ => ⟨by dsimp only; omega, (hnone _).symm⟩, fun h => absurd hmask h.1⟩
  · rw [if_neg hmask]
    by_cases hnibble : ((buffer (bytesOf bits)).toNat &&& lastBitMask bits) >>> 4 = 0
    · rw [if_pos hnibble]
      exact ⟨fun h => absurd ⟨hmask, hnibble⟩ h, fun _ => ⟨by dsimp only; omega, (hnone _).symm⟩⟩
    · rw [if_neg hnibble]
      exact ⟨fun _ => ⟨by dsimp only; omega, (hnone _).symm⟩, fun h => absurd h.2 hnibble⟩

/-- With all digits, two for each byte. -/
theorem result_of_not_dropped (h : ¬ Dropped bits buffer) (result : ℤ → Char) :
    (bufferToHex bits (bytesOf bits) buffer result).result =
      digitsAt bits buffer (2 * bytesOf bits - 1) (2 * bytesOf bits) result :=
  (((filled_start result).1 h).loop le_rfl (by omega)).result

/-- Without the first digit. -/
theorem result_of_dropped (h : Dropped bits buffer) (result : ℤ → Char) :
    (bufferToHex bits (bytesOf bits) buffer result).result =
      digitsAt bits buffer (2 * bytesOf bits - 2) (2 * bytesOf bits - 1) result := by
  have hpos : 0 < bytesOf bits := by
    have := h.1
    rw [bytesOf]
    omega
  obtain ⟨i, hi⟩ := Nat.exists_eq_succ_of_ne_zero hpos.ne'
  have hloop := ((filled_start result).2 h).loop (i := i) (by omega) (by omega)
  have hstep := hloop.step (by omega)
  rw [if_neg (by omega), show 2 * i + 1 = 2 * bytesOf bits - 1 by omega] at hstep
  rw [bufferToHex, hi, hexLoop, ← hi]
  exact hstep.result

theorem digitsAt_eq_rendering {top : ℤ} {m : ℕ} (htop : top = digitsOf bits - 1) (hm : m = digitsOf bits)
    (result : ℤ → Char) : digitsAt bits buffer top m result = rendering bits buffer result := by
  funext j
  rw [digitsAt, rendering, htop, hm]
  by_cases hj : 0 ≤ j ∧ j < digitsOf bits
  · rw [if_pos hj, if_pos (by omega)]
  · rw [if_neg hj, if_neg (by omega)]

/-- The first digit is dropped where there is none to drop, in a last byte of more than four bits. -/
theorem digits_iff :
    (∀ result, (bufferToHex bits (bytesOf bits) buffer result).result = rendering bits buffer result) ↔
      ¬ (4 < bits % 8 ∧ Dropped bits buffer) := by
  have hbytes : bytesOf bits = (bits + 7) / 8 := rfl
  have hdigits : digitsOf bits = (bits + 3) / 4 := rfl
  constructor
  · rintro h ⟨hfour, hdrop⟩
    have hlast := congrFun (h fun _ => '\x00') (digitsOf bits - 1)
    rw [result_of_dropped hdrop, digitsAt, if_neg (by omega), rendering, if_pos (by omega)] at hlast
    have hdigit : ∀ n < 16, itoh.getD n '0' ≠ '\x00' := by decide
    exact hdigit _ (Nat.mod_lt _ (by norm_num)) hlast.symm
  · intro h result
    by_cases hdrop : Dropped bits buffer
    · have hfour : ¬ 4 < bits % 8 := fun hfour => h ⟨hfour, hdrop⟩
      have hmod := hdrop.1
      rw [result_of_dropped hdrop]
      exact digitsAt_eq_rendering (by omega) (by omega) result
    · rw [result_of_not_dropped hdrop]
      have hsmall : bits % 8 ≤ 4 → bits % 8 = 0 := fun hle => by
        by_contra hne
        exact hdrop (dropped_of_le hne hle)
      exact digitsAt_eq_rendering (by omega) (by omega) result

/-! ## The bytes that are read -/

/-- Every byte is read, and the one behind the last where the bits do not fill it. -/
theorem bufferToHex_reads (result : ℤ → Char) : (bufferToHex bits (bytesOf bits) buffer result).reads =
    (if bits % 8 = 0 then [] else [bytesOf bits]) ++ List.range (bytesOf bits) := by
  rw [bufferToHex, hexLoop_reads, hexStart]
  congr 1
  by_cases hzero : bits % 8 = 0
  · rw [if_pos (lastBitMask_eq_zero.2 hzero), if_pos hzero]
  · rw [if_neg (mt lastBitMask_eq_zero.1 hzero), if_neg hzero]
    split_ifs <;> rfl

/-- **The log.** Exactly the digits of the number are written and only its bytes are read, when and only
when the number of bits is a multiple of eight. -/
theorem rendered_iff (bits : ℕ) (buffer : ℕ → UInt8) : Rendered bits buffer ↔ bits % 8 = 0 := by
  constructor
  · intro h
    by_contra hne
    have hlast := h.reads (fun _ => '\x00') (bytesOf bits)
    rw [bufferToHex_reads, if_neg hne] at hlast
    exact absurd (hlast List.mem_cons_self) (lt_irrefl _)
  · intro hzero
    refine ⟨digits_iff.2 fun h => h.2.1 hzero, fun result i hi => ?_⟩
    rw [bufferToHex_reads, if_pos hzero, List.nil_append] at hi
    exact List.mem_range.1 hi

/-- The five bits 10000 are printed as one digit, since the next byte is zero. -/
theorem not_rendered_five : ¬ ∀ (bits : ℕ) (buffer : ℕ → UInt8), Rendered bits buffer := by
  intro h
  have hfirst := congrFun ((h 5 fun i => if i = 0 then 0x10 else 0).result fun _ => '\x00') 1
  exact absurd hfirst (by decide)

end BmcAsd
