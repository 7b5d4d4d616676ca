import Bmc.Lib.WordBits
import Bmc.Nvdimm.Peci

/-!
# Bit fields of the crashdump

`utils.c`: fields of 32-bit words are set and read.

* `setMask`, `setFields`, `getFields`: as they are computed;
* `FieldLaws`: a written field is read back, and the other bits stay;
* `getFields_setFields`: what is read back; `frame_iff`: which bits change;
* **`fieldLaws_iff`**: the value is not cut to the field, so its bits above the field must be there before.
-/

namespace BmcAcd

open BmcLib

open BmcNvdimm (Shifts)

/-! ## The functions -/

section

variable (sh : Shifts) (value msb lsb : UInt32)

/-- `setMask`. -/
def setMask (msb lsb : UInt32) : UInt32 := sh.left 1 (msb - lsb + 1) - 1

/-- `setFields`. -/
def setFields (setVal : UInt32) : UInt32 :=
  (value &&& ~~~sh.left (setMask sh msb lsb) lsb) ||| sh.left setVal lsb

/-- `getFields`. -/
def getFields : UInt32 := setMask sh msb lsb &&& sh.right value lsb

/-! ## The laws -/

/-- The number of bits of the field. -/
def fieldWidth (msb lsb : UInt32) : ℕ := msb.toNat - lsb.toNat + 1

/-- The field holds the value, as far as it fits, and every other bit is as before. -/
structure FieldLaws (setVal : UInt32) : Prop where
  get : (getFields sh (setFields sh value msb lsb setVal) msb lsb).toNat = setVal.toNat % 2 ^ fieldWidth msb lsb
  frame : ∀ i, ¬ (lsb.toNat ≤ i ∧ i ≤ msb.toNat) →
    wordBit (setFields sh value msb lsb setVal) i = wordBit value i

/-- The bits of the value above the field, moved with it, are bits of the word. A field of a whole word
needs a mask with the bits of the value. -/
def SpillAbsorbed (setVal : UInt32) : Prop :=
  if fieldWidth msb lsb = 32 then setMask sh msb lsb &&& setVal = setVal
  else ∀ i, msb.toNat < i → i < 32 → wordBit setVal (i - lsb.toNat) = true → wordBit value i = true

end

/-! ## Bits -/

variable {sh : Shifts} {value msb lsb setVal : UInt32}

/-- The range of `setMask`. -/
theorem toNat_range (h : lsb ≤ msb) (hm : msb < 32) : (msb - lsb + 1).toNat = fieldWidth msb lsb := by
  have hm' : msb.toNat < 32 := UInt32.lt_iff_toNat_lt.1 hm
  rw [UInt32.toNat_add, UInt32.toNat_sub_of_le _ _ h, UInt32.toNat_one, fieldWidth]
  omega

/-- The mask of less than a word. -/
theorem toNat_setMask (h : lsb ≤ msb) (hm : msb < 32) (hw : fieldWidth msb lsb < 32) :
    (setMask sh msb lsb).toNat = 2 ^ fieldWidth msb lsb - 1 := by
  have hr : (msb - lsb + 1).toNat = fieldWidth msb lsb := toNat_range h hm
  have hlt : msb - lsb + 1 < 32 := UInt32.lt_iff_toNat_lt.2 (hr ▸ hw)
  have hpow : (2 : ℕ) ^ fieldWidth msb lsb < 2 ^ 32 := Nat.pow_lt_pow_right (by norm_num) hw
  have hone : ((1 : UInt32) <<< (msb - lsb + 1)).toNat = 2 ^ fieldWidth msb lsb := by
    rw [UInt32.toNat_shiftLeft, hr, Nat.mod_eq_of_lt hw, UInt32.toNat_one, Nat.one_shiftLeft, Nat.mod_eq_of_lt hpow]
  have hle : (1 : UInt32) ≤ (1 : UInt32) <<< (msb - lsb + 1) :=
    UInt32.le_iff_toNat_le.2 (hone ▸ Nat.two_pow_pos _)
  rw [setMask, sh.left_of_lt _ _ hlt, UInt32.toNat_sub_of_le _ _ hle, hone, UInt32.toNat_one]

/-- A bit of the word that is written. -/
theorem wordBit_setFields (hl : lsb < 32) (i : ℕ) : wordBit (setFields sh value msb lsb setVal) i =
    ((wordBit value i && !(decide (lsb.toNat ≤ i) && wordBit (setMask sh msb lsb) (i - lsb.toNat))) ||
      (decide (i < 32) && decide (lsb.toNat ≤ i) && wordBit setVal (i - lsb.toNat))) := by
  rw [setFields, sh.left_of_lt _ _ hl, sh.left_of_lt _ _ hl, wordBit_or, wordBit_and, wordBit_not,
    wordBit_shiftLeft _ _ _ hl, wordBit_shiftLeft _ _ _ hl]
  by_cases hi : i < 32
  · simp only [hi, decide_true, Bool.true_and]
  · simp only [wordBit_of_ge value i (by omega), Bool.false_and]

/-- A bit of the word that is read. -/
theorem wordBit_getFields (hl : lsb < 32) (i : ℕ) : wordBit (getFields sh value msb lsb) i =
    (wordBit (setMask sh msb lsb) i && wordBit value (lsb.toNat + i)) := by
  rw [getFields, sh.right_of_lt _ _ hl, wordBit_and, wordBit_shiftRight _ _ _ hl]

/-- **Reading back.** What is read are the bits of the value within the mask. -/
theorem getFields_setFields (hl : lsb < 32) (hm : ∀ i, wordBit (setMask sh msb lsb) i = true → lsb.toNat + i < 32) :
    getFields sh (setFields sh value msb lsb setVal) msb lsb = setMask sh msb lsb &&& setVal := by
  refine eq_of_wordBit fun i _ => ?_
  rw [wordBit_getFields hl, wordBit_setFields hl, wordBit_and, Nat.add_sub_cancel_left, decide_eq_true (Nat.le_add_right _ i)]
  rcases hb : wordBit (setMask sh msb lsb) i with - | -
  · rfl
  · rw [decide_eq_true (hm i hb), Bool.true_and, Bool.true_and, Bool.true_and, Bool.not_true, Bool.and_false,
      Bool.false_or]

/-- The mask reaches no bit outside the field. -/
theorem le_of_mask (h : lsb ≤ msb) (hm : msb < 32) {i : ℕ} (hi : wordBit (setMask sh msb lsb) i = true) :
    lsb.toNat + i < 32 := by
  have hle : lsb.toNat ≤ msb.toNat := UInt32.le_iff_toNat_le.1 h
  have hlt : msb.toNat < 32 := UInt32.lt_iff_toNat_lt.1 hm
  by_cases hw : fieldWidth msb lsb < 32
  · rw [wordBit_low _ (toNat_setMask h hm hw), decide_eq_true_iff, fieldWidth] at hi
    omega
  · have := lt_of_wordBit hi
    rw [fieldWidth] at hw
    omega

/-! ## When the laws hold -/

/-- A field of less than a word is always read back. -/
theorem get_of_lt (h : lsb ≤ msb) (hm : msb < 32) (hw : fieldWidth msb lsb < 32) :
    (getFields sh (setFields sh value msb lsb setVal) msb lsb).toNat = setVal.toNat % 2 ^ fieldWidth msb lsb := by
  rw [getFields_setFields (UInt32.lt_of_le_of_lt h hm) fun _ => le_of_mask h hm, UInt32.toNat_and,
    toNat_setMask h hm hw, Nat.and_comm, Nat.and_two_pow_sub_one_eq_mod]

/-- A whole word is read back when the mask has its bits. -/
theorem get_of_word (h : lsb ≤ msb) (hm : msb < 32) (hw : fieldWidth msb lsb = 32) :
    (getFields sh (setFields sh value msb lsb setVal) msb lsb).toNat = setVal.toNat % 2 ^ fieldWidth msb lsb ↔
      setMask sh msb lsb &&& setVal = setVal := by
  rw [getFields_setFields (UInt32.lt_of_le_of_lt h hm) fun _ => le_of_mask h hm, hw,
    Nat.mod_eq_of_lt (UInt32.toNat_lt setVal), UInt32.toNat_inj]

/-- Outside the field only the bits above it can change. -/
theorem frame_iff (h : lsb ≤ msb) (hm : msb < 32) (hw : fieldWidth msb lsb < 32) :
    (∀ i, ¬ (lsb.toNat ≤ i ∧ i ≤ msb.toNat) → wordBit (setFields sh value msb lsb setVal) i = wordBit value i) ↔
      ∀ i, msb.toNat < i → i < 32 → wordBit setVal (i - lsb.toNat) = true → wordBit value i = true := by
  have hle : lsb.toNat ≤ msb.toNat := UInt32.le_iff_toNat_le.1 h
  have hl : lsb < 32 := UInt32.lt_of_le_of_lt h hm
  have above : ∀ i, msb.toNat < i → i < 32 →
      wordBit (setFields sh value msb lsb setVal) i = (wordBit value i || wordBit setVal (i - lsb.toNat)) := by
    intro i hi hi32
    have hout : ¬ i - lsb.toNat < fieldWidth msb lsb := by
      rw [fieldWidth]
      omega
    rw [wordBit_setFields hl, wordBit_low _ (toNat_setMask h hm hw), decide_eq_false hout, Bool.and_false, Bool.not_false,
      Bool.and_true, decide_eq_true hi32, decide_eq_true (by omega : lsb.toNat ≤ i), Bool.true_and, Bool.true_and]
  constructor
  · intro hframe i hi hi32 hbit
    rw [← hframe i (by omega), above i hi hi32, hbit, Bool.or_true]
  · intro hspill i hi
    rcases Nat.lt_or_ge i lsb.toNat with hlow | hlow
    · rw [wordBit_setFields hl, decide_eq_false (by omega : ¬ lsb.toNat ≤ i), Bool.false_and, Bool.not_false, Bool.and_true,
        Bool.and_false, Bool.false_and, Bool.or_false]
    · rcases Nat.lt_or_ge i 32 with hi32 | hi32
      · rw [above i (by omega) hi32]
        rcases hbit : wordBit setVal (i - lsb.toNat) with - | -
        · exact Bool.or_false _
        · rw [hspill i (by omega) hi32 hbit, Bool.or_true]
      · rw [wordBit_of_ge _ i hi32, wordBit_of_ge _ i hi32]

/-- **The laws.** A field is read back and nothing else changes exactly when the bits of the value above
the field are in the word before, or, for a whole word, when the mask has the bits of the value. -/
theorem fieldLaws_iff (sh : Shifts) (value msb lsb setVal : UInt32) (h : lsb ≤ msb) (hm : msb ≤ 31) :
    FieldLaws sh value msb lsb setVal ↔ SpillAbsorbed sh value msb lsb setVal := by
  have hm' : msb < 32 := UInt32.lt_of_le_of_lt hm (by decide)
  have hle : lsb.toNat ≤ msb.toNat := UInt32.le_iff_toNat_le.1 h
  have hlt : msb.toNat < 32 := UInt32.lt_iff_toNat_lt.1 hm'
  by_cases hw : fieldWidth msb lsb = 32
  · rw [SpillAbsorbed, if_pos hw, ← @get_of_word _ value _ _ _ h hm' hw]
    refine ⟨FieldLaws.get, fun hget => ⟨hget, fun i hi => ?_⟩⟩
    have hi32 : 32 ≤ i := by
      rw [fieldWidth] at hw
      omega
    rw [wordBit_of_ge _ i hi32, wordBit_of_ge _ i hi32]
  · have hw' : fieldWidth msb lsb < 32 := lt_of_le_of_ne (by rw [fieldWidth]; omega) hw
    rw [SpillAbsorbed, if_neg hw, ← @frame_iff sh _ _ _ _ h hm' hw']
    exact ⟨FieldLaws.frame, fun hframe => ⟨get_of_lt h hm' hw', hframe⟩⟩

/-- A field of two bits in an empty word. -/
theorem fieldLaws_iff_pair : (2 : UInt32) ≤ 3 ∧ (3 : UInt32) ≤ 31 ∧
    (FieldLaws Shifts.mod32 0 3 2 1 ↔ SpillAbsorbed Shifts.mod32 0 3 2 1) :=
  ⟨by decide, by decide, fieldLaws_iff _ 0 3 2 1 (by decide) (by decide)⟩

/-- The value 4 in the bits 0 and 1 sets bit 2. -/
theorem setFields_spills : ¬ ∀ (sh : Shifts) (value msb lsb setVal : UInt32), lsb ≤ msb → msb ≤ 31 →
    FieldLaws sh value msb lsb setVal := by
  intro h
  have hframe := (h Shifts.mod32 0 1 0 4 (by decide) (by decide)).frame 2 (by decide)
  exact absurd hframe (by decide)

end BmcAcd
