import Bmc.Helper.Fmh
import Mathlib.Data.UInt

/-!
# Writing flash module headers

`CreateFMH` and `CreateAlternateFMH`, of the boot loader, `002-fmh_core.patch`, and of the kernel helper,
`fmhcore.c`.

* `Fmh`, `AltFmh`: the headers with their fields, and their bytes;
* `createFMH`, `createAlternateFMH`: the headers that each writes;
* `validate_set`: another byte makes another sum; `checkForNormalFMH_set`: a changed header is rejected;
* `HeaderRoundTrip`: a header is accepted and read back; **`headerRoundTrip_iff`**: whose headers are.
-/

namespace BmcHelper

open BmcLib

/-! ## Headers -/

/-- `MODULE_INFO`, of 38 bytes. -/
abbrev ModuleInfo := Vector UInt8 38

/-- `FMH`. -/
structure Fmh where
  signature : Vector UInt8 8
  verMajor : UInt8
  verMinor : UInt8
  size : UInt16
  allocatedSize : UInt32
  location : UInt32
  reserved : Vector UInt8 3
  headerChecksum : UInt8
  moduleInfo : ModuleInfo
  endSignature : UInt16

/-- The bytes of a header; the fields are not aligned. -/
def Fmh.bytes (f : Fmh) : List UInt8 :=
  f.signature.toList ++ ([f.verMajor, f.verMinor] ++ (leBytes 2 f.size.toNat ++ (leBytes 4 f.allocatedSize.toNat ++
    (leBytes 4 f.location.toNat ++ (f.reserved.toList ++ (f.headerChecksum :: (f.moduleInfo.toList ++
      leBytes 2 f.endSignature.toNat)))))))

/-- `ALT_FMH`. -/
structure AltFmh where
  endSignature : UInt16
  headerChecksum : UInt8
  reserved : UInt8
  linkAddress : UInt32
  signature : Vector UInt8 8

/-- The bytes of an alternate header. -/
def AltFmh.bytes (f : AltFmh) : List UInt8 :=
  leBytes 2 f.endSignature.toNat ++ (f.headerChecksum :: f.reserved :: (leBytes 4 f.linkAddress.toNat ++
    f.signature.toList))

/-! ## Writing -/

/-- `CalculateModule100`. -/
def calculateModule100 (buffer : List UInt8) : UInt8 := ~~~buffer.sum + 1

/-- The two programs that write headers. -/
inductive Creator
  | uboot
  | kernel
  deriving DecidableEq, Repr

/-- What is in the field after the signature is copied, and whether the function goes on. `strncpy` of the boot
loader copies its eight characters. `snprintf` of the kernel ends the text with a null character, for which there
is no room, and its result, 8, is taken for an overflow. -/
def Creator.signature : Creator → Vector UInt8 8 × Bool
  | uboot => (#v[0x24, 0x4D, 0x4F, 0x44, 0x55, 0x4C, 0x45, 0x24], true)
  | kernel => (#v[0x24, 0x4D, 0x4F, 0x44, 0x55, 0x4C, 0x45, 0], false)

/-- `CreateFMH`. -/
def createFMH (c : Creator) (allocatedSize : UInt32) (mod : ModuleInfo) : Fmh :=
  let fmh : Fmh := ⟨c.signature.1, 0, 0, 0, 0, 0, #v[0, 0, 0], 0, mod, 0⟩
  if c.signature.2 = false then fmh
  else
    let fmh := { fmh with verMajor := 1, verMinor := 8, size := 64, endSignature := 0x55AA, allocatedSize := allocatedSize }
    { fmh with headerChecksum := calculateModule100 fmh.bytes }

/-- `CreateAlternateFMH`. -/
def createAlternateFMH (c : Creator) (fmhOffset : UInt32) : AltFmh :=
  let altfmh : AltFmh := ⟨0, 0, 0, 0, c.signature.1⟩
  if c.signature.2 = false then altfmh
  else
    let altfmh := { altfmh with endSignature := 0x55AA, linkAddress := fmhOffset }
    { altfmh with headerChecksum := calculateModule100 altfmh.bytes }

/-! ## What it is for -/

/-- `Module_Info` of the bytes of a header. -/
def moduleInfoOf (fmh : List UInt8) : List UInt8 := (fmh.drop 24).take 38

/-- The headers that are written are accepted and read back, and no accepted header differs from another in one
byte. -/
structure HeaderRoundTrip (c : Creator) (allocatedSize fmhOffset : UInt32) (mod : ModuleInfo) : Prop where
  accepted : checkForNormalFMH (createFMH c allocatedSize mod).bytes = some (createFMH c allocatedSize mod).bytes
  info : moduleInfoOf (createFMH c allocatedSize mod).bytes = mod.toList
  size : fmhAllocatedSize (createFMH c allocatedSize mod).bytes = allocatedSize
  link : fmhOffset ≠ invalidFmhOffset → checkForAlternateFMH (createAlternateFMH c fmhOffset).bytes = fmhOffset
  detected : ∀ (l : List UInt8) (i : ℕ) (b : UInt8), l.length = sizeofFmh → checkForNormalFMH l = some l →
    (hi : i < l.length) → b ≠ l[i] → checkForNormalFMH (l.set i b) = none
  detectedAlternate : ∀ (l : List UInt8) (i : ℕ) (b : UInt8), l.length = sizeofAltFmh →
    checkForAlternateFMH l ≠ invalidFmhOffset → (hi : i < l.length) → b ≠ l[i] →
    checkForAlternateFMH (l.set i b) = invalidFmhOffset

/-! ## Detection -/

/-- Another byte makes another sum. -/
theorem validate_set {l : List UInt8} {i : ℕ} {b : UInt8} (hi : i < l.length) (hb : b ≠ l[i]) :
    validateModule100 (l.set i b) ≠ validateModule100 l := by
  have hset : (l.set i b).sum = l.sum + if hn : i < l.length then -l[i] + b else 0 := List.sum_set' l i b
  rw [validateModule100, validateModule100, hset, dif_pos hi]
  intro h
  have hzero : -l[i] + b = 0 := by simpa using h
  exact hb (neg_add_eq_zero.1 hzero).symm

theorem checkForNormalFMH_of_sum {l : List UInt8} (h : validateModule100 l ≠ 0) : checkForNormalFMH l = none := by
  rw [checkForNormalFMH]
  split_ifs <;> rfl

theorem checkForAlternateFMH_of_sum {l : List UInt8} (h : validateModule100 l ≠ 0) :
    checkForAlternateFMH l = invalidFmhOffset := by
  rw [checkForAlternateFMH]
  split_ifs <;> rfl

/-- **Detection.** A header that differs from an accepted one in one byte is rejected. -/
theorem checkForNormalFMH_set {l : List UInt8} {i : ℕ} {b : UInt8} (hl : checkForNormalFMH l = some l)
    (hi : i < l.length) (hb : b ≠ l[i]) : checkForNormalFMH (l.set i b) = none := by
  have hzero : validateModule100 l = 0 := by
    by_contra hne
    rw [checkForNormalFMH_of_sum hne] at hl
    cases hl
  exact checkForNormalFMH_of_sum (hzero ▸ validate_set hi hb)

theorem checkForAlternateFMH_set {l : List UInt8} {i : ℕ} {b : UInt8} (hl : checkForAlternateFMH l ≠ invalidFmhOffset)
    (hi : i < l.length) (hb : b ≠ l[i]) : checkForAlternateFMH (l.set i b) = invalidFmhOffset := by
  have hzero : validateModule100 l = 0 := by
    by_contra hne
    exact hl (checkForAlternateFMH_of_sum hne)
  exact checkForAlternateFMH_of_sum (hzero ▸ validate_set hi hb)

/-! ## Reading back -/

/-- A field of bytes. -/
theorem drop_take_field {l a b c : List UInt8} {o n : ℕ} (h : l = a ++ (b ++ c)) (ha : a.length = o) (hb : b.length = n) :
    (l.drop o).take n = b := by
  rw [h, ← ha, List.drop_left, ← hb, List.take_left]

theorem leNat_leBytes_uint16 (x : UInt16) : leNat (leBytes 2 x.toNat) = x.toNat := by
  rw [leNat_leBytes]
  exact Nat.mod_eq_of_lt (UInt16.toNat_lt x)

theorem ofNat_leBytes_uint32 (x : UInt32) : UInt32.ofNat (leNat (leBytes 4 x.toNat)) = x := by
  have hlt : x.toNat < 256 ^ 4 := UInt32.toNat_lt x
  rw [leNat_leBytes, Nat.mod_eq_of_lt hlt, UInt32.ofNat_toNat]

section Normal

variable (f : Fmh)

theorem Fmh.take_signature : f.bytes.take 8 = f.signature.toList :=
  List.take_left' (f.signature.length_toList)

theorem Fmh.le16_endSignature : le16 f.bytes 62 = f.endSignature.toNat := by
  have h : f.bytes = (f.signature.toList ++ [f.verMajor, f.verMinor] ++ leBytes 2 f.size.toNat ++
      leBytes 4 f.allocatedSize.toNat ++ leBytes 4 f.location.toNat ++ f.reserved.toList ++ [f.headerChecksum] ++
      f.moduleInfo.toList) ++ (leBytes 2 f.endSignature.toNat ++ []) := by
    simp [Fmh.bytes]
  rw [le16, drop_take_field h (by simp) (length_leBytes 2 _), leNat_leBytes_uint16]

theorem Fmh.le32_allocatedSize : fmhAllocatedSize f.bytes = f.allocatedSize := by
  have h : f.bytes = (f.signature.toList ++ [f.verMajor, f.verMinor] ++ leBytes 2 f.size.toNat) ++
      (leBytes 4 f.allocatedSize.toNat ++ (leBytes 4 f.location.toNat ++ (f.reserved.toList ++ (f.headerChecksum ::
        (f.moduleInfo.toList ++ leBytes 2 f.endSignature.toNat))))) := by
    simp [Fmh.bytes]
  rw [fmhAllocatedSize, le32, drop_take_field h (by simp) (length_leBytes 4 _), ofNat_leBytes_uint32]

theorem Fmh.moduleInfoOf_bytes : moduleInfoOf f.bytes = f.moduleInfo.toList := by
  have h : f.bytes = (f.signature.toList ++ [f.verMajor, f.verMinor] ++ leBytes 2 f.size.toNat ++
      leBytes 4 f.allocatedSize.toNat ++ leBytes 4 f.location.toNat ++ f.reserved.toList ++ [f.headerChecksum]) ++
      (f.moduleInfo.toList ++ leBytes 2 f.endSignature.toNat) := by
    simp [Fmh.bytes]
  rw [moduleInfoOf, drop_take_field h (by simp) (by simp)]

/-- The checksum makes the sum zero. -/
theorem Fmh.validate_checksum (h : f.headerChecksum = 0) :
    validateModule100 { f with headerChecksum := calculateModule100 f.bytes }.bytes = 0 := by
  have hsum : ∀ c : UInt8, { f with headerChecksum := c }.bytes.sum = c + f.bytes.sum := by
    intro c
    rw [Fmh.bytes, Fmh.bytes]
    simp only [List.sum_append, List.sum_cons, h, zero_add]
    abel
  rw [validateModule100, hsum, calculateModule100, ← UInt8.neg_eq_not_add]
  exact neg_add_cancel _

end Normal

section Alternate

variable (f : AltFmh)

theorem AltFmh.take_signature : (f.bytes.drop 8).take 8 = f.signature.toList := by
  have h : f.bytes = (leBytes 2 f.endSignature.toNat ++ [f.headerChecksum, f.reserved] ++
      leBytes 4 f.linkAddress.toNat) ++ (f.signature.toList ++ []) := by
    simp [AltFmh.bytes]
  exact drop_take_field h (by simp) (by simp)

theorem AltFmh.le16_endSignature : le16 f.bytes 0 = f.endSignature.toNat := by
  have h : f.bytes = [] ++ (leBytes 2 f.endSignature.toNat ++ (f.headerChecksum :: f.reserved ::
      (leBytes 4 f.linkAddress.toNat ++ f.signature.toList))) := rfl
  rw [le16, drop_take_field h List.length_nil (length_leBytes 2 _), leNat_leBytes_uint16]

theorem AltFmh.le32_linkAddress : le32 f.bytes 4 = f.linkAddress := by
  have h : f.bytes = (leBytes 2 f.endSignature.toNat ++ [f.headerChecksum, f.reserved]) ++
      (leBytes 4 f.linkAddress.toNat ++ f.signature.toList) := by
    simp [AltFmh.bytes]
  rw [le32, drop_take_field h (by simp) (length_leBytes 4 _), ofNat_leBytes_uint32]

/-- The checksum makes the sum zero. -/
theorem AltFmh.validate_checksum (h : f.headerChecksum = 0) :
    validateModule100 { f with headerChecksum := calculateModule100 f.bytes }.bytes = 0 := by
  have hsum : ∀ c : UInt8, { f with headerChecksum := c }.bytes.sum = c + f.bytes.sum := by
    intro c
    rw [AltFmh.bytes, AltFmh.bytes]
    simp only [List.sum_append, List.sum_cons, h, zero_add]
    abel
  rw [validateModule100, hsum, calculateModule100, ← UInt8.neg_eq_not_add]
  exact neg_add_cancel _

end Alternate

/-! ## Whose headers are accepted -/

theorem checkForNormalFMH_uboot (allocatedSize : UInt32) (mod : ModuleInfo) :
    checkForNormalFMH (createFMH .uboot allocatedSize mod).bytes = some (createFMH .uboot allocatedSize mod).bytes := by
  have hsum : validateModule100 (createFMH .uboot allocatedSize mod).bytes = 0 := Fmh.validate_checksum _ rfl
  have hsignature : (createFMH .uboot allocatedSize mod).signature.toList = fmhSignature := rfl
  have hend : (createFMH .uboot allocatedSize mod).endSignature.toNat = fmhEndSignature := rfl
  rw [checkForNormalFMH, Fmh.take_signature, Fmh.le16_endSignature, if_neg (not_not.2 hsignature), if_neg (not_not.2 hend),
    if_neg (not_not.2 hsum)]

theorem checkForAlternateFMH_uboot (fmhOffset : UInt32) :
    checkForAlternateFMH (createAlternateFMH .uboot fmhOffset).bytes = fmhOffset := by
  have hsum : validateModule100 (createAlternateFMH .uboot fmhOffset).bytes = 0 := AltFmh.validate_checksum _ rfl
  have hsignature : (createAlternateFMH .uboot fmhOffset).signature.toList = fmhSignature := rfl
  have hend : (createAlternateFMH .uboot fmhOffset).endSignature.toNat = fmhEndSignature := rfl
  rw [checkForAlternateFMH, AltFmh.take_signature, AltFmh.le16_endSignature, AltFmh.le32_linkAddress,
    if_neg (not_not.2 hsignature), if_neg (not_not.2 hend), if_neg (not_not.2 hsum)]
  rfl

/-- The kernel's headers have no signature. -/
theorem checkForNormalFMH_kernel (allocatedSize : UInt32) (mod : ModuleInfo) :
    checkForNormalFMH (createFMH .kernel allocatedSize mod).bytes = none := by
  have hsignature : (createFMH .kernel allocatedSize mod).signature.toList ≠ fmhSignature := by
    change Creator.kernel.signature.1.toList ≠ fmhSignature
    decide
  rw [checkForNormalFMH, Fmh.take_signature, if_pos hsignature]

/-- **Headers.** They are accepted and read back exactly if the boot loader has written them. -/
theorem headerRoundTrip_iff (c : Creator) (allocatedSize fmhOffset : UInt32) (mod : ModuleInfo) :
    HeaderRoundTrip c allocatedSize fmhOffset mod ↔ c = .uboot := by
  constructor
  · intro h
    cases c with
    | uboot => rfl
    | kernel =>
      have haccepted := h.accepted
      rw [checkForNormalFMH_kernel] at haccepted
      cases haccepted
  · rintro rfl
    exact ⟨checkForNormalFMH_uboot _ _, Fmh.moduleInfoOf_bytes _, Fmh.le32_allocatedSize _,
      fun _ => checkForAlternateFMH_uboot _, fun _ _ _ _ hl hi hb => checkForNormalFMH_set hl hi hb,
      fun _ _ _ _ hl hi hb => checkForAlternateFMH_set hl hi hb⟩

/-- The header of an empty module that the kernel writes is not accepted. -/
theorem not_headerRoundTrip : ¬ ∀ (c : Creator) (allocatedSize fmhOffset : UInt32) (mod : ModuleInfo),
    HeaderRoundTrip c allocatedSize fmhOffset mod := by
  intro h
  have haccepted := (h .kernel 0 0 (Vector.replicate 38 0)).accepted
  rw [checkForNormalFMH_kernel] at haccepted
  cases haccepted

end BmcHelper
