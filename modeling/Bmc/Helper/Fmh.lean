import Mathlib
import Bmc.Lib.Endian

/-!
# Flash module headers

The modules of a firmware image are found by their headers: a header stands at the start of an erase block,
or a short alternate header at the end of the block links to it. The kernel helper searches the mapped flash
or reads it, `fmhcore.c`, and the boot loader reads it, `002-fmh_core.patch`.

* `checkForNormalFMH`, `checkForAlternateFMH`: valid headers;
* `scanforFMH`, `scanforFMHUseReadFn`, `scanforFMHUboot`: the three searches of a sector;
* `SameModule`: they find the same module; **`sameModule_iff`**: when they do.
-/

namespace BmcHelper

open BmcLib

/-- `INVALID_FMH_OFFSET`. -/
abbrev invalidFmhOffset : UInt32 := 0xFFFFFFFF

/-- `FMH_SIGNATURE`: `$MODULE$`. -/
def fmhSignature : List UInt8 := [0x24, 0x4D, 0x4F, 0x44, 0x55, 0x4C, 0x45, 0x24]

/-- `FMH_END_SIGNATURE`. -/
abbrev fmhEndSignature : ℕ := 0x55AA

/-- `sizeof(FMH)`. -/
abbrev sizeofFmh : ℕ := 64

/-- `sizeof(ALT_FMH)`. -/
abbrev sizeofAltFmh : ℕ := 16

/-- A flash of `size` bytes, with what is read at an address, beyond its end as well. -/
structure Flash where
  size : ℕ
  byte : ℕ → UInt8

/-- `n` bytes from the address on. -/
def Flash.read (f : Flash) (addr : UInt32) (n : ℕ) : List UInt8 := slice f.byte addr.toNat n

/-- `le16_to_host` of a field. -/
def le16 (l : List UInt8) (offset : ℕ) : ℕ := leNat ((l.drop offset).take 2)

/-- `le32_to_host` of a field. -/
def le32 (l : List UInt8) (offset : ℕ) : UInt32 := UInt32.ofNat (leNat ((l.drop offset).take 4))

/-- `ValidateModule100`. -/
def validateModule100 (buffer : List UInt8) : UInt8 := buffer.sum

/-! ## The fields of a header -/

/-- `FMH_AllocatedSize`. -/
def fmhAllocatedSize (fmh : List UInt8) : UInt32 := le32 fmh 12

/-- `Module_Name` of the `Module_Info`. -/
def moduleName (fmh : List UInt8) : List UInt8 := (fmh.drop 24).take 8

/-- `Module_Type` of the `Module_Info`. -/
def moduleType (fmh : List UInt8) : ℕ := le16 fmh 34

/-- `Module_Location` of the `Module_Info`. -/
def moduleLocation (fmh : List UInt8) : UInt32 := le32 fmh 36

/-- `CheckForNormalFMH`, of the 64 bytes of a header. -/
def checkForNormalFMH (fmh : List UInt8) : Option (List UInt8) :=
  if fmh.take 8 ≠ fmhSignature then none
  else if le16 fmh 62 ≠ fmhEndSignature then none
  else if validateModule100 fmh ≠ 0 then none
  else some fmh

/-- `CheckForAlternateFMH`, of the 16 bytes of an alternate header: the link address. -/
def checkForAlternateFMH (altfmh : List UInt8) : UInt32 :=
  if (altfmh.drop 8).take 8 ≠ fmhSignature then invalidFmhOffset
  else if le16 altfmh 0 ≠ fmhEndSignature then invalidFmhOffset
  else if validateModule100 altfmh ≠ 0 then invalidFmhOffset
  else le32 altfmh 4

/-! ## The three searches -/

/-- A header that a search accepts, and the address that it is read from. -/
structure Found where
  addr : UInt32
  header : List UInt8
  deriving DecidableEq, Repr

/-- `CheckForNormalFMH` at an address. -/
def Flash.normalAt (f : Flash) (addr : UInt32) : Option Found :=
  (checkForNormalFMH (f.read addr sizeofFmh)).map fun h => { addr := addr, header := h }

/-- `CheckForAlternateFMH` at the end of a sector. -/
def Flash.linkOf (f : Flash) (sectorAddr sectorSize : UInt32) : UInt32 :=
  checkForAlternateFMH (f.read (sectorAddr + sectorSize - 16) sizeofAltFmh)

/-- `ScanforFMH` of the kernel helper, on mapped flash: addresses count from the start of the mapping. -/
def scanforFMH (f : Flash) (sectorAddr sectorSize : UInt32) : Option Found :=
  match f.normalAt sectorAddr with
  | some fmh => some fmh
  | none =>
    let fmhOffset := f.linkOf sectorAddr sectorSize
    if fmhOffset = invalidFmhOffset then none
    else if sectorSize < fmhOffset then f.normalAt (sectorAddr + fmhOffset % sectorSize)
    else f.normalAt (sectorAddr + fmhOffset)

/-- `ScanforFMH_UseReadFn` of the kernel helper. -/
def scanforFMHUseReadFn (f : Flash) (flashOffset sectorSize : UInt32) : Option Found :=
  match f.normalAt flashOffset with
  | some fmh => some fmh
  | none =>
    let fmhOffset := f.linkOf flashOffset sectorSize
    if fmhOffset = invalidFmhOffset then none
    else if flashOffset < sectorSize then f.normalAt fmhOffset
    else f.normalAt (flashOffset + fmhOffset)

/-- `ScanforFMH` of the boot loader, with a single flash bank. -/
def scanforFMHUboot (f : Flash) (sectorAddr sectorSize : UInt32) : Option Found :=
  match f.normalAt sectorAddr with
  | some fmh => some fmh
  | none =>
    let fmhOffset := f.linkOf sectorAddr sectorSize
    if fmhOffset = invalidFmhOffset then none
    else f.normalAt fmhOffset

/-! ## Agreement -/

/-- The module of a sector as the headers are declared: the link of an alternate header counts from the start of
its erase block. -/
def declaredFMH (f : Flash) (sectorAddr sectorSize : UInt32) : Option Found :=
  match f.normalAt sectorAddr with
  | some fmh => some fmh
  | none =>
    if f.linkOf sectorAddr sectorSize = invalidFmhOffset then none
    else f.normalAt (sectorAddr + f.linkOf sectorAddr sectorSize)

/-- A search finds the module of the sector, and reads its header from inside the flash. -/
structure FindsModule (f : Flash) (sectorAddr sectorSize : UInt32) (scan : Option Found) : Prop where
  header : scan.map Found.header = (declaredFMH f sectorAddr sectorSize).map Found.header
  inside : ∀ fmh, scan = some fmh → fmh.addr.toNat + sizeofFmh ≤ f.size

/-- The boot loader and the kernel find the module of the sector. -/
structure SameModule (f : Flash) (sectorAddr sectorSize : UInt32) : Prop where
  mapped : FindsModule f sectorAddr sectorSize (scanforFMH f sectorAddr sectorSize)
  useReadFn : FindsModule f sectorAddr sectorSize (scanforFMHUseReadFn f sectorAddr sectorSize)
  uboot : FindsModule f sectorAddr sectorSize (scanforFMHUboot f sectorAddr sectorSize)

/-- A header at the address is in the flash, and is the one at the address `declared`, which has none either when
there is none. -/
def Flash.Carries (f : Flash) (declared addr : UInt32) : Prop :=
  (f.normalAt addr).map Found.header = (f.normalAt declared).map Found.header ∧
    ∀ fmh, f.normalAt addr = some fmh → addr.toNat + sizeofFmh ≤ f.size

/-- What the three searches may take a link for: an offset from the start of its sector, an offset that is reduced
to its sector, an offset into the flash. -/
def LinkAgrees (f : Flash) (sectorAddr sectorSize link : UInt32) : Prop :=
  (sectorSize ≤ sectorAddr ∨ link ≤ sectorSize → f.Carries (sectorAddr + link) (sectorAddr + link)) ∧
    (sectorSize < link → f.Carries (sectorAddr + link) (sectorAddr + link % sectorSize)) ∧
    f.Carries (sectorAddr + link) link

theorem addr_of_normalAt {f : Flash} {addr : UInt32} {fmh : Found} (h : f.normalAt addr = some fmh) :
    fmh.addr = addr := by
  obtain ⟨-, -, rfl⟩ := Option.map_eq_some_iff.1 h
  rfl

variable {f : Flash} {sectorAddr sectorSize : UInt32}

theorem declaredFMH_of_normal {fmh : Found} (h : f.normalAt sectorAddr = some fmh) :
    declaredFMH f sectorAddr sectorSize = some fmh := by
  rw [declaredFMH, h]

theorem findsModule_of_normal {fmh : Found} (h : f.normalAt sectorAddr = some fmh) :
    FindsModule f sectorAddr sectorSize (some fmh) ↔ sectorAddr.toNat + sizeofFmh ≤ f.size := by
  constructor
  · intro hfinds
    rw [← addr_of_normalAt h]
    exact hfinds.inside fmh rfl
  · intro hin
    refine ⟨by rw [declaredFMH_of_normal h], fun fmh' hfmh => ?_⟩
    obtain rfl := Option.some_inj.1 hfmh
    rwa [addr_of_normalAt h]

/-- The header is read at an address that is made of the link. -/
theorem findsModule_normalAt (hno : f.normalAt sectorAddr = none)
    (hlink : f.linkOf sectorAddr sectorSize ≠ invalidFmhOffset) (addr : UInt32) :
    FindsModule f sectorAddr sectorSize (f.normalAt addr) ↔
      f.Carries (sectorAddr + f.linkOf sectorAddr sectorSize) addr := by
  have hdecl : declaredFMH f sectorAddr sectorSize =
      f.normalAt (sectorAddr + f.linkOf sectorAddr sectorSize) := by
    rw [declaredFMH, hno]
    exact if_neg hlink
  constructor
  · intro hfinds
    refine ⟨by rw [hfinds.header, hdecl], fun fmh hfmh => ?_⟩
    rw [← addr_of_normalAt hfmh]
    exact hfinds.inside fmh hfmh
  · intro hcarries
    refine ⟨by rw [hcarries.1, hdecl], fun fmh hfmh => ?_⟩
    rw [addr_of_normalAt hfmh]
    exact hcarries.2 fmh hfmh

theorem findsModule_none (hno : f.normalAt sectorAddr = none)
    (hlink : f.linkOf sectorAddr sectorSize = invalidFmhOffset) : FindsModule f sectorAddr sectorSize none := by
  refine ⟨?_, fun fmh hfmh => absurd hfmh (Option.some_ne_none fmh).symm⟩
  rw [declaredFMH, hno]
  exact (congrArg (Option.map Found.header) (if_pos hlink)).symm

/-- **The boot loader and the kernel find the same module exactly when the link means the same to them.** -/
theorem sameModule_iff (f : Flash) (sectorAddr sectorSize : UInt32) :
    SameModule f sectorAddr sectorSize ↔
      (f.normalAt sectorAddr ≠ none → sectorAddr.toNat + sizeofFmh ≤ f.size) ∧
        (f.normalAt sectorAddr = none → f.linkOf sectorAddr sectorSize ≠ invalidFmhOffset →
          LinkAgrees f sectorAddr sectorSize (f.linkOf sectorAddr sectorSize)) := by
  have hsplit : SameModule f sectorAddr sectorSize ↔
      FindsModule f sectorAddr sectorSize (scanforFMH f sectorAddr sectorSize) ∧
        FindsModule f sectorAddr sectorSize (scanforFMHUseReadFn f sectorAddr sectorSize) ∧
          FindsModule f sectorAddr sectorSize (scanforFMHUboot f sectorAddr sectorSize) :=
    ⟨fun h => ⟨h.mapped, h.useReadFn, h.uboot⟩, fun h => ⟨h.1, h.2.1, h.2.2⟩⟩
  rw [hsplit, scanforFMH, scanforFMHUseReadFn, scanforFMHUboot]
  cases hnormal : f.normalAt sectorAddr with
  | some fmh =>
    simp only [findsModule_of_normal hnormal, and_self, ne_eq, reduceCtorEq, not_false_eq_true, forall_const,
      IsEmpty.forall_iff, and_true]
  | none =>
    simp only [ne_eq, not_true_eq_false, IsEmpty.forall_iff, true_and, forall_const]
    by_cases hlink : f.linkOf sectorAddr sectorSize = invalidFmhOffset
    · simp only [hlink, if_true, findsModule_none hnormal hlink, and_self, not_true_eq_false, IsEmpty.forall_iff]
    · simp only [hlink, if_false, not_false_eq_true, forall_const]
      have hfinds := findsModule_normalAt hnormal hlink
      have hmapped : FindsModule f sectorAddr sectorSize
          (if sectorSize < f.linkOf sectorAddr sectorSize
            then f.normalAt (sectorAddr + f.linkOf sectorAddr sectorSize % sectorSize)
            else f.normalAt (sectorAddr + f.linkOf sectorAddr sectorSize)) ↔
          (f.linkOf sectorAddr sectorSize ≤ sectorSize → f.Carries (sectorAddr + f.linkOf sectorAddr sectorSize)
            (sectorAddr + f.linkOf sectorAddr sectorSize)) ∧
          (sectorSize < f.linkOf sectorAddr sectorSize → f.Carries (sectorAddr + f.linkOf sectorAddr sectorSize)
            (sectorAddr + f.linkOf sectorAddr sectorSize % sectorSize)) := by
        by_cases hlt : sectorSize < f.linkOf sectorAddr sectorSize
        · rw [if_pos hlt, hfinds]
          exact ⟨fun h => ⟨fun hle => absurd hle (UInt32.not_le.2 hlt), fun _ => h⟩, fun h => h.2 hlt⟩
        · rw [if_neg hlt, hfinds]
          exact ⟨fun h => ⟨fun _ => h, fun hlt' => absurd hlt' hlt⟩, fun h => h.1 (UInt32.not_lt.1 hlt)⟩
      have hread : FindsModule f sectorAddr sectorSize
          (if sectorAddr < sectorSize then f.normalAt (f.linkOf sectorAddr sectorSize)
            else f.normalAt (sectorAddr + f.linkOf sectorAddr sectorSize)) ↔
          (sectorAddr < sectorSize →
            f.Carries (sectorAddr + f.linkOf sectorAddr sectorSize) (f.linkOf sectorAddr sectorSize)) ∧
          (sectorSize ≤ sectorAddr → f.Carries (sectorAddr + f.linkOf sectorAddr sectorSize)
            (sectorAddr + f.linkOf sectorAddr sectorSize)) := by
        by_cases hlt : sectorAddr < sectorSize
        · rw [if_pos hlt, hfinds]
          exact ⟨fun h => ⟨fun _ => h, fun hle => absurd hle (UInt32.not_le.2 hlt)⟩, fun h => h.1 hlt⟩
        · rw [if_neg hlt, hfinds]
          exact ⟨fun h => ⟨fun hlt' => absurd hlt' hlt, fun _ => h⟩, fun h => h.2 (UInt32.not_lt.1 hlt)⟩
      rw [hmapped, hread, hfinds, LinkAgrees]
      constructor
      · rintro ⟨⟨hin, hreduced⟩, ⟨-, hstart⟩, habsolute⟩
        exact ⟨fun h => h.elim hstart hin, hreduced, habsolute⟩
      · rintro ⟨hin, hreduced, habsolute⟩
        exact ⟨⟨fun h => hin (.inr h), hreduced⟩, ⟨fun _ => habsolute, fun h => hin (.inl h)⟩, habsolute⟩

/-- A header of a module of 4096 bytes. -/
def headerSample : List UInt8 :=
  fmhSignature ++ [1, 8, 64, 0, 0, 16, 0, 0, 0, 0, 0, 0, 0, 0, 0, 0x9A] ++ List.replicate 38 0 ++ [0xAA, 0x55]

/-- An alternate header that links to the offset 128. -/
def altHeaderSample : List UInt8 := [0xAA, 0x55, 0x73, 0, 128, 0, 0, 0] ++ fmhSignature

/-- Two sectors of 4096 bytes. The second one ends in an alternate header, whose link counts from its start. -/
def flashSample : Flash where
  size := 8192
  byte n :=
    if 4224 ≤ n ∧ n < 4288 then headerSample.getD (n - 4224) 0xFF
    else if 8176 ≤ n ∧ n < 8192 then altHeaderSample.getD (n - 8176) 0xFF
    else 0xFF

/-- **The boot loader takes the link for an offset into the flash.** -/
theorem not_sameModule_second : ¬ SameModule flashSample 4096 4096 := by
  intro h
  have hkernel : (scanforFMHUseReadFn flashSample 4096 4096).map Found.header = some headerSample := by
    decide +kernel
  have huboot : (scanforFMHUboot flashSample 4096 4096).map Found.header = none := by decide +kernel
  rw [h.useReadFn.header] at hkernel
  rw [h.uboot.header, hkernel] at huboot
  exact Option.some_ne_none _ huboot

end BmcHelper
