import Bmc.Lib.Loop
import Bmc.Helper.Fmh

/-!
# Scans of the flash for modules

The kernel looks for the firmware information, `ScanFirmwareModule` of `fwinfo.c`; the boot loader lists the
modules and boots them, `ListFMH` and `BootFMH` of `002-fmh_core.patch`. The sectors of a module are skipped.

* `scanRound`: a round of the loop of the kernel; `listRound`: a round of the loops of the boot loader;
* **`scansSweep_iff`**: the loops end, and visit no sector twice, exactly when the size of each module that they
  come to leads on.
-/

namespace BmcHelper

open BmcLib

/-! ## The kernel -/

/-- `MODULE_BOOTLOADER`. -/
abbrev moduleBootloader : ℕ := 0x01

/-- `MODULE_FMH_FIRMWARE`. -/
abbrev moduleFmhFirmware : ℕ := 0x02

/-- `strncmp(mod->Module_Name, "pfm", sizeof("pfm")) == 0`. -/
def IsPfm (fmh : List UInt8) : Prop := (moduleName fmh).take 4 = [0x70, 0x66, 0x6D, 0]

instance (fmh : List UInt8) : Decidable (IsPfm fmh) := inferInstanceAs (Decidable (_ = _))

/-- `i` and `prev_fmh_sec_loc` of `ScanFirmwareModule`, and whether the loop is left by `break`. -/
structure ScanState where
  i : UInt32
  prevFmhSecLoc : UInt32
  found : Bool
  deriving DecidableEq, Repr

/-- A round of the loop of `ScanFirmwareModule`. -/
def scanRound (f : Flash) (flashStartOffset sectorSize : UInt32) (s : ScanState) : ScanState :=
  match scanforFMHUseReadFn f (flashStartOffset + s.i * sectorSize) sectorSize with
  | none => { s with i := s.i + 1 }
  | some fmh =>
    if moduleType fmh.header = moduleFmhFirmware then { s with found := true }
    else if moduleType fmh.header = moduleBootloader ∧ ¬ IsPfm fmh.header then
      let i := s.prevFmhSecLoc + fmhAllocatedSize fmh.header / sectorSize
      { s with i := i, prevFmhSecLoc := i }
    else if IsPfm fmh.header then { s with i := s.i + 1 }
    else
      let i := s.i + fmhAllocatedSize fmh.header / sectorSize
      { s with i := i, prevFmhSecLoc := i }

/-- The loop of `ScanFirmwareModule` goes on. -/
def scanGoesOn (sectorCount : UInt32) (s : ScanState) : Bool := !s.found && s.i < sectorCount

/-- The state that `ScanFirmwareModule` starts in. -/
def scanStart : ScanState := { i := 0, prevFmhSecLoc := 0, found := false }

/-! ## The boot loader -/

/-- The condition `(SkipSize > 0) && (i < SectorCount)`, with the signed `SkipSize` of 32 bits. -/
def skipGoesOn (sectorCount : UInt32) (p : Int32 × UInt32) : Bool := 0 < p.1 && p.2 < sectorCount

/-- A sector is skipped. -/
def skipRound (sectorSize : UInt32) (p : Int32 × UInt32) : Int32 × UInt32 := (p.1 - sectorSize.toInt32, p.2 + 1)

/-- The sectors of a module are skipped. -/
def skipSectors (sectorSize sectorCount : UInt32) (skipSize : Int32) (i : UInt32) : UInt32 :=
  (whileN (skipGoesOn sectorCount) (skipRound sectorSize) sectorCount.toNat (skipSize, i)).2

/-- `SkipSize` of a module that is found at the sector `i`. -/
def skipSizeOf (fmh : List UInt8) (sectorSize i : UInt32) : Int32 :=
  if moduleLocation fmh < i * sectorSize then sectorSize.toInt32 else (fmhAllocatedSize fmh).toInt32

/-- A round of the loop of `ListFMH`, and of the loop of `BootFMH`. -/
def listRound (f : Flash) (sectorSize sectorCount i : UInt32) : UInt32 :=
  match scanforFMHUboot f (i * sectorSize) sectorSize with
  | none => i + 1
  | some fmh => skipSectors sectorSize sectorCount (skipSizeOf fmh.header sectorSize i) i

/-- `StartingSector` and `SectorCount` of `BootFMH`, for the first image and the second. -/
def bootSectors (secondImage : Bool) (usedFlashSize sectorSize : UInt32) : UInt32 × UInt32 :=
  if secondImage then (usedFlashSize / sectorSize, 2 * usedFlashSize / sectorSize)
  else (0, usedFlashSize / sectorSize)

/-! ## Skipping sectors -/

variable {f : Flash} {sectorSize sectorCount i j : UInt32}

theorem toNat_add_one_of_lt (hi : i < sectorCount) : (i + 1).toNat = i.toNat + 1 := by
  have := UInt32.lt_iff_toNat_lt.1 hi
  have := sectorCount.toNat_lt
  rw [UInt32.toNat_add]
  change (i.toNat + 1) % 2 ^ 32 = i.toNat + 1
  omega

theorem skipGoesOn_iff {p : Int32 × UInt32} : skipGoesOn sectorCount p = true ↔ 0 < p.1 ∧ p.2 < sectorCount := by
  rw [skipGoesOn, Bool.and_eq_true, decide_eq_true_iff, decide_eq_true_iff]

/-- The rounds of `skipSectors` are enough: the loop has ended. -/
theorem skipSectors_done (sectorSize sectorCount : UInt32) (skipSize : Int32) (i : UInt32) :
    skipGoesOn sectorCount
      (whileN (skipGoesOn sectorCount) (skipRound sectorSize) sectorCount.toNat (skipSize, i)) = false := by
  refine whileN_done (P := fun _ => True) (fun p => sectorCount.toNat - p.2.toNat) (fun p _ hp => ?_) trivial
    (Nat.sub_le _ _)
  have hlt : p.2 < sectorCount := (skipGoesOn_iff.1 hp).2
  have := UInt32.lt_iff_toNat_lt.1 hlt
  have hnext : (skipRound sectorSize p).2.toNat = p.2.toNat + 1 := toNat_add_one_of_lt hlt
  exact ⟨trivial, by omega⟩

/-- **A positive size leads on.** -/
theorem lt_skipSectors_iff {skipSize : Int32} (hi : i < sectorCount) :
    i < skipSectors sectorSize sectorCount skipSize i ↔ 0 < skipSize := by
  rw [skipSectors]
  by_cases hskip : 0 < skipSize
  · refine iff_of_true ?_ hskip
    obtain ⟨n, hn⟩ : ∃ n, sectorCount.toNat = n + 1 :=
      Nat.exists_eq_succ_of_ne_zero (Nat.ne_zero_of_lt (UInt32.lt_iff_toNat_lt.1 hi))
    rw [hn, whileN_succ_pos (skipGoesOn_iff.2 ⟨hskip, hi⟩), UInt32.lt_iff_toNat_lt]
    refine whileN_inv (P := fun p : Int32 × UInt32 => i.toNat < p.2.toNat) (fun p hp hc => ?_) ?_ n
    · have hnext : (skipRound sectorSize p).2.toNat = p.2.toNat + 1 :=
        toNat_add_one_of_lt (skipGoesOn_iff.1 hc).2
      omega
    · have hnext : (skipRound sectorSize (skipSize, i)).2.toNat = i.toNat + 1 := toNat_add_one_of_lt hi
      omega
  · refine iff_of_false ?_ hskip
    rw [whileN_of_exit (Bool.eq_false_iff.2 fun h => hskip (skipGoesOn_iff.1 h).1)]
    exact UInt32.lt_irrefl i

/-- A size is positive as a signed number of 32 bits. -/
theorem toInt32_pos_iff (n : UInt32) : 0 < n.toInt32 ↔ 0 < n ∧ n < 0x80000000 := by
  have hn := n.toNat_lt
  have hbmod : n.toInt32.toInt = Int.bmod n.toNat (2 ^ 32) := by
    rw [← Int32.toInt_toBitVec, UInt32.toBitVec_toInt32, BitVec.toInt_eq_toNat_bmod]
    rfl
  rw [Int32.lt_iff_toInt_lt, UInt32.lt_iff_toNat_lt, UInt32.lt_iff_toNat_lt, hbmod, Int.bmod]
  change 0 < _ ↔ 0 < n.toNat ∧ n.toNat < 2147483648
  split_ifs <;> omega

/-! ## What leads on -/

/-- The module that the kernel finds at a sector, if any, leads on: a boot loader by its size from the sector before
it, others by their size, which is a sector or more. The sector numbers have 32 bits. -/
def ScanLeadsOn (f : Flash) (flashStartOffset sectorSize : UInt32) (s : ScanState) : Prop :=
  ∀ fmh, scanforFMHUseReadFn f (flashStartOffset + s.i * sectorSize) sectorSize = some fmh →
    moduleType fmh.header ≠ moduleFmhFirmware → ¬ IsPfm fmh.header →
    if moduleType fmh.header = moduleBootloader then
      s.i < s.prevFmhSecLoc + fmhAllocatedSize fmh.header / sectorSize
    else sectorSize ≤ fmhAllocatedSize fmh.header ∧
      s.i.toNat + (fmhAllocatedSize fmh.header).toNat / sectorSize.toNat < 2 ^ 32

/-- The module that the boot loader finds at a sector, if any, leads on: the size of a sector, behind the module, or
of the module is positive as a signed number. -/
def ListLeadsOn (f : Flash) (sectorSize i : UInt32) : Prop :=
  ∀ fmh, scanforFMHUboot f (i * sectorSize) sectorSize = some fmh →
    if moduleLocation fmh.header < i * sectorSize then sectorSize < 0x80000000
    else 0 < fmhAllocatedSize fmh.header ∧ fmhAllocatedSize fmh.header < 0x80000000

theorem lt_add_iff {q : UInt32} : i < i + q ↔ 0 < q ∧ i.toNat + q.toNat < 2 ^ 32 := by
  have hi := i.toNat_lt
  have hq := q.toNat_lt
  rw [UInt32.lt_iff_toNat_lt, UInt32.lt_iff_toNat_lt, UInt32.toNat_add]
  change i.toNat < (i.toNat + q.toNat) % 2 ^ 32 ↔ 0 < q.toNat ∧ _
  rcases Nat.lt_or_ge (i.toNat + q.toNat) (2 ^ 32) with h | h
  · rw [Nat.mod_eq_of_lt h]
    omega
  · rw [Nat.mod_eq_sub_mod h, Nat.mod_eq_of_lt (by omega)]
    omega

/-- A next sector that is behind the last one is a greater one, too. -/
theorem lt_of_lt_iff (hi : i < sectorCount) : (j < sectorCount → i < j) ↔ i < j := by
  constructor
  · intro h
    by_cases hj : j < sectorCount
    · exact h hj
    · exact UInt32.lt_of_lt_of_le hi (UInt32.not_lt.1 hj)
  · exact fun h _ => h

theorem pos_of_lt_div {flashSize : UInt32} (hi : i < flashSize / sectorSize) : 0 < sectorSize.toNat := by
  have hlt := UInt32.lt_iff_toNat_lt.1 hi
  rw [UInt32.toNat_div] at hlt
  rcases Nat.eq_zero_or_pos sectorSize.toNat with hzero | hpos
  · rw [hzero, Nat.div_zero] at hlt
    exact absurd hlt (Nat.not_lt_zero _)
  · exact hpos

theorem scanGoesOn_iff {s : ScanState} : scanGoesOn sectorCount s = true ↔ s.found = false ∧ s.i < sectorCount := by
  rw [scanGoesOn, Bool.and_eq_true, Bool.not_eq_true', decide_eq_true_iff]

/-- **A round of the kernel's scan.** -/
theorem scanRound_lt_iff {flashStartOffset flashSize : UInt32} {s : ScanState}
    (hs : scanGoesOn (flashSize / sectorSize) s = true) :
    (scanGoesOn (flashSize / sectorSize) (scanRound f flashStartOffset sectorSize s) = true →
        s.i.toNat < (scanRound f flashStartOffset sectorSize s).i.toNat) ↔
      ScanLeadsOn f flashStartOffset sectorSize s := by
  obtain ⟨hfound, hi⟩ := scanGoesOn_iff.1 hs
  have hpos := pos_of_lt_div hi
  have hone : s.i < s.i + 1 := by
    rw [UInt32.lt_iff_toNat_lt, toNat_add_one_of_lt hi]
    exact Nat.lt_succ_self _
  -- a round that does not leave the loop by `break` is judged by the sector it leads to
  have hmove : ∀ s' : ScanState, s'.found = false →
      ((scanGoesOn (flashSize / sectorSize) s' = true → s.i.toNat < s'.i.toNat) ↔ s.i < s'.i) := by
    intro s' hs'
    rw [scanGoesOn_iff, ← UInt32.lt_iff_toNat_lt]
    exact ⟨fun h => (lt_of_lt_iff hi).1 fun hj => h ⟨hs', hj⟩, fun h _ => h⟩
  rw [scanRound, ScanLeadsOn]
  cases hscan : scanforFMHUseReadFn f (flashStartOffset + s.i * sectorSize) sectorSize with
  | none => exact iff_of_true (fun _ => UInt32.lt_iff_toNat_lt.1 hone) fun _ h => absurd h (Option.some_ne_none _).symm
  | some fmh =>
    simp only [Option.some.injEq, forall_eq']
    by_cases hfirm : moduleType fmh.header = moduleFmhFirmware
    · rw [if_pos hfirm]
      exact iff_of_true (fun h => Bool.noConfusion (scanGoesOn_iff.1 h).1) fun hne => absurd hfirm hne
    rw [if_neg hfirm]
    by_cases hpfm : IsPfm fmh.header
    · rw [if_neg fun h => h.2 hpfm, if_pos hpfm]
      exact iff_of_true (fun _ => UInt32.lt_iff_toNat_lt.1 hone) fun _ hno => absurd hpfm hno
    by_cases hboot : moduleType fmh.header = moduleBootloader
    · rw [if_pos ⟨hboot, hpfm⟩, if_pos hboot, hmove]
      · exact ⟨fun h _ _ => h, fun h => h hfirm hpfm⟩
      · exact hfound
    · have hsize : s.i < s.i + fmhAllocatedSize fmh.header / sectorSize ↔
          sectorSize ≤ fmhAllocatedSize fmh.header ∧
            s.i.toNat + (fmhAllocatedSize fmh.header).toNat / sectorSize.toNat < 2 ^ 32 := by
        rw [lt_add_iff, UInt32.lt_iff_toNat_lt, UInt32.toNat_div, UInt32.le_iff_toNat_le]
        exact and_congr_left fun _ => by rw [UInt32.toNat_zero, Nat.div_pos_iff, and_iff_right hpos]
      rw [if_neg fun h => hboot h.1, if_neg hpfm, if_neg hboot, hmove, hsize]
      · exact ⟨fun h _ _ => h, fun h => h hfirm hpfm⟩
      · exact hfound

/-- **A round of the boot loader's scans.** -/
theorem listRound_lt_iff (hs : 0 < sectorSize) (hi : i < sectorCount) :
    (listRound f sectorSize sectorCount i < sectorCount → i < listRound f sectorSize sectorCount i) ↔
      ListLeadsOn f sectorSize i := by
  rw [lt_of_lt_iff hi, listRound, ListLeadsOn]
  cases hscan : scanforFMHUboot f (i * sectorSize) sectorSize with
  | none =>
    refine iff_of_true ?_ fun _ h => absurd h (Option.some_ne_none _).symm
    change i < i + 1
    rw [UInt32.lt_iff_toNat_lt, toNat_add_one_of_lt hi]
    exact Nat.lt_succ_self _
  | some fmh =>
    simp only [Option.some.injEq, forall_eq']
    rw [lt_skipSectors_iff hi, skipSizeOf]
    by_cases hloc : moduleLocation fmh.header < i * sectorSize
    · rw [if_pos hloc, if_pos hloc, toInt32_pos_iff, and_iff_right hs]
    · rw [if_neg hloc, if_neg hloc, toInt32_pos_iff]

/-! ## The scans -/

/-- The scan of the boot loader, from `startingSector` on. -/
def ListSweeps (f : Flash) (sectorSize startingSector sectorCount : UInt32) : Prop :=
  Sweeps (fun i => decide (i < sectorCount)) (listRound f sectorSize sectorCount) UInt32.toNat startingSector

/-- The modules that the scan of the boot loader comes to all lead on. -/
def ListAllLeadOn (f : Flash) (sectorSize startingSector sectorCount : UInt32) : Prop :=
  ∀ k, whileN (fun i => decide (i < sectorCount)) (listRound f sectorSize sectorCount) k startingSector <
      sectorCount →
    ListLeadsOn f sectorSize
      (whileN (fun i => decide (i < sectorCount)) (listRound f sectorSize sectorCount) k startingSector)

theorem listSweeps_iff (f : Flash) (startingSector : UInt32) (hs : ∀ i, i < sectorCount → 0 < sectorSize) :
    ListSweeps f sectorSize startingSector sectorCount ↔ ListAllLeadOn f sectorSize startingSector sectorCount := by
  rw [ListSweeps, sweeps_iff sectorCount.toNat]
  · refine forall_congr' fun k => ?_
    rw [decide_eq_true_iff, decide_eq_true_iff, ← UInt32.lt_iff_toNat_lt]
    exact ⟨fun h hk => (listRound_lt_iff (hs _ hk) hk).1 (h hk), fun h hk =>
      (listRound_lt_iff (hs _ hk) hk).2 (h hk)⟩
  · exact fun i hi => UInt32.lt_iff_toNat_lt.1 (of_decide_eq_true hi)

/-- The scan of the kernel, of the flash from `flashStartOffset` on. -/
def ScanSweeps (f : Flash) (flashStartOffset flashSize sectorSize : UInt32) : Prop :=
  Sweeps (scanGoesOn (flashSize / sectorSize)) (scanRound f flashStartOffset sectorSize) (fun s => s.i.toNat)
    scanStart

/-- The modules that the scan of the kernel comes to all lead on. -/
def ScanAllLeadOn (f : Flash) (flashStartOffset flashSize sectorSize : UInt32) : Prop :=
  ∀ k, scanGoesOn (flashSize / sectorSize)
      (whileN (scanGoesOn (flashSize / sectorSize)) (scanRound f flashStartOffset sectorSize) k scanStart) = true →
    ScanLeadsOn f flashStartOffset sectorSize
      (whileN (scanGoesOn (flashSize / sectorSize)) (scanRound f flashStartOffset sectorSize) k scanStart)

theorem scanSweeps_iff (f : Flash) (flashStartOffset flashSize sectorSize : UInt32) :
    ScanSweeps f flashStartOffset flashSize sectorSize ↔
      ScanAllLeadOn f flashStartOffset flashSize sectorSize := by
  rw [ScanSweeps, sweeps_iff (flashSize / sectorSize).toNat]
  · refine forall_congr' fun k => ?_
    exact ⟨fun h hk => (scanRound_lt_iff hk).1 (h hk), fun h hk => (scanRound_lt_iff hk).2 (h hk)⟩
  · exact fun s hs => UInt32.lt_iff_toNat_lt.1 (scanGoesOn_iff.1 hs).2

/-- There are sectors, so that their size is not zero. -/
theorem pos_of_lt_bootSectors {secondImage : Bool} {usedFlashSize : UInt32}
    (hi : i < (bootSectors secondImage usedFlashSize sectorSize).2) : 0 < sectorSize := by
  rw [UInt32.lt_iff_toNat_lt]
  cases secondImage with
  | false => exact pos_of_lt_div hi
  | true => exact pos_of_lt_div hi

/-- **The scans of the kernel and of the boot loader end, and visit no sector twice, exactly when the modules that
they come to lead on.** -/
theorem scansSweep_iff (f : Flash) (flashStartOffset flashSize sectorSize : UInt32) (secondImage : Bool) :
    (ScanSweeps f flashStartOffset flashSize sectorSize ↔
        ScanAllLeadOn f flashStartOffset flashSize sectorSize) ∧
      (ListSweeps f sectorSize 0 (flashSize / sectorSize) ↔
        ListAllLeadOn f sectorSize 0 (flashSize / sectorSize)) ∧
      (ListSweeps f sectorSize (bootSectors secondImage flashSize sectorSize).1
          (bootSectors secondImage flashSize sectorSize).2 ↔
        ListAllLeadOn f sectorSize (bootSectors secondImage flashSize sectorSize).1
          (bootSectors secondImage flashSize sectorSize).2) :=
  ⟨scanSweeps_iff f flashStartOffset flashSize sectorSize,
    listSweeps_iff f 0 fun _ hi => UInt32.lt_iff_toNat_lt.2 (pos_of_lt_div hi),
    listSweeps_iff f _ fun _ hi => pos_of_lt_bootSectors hi⟩

/-- A flash of two sectors, with a header at its start that gives its module no size. -/
def flashEmptyModule : Flash where
  size := 8192
  byte n := (fmhSignature ++ [1, 8, 64, 0, 0, 0, 0, 0, 0, 0, 0, 0, 0, 0, 0, 0xAA] ++ List.replicate 38 0 ++
    [0xAA, 0x55]).getD n 0xFF

/-- **A module without a size holds up all three scans.** -/
theorem not_scansSweep : ¬ ScanSweeps flashEmptyModule 0 8192 4096 ∧ ¬ ListSweeps flashEmptyModule 4096 0 2 ∧
    ¬ ListSweeps flashEmptyModule 4096 (bootSectors false 8192 4096).1 (bootSectors false 8192 4096).2 := by
  have hlist : ¬ ListSweeps flashEmptyModule 4096 0 2 := fun h =>
    absurd (h.increasing 0 1 Nat.one_pos (by decide +kernel)) (by decide +kernel)
  exact ⟨fun h => absurd (h.increasing 0 1 Nat.one_pos (by decide +kernel)) (by decide +kernel), hlist, hlist⟩

end BmcHelper
