import Bmc.Helper.Fmh

/-!
# Recovery from an image in memory

`VerifyandFlash` of `011-bmc_auto_recovery_feature.patch` looks for a firmware module in the image, `VerifyRAMImage`, and brings
every sector of the flash to the image but for those of the environment. What it reads while it looks for headers is counted from
the start of the block.

* `RecoveryConfig`: the sizes, with an environment region that is aligned to erase blocks;
* `scanforFMHRAM`, `verifyRAMImage`: the search for the firmware module;
* `Attempt`, `retryLoop`, `flashSector`, `verifyandFlash`: the sectors, with reads, erases and writes that can fail;
* `RecoveryExact`: success means that the flash equals the image, the environment is kept, nothing is changed without a firmware
  module, and the search stays within the block;
* **`recoveryExact_iff`**: the exact condition on the links of the alternate headers and on what the flash answers;
* `not_recoveryExact_reerase`: a sector that could not be erased again.
-/

namespace BmcBoot

open BmcLib BmcHelper

/-- The sizes of the configuration. The environment is aligned to erase blocks, and a header fits into a block. -/
structure RecoveryConfig where
  eraseBlockSize : ℕ
  usedFlashSize : ℕ
  flashStart : ℕ
  ubootEnvStart : ℕ
  ubootEnvSize : ℕ
  headerFits : sizeofFmh ≤ eraseBlockSize
  envBehindStart : flashStart ≤ ubootEnvStart
  envStartAligned : eraseBlockSize ∣ ubootEnvStart - flashStart
  envSizeAligned : eraseBlockSize ∣ ubootEnvSize

namespace RecoveryConfig

variable (c : RecoveryConfig)

/-- `TotalSectorCnt` -/
def totalSectorCnt : ℕ := c.usedFlashSize / c.eraseBlockSize

/-- The offset lies in the environment. -/
def inEnv (offset : ℕ) : Bool :=
  c.ubootEnvStart - c.flashStart ≤ offset ∧ offset < c.ubootEnvStart - c.flashStart + c.ubootEnvSize

end RecoveryConfig

/-! ## The image -/

/-- The buffer `TempBuf` with a block of the image, and the memory behind it. -/
def tempBuf (c : RecoveryConfig) (image : ℕ → UInt8) (beyond : ℕ → ℕ → UInt8) (i : ℕ) : ℕ → UInt8 :=
  fun o => if o < c.eraseBlockSize then image (i * c.eraseBlockSize + o) else beyond i o

/-- The bytes that `CheckForNormalFMH_RAM` looks at: the signature up to the first byte that differs, the end signature, and all
of them for the checksum. -/
def headerReads (m : ℕ → UInt8) (o : ℕ) : List ℕ :=
  let same := (List.range 8).findIdx fun k => m (o + k) ≠ fmhSignature.getD k 0
  if same < 8 then (List.range (same + 1)).map (o + ·)
  else if le16 (slice m o sizeofFmh) 62 ≠ fmhEndSignature then (List.range 8).map (o + ·) ++ [o + 62, o + 63]
  else (List.range sizeofFmh).map (o + ·)

/-- `CheckForAlternateFMH_RAM` at the end of the block. -/
def linkRAM (c : RecoveryConfig) (m : ℕ → UInt8) : UInt32 :=
  checkForAlternateFMH (slice m (c.eraseBlockSize - sizeofAltFmh) sizeofAltFmh)

/-- The bytes of the alternate header. -/
def altReads (c : RecoveryConfig) : List ℕ := (List.range sizeofAltFmh).map (c.eraseBlockSize - sizeofAltFmh + ·)

/-- `ScanforFMH_RAM`: where the header is that it finds, and the bytes that it looks at. -/
def scanforFMHRAM (c : RecoveryConfig) (m : ℕ → UInt8) : Option ℕ × List ℕ :=
  match checkForNormalFMH (slice m 0 sizeofFmh) with
  | some _ => (some 0, headerReads m 0)
  | none =>
    if linkRAM c m = invalidFmhOffset then (none, headerReads m 0 ++ altReads c)
    else
      ((checkForNormalFMH (slice m (linkRAM c m).toNat sizeofFmh)).map fun _ => (linkRAM c m).toNat,
        headerReads m 0 ++ altReads c ++ headerReads m (linkRAM c m).toNat)

/-- The variables of `VerifyRAMImage`. -/
structure VerifyState where
  ret : Int
  conffound : Bool
  confStart : ℕ
  confSize : UInt32
  deriving DecidableEq, Repr

/-- `strncmp(sectionname, "conf", 8) == 0` -/
def isConf (fmh : List UInt8) : Bool := (moduleName fmh).take 5 = [0x63, 0x6F, 0x6E, 0x66, 0]

/-- A block is examined. The bytes of the module information are among those of the header. -/
def verifyBlock (c : RecoveryConfig) (image : ℕ → UInt8) (beyond : ℕ → ℕ → UInt8) (v : VerifyState) (i : ℕ) : VerifyState :=
  match (scanforFMHRAM c (tempBuf c image beyond i)).1 with
  | none => v
  | some o =>
    let fmh := slice (tempBuf c image beyond i) o sizeofFmh
    let v := if moduleType fmh = 0x02 then { v with ret := 0 } else v
    if isConf fmh ∧ v.conffound = false then
      { v with conffound := true, confStart := i * c.eraseBlockSize, confSize := fmhAllocatedSize fmh }
    else v

/-- `VerifyRAMImage` -/
def verifyRAMImage (c : RecoveryConfig) (image : ℕ → UInt8) (beyond : ℕ → ℕ → UInt8) : VerifyState :=
  (List.range c.totalSectorCnt).foldl (verifyBlock c image beyond) ⟨-1, false, 0, 0⟩

/-! ## The flash -/

/-- What comes of an attempt: does it succeed, and what does a failed one leave, in the buffer or in the sector? -/
structure Attempt where
  ok : Bool
  left : ℕ → UInt8

/-- Is there a flash, and what do the attempts at a sector come to: its reads, its erases, its writes, and the erases after
failed writes? -/
structure FlashAnswers where
  probed : Bool
  read : ℕ → ℕ → Attempt
  erase : ℕ → ℕ → Attempt
  write : ℕ → ℕ → Attempt
  reerase : ℕ → ℕ → Attempt

/-- `while (retries)`: the attempts until one succeeds, the first of which has the number `k`. -/
def retryLoop {σ : Type} (op : ℕ → σ → Bool × σ) : ℕ → ℕ → σ → Bool × σ
  | 0, _, s => (false, s)
  | retries + 1, k, s => if (op k s).1 then (true, (op k s).2) else retryLoop op retries (k + 1) (op k s).2

section Sector

variable (c : RecoveryConfig) (image : ℕ → UInt8) (ans : FlashAnswers) (sector : ℕ)

/-- A sector with new contents. -/
def setSector (new cells : ℕ → UInt8) : ℕ → UInt8 := fun a =>
  if sector * c.eraseBlockSize ≤ a ∧ a < sector * c.eraseBlockSize + c.eraseBlockSize then new (a - sector * c.eraseBlockSize)
  else cells a

/-- `spi_flash_read` -/
def spiFlashRead (cells : ℕ → UInt8) (k : ℕ) : Bool × List UInt8 :=
  ((ans.read sector k).ok,
    if (ans.read sector k).ok then slice cells (sector * c.eraseBlockSize) c.eraseBlockSize
    else slice (ans.read sector k).left 0 c.eraseBlockSize)

/-- `spi_flash_erase` -/
def spiFlashErase (a : Attempt) (cells : ℕ → UInt8) : Bool × (ℕ → UInt8) :=
  (a.ok, setSector c sector (if a.ok then fun _ => 0xFF else a.left) cells)

/-- `spi_flash_write` of the sector of the image: bits are cleared, none is set. -/
def spiFlashWrite (a : Attempt) (cells : ℕ → UInt8) : Bool × (ℕ → UInt8) :=
  (a.ok, setSector c sector
    (if a.ok then fun o => cells (sector * c.eraseBlockSize + o) &&& image (sector * c.eraseBlockSize + o) else a.left) cells)

/-- A round of the third loop: a write, and when it fails an erase whose result is not looked at. -/
def writeRound (k : ℕ) (cells : ℕ → UInt8) : Bool × (ℕ → UInt8) :=
  let w := spiFlashWrite c image sector (ans.write sector k) cells
  if w.1 then w else (false, (spiFlashErase c sector (ans.reerase sector k) w.2).2)

/-- A sector is brought to the image. `false` is an early return of -1. -/
def flashSector (cells : ℕ → UInt8) : Bool × (ℕ → UInt8) :=
  if c.inEnv (sector * c.eraseBlockSize) then (true, cells)
  else
    let r := retryLoop (fun k _ => spiFlashRead c ans sector cells k) 3 0 []
    if r.1 = false then (false, cells)
    else if r.2 = slice image (sector * c.eraseBlockSize) c.eraseBlockSize then (true, cells)
    else
      let e := retryLoop (fun k cells => spiFlashErase c sector (ans.erase sector k) cells) 3 0 cells
      if e.1 = false then (false, e.2) else retryLoop (writeRound c image ans sector) 3 0 e.2

end Sector

/-- The loop over the sectors, from `sector` on. -/
def flashSectors (c : RecoveryConfig) (image : ℕ → UInt8) (ans : FlashAnswers) :
    ℕ → ℕ → (ℕ → UInt8) → Int × (ℕ → UInt8)
  | 0, _, cells => (0, cells)
  | n + 1, sector, cells =>
    let r := flashSector c image ans sector cells
    if r.1 then flashSectors c image ans n (sector + 1) r.2 else (-1, r.2)

/-- `VerifyandFlash`: the value it returns and the flash. Without a flash it hangs. -/
def verifyandFlash (c : RecoveryConfig) (image : ℕ → UInt8) (beyond : ℕ → ℕ → UInt8) (ans : FlashAnswers)
    (cells : ℕ → UInt8) : Option (Int × (ℕ → UInt8)) :=
  if (verifyRAMImage c image beyond).ret ≠ 0 then some (-1, cells)
  else if ans.probed = false then none
  else some (flashSectors c image ans c.totalSectorCnt 0 cells)

/-! ## What is expected of it -/

section Exact

variable (c : RecoveryConfig) (image : ℕ → UInt8) (beyond : ℕ → ℕ → UInt8) (ans : FlashAnswers) (cells : ℕ → UInt8)

/-- A block of the image has the header of a firmware module. -/
def HasFirmware : Prop :=
  ∃ i < c.totalSectorCnt, ∃ o, (scanforFMHRAM c (tempBuf c image beyond i)).1 = some o ∧
    moduleType (slice (tempBuf c image beyond i) o sizeofFmh) = 0x02

/-- **Recovery is exact.** -/
structure RecoveryExact : Prop where
  /-- 0 is returned only when each sector outside the environment equals the image. -/
  equal : ∀ cells', verifyandFlash c image beyond ans cells = some (0, cells') →
    ∀ a < c.totalSectorCnt * c.eraseBlockSize, c.inEnv a = false → cells' a = image a
  /-- The environment is kept. -/
  env : ∀ r cells', verifyandFlash c image beyond ans cells = some (r, cells') → ∀ a, c.inEnv a = true → cells' a = cells a
  /-- Without a firmware module nothing is changed. -/
  nothing : ¬ HasFirmware c image beyond →
    ∀ r cells', verifyandFlash c image beyond ans cells = some (r, cells') → cells' = cells
  /-- The search reads only inside the block. -/
  inside : ∀ i < c.totalSectorCnt, ∀ o ∈ (scanforFMHRAM c (tempBuf c image beyond i)).2, o < c.eraseBlockSize

/-- The link of an alternate header leads to a place where a header fits into the block, or that differs from the signature of a
header before the block ends. -/
def LinkInside (m : ℕ → UInt8) : Prop :=
  checkForNormalFMH (slice m 0 sizeofFmh) = none → linkRAM c m ≠ invalidFmhOffset →
    (linkRAM c m).toNat + sizeofFmh ≤ c.eraseBlockSize ∨
      ∃ k < 8, (linkRAM c m).toNat + k < c.eraseBlockSize ∧ m ((linkRAM c m).toNat + k) ≠ fmhSignature.getD k 0

/-- The sector is not the image. -/
def Differs (sector : ℕ) : Prop :=
  slice cells (sector * c.eraseBlockSize) c.eraseBlockSize ≠ slice image (sector * c.eraseBlockSize) c.eraseBlockSize

/-- A sector at which the function gives up: three attempts in a row fail. -/
def GivesUp (sector : ℕ) : Prop :=
  c.inEnv (sector * c.eraseBlockSize) = false ∧
    ((∀ k < 3, (ans.read sector k).ok = false) ∨ Differs c image cells sector ∧
      ((∀ k < 3, (ans.erase sector k).ok = false) ∨ ∀ k < 3, (ans.write sector k).ok = false))

/-- What a write finds in a sector, the first one and those after an erase that may have failed. -/
def beforeWrite (sector : ℕ) : ℕ → ℕ → UInt8
  | 0, _ => 0xFF
  | k + 1, o => if (ans.reerase sector k).ok then 0xFF else (ans.reerase sector k).left o

/-- The first write that succeeds finds all bits of the image set. -/
def CleanWrite (sector : ℕ) : Prop :=
  c.inEnv (sector * c.eraseBlockSize) = false → Differs c image cells sector →
    ∀ k < 3, (∀ j < k, (ans.write sector j).ok = false) → (ans.write sector k).ok = true →
      ∀ o < c.eraseBlockSize, beforeWrite ans sector k o &&& image (sector * c.eraseBlockSize + o) =
        image (sector * c.eraseBlockSize + o)

end Exact

/-! ## The search -/

section Search

variable {c : RecoveryConfig} {m : ℕ → UInt8} {image : ℕ → UInt8} {beyond : ℕ → ℕ → UInt8}

/-- The bytes of a header at `l` that are looked at lie in the block, exactly when all of it does, or it differs from the
signature before the block ends. -/
theorem headerReads_inside {l : ℕ} {e : ℕ} : (∀ o ∈ headerReads m l, o < e) ↔
    l + sizeofFmh ≤ e ∨ ∃ k < 8, l + k < e ∧ m (l + k) ≠ fmhSignature.getD k 0 := by
  rw [headerReads]
  generalize hsame : (List.range 8).findIdx (fun k => decide (m (l + k) ≠ fmhSignature.getD k 0)) = same
  have hle : ∀ k < 8, m (l + k) ≠ fmhSignature.getD k 0 → same ≤ k := by
    intro k hk hne
    by_contra hlt
    have hnot := List.not_of_lt_findIdx (show k < (List.range 8).findIdx
      (fun k => decide (m (l + k) ≠ fmhSignature.getD k 0)) by omega)
    rw [List.getElem_range] at hnot
    exact absurd (decide_eq_true hne) (ne_true_of_eq_false hnot)
  split_ifs with hlt hend
  · -- the first byte that differs is the last that is looked at
    have hdiffers : m (l + same) ≠ fmhSignature.getD same 0 := by
      have hlength : (List.range 8).findIdx (fun k => decide (m (l + k) ≠ fmhSignature.getD k 0)) <
          (List.range 8).length := by rw [hsame, List.length_range]; exact hlt
      have hfound := List.findIdx_getElem (w := hlength)
      rw [List.getElem_range, hsame] at hfound
      exact of_decide_eq_true hfound
    simp only [List.mem_map, List.mem_range, forall_exists_index, and_imp, forall_apply_eq_imp_iff₂]
    constructor
    · exact fun hall => .inr ⟨same, hlt, hall same (Nat.lt_succ_self _), hdiffers⟩
    · rintro (hfits | ⟨k, hk, hin, hne⟩) i hi
      · have : sizeofFmh = 64 := rfl
        omega
      · have := hle k hk hne
        omega
  · have hall : ∀ k < 8, ¬ (l + k < e ∧ m (l + k) ≠ fmhSignature.getD k 0) := fun k hk h => hlt (by
      have := hle k hk h.2
      omega)
    have hno : ¬ ∃ k < 8, l + k < e ∧ m (l + k) ≠ fmhSignature.getD k 0 := fun ⟨k, hk, h⟩ => hall k hk h
    rw [or_iff_left hno]
    constructor
    · intro h
      exact h (l + 63) (by simp)
    · intro h o ho
      simp only [List.mem_append, List.mem_map, List.mem_range, List.mem_cons, List.not_mem_nil, or_false] at ho
      have : sizeofFmh = 64 := rfl
      rcases ho with ⟨i, hi, rfl⟩ | rfl | rfl <;> omega
  · have hall : ∀ k < 8, ¬ (l + k < e ∧ m (l + k) ≠ fmhSignature.getD k 0) := fun k hk h => hlt (by
      have := hle k hk h.2
      omega)
    have hno : ¬ ∃ k < 8, l + k < e ∧ m (l + k) ≠ fmhSignature.getD k 0 := fun ⟨k, hk, h⟩ => hall k hk h
    rw [or_iff_left hno]
    constructor
    · intro h
      exact h (l + 63) (List.mem_map.2 ⟨63, by decide, rfl⟩)
    · intro h o ho
      obtain ⟨i, hi, rfl⟩ := List.mem_map.1 ho
      rw [List.mem_range] at hi
      omega

theorem altReads_inside {o : ℕ} (h : o ∈ altReads c) : o < c.eraseBlockSize := by
  obtain ⟨i, hi, rfl⟩ := List.mem_map.1 h
  have hfits := c.headerFits
  have h64 : sizeofFmh = 64 := rfl
  have h16 : sizeofAltFmh = 16 := rfl
  rw [List.mem_range] at hi
  omega

/-- **The search stays within the block**, exactly when the link of an alternate header leads inside. -/
theorem scan_inside : (∀ o ∈ (scanforFMHRAM c m).2, o < c.eraseBlockSize) ↔ LinkInside c m := by
  have hfirst : ∀ o ∈ headerReads m 0, o < c.eraseBlockSize :=
    headerReads_inside.2 (.inl (by simpa using c.headerFits))
  rw [scanforFMHRAM, LinkInside]
  cases hnormal : checkForNormalFMH (slice m 0 sizeofFmh) with
  | some fmh => exact iff_of_true hfirst fun h => absurd h (by simp)
  | none =>
    dsimp only
    by_cases hlink : linkRAM c m = invalidFmhOffset
    · rw [if_pos hlink]
      refine iff_of_true (fun o ho => ?_) fun _ h => absurd hlink h
      rcases List.mem_append.1 ho with ho | ho
      · exact hfirst o ho
      · exact altReads_inside ho
    · rw [if_neg hlink, ← headerReads_inside]
      constructor
      · exact fun h _ _ o ho => h o (List.mem_append_right _ ho)
      · intro h o ho
        rcases List.mem_append.1 ho with ho | ho
        · rcases List.mem_append.1 ho with ho | ho
          · exact hfirst o ho
          · exact altReads_inside ho
        · exact h rfl hlink o ho

/-- A block leaves the result alone, or sets it to 0. -/
theorem ret_verifyBlock (v : VerifyState) (i : ℕ) : (verifyBlock c image beyond v i).ret =
    if ∃ o, (scanforFMHRAM c (tempBuf c image beyond i)).1 = some o ∧
        moduleType (slice (tempBuf c image beyond i) o sizeofFmh) = 0x02 then 0 else v.ret := by
  rw [verifyBlock]
  cases (scanforFMHRAM c (tempBuf c image beyond i)).1 with
  | none => simp
  | some o =>
    simp only [Option.some.injEq, exists_eq_left']
    split_ifs <;> rfl

theorem ret_foldl_verifyBlock (l : List ℕ) (v : VerifyState) : (l.foldl (verifyBlock c image beyond) v).ret = 0 ↔
    v.ret = 0 ∨ ∃ i ∈ l, ∃ o, (scanforFMHRAM c (tempBuf c image beyond i)).1 = some o ∧
      moduleType (slice (tempBuf c image beyond i) o sizeofFmh) = 0x02 := by
  induction l generalizing v with
  | nil => simp
  | cons i l ih =>
    rw [List.foldl_cons, ih, ret_verifyBlock]
    simp only [List.mem_cons, exists_eq_or_imp]
    split_ifs with h
    · exact iff_of_true (.inl rfl) (.inr (.inl h))
    · rw [or_iff_right (a := ∃ o, _) h]

/-- `VerifyRAMImage` succeeds exactly when a block has the header of a firmware module. -/
theorem verifyRAMImage_iff : (verifyRAMImage c image beyond).ret = 0 ↔ HasFirmware c image beyond := by
  rw [verifyRAMImage, ret_foldl_verifyBlock, or_iff_right (by decide)]
  simp only [List.mem_range, HasFirmware]

end Search

/-! ## A sector -/

section Sector

variable {c : RecoveryConfig} {image : ℕ → UInt8} {ans : FlashAnswers} {sector : ℕ} {cells cells' new new' : ℕ → UInt8}

/-- **The rule of the attempts.** `P` is kept by an attempt that fails, and leads to `Q` by one that succeeds. -/
theorem retryLoop_rule {σ : Type} {op : ℕ → σ → Bool × σ} {P : ℕ → σ → Prop} {Q : σ → Prop} {m : ℕ}
    (hok : ∀ k < m, ∀ s, P k s → (op k s).1 = true → Q (op k s).2)
    (hfail : ∀ k < m, ∀ s, P k s → (op k s).1 = false → P (k + 1) (op k s).2) (n k : ℕ) (s : σ) (hn : k + n = m)
    (h : P k s) :
    ((retryLoop op n k s).1 = true ∧ Q (retryLoop op n k s).2) ∨
      ((retryLoop op n k s).1 = false ∧ P m (retryLoop op n k s).2) := by
  induction n generalizing k s with
  | zero =>
    obtain rfl : k = m := by omega
    exact .inr ⟨rfl, h⟩
  | succ n ih =>
    rw [retryLoop]
    cases hop : (op k s).1 with
    | true =>
      rw [if_pos rfl]
      exact .inl ⟨rfl, hok k (by omega) s h hop⟩
    | false =>
      rw [if_neg (by decide)]
      exact ih (k + 1) _ (by omega) (hfail k (by omega) s h hop)

/-- The address lies in the sector. -/
def InSector (c : RecoveryConfig) (sector a : ℕ) : Prop :=
  sector * c.eraseBlockSize ≤ a ∧ a < sector * c.eraseBlockSize + c.eraseBlockSize

theorem setSector_apply {o : ℕ} (ho : o < c.eraseBlockSize) :
    setSector c sector new cells (sector * c.eraseBlockSize + o) = new o := by
  rw [setSector, if_pos (by omega), Nat.add_sub_cancel_left]

theorem setSector_of_mem {a : ℕ} (h : InSector c sector a) :
    setSector c sector new cells a = new (a - sector * c.eraseBlockSize) := if_pos h

theorem setSector_of_not {a : ℕ} (h : ¬ InSector c sector a) : setSector c sector new cells a = cells a := if_neg h

/-- Only what lies outside the sector counts, and only the new contents inside. -/
theorem setSector_congr (hcells : ∀ a, ¬ InSector c sector a → cells a = cells' a)
    (hnew : ∀ o < c.eraseBlockSize, new o = new' o) : setSector c sector new cells = setSector c sector new' cells' := by
  funext a
  by_cases h : InSector c sector a
  · rw [setSector_of_mem h, setSector_of_mem h]
    obtain ⟨hle, hlt⟩ := h
    exact hnew _ (by omega)
  · rw [setSector_of_not h, setSector_of_not h, hcells a h]

/-- The first loop: a read succeeds and gives the sector, or none does. -/
theorem readLoop_cases (c : RecoveryConfig) (ans : FlashAnswers) (sector : ℕ) (cells : ℕ → UInt8) :
    ((retryLoop (fun k _ => spiFlashRead c ans sector cells k) 3 0 []).1 = true ∧
        (∃ k < 3, (ans.read sector k).ok = true) ∧
        (retryLoop (fun k _ => spiFlashRead c ans sector cells k) 3 0 []).2 =
          slice cells (sector * c.eraseBlockSize) c.eraseBlockSize) ∨
      ((retryLoop (fun k _ => spiFlashRead c ans sector cells k) 3 0 []).1 = false ∧
        ∀ k < 3, (ans.read sector k).ok = false) := by
  refine retryLoop_rule (Q := fun buf => (∃ k < 3, (ans.read sector k).ok = true) ∧ buf = _)
    (P := fun k _ => ∀ j < k, (ans.read sector j).ok = false) (m := 3) (fun k hk buf _ hop => ?_)
    (fun k hk buf h hop => ?_) 3 0 [] rfl (fun j hj => absurd hj (Nat.not_lt_zero j))
  · exact ⟨⟨k, hk, hop⟩, if_pos hop⟩
  · exact Nat.forall_lt_succ_right.2 ⟨h, hop⟩

/-- The second loop: an erase succeeds and the sector is erased, or none does and the rest of the flash is as it was. -/
theorem eraseLoop_cases (c : RecoveryConfig) (ans : FlashAnswers) (sector : ℕ) (cells : ℕ → UInt8) :
    ((retryLoop (fun k cells => spiFlashErase c sector (ans.erase sector k) cells) 3 0 cells).1 = true ∧
        (∃ k < 3, (ans.erase sector k).ok = true) ∧
        (retryLoop (fun k cells => spiFlashErase c sector (ans.erase sector k) cells) 3 0 cells).2 =
          setSector c sector (fun _ => 0xFF) cells) ∨
      ((retryLoop (fun k cells => spiFlashErase c sector (ans.erase sector k) cells) 3 0 cells).1 = false ∧
        (∀ k < 3, (ans.erase sector k).ok = false) ∧
        ∀ a, ¬ InSector c sector a →
          (retryLoop (fun k cells => spiFlashErase c sector (ans.erase sector k) cells) 3 0 cells).2 a = cells a) := by
  refine retryLoop_rule (Q := fun s => (∃ k < 3, (ans.erase sector k).ok = true) ∧ s = _)
    (P := fun k s => (∀ j < k, (ans.erase sector j).ok = false) ∧ ∀ a, ¬ InSector c sector a → s a = cells a) (m := 3)
    (fun k hk s h hop => ?_) (fun k hk s h hop => ?_) 3 0 cells rfl
    ⟨fun j hj => absurd hj (Nat.not_lt_zero j), fun _ _ => rfl⟩
  · refine ⟨⟨k, hk, hop⟩, setSector_congr h.2 fun o _ => ?_⟩
    rw [if_pos (show (ans.erase sector k).ok = true from hop)]
  · exact ⟨Nat.forall_lt_succ_right.2 ⟨h.1, hop⟩, fun a ha => (setSector_of_not ha).trans (h.2 a ha)⟩

theorem writeRound_of_ok {k : ℕ} (h : (ans.write sector k).ok = true) :
    writeRound c image ans sector k cells = spiFlashWrite c image sector (ans.write sector k) cells := if_pos h

theorem writeRound_of_not {k : ℕ} (h : (ans.write sector k).ok = false) : writeRound c image ans sector k cells =
    (false, (spiFlashErase c sector (ans.reerase sector k) (spiFlashWrite c image sector (ans.write sector k) cells).2).2) :=
  if_neg (ne_true_of_eq_false h)

/-- The third loop: a first write succeeds on what it finds, or none does. -/
theorem writeLoop_cases (c : RecoveryConfig) (image : ℕ → UInt8) (ans : FlashAnswers) (sector : ℕ) (cells : ℕ → UInt8) :
    ((retryLoop (writeRound c image ans sector) 3 0 (setSector c sector (fun _ => 0xFF) cells)).1 = true ∧
        ∃ k < 3, (∀ j < k, (ans.write sector j).ok = false) ∧ (ans.write sector k).ok = true ∧
          (retryLoop (writeRound c image ans sector) 3 0 (setSector c sector (fun _ => 0xFF) cells)).2 =
            setSector c sector
              (fun o => beforeWrite ans sector k o &&& image (sector * c.eraseBlockSize + o)) cells) ∨
      ((retryLoop (writeRound c image ans sector) 3 0 (setSector c sector (fun _ => 0xFF) cells)).1 = false ∧
        (∀ k < 3, (ans.write sector k).ok = false) ∧
        (retryLoop (writeRound c image ans sector) 3 0 (setSector c sector (fun _ => 0xFF) cells)).2 =
          setSector c sector (beforeWrite ans sector 3) cells) := by
  refine retryLoop_rule
    (Q := fun s => ∃ k < 3, (∀ j < k, (ans.write sector j).ok = false) ∧ (ans.write sector k).ok = true ∧ s =
      setSector c sector (fun o => beforeWrite ans sector k o &&& image (sector * c.eraseBlockSize + o)) cells)
    (P := fun k s => (∀ j < k, (ans.write sector j).ok = false) ∧ s = setSector c sector (beforeWrite ans sector k) cells)
    (m := 3) ?_ ?_ 3 0 _ rfl ⟨fun j hj => absurd hj (Nat.not_lt_zero j), rfl⟩
  · rintro k hk _ ⟨hfails, rfl⟩ hop
    cases hok : (ans.write sector k).ok with
    | true =>
      refine ⟨k, hk, hfails, hok, ?_⟩
      rw [writeRound_of_ok hok]
      refine setSector_congr (fun a ha => setSector_of_not ha) fun o ho => ?_
      rw [if_pos hok, setSector_apply ho]
    | false =>
      rw [writeRound_of_not hok] at hop
      cases hop
  · rintro k hk _ ⟨hfails, rfl⟩ hop
    cases hok : (ans.write sector k).ok with
    | true =>
      rw [writeRound_of_ok hok] at hop
      exact absurd (hok.symm.trans hop) (by decide)
    | false =>
      refine ⟨Nat.forall_lt_succ_right.2 ⟨hfails, hok⟩, ?_⟩
      rw [writeRound_of_not hok]
      refine setSector_congr (fun a ha => ?_) fun o _ => ?_
      · exact (setSector_of_not ha).trans (setSector_of_not ha)
      · rw [beforeWrite]
        split_ifs <;> rfl

end Sector

/-! ## The sectors -/

section Sectors

variable {c : RecoveryConfig} {image : ℕ → UInt8} {ans : FlashAnswers} {sector : ℕ} {cells cells' : ℕ → UInt8}

theorem differs_iff : ¬ Differs c image cells sector ↔ ∀ o < c.eraseBlockSize,
    cells (sector * c.eraseBlockSize + o) = image (sector * c.eraseBlockSize + o) := by
  rw [Differs, not_not, slice, slice, List.map_inj_left]
  simp only [List.mem_range]

/-- **What becomes of a sector.** Nothing else is changed, nor is the environment; the function goes on unless it gives up; and
when it goes on, the sector is the image exactly when the write was clean. -/
theorem flashSector_spec (c : RecoveryConfig) (image : ℕ → UInt8) (ans : FlashAnswers) (sector : ℕ) (cells : ℕ → UInt8) :
    (∀ a, ¬ InSector c sector a ∨ c.inEnv (sector * c.eraseBlockSize) = true →
        (flashSector c image ans sector cells).2 a = cells a) ∧
      ((flashSector c image ans sector cells).1 = true ↔ ¬ GivesUp c image ans cells sector) ∧
      ((flashSector c image ans sector cells).1 = true → c.inEnv (sector * c.eraseBlockSize) = false →
        ((∀ o < c.eraseBlockSize, (flashSector c image ans sector cells).2 (sector * c.eraseBlockSize + o) =
          image (sector * c.eraseBlockSize + o)) ↔ CleanWrite c image ans cells sector)) := by
  cases henv : c.inEnv (sector * c.eraseBlockSize) with
  | true =>
    rw [flashSector, if_pos henv, GivesUp, henv]
    exact ⟨fun _ _ => rfl, by simp, fun _ h => absurd h (by decide)⟩
  | false =>
    simp only [Bool.false_eq_true, or_false, GivesUp, CleanWrite, henv, true_and, forall_const]
    rw [flashSector, if_neg (by rw [henv]; decide)]
    dsimp only
    rcases readLoop_cases c ans sector cells with ⟨hok, hread, hbuf⟩ | ⟨hnot, hread⟩
    · have hsome : ¬ ∀ k < 3, (ans.read sector k).ok = false := by
        obtain ⟨k, hk, h⟩ := hread
        exact fun hall => absurd (h.symm.trans (hall k hk)) (by decide)
      rw [if_neg (by rw [hok]; decide), hbuf]
      by_cases hsame : slice cells (sector * c.eraseBlockSize) c.eraseBlockSize =
          slice image (sector * c.eraseBlockSize) c.eraseBlockSize
      · have hdiffers : ¬ Differs c image cells sector := not_not.2 hsame
        rw [if_pos hsame]
        refine ⟨fun _ _ => rfl, iff_of_true rfl (not_or.2 ⟨hsome, fun h => hdiffers h.1⟩), fun _ => ?_⟩
        exact iff_of_true (differs_iff.1 hdiffers) fun h => absurd h hdiffers
      · have hdiffers : Differs c image cells sector := hsame
        rw [if_neg hsame]
        rcases eraseLoop_cases c ans sector cells with ⟨hok', herase, hcells⟩ | ⟨hnot, herase, hframe⟩
        · have hsome' : ¬ ∀ k < 3, (ans.erase sector k).ok = false := by
            obtain ⟨k, hk, h⟩ := herase
            exact fun hall => absurd (h.symm.trans (hall k hk)) (by decide)
          rw [if_neg (by rw [hok']; decide), hcells]
          rcases writeLoop_cases c image ans sector cells with ⟨hok'', k, hk, hfails, hwrite, hlast⟩ | ⟨hnot, hwrite, hlast⟩
          · have hsome'' : ¬ ∀ k < 3, (ans.write sector k).ok = false := fun hall =>
              absurd (hwrite.symm.trans (hall k hk)) (by decide)
            rw [hok'', hlast]
            refine ⟨fun a ha => setSector_of_not ha, iff_of_true rfl ?_, fun _ => ?_⟩
            · exact not_or.2 ⟨hsome, fun h => h.2.elim hsome' hsome''⟩
            constructor
            · intro hall _ k' hk' hfails' hwrite' o ho
              -- the first write that succeeds is one
              obtain rfl : k' = k := by
                rcases Nat.lt_trichotomy k' k with h | h | h
                · exact absurd (hwrite'.symm.trans (hfails k' h)) (by decide)
                · exact h
                · exact absurd (hwrite.symm.trans (hfails' k h)) (by decide)
              have := hall o ho
              rwa [setSector_apply ho] at this
            · intro hclean o ho
              rw [setSector_apply ho]
              exact hclean hdiffers k hk hfails hwrite o ho
          · rw [hnot, hlast]
            exact ⟨fun a ha => setSector_of_not ha, iff_of_false Bool.false_ne_true fun h => h (.inr ⟨hdiffers, .inr hwrite⟩),
              fun h => absurd h Bool.false_ne_true⟩
        · rw [if_pos hnot]
          exact ⟨hframe, iff_of_false Bool.false_ne_true fun h => h (.inr ⟨hdiffers, .inl herase⟩),
            fun h => absurd h Bool.false_ne_true⟩
    · rw [if_pos hnot]
      exact ⟨fun _ _ => rfl, iff_of_false Bool.false_ne_true fun h => h (.inl hread),
        fun h => absurd h Bool.false_ne_true⟩

/-! ### The loop over the sectors -/

theorem pos_eraseBlockSize (c : RecoveryConfig) : 0 < c.eraseBlockSize := Nat.lt_of_lt_of_le (by decide) c.headerFits

/-- The environment is made of whole sectors. -/
theorem inEnv_sector {a : ℕ} (h : InSector c sector a) : c.inEnv a = c.inEnv (sector * c.eraseBlockSize) := by
  obtain ⟨p, hp⟩ := c.envStartAligned
  obtain ⟨q, hq⟩ := c.envSizeAligned
  obtain ⟨hle, hlt⟩ := h
  have hdiv : a / c.eraseBlockSize = sector :=
    Nat.div_eq_of_lt_le hle (by rw [Nat.succ_mul]; exact hlt)
  have hpos := pos_eraseBlockSize c
  rw [RecoveryConfig.inEnv, RecoveryConfig.inEnv, hp, hq, ← Nat.mul_add, decide_eq_decide, Nat.mul_comm _ p,
    Nat.mul_comm _ (p + q), ← Nat.le_div_iff_mul_le hpos, ← Nat.div_lt_iff_lt_mul hpos, hdiv,
    Nat.mul_le_mul_right_iff hpos, Nat.mul_lt_mul_right hpos]

/-- What the function makes of a sector depends on what is in it. -/
theorem differs_congr (h : ∀ a, InSector c sector a → cells' a = cells a) :
    Differs c image cells' sector ↔ Differs c image cells sector := by
  rw [Differs, Differs, slice_congr fun i hle hlt => h i ⟨hle, hlt⟩]

theorem givesUp_congr (h : ∀ a, InSector c sector a → cells' a = cells a) :
    GivesUp c image ans cells' sector ↔ GivesUp c image ans cells sector := by
  rw [GivesUp, GivesUp, differs_congr h]

theorem cleanWrite_congr (h : ∀ a, InSector c sector a → cells' a = cells a) :
    CleanWrite c image ans cells' sector ↔ CleanWrite c image ans cells sector := by
  rw [CleanWrite, CleanWrite, differs_congr h]

theorem not_inSector_of_ne {sector' a : ℕ} (hne : sector' ≠ sector) (h : InSector c sector' a) : ¬ InSector c sector a := by
  rintro ⟨hle, hlt⟩
  obtain ⟨hle', hlt'⟩ := h
  rcases Nat.lt_or_gt_of_ne hne with h | h
  · have := Nat.mul_le_mul_right c.eraseBlockSize (Nat.succ_le_of_lt h)
    rw [Nat.succ_mul] at this
    omega
  · have := Nat.mul_le_mul_right c.eraseBlockSize (Nat.succ_le_of_lt h)
    rw [Nat.succ_mul] at this
    omega

/-- **The loop over the sectors**, on a flash that is as it was from `sector` on. -/
theorem flashSectors_spec (c : RecoveryConfig) (image : ℕ → UInt8) (ans : FlashAnswers) (cells : ℕ → UInt8) (sector n : ℕ)
    {now : ℕ → UInt8} (hnow : ∀ t, sector ≤ t → ∀ a, InSector c t a → now a = cells a) :
    (∀ a, (∀ t, sector ≤ t → ¬ InSector c t a) ∨ c.inEnv a = true → (flashSectors c image ans n sector now).2 a = now a) ∧
      ((flashSectors c image ans n sector now).1 = 0 ↔
        ∀ t, sector ≤ t → t < sector + n → ¬ GivesUp c image ans cells t) ∧
      ((flashSectors c image ans n sector now).1 = 0 → ∀ t, sector ≤ t → t < sector + n →
        c.inEnv (t * c.eraseBlockSize) = false →
        ((∀ o < c.eraseBlockSize, (flashSectors c image ans n sector now).2 (t * c.eraseBlockSize + o) =
          image (t * c.eraseBlockSize + o)) ↔ CleanWrite c image ans cells t)) := by
  induction n generalizing sector now with
  | zero =>
    refine ⟨fun _ _ => rfl, iff_of_true rfl fun t h h' => ?_, fun _ t h h' => ?_⟩
    · omega
    · omega
  | succ n ih =>
    obtain ⟨hframe, hgoes, heq⟩ := flashSector_spec c image ans sector now
    rw [givesUp_congr (hnow sector le_rfl)] at hgoes
    rw [cleanWrite_congr (hnow sector le_rfl)] at heq
    have hkeep : ∀ a, (∀ t, sector ≤ t → ¬ InSector c t a) ∨ c.inEnv a = true →
        (flashSector c image ans sector now).2 a = now a := by
      rintro a (ha | ha)
      · exact hframe a (.inl (ha sector le_rfl))
      · by_cases hin : InSector c sector a
        · exact hframe a (.inr (inEnv_sector hin ▸ ha))
        · exact hframe a (.inl hin)
    rw [flashSectors]
    cases hr : (flashSector c image ans sector now).1 with
    | false =>
      rw [if_neg (by decide)]
      refine ⟨hkeep, iff_of_false (show (-1 : Int) ≠ 0 by decide) fun hall => ?_,
        fun h => absurd h (show (-1 : Int) ≠ 0 by decide)⟩
      exact absurd (hgoes.2 (hall sector le_rfl (by omega))) (by rw [hr]; decide)
    | true =>
      rw [if_pos rfl]
      have hnow' : ∀ t, sector + 1 ≤ t → ∀ a, InSector c t a → (flashSector c image ans sector now).2 a = cells a := by
        intro t ht a ha
        rw [hframe a (.inl (not_inSector_of_ne (by omega) ha))]
        exact hnow t (by omega) a ha
      obtain ⟨hframe', hzero, heq'⟩ := ih (sector + 1) hnow'
      refine ⟨fun a ha => ?_, ?_, fun hret t ht ht' henv => ?_⟩
      · rw [hframe' a (ha.imp_left fun h t ht => h t (by omega)), hkeep a ha]
      · rw [hzero]
        constructor
        · intro hall t ht ht'
          rcases Nat.eq_or_lt_of_le ht with rfl | ht
          · exact hgoes.1 hr
          · exact hall t ht (by omega)
        · exact fun hall t ht ht' => hall t (by omega) (by omega)
      · rcases Nat.eq_or_lt_of_le ht with rfl | ht
        · -- the later sectors leave this one alone
          rw [← heq hr henv]
          refine forall₂_congr fun o ho => ?_
          have hin : InSector c sector (sector * c.eraseBlockSize + o) := ⟨Nat.le_add_right _ _, by omega⟩
          rw [hframe' _ (.inl fun t ht => not_inSector_of_ne (by omega) hin)]
        · exact heq' hret t ht (by omega) henv

end Sectors

/-! ## The whole flash -/

section Whole

variable {c : RecoveryConfig} {image : ℕ → UInt8} {beyond : ℕ → ℕ → UInt8} {ans : FlashAnswers} {cells cells' : ℕ → UInt8}

/-- The function returns at once, or has gone through the sectors. -/
theorem verifyandFlash_eq_some {r : Int} (h : verifyandFlash c image beyond ans cells = some (r, cells')) :
    (¬ HasFirmware c image beyond ∧ r = -1 ∧ cells' = cells) ∨
      (HasFirmware c image beyond ∧ ans.probed = true ∧ flashSectors c image ans c.totalSectorCnt 0 cells = (r, cells')) := by
  rw [verifyandFlash] at h
  by_cases hfw : HasFirmware c image beyond
  · rw [if_neg (not_not.2 (verifyRAMImage_iff.2 hfw))] at h
    cases hprobed : ans.probed with
    | false =>
      rw [if_pos hprobed] at h
      cases h
    | true =>
      rw [if_neg (by rw [hprobed]; decide)] at h
      exact .inr ⟨hfw, rfl, Option.some.inj h⟩
  · rw [if_pos (fun hret => hfw (verifyRAMImage_iff.1 hret))] at h
    cases h
    exact .inl ⟨hfw, rfl, rfl⟩

theorem verifyandFlash_of_firmware (hfw : HasFirmware c image beyond) (hprobed : ans.probed = true) :
    verifyandFlash c image beyond ans cells = some (flashSectors c image ans c.totalSectorCnt 0 cells) := by
  rw [verifyandFlash, if_neg (not_not.2 (verifyRAMImage_iff.2 hfw)), if_neg (by rw [hprobed]; decide)]

/-- **Recovery is exact**, exactly when the alternate headers lead inside their blocks, and, where there are a firmware module
and a flash, three attempts in a row fail somewhere or each first write that succeeds finds all bits of the image set. -/
theorem recoveryExact_iff (c : RecoveryConfig) (image : ℕ → UInt8) (beyond : ℕ → ℕ → UInt8) (ans : FlashAnswers)
    (cells : ℕ → UInt8) : RecoveryExact c image beyond ans cells ↔
      (∀ i < c.totalSectorCnt, LinkInside c (tempBuf c image beyond i)) ∧
        (HasFirmware c image beyond → ans.probed = true →
          (∃ sector < c.totalSectorCnt, GivesUp c image ans cells sector) ∨
            ∀ sector < c.totalSectorCnt, CleanWrite c image ans cells sector) := by
  obtain ⟨hframe, hzero, heq⟩ := flashSectors_spec c image ans cells 0 c.totalSectorCnt fun _ _ _ _ => rfl
  simp only [Nat.zero_le, true_implies, Nat.zero_add] at hzero heq
  constructor
  · intro h
    refine ⟨fun i hi => scan_inside.1 (h.inside i hi), fun hfw hprobed => or_iff_not_imp_left.2 fun hgives => ?_⟩
    intro t ht
    by_cases henv : c.inEnv (t * c.eraseBlockSize) = true
    · exact fun hnot => absurd (henv.symm.trans hnot) (by decide)
    · have hret := hzero.2 fun t ht hg => hgives ⟨t, ht, hg⟩
      have henv' := Bool.eq_false_of_not_eq_true henv
      have hrun : verifyandFlash c image beyond ans cells = some (0, (flashSectors c image ans c.totalSectorCnt 0 cells).2) := by
        rw [verifyandFlash_of_firmware hfw hprobed, ← hret]
      refine (heq hret t ht henv').1 fun o ho => h.equal _ hrun _ ?_ ?_
      · have := Nat.mul_le_mul_right c.eraseBlockSize (Nat.succ_le_of_lt ht)
        rw [Nat.succ_mul] at this
        omega
      · rw [inEnv_sector ⟨Nat.le_add_right _ _, by omega⟩, henv']
  · rintro ⟨hinside, hclean⟩
    constructor
    · intro cells' hrun a ha henv
      rcases verifyandFlash_eq_some hrun with ⟨-, hr, -⟩ | ⟨hfw, hprobed, hrun'⟩
      · cases hr
      · rw [hrun'] at hzero heq
        have hclean' := (hclean hfw hprobed).resolve_left fun ⟨t, ht, hg⟩ => hzero.1 rfl t ht hg
        have ht : a / c.eraseBlockSize < c.totalSectorCnt := (Nat.div_lt_iff_lt_mul (pos_eraseBlockSize c)).2 ha
        have ho := Nat.mod_lt a (pos_eraseBlockSize c)
        have hsplit : a / c.eraseBlockSize * c.eraseBlockSize + a % c.eraseBlockSize = a := Nat.div_add_mod' a _
        have hin : InSector c (a / c.eraseBlockSize) a := ⟨by omega, by omega⟩
        rw [inEnv_sector hin] at henv
        have := (heq rfl _ ht henv).2 (hclean' _ ht) _ ho
        rwa [hsplit] at this
    · intro r cells' hrun a ha
      rcases verifyandFlash_eq_some hrun with ⟨-, -, rfl⟩ | ⟨-, -, hrun'⟩
      · rfl
      · have := hframe a (.inr ha)
        rwa [hrun'] at this
    · intro hno r cells' hrun
      rcases verifyandFlash_eq_some hrun with ⟨-, -, hsame⟩ | ⟨hfw, -, -⟩
      · exact hsame
      · exact absurd hfw hno
    · exact fun i hi => scan_inside.2 (hinside i hi)

end Whole

/-! ## A sector that could not be erased again -/

/-- A flash of one block of 64 bytes, without an environment. -/
def oneBlock : RecoveryConfig := ⟨64, 64, 0, 0, 0, le_rfl, le_rfl, ⟨0, rfl⟩, ⟨0, rfl⟩⟩

/-- The header of a firmware module, and nothing else. -/
def firmwareHeader : List UInt8 :=
  fmhSignature ++ [1, 8, 64, 0] ++ List.replicate 11 0 ++ [0xA8] ++ List.replicate 10 0 ++ [2] ++ List.replicate 27 0 ++ [0xAA, 0x55]

/-- The first write fails in the middle of the sector, and so does the erase after it. -/
def failingOnce : FlashAnswers where
  probed := true
  read _ _ := ⟨true, fun _ => 0⟩
  erase _ _ := ⟨true, fun _ => 0⟩
  write _ k := ⟨k ≠ 0, fun _ => 0⟩
  reerase _ _ := ⟨false, fun _ => 0⟩

/-- **A write on a sector that could not be erased again** succeeds, the sector is not the image, and 0 is returned. -/
theorem not_recoveryExact_reerase :
    ¬ RecoveryExact oneBlock (block 0 firmwareHeader) (fun _ _ => 0) failingOnce fun _ => 0xFF := by
  intro h
  have hret : (flashSectors oneBlock (block 0 firmwareHeader) failingOnce 1 0 fun _ => 0xFF).1 = 0 := by decide +kernel
  have hrun : verifyandFlash oneBlock (block 0 firmwareHeader) (fun _ _ => 0) failingOnce (fun _ => 0xFF) =
      some (0, (flashSectors oneBlock (block 0 firmwareHeader) failingOnce 1 0 fun _ => 0xFF).2) := by
    rw [verifyandFlash, if_neg (by decide +kernel), if_neg (by decide), ← hret]
    rfl
  have hfirst := h.equal _ hrun 0 (by decide) (by decide)
  revert hfirst
  decide +kernel

end BmcBoot
