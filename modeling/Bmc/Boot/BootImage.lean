import Bmc.Lib.CompareText
import Bmc.Boot.SecureBoot

/-!
# Which image is booted

`GetBootImage` of `002-fmh_core.patch`, as `013-dual_image_support.patch` and `045-dual_image_boot_fix.patch` leave it, for two
images in one flash. It scans the flash for the headers with the versions and asks the environment, `ReadEnvVarAndGetBootOption`.

* `ScanImages`, `scanSector`: the scan, whose records of the firmware begin as the stack leaves them;
* `validateBootImage`, `readEnvVarAndGetBootOption`, `getBootImage`: the image, and the environment that is saved;
* `Asks`: the image that the bootselector asks for; `SelectsImage`: what is expected of the function;
* **`selectsImage_iff`**: the exact condition, on what happens after a reset by the watchdog;
* `not_selectsImage_leftover`: an image without a firmware header is compared by what the stack holds.
-/

namespace BmcBoot

open BmcLib BmcHelper

/-- `IMAGE_1` and `IMAGE_2`, with `IMG1_index_val` and `IMG2_index_val`. -/
inductive Image
  | image1
  | image2
  deriving DecidableEq, Repr

/-- The other image. -/
def Image.other : Image → Image
  | .image1 => .image2
  | .image2 => .image1

/-- `VersionInfo` -/
structure VersionInfo where
  majorVer : UInt8
  minorVer : UInt8
  auxVer : List UInt8
  lengthAux : auxVer.length = 6

/-- A version as it is compared: the major and the minor number, and the text. -/
def VersionInfo.text (v : VersionInfo) : List ℕ := v.majorVer.toNat :: v.minorVer.toNat :: cstr v.auxVer

/-- A record that has been cleared. -/
def VersionInfo.cleared : VersionInfo := ⟨0, 0, List.replicate 6 0, rfl⟩

/-! ## The scan -/

/-- `SectorSize` -/
abbrev bootSectorSize : ℕ := 0x10000

/-- `Module_Type == MODULE_FMH_FIRMWARE` -/
def isFirmware (fmh : List UInt8) : Bool := moduleType fmh = moduleFmhFirmware

/-- `Module_Type == MODULE_JFFS2` and `strncmp(Module_Name, "platform", 8) == 0` -/
def isPlatform (fmh : List UInt8) : Bool :=
  moduleType fmh = moduleJffs2 ∧ moduleName fmh = [0x70, 0x6C, 0x61, 0x74, 0x66, 0x6F, 0x72, 0x6D]

/-- `Module_Ver_Major`, `Module_Ver_Minor` and `Module_Ver_Aux` are copied to a record. -/
def versionOf (fmh : List UInt8) : VersionInfo :=
  ⟨fmh.getD 32 0, fmh.getD 33 0, strncpy 6 ((fmh.drop 54).take 6), length_strncpy _ _⟩

/-- `imgIndex`, the records and the presence of the images. -/
structure ScanImages where
  imgIndex : Image
  firmwareVer : Image → VersionInfo
  platformVer : Image → VersionInfo
  present : Image → Bool

/-- The flash, the size of an image, and the size of the flash. -/
structure BootFlash where
  flash : Flash
  usedFlashSize : ℕ
  flashSize : ℕ

section Scan

variable (b : BootFlash)

/-- The sectors that the scan comes to: those of the flash, up to the end of the second image. -/
def scannedSectors : List ℕ :=
  (List.range (b.flashSize / bootSectorSize)).takeWhile fun i => i * bootSectorSize < 2 * b.usedFlashSize

/-- `ScanforFMH` at a sector. -/
def headerAt (i : ℕ) : Option (List UInt8) :=
  (scanforFMHUboot b.flash (UInt32.ofNat (i * bootSectorSize)) (UInt32.ofNat bootSectorSize)).map Found.header

/-- What a header adds to the records of the image that is being scanned. -/
def ScanImages.note (s : ScanImages) (fmh : List UInt8) : ScanImages :=
  let s := if isPlatform fmh then { s with platformVer := Function.update s.platformVer s.imgIndex (versionOf fmh) } else s
  if isFirmware fmh then
    { s with
      firmwareVer := Function.update s.firmwareVer s.imgIndex (versionOf fmh)
      present := Function.update s.present s.imgIndex true }
  else s

/-- A round of the scan. -/
def scanSector (s : ScanImages) (i : ℕ) : ScanImages :=
  let s := if b.usedFlashSize ≤ i * bootSectorSize ∧ s.imgIndex = .image1 then { s with imgIndex := .image2 } else s
  match headerAt b i with
  | none => s
  | some fmh => s.note fmh

/-- The scan. `platform_ver` has been cleared, `firmware_ver` has not. -/
def scanImages (stack : Image → VersionInfo) : ScanImages :=
  (scannedSectors b).foldl (scanSector b) ⟨.image1, stack, fun _ => .cleared, fun _ => false⟩

end Scan

/-! ## The choice -/

/-- The variables of the environment that matter here. -/
inductive EnvVar
  | bootselector
  | recentlyprogfw
  | fwimage1corrupted
  | fwimage2corrupted
  deriving DecidableEq, Repr

/-- The environment in memory, and the one that is saved in the flash. -/
structure Env where
  vars : EnvVar → Option (List UInt8)
  saved : EnvVar → Option (List UInt8)

/-- `env_set` -/
def Env.set (e : Env) (v : EnvVar) (value : List UInt8) : Env := { e with vars := Function.update e.vars v (some value) }

/-- `env_save` -/
def Env.save (e : Env) : Env := { e with saved := e.vars }

/-- `fwimage1corrupted` and `fwimage2corrupted` -/
def Image.corrupted : Image → EnvVar
  | .image1 => .fwimage1corrupted
  | .image2 => .fwimage2corrupted

/-- The value of the bootselector that asks for an image. -/
def Image.selector : Image → List UInt8
  | .image1 => [0x31]
  | .image2 => [0x32]

/-- `yes` -/
def yes : List UInt8 := [0x79, 0x65, 0x73]

/-- The first character of a value, as a digit. -/
def firstDigit (value : List UInt8) : UInt8 := value.headD 0 - 48

abbrev autoHighVerFw : UInt8 := 0
abbrev autoLowVerFw : UInt8 := 3
abbrev mostRecentlyProgFw : UInt8 := 4
abbrev leastRecentlyProgFw : UInt8 := 5

/-- `ValidateBootImage`, for the higher version or the lower one. `none` is 0. -/
def validateBootImage (high : Bool) (ver : Image → VersionInfo) : Option Image :=
  let fwinfo1 := if high then ver .image1 else ver .image2
  let fwinfo2 := if high then ver .image2 else ver .image1
  if fwinfo2.majorVer < fwinfo1.majorVer then some .image1
  else if fwinfo1.majorVer < fwinfo2.majorVer then some .image2
  else if fwinfo2.minorVer < fwinfo1.minorVer then some .image1
  else if fwinfo1.minorVer < fwinfo2.minorVer then some .image2
  else if 0 < strncmp 6 fwinfo1.auxVer fwinfo2.auxVer then some .image1
  else if strncmp 6 fwinfo1.auxVer fwinfo2.auxVer < 0 then some .image2
  else none

/-- The firmware decides, then the platform, and then it is the first image. -/
def autoImage (high : Bool) (firmwareVer platformVer : Image → VersionInfo) : Image :=
  match validateBootImage high firmwareVer with
  | some img => img
  | none => (validateBootImage high platformVer).getD .image1

/-- The `switch` over the boot option. `none` is an invalid option. -/
def bootOption (bootOpt recentImg : UInt8) (firmwareVer platformVer : Image → VersionInfo) : Option Image :=
  if bootOpt = 1 then some .image1
  else if bootOpt = 2 then some .image2
  else if bootOpt = autoHighVerFw then some (autoImage true firmwareVer platformVer)
  else if bootOpt = autoLowVerFw then some (autoImage false firmwareVer platformVer)
  else if bootOpt = mostRecentlyProgFw then some (if recentImg = 1 then .image1 else .image2)
  else if bootOpt = leastRecentlyProgFw then some (if recentImg = 1 then .image2 else .image1)
  else none

/-- A boot after a failure: the image is recorded as corrupted, and the other one is selected and booted. -/
def failsafeBoot (img : Image) (e : Env) : Option Image × Env :=
  (some img.other, ((e.set img.corrupted yes).set .bootselector img.other.selector).save)

/-- `ReadEnvVarAndGetBootOption`: the image, or none when it returns -1, and the environment. -/
def readEnvVarAndGetBootOption (failsafeboot : Bool) (firmwareVer platformVer : Image → VersionInfo) (e : Env) :
    Option Image × Env :=
  match e.vars .bootselector, e.vars .recentlyprogfw with
  | some selector, some update =>
    match bootOption (firstDigit selector) (firstDigit update) firmwareVer platformVer with
    | some img => if failsafeboot then failsafeBoot img e else (some img, e)
    | none => (none, e)
  | _, _ => (none, e)

/-- `check_firmware_recovery`, with an update by the boot loader: does it return 0? -/
def checkFirmwareRecovery (e : Env) : Bool := ¬ ((e.vars .fwimage1corrupted).isSome ∧ (e.vars .fwimage2corrupted).isSome)

/-- `GetBootImage`: the image, or none when it returns -1, and the environment. -/
def getBootImage (b : BootFlash) (watchdogResetStatus : UInt32) (stack : Image → VersionInfo) (e : Env) : Option Image × Env :=
  let s := scanImages b stack
  if watchdogResetStatus ≠ 0 then
    let r := readEnvVarAndGetBootOption true s.firmwareVer s.platformVer e
    if checkFirmwareRecovery r.2 then r else (none, r.2)
  else if checkFirmwareRecovery e = false then (none, e)
  else if s.present .image1 = false ∧ s.present .image2 = true then (some .image2, e)
  else if s.present .image2 = false ∧ s.present .image1 = true then (some .image1, e)
  else if s.present .image2 ∧ s.present .image1 then readEnvVarAndGetBootOption false s.firmwareVer s.platformVer e
  else (none, e)

/-! ## What is expected -/

section Expected

variable (b : BootFlash)

/-- The image that a sector belongs to. -/
def imageOf (i : ℕ) : Image := if b.usedFlashSize ≤ i * bootSectorSize then .image2 else .image1

/-- The headers of a kind in the sectors of an image. -/
def headersOf (kind : List UInt8 → Bool) (img : Image) : List (List UInt8) :=
  (((scannedSectors b).filter fun i => imageOf b i = img).filterMap (headerAt b)).filter kind

/-- The version in the header of a kind of an image: the last one counts. -/
def versionIn (kind : List UInt8 → Bool) (img : Image) : Option (List ℕ) :=
  (headersOf b kind img).getLast?.map fun fmh =>
    (fmh.getD 32 0).toNat :: (fmh.getD 33 0).toNat :: cstr ((fmh.drop 54).take 6)

/-- The image with the greater version, or the one with the lower version, in the lexicographic order. -/
def prefer (high : Bool) (version : Image → List ℕ) : Option Image :=
  if version .image1 = version .image2 then none
  else if version .image2 < version .image1 ↔ high = true then some .image1
  else some .image2

/-- The automatic options, given the versions of the firmware and of the platform. -/
def preferredImage (high : Bool) (firmware platform : Image → List ℕ) : Image :=
  ((prefer high firmware).or (prefer high platform)).getD .image1

/-- The image that has been programmed last. -/
def recentlyProgrammed (e : Env) : Option Image :=
  (e.vars .recentlyprogfw).bind fun update =>
    if firstDigit update = 1 then some .image1 else if firstDigit update = 2 then some .image2 else none

/-- An automatic option: both images have a firmware header, and the versions decide. An image without a header of the platform
counts as version 0.0. -/
def AsksAuto (high : Bool) (img : Image) : Prop :=
  ∃ firmware : Image → List ℕ, (∀ img, versionIn b isFirmware img = some (firmware img)) ∧
    img = preferredImage high firmware fun img => (versionIn b isPlatform img).getD [0, 0]

/-- **The bootselector asks for the image.** -/
def Asks (e : Env) (img : Image) : Prop :=
  ∃ selector, e.vars .bootselector = some selector ∧
    ((firstDigit selector = 1 ∧ img = .image1) ∨ (firstDigit selector = 2 ∧ img = .image2) ∨
      (firstDigit selector = autoHighVerFw ∧ AsksAuto b true img) ∨
      (firstDigit selector = autoLowVerFw ∧ AsksAuto b false img) ∨
      (firstDigit selector = mostRecentlyProgFw ∧ ∀ recent, recentlyProgrammed e = some recent → img = recent) ∨
      (firstDigit selector = leastRecentlyProgFw ∧ ∀ recent, recentlyProgrammed e = some recent → img = recent.other))

/-- The image has a firmware header. -/
def HasHeader (img : Image) : Prop := headersOf b isFirmware img ≠ []

/-- **What is expected of the function.** -/
structure SelectsImage (watchdogResetStatus : UInt32) (stack : Image → VersionInfo) (e : Env) : Prop where
  /-- Without a reset by the watchdog it is the only image with a firmware header, or the one that is asked for. -/
  normal : ∀ img, watchdogResetStatus = 0 → (getBootImage b watchdogResetStatus stack e).1 = some img →
    (HasHeader b img ∧ ¬ HasHeader b img.other) ∨ ((HasHeader b .image1 ↔ HasHeader b .image2) ∧ Asks b e img)
  /-- After a reset it is the other one than the one that is asked for, which is recorded as corrupted. -/
  reset : ∀ img, watchdogResetStatus ≠ 0 → (getBootImage b watchdogResetStatus stack e).1 = some img →
    Asks b e img.other ∧ (getBootImage b watchdogResetStatus stack e).2.saved img.other.corrupted = some yes ∧
      (getBootImage b watchdogResetStatus stack e).2.saved .bootselector = some img.selector

/-- The bootselector has an automatic option. -/
def AutoSelected (e : Env) : Prop :=
  ∃ selector, e.vars .bootselector = some selector ∧
    (firstDigit selector = autoHighVerFw ∨ firstDigit selector = autoLowVerFw)

/-- The image that the automatic option comes to with the records of the scan, the ones that nothing has been written to
included. -/
def comparedImage (stack : Image → VersionInfo) (e : Env) : Image :=
  autoImage ((e.vars .bootselector).map firstDigit = some autoHighVerFw) (scanImages b stack).firmwareVer
    (scanImages b stack).platformVer

/-- After a reset with an automatic option both images have a firmware header, or both are recorded as corrupted. -/
def ResetDecidable (watchdogResetStatus : UInt32) (stack : Image → VersionInfo) (e : Env) : Prop :=
  watchdogResetStatus ≠ 0 → AutoSelected e → e.vars .recentlyprogfw ≠ none →
    (HasHeader b .image1 ∧ HasHeader b .image2) ∨ (e.vars (comparedImage b stack e).other.corrupted).isSome = true

end Expected

/-! ## The scan, read as a whole -/

section Scanned

variable {b : BootFlash} {stack : Image → VersionInfo} {kind : List UInt8 → Bool} {img : Image} {l : List ℕ} {i : ℕ} {s : ScanImages}

/-- The last header of a kind of an image, in these sectors. -/
def lastIn (b : BootFlash) (l : List ℕ) (kind : List UInt8 → Bool) (img : Image) : Option (List UInt8) :=
  (((l.filter fun i => imageOf b i = img).filterMap (headerAt b)).filter kind).getLast?

theorem lastIn_append : lastIn b (l ++ [i]) kind img =
    if imageOf b i = img then ((headerAt b i).filter kind).or (lastIn b l kind img) else lastIn b l kind img := by
  rw [lastIn, List.filter_append]
  by_cases himg : imageOf b i = img
  · rw [if_pos himg, List.filter_cons_of_pos (by simpa using himg), List.filter_nil, List.filterMap_append, List.filter_append,
      List.getLast?_append]
    cases hheader : headerAt b i with
    | none =>
      rw [List.filterMap_cons_none hheader]
      rfl
    | some fmh =>
      rw [List.filterMap_cons_some hheader, List.filterMap_nil, Option.filter_some]
      cases hkind : kind fmh with
      | false =>
        rw [List.filter_cons_of_neg (by rw [hkind]; decide)]
        rfl
      | true =>
        rw [List.filter_cons_of_pos hkind]
        rfl
  · rw [if_neg himg, List.filter_cons_of_neg (by simpa using himg), List.filter_nil, List.append_nil]
    rfl

/-- What the scan has noted after these sectors. -/
structure ScannedImages (b : BootFlash) (stack : Image → VersionInfo) (l : List ℕ) (s : ScanImages) : Prop where
  index : s.imgIndex = .image2 → ∃ j ∈ l, b.usedFlashSize ≤ j * bootSectorSize
  firmware : ∀ img, s.firmwareVer img = (lastIn b l isFirmware img).elim (stack img) versionOf
  platform : ∀ img, s.platformVer img = (lastIn b l isPlatform img).elim .cleared versionOf
  present : ∀ img, s.present img = (lastIn b l isFirmware img).isSome

/-- What a header of the image that is being scanned adds. -/
theorem note_spec (s : ScanImages) (fmh : List UInt8) : (s.note fmh).imgIndex = s.imgIndex ∧
    ((s.note fmh).firmwareVer =
      if isFirmware fmh then Function.update s.firmwareVer s.imgIndex (versionOf fmh) else s.firmwareVer) ∧
    ((s.note fmh).platformVer =
      if isPlatform fmh then Function.update s.platformVer s.imgIndex (versionOf fmh) else s.platformVer) ∧
    ((s.note fmh).present = if isFirmware fmh then Function.update s.present s.imgIndex true else s.present) := by
  rw [ScanImages.note]
  cases isPlatform fmh <;> cases isFirmware fmh <;> exact ⟨rfl, rfl, rfl, rfl⟩

/-- A header that is noted at a sector of the image is the last one. -/
theorem elim_or_update {α : Type} {fmh : List UInt8} {g : List UInt8 → α} {now old : Image → α} {at' : Image}
    (hnow : ∀ img, now img = (lastIn b l kind img).elim (old img) g) (img : Image) :
    (if kind fmh then Function.update now at' (g fmh) else now) img =
      (if at' = img then ((some fmh).filter kind).or (lastIn b l kind img) else lastIn b l kind img).elim (old img) g := by
  by_cases himg : at' = img
  · subst himg
    rw [Option.filter_some]
    cases hkind : kind fmh with
    | false => simp [hnow]
    | true => simp
  · rw [if_neg himg, ← hnow]
    split_ifs
    · exact Function.update_of_ne (Ne.symm himg) _ _
    · rfl

/-- **A round of the scan.** The running index is the image that the sector belongs to. -/
theorem ScannedImages.round (h : ScannedImages b stack l s) (hlast : ∀ j ∈ l, j < i) :
    ScannedImages b stack (l ++ [i]) (scanSector b s i) := by
  have hindex : (if b.usedFlashSize ≤ i * bootSectorSize ∧ s.imgIndex = .image1 then { s with imgIndex := .image2 } else s) =
      { s with imgIndex := imageOf b i } := by
    rw [imageOf]
    by_cases hle : b.usedFlashSize ≤ i * bootSectorSize
    · cases himg : s.imgIndex with
      | image1 => rw [if_pos ⟨hle, rfl⟩, if_pos hle]
      | image2 => rw [if_neg (fun hc => by cases hc.2), if_pos hle, ← himg]
    · rw [if_neg (fun hc => hle hc.1), if_neg hle]
      cases himg : s.imgIndex with
      | image1 => rw [← himg]
      | image2 =>
        -- the index has gone on at an earlier sector
        obtain ⟨j, hj, hused⟩ := h.index himg
        exact absurd (hused.trans (Nat.mul_le_mul_right _ (hlast j hj).le)) hle
  have hnext : imageOf b i = .image2 → ∃ j ∈ l ++ [i], b.usedFlashSize ≤ j * bootSectorSize := by
    intro himg
    rw [imageOf] at himg
    split_ifs at himg with hle
    exact ⟨i, List.mem_append_right _ (List.mem_singleton_self i), hle⟩
  rw [scanSector, hindex]
  cases hheader : headerAt b i with
  | none =>
    have hsame : ∀ kind img, lastIn b (l ++ [i]) kind img = lastIn b l kind img := by
      intro kind img
      rw [lastIn_append, hheader]
      split_ifs <;> rfl
    constructor
    · exact hnext
    · exact fun img => (h.firmware img).trans (by rw [hsame])
    · exact fun img => (h.platform img).trans (by rw [hsame])
    · exact fun img => (h.present img).trans (by rw [hsame])
  | some fmh =>
    obtain ⟨hidx, hfw, hpf, hpres⟩ := note_spec { s with imgIndex := imageOf b i } fmh
    have hstep : ∀ kind img, lastIn b (l ++ [i]) kind img =
        if imageOf b i = img then ((some fmh).filter kind).or (lastIn b l kind img) else lastIn b l kind img := by
      intro kind img
      rw [lastIn_append, hheader]
    constructor
    · rw [hidx]
      exact hnext
    · intro img
      rw [hfw, hstep]
      exact elim_or_update h.firmware img
    · intro img
      rw [hpf, hstep]
      exact elim_or_update h.platform img
    · intro img
      rw [hpres, hstep]
      have hsome : ∀ o : Option (List UInt8), o.isSome = o.elim false fun _ => true := fun o => by cases o <;> rfl
      rw [hsome]
      exact elim_or_update (fun img => (h.present img).trans (hsome _)) img

theorem scanned_foldl (stack : Image → VersionInfo) (l : List ℕ) (hsorted : l.Pairwise (· < ·)) :
    ScannedImages b stack l (l.foldl (scanSector b) ⟨.image1, stack, fun _ => .cleared, fun _ => false⟩) := by
  induction l using List.reverseRecOn with
  | nil => exact ⟨fun h => (by cases h), fun _ => rfl, fun _ => rfl, fun _ => rfl⟩
  | append_singleton l i ih =>
    obtain ⟨hl, -, hlt⟩ := List.pairwise_append.1 hsorted
    rw [List.foldl_append]
    exact (ih hl).round fun j hj => hlt j hj i (List.mem_singleton_self i)

/-- **What the scan has noted**: the last headers of each image. -/
theorem scanned_scanImages (b : BootFlash) (stack : Image → VersionInfo) :
    ScannedImages b stack (scannedSectors b) (scanImages b stack) :=
  scanned_foldl stack _ (List.pairwise_lt_range.sublist (List.takeWhile_sublist _))

theorem text_versionOf (fmh : List UInt8) : (versionOf fmh).text =
    (fmh.getD 32 0).toNat :: (fmh.getD 33 0).toNat :: cstr ((fmh.drop 54).take 6) := by
  rw [VersionInfo.text, versionOf, cstr_strncpy, List.take_take, Nat.min_self]

theorem versionIn_eq : versionIn b kind img =
    (lastIn b (scannedSectors b) kind img).map fun fmh => (versionOf fmh).text := by
  simp only [text_versionOf]
  rfl

theorem present_iff : (scanImages b stack).present img = true ↔ HasHeader b img := by
  rw [(scanned_scanImages b stack).present, HasHeader, lastIn, List.getLast?_isSome]
  rfl

theorem hasHeader_iff : HasHeader b img ↔ (versionIn b isFirmware img).isSome = true := by
  rw [versionIn, Option.isSome_map, List.getLast?_isSome, HasHeader]

/-- The version of the firmware of an image that has a header. -/
theorem text_firmwareVer {v : List ℕ} (h : versionIn b isFirmware img = some v) :
    ((scanImages b stack).firmwareVer img).text = v := by
  rw [versionIn_eq] at h
  obtain ⟨fmh, hlast, rfl⟩ := Option.map_eq_some_iff.1 h
  rw [(scanned_scanImages b stack).firmware, hlast]
  rfl

theorem text_platformVer : ((scanImages b stack).platformVer img).text = (versionIn b isPlatform img).getD [0, 0] := by
  rw [(scanned_scanImages b stack).platform, versionIn_eq]
  cases lastIn b (scannedSectors b) isPlatform img with
  | none => decide
  | some fmh => rfl

end Scanned

/-! ## The comparison -/

section Comparison

variable {ver firmwareVer platformVer : Image → VersionInfo} {high : Bool}

/-- Two versions, the first one read as that of the first image. -/
theorem compare_text (p q : VersionInfo) :
    (if q.majorVer < p.majorVer then some Image.image1
      else if p.majorVer < q.majorVer then some .image2
      else if q.minorVer < p.minorVer then some .image1
      else if p.minorVer < q.minorVer then some .image2
      else if 0 < strncmp 6 p.auxVer q.auxVer then some .image1
      else if strncmp 6 p.auxVer q.auxVer < 0 then some .image2
      else none) =
    if q.text < p.text then some .image1 else if p.text < q.text then some .image2 else none := by
  rw [VersionInfo.text, VersionInfo.text]
  simp only [List.cons_lt_cons_iff, strncmp_pos_iff p.lengthAux q.lengthAux, strncmp_neg_iff p.lengthAux q.lengthAux,
    UInt8.lt_iff_toNat_lt]
  rcases Nat.lt_trichotomy p.majorVer.toNat q.majorVer.toNat with hmaj | hmaj | hmaj
  · have h₁ : ¬ q.majorVer.toNat < p.majorVer.toNat := by omega
    have h₂ : q.majorVer.toNat ≠ p.majorVer.toNat := by omega
    simp [hmaj, h₁, h₂]
  · rcases Nat.lt_trichotomy p.minorVer.toNat q.minorVer.toNat with hmin | hmin | hmin
    · have h₁ : ¬ q.minorVer.toNat < p.minorVer.toNat := by omega
      have h₂ : q.minorVer.toNat ≠ p.minorVer.toNat := by omega
      simp [hmaj, hmin, h₁, h₂]
    · simp [hmaj, hmin]
    · simp [hmaj, hmin]
  · simp [hmaj]

/-- **`ValidateBootImage` follows the order of the versions.** -/
theorem validateBootImage_eq : validateBootImage high ver = prefer high fun img => (ver img).text := by
  rw [validateBootImage, compare_text, prefer]
  cases high with
  | true =>
    simp only [if_true, iff_true]
    rcases lt_trichotomy (ver .image1).text (ver .image2).text with h | h | h
    · rw [if_neg h.not_gt, if_pos h, if_neg h.ne, if_neg h.not_gt]
    · rw [h, if_neg (lt_irrefl _), if_neg (lt_irrefl _), if_pos rfl]
    · rw [if_pos h, if_neg h.ne', if_pos h]
  | false =>
    simp only [Bool.false_eq_true, if_false, iff_false]
    rcases lt_trichotomy (ver .image1).text (ver .image2).text with h | h | h
    · rw [if_pos h, if_neg h.ne, if_pos h.not_gt]
    · rw [h, if_neg (lt_irrefl _), if_neg (lt_irrefl _), if_pos rfl]
    · rw [if_neg h.not_gt, if_pos h, if_neg h.ne', if_neg (not_not.2 h)]

theorem autoImage_eq : autoImage high firmwareVer platformVer =
    preferredImage high (fun img => (firmwareVer img).text) fun img => (platformVer img).text := by
  rw [autoImage, preferredImage, validateBootImage_eq, validateBootImage_eq]
  cases prefer high fun img => (firmwareVer img).text <;> rfl

end Comparison

/-! ## The selection -/

section Selection

variable {b : BootFlash} {stack : Image → VersionInfo} {e : Env} {img c : Image} {selector update : List UInt8}

theorem other_other (img : Image) : img.other.other = img := by cases img <;> rfl

/-- The automatic options are asked for exactly when both images have a firmware header. -/
theorem asksAuto_iff {high : Bool}
    (hc : c = autoImage high (scanImages b stack).firmwareVer (scanImages b stack).platformVer) :
    AsksAuto b high c ↔ HasHeader b .image1 ∧ HasHeader b .image2 := by
  constructor
  · rintro ⟨firmware, hfirmware, -⟩
    exact ⟨hasHeader_iff.2 (by rw [hfirmware]; rfl), hasHeader_iff.2 (by rw [hfirmware]; rfl)⟩
  · rintro ⟨h₁, h₂⟩
    obtain ⟨v₁, hv₁⟩ := Option.isSome_iff_exists.1 (hasHeader_iff.1 h₁)
    obtain ⟨v₂, hv₂⟩ := Option.isSome_iff_exists.1 (hasHeader_iff.1 h₂)
    have hall : ∀ img, versionIn b isFirmware img = some ((scanImages b stack).firmwareVer img).text := by
      intro img
      cases img with
      | image1 => rw [text_firmwareVer hv₁, hv₁]
      | image2 => rw [text_firmwareVer hv₂, hv₂]
    refine ⟨_, hall, ?_⟩
    rw [hc, autoImage_eq]
    simp only [text_platformVer]

theorem autoSelected_iff (hsel : e.vars .bootselector = some selector) :
    AutoSelected e ↔ firstDigit selector = autoHighVerFw ∨ firstDigit selector = autoLowVerFw := by
  simp [AutoSelected, hsel]

/-- **The option that is taken is the one that is asked for**, but for an automatic one without a header to compare. -/
theorem asks_iff (hsel : e.vars .bootselector = some selector) (hupd : e.vars .recentlyprogfw = some update)
    (hopt : bootOption (firstDigit selector) (firstDigit update) (scanImages b stack).firmwareVer
      (scanImages b stack).platformVer = some c) :
    Asks b e c ↔ (AutoSelected e → HasHeader b .image1 ∧ HasHeader b .image2) := by
  have hrecent : recentlyProgrammed e =
      if firstDigit update = 1 then some .image1 else if firstDigit update = 2 then some .image2 else none := by
    rw [recentlyProgrammed, hupd]
    rfl
  rw [autoSelected_iff hsel]
  simp only [Asks, hsel, Option.some.injEq, exists_eq_left', hrecent]
  rw [bootOption] at hopt
  generalize firstDigit selector = d at hopt ⊢
  generalize firstDigit update = u at hopt ⊢
  by_cases h1 : d = 1
  · rw [if_pos h1] at hopt
    cases hopt
    rw [h1]
    exact iff_of_true (.inl ⟨rfl, rfl⟩) fun h => absurd h (by decide)
  by_cases h2 : d = 2
  · rw [if_neg h1, if_pos h2] at hopt
    cases hopt
    rw [h2]
    exact iff_of_true (.inr (.inl ⟨rfl, rfl⟩)) fun h => absurd h (by decide)
  by_cases h0 : d = autoHighVerFw
  · rw [if_neg h1, if_neg h2, if_pos h0] at hopt
    cases hopt
    rw [h0, ← asksAuto_iff rfl]
    refine ⟨fun h _ => ?_, fun h => .inr (.inr (.inl ⟨rfl, h (.inl rfl)⟩))⟩
    rcases h with ⟨hd, -⟩ | ⟨hd, -⟩ | ⟨-, h⟩ | ⟨hd, -⟩ | ⟨hd, -⟩ | ⟨hd, -⟩
    · exact absurd hd (by decide)
    · exact absurd hd (by decide)
    · exact h
    all_goals exact absurd hd (by decide)
  by_cases h3 : d = autoLowVerFw
  · rw [if_neg h1, if_neg h2, if_neg h0, if_pos h3] at hopt
    cases hopt
    rw [h3, ← asksAuto_iff rfl]
    refine ⟨fun h _ => ?_, fun h => .inr (.inr (.inr (.inl ⟨rfl, h (.inr rfl)⟩)))⟩
    rcases h with ⟨hd, -⟩ | ⟨hd, -⟩ | ⟨hd, -⟩ | ⟨-, h⟩ | ⟨hd, -⟩ | ⟨hd, -⟩
    · exact absurd hd (by decide)
    · exact absurd hd (by decide)
    · exact absurd hd (by decide)
    · exact h
    all_goals exact absurd hd (by decide)
  rw [if_neg h1, if_neg h2, if_neg h0, if_neg h3] at hopt
  by_cases h4 : d = mostRecentlyProgFw
  · rw [if_pos h4] at hopt
    cases hopt
    rw [h4]
    refine iff_of_true (.inr (.inr (.inr (.inr (.inl ⟨rfl, fun recent hr => ?_⟩))))) fun h => absurd h (by decide)
    split_ifs at hr with hu hu'
    · cases hr
      rw [if_pos hu]
    · cases hr
      rw [if_neg hu]
  · by_cases h5 : d = leastRecentlyProgFw
    · rw [if_neg h4, if_pos h5] at hopt
      cases hopt
      rw [h5]
      refine iff_of_true (.inr (.inr (.inr (.inr (.inr ⟨rfl, fun recent hr => ?_⟩))))) fun h => absurd h (by decide)
      split_ifs at hr with hu hu'
      · cases hr
        rw [if_pos hu]
        rfl
      · cases hr
        rw [if_neg hu]
        rfl
    · rw [if_neg h4, if_neg h5] at hopt
      cases hopt

/-- What the environment comes to. -/
theorem readEnv_cases {failsafeboot : Bool} {firmwareVer platformVer : Image → VersionInfo}
    (h : (readEnvVarAndGetBootOption failsafeboot firmwareVer platformVer e).1 = some img) :
    ∃ selector update c, e.vars .bootselector = some selector ∧ e.vars .recentlyprogfw = some update ∧
      bootOption (firstDigit selector) (firstDigit update) firmwareVer platformVer = some c ∧
      readEnvVarAndGetBootOption failsafeboot firmwareVer platformVer e =
        if failsafeboot then failsafeBoot c e else (some c, e) := by
  rw [readEnvVarAndGetBootOption] at h ⊢
  cases hsel : e.vars .bootselector with
  | none =>
    rw [hsel] at h
    cases h
  | some selector =>
    cases hupd : e.vars .recentlyprogfw with
    | none =>
      rw [hsel, hupd] at h
      cases h
    | some update =>
      rw [hsel, hupd] at h
      dsimp only at h
      cases hopt : bootOption (firstDigit selector) (firstDigit update) firmwareVer platformVer with
      | none =>
        rw [hopt] at h
        cases h
      | some c => exact ⟨selector, update, c, rfl, rfl, hopt, by dsimp only; rw [hopt]⟩

/-- After a failure, both images are recorded as corrupted exactly when the other one was already. -/
theorem checkFirmwareRecovery_failsafe : checkFirmwareRecovery (failsafeBoot c e).2 = true ↔
    (e.vars c.other.corrupted).isSome = false := by
  cases c <;> simp [checkFirmwareRecovery, failsafeBoot, Env.save, Env.set, Image.corrupted, Image.other]

theorem saved_failsafe : (failsafeBoot c e).2.saved c.corrupted = some yes ∧
    (failsafeBoot c e).2.saved .bootselector = some c.other.selector := by
  cases c <;> exact ⟨rfl, rfl⟩

/-- Without a reset. -/
theorem getBootImage_normal (h : (getBootImage b 0 stack e).1 = some img) :
    (HasHeader b img ∧ ¬ HasHeader b img.other) ∨ ((HasHeader b .image1 ↔ HasHeader b .image2) ∧ Asks b e img) := by
  have hpresent : ∀ img, (scanImages b stack).present img = false ↔ ¬ HasHeader b img := fun img => by
    rw [← Bool.not_eq_true]
    exact not_congr present_iff
  rw [getBootImage, if_neg (by decide)] at h
  split_ifs at h with hrecovery h₂ h₁ hboth
  · cases h
    exact .inl ⟨present_iff.1 h₂.2, (hpresent _).1 h₂.1⟩
  · cases h
    exact .inl ⟨present_iff.1 h₁.2, (hpresent _).1 h₁.1⟩
  · have hheaders : HasHeader b .image1 ∧ HasHeader b .image2 :=
      ⟨present_iff.1 hboth.2, present_iff.1 hboth.1⟩
    obtain ⟨selector, update, c, hsel, hupd, hopt, hresult⟩ := readEnv_cases h
    rw [hresult, if_neg (by decide)] at h
    cases h
    exact .inr ⟨iff_of_true hheaders.1 hheaders.2, (asks_iff hsel hupd hopt).2 fun _ => hheaders⟩

/-- After a reset. -/
theorem getBootImage_reset {status : UInt32} (hstatus : status ≠ 0)
    (h : (getBootImage b status stack e).1 = some img) :
    ∃ selector update, e.vars .bootselector = some selector ∧ e.vars .recentlyprogfw = some update ∧
      bootOption (firstDigit selector) (firstDigit update) (scanImages b stack).firmwareVer
        (scanImages b stack).platformVer = some img.other ∧
      getBootImage b status stack e = failsafeBoot img.other e ∧ (e.vars img.corrupted).isSome = false := by
  have hcode : getBootImage b status stack e =
      if checkFirmwareRecovery
          (readEnvVarAndGetBootOption true (scanImages b stack).firmwareVer (scanImages b stack).platformVer e).2 then
        readEnvVarAndGetBootOption true (scanImages b stack).firmwareVer (scanImages b stack).platformVer e
      else (none,
        (readEnvVarAndGetBootOption true (scanImages b stack).firmwareVer (scanImages b stack).platformVer e).2) := by
    rw [getBootImage, if_pos hstatus]
  rw [hcode] at h ⊢
  split_ifs at h ⊢ with hcheck
  · obtain ⟨selector, update, c, hsel, hupd, hopt, hresult⟩ := readEnv_cases h
    rw [hresult, if_pos rfl] at h hcheck ⊢
    cases h
    rw [other_other]
    exact ⟨selector, update, hsel, hupd, hopt, rfl, checkFirmwareRecovery_failsafe.1 hcheck⟩

/-- An automatic option takes the image that the records give. -/
theorem bootOption_of_auto (hsel : e.vars .bootselector = some selector) (hauto : AutoSelected e) (recentImg : UInt8) :
    bootOption (firstDigit selector) recentImg (scanImages b stack).firmwareVer (scanImages b stack).platformVer =
      some (comparedImage b stack e) := by
  rw [comparedImage, hsel, bootOption]
  simp only [Option.map_some, Option.some.injEq]
  rcases (autoSelected_iff hsel).1 hauto with h | h <;> rw [h]
  · rw [if_neg (by decide), if_neg (by decide), if_pos rfl, decide_eq_true rfl]
  · rw [if_neg (by decide), if_neg (by decide), if_neg (by decide), if_pos rfl, decide_eq_false (by decide)]

/-- **The image is the right one**, exactly when, after a reset by the watchdog with an automatic option, both images have a
firmware header, or the image that would be booted is recorded as corrupted already, so that the function fails. -/
theorem selectsImage_iff (b : BootFlash) (status : UInt32) (stack : Image → VersionInfo) (e : Env) :
    SelectsImage b status stack e ↔ ResetDecidable b status stack e := by
  constructor
  · intro h hstatus hauto hrecent
    obtain ⟨selector, hsel, -⟩ := id hauto
    obtain ⟨update, hupd⟩ := Option.ne_none_iff_exists'.1 hrecent
    have hopt : bootOption (firstDigit selector) (firstDigit update) (scanImages b stack).firmwareVer
        (scanImages b stack).platformVer = some (comparedImage b stack e) := bootOption_of_auto hsel hauto _
    by_cases hother : (e.vars (comparedImage b stack e).other.corrupted).isSome = true
    · exact .inr hother
    · have hresult : getBootImage b status stack e = failsafeBoot (comparedImage b stack e) e := by
        have hread : readEnvVarAndGetBootOption true (scanImages b stack).firmwareVer (scanImages b stack).platformVer e =
            failsafeBoot (comparedImage b stack e) e := by
          rw [readEnvVarAndGetBootOption, hsel, hupd]
          dsimp only
          rw [hopt]
          rfl
        rw [getBootImage, if_pos hstatus]
        dsimp only
        rw [hread, if_pos (checkFirmwareRecovery_failsafe.2 (Bool.eq_false_of_not_eq_true hother))]
      have hasks := (h.reset (comparedImage b stack e).other hstatus (by rw [hresult]; rfl)).1
      rw [other_other] at hasks
      exact .inl ((asks_iff hsel hupd hopt).1 hasks hauto)
  · intro h
    constructor
    · rintro img rfl himg
      exact getBootImage_normal himg
    · intro img hstatus himg
      obtain ⟨selector, update, hsel, hupd, hopt, hresult, hother⟩ := getBootImage_reset hstatus himg
      obtain ⟨hcorrupted, hselector⟩ := saved_failsafe (c := img.other) (e := e)
      rw [other_other] at hselector
      rw [hresult]
      refine ⟨(asks_iff hsel hupd hopt).2 fun hauto => ?_, hcorrupted, hselector⟩
      refine (h hstatus hauto (by rw [hupd]; exact Option.some_ne_none _)).resolve_right fun hset => ?_
      have hcompared : comparedImage b stack e = img.other :=
        Option.some.inj ((bootOption_of_auto hsel hauto _).symm.trans hopt)
      rw [hcompared, other_other, hother] at hset
      cases hset

end Selection

/-! ## What the stack holds -/

/-- A header of a firmware module of version 1.0, and nothing else. -/
def versionHeader : List UInt8 :=
  fmhSignature ++ [1, 8, 64, 0] ++ List.replicate 11 0 ++ [0xA7] ++ List.replicate 8 0 ++ [1, 0, 2] ++ List.replicate 27 0 ++
    [0xAA, 0x55]

/-- Two images of one sector, of which the first one has a firmware header. -/
def firstImageOnly : BootFlash := ⟨⟨0x20000, block 0xFF versionHeader⟩, bootSectorSize, 2 * bootSectorSize⟩

/-- The higher version is asked for. -/
def asksHigher : Env where
  vars v := if v = .bootselector ∨ v = .recentlyprogfw then some [0x30] else none
  saved _ := none

/-- **The record of the second image has not been written**, what the stack holds there counts as a higher version, and the
second image, which has no firmware, is recorded as corrupted. -/
theorem not_selectsImage_leftover :
    ¬ SelectsImage firstImageOnly 1 (fun _ => ⟨0xFF, 0xFF, List.replicate 6 0xFF, rfl⟩) asksHigher := by
  intro h
  have hsome : (getBootImage firstImageOnly 1 (fun _ => ⟨0xFF, 0xFF, List.replicate 6 0xFF, rfl⟩) asksHigher).1 =
      some .image1 := by decide +kernel
  obtain ⟨⟨selector, hsel, hasks⟩, -⟩ := h.reset .image1 (by decide) hsome
  obtain rfl : [0x30] = selector := Option.some.inj hsel
  have hnone : versionIn firstImageOnly isFirmware .image2 = none := by decide +kernel
  rcases hasks with ⟨hd, -⟩ | ⟨hd, -⟩ | ⟨-, firmware, hfirmware, -⟩ | ⟨hd, -⟩ | ⟨hd, -⟩ | ⟨hd, -⟩
  · exact absurd hd (by decide)
  · exact absurd hd (by decide)
  · cases hnone.symm.trans (hfirmware .image2)
  all_goals exact absurd hd (by decide)

end BmcBoot
