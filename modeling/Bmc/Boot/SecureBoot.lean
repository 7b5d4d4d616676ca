import Bmc.Helper.FmhScan

/-!
# Secure boot

`BootFMH` of `002-fmh_core.patch` scans the flash for modules and notes what is to be copied and executed; with
`021-hw_secure_boot_support.patch` it feeds a hash with the modules as it meets them, `hrot_update`, and verifies the hash
against a signature afterwards, `hrot_finish`.

* `hashPlan`, `HashLoop`: what `hrot_update` feeds to the hash for a module, block by block;
* `BootState`, `bootRound`, `bootScan`: the scan;
* `hrotFinish`: the key, the signature and the verdict.
-/

namespace BmcBoot

open BmcLib BmcHelper

/-! ## Headers -/

/-- `FMH_Ver_Major == 1 && FMH_Ver_Minor >= 8` -/
def fmhVersion18 (fmh : List UInt8) : Bool := fmh.getD 8 0 = 1 ∧ 8 ≤ fmh.getD 9 0

/-- `FMH_Location` -/
def fmhLocation (fmh : List UInt8) : UInt32 := le32 fmh 16

/-- `Module_Size` -/
def moduleSize (fmh : List UInt8) : UInt32 := le32 fmh 40

/-- `Module_Flags` -/
def moduleFlags (fmh : List UInt8) : ℕ := le16 fmh 44

/-- `Module_Load_Address` -/
def moduleLoadAddress (fmh : List UInt8) : UInt32 := le32 fmh 46

abbrev moduleFpga : ℕ := 0x04
abbrev moduleInitrdCramfs : ℕ := 0x07
abbrev moduleJffs : ℕ := 0x10
abbrev moduleJffs2 : ℕ := 0x11
abbrev moduleCramfs : ℕ := 0x12
abbrev moduleSquashfs : ℕ := 0x60
abbrev moduleInitrdSquashfs : ℕ := 0x61

abbrev moduleFlagCopyToRam : ℕ := 0x0008
abbrev moduleFlagExecute : ℕ := 0x0010
abbrev moduleFlagCompressionMask : ℕ := 0x00E0

/-- `strncmp(ModName, "boot", sizeof("boot")) == 0` -/
def isBoot (fmh : List UInt8) : Bool := (moduleName fmh).take 5 = [0x62, 0x6F, 0x6F, 0x74, 0]

/-- A letter as `strncasecmp` compares it. -/
def lowerCase (c : UInt8) : UInt8 := if 0x41 ≤ c ∧ c ≤ 0x5A then c + 0x20 else c

/-- `strncasecmp(Module_Name, "ROOT", 8) == 0` -/
def isRoot (fmh : List UInt8) : Bool := ((moduleName fmh).take 5).map lowerCase = [0x72, 0x6F, 0x6F, 0x74, 0]

/-- Does the module have a file system? -/
def isFileSystem (fmh : List UInt8) : Bool :=
  moduleType fmh ∈ [moduleJffs2, moduleJffs, moduleCramfs, moduleSquashfs, moduleInitrdCramfs, moduleInitrdSquashfs]

/-- Does the module have an initial file system? -/
def isInitrd (fmh : List UInt8) : Bool := moduleType fmh ∈ [moduleInitrdCramfs, moduleInitrdSquashfs]

/-- Is the module to be copied to memory? -/
def copyToRam (fmh : List UInt8) : Bool := moduleFlags fmh &&& moduleFlagCopyToRam ≠ 0

/-- Is the module to be executed? -/
def isExecute (fmh : List UInt8) : Bool := moduleFlags fmh &&& moduleFlagExecute ≠ 0

/-- `Compression == MODULE_COMPRESSION_NONE` -/
def uncompressed (fmh : List UInt8) : Bool := (moduleFlags fmh &&& moduleFlagCompressionMask) >>> 5 = 0

/-- The sector size, the size of an image, the image that is booted, and whether the boot loader itself is verified. -/
structure BootConfig where
  sectorSize : UInt32
  usedFlashSize : UInt32
  secondImage : Bool
  ubootValidate : Bool
  deriving DecidableEq, Repr

/-- `startaddress` -/
def BootConfig.startaddress (c : BootConfig) : UInt32 := if c.secondImage then c.usedFlashSize else 0

/-- `StartingSector` and `SectorCount` -/
def BootConfig.sectors (c : BootConfig) : UInt32 × UInt32 := bootSectors c.secondImage c.usedFlashSize c.sectorSize

/-! ## The hash -/

/-- `HASH_BLK_SIZE` -/
abbrev hashBlkSize : UInt32 := 262144

/-- `PROD_SIG_OFFSET` -/
abbrev prodSigOffset : UInt32 := 4096

/-- `SIZE_OF_UBOOT_FMH` -/
abbrev sizeOfUbootFmh : UInt32 := 256

/-- `KEY_INFO_LENGTH` -/
abbrev keyInfoLength : UInt32 := 4096

/-- `hash_start` and `size_to_hash` of a module that is hashed. -/
def hashPlan (c : BootConfig) (fmh : List UInt8) : Option (UInt32 × UInt32) :=
  if (moduleType fmh ≠ moduleJffs2 ∧ moduleType fmh ≠ moduleBootloader) ∨
      (c.ubootValidate ∧ moduleType fmh = moduleBootloader) then
    if moduleType fmh ≠ moduleBootloader ∧ moduleType fmh ≠ moduleFmhFirmware then
      some (c.startaddress + fmhLocation fmh, fmhAllocatedSize fmh)
    else if moduleType fmh = moduleFmhFirmware then
      some (c.startaddress + fmhLocation fmh, fmhAllocatedSize fmh - (3 * prodSigOffset + 1024))
    else some (c.startaddress + moduleLocation fmh, fmhLocation fmh + sizeOfUbootFmh - prodSigOffset)
  else none

/-- Bytes that are fed to the hash. In the first block of the firmware information two checksums are cleared. -/
structure HashBlock where
  start : UInt32
  size : UInt32
  masked : Bool
  deriving DecidableEq, Repr

/-- `hash_start` and `hs_size`, and the blocks so far. -/
structure HashLoop where
  start : UInt32
  hsSize : UInt32
  blocks : List HashBlock
  deriving DecidableEq, Repr

/-- `hash_start < stopHash` -/
def HashLoop.goesOn (stopHash : UInt32) (l : HashLoop) : Bool := l.start < stopHash

/-- A block is read and hashed. -/
def HashLoop.round (stopHash : UInt32) (masked : UInt32 → Bool) (l : HashLoop) : HashLoop :=
  let size := if stopHash < l.start + l.hsSize ∧ l.start < stopHash then stopHash - l.start else l.hsSize
  { start := l.start + size, hsSize := size, blocks := l.blocks ++ [⟨l.start, size, masked l.start⟩] }

/-- The block that begins with the header of the firmware information. -/
def maskedBlock (c : BootConfig) (fmh : List UInt8) (start : UInt32) : Bool :=
  moduleType fmh = moduleFmhFirmware ∧ start = c.startaddress + fmhLocation fmh

/-- The loop over the blocks, `n` rounds at most. -/
def hashLoop (c : BootConfig) (n : ℕ) (fmh : List UInt8) (p : UInt32 × UInt32) : HashLoop :=
  whileN (HashLoop.goesOn (p.2 + p.1)) (HashLoop.round (p.2 + p.1) (maskedBlock c fmh)) n ⟨p.1, hashBlkSize, []⟩

/-! ## The scan -/

/-- The variables of the scan, the static ones included. The headers whose modules have been copied to memory, those that have
supplied the addresses to execute, of the device tree and of the initial file system, and all that have been met are kept. -/
structure BootState where
  i : UInt32
  bootFmhLocation : UInt32
  productInfoOffset : UInt32
  hashed : List HashBlock
  hashEnds : Bool
  executeAddr : UInt32
  dtsaddr : UInt32
  initrdAddress : UInt32
  rootisinitrd : Bool
  copied : List Found
  executeFrom : Option Found
  dtsFrom : Option Found
  initrdFrom : Option Found
  met : List Found
  deriving DecidableEq, Repr

/-- The header says boot loader, by its type and its name. -/
def saysBoot (fmh : Found) : Bool := moduleType fmh.header = moduleBootloader ∧ isBoot fmh.header

namespace BootState

variable (c : BootConfig) (n : ℕ) (fmh : Found) (s : BootState)

/-- `boot_fmh_location = fmhLocation` -/
def noteBoot : BootState :=
  if saysBoot fmh then { s with bootFmhLocation := fmhLocation fmh.header } else s

/-- The module is fed to the hash. -/
def hashModule : BootState :=
  match hashPlan c fmh.header with
  | none => s
  | some p =>
    { s with
      productInfoOffset := if moduleType fmh.header = moduleFmhFirmware then
          c.startaddress + fmhLocation fmh.header + fmhAllocatedSize fmh.header
        else s.productInfoOffset
      hashed := s.hashed ++ (hashLoop c n fmh.header p).blocks
      hashEnds := s.hashEnds && !(hashLoop c n fmh.header p).goesOn (p.2 + p.1) }

/-- `hrot_update` -/
def hrotUpdate : BootState := (s.noteBoot fmh).hashModule c n fmh

/-- A file system called `ROOT`. -/
def noteRoot : BootState :=
  if isFileSystem fmh.header ∧ isRoot fmh.header then
    let s := { s with rootisinitrd := s.rootisinitrd || isInitrd fmh.header }
    if s.rootisinitrd ∧ fmhVersion18 fmh.header then
      { s with initrdAddress := c.startaddress + moduleLocation fmh.header, initrdFrom := some fmh }
    else s
  else s

/-- A device tree. -/
def noteDts : BootState :=
  if moduleType fmh.header = moduleFpga then
    { s with dtsaddr := c.startaddress + moduleLocation fmh.header, dtsFrom := some fmh }
  else s

/-- A module that is copied to memory. -/
def copyModule : BootState :=
  if copyToRam fmh.header ∧ uncompressed fmh.header then
    let s := if fmhVersion18 fmh.header then { s with copied := s.copied ++ [fmh] } else s
    if isRoot fmh.header ∧ s.rootisinitrd then
      { s with initrdAddress := moduleLoadAddress fmh.header, initrdFrom := some fmh }
    else s
  else s

/-- A module that is to be executed, when there is none yet. -/
def noteExecute : BootState :=
  if isExecute fmh.header ∧ s.executeAddr = 0xFFFFFFFF then
    if copyToRam fmh.header then { s with executeAddr := moduleLoadAddress fmh.header, executeFrom := some fmh }
    else if uncompressed fmh.header ∧ fmhVersion18 fmh.header then
      { s with executeAddr := c.startaddress + moduleLocation fmh.header, executeFrom := some fmh }
    else s
  else s

/-- A module whose flags match the path is used. -/
def useModule (pathID : ℕ) : BootState :=
  if moduleFlags fmh.header &&& pathID = 0 then s
  else (((s.noteRoot c fmh).noteDts c fmh).copyModule fmh).noteExecute c fmh

/-- The headers whose modules are copied to memory, are executed, or give the device tree or the initial file system. -/
def used : List Found := s.copied ++ s.executeFrom.toList ++ s.dtsFrom.toList ++ s.initrdFrom.toList

end BootState

/-- `i < SectorCount` -/
def bootGoesOn (c : BootConfig) (s : BootState) : Bool := s.i < c.sectors.2

/-- A round of the scan. -/
def bootRound (c : BootConfig) (f : Flash) (pathID n : ℕ) (s : BootState) : BootState :=
  match scanforFMHUboot f (s.i * c.sectorSize) c.sectorSize with
  | none => { s with i := s.i + 1 }
  | some fmh =>
    let s := (s.hrotUpdate c n fmh).useModule c fmh pathID
    { s with
      i := skipSectors c.sectorSize c.sectors.2 (skipSizeOf fmh.header c.sectorSize s.i) s.i
      met := s.met ++ [fmh] }

/-- Nothing has been met, and nothing noted. -/
def BootState.start (c : BootConfig) : BootState where
  i := c.sectors.1
  bootFmhLocation := 0
  productInfoOffset := 0
  hashed := []
  hashEnds := true
  executeAddr := 0xFFFFFFFF
  dtsaddr := 0xFFFFFFFF
  initrdAddress := 0xFFFFFFFF
  rootisinitrd := false
  copied := []
  executeFrom := none
  dtsFrom := none
  initrdFrom := none
  met := []

/-- The scan, with `n` rounds at most in each loop. -/
def bootScan (c : BootConfig) (f : Flash) (pathID n : ℕ) : BootState :=
  whileN (bootGoesOn c) (bootRound c f pathID n) n (.start c)

/-- The scan has come to its end, and so has the hash of each module. -/
def Completes (c : BootConfig) (f : Flash) (pathID n : ℕ) : Prop :=
  bootGoesOn c (bootScan c f pathID n) = false ∧ (bootScan c f pathID n).hashEnds = true

instance (c : BootConfig) (f : Flash) (pathID n : ℕ) : Decidable (Completes c f pathID n) :=
  inferInstanceAs (Decidable (_ ∧ _))

/-! ## The verdict -/

/-- The address of the public key: `startaddress + boot_fmh_location - KEY_INFO_LENGTH`. -/
def BootState.keyInfo (c : BootConfig) (s : BootState) : UInt32 := c.startaddress + s.bootFmhLocation - keyInfoLength

/-- The block with the public key. -/
def BootState.keyBlock (c : BootConfig) (f : Flash) (s : BootState) : List UInt8 := f.read (s.keyInfo c) keyInfoLength.toNat

/-- Are these the checksums of a header, at this offset from its start? -/
def isChecksum (offset : ℕ) : Bool := offset = 23 ∨ 50 ≤ offset ∧ offset < 54

/-- The bytes of a block as they are fed to the hash. -/
def HashBlock.bytes (f : Flash) (b : HashBlock) : List UInt8 :=
  (f.read b.start b.size.toNat).mapIdx fun k x => if b.masked ∧ isChecksum k then 0 else x

/-- `$start$`, `$fwimg$` and `$end$` -/
def startIdentifier : List UInt8 := [0x24, 0x73, 0x74, 0x61, 0x72, 0x74, 0x24]
def fwimgIdentifier : List UInt8 := [0x24, 0x66, 0x77, 0x69, 0x6D, 0x67, 0x24]
def endIdentifier : List UInt8 := [0x24, 0x65, 0x6E, 0x64, 0x24]

/-- The search for the signature: its address and length, or a failure. -/
inductive SigSearch
  | looking (sigaddr : UInt32)
  | found (sigaddr sigLength : UInt32)
  | failed
  deriving DecidableEq, Repr

/-- `product_info_offset > sigaddr` -/
def SigSearch.goesOn (productInfoOffset : UInt32) : SigSearch → Bool
  | .looking sigaddr => sigaddr < productInfoOffset
  | _ => false

/-- The next entry of the signatures. -/
def SigSearch.round (f : Flash) : SigSearch → SigSearch
  | .looking sigaddr =>
    let identifier := f.read sigaddr 8
    let sigLength := le32 (f.read (sigaddr + 8) 4) 0
    if identifier ≠ fwimgIdentifier ++ [0] then
      if identifier.take 5 ≠ endIdentifier then .failed else .looking (sigaddr + 8 + (4 + sigLength))
    else .found (sigaddr + 8 + 4) sigLength
  | s => s

/-- `hrot_finish`. The hash and the verification of a signature are external. -/
def BootState.hrotFinish (c : BootConfig) (f : Flash) (n : ℕ) (sha256 : List UInt8 → List UInt8)
    (rsaVerify : List UInt8 → List UInt8 → List UInt8 → Int) (s : BootState) : Int :=
  let sigaddr := s.productInfoOffset - prodSigOffset
  if (f.read (s.keyInfo c) 7) ≠ startIdentifier then -1
  else if f.read sigaddr 8 ≠ startIdentifier ++ [0] then -1
  else
    match whileN (SigSearch.goesOn s.productInfoOffset) (SigSearch.round f) n (.looking (sigaddr + 8)) with
    | .failed => -1
    | .looking sigaddr =>
      if s.productInfoOffset < sigaddr then -1
      else rsaVerify (s.keyBlock c f) [] (sha256 (s.hashed.flatMap (HashBlock.bytes f)))
    | .found sigaddr sigLength =>
      if s.productInfoOffset < sigaddr then -1
      else rsaVerify (s.keyBlock c f) (f.read sigaddr sigLength.toNat) (sha256 (s.hashed.flatMap (HashBlock.bytes f)))

end BmcBoot
