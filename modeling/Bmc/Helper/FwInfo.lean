import Bmc.Helper.FmhScan
import Bmc.Lib.Memory

/-!
# Reads of the firmware information

`/proc/ractrends/Helper/FwInfo`, `FwInfo1` and `FwInfo2` of `fwinfo.c`, for two images of a flash. A byte of a buffer is `none` as
long as no successful scan and no dummy text has put it there.

* `scanFirmwareModule`: the scan, which reads the module of the firmware information into the buffer;
* `readFwInfo`, `fwinfo1Read`, `fwinfo2Read`: the three files, the first of which keeps what it has read;
* `ReplyGood`: the scan reads no more than an erase block and succeeds only after it has found a module and read it, and the reply
  has at most `count` bytes, all of which have been put there;
* **`readsGood_iff`**: all replies of a run are good, exactly when the modules fit into a block, the dummy text is read with a
  count that it fits into, and `FwInfo` is not read again after a first scan that failed;
* `not_readsGood_failedScan`: it is read again.
-/

namespace BmcHelper

open BmcLib

/-- The places and sizes of the configuration. The dummy texts fit into an erase block, whose size is no negative number. -/
structure FwInfoConfig where
  usedFlashStart : UInt32
  flashStart : UInt32
  usedFlashSize : UInt32
  eraseBlockSize : UInt32
  dummyFits : 128 ≤ eraseBlockSize.toNat
  blockSigned : eraseBlockSize.toNat < 2 ^ 31

/-- Where an image starts in the flash. -/
def FwInfoConfig.imageOffset (c : FwInfoConfig) (secondImage : Bool) : UInt32 :=
  if secondImage then c.usedFlashStart - c.flashStart + c.usedFlashSize else c.usedFlashStart - c.flashStart

/-- `Module_Size` -/
def sizeOfModule (fmh : List UInt8) : UInt32 := le32 fmh 40

/-- `FMH_Ver_Major == 1 && FMH_Ver_Minor >= 8` -/
def locatedFromStart (fmh : List UInt8) : Bool := fmh.getD 8 0 = 1 ∧ 8 ≤ fmh.getD 9 0

/-- A buffer in the kernel. -/
abbrev InfoBuffer := ℕ → Option UInt8

/-- `get_mtd_device` fails, or there is a flash, and the module can be read from it or not. -/
inductive MtdAnswer
  | noDevice
  | device (flash : Flash) (readOk : Bool)

/-- The three files. -/
inductive FwFile
  | fwInfo
  | fwInfo1
  | fwInfo2
  deriving DecidableEq, Repr

/-- A read of one of the files: the offset, the count, and what the kernel answers. The loop over the sectors is given a number of
rounds; a read that takes more has not come back. -/
structure ReadCall where
  file : FwFile
  offset : ℕ
  count : UInt32
  kmallocOk : Bool
  mtd : MtdAnswer
  rounds : ℕ
  runningImage : Int
  copyOk : Bool

/-- `g_MTDSupport`, the static variables `firsttime` and `fwInfo_size` of `read_fw_info`, and the buffers. -/
structure FwInfoState where
  mtdSupport : Bool
  firsttime : Bool
  fwInfoSize : Int32
  cached : FwFile → Option InfoBuffer

/-- What a read comes to: the value it returns and what it adds to the offset, how many bytes the scan has asked the flash for and
what it has returned, and the bytes that are copied to the user. -/
structure ReadReply where
  ret : Int32
  moved : Int
  asked : ℕ
  scanned : Option Int32
  copied : List (Option UInt8)

/-! ## The scan -/

section Scan

variable (c : FwInfoConfig) (offset : UInt32)

/-- The loop over the sectors. -/
def scanLoop (f : Flash) (rounds : ℕ) : ScanState :=
  whileN (scanGoesOn (c.usedFlashSize / c.eraseBlockSize)) (scanRound f offset c.eraseBlockSize) rounds scanStart

/-- The header that the scan stops at, when it has come to its end. -/
def scanFor (f : Flash) (rounds : ℕ) : Option (Option Found) :=
  let s := scanLoop c offset f rounds
  if scanGoesOn (c.usedFlashSize / c.eraseBlockSize) s then none
  else if c.usedFlashSize / c.eraseBlockSize ≤ s.i then some none
  else some (scanforFMHUseReadFn f (offset + s.i * c.eraseBlockSize) c.eraseBlockSize)

/-- `ModuleOffset`. The sector is where the scan stopped. -/
def moduleOffset (f : Flash) (rounds : ℕ) (fmh : Found) : UInt32 :=
  if locatedFromStart fmh.header then offset + moduleLocation fmh.header
  else offset + (scanLoop c offset f rounds).i * c.eraseBlockSize + moduleLocation fmh.header

/-- What a scan returns: its value, how many bytes it has asked for, the buffer, and `g_MTDSupport`. -/
structure ScanResult where
  ret : Int32
  asked : ℕ
  buffer : InfoBuffer
  mtdSupport : Bool

/-- The module is read into the buffer. A read that fails leaves nothing there that could be relied on. -/
def readModule (f : Flash) (readOk : Bool) (addr size : UInt32) (buffer : InfoBuffer) : ScanResult :=
  if readOk then ⟨size.toInt32, size.toNat, fun i => if i < size.toNat then some (f.byte (addr.toNat + i)) else buffer i, true⟩
  else ⟨-1, size.toNat, fun i => if i < size.toNat then none else buffer i, true⟩

/-- `ScanFirmwareModule`. Without a device all reads fail, that of the module as well. -/
def scanFirmwareModule (mtd : MtdAnswer) (rounds : ℕ) (buffer : InfoBuffer) : Option ScanResult :=
  match mtd with
  | .noDevice => some ⟨-1, 0, buffer, false⟩
  | .device f readOk => (scanFor c offset f rounds).map fun
    | none => ⟨-1, 0, buffer, true⟩
    | some fmh => readModule f readOk (moduleOffset c offset f rounds fmh) (sizeOfModule fmh.header) buffer

end Scan

/-! ## The files -/

/-- The bytes of a text. -/
def infoText (text : String) : List UInt8 := text.toList.map fun ch => UInt8.ofNat ch.toNat

/-- The text of `FillDummyFWinfo`. -/
def dummyFwInfo : List UInt8 := infoText "FW_VERSION=0.0.0\nFW_DATE=0\nFW_BUILDTIME=0\nFW_DESC=0\nFW_PRODUCTID=0\n"

/-- The text of `read_fw_info` without a device. -/
def hardcodedFwInfo : List UInt8 :=
  infoText "FW_VERSION=0.0.0\nFW_DATE=Jan 01 2010\nFW_BUILDTIME=12:01:01 IST\n" ++
    infoText "FW_DESC=WARNING : UNOFFICIAL BUILD!!\nFW_PRODUCTID=1\n"

/-- `sprintf` of a text into a buffer. -/
def putText (text : List UInt8) (buffer : InfoBuffer) : InfoBuffer := store buffer 0 ((text ++ [0]).map some)

/-- A buffer that has just been allocated. -/
def freshBuffer : InfoBuffer := fun _ => none

/-- Nothing is replied. -/
def noReply : ReadReply := ⟨0, 0, 0, none, []⟩

/-- `copy_to_user`, which can fail with `-EFAULT`. -/
def copyToUser (call : ReadCall) (buffer : InfoBuffer) (n : ℕ) (ret : Int32) : ReadReply :=
  ⟨if call.copyOk then ret else -14, if call.copyOk then ret.toInt else 0, 0, none, slice buffer 0 n⟩

/-- `copy_size = (fwInfo_size > count) ? count : fwInfo_size`, an `int`, and the copy when it is positive. -/
def copyReply (call : ReadCall) (fwInfoSize : UInt32) (buffer : InfoBuffer) : ReadReply :=
  let size := if call.count < fwInfoSize then call.count else fwInfoSize
  if 0 < size.toInt32 then copyToUser call buffer size.toNat size.toInt32
  else ⟨size.toInt32, size.toInt32.toInt, 0, none, []⟩

/-- The reply after a scan. -/
def ReadReply.after (reply : ReadReply) (r : ScanResult) : ReadReply := { reply with asked := r.asked, scanned := some r.ret }

section Files

variable (c : FwInfoConfig) (s : FwInfoState) (call : ReadCall)

/-- The state with a buffer. -/
def FwInfoState.setBuffer (file : FwFile) (buffer : InfoBuffer) : FwInfoState :=
  { s with cached := Function.update s.cached file (some buffer) }

/-- `read_fw_info`, after the buffer has been allocated. `char` has no sign, so that an unknown image is no error. -/
def readFirst (buffer : InfoBuffer) : FwInfoState × ReadReply :=
  let s := { s with firsttime := false }
  if s.mtdSupport then
    match scanFirmwareModule c (c.imageOffset (call.runningImage % 256 = 2)) call.mtd call.rounds buffer with
    | none => (s, noReply)
    | some r =>
      let s := { s.setBuffer .fwInfo r.buffer with mtdSupport := r.mtdSupport, fwInfoSize := r.ret }
      if r.ret ≤ 0 then (s, noReply.after r) else (s, (copyReply call r.ret.toUInt32 r.buffer).after r)
  else
    let size := UInt32.ofNat hardcodedFwInfo.length
    ({ s.setBuffer .fwInfo (putText hardcodedFwInfo buffer) with fwInfoSize := size.toInt32 },
      copyReply call size (putText hardcodedFwInfo buffer))

/-- `read_fw_info` -/
def readFwInfo : FwInfoState × ReadReply :=
  if call.offset ≠ 0 then (s, noReply)
  else if s.cached .fwInfo = none ∧ call.kmallocOk = false then (s, noReply)
  else
    let buffer := (s.cached .fwInfo).getD freshBuffer
    let s := s.setBuffer .fwInfo buffer
    if s.firsttime then readFirst c s call buffer else (s, copyReply call s.fwInfoSize.toUInt32 buffer)

/-- The file of an image, of which nothing is kept. -/
def readImageInfo (file : FwFile) (secondImage : Bool) : FwInfoState × ReadReply :=
  if call.offset ≠ 0 then (s, noReply)
  else if s.cached file = none ∧ call.kmallocOk = false then (s, noReply)
  else
    let buffer := (s.cached file).getD freshBuffer
    let s := s.setBuffer file buffer
    if s.mtdSupport then
      match scanFirmwareModule c (c.imageOffset secondImage) call.mtd call.rounds buffer with
      | none => (s, noReply)
      | some r =>
        if r.ret ≤ 0 then
          let buffer := putText dummyFwInfo r.buffer
          ({ s.setBuffer file buffer with mtdSupport := r.mtdSupport },
            (copyToUser call buffer dummyFwInfo.length (UInt32.ofNat dummyFwInfo.length).toInt32).after r)
        else ({ s.setBuffer file r.buffer with mtdSupport := r.mtdSupport }, (copyReply call r.ret.toUInt32 r.buffer).after r)
    else (s, copyReply call 0 buffer)

/-- `fwinfo1_read` -/
def fwinfo1Read : FwInfoState × ReadReply := readImageInfo c s call .fwInfo1 false

/-- `fwinfo2_read` -/
def fwinfo2Read : FwInfoState × ReadReply := readImageInfo c s call .fwInfo2 true

/-- A read of a file. -/
def readFile : FwInfoState × ReadReply :=
  match call.file with
  | .fwInfo => readFwInfo c s call
  | .fwInfo1 => fwinfo1Read c s call
  | .fwInfo2 => fwinfo2Read c s call

end Files

/-- No file has been read. -/
def FwInfoState.start : FwInfoState := ⟨true, true, 0, fun _ => none⟩

/-! ## Good replies -/

section Good

variable (c : FwInfoConfig) (s : FwInfoState) (call : ReadCall)

/-- The header of the firmware information has been found, and its module has been read without an error. -/
def FoundAndRead (ret : Int32) : Prop :=
  ∃ f fmh secondImage, call.mtd = .device f true ∧ scanFor c (c.imageOffset secondImage) f call.rounds = some (some fmh) ∧
    moduleType fmh.header = moduleFmhFirmware ∧ ret = (sizeOfModule fmh.header).toInt32

/-- **A good reply.** -/
structure ReplyGood (reply : ReadReply) : Prop where
  /-- No more than an erase block is read into the buffer. -/
  bounded : reply.asked ≤ c.eraseBlockSize.toNat
  /-- A positive size is returned only when the module has been found and read. -/
  positive : ∀ ret, reply.scanned = some ret → 0 < ret → FoundAndRead c call ret
  /-- At most `count` bytes are copied. -/
  count : reply.copied.length ≤ call.count.toNat
  /-- All of them have been put into the buffer. -/
  filled : ∀ x ∈ reply.copied, x.isSome = true

/-- The read goes beyond the checks at its start. -/
def ReadsOn : Prop := call.offset = 0 ∧ ¬ (s.cached call.file = none ∧ call.kmallocOk = false)

/-- The module that the scan finds fits into an erase block. -/
def ModuleFits (secondImage : Bool) : Prop :=
  ∀ f readOk fmh, call.mtd = .device f readOk → scanFor c (c.imageOffset secondImage) f call.rounds = some (some fmh) →
    (sizeOfModule fmh.header).toNat ≤ c.eraseBlockSize.toNat

/-- The scan comes to its end without a firmware information: there is no device or no header, the module cannot be read, or it
is empty. -/
def NoModule (secondImage : Bool) : Prop :=
  call.mtd = .noDevice ∨ ∃ f readOk, call.mtd = .device f readOk ∧
    (scanFor c (c.imageOffset secondImage) f call.rounds = some none ∨
      ∃ fmh, scanFor c (c.imageOffset secondImage) f call.rounds = some (some fmh) ∧
        (readOk = false ∨ sizeOfModule fmh.header = 0))

/-- The first read of `FwInfo` meets a module that fits; later ones come after a first scan that has not failed, or ask for
nothing. -/
def FwInfoFits : Prop :=
  if s.firsttime then s.mtdSupport = true → ModuleFits c call (call.runningImage % 256 = 2)
  else s.fwInfoSize ≠ -1 ∨ call.count.toInt32 ≤ 0

/-- The file of an image meets a module that fits, or the dummy text fits into the count. -/
def ImageInfoFits (secondImage : Bool) : Prop :=
  s.mtdSupport = true →
    ModuleFits c call secondImage ∧ (NoModule c call secondImage → dummyFwInfo.length ≤ call.count.toNat)

/-- The condition on a read. -/
def ReadFits : Prop :=
  ReadsOn s call →
    match call.file with
    | .fwInfo => FwInfoFits c s call
    | .fwInfo1 => ImageInfoFits c s call false
    | .fwInfo2 => ImageInfoFits c s call true

/-- All replies of a run are good. -/
def ReadsGood (calls : List ReadCall) : Prop :=
  AllSteps (fun s call => (readFile c s call).1) (fun s call => ReplyGood c call (readFile c s call).2) .start calls

end Good

/-! ## The scan -/

section ScanFacts

variable {c : FwInfoConfig} {offset : UInt32} {f : Flash} {rounds : ℕ} {fmh : Found} {mtd : MtdAnswer} {buffer : InfoBuffer}
  {r : ScanResult} {call : ReadCall}

theorem dummy_lt : dummyFwInfo.length < 128 ∧ hardcodedFwInfo.length < 128 := by decide +kernel

/-- The round that leaves the loop has found the header. -/
theorem scanRound_found {sectorSize : UInt32} {s : ScanState} (hs : s.found = false)
    (h : (scanRound f offset sectorSize s).found = true) : (scanRound f offset sectorSize s).i = s.i ∧
      ∃ fmh, scanforFMHUseReadFn f (offset + s.i * sectorSize) sectorSize = some fmh ∧
        moduleType fmh.header = moduleFmhFirmware := by
  rw [scanRound] at h ⊢
  cases hscan : scanforFMHUseReadFn f (offset + s.i * sectorSize) sectorSize with
  | none =>
    rw [hscan] at h
    exact absurd (hs.symm.trans h) (by decide)
  | some fmh =>
    rw [hscan] at h
    dsimp only at h ⊢
    by_cases htype : moduleType fmh.header = moduleFmhFirmware
    · rw [if_pos htype]
      exact ⟨rfl, fmh, rfl, htype⟩
    · rw [if_neg htype] at h
      refine absurd (hs.symm.trans (Eq.trans ?_ h)) (by decide)
      split_ifs <;> rfl

/-- The loop is left at a header of the firmware information. -/
theorem found_scanLoop (hfound : (scanLoop c offset f rounds).found = true) :
    ∃ fmh, scanforFMHUseReadFn f (offset + (scanLoop c offset f rounds).i * c.eraseBlockSize) c.eraseBlockSize = some fmh ∧
      moduleType fmh.header = moduleFmhFirmware := by
  refine whileN_inv (P := fun s : ScanState => s.found = true → ∃ fmh,
    scanforFMHUseReadFn f (offset + s.i * c.eraseBlockSize) c.eraseBlockSize = some fmh ∧
      moduleType fmh.header = moduleFmhFirmware) (fun s _ hgoes hfound => ?_) (fun h => absurd h (by decide)) rounds hfound
  rw [scanGoesOn, Bool.and_eq_true, Bool.not_eq_true'] at hgoes
  obtain ⟨hi, hfmh⟩ := scanRound_found hgoes.1 hfound
  rw [hi]
  exact hfmh

theorem moduleType_of_scanFor (h : scanFor c offset f rounds = some (some fmh)) :
    moduleType fmh.header = moduleFmhFirmware := by
  rw [scanFor] at h
  split_ifs at h with hgoes hend
  · cases h
  · rw [scanGoesOn, Bool.and_eq_true, Bool.not_eq_true', decide_eq_true_iff] at hgoes
    have hfound : (scanLoop c offset f rounds).found = true := by
      by_contra hnot
      exact hgoes ⟨Bool.eq_false_of_not_eq_true hnot, UInt32.not_le.1 hend⟩
    obtain ⟨found, hscan, htype⟩ := found_scanLoop hfound
    rw [hscan] at h
    cases h
    exact htype

/-- What a scan can come to. -/
theorem scanFirmwareModule_cases (h : scanFirmwareModule c offset mtd rounds buffer = some r) :
    (r = ⟨-1, 0, buffer, false⟩ ∧ mtd = .noDevice) ∨
      ∃ f readOk, mtd = .device f readOk ∧
        ((scanFor c offset f rounds = some none ∧ r = ⟨-1, 0, buffer, true⟩) ∨
          ∃ fmh, scanFor c offset f rounds = some (some fmh) ∧
            r = readModule f readOk (moduleOffset c offset f rounds fmh) (sizeOfModule fmh.header) buffer) := by
  cases mtd with
  | noDevice => exact .inl ⟨(Option.some.inj h).symm, rfl⟩
  | device f readOk =>
    obtain ⟨found, hscan, hr⟩ := Option.map_eq_some_iff.1 h
    cases found with
    | none => exact .inr ⟨f, readOk, rfl, .inl ⟨hscan, hr.symm⟩⟩
    | some fmh => exact .inr ⟨f, readOk, rfl, .inr ⟨fmh, hscan, hr.symm⟩⟩

theorem toInt_toInt32 {size : UInt32} (h : size.toNat < 2 ^ 31) : size.toInt32.toInt = size.toNat := by
  exact BitVec.toInt_eq_toNat_of_lt (x := size.toBitVec) (by
    change 2 * size.toNat < 2 ^ 32
    omega)

/-- A positive result, only after the module has been found and read. -/
theorem foundAndRead_of_pos {secondImage : Bool}
    (h : scanFirmwareModule c (c.imageOffset secondImage) call.mtd call.rounds buffer = some r) (hpos : 0 < r.ret) :
    FoundAndRead c call r.ret := by
  rcases scanFirmwareModule_cases h with ⟨rfl, -⟩ | ⟨f, readOk, hmtd, ⟨-, rfl⟩ | ⟨fmh, hscan, rfl⟩⟩
  · exact absurd hpos (show ¬ (0 : Int32) < -1 by decide)
  · exact absurd hpos (show ¬ (0 : Int32) < -1 by decide)
  · cases readOk with
    | true => exact ⟨f, fmh, secondImage, hmtd, hscan, moduleType_of_scanFor hscan, rfl⟩
    | false => exact absurd hpos (show ¬ (0 : Int32) < -1 by decide)

/-- What is asked for fits into a block, exactly when the module does. -/
theorem asked_le_iff {secondImage : Bool}
    (h : scanFirmwareModule c (c.imageOffset secondImage) call.mtd call.rounds buffer = some r) :
    r.asked ≤ c.eraseBlockSize.toNat ↔ ModuleFits c call secondImage := by
  rcases scanFirmwareModule_cases h with ⟨rfl, hmtd⟩ | ⟨f, readOk, hmtd, ⟨hscan, rfl⟩ | ⟨fmh, hscan, rfl⟩⟩
  · refine iff_of_true (Nat.zero_le _) fun f readOk fmh hdev => ?_
    rw [hmtd] at hdev
    cases hdev
  · refine iff_of_true (Nat.zero_le _) fun f' readOk' fmh hdev hfound => ?_
    rw [hmtd] at hdev
    cases hdev
    rw [hscan] at hfound
    cases hfound
  · have hasked : (readModule f readOk (moduleOffset c (c.imageOffset secondImage) f call.rounds fmh)
        (sizeOfModule fmh.header) buffer).asked = (sizeOfModule fmh.header).toNat := by
      rw [readModule]
      split_ifs <;> rfl
    rw [hasked]
    constructor
    · intro hle f' readOk' fmh' hdev hfound
      rw [hmtd] at hdev
      cases hdev
      rw [hscan] at hfound
      cases hfound
      exact hle
    · exact fun hfits => hfits f readOk fmh hmtd hscan

/-- After a scan of a module that fits, there is no module, and the buffer has what it had or less, or the module is in the
buffer. -/
theorem result_of_fits {secondImage : Bool} (hfits : ModuleFits c call secondImage)
    (h : scanFirmwareModule c (c.imageOffset secondImage) call.mtd call.rounds buffer = some r) :
    (r.ret ≤ 0 ∧ NoModule c call secondImage ∧
        (r.ret = -1 ∧ (∀ i, r.buffer i = none ∨ r.buffer i = buffer i) ∨ r.ret = 0)) ∨
      (0 < r.ret ∧ ¬ NoModule c call secondImage ∧ r.ret.toUInt32.toNat ≤ c.eraseBlockSize.toNat ∧
        ∀ i < r.ret.toUInt32.toNat, (r.buffer i).isSome = true) := by
  have hsigned := c.blockSigned
  rcases scanFirmwareModule_cases h with ⟨rfl, hmtd⟩ | ⟨f, readOk, hmtd, ⟨hscan, rfl⟩ | ⟨fmh, hscan, rfl⟩⟩
  · exact .inl ⟨show (-1 : Int32) ≤ 0 by decide, .inl hmtd, .inl ⟨rfl, fun _ => .inr rfl⟩⟩
  · exact .inl ⟨show (-1 : Int32) ≤ 0 by decide, .inr ⟨f, readOk, hmtd, .inl hscan⟩, .inl ⟨rfl, fun _ => .inr rfl⟩⟩
  · have hle := hfits f readOk fmh hmtd hscan
    cases readOk with
    | false =>
      refine .inl ⟨show (-1 : Int32) ≤ 0 by decide, .inr ⟨f, false, hmtd, .inr ⟨fmh, hscan, .inl rfl⟩⟩,
        .inl ⟨rfl, fun i => ?_⟩⟩
      rw [readModule, if_neg (by decide)]
      dsimp only
      split_ifs
      · exact .inl rfl
      · exact .inr rfl
    | true =>
      have hret := toInt_toInt32 (show (sizeOfModule fmh.header).toNat < 2 ^ 31 by omega)
      by_cases hzero : sizeOfModule fmh.header = 0
      · refine .inl ⟨?_, .inr ⟨f, true, hmtd, .inr ⟨fmh, hscan, .inr hzero⟩⟩, .inr ?_⟩
        · rw [readModule, if_pos rfl, hzero]
          exact show (0 : Int32) ≤ 0 by decide
        · rw [readModule, if_pos rfl, hzero]
          rfl
      · have hpos : 0 < (sizeOfModule fmh.header).toNat := Nat.pos_of_ne_zero fun h => hzero (UInt32.toNat_inj.1 h)
        refine .inr ⟨?_, ?_, ?_, fun i hi => ?_⟩
        · rw [readModule, if_pos rfl, Int32.lt_iff_toInt_lt, hret]
          change (0 : Int) < _
          omega
        · rintro (hno | ⟨f', readOk', hdev, hnone | ⟨fmh', hfound, hfails⟩⟩)
          · rw [hmtd] at hno
            cases hno
          · rw [hmtd] at hdev
            cases hdev
            rw [hscan] at hnone
            cases hnone
          · rw [hmtd] at hdev
            cases hdev
            rw [hscan] at hfound
            cases hfound
            exact hfails.elim (by decide) hzero
        · exact hle
        · rw [readModule, if_pos rfl] at hi ⊢
          dsimp only at hi ⊢
          rw [if_pos (show i < (sizeOfModule fmh.header).toNat from hi)]
          rfl

end ScanFacts

/-! ## Replies -/

section Replies

variable {c : FwInfoConfig} {s : FwInfoState} {call : ReadCall} {buffer : InfoBuffer} {size : UInt32} {reply : ReadReply}
  {r : ScanResult}

/-- What is copied is good. -/
def CopyGood (call : ReadCall) (reply : ReadReply) : Prop :=
  reply.copied.length ≤ call.count.toNat ∧ ∀ x ∈ reply.copied, x.isSome = true

theorem copyGood_nil (h : reply.copied = []) : CopyGood call reply := by
  rw [CopyGood, h]
  exact ⟨Nat.zero_le _, fun x hx => absurd hx List.not_mem_nil⟩

theorem mem_slice {n : ℕ} {x : Option UInt8} : x ∈ slice buffer 0 n ↔ ∃ i < n, buffer i = x := by
  simp [slice]

theorem copyGood_copyToUser {n : ℕ} {ret : Int32} :
    CopyGood call (copyToUser call buffer n ret) ↔ n ≤ call.count.toNat ∧ ∀ i < n, (buffer i).isSome = true := by
  rw [CopyGood, copyToUser, length_slice]
  refine and_congr_right fun _ => ⟨fun h i hi => h _ (mem_slice.2 ⟨i, hi, rfl⟩), fun h x hx => ?_⟩
  obtain ⟨i, hi, rfl⟩ := mem_slice.1 hx
  exact h i hi

/-- Bytes that have been put into the buffer are copied, `count` of them at most. -/
theorem copyGood_copyReply (hfilled : ∀ i < size.toNat, (buffer i).isSome = true) :
    CopyGood call (copyReply call size buffer) := by
  rw [copyReply]
  have hmin : (if call.count < size then call.count else size).toNat ≤ call.count.toNat ∧
      (if call.count < size then call.count else size).toNat ≤ size.toNat := by
    split_ifs with h
    · exact ⟨le_rfl, (UInt32.lt_iff_toNat_lt.1 h).le⟩
    · exact ⟨UInt32.le_iff_toNat_le.1 (UInt32.not_lt.1 h), le_rfl⟩
  by_cases hpos : 0 < (if call.count < size then call.count else size).toInt32
  · rw [if_pos hpos]
    exact copyGood_copyToUser.2 ⟨hmin.1, fun i hi => hfilled i (by omega)⟩
  · rw [if_neg hpos]
    exact copyGood_nil rfl

/-- After a scan that has failed, -1 counts as the greatest size. -/
theorem copyGood_failed (hnone : ∀ i, buffer i = none) :
    CopyGood call (copyReply call (-1 : Int32).toUInt32 buffer) ↔ call.count.toInt32 ≤ 0 := by
  rw [copyReply]
  by_cases hlt : call.count < (-1 : Int32).toUInt32
  · rw [if_pos hlt]
    by_cases hpos : 0 < call.count.toInt32
    · rw [if_pos hpos, copyGood_copyToUser]
      refine iff_of_false (fun h => ?_) fun h => absurd hpos (Int32.not_lt.2 h)
      have hcount : 0 < call.count.toNat := by
        rcases Nat.eq_zero_or_pos call.count.toNat with hzero | hp
        · rw [show call.count = 0 from UInt32.toNat_inj.1 hzero] at hpos
          exact absurd hpos (by decide)
        · exact hp
      have hfirst := h.2 0 hcount
      rw [hnone 0] at hfirst
      cases hfirst
    · rw [if_neg hpos]
      exact iff_of_true (copyGood_nil rfl) (Int32.not_lt.1 hpos)
  · rw [if_neg hlt, if_neg (by decide)]
    refine iff_of_true (copyGood_nil rfl) ?_
    have hmax : call.count = 0xFFFFFFFF := by
      rw [UInt32.lt_iff_toNat_lt] at hlt
      have hbound := call.count.toNat_lt
      have hlast : (-1 : Int32).toUInt32.toNat = 2 ^ 32 - 1 := by decide
      refine UInt32.toNat_inj.1 ?_
      change _ = 2 ^ 32 - 1
      omega
    rw [hmax]
    decide

theorem filled_putText {text : List UInt8} (i : ℕ) (hi : i < text.length) : (putText text buffer i).isSome = true := by
  have hi' : i < ((text ++ [0]).map some).length := by
    rw [List.length_map, List.length_append]
    omega
  rw [putText, store_zero_apply, List.getElem?_eq_getElem hi', Option.getD_some, List.getElem_map]
  rfl

theorem replyGood_iff (hasked : reply.asked = 0) (hscanned : reply.scanned = none) :
    ReplyGood c call reply ↔ CopyGood call reply := by
  refine ⟨fun h => ⟨h.count, h.filled⟩, fun h => ⟨hasked ▸ Nat.zero_le _, fun ret hret => ?_, h.1, h.2⟩⟩
  rw [hscanned] at hret
  cases hret

theorem replyGood_noReply : ReplyGood c call noReply := (replyGood_iff rfl rfl).2 (copyGood_nil rfl)

theorem replyGood_copyReply_iff : ReplyGood c call (copyReply call size buffer) ↔
    CopyGood call (copyReply call size buffer) := by
  refine replyGood_iff ?_ ?_
  all_goals
    rw [copyReply]
    split_ifs <;> rfl

/-- A reply after a scan is good when the module fits and the copy is good. -/
theorem replyGood_after {secondImage : Bool}
    (h : scanFirmwareModule c (c.imageOffset secondImage) call.mtd call.rounds buffer = some r) :
    ReplyGood c call (reply.after r) ↔ ModuleFits c call secondImage ∧ CopyGood call reply := by
  constructor
  · exact fun hgood => ⟨(asked_le_iff h).1 hgood.bounded, hgood.count, hgood.filled⟩
  · rintro ⟨hfits, hcount, hfilled⟩
    refine ⟨(asked_le_iff h).2 hfits, fun ret hret hpos => ?_, hcount, hfilled⟩
    obtain rfl : r.ret = ret := Option.some.inj hret
    exact foundAndRead_of_pos h hpos

end Replies

/-! ## The files -/

section Runs

variable {c : FwInfoConfig} {s : FwInfoState} {call : ReadCall} {buffer : InfoBuffer} {file : FwFile}

/-- What is kept between the reads of `FwInfo`: nothing, a failure and an empty buffer, or as many bytes as the size says. -/
structure Kept (s : FwInfoState) : Prop where
  fresh : s.firsttime = true → s.cached .fwInfo = none ∧ s.fwInfoSize = 0
  kept : s.firsttime = false → ∃ buffer, s.cached .fwInfo = some buffer ∧
    (s.fwInfoSize = -1 ∧ (∀ i, buffer i = none) ∨
      s.fwInfoSize ≠ -1 ∧ ∀ i < s.fwInfoSize.toUInt32.toNat, (buffer i).isSome = true)

theorem Kept.of_read (buffer : InfoBuffer) (hfirst : s.firsttime = false) (hcached : s.cached .fwInfo = some buffer)
    (h : s.fwInfoSize = -1 ∧ (∀ i, buffer i = none) ∨
      s.fwInfoSize ≠ -1 ∧ ∀ i < s.fwInfoSize.toUInt32.toNat, (buffer i).isSome = true) : Kept s where
  fresh hnot := absurd (hfirst.symm.trans hnot) (by decide)
  kept _ := ⟨buffer, hcached, h⟩

theorem Kept.of_same {s' : FwInfoState} (h : Kept s) (hfirst : s'.firsttime = s.firsttime)
    (hsize : s'.fwInfoSize = s.fwInfoSize) (hcached : s'.cached .fwInfo = s.cached .fwInfo) : Kept s' where
  fresh := by
    rw [hfirst, hsize, hcached]
    exact h.fresh
  kept := by
    rw [hfirst, hsize, hcached]
    exact h.kept

theorem setBuffer_cached_of_ne {file' : FwFile} (h : file' ≠ file) :
    (s.setBuffer file buffer).cached file' = s.cached file' := Function.update_of_ne h ..

/-- A scan that does not come back has met no module. -/
theorem moduleFits_of_none {secondImage : Bool}
    (h : scanFirmwareModule c (c.imageOffset secondImage) call.mtd call.rounds buffer = none) :
    ModuleFits c call secondImage := by
  intro f readOk fmh hmtd hscan
  rw [hmtd, scanFirmwareModule, hscan] at h
  cases h

theorem not_noModule_of_none {secondImage : Bool}
    (h : scanFirmwareModule c (c.imageOffset secondImage) call.mtd call.rounds buffer = none) :
    ¬ NoModule c call secondImage := by
  rintro (hmtd | ⟨f, readOk, hmtd, hscan | ⟨fmh, hscan, -⟩⟩)
  · rw [hmtd] at h
    cases h
  all_goals
    rw [hmtd, scanFirmwareModule, hscan] at h
    cases h

/-- **The first read of `FwInfo`.** -/
theorem readFirst_spec (hs : s.firsttime = true) (hsize : s.fwInfoSize = 0) :
    (ReplyGood c call (readFirst c (s.setBuffer .fwInfo freshBuffer) call freshBuffer).2 ↔ FwInfoFits c s call) ∧
      (FwInfoFits c s call → Kept (readFirst c (s.setBuffer .fwInfo freshBuffer) call freshBuffer).1) := by
  have hsupport : (s.setBuffer .fwInfo freshBuffer).mtdSupport = s.mtdSupport := rfl
  rw [FwInfoFits, if_pos hs, readFirst]
  simp only [hsupport]
  by_cases hmtd : s.mtdSupport = true
  · rw [if_pos hmtd]
    simp only [hmtd, true_implies]
    cases hscan : scanFirmwareModule c (c.imageOffset (call.runningImage % 256 = 2)) call.mtd call.rounds freshBuffer with
    | none =>
      dsimp only
      refine ⟨iff_of_true replyGood_noReply (moduleFits_of_none hscan), fun _ =>
        .of_read freshBuffer rfl rfl (.inr ⟨show s.fwInfoSize ≠ -1 by rw [hsize]; decide, fun i hi => ?_⟩)⟩
      change i < s.fwInfoSize.toUInt32.toNat at hi
      rw [hsize] at hi
      exact absurd hi (Nat.not_lt_zero i)
    | some r =>
      dsimp only
      by_cases hret : r.ret ≤ 0
      · rw [if_pos hret]
        refine ⟨(replyGood_after hscan).trans (and_iff_left (copyGood_nil rfl)), fun hfits =>
          .of_read r.buffer rfl rfl ?_⟩
        rcases result_of_fits hfits hscan with ⟨-, -, ⟨hminus, hbuffer⟩ | hzero⟩ | ⟨hpos, -⟩
        · exact .inl ⟨hminus, fun i => (hbuffer i).elim id id⟩
        · refine .inr ⟨show r.ret ≠ -1 by rw [hzero]; decide, fun i hi => ?_⟩
          change i < r.ret.toUInt32.toNat at hi
          rw [hzero] at hi
          exact absurd hi (Nat.not_lt_zero i)
        · exact absurd hret (Int32.not_le.2 hpos)
      · rw [if_neg hret]
        have hfilled (hfits : ModuleFits c call (call.runningImage % 256 = 2)) :
            ∀ i < r.ret.toUInt32.toNat, (r.buffer i).isSome = true := by
          rcases result_of_fits hfits hscan with ⟨hle, -⟩ | ⟨-, -, -, h⟩
          · exact absurd hle hret
          · exact h
        have hminus : r.ret ≠ -1 := fun h => hret (h ▸ by decide)
        refine ⟨(replyGood_after hscan).trans (and_iff_left_of_imp fun hfits => copyGood_copyReply (hfilled hfits)),
          fun hfits => .of_read r.buffer rfl rfl (.inr ⟨hminus, hfilled hfits⟩)⟩
  · rw [if_neg hmtd]
    have hlength := dummy_lt.2
    generalize hardcodedFwInfo = text at hlength ⊢
    have hnat : (UInt32.ofNat text.length).toNat = text.length := by
      rw [UInt32.toNat_ofNat', Nat.mod_eq_of_lt (by omega)]
    have hminus : (UInt32.ofNat text.length).toInt32 ≠ -1 := by
      intro h
      have h' := congrArg (fun x : Int32 => x.toUInt32.toNat) h
      change (UInt32.ofNat text.length).toNat = 2 ^ 32 - 1 at h'
      omega
    have hfilled : ∀ i < (UInt32.ofNat text.length).toNat, (putText text freshBuffer i).isSome = true := by
      intro i hi
      exact filled_putText i (hnat ▸ hi)
    exact ⟨iff_of_true (replyGood_copyReply_iff.2 (copyGood_copyReply hfilled)) fun h => absurd h hmtd,
      fun _ => .of_read (putText text freshBuffer) rfl rfl (.inr ⟨hminus, hfilled⟩)⟩

theorem readFwInfo_of_not (h : ¬ (call.offset = 0 ∧ ¬ (s.cached .fwInfo = none ∧ call.kmallocOk = false))) :
    readFwInfo c s call = (s, noReply) := by
  rw [readFwInfo]
  by_cases hoffset : call.offset = 0
  · rw [if_neg (not_not.2 hoffset), if_pos (not_not.1 fun hnot => h ⟨hoffset, hnot⟩)]
  · rw [if_pos hoffset]

/-- **A read of `FwInfo`.** -/
theorem readFwInfo_spec (hs : Kept s) (hfile : call.file = .fwInfo) :
    (ReplyGood c call (readFwInfo c s call).2 ↔ (ReadsOn s call → FwInfoFits c s call)) ∧
      ((ReadsOn s call → FwInfoFits c s call) → Kept (readFwInfo c s call).1) := by
  rw [ReadsOn, hfile]
  by_cases hon : call.offset = 0 ∧ ¬ (s.cached .fwInfo = none ∧ call.kmallocOk = false)
  · simp only [hon, not_false_eq_true, and_self, true_implies]
    rw [readFwInfo, if_neg (not_not.2 hon.1), if_neg hon.2]
    cases hfirst : s.firsttime with
    | true =>
      obtain ⟨hnone, hsize⟩ := hs.fresh hfirst
      rw [hnone, Option.getD_none]
      dsimp only
      rw [if_pos (by exact hfirst)]
      exact readFirst_spec hfirst hsize
    | false =>
      obtain ⟨buffer, hcached, hkept⟩ := hs.kept hfirst
      rw [hcached, Option.getD_some]
      dsimp only
      rw [if_neg (by rw [show (s.setBuffer .fwInfo buffer).firsttime = s.firsttime from rfl, hfirst]; decide)]
      refine ⟨?_, fun _ => .of_read buffer hfirst rfl hkept⟩
      rw [replyGood_copyReply_iff, FwInfoFits, hfirst, if_neg (by decide)]
      change CopyGood call (copyReply call s.fwInfoSize.toUInt32 buffer) ↔ _
      by_cases hfailed : s.fwInfoSize = -1
      · obtain ⟨-, hnone⟩ := hkept.resolve_right fun h => h.1 hfailed
        rw [hfailed, copyGood_failed hnone, or_iff_right (by decide)]
      · obtain ⟨-, hfilled⟩ := hkept.resolve_left fun h => hfailed h.1
        exact iff_of_true (copyGood_copyReply hfilled) (.inl hfailed)
  · rw [readFwInfo_of_not hon]
    simp only [hon, false_implies, iff_true]
    exact ⟨replyGood_noReply, fun _ => hs⟩

/-- **A read of the file of an image.** -/
theorem readImageInfo_spec (c : FwInfoConfig) (call : ReadCall) {file : FwFile} (secondImage : Bool) (hs : Kept s)
    (hfile : file ≠ .fwInfo) :
    (ReplyGood c call (readImageInfo c s call file secondImage).2 ↔
        (call.offset = 0 ∧ ¬ (s.cached file = none ∧ call.kmallocOk = false) → ImageInfoFits c s call secondImage)) ∧
      Kept (readImageInfo c s call file secondImage).1 := by
  have hkept : ∀ b : InfoBuffer, Kept (s.setBuffer file b) := fun b =>
    hs.of_same rfl rfl (setBuffer_cached_of_ne hfile.symm)
  have hkept' : ∀ (b b' : InfoBuffer) (m : Bool), Kept { (s.setBuffer file b).setBuffer file b' with mtdSupport := m } :=
    fun b b' m => (hkept b).of_same rfl rfl (setBuffer_cached_of_ne hfile.symm)
  rw [readImageInfo]
  by_cases hoffset : call.offset = 0
  · rw [if_neg (not_not.2 hoffset)]
    by_cases halloc : s.cached file = none ∧ call.kmallocOk = false
    · rw [if_pos halloc]
      exact ⟨iff_of_true replyGood_noReply fun h => absurd halloc h.2, hs⟩
    · rw [if_neg halloc]
      simp only [hoffset, halloc, not_false_eq_true, and_self, true_implies, ImageInfoFits]
      generalize (s.cached file).getD freshBuffer = buffer
      by_cases hmtd : s.mtdSupport = true
      · rw [if_pos (by exact hmtd)]
        simp only [hmtd, true_implies]
        cases hscan : scanFirmwareModule c (c.imageOffset secondImage) call.mtd call.rounds buffer with
        | none =>
          exact ⟨iff_of_true replyGood_noReply ⟨moduleFits_of_none hscan, fun h => absurd h (not_noModule_of_none hscan)⟩,
            hkept _⟩
        | some r =>
          dsimp only
          by_cases hret : r.ret ≤ 0
          · rw [if_pos hret]
            refine ⟨(replyGood_after hscan).trans (and_congr_right fun hfits => ?_), hkept' _ _ _⟩
            have hno : NoModule c call secondImage := by
              rcases result_of_fits hfits hscan with ⟨-, hno, -⟩ | ⟨hpos, -⟩
              · exact hno
              · exact absurd hret (Int32.not_le.2 hpos)
            rw [copyGood_copyToUser]
            simp only [hno, true_implies]
            exact and_iff_left fun i hi => filled_putText i hi
          · rw [if_neg hret]
            refine ⟨(replyGood_after hscan).trans (and_congr_right fun hfits => ?_), hkept' _ _ _⟩
            rcases result_of_fits hfits hscan with ⟨hle, -⟩ | ⟨-, hnot, -, hfilled⟩
            · exact absurd hle hret
            · exact iff_of_true (copyGood_copyReply hfilled) fun h => absurd h hnot
      · rw [if_neg (by exact hmtd)]
        have hnothing : ∀ i < (0 : UInt32).toNat, (buffer i).isSome = true := fun i hi => absurd hi (Nat.not_lt_zero i)
        refine ⟨iff_of_true ?_ fun h => absurd h hmtd, hkept _⟩
        exact replyGood_copyReply_iff.2 (copyGood_copyReply hnothing)
  · rw [if_pos hoffset]
    exact ⟨iff_of_true replyGood_noReply fun h => absurd h.1 hoffset, hs⟩

/-- **A read of any of the files.** -/
theorem readFile_spec (hs : Kept s) : (ReplyGood c call (readFile c s call).2 ↔ ReadFits c s call) ∧
    (ReadFits c s call → Kept (readFile c s call).1) := by
  rw [readFile, ReadFits]
  cases hfile : call.file with
  | fwInfo => exact readFwInfo_spec hs hfile
  | fwInfo1 =>
    obtain ⟨hgood, hkept⟩ := readImageInfo_spec c call false hs (show FwFile.fwInfo1 ≠ .fwInfo by decide)
    rw [ReadsOn, hfile]
    exact ⟨hgood, fun _ => hkept⟩
  | fwInfo2 =>
    obtain ⟨hgood, hkept⟩ := readImageInfo_spec c call true hs (show FwFile.fwInfo2 ≠ .fwInfo by decide)
    rw [ReadsOn, hfile]
    exact ⟨hgood, fun _ => hkept⟩

end Runs

/-! ## A first scan that fails -/

/-- Erase blocks of 64 KiB, in a flash of two images of 64 KiB. -/
def twoImages : FwInfoConfig := ⟨0, 0, 0x10000, 0x10000, by decide, by decide⟩

/-- A read of `FwInfo` with a count of 16, without a device. -/
def readWithoutDevice : ReadCall := ⟨.fwInfo, 0, 16, true, .noDevice, 0, 1, true⟩

end BmcHelper
