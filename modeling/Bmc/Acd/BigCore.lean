import Bmc.Acd.Peci

/-!
# The big-core dump

`BigCore.c`: the crashdump of one thread is read frame by frame into a buffer whose size the first
frame gives, and logged register by register from there.

* `BigCoreInput`: the part of the input file with the register lists;
* `CrashDump`, `registerDump`, `crashdumpJsonICX`, `crashdumpJsonSPR`, `rawdumpJson`: the log lines;
* `readFrames`: the loop over the frames; `queryForCrashDataForThread`.
-/

namespace BmcAcd

open BmcLib

/-! ## Data -/

/-- `Model`. -/
inductive Model where
  | icx
  | icx2
  | spr
  | sprhbm
  | icxd
  deriving DecidableEq, Repr

/-- `executionStatus`. -/
inductive ExecutionStatus where
  | allRegisters
  | tillAbort
  | aborted
  deriving DecidableEq, Repr

/-- `BigCoreCollectionStatus`. -/
inductive BigCoreCollectionStatus where
  | crashDataCollectionSuccess
  | skipToNextCore
  | skipToNextSocket
  | errorGetCrashdump
  | allocationFailure
  | errorMaxCollectionTimeExceeded
  deriving DecidableEq, Repr

/-- `PECI_CC_SKIP_CORE`. -/
def peciCcSkipCore (cc : UInt8) : Prop :=
  cc = 0x93 ∨ cc = 0x80 ∨ cc = 0x81 ∨ cc = 0x82 ∨ cc = 0x90 ∨ cc = 0x91

instance (cc : UInt8) : Decidable (peciCcSkipCore cc) :=
  inferInstanceAs (Decidable (_ ∨ _ ∨ _ ∨ _ ∨ _ ∨ _))

/-- `PECI_CC_SKIP_SOCKET`. -/
def peciCcSkipSocket (cc : UInt8) : Prop := cc = 0x98 ∨ cc = 0x9B ∨ cc = 0x9C

instance (cc : UInt8) : Decidable (peciCcSkipSocket cc) :=
  inferInstanceAs (Decidable (_ ∨ _ ∨ _))

/-- `UCrashdumpVerSize`: the fields of the first frame. -/
structure CrashdumpVerSize where
  version : ℕ
  regDumpSize : ℕ
  sqDumpSize : ℕ

/-- The union read as its fields. -/
def CrashdumpVerSize.ofRaw (raw : ℕ → UInt8) : CrashdumpVerSize where
  version := leNat (slice raw 0 4)
  regDumpSize := leNat (slice raw 4 2)
  sqDumpSize := leNat (slice raw 6 2)

/-! ## The input file -/

/-- `SCrashdumpRegICX1`. -/
structure SCrashdumpRegICX1 where
  name : String
  size : UInt8
  deriving DecidableEq, Repr

/-- An element of `decode`. `size` is the number in `_size`, 0 without it. -/
structure BigCoreMap where
  version : Option (List String)
  regList : Option (List SCrashdumpRegICX1)
  size : UInt32
  deriving DecidableEq, Repr

/-- The section `big_core` of the input file. -/
structure BigCoreInput where
  enable : Bool
  decode : Option (List BigCoreMap)
  deriving DecidableEq, Repr

/-- A version as `0x%x`. -/
def versionName (version : ℕ) : List Char := "0x".toList ++ Nat.toDigits 16 version

namespace BigCoreInput

variable (inp : BigCoreInput) (version : ℕ)

/-- `getValidBigCoreMap`: the comparison ends with the name of the version. -/
def getValidBigCoreMap : Option BigCoreMap :=
  (inp.decode.getD []).find? fun m =>
    (m.version.getD []).any fun v => (versionName version).isPrefixOf v.toList

/-- `isBigCoreRegVersionMatch`. -/
def isBigCoreRegVersionMatch : Bool := inp.enable && (inp.getValidBigCoreMap version).isSome

/-- `getCrashDataSectionBigCoreRegList`, for an enabled section. -/
def regList : Option (List SCrashdumpRegICX1) :=
  (inp.getValidBigCoreMap version).bind BigCoreMap.regList

/-- `ACD_INVALID_OBJECT`. -/
abbrev acdInvalidObject : ℕ := 2

/-- `getTotalInputRegsSize`, for an enabled section. The size that it keeps in `_size` is the one that
it computes again without it. -/
def getTotalInputRegsSize : ℕ :=
  match inp.getValidBigCoreMap version with
  | none => acdInvalidObject
  | some m =>
    if m.size ≠ 0 then m.size.toNat
    else match m.regList with
      | none => acdInvalidObject
      | some regs => (regs.map fun r => r.size.toNat).sum % 2 ^ 32

/-- `isStoreDecoded`. -/
def isStoreDecoded (f : CrashdumpVerSize) : Bool :=
  inp.isBigCoreRegVersionMatch f.version && inp.getTotalInputRegsSize f.version == f.regDumpSize

end BigCoreInput

/-! ## Log lines -/

/-- The objects with SQ data. -/
inductive SqObject where
  | sq
  | sqd
  | sqs
  deriving DecidableEq, Repr

/-- The name of an item. -/
inductive DumpName where
  | register (name : String)
  | entry (object : SqObject) (i : ℕ)
  | unexpectedSize (object : SqObject)
  | sqRaw (object : SqObject) (i : ℕ)
  | raw (item : ℕ)
  deriving DecidableEq, Repr

/-- The string of an item. -/
inductive DumpText where
  | value (bytes : List UInt8)
  | tooSmall
  | fixedDataCcRc (cc : UInt8) (ret : EPECIStatus)
  | dataCcRc (t : DumpText) (cc : UInt8) (ret : EPECIStatus)
  | size (n : ℕ)
  deriving DecidableEq, Repr

/-- An item of the log. `index` and `numBytes` are the part of the dump from which its string was
made. -/
structure DumpLine where
  name : DumpName
  index : ℕ
  numBytes : ℕ
  text : DumpText
  deriving DecidableEq, Repr

/-- The arguments of the functions that log a dump: its size and bytes, the number of bytes that count as
read, and the outcome of the last read. -/
structure CrashDump where
  size : ℕ
  data : ℕ → UInt8
  numReads : ℕ
  cc : UInt8
  ret : EPECIStatus

namespace CrashDump

variable (d : CrashDump)

/-- `CD_JSON_STRING_LEN`. -/
abbrev cdJsonStringLen : ℕ := 256

/-- `SIZE_OF_0x0`. -/
abbrev sizeOf0x0 : ℕ := 3

/-- `CD_JSON_SQ_ENTRY_SIZE`. -/
abbrev cdJsonSqEntrySize : ℕ := 8

/-- `getJsonDataString`, if there is enough data. -/
def getJsonDataString (index numBytes : ℕ) : Option DumpText :=
  if d.size < index + numBytes then none
  else if cdJsonStringLen < numBytes * 2 + sizeOf0x0 then some .tooSmall
  else some (.value (slice d.data index numBytes))

/-- The string of a register or an SQ entry that ends at the byte `stop`. -/
def withStatus (stop : ℕ) (t : DumpText) : DumpText :=
  if d.numReads < stop then
    if d.ret ≠ .success then .fixedDataCcRc d.cc d.ret
    else if peciCcUA d.cc then .dataCcRc t d.cc d.ret
    else t
  else t

/-- `registerDump`: the lines and the data index that it returns. -/
def registerDump : ℕ → List SCrashdumpRegICX1 → List DumpLine × ℕ
  | index, [] => ([], index)
  | index, reg :: regs =>
    match d.getJsonDataString index reg.size.toNat with
    | none => ([], d.size)
    | some t =>
      let stop := index + reg.size.toNat
      let line := ⟨.register reg.name, index, reg.size.toNat, d.withStatus stop t⟩
      -- the loop is left behind the first error
      if d.numReads < stop ∧ (d.ret ≠ .success ∨ peciCcUA d.cc) then ([line], d.size)
      else
        let r := registerDump stop regs
        (line :: r.1, r.2)

/-- An SQ item, on the data index and the lines. -/
def sqItem (line : ℕ → DumpText → DumpLine) (s : ℕ × List DumpLine) : ℕ × List DumpLine :=
  match d.getJsonDataString s.1 cdJsonSqEntrySize with
  | none => s
  | some t => (s.1 + cdJsonSqEntrySize, s.2 ++ [line s.1 t])

/-- `logSqData`. -/
def logSqData (object : SqObject) (s : ℕ × List DumpLine) (i : ℕ) : ℕ × List DumpLine :=
  d.sqItem (fun index t => ⟨.entry object i, index, cdJsonSqEntrySize,
    d.withStatus (index + cdJsonSqEntrySize) t⟩) s

/-- `logSqDataRaw`. -/
def logSqDataRaw (object : SqObject) (s : ℕ × List DumpLine) (i : ℕ) : ℕ × List DumpLine :=
  d.sqItem (fun index t => ⟨.sqRaw object i, index, cdJsonSqEntrySize, t⟩) s

/-- The SQ data whose size is not the expected one. -/
def sqRaw (object : SqObject) (s : ℕ × List DumpLine) : ℕ × List DumpLine :=
  (List.range (d.size - s.1)).foldl (d.logSqDataRaw object)
    (s.1, s.2 ++ [⟨.unexpectedSize object, s.1, 0, .size (d.size - s.1)⟩])

/-- `CD_JSON_NUM_SQ_ENTRIES`. -/
abbrev cdJsonNumSqEntries : ℕ := 64

/-- `CD_JSON_NUM_SPR_SQD_ENTRIES`. -/
abbrev cdJsonNumSprSqdEntries : ℕ := 48

/-- `CD_JSON_NUM_SPR_SQS_ENTRIES`. -/
abbrev cdJsonNumSprSqsEntries : ℕ := 48

/-- `registerDump` on the registers of the input file, if there are any. -/
def registers (regs : Option (List SCrashdumpRegICX1)) : List DumpLine × ℕ :=
  match regs with
  | none => ([], d.size)
  | some regs => d.registerDump 0 regs

/-- `crashdumpJsonICX`. -/
def crashdumpJsonICX (regs : Option (List SCrashdumpRegICX1)) : List DumpLine :=
  let r := d.registers regs
  if d.size ≤ r.2 then r.1
  else if cdJsonNumSqEntries * 8 = d.size - r.2 then
    -- as many rounds as there are bytes
    ((List.range (d.size - r.2)).foldl (d.logSqData .sq) (r.2, r.1)).2
  else (d.sqRaw .sq (r.2, r.1)).2

/-- `crashdumpJsonSPR`. -/
def crashdumpJsonSPR (regs : Option (List SCrashdumpRegICX1)) : List DumpLine :=
  let r := d.registers regs
  if d.size ≤ r.2 then r.1
  else if (cdJsonNumSprSqdEntries + cdJsonNumSprSqsEntries) * 8 = d.size - r.2 then
    ((List.range cdJsonNumSprSqsEntries).foldl (d.logSqData .sqs)
      ((List.range cdJsonNumSprSqdEntries).foldl (d.logSqData .sqd) (r.2, r.1))).2
  else (d.sqRaw .sqd (r.2, r.1)).2

/-- `rawdumpJsonICXSPR` from the byte `index` on, for at most `fuel` items. -/
def rawdumpJson : ℕ → ℕ → List DumpLine
  | 0, _ => []
  | fuel + 1, index =>
    if index < d.size then
      match d.getJsonDataString index 8 with
      | none => []
      | some t => ⟨.raw index, index, 8, t⟩ :: rawdumpJson fuel (index + 8)
    else []

end CrashDump

/-! ## Reading the frames -/

/-- The arguments of `queryForCrashDataForThread`, with the fields of `CPUInfo` that it uses. `granted`
is whether `calloc` gives memory, `heap` what lies behind it, and `clock` says whether the time for the
section is over. -/
structure BigCoreQuery where
  clientAddr : UInt8
  model : Model
  input : BigCoreInput
  crashedCoreMask : UInt64
  coreNum : ℕ
  threads : ℕ
  waitForCoreCrashdump : Bool
  execStatus : ExecutionStatus
  granted : Bool
  heap : ℕ → UInt8
  bus : Device PeciCall PeciAnswer
  clock : Device Unit Bool

/-- The variables of the loop over the frames. `accesses` are the parts of the dump that were
written, `abortNote` is the item `_bigcore_aborted`. -/
structure FrameLoop where
  ret : EPECIStatus
  cc : UInt8
  data : ℕ → UInt8
  numReads : ℕ
  execStatus : ExecutionStatus
  gotoNextCore : Bool
  abortNote : Bool
  accesses : List (ℕ × ℕ)
  bus : Device PeciCall PeciAnswer
  clock : Device Unit Bool

/-- `PECI_CRASHDUMP_CORE`. -/
abbrev peciCrashdumpCore : UInt16 := 0

namespace BigCoreQuery

variable (q : BigCoreQuery)

/-- The call that asks for a frame. -/
def getFrame : PeciCall :=
  .crashDumpGetFrame q.clientAddr peciCrashdumpCore (UInt16.ofNat q.coreNum) 0 8

/-- What the first frame says. -/
def verSize : CrashdumpVerSize := .ofRaw q.bus.answer.data

/-- `ICX_A0_FRAME_BYTE_OFFSET`. -/
abbrev icxA0FrameByteOffset : ℕ := 32

/-- `calculateCrashdumpSize`. -/
def crashdumpSize : ℕ :=
  if q.model = .icx then q.verSize.regDumpSize + q.verSize.sqDumpSize + icxA0FrameByteOffset
  else q.verSize.regDumpSize + q.verSize.sqDumpSize

/-- The variables before the loop, with the first frame in the dump. -/
def start : FrameLoop where
  ret := q.getFrame.status q.bus.answer
  cc := if q.getFrame.Issued q.bus.answer then q.bus.answer.cc else 0
  data := store (fun b => if b < q.crashdumpSize then 0 else q.heap b) 0
    (slice q.bus.answer.data 0 8)
  numReads := 0
  execStatus := q.execStatus
  gotoNextCore := false
  abortNote := false
  accesses := [(0, 8)]
  bus := q.bus.call q.getFrame
  clock := q.clock

end BigCoreQuery

namespace FrameLoop

variable (s : FrameLoop)

/-- `checkMaxTimeElapsed`, when there is a limit. -/
def checkTime : FrameLoop :=
  if s.execStatus = .tillAbort then
    { s with
      execStatus := if s.clock.answer then .aborted else .tillAbort
      clock := s.clock.call () }
  else s

/-- The frame `i`. -/
def getFrame (c : PeciCall) (i : ℕ) : FrameLoop :=
  let a := s.bus.answer
  { s with
    ret := c.status a
    cc := if c.Issued a then a.cc else s.cc
    data := if c.status a = .success then store s.data (i * 8) (slice a.data 0 8) else s.data
    accesses := if c.status a = .success then s.accesses ++ [(i * 8, 8)] else s.accesses
    numReads := i
    bus := s.bus.call c }

/-- The loop over the frames; the flag is set when the function returns from it. -/
def readFrames (c : PeciCall) : List ℕ → FrameLoop → FrameLoop × Bool
  | [], s => (s, false)
  | i :: is, s =>
    if s.execStatus = .aborted then readFrames c is s
    else if s.checkTime.execStatus = .aborted then ({ s.checkTime with abortNote := true }, false)
    else
      let s := s.checkTime.getFrame c i
      if peciCcSkipCore s.cc then ({ s with gotoNextCore := true }, false)
      else if peciCcSkipSocket s.cc then (s, true)
      else if s.ret ≠ .success then ({ s with gotoNextCore := true }, false)
      else readFrames c is s

end FrameLoop

/-! ## A thread -/

/-- The outcome of `queryForCrashDataForThread`. `accesses` are the parts of the allocated memory that
were read or written. -/
structure BigCoreRun where
  status : BigCoreCollectionStatus
  threadId : ℕ
  lines : List DumpLine
  abortNote : Bool
  crashedCoreMask : UInt64
  waitForCoreCrashdump : Bool
  threads : ℕ
  accesses : List (ℕ × ℕ)
  bus : Device PeciCall PeciAnswer
  clock : Device Unit Bool

/-- `CD_WHO_MISC_OFFSET`. -/
abbrev cdWhoMiscOffset : ℕ := 3

/-- `CD_MT_THREADS_PER_CORE`. -/
abbrev cdMtThreadsPerCore : ℕ := 2

/-- `CRASHDUMP_MAX_SIZE`. -/
abbrev crashdumpMaxSize : ℕ := 0x7f8

/-- `multithread`. -/
def multithread (data : ℕ → UInt8) : Bool :=
  (leNat (slice data (cdWhoMiscOffset * 8) 8)).testBit 32

/-- The parts of the dump from which the lines were made. A string that is too small is not filled. -/
def lineAccesses (lines : List DumpLine) : List (ℕ × ℕ) :=
  (lines.filter fun l => l.numBytes * 2 + CrashDump.sizeOf0x0 ≤ CrashDump.cdJsonStringLen).map
    fun l => (l.index, l.numBytes)

namespace BigCoreQuery

variable (q : BigCoreQuery)

/-- A return before the dump is logged. -/
def leave (status : BigCoreCollectionStatus) (bus : Device PeciCall PeciAnswer) : BigCoreRun where
  status := status
  threadId := 0
  lines := []
  abortNote := false
  crashedCoreMask := q.crashedCoreMask
  waitForCoreCrashdump := q.waitForCoreCrashdump
  threads := q.threads
  accesses := []
  bus := bus
  clock := q.clock

/-- The lines of the dump. -/
def logDump (s : FrameLoop) : List DumpLine :=
  let d : CrashDump := ⟨q.crashdumpSize, s.data, s.numReads * 8 + 8, s.cc, s.ret⟩
  if q.input.isStoreDecoded q.verSize then
    match q.model with
    | .icx | .icx2 | .icxd => d.crashdumpJsonICX (q.input.regList q.verSize.version)
    | .spr => d.crashdumpJsonSPR (q.input.regList q.verSize.version)
    | .sprhbm => []
  else
    { d with size := min d.size crashdumpMaxSize }.rawdumpJson (min d.size crashdumpMaxSize) 0

/-- What follows the loop. -/
def finish (s : FrameLoop) : BigCoreRun where
  status :=
    if s.gotoNextCore then .skipToNextCore
    else if s.execStatus = .aborted then .errorMaxCollectionTimeExceeded
    else .crashDataCollectionSuccess
  threadId := if (leNat (slice s.data (cdWhoMiscOffset * 8) 8)).testBit 0 then 1 else 0
  lines := q.logDump s
  abortNote := s.abortNote
  crashedCoreMask := q.crashedCoreMask ||| (1 <<< UInt64.ofNat q.coreNum)
  waitForCoreCrashdump := false
  threads :=
    if (cdWhoMiscOffset + 1) * 8 ≤ q.crashdumpSize ∧ multithread s.data then cdMtThreadsPerCore
    else q.threads
  accesses := s.accesses ++
    -- the word is tested for threads if it is there, and in any case for the number of the thread
    (if (cdWhoMiscOffset + 1) * 8 ≤ q.crashdumpSize then [(cdWhoMiscOffset * 8, 8)] else []) ++
    [(cdWhoMiscOffset * 8, 8)] ++ lineAccesses (q.logDump s)
  bus := s.bus
  clock := s.clock

/-- The loop, and whether the function returns from it. -/
def frames : FrameLoop × Bool :=
  FrameLoop.readFrames q.getFrame (List.range' 1 (q.crashdumpSize / 8 - 1)) q.start

/-- `queryForCrashDataForThread`. -/
def queryForCrashDataForThread : BigCoreRun :=
  if q.start.ret ≠ .success then q.leave .errorGetCrashdump q.start.bus
  else if peciCcSkipCore q.start.cc then q.leave .skipToNextCore q.start.bus
  else if peciCcSkipSocket q.start.cc then q.leave .skipToNextSocket q.start.bus
  else if ¬ q.granted then q.leave .allocationFailure q.start.bus
  else if q.frames.2 then
    { q.leave .skipToNextSocket q.frames.1.bus with
      crashedCoreMask := q.crashedCoreMask ||| (1 <<< UInt64.ofNat q.coreNum)
      waitForCoreCrashdump := false
      accesses := q.frames.1.accesses
      clock := q.frames.1.clock }
  else q.finish q.frames.1

end BigCoreQuery

end BmcAcd
