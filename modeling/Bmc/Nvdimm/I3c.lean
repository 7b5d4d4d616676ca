import Bmc.Lib.Code
import Bmc.Nvdimm.Peci

/-!
# Transfers over I3C

`i3c_peci.c`: the registers of a DIMM are read and written through an I3C controller of the processor, whose own registers
are reached over PECI.

* `PeciAccess`, `I3cCode`: the accesses over PECI, and programs that make them;
* `bus30ToPostEnumeratedBus`: the bus number of the controllers;
* `waitForCmdData`, `restartSpdController`, `waitForResponse`: the loops that poll;
* `wrRdRegular`, `wrRegular`: the sequences of a read and of a write;
* `i3cBlockRead`, `i3cBlockWrite`: the transfers.
-/

namespace BmcNvdimm

open BmcLib

/-! ## Registers of the controllers -/

/-- The registers in `lpssRegs` that the transfers use; each controller has one of each. -/
inductive LpssReg
  | deviceControl | resetCtrl | intrStatus | commandQueuePort | responseQueuePort | txDataPort
  | dataBufferThldCtrl | presentStateDebug
  deriving DecidableEq, Repr

/-- `lpssRegname`: the row of a register of the first controller. That of the second one is the next. -/
def LpssReg.row : LpssReg → ℕ
  | .deviceControl => 0
  | .resetCtrl => 2
  | .intrStatus => 4
  | .commandQueuePort => 10
  | .responseQueuePort => 12
  | .txDataPort => 14
  | .dataBufferThldCtrl => 16
  | .presentStateDebug => 30

/-- `numberOfLpssRegisters`. -/
abbrev numberOfLpssRegisters : ℕ := 34

/-- The bus numbers in the rows of `lpssRegs`. -/
abbrev LpssBuses := ℕ → UInt8

/-- The bus number is written to all rows. -/
def setBuses (buses : LpssBuses) (bus : UInt8) : LpssBuses := fun i =>
  if i < numberOfLpssRegisters then bus else buses i

/-- An access over PECI: of a configuration register of the processor at `addr`, or of a register of its first or
second controller. -/
inductive PeciAccess
  | rdEndPointConfigPciLocal (addr : UInt8) (offset : ℕ)
  | rdEndPointConfigMmio (addr bus : UInt8) (second : Bool) (reg : LpssReg)
  | wrEndPointConfigMmio (addr bus : UInt8) (second : Bool) (reg : LpssReg) (val : UInt32)
  deriving DecidableEq, Repr

/-- Whether the access has succeeded, and the value that was read. -/
structure PeciAnswer where
  success : Bool
  val : UInt32
  deriving DecidableEq, Repr

/-- Programs that make accesses over PECI. They are left with the status that they return. -/
abbrev I3cCode := Code PeciAccess PeciAnswer PECIStatus

/-- `setFields`, for fields within 32 bits. -/
def setFields (value msb lsb setVal : UInt32) : UInt32 :=
  (value &&& ~~~(((1 <<< (msb - lsb + 1)) - 1) <<< lsb)) ||| (setVal <<< lsb)

/-! ## The bus number -/

/-- `peci_RdEndPointConfigPciLocal`, where the call is left when it fails. -/
def rdPciLocal (addr : UInt8) (offset : ℕ) : I3cCode UInt32 := do
  let a ← Code.call (.rdEndPointConfigPciLocal addr offset)
  if a.success then pure a.val else .leave .i3cRwFail

/-- `POST_ENUM_QUERY_VALID_BIT_OFFSET`. -/
abbrev validBitOffset : ℕ := 0x1a0

/-- `POST_ENUM_QUERY_BUS_NUMBER_OFFSET`. -/
abbrev busNumberOffset : ℕ := 0x1cc

/-- `bus30ToPostEnumeratedBus`, into a variable that is `0`. When there is no valid number, it returns what the read has
returned, which is success. -/
def bus30ToPostEnumeratedBus (addr : UInt8) : I3cCode UInt8 := do
  let cpubusnoValid ← rdPciLocal addr validBitOffset
  if checkBit cpubusnoValid 30 = false then pure 0
  else do
    let cpubusno7 ← rdPciLocal addr busNumberOffset
    pure ((cpubusno7 >>> 16) &&& 0xff).toUInt8

/-! ## Transfers -/

/-- `SPDMode`, the modes that are used. -/
inductive SPDMode
  | i2cMode0 | i3cMode0
  deriving DecidableEq, Repr

/-- The fields of `peci_lpss_t` that nothing assigns. -/
structure Unassigned where
  cp : UInt8
  cmd : UInt8
  modeSpeed : UInt8
  deriving DecidableEq, Repr

/-- `peci_lpss_t`. -/
structure Lpss where
  peciAddr : UInt8
  mc : UInt8
  channel : UInt8
  addr : UInt8
  wdataList : ℕ → UInt8
  wdataSize : UInt8
  mode : SPDMode
  unassigned : Unassigned

/-- `getSPDBusNum` is not `0`: the memory controllers from 2 on use the second controller. -/
def Lpss.second (l : Lpss) : Bool := l.mc >>> 1 ≠ 0

section Registers

variable (buses : LpssBuses) (l : Lpss)

/-- The bus number in the row of a register. -/
def Lpss.bus (reg : LpssReg) : UInt8 := buses (reg.row + if l.second then 1 else 0)

/-- A read of a register. -/
def Lpss.rd (reg : LpssReg) : PeciAccess := .rdEndPointConfigMmio l.peciAddr (l.bus buses reg) l.second reg

/-- A write of a register. -/
def Lpss.wr (reg : LpssReg) (val : UInt32) : PeciAccess :=
  .wrEndPointConfigMmio l.peciAddr (l.bus buses reg) l.second reg val

/-- `lpssRegRd`, where the program is left when it fails. -/
def lpssRegRd (reg : LpssReg) (e : PECIStatus) : I3cCode UInt32 := do
  let a ← Code.call (l.rd buses reg)
  if a.success then pure a.val else .leave e

/-- `lpssRegWr`, where the program is left when it fails. -/
def lpssRegWr (reg : LpssReg) (val : UInt32) (e : PECIStatus) : I3cCode Unit := do
  let a ← Code.call (l.wr buses reg val)
  if a.success then pure () else .leave e

/-- `getDeviceControlFields`: `ENABLE` and `I2C_SLAVE_PRESENT`. -/
def getDeviceControlFields : I3cCode (Bool × Bool) := do
  let data ← lpssRegRd buses l .deviceControl .i3cFail
  pure (checkBit data 31, checkBit data 7)

/-- The turns of the loops that poll: they end when `timeout_count` is above `I3C_PECI_TIMEOUT_MS`. -/
abbrev maxPolls : ℕ := 501

/-- The loop of `waitForCmdData`, with the turns left. -/
def waitForCmdDataLoop (checkCmd checkTx checkRx : Bool) : ℕ → I3cCode Unit
  | 0 => .leave .timeout
  | n + 1 => do
    let data ← lpssRegRd buses l .intrStatus .i3cFail
    if n = 0 then .leave .timeout
    else if !checkBit data 3 && checkCmd || !checkBit data 0 && checkTx || !checkBit data 1 && checkRx then
      waitForCmdDataLoop checkCmd checkTx checkRx n
    else pure ()

/-- `waitForCmdData`. -/
def waitForCmdData (checkCmd checkTx checkRx : Bool) : I3cCode Unit :=
  waitForCmdDataLoop buses l checkCmd checkTx checkRx maxPolls

/-- `CM_TFR_ST` is `CM_TFR_ST_VAL`: the controller is halted. -/
def halted (data : UInt32) : Bool := (data >>> 16) &&& 0x3f = 0x13

/-- The loop of `restartSpdController`, with the turns left. -/
def restartLoop (control : UInt32) : ℕ → I3cCode Unit
  | 0 => .leave .timeout
  | n + 1 => do
    let data ← lpssRegRd buses l .presentStateDebug .i3cRegRdFail
    if halted data then lpssRegWr buses l .deviceControl (setFields control 30 30 1) .i3cRegRdFail else pure ()
    if n = 0 then .leave .timeout
    else if halted data then restartLoop control n
    else pure ()

/-- `restartSpdController`. -/
def restartSpdController : I3cCode Unit := do
  let data ← lpssRegRd buses l .intrStatus .i3cRegRdFail
  lpssRegWr buses l .intrStatus (setFields data 9 9 1) .i3cRegWrFail
  let control ← lpssRegRd buses l .deviceControl .i3cRegRdFail
  lpssRegWr buses l .deviceControl (setFields control 31 31 0) .i3cRegWrFail
  lpssRegWr buses l .resetCtrl 0x1e .i3cRegWrFail
  let control := setFields (setFields control 31 31 0) 31 31 1
  lpssRegWr buses l .deviceControl control .i3cRegWrFail
  restartLoop buses l control maxPolls

/-- The loop of `waitForResponse`, with the turns left: whether it has run out of them. -/
def responseLoop (restartOnError isHalted : Bool) : ℕ → I3cCode Bool
  | 0 => pure true
  | n + 1 => do
    let data ← lpssRegRd buses l .intrStatus .i3cFail
    if isHalted then do
      if restartOnError then restartSpdController buses l else pure ()
      pure (n = 0)
    else if !checkBit data 4 && n ≠ 0 then responseLoop restartOnError isHalted n
    else pure (n = 0)

/-- `waitForResponse`. What is read from the response queue is not looked at. -/
def waitForResponse (restartOnError : Bool) : I3cCode Unit := do
  let data ← lpssRegRd buses l .presentStateDebug .i3cRegRdFail
  let timedOut ← responseLoop buses l restartOnError (halted data) maxPolls
  let _ ← lpssRegRd buses l .responseQueuePort .i3cRegRdFail
  if timedOut && restartOnError then restartSpdController buses l else pure ()

/-- The lower dword of a command descriptor. The fields `tid` and `cmd_attr` are always `1` and `0`. -/
def Lpss.commandLow (toc roc rnw : UInt32) : UInt32 :=
  toc <<< 31 ||| roc <<< 30 ||| rnw <<< 29 ||| (l.unassigned.modeSpeed.toUInt32 &&& 0x7) <<< 26 |||
    ((l.addr >>> 1).toUInt32 &&& 0x7f) <<< 16 ||| (l.unassigned.cp.toUInt32 &&& 1) <<< 15 |||
    (l.unassigned.cmd.toUInt32 &&& 0xff) <<< 7 ||| (if l.mode = .i2cMode0 then (1 : UInt32) else 0) <<< 6 |||
    (1 : UInt32) <<< 3

/-- The upper dword of a command descriptor. -/
def Lpss.commandHigh : UInt32 := (l.wdataSize.toUInt32 &&& 0xffff) <<< 16

/-- `data_port_cnt_total`. -/
def Lpss.dwords : ℕ := l.wdataSize.toNat / 4 + if l.wdataSize.toNat % 4 > 0 then 1 else 0

/-- The dword `i` that is sent. -/
def Lpss.wdata (i : ℕ) : UInt32 :=
  let byteNum := if l.wdataSize.toNat % 4 ≠ 0 ∧ i = l.dwords - 1 then l.wdataSize.toNat % 4 else 4
  (List.range byteNum).foldl (fun w b => w ||| (l.wdataList (4 * i + b)).toUInt32 <<< UInt32.ofNat (8 * b)) 0

/-- Dwords are written to the data port. -/
def sendDwords (e : PECIStatus) : List UInt32 → I3cCode Unit
  | [] => pure ()
  | w :: ws => do
    lpssRegWr buses l .txDataPort w e
    sendDwords e ws

/-- Dwords are read from the data port. -/
def receiveDwords (e : PECIStatus) : ℕ → I3cCode (List UInt32)
  | 0 => pure []
  | n + 1 => do
    let w ← lpssRegRd buses l .txDataPort e
    let ws ← receiveDwords e n
    pure (w :: ws)

/-- `wrRdRegular`: the dwords that are read. -/
def wrRdRegular : I3cCode (List UInt32) := do
  let data ← lpssRegRd buses l .dataBufferThldCtrl .fail
  lpssRegWr buses l .dataBufferThldCtrl (setFields data 18 16 1) .fail
  waitForCmdData buses l true true false
  lpssRegWr buses l .commandQueuePort (l.commandLow 0 0 0) .i3cRwFail
  lpssRegWr buses l .commandQueuePort l.commandHigh .i3cRwFail
  lpssRegWr buses l .commandQueuePort (l.commandLow 1 1 1) .i3cRwFail
  lpssRegWr buses l .commandQueuePort l.commandHigh .i3cRwFail
  sendDwords buses l .i3cRwFail ((List.range l.dwords).map l.wdata)
  waitForResponse buses l true
  let rdata ← receiveDwords buses l .i3cRwFail ((l.wdataSize.toNat - 1) / 4 + 1)
  -- the old field is written as the whole register
  lpssRegWr buses l .dataBufferThldCtrl ((data >>> 16) &&& 0x7) .i3cRwFail
  pure rdata

/-- `wrRegular`. When the controller is not enabled, it returns the status of the read that has told so. -/
def wrRegular : I3cCode Unit := do
  let fields ← getDeviceControlFields buses l
  if fields.1 = false then .leave .success
  else do
    waitForCmdData buses l true true false
    sendDwords buses l .i3cWFail ((List.range l.dwords).map l.wdata)
    lpssRegWr buses l .commandQueuePort (l.commandLow 1 1 0) .i3cWFail
    lpssRegWr buses l .commandQueuePort l.commandHigh .i3cWFail
    waitForResponse buses l true

end Registers

/-! ## Reads and writes -/

/-- The arguments of a transfer that say where it goes. -/
structure BlockArgs where
  addr : UInt8
  saddr : UInt8
  channel : UInt8
  dev : UInt8
  func : UInt8
  offset : UInt16
  opcode : UInt8
  deriving DecidableEq, Repr

/-- What a transfer finds in memory: whether the allocations for what is sent and what is read succeed, and what is in
the fields that nothing assigns. -/
structure BlockMemory where
  wdata : Bool
  rdata : Bool
  unassigned : Unassigned
  deriving DecidableEq, Repr

/-- The header that is sent. -/
def BlockArgs.header (b : BlockArgs) (read : UInt32) : UInt32 :=
  b.offset.toUInt32 <<< 16 ||| b.opcode.toUInt32 <<< 12 ||| read <<< 11 ||| (b.func <<< 5 ||| b.dev).toUInt32

/-- The byte `i` of a dword. -/
def byteOf (w : UInt32) (i : ℕ) : UInt8 := ((w >>> UInt32.ofNat (8 * i)) &&& 0xff).toUInt8

/-- The transfer that is prepared: `CHANNELS_PER_IMC` is `2`. -/
def BlockArgs.lpss (b : BlockArgs) (mem : BlockMemory) (wdataList : ℕ → UInt8) (wdataSize : UInt8)
    (enabled i2cSlavePresent : Bool) : Lpss where
  peciAddr := b.addr
  mc := b.channel / 2
  channel := b.channel % 2
  addr := b.saddr
  wdataList := wdataList
  wdataSize := wdataSize
  mode := if enabled && i2cSlavePresent then .i2cMode0 else .i3cMode0
  unassigned := mem.unassigned

/-- `i3cBlockRead`: what is stored in `*val`. When an allocation fails, it returns the status of the reads before. The
number of bytes is the size of an allocation only. -/
def i3cBlockRead (buses : LpssBuses) (b : BlockArgs) (mem : BlockMemory) : I3cCode UInt32 := do
  let postEnumBus ← bus30ToPostEnumeratedBus b.addr
  let buses := setBuses buses postEnumBus
  let l := b.lpss mem (byteOf (b.header 1)) 4
  let fields ← getDeviceControlFields buses (l false false)
  if mem.wdata = false then .leave .success
  else if mem.rdata = false then .leave .success
  else do
    let rdata ← wrRdRegular buses (l fields.1 fields.2)
    pure (rdata.headD 0)

/-- The bytes of a write: the header and the value, in memory that was zero. -/
def BlockArgs.writeBytes (b : BlockArgs) (val : UInt32) (i : ℕ) : UInt8 :=
  if i < 4 then byteOf (b.header 0) i else if i < 8 then byteOf val (i - 4) else 0

/-- `i3cBlockWrite`. -/
def i3cBlockWrite (buses : LpssBuses) (b : BlockArgs) (mem : BlockMemory) (numbytes : UInt8) (val : UInt32) :
    I3cCode Unit := do
  let postEnumBus ← bus30ToPostEnumeratedBus b.addr
  let buses := setBuses buses postEnumBus
  let l := b.lpss mem (b.writeBytes val) (4 + numbytes)
  let fields ← getDeviceControlFields buses (l false false)
  if mem.wdata = false then .leave .success
  else if mem.rdata = false then .leave .success
  else wrRegular buses (l fields.1 fields.2)

end BmcNvdimm
