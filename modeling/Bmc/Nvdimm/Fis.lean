import Bmc.Nvdimm.SmbusSeen
import Bmc.Nvdimm.PeciSeen

/-!
# The firmware commands

`fis.c`: one function for each firmware command. Each fills a command record and passes it to the
transport of the device; the activation only writes the command register.

* `FwCall`: the calls with their arguments; `FwCall.cmd`: the record that each fills;
* `Fis`: a device with both transports; `Fis.call`: a call over one of them; `Reachable`: after any calls;
* `seenBy`: the commands that the device sees during a call; `Carried`: they follow from its arguments.
-/

namespace BmcNvdimm

open BmcLib

/-! ## Records -/

/-- A command that only asks: an output payload of 128 bytes and no input. -/
def query (opcode subOpcode : UInt8) : FwCmd :=
  { FwCmd.zero with opcode := opcode, subOpcode := subOpcode, outputPayloadSize := 128 }

/-- `firmwareUpdatePacketSize`. -/
abbrev firmwareUpdatePacketSize : UInt32 := 64

/-- `enum UpdatePhases`. -/
inductive UpdatePhase where
  | start
  | running
  | finish
  deriving DecidableEq, Repr

/-- The value of the enumeration. -/
def UpdatePhase.toNat : UpdatePhase → ℕ
  | start => 0
  | running => 1
  | finish => 2

/-- The phase that `fw_cmd_update_firmware_block` sends; `size_t` has 32 bits on the BMC. -/
def updatePhase (size block : UInt32) : UpdatePhase :=
  if size - firmwareUpdatePacketSize ≤ block * firmwareUpdatePacketSize then .finish
  else if block ≠ 0 then .running
  else .start

/-- The 64 bytes of a block. -/
def blockData (payload : ℕ → UInt8) (block : UInt32) : List UInt8 :=
  slice payload (block * firmwareUpdatePacketSize).toNat 64

/-- `fis_update_firmware_payload_t`: two bits of phase and 14 bits of packet number, one bit of payload
selector, and the data. -/
def updateFirmwarePayload (phase : UpdatePhase) (block : UInt32) (data : List UInt8) : List UInt8 :=
  leBytes 2 (phase.toNat + 4 * (block.toNat % 2 ^ 14)) ++ leBytes 2 1 ++ data ++ List.replicate 60 0

/-- `fis_memory_health_info_input_payload`. -/
def memoryHealthPayload (page : UInt8) : List UInt8 := page :: List.replicate 127 0

/-! ## Calls -/

/-- The firmware commands with their arguments. The request of an error log is the memory of the record
that is passed. -/
inductive FwCall where
  | longOpStatus
  | firmwareImageInfo
  | updateFirmwareBlock (payload : ℕ → UInt8) (size block : UInt32)
  | deviceId
  | getSmartAndHealth
  | fwActivation
  | getPowerManagementPolicy
  | getAlarmthresholds
  | deviceCharacteristics
  | getPmemPartitionInfo
  | getPmemConfigLockdown
  | getPmemLatchShutdownState
  | getPmemViralPolicy
  | getPmemExtendAdr
  | getPackageSparingPolicy
  | getAddressRangeScrub
  | getSecurityInfo
  | getSecurityOptin
  | getMemoryHealth (page : UInt8)
  | getErrorLog (request : ℕ → UInt8) (outputPayloadSize largeOutputPayloadSize : UInt32)

/-- The record that a call passes to `fis_pass_thru`, if it does. -/
def FwCall.cmd : FwCall → Option FwCmd
  | longOpStatus => some (query 0x08 0x04)
  | firmwareImageInfo => some (query 0x08 0x01)
  | updateFirmwareBlock payload size block =>
    if size % firmwareUpdatePacketSize ≠ 0 ∨ size = 0 then none
    else some { FwCmd.zero with
      opcode := 0x09
      subOpcode := 0x00
      inputPayloadSize := 128
      inputPayload := store FwCmd.zero.inputPayload 0
        (updateFirmwarePayload (updatePhase size block) block (blockData payload block)) }
  | deviceId => some (query 0x01 0x00)
  | getSmartAndHealth => some (query 0x08 0x00)
  | fwActivation => none
  | getPowerManagementPolicy => some (query 0x04 0x02)
  | getAlarmthresholds => some (query 0x04 0x01)
  | deviceCharacteristics => some (query 0x01 0x01)
  | getPmemPartitionInfo => some (query 0x06 0x02)
  | getPmemConfigLockdown => some (query 0x06 0x05)
  | getPmemLatchShutdownState => some (query 0x06 0x09)
  | getPmemViralPolicy => some (query 0x06 0x0A)
  | getPmemExtendAdr => some (query 0x06 0xEA)
  | getPackageSparingPolicy => some (query 0x04 0x03)
  | getAddressRangeScrub => some (query 0x04 0x04)
  | getSecurityInfo => some (query 0x02 0x00)
  | getSecurityOptin => some (query 0x02 0x02)
  -- the payload is copied, but its size stays zero
  | getMemoryHealth page => some { query 0x08 0x03 with
      inputPayload := store FwCmd.zero.inputPayload 0 (memoryHealthPayload page) }
  | getErrorLog request outputPayloadSize largeOutputPayloadSize => some { FwCmd.zero with
      opcode := 0x08
      subOpcode := 0x05
      inputPayloadSize := 128
      outputPayloadSize := outputPayloadSize
      largeOutputPayloadSize := largeOutputPayloadSize
      inputPayload := store FwCmd.zero.inputPayload 0 (slice request 0 128) }

/-- `fw_cmd_fw_activation` writes the command without a record. -/
def FwCall.isActivation : FwCall → Bool
  | fwActivation => true
  | _ => false

/-- The command of the activation. -/
def activationDword : UInt32 := commandDword 0x09 0x03

/-! ## Transports -/

/-- `PT_LONG_TIMEOUT_INTERVAL`. -/
abbrev ptLongTimeoutInterval : UInt64 := 0xF4240

/-- A call over SMBus. -/
def fwCallSmbus (bus : Bus) (c : FwCall) : Bus :=
  if c.isActivation then bus.call (.write smbCmdRegister activationDword)
  else
    match c.cmd with
    | none => bus
    | some cmd => (smbusPassThru bus cmd ptLongTimeoutInterval).bus

/-- A call over PECI. -/
def fwCallPeci (sh : Shifts) (addr : UInt8) (bus : CsrBus) (c : FwCall) : CsrBus :=
  if c.isActivation then bus.call (.csrWr mbSmbusCmd activationDword)
  else
    match c.cmd with
    | none => bus
    | some cmd => (peciPassThru sh bus addr cmd).bus

/-- The interface that a device is selected with. -/
inductive Interface where
  | i2c
  | peci
  deriving DecidableEq, Repr

/-- A device behind both interfaces. -/
structure Fis where
  smbus : Bus
  peci : CsrBus
  mailbox : Mailbox

namespace Fis

variable (sh : Shifts) (addr : UInt8)

/-- A call over an interface. -/
def call (s : Fis) (iface : Interface) (c : FwCall) : Fis :=
  match iface with
  | .i2c =>
    let bus := fwCallSmbus s.smbus c
    { s with smbus := bus, mailbox := s.mailbox.run (smbusOps (s.smbus.transcript bus)) }
  | .peci =>
    let bus := fwCallPeci sh addr s.peci c
    { s with peci := bus, mailbox := s.mailbox.run (csrOps (s.peci.transcript bus)) }

/-- Nothing has been sent yet. -/
def start (smbus : Bus) (peci : CsrBus) : Fis := ⟨smbus, peci, ⟨fun _ => 0, []⟩⟩

/-- The states after any calls, whatever the accesses answer. -/
inductive Reachable : Fis → Prop where
  | start (smbus : Bus) (peci : CsrBus) : Reachable (start smbus peci)
  | call {s : Fis} (iface : Interface) (c : FwCall) (h : Reachable s) :
    Reachable (s.call sh addr iface c)

/-- The commands that the device sees during a call. -/
def seenBy (s : Fis) (iface : Interface) (c : FwCall) : List Seen :=
  (s.call sh addr iface c).mailbox.seen.drop s.mailbox.seen.length

end Fis

/-! ## What is to be carried -/

/-- Calls of one function with another memory page, error-log request or firmware block. -/
def Differ : FwCall → FwCall → Prop
  | .getMemoryHealth page, .getMemoryHealth page' => page ≠ page'
  | .getErrorLog request _ _, .getErrorLog request' _ _ => slice request 0 128 ≠ slice request' 0 128
  | .updateFirmwareBlock payload _ block, .updateFirmwareBlock payload' _ block' =>
    block ≠ block' ∨ blockData payload block ≠ blockData payload' block'
  | _, _ => False

/-- **The commands carry the arguments.** After any calls, what the device sees of `c` follows from its
arguments, and it sees another command when `c'` has other arguments. -/
def Carried (sh : Shifts) (addr : UInt8) (iface iface' : Interface) (c c' : FwCall) : Prop :=
  ∀ s s', Fis.Reachable sh addr s → Fis.Reachable sh addr s' →
    ∀ v ∈ s.seenBy sh addr iface c, ∀ v' ∈ s'.seenBy sh addr iface' c',
      (c = c' → v = v') ∧ (Differ c c' → v ≠ v')

end BmcNvdimm
