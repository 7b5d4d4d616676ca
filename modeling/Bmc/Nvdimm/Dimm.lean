import Bmc.Nvdimm.I3cHonest
import Bmc.Nvdimm.Mirror

/-!
# The DIMMs behind the addresses

`smbus_peci.c`: the address of a DIMM is made a device number, from which `csrRd` and `csrWr` make a memory controller, a channel
and a slave address again.

* `PeciDeviceAddr`, `csrArgs`: addresses, and where an access to a register of a device goes;
* `DimmCall`: the calls that take an address;
* `BlockArgs.Reaches`: an access of a transfer; **`transfer_reaches`**: the accesses of a transfer;
* `OneDimm`: one address, one DIMM; **`oneDimm_of_steady`**.
-/

namespace BmcNvdimm

open BmcLib

/-! ## Addresses -/

/-- `peci_device_addr_t` -/
structure PeciDeviceAddr where
  peciAddr : UInt8
  imc : UInt8
  channel : UInt8
  slot : UInt8
  imc_lt : imc < 4
  channel_lt : channel < 2
  slot_lt : slot < 2
  deriving DecidableEq

/-- `device` of `peci_pass_thru`. -/
def PeciDeviceAddr.device (a : PeciDeviceAddr) : UInt8 := a.imc <<< 2 ||| a.channel <<< 1 ||| a.slot

/-- An entry of `csrs`, without its name. -/
structure SmBusCsrEntry where
  dev : UInt8
  func : UInt8
  offset : UInt16
  deriving DecidableEq

/-- `BusAddrAndLoc` -/
structure BusAddrAndLoc where
  imcIndex : UInt8
  channelIndex : UInt8
  slotIndex : UInt8
  deriving DecidableEq

abbrev maxDevicePerBus : UInt8 := 8
abbrev imcsPerSocket : UInt8 := 4
abbrev busesPerSocket : UInt8 := 2
abbrev channelsPerImc : UInt8 := 2
abbrev slotsPerChannel : UInt8 := 2

/-- `busAddrToLoc` -/
def busAddrToLoc (bus saddr : UInt8) : BusAddrAndLoc :=
  let imcsPerBus := imcsPerSocket / busesPerSocket
  { imcIndex := bus * imcsPerBus + (saddr &&& 0xf) / maxDevicePerBus % imcsPerBus
    channelIndex := (saddr &&& 0xf) / imcsPerSocket % channelsPerImc
    slotIndex := saddr / channelsPerImc % slotsPerChannel }

/-- `saddr` of `csrRd` and `csrWr`. -/
def csrSaddr (device : UInt8) : UInt8 := 0xb0 + device % 8 * 2

/-- `bus_channel` of `csrRd`, `channel` of `csrWr`. -/
def csrChannel (device : UInt8) : UInt8 :=
  let bus : UInt8 := if device < maxDevicePerBus then 0 else 1
  let loc := busAddrToLoc bus (csrSaddr device)
  loc.imcIndex <<< 1 + loc.channelIndex

/-- The transfer that `csrRd` and `csrWr` ask for. -/
def csrArgs (addr device : UInt8) (csr : SmBusCsrEntry) : BlockArgs where
  addr := addr
  saddr := csrSaddr device
  channel := csrChannel device
  dev := csr.dev
  func := csr.func
  offset := csr.offset
  opcode := 0

/-! ## Calls -/

abbrev dFwStatus : ℕ := 17
abbrev dFwStatusH : ℕ := 18

/-- The functions that take an address. -/
inductive DimmCall
  | passThru (cmd : FwCmd)
  | getBSR
  | getDbCmdRegister
  | getMbStatusRegister
  | sendActivation

/-- What a function returns, besides a record: a code and the number that is stored. -/
structure DimmReply where
  code : ReturnStatus
  val : Option UInt64
  bus : CsrBus

/-- `peci_get_BSR` -/
def peciGetBSR (bus : CsrBus) : DimmReply :=
  let h := bus.answer
  let bus := bus.call (.csrRd dFwStatusH)
  if h.Failed then ⟨returnDeviceError, none, bus⟩
  else
    let l := bus.answer
    let bus := bus.call (.csrRd dFwStatus)
    if l.Failed then ⟨returnDeviceError, none, bus⟩
    else ⟨returnSuccess, some (h.val.toUInt64 <<< 32 ||| l.val.toUInt64), bus⟩

/-- `peci_get_Db_cmd_register` -/
def peciGetDbCmdRegister (bus : CsrBus) : DimmReply :=
  let a := bus.answer
  let bus := bus.call (.csrRd mbSmbusCmd)
  if a.Failed then ⟨returnDeviceError, none, bus⟩ else ⟨returnSuccess, some (a.val &&& (1 : UInt32) <<< 16).toUInt64, bus⟩

/-- `peci_get_Mb_status_register`. The value is stored by the read. -/
def peciGetMbStatusRegister (bus : CsrBus) : DimmReply :=
  let a := bus.answer
  let bus := bus.call (.csrRd mbSmbusStatus)
  if a.Failed then ⟨returnDeviceError, some a.val.toUInt64, bus⟩ else ⟨returnSuccess, some a.val.toUInt64, bus⟩

/-- `peci_send_activation` -/
def peciSendActivation (bus : CsrBus) : DimmReply :=
  let a := bus.answer
  let bus := bus.call (.csrWr mbSmbusCmd ((0x09 : UInt32) <<< 0 ||| (0x03 : UInt32) <<< 8 ||| (1 : UInt32) <<< 16))
  if a.Failed then ⟨returnDeviceError, none, bus⟩ else ⟨returnSuccess, none, bus⟩

namespace DimmCall

/-- The device number that a function passes on. The functions other than `peci_pass_thru` pass the slot. -/
def device (a : PeciDeviceAddr) : DimmCall → UInt8
  | passThru _ => a.device
  | getBSR | getDbCmdRegister | getMbStatusRegister | sendActivation => a.slot

/-- The registers after a call. -/
def run (sh : Shifts) (a : PeciDeviceAddr) (bus : CsrBus) : DimmCall → CsrBus
  | passThru cmd => (peciPassThru sh bus a.peciAddr cmd).bus
  | getBSR => (peciGetBSR bus).bus
  | getDbCmdRegister => (peciGetDbCmdRegister bus).bus
  | getMbStatusRegister => (peciGetMbStatusRegister bus).bus
  | sendActivation => (peciSendActivation bus).bus

end DimmCall

/-! ## Transfers -/

/-- The accesses to a register, on behalf of an address: where the transfer goes, and what it does. -/
structure Transfer where
  owner : PeciDeviceAddr
  args : BlockArgs
  accesses : Transcript

/-- The processor, the memory controller, the channel and the slave address. -/
def BlockArgs.target (b : BlockArgs) : UInt8 × UInt8 × UInt8 × UInt8 := (b.addr, b.channel / 2, b.channel % 2, b.saddr)

/-- What a read of a register has come to. -/
def CsrAnswer.Reads (a : CsrAnswer) : Except PECIStatus UInt32 → Prop
  | .ok val => a.status = .success ∧ a.val = val
  | .error e => a.status = e

/-- What a write of a register has come to. -/
def CsrAnswer.Writes (a : CsrAnswer) : Except PECIStatus Unit → Prop
  | .ok _ => a.status = .success
  | .error e => a.status = e

/-- An access to a register of a device is carried out by a transfer, whatever is in the table of the bus numbers before. -/
def CarriedOut (csrs : ℕ → SmBusCsrEntry) (owner : PeciDeviceAddr) (device : UInt8) (p : CsrAccess × CsrAnswer)
    (t : Transfer) : Prop :=
  t.owner = owner ∧ ∃ buses mem,
    match p.1 with
    | .csrRd index => t.args = csrArgs owner.peciAddr device (csrs index) ∧
        ∃ r, (i3cBlockRead buses t.args mem).Runs t.accesses r ∧ p.2.Reads r
    | .csrWr index val => t.args = csrArgs owner.peciAddr device (csrs index) ∧
        ∃ r, (i3cBlockWrite buses t.args mem 4 val).Runs t.accesses r ∧ p.2.Writes r

/-- A call on behalf of an address, with the transfers that carry out its accesses. -/
structure DimmEvent where
  owner : PeciDeviceAddr
  call : DimmCall
  bus : CsrBus
  transfers : List Transfer

/-- The accesses of the call are carried out. -/
def DimmEvent.Valid (sh : Shifts) (csrs : ℕ → SmBusCsrEntry) (e : DimmEvent) : Prop :=
  List.Forall₂ (CarriedOut csrs e.owner (e.call.device e.owner)) (e.bus.transcript (e.call.run sh e.owner e.bus)) e.transfers

/-! ## One address, one DIMM -/

/-- The slave address in the lower dword of a command; the upper one has no bit `3`. -/
def slaveField (val : UInt32) : UInt32 := (val >>> 16) &&& 0x7f

/-- The access is one of a transfer, over this bus: of the processor, of the controller that serves the memory controller, and
of the slave. -/
def BlockArgs.Reaches (b : BlockArgs) (bus : UInt8) : PeciAccess → Prop
  | .rdEndPointConfigPciLocal .. => False
  | .rdEndPointConfigMmio addr bus' second _ => addr = b.addr ∧ bus' = bus ∧ second = b.second
  | .wrEndPointConfigMmio addr bus' second reg val => addr = b.addr ∧ bus' = bus ∧ second = b.second ∧
      (reg = .commandQueuePort → checkBit val 3 = true → slaveField val = (b.saddr >>> 1).toUInt32)

/-- The processor has answered that there is a valid bus number. -/
def ReportsValid (addr : UInt8) (t : Transcript) : Prop :=
  ∃ a, (.rdEndPointConfigPciLocal addr validBitOffset, a) ∈ t ∧ a.success = true ∧ checkBit a.val 30 = true

/-- The processor has answered that this is the bus number. -/
def ReportsBus (addr : UInt8) (t : Transcript) (bus : UInt8) : Prop :=
  ∃ a, (.rdEndPointConfigPciLocal addr busNumberOffset, a) ∈ t ∧ a.success = true ∧
    bus = ((a.val >>> 16) &&& 0xff).toUInt8

/-- The access asks a processor about its bus number. -/
def PeciAccess.Asks (addr : UInt8) (c : PeciAccess) : Prop := ∃ offset, c = .rdEndPointConfigPciLocal addr offset

/-- **One address, one DIMM.** The transfers of one address, and no others, go to one target; each access reaches the target,
over the bus number that is reported as valid. -/
structure OneDimm (ts : List Transfer) : Prop where
  apart : ∀ t ∈ ts, ∀ t' ∈ ts, t.args.target = t'.args.target ↔ t.owner = t'.owner
  reached : ∀ t ∈ ts, ∀ p ∈ t.accesses, p.1.Asks t.args.addr ∨
    ∃ bus, ReportsValid t.args.addr t.accesses ∧ ReportsBus t.args.addr t.accesses bus ∧ t.args.Reaches bus p.1

/-- The number of the device is that of the address, and a query that succeeds finds a valid bus number. -/
structure DimmEvent.Steady (e : DimmEvent) : Prop where
  device : (∃ cmd, e.call = .passThru cmd) ∨ e.owner.imc = 0 ∧ e.owner.channel = 0
  valid : ∀ t ∈ e.transfers, ∀ p ∈ t.accesses, p.1 = .rdEndPointConfigPciLocal t.args.addr validBitOffset →
    p.2.success = true → checkBit p.2.val 30 = true

/-! ## Where an access goes -/

theorem PeciDeviceAddr.cases (a : PeciDeviceAddr) :
    (a.imc = 0 ∨ a.imc = 1 ∨ a.imc = 2 ∨ a.imc = 3) ∧ (a.channel = 0 ∨ a.channel = 1) ∧ (a.slot = 0 ∨ a.slot = 1) := by
  have himc := UInt8.lt_iff_toNat_lt.1 a.imc_lt
  have hchannel := UInt8.lt_iff_toNat_lt.1 a.channel_lt
  have hslot := UInt8.lt_iff_toNat_lt.1 a.slot_lt
  simp only [← UInt8.toNat_inj]
  simp at himc hchannel hslot ⊢
  omega

/-- **The number of a device is unpacked to the address.** -/
theorem target_device (a : PeciDeviceAddr) (csr : SmBusCsrEntry) :
    (csrArgs a.peciAddr a.device csr).target = (a.peciAddr, a.imc, a.channel, csrSaddr a.device) := by
  have hchannels : csrChannel a.device / 2 = a.imc ∧ csrChannel a.device % 2 = a.channel := by
    obtain ⟨himc, hchannel, hslot⟩ := a.cases
    rw [PeciDeviceAddr.device]
    generalize a.imc = imc at *
    generalize a.channel = channel at *
    generalize a.slot = slot at *
    rcases himc with rfl | rfl | rfl | rfl <;> rcases hchannel with rfl | rfl <;> rcases hslot with rfl | rfl <;> decide
  rw [BlockArgs.target, csrArgs, hchannels.1, hchannels.2]

/-- The slave address shows the slot. -/
theorem slotIndex_device (a : PeciDeviceAddr) : (busAddrToLoc 0 (csrSaddr a.device)).slotIndex = a.slot := by
  obtain ⟨himc, hchannel, hslot⟩ := a.cases
  rw [PeciDeviceAddr.device]
  generalize a.imc = imc at *
  generalize a.channel = channel at *
  generalize a.slot = slot at *
  rcases himc with rfl | rfl | rfl | rfl <;> rcases hchannel with rfl | rfl <;> rcases hslot with rfl | rfl <;> decide

theorem target_inj {a a' : PeciDeviceAddr} {csr csr' : SmBusCsrEntry} :
    (csrArgs a.peciAddr a.device csr).target = (csrArgs a'.peciAddr a'.device csr').target ↔ a = a' := by
  rw [target_device, target_device]
  constructor
  · intro h
    obtain ⟨haddr, himc, hchannel, hsaddr⟩ := by simpa only [Prod.mk.injEq] using h
    have hslot : a.slot = a'.slot := by rw [← slotIndex_device, ← slotIndex_device, hsaddr]
    cases a
    cases a'
    simp only at haddr himc hchannel hslot
    subst haddr himc hchannel hslot
    rfl
  · rintro rfl
    rfl

/-- The number of a device whose other parts are zero is its slot. -/
theorem device_eq_slot {a : PeciDeviceAddr} (himc : a.imc = 0) (hchannel : a.channel = 0) : a.device = a.slot := by
  rw [PeciDeviceAddr.device, himc, hchannel]
  simp

/-! ## The accesses of a transfer -/

section Reaches

variable {buses : LpssBuses} {l : Lpss} {b : BlockArgs} {bus : UInt8}

/-- The transfer is one of the arguments, over this bus. -/
structure Lpss.For (buses : LpssBuses) (l : Lpss) (b : BlockArgs) (bus : UInt8) : Prop where
  addr : l.peciAddr = b.addr
  second : l.second = b.second
  slave : l.addr = b.saddr
  bus : ∀ reg, l.bus buses reg = bus

theorem lpssRegRd_reaches (h : l.For buses b bus) (reg : LpssReg) (e : PECIStatus) :
    (lpssRegRd buses l reg e).Calls (b.Reaches bus) :=
  Code.calls_bind (Code.calls_call ⟨h.addr, h.bus reg, h.second⟩) fun _ =>
    Code.calls_ite (Code.calls_pure _) (Code.calls_leave _)

theorem lpssRegWr_reaches (h : l.For buses b bus) {reg : LpssReg} {val : UInt32} (e : PECIStatus)
    (hcommand : reg = .commandQueuePort → checkBit val 3 = true → slaveField val = (b.saddr >>> 1).toUInt32) :
    (lpssRegWr buses l reg val e).Calls (b.Reaches bus) :=
  Code.calls_bind (Code.calls_call ⟨h.addr, h.bus reg, h.second, hcommand⟩) fun _ =>
    Code.calls_ite (Code.calls_pure _) (Code.calls_leave _)

/-- A register that is not the queue of the commands. -/
theorem lpssRegWr_reaches_other (h : l.For buses b bus) {reg : LpssReg} (hreg : reg ≠ .commandQueuePort) (val : UInt32)
    (e : PECIStatus) : (lpssRegWr buses l reg val e).Calls (b.Reaches bus) :=
  lpssRegWr_reaches h e fun heq => absurd heq hreg

/-- The lower dword of a command names the slave. -/
theorem slaveField_commandLow (l : Lpss) (toc roc rnw : UInt32) :
    slaveField (l.commandLow toc roc rnw) = (l.addr >>> 1).toUInt32 := by
  have hfield : slaveField (l.commandLow toc roc rnw) = (l.addr >>> 1).toUInt32 &&& (0x7f : UInt32) := by
    rw [slaveField, commandLow_eq, descriptor, Unassigned.bits]
    apply UInt32.toBitVec_inj.1
    apply BitVec.eq_of_getLsbD_eq
    intro i hi
    interval_cases i <;> simp <;> split_ifs <;> simp
  have hmask : (l.addr >>> 1).toUInt32 &&& (0x7f : UInt32) = (l.addr >>> 1).toUInt32 := by
    apply UInt32.toBitVec_inj.1
    apply BitVec.eq_of_getLsbD_eq
    intro i hi
    interval_cases i <;> simp
  rw [hfield, hmask]

theorem checkBit_commandHigh (l : Lpss) : checkBit l.commandHigh 3 = false := by
  rw [checkBit, Lpss.commandHigh, UInt32.toNat_shiftLeft]
  change ((l.wdataSize.toUInt32 &&& 0xffff).toNat <<< 16 % 2 ^ 32).testBit 3 = false
  rw [Nat.testBit_mod_two_pow, Nat.testBit_shiftLeft]
  rfl

theorem commandLow_reaches (h : l.For buses b bus) (toc roc rnw : UInt32) (e : PECIStatus) :
    (lpssRegWr buses l .commandQueuePort (l.commandLow toc roc rnw) e).Calls (b.Reaches bus) :=
  lpssRegWr_reaches h e fun _ _ => by rw [slaveField_commandLow, h.slave]

theorem commandHigh_reaches (h : l.For buses b bus) (e : PECIStatus) :
    (lpssRegWr buses l .commandQueuePort l.commandHigh e).Calls (b.Reaches bus) :=
  lpssRegWr_reaches h e fun _ hbit => absurd hbit (by rw [checkBit_commandHigh]; decide)

theorem getDeviceControlFields_reaches (h : l.For buses b bus) : (getDeviceControlFields buses l).Calls (b.Reaches bus) :=
  Code.calls_bind (lpssRegRd_reaches h _ _) fun _ => Code.calls_pure _

theorem waitForCmdData_reaches (h : l.For buses b bus) (checkCmd checkTx checkRx : Bool) :
    (waitForCmdData buses l checkCmd checkTx checkRx).Calls (b.Reaches bus) := by
  rw [waitForCmdData]
  generalize maxPolls = n
  induction n with
  | zero => exact Code.calls_leave _
  | succ n ih =>
    exact Code.calls_bind (lpssRegRd_reaches h _ _) fun _ =>
      Code.calls_ite (Code.calls_leave _) (Code.calls_ite ih (Code.calls_pure _))

theorem restartLoop_reaches (h : l.For buses b bus) (control : UInt32) (n : ℕ) :
    (restartLoop buses l control n).Calls (b.Reaches bus) := by
  induction n with
  | zero => exact Code.calls_leave _
  | succ n ih =>
    refine Code.calls_bind (lpssRegRd_reaches h _ _) fun data => ?_
    -- what follows the write, or stands in its place
    have hrest : Code.Calls (b.Reaches bus)
        (if n = 0 then .leave .timeout else if halted data then restartLoop buses l control n else pure ()) :=
      Code.calls_ite (Code.calls_leave _) (Code.calls_ite ih (Code.calls_pure _))
    exact Code.calls_ite (Code.calls_bind (lpssRegWr_reaches_other h (by decide) _ _) fun _ => hrest) hrest

theorem restartSpdController_reaches (h : l.For buses b bus) : (restartSpdController buses l).Calls (b.Reaches bus) := by
  refine Code.calls_bind (lpssRegRd_reaches h _ _) fun _ => ?_
  refine Code.calls_bind (lpssRegWr_reaches_other h (by decide) _ _) fun _ => ?_
  refine Code.calls_bind (lpssRegRd_reaches h _ _) fun _ => ?_
  refine Code.calls_bind (lpssRegWr_reaches_other h (by decide) _ _) fun _ => ?_
  refine Code.calls_bind (lpssRegWr_reaches_other h (by decide) _ _) fun _ => ?_
  refine Code.calls_bind (lpssRegWr_reaches_other h (by decide) _ _) fun _ => ?_
  exact restartLoop_reaches h _ _

theorem responseLoop_reaches (h : l.For buses b bus) (restartOnError isHalted : Bool) (n : ℕ) :
    (responseLoop buses l restartOnError isHalted n).Calls (b.Reaches bus) := by
  induction n with
  | zero => exact Code.calls_pure _
  | succ n ih =>
    refine Code.calls_bind (lpssRegRd_reaches h _ _) fun _ => Code.calls_ite ?_ (Code.calls_ite ih (Code.calls_pure _))
    exact Code.calls_ite (Code.calls_bind (restartSpdController_reaches h) fun _ => Code.calls_pure _) (Code.calls_pure _)

theorem waitForResponse_reaches (h : l.For buses b bus) (restartOnError : Bool) :
    (waitForResponse buses l restartOnError).Calls (b.Reaches bus) := by
  refine Code.calls_bind (lpssRegRd_reaches h _ _) fun _ => ?_
  refine Code.calls_bind (responseLoop_reaches h _ _ _) fun _ => ?_
  refine Code.calls_bind (lpssRegRd_reaches h _ _) fun _ => ?_
  exact Code.calls_ite (restartSpdController_reaches h) (Code.calls_pure _)

theorem sendDwords_reaches (h : l.For buses b bus) (e : PECIStatus) (ws : List UInt32) :
    (sendDwords buses l e ws).Calls (b.Reaches bus) := by
  induction ws with
  | nil => exact Code.calls_pure _
  | cons w ws ih => exact Code.calls_bind (lpssRegWr_reaches_other h (by decide) _ _) fun _ => ih

theorem receiveDwords_reaches (h : l.For buses b bus) (e : PECIStatus) (n : ℕ) :
    (receiveDwords buses l e n).Calls (b.Reaches bus) := by
  induction n with
  | zero => exact Code.calls_pure _
  | succ n ih =>
    exact Code.calls_bind (lpssRegRd_reaches h _ _) fun _ => Code.calls_bind ih fun _ => Code.calls_pure _

theorem wrRdRegular_reaches (h : l.For buses b bus) : (wrRdRegular buses l).Calls (b.Reaches bus) := by
  refine Code.calls_bind (lpssRegRd_reaches h _ _) fun _ => ?_
  refine Code.calls_bind (lpssRegWr_reaches_other h (by decide) _ _) fun _ => ?_
  refine Code.calls_bind (waitForCmdData_reaches h _ _ _) fun _ => ?_
  refine Code.calls_bind (commandLow_reaches h _ _ _ _) fun _ => ?_
  refine Code.calls_bind (commandHigh_reaches h _) fun _ => ?_
  refine Code.calls_bind (commandLow_reaches h _ _ _ _) fun _ => ?_
  refine Code.calls_bind (commandHigh_reaches h _) fun _ => ?_
  refine Code.calls_bind (sendDwords_reaches h _ _) fun _ => ?_
  refine Code.calls_bind (waitForResponse_reaches h _) fun _ => ?_
  refine Code.calls_bind (receiveDwords_reaches h _ _) fun _ => ?_
  exact Code.calls_bind (lpssRegWr_reaches_other h (by decide) _ _) fun _ => Code.calls_pure _

theorem wrRegular_reaches (h : l.For buses b bus) : (wrRegular buses l).Calls (b.Reaches bus) := by
  refine Code.calls_bind (getDeviceControlFields_reaches h) fun _ => Code.calls_ite (Code.calls_leave _) ?_
  refine Code.calls_bind (waitForCmdData_reaches h _ _ _) fun _ => ?_
  refine Code.calls_bind (sendDwords_reaches h _ _) fun _ => ?_
  refine Code.calls_bind (commandLow_reaches h _ _ _ _) fun _ => ?_
  refine Code.calls_bind (commandHigh_reaches h _) fun _ => ?_
  exact waitForResponse_reaches h _

/-- All rows of the table have the bus number that is written. -/
theorem lpss_for {mem : BlockMemory} {ws : ℕ → UInt8} {n : UInt8} {enabled i2cSlavePresent : Bool} :
    (b.lpss mem ws n enabled i2cSlavePresent).For (setBuses buses bus) b bus where
  addr := rfl
  second := rfl
  slave := rfl
  bus reg := if_pos (by cases reg <;> (rw [LpssReg.row]; split_ifs) <;> decide)

/-- What the query of the bus number comes to: the number that is reported, or `0` when none is valid. -/
theorem bus30_reports {addr : UInt8} {t : Transcript} {r : Except PECIStatus UInt8}
    (h : (bus30ToPostEnumeratedBus addr).Runs t r) :
    (∀ p ∈ t, p.1.Asks addr) ∧ ∀ bus, r = .ok bus →
      (∃ a, (.rdEndPointConfigPciLocal addr validBitOffset, a) ∈ t ∧ a.success = true ∧ checkBit a.val 30 = false) ∨
        ReportsValid addr t ∧ ReportsBus addr t bus := by
  obtain ⟨a, t', rfl, ⟨hsuccess, h⟩ | ⟨hsuccess, rfl, rfl⟩⟩ := runs_local_bind.1 h
  · split_ifs at h with hvalid
    · obtain ⟨rfl, rfl⟩ := h
      exact ⟨List.forall_mem_singleton.2 ⟨_, rfl⟩, fun _ _ => .inl ⟨a, List.mem_singleton_self _, hsuccess, hvalid⟩⟩
    · have hreports : ∀ s, ReportsValid addr ((.rdEndPointConfigPciLocal addr validBitOffset, a) :: s) := fun s =>
        ⟨a, List.mem_cons_self, hsuccess, by simpa using hvalid⟩
      obtain ⟨a', t', rfl, ⟨hsuccess', h⟩ | ⟨hsuccess', rfl, rfl⟩⟩ := runs_local_bind.1 h
      · obtain ⟨rfl, rfl⟩ := h
        refine ⟨List.forall_mem_cons.2 ⟨⟨_, rfl⟩, List.forall_mem_singleton.2 ⟨_, rfl⟩⟩,
          fun bus hbus => .inr ⟨hreports _, ?_⟩⟩
        exact ⟨a', by simp, hsuccess', (Except.ok.inj hbus).symm⟩
      · exact ⟨List.forall_mem_cons.2 ⟨⟨_, rfl⟩, List.forall_mem_singleton.2 ⟨_, rfl⟩⟩, fun _ hr => nomatch hr⟩
  · exact ⟨List.forall_mem_singleton.2 ⟨_, rfl⟩, fun _ hr => nomatch hr⟩

/-- **A transfer** asks for the bus number, and goes over the one that is reported when there is a valid one. -/
theorem transfer_reaches {β : Type} {t : Transcript} {r : Except PECIStatus β} {f : UInt8 → I3cCode β}
    (hf : ∀ bus, (f bus).Calls (b.Reaches bus)) (h : (bus30ToPostEnumeratedBus b.addr >>= f).Runs t r)
    (hvalid : ∀ p ∈ t, p.1 = .rdEndPointConfigPciLocal b.addr validBitOffset → p.2.success = true →
      checkBit p.2.val 30 = true) :
    ∀ p ∈ t, p.1.Asks b.addr ∨ ∃ bus, ReportsValid b.addr t ∧ ReportsBus b.addr t bus ∧ b.Reaches bus p.1 := by
  intro p hp
  rcases Code.runs_bind.1 h with ⟨t₁, t₂, bus, rfl, h₁, h₂⟩ | ⟨e, h₁, rfl⟩
  · obtain ⟨hasks, hreports⟩ := bus30_reports h₁
    rcases List.mem_append.1 hp with hp | hp
    · exact .inl (hasks p hp)
    · rcases hreports bus rfl with ⟨a, ha, hsuccess, hbit⟩ | ⟨⟨a, ha, hgood⟩, a', ha', hgood'⟩
      · have hset := hvalid _ (List.mem_append_left _ ha) rfl hsuccess
        exact absurd (hbit.symm.trans hset) Bool.false_ne_true
      · exact .inr ⟨bus, ⟨a, List.mem_append_left _ ha, hgood⟩, ⟨a', List.mem_append_left _ ha', hgood'⟩,
          h₂.calls (hf bus) p hp⟩
  · exact .inl ((bus30_reports h₁).1 p hp)

theorem i3cBlockRead_reaches {mem : BlockMemory} {t : Transcript} {r : Except PECIStatus UInt32}
    (h : (i3cBlockRead buses b mem).Runs t r)
    (hvalid : ∀ p ∈ t, p.1 = .rdEndPointConfigPciLocal b.addr validBitOffset → p.2.success = true →
      checkBit p.2.val 30 = true) :
    ∀ p ∈ t, p.1.Asks b.addr ∨ ∃ bus, ReportsValid b.addr t ∧ ReportsBus b.addr t bus ∧ b.Reaches bus p.1 := by
  refine transfer_reaches (fun bus => ?_) h hvalid
  refine Code.calls_bind (getDeviceControlFields_reaches lpss_for) fun _ => ?_
  refine Code.calls_ite (Code.calls_leave _) (Code.calls_ite (Code.calls_leave _) ?_)
  exact Code.calls_bind (wrRdRegular_reaches lpss_for) fun _ => Code.calls_pure _

theorem i3cBlockWrite_reaches {mem : BlockMemory} {numbytes : UInt8} {val : UInt32} {t : Transcript}
    {r : Except PECIStatus Unit} (h : (i3cBlockWrite buses b mem numbytes val).Runs t r)
    (hvalid : ∀ p ∈ t, p.1 = .rdEndPointConfigPciLocal b.addr validBitOffset → p.2.success = true →
      checkBit p.2.val 30 = true) :
    ∀ p ∈ t, p.1.Asks b.addr ∨ ∃ bus, ReportsValid b.addr t ∧ ReportsBus b.addr t bus ∧ b.Reaches bus p.1 := by
  refine transfer_reaches (fun bus => ?_) h hvalid
  refine Code.calls_bind (getDeviceControlFields_reaches lpss_for) fun _ => ?_
  refine Code.calls_ite (Code.calls_leave _) (Code.calls_ite (Code.calls_leave _) ?_)
  exact wrRegular_reaches lpss_for

end Reaches

/-! ## Runs -/

section Runs

variable {sh : Shifts} {csrs : ℕ → SmBusCsrEntry} {e : DimmEvent}

theorem device_of_steady (h : e.Steady) : e.call.device e.owner = e.owner.device := by
  rcases h.device with ⟨cmd, hcall⟩ | ⟨himc, hchannel⟩
  · rw [hcall]
    rfl
  · cases e.call <;> first | rfl | exact (device_eq_slot himc hchannel).symm

/-- **One call.** Its transfers are on behalf of its address, go to the target of the address, and reach it. -/
theorem transfers_of_steady (hvalid : e.Valid sh csrs) (h : e.Steady) : ∀ t ∈ e.transfers,
    t.owner = e.owner ∧ (∃ csr, t.args = csrArgs e.owner.peciAddr e.owner.device csr) ∧
      ∀ p ∈ t.accesses, p.1.Asks t.args.addr ∨
        ∃ bus, ReportsValid t.args.addr t.accesses ∧ ReportsBus t.args.addr t.accesses bus ∧ t.args.Reaches bus p.1 := by
  intro t ht
  obtain ⟨p, hcarried⟩ : ∃ p, CarriedOut csrs e.owner (e.call.device e.owner) p t := by
    obtain ⟨i, hi, rfl⟩ := List.mem_iff_getElem.1 ht
    exact ⟨_, hvalid.get (hvalid.length_eq.symm ▸ hi) hi⟩
  rw [device_of_steady h] at hcarried
  obtain ⟨c, a⟩ := p
  obtain ⟨howner, buses, mem, hcarried⟩ := hcarried
  cases c with
  | csrRd index =>
    obtain ⟨hargs, r, hruns, -⟩ := hcarried
    exact ⟨howner, ⟨_, hargs⟩, i3cBlockRead_reaches hruns (h.valid t ht)⟩
  | csrWr index val =>
    obtain ⟨hargs, r, hruns, -⟩ := hcarried
    exact ⟨howner, ⟨_, hargs⟩, i3cBlockWrite_reaches hruns (h.valid t ht)⟩

/-- **Steady calls.** The transfers of one address, and no others, go to one target, over the bus number that is reported. -/
theorem oneDimm_of_steady (sh : Shifts) (csrs : ℕ → SmBusCsrEntry) {es : List DimmEvent}
    (hvalid : ∀ e ∈ es, e.Valid sh csrs) (hsteady : ∀ e ∈ es, e.Steady) :
    OneDimm (es.flatMap DimmEvent.transfers) := by
  have hall : ∀ t ∈ es.flatMap DimmEvent.transfers, ∃ e ∈ es, t ∈ e.transfers := fun t ht => List.mem_flatMap.1 ht
  constructor
  · intro t ht t' ht'
    obtain ⟨e, he, hte⟩ := hall t ht
    obtain ⟨e', he', hte'⟩ := hall t' ht'
    obtain ⟨howner, ⟨csr, hargs⟩, -⟩ := transfers_of_steady (hvalid e he) (hsteady e he) t hte
    obtain ⟨howner', ⟨csr', hargs'⟩, -⟩ := transfers_of_steady (hvalid e' he') (hsteady e' he') t' hte'
    rw [hargs, hargs', howner, howner']
    exact target_inj
  · intro t ht
    obtain ⟨e, he, hte⟩ := hall t ht
    exact (transfers_of_steady (hvalid e he) (hsteady e he) t hte).2.2

end Runs

/-! ## A doorbell -/

/-- The doorbell of a DIMM is read, over the bus number that is answered. -/
def doorbellRead (owner : PeciDeviceAddr) (csr : SmBusCsrEntry) (as : List PeciAnswer) : DimmEvent where
  owner := owner
  call := .getDbCmdRegister
  bus := ⟨fun _ => ⟨.success, 0xabcd, true⟩, []⟩
  transfers :=
    let args := csrArgs owner.peciAddr owner.slot csr
    [⟨owner, args, transcriptOf (i3cBlockRead (fun _ => 0) args cleanMemory) as⟩]

/-- The register of the doorbell. -/
def doorbellCsr : SmBusCsrEntry := ⟨5, 6, 0x004⟩

/-- The second DIMM of the first channel. -/
def firstDimm : PeciDeviceAddr := ⟨0x30, 0, 0, 1, by decide, by decide, by decide⟩

/-- The second DIMM of the second channel of the third memory controller. -/
def otherDimm : PeciDeviceAddr := ⟨0x30, 2, 1, 1, by decide, by decide, by decide⟩

theorem doorbellRead_valid {sh : Shifts} {owner : PeciDeviceAddr} {as : List PeciAnswer}
    (h : ((i3cBlockRead (fun _ => 0) (csrArgs owner.peciAddr owner.slot doorbellCsr) cleanMemory).exec as).map Prod.snd =
      some (.ok 0xabcd)) : (doorbellRead owner doorbellCsr as).Valid sh fun _ => doorbellCsr := by
  have htranscript : ((doorbellRead owner doorbellCsr as).bus.transcript
      ((doorbellRead owner doorbellCsr as).call.run sh owner (doorbellRead owner doorbellCsr as).bus)) =
      [(.csrRd mbSmbusCmd, ⟨.success, 0xabcd, true⟩)] := rfl
  rw [DimmEvent.Valid]
  exact htranscript ▸
    .cons ⟨rfl, fun _ => 0, cleanMemory, rfl, _, runs_transcriptOf h, rfl, rfl⟩ .nil

/-- The doorbell of the second DIMM of the first channel. -/
theorem oneDimm_doorbell :
    OneDimm ([doorbellRead firstDimm doorbellCsr (readAnswers 0x10)].flatMap DimmEvent.transfers) := by
  refine oneDimm_of_steady Shifts.mod32 (fun _ => doorbellCsr)
    (List.forall_mem_singleton.2 (doorbellRead_valid rfl)) ?_
  refine List.forall_mem_singleton.2 ⟨.inr ⟨rfl, rfl⟩, List.forall_mem_singleton.2 ?_⟩
  decide

/-- Two DIMMs are asked for their doorbells, and both transfers go to the first. -/
theorem not_oneDimm_doorbells :
    (∀ e ∈ [doorbellRead firstDimm doorbellCsr (readAnswers 0x10), doorbellRead otherDimm doorbellCsr (readAnswers 0x10)],
      e.Valid Shifts.mod32 fun _ => doorbellCsr) ∧
    ¬ OneDimm ([doorbellRead firstDimm doorbellCsr (readAnswers 0x10),
      doorbellRead otherDimm doorbellCsr (readAnswers 0x10)].flatMap DimmEvent.transfers) := by
  refine ⟨List.forall_mem_cons.2 ⟨doorbellRead_valid rfl, List.forall_mem_singleton.2 (doorbellRead_valid rfl)⟩,
    fun h => ?_⟩
  have hsame := (h.apart _ List.mem_cons_self _ (List.mem_cons_of_mem _ List.mem_cons_self)).1 rfl
  exact absurd hsame (by decide)

end BmcNvdimm
