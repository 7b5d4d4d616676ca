import Bmc.Nvdimm.Mailbox

/-!
# The mailbox over PECI

`smbus_peci.c`: the same mailbox, reached through a table of registers.

* `Shifts`, `getFields`, `bitField`: the bit fields of `common.c`;
* `api`, `peciPassThru`: the transfer.
-/

namespace BmcNvdimm

open BmcLib

/-! ## Bit fields -/

/-- The shifts of C on 32-bit values; for amounts from 32 on the result is open. -/
structure Shifts where
  left : UInt32 → UInt32 → UInt32
  right : UInt32 → UInt32 → UInt32
  left_of_lt : ∀ x n, n < 32 → left x n = x <<< n
  right_of_lt : ∀ x n, n < 32 → right x n = x >>> n

/-- Shifts that take the amount modulo 32. -/
def Shifts.mod32 : Shifts where
  left x n := x <<< n
  right x n := x >>> n
  left_of_lt _ _ _ := rfl
  right_of_lt _ _ _ := rfl

namespace Shifts

variable (sh : Shifts)

/-- `setMask`. -/
def setMask (msb lsb : UInt32) : UInt32 := sh.left 1 (msb - lsb + 1) - 1

/-- `getFields`. -/
def getFields (value msb lsb : UInt32) : UInt32 := sh.setMask msb lsb &&& sh.right value lsb

/-- `bitField`. -/
def bitField (offset size val : UInt32) : UInt32 := sh.left (val &&& (sh.left 1 size - 1)) offset

end Shifts

/-- `SEQUENCE_BIT`. -/
abbrev sequenceBit : UInt32 := 31

/-- `DOORBELL_BIT`. -/
abbrev doorbellBit : UInt32 := 16

/-- `SUBOPCODE_BIT`. -/
abbrev subopcodeBit : UInt32 := 8

/-- `OPCODE_BIT`. -/
abbrev opcodeBit : UInt32 := 0

/-! ## Registers -/

/-- `PECIStatus`. -/
inductive PECIStatus where
  | success
  | fail
  | invalidArg
  | timeout
  | regFail
  | smbFail
  | smbStatusCheckFail
  | i3cRegRdFail
  | i3cRegWrFail
  | i3cStatusCheckFail
  | i3cFail
  | i3cRwFail
  | i3cWFail
  | csrFail
  deriving DecidableEq, Repr

/-- The value of the enumeration as a return code. -/
def PECIStatus.toReturnStatus (status : PECIStatus) : ReturnStatus := UInt64.ofNat status.ctorIdx

/-- `csrRd` or `csrWr` on an entry of the table `csrs`. -/
inductive CsrAccess where
  | csrRd (index : ℕ)
  | csrWr (index : ℕ) (val : UInt32)
  deriving DecidableEq, Repr

/-- The outcome of an access: its status, what then is in the variable read into, and whether a write
that failed has reached the register. -/
structure CsrAnswer where
  status : PECIStatus
  val : UInt32
  landed : Bool
  deriving DecidableEq, Repr

/-- The registers as `csrRd` and `csrWr` reach them. -/
abbrev CsrBus := Device CsrAccess CsrAnswer

/-- The access failed. -/
def CsrAnswer.Failed (a : CsrAnswer) : Prop := a.status ≠ .success

instance : DecidablePred CsrAnswer.Failed := fun _ => inferInstanceAs (Decidable (_ ≠ _))

/-- `mb_smbus_cmd`, as an index of `csrs`. -/
abbrev mbSmbusCmd : ℕ := 259

/-- `mb_smbus_input_payload_0`. -/
abbrev mbSmbusInputPayload0 : ℕ := 264

/-- `mb_smbus_status`. -/
abbrev mbSmbusStatus : ℕ := 296

/-- `mb_smbus_output_payload_0`. -/
abbrev mbSmbusOutputPayload0 : ℕ := 298

/-- The register of an entry of `csrs`; the mailbox starts with entry 258. -/
def csrRegister (index : ℕ) : Register := mailboxRegister (index - 258)

/-! ## The transfer -/

/-- `ApiParams`. -/
structure ApiParams where
  opcode : UInt8
  subopcode : UInt8
  indw : ℕ → UInt32
  indwSize : UInt8

/-- `CHECK_BIT`. -/
def checkBit (val : UInt32) (pos : ℕ) : Bool := val.toNat.testBit pos

/-- `API_MAX_RETRIES`. -/
abbrev apiMaxRetries : ℕ := 10

/-- The result of `api`: the status, the payload and the bus. -/
structure ApiResult where
  status : PECIStatus
  payload : ℕ → UInt8
  bus : CsrBus

/-- The status of a loop over accesses: that of the last one, or the one before the loop. -/
def lastStatus (status : PECIStatus) (as : List CsrAnswer) : PECIStatus :=
  (as.getLast?.map CsrAnswer.status).getD status

/-- The writes of the input registers. -/
def indwWrites (params : ApiParams) : List CsrAccess :=
  (List.range params.indwSize.toNat).map fun i => .csrWr (mbSmbusInputPayload0 + i) (params.indw i)

/-- The reads of the output registers. -/
def payloadReads (payloadSize : ℕ) : List CsrAccess :=
  (List.range payloadSize).map fun i => .csrRd (mbSmbusOutputPayload0 + i)

/-- `payload[i]` is read for each answer, from `payload[index]` on. -/
def readPayload : ℕ → List CsrAnswer → (ℕ → UInt8) → ℕ → UInt8
  | _, [], payload => payload
  | index, a :: as, payload =>
    readPayload (index + 1) as (store payload (4 * index) (dwordBytes 4 a.val))

/-- The loop that waits for the completion: the status and the value of the read that ends it. The
status of the read is not looked at. -/
def waitComplete (bus : CsrBus) : ℕ → Option CsrAnswer × CsrBus
  | 0 => (none, bus)
  | retries + 1 =>
    let a := bus.answer
    let bus := bus.call (.csrRd mbSmbusStatus)
    if checkBit a.val 0 && !checkBit a.val 3 then (some a, bus) else waitComplete bus retries

/-- The command as it is written, without the doorbell. -/
def apiCommand (sh : Shifts) (params : ApiParams) : UInt32 :=
  sh.bitField opcodeBit 8 params.opcode.toUInt32 ||| sh.bitField subopcodeBit 8 params.subopcode.toUInt32

/-- The sequence bit for the value that the command register had. -/
def apiSequence (sh : Shifts) (val : UInt32) : UInt32 :=
  if sh.getFields sequenceBit sequenceBit val = 0 then sh.bitField sequenceBit 1 1
  else sh.bitField sequenceBit 1 0

/-- The end of `api`: the completion and the output payload. -/
def apiCollect (bus : CsrBus) (payload : ℕ → UInt8) (payloadSize : ℕ) : ApiResult :=
  match waitComplete bus apiMaxRetries with
  | (none, bus) => ⟨.smbFail, payload, bus⟩
  | (some a, bus) =>
    let r := bus.callUntil CsrAnswer.Failed (payloadReads payloadSize)
    ⟨lastStatus a.status r.1, readPayload 0 r.1 payload, r.2⟩

/-- `api` from the command on; `val` is what the command register had. -/
def apiRing (sh : Shifts) (bus : CsrBus) (params : ApiParams) (val : UInt32) (payload : ℕ → UInt8)
    (payloadSize : ℕ) : ApiResult :=
  let cmd := apiCommand sh params
  let a := bus.answer
  let bus := bus.call (.csrWr mbSmbusCmd cmd)
  if a.Failed then ⟨a.status, payload, bus⟩
  else
    let cmdDoorbell := sh.bitField doorbellBit 1 1
    let a := bus.answer
    let bus := bus.call (.csrWr mbSmbusCmd (cmd ||| cmdDoorbell ||| apiSequence sh val))
    if a.Failed then ⟨a.status, payload, bus⟩ else apiCollect bus payload payloadSize

/-- `api`. -/
def api (sh : Shifts) (bus : CsrBus) (params : ApiParams) (payload : ℕ → UInt8) (payloadSize : ℕ) :
    ApiResult :=
  let a := bus.answer
  let bus := bus.call (.csrRd mbSmbusCmd)
  if a.Failed then ⟨a.status, payload, bus⟩
  -- the arguments of `getFields` are the other way round, and the branch tests the status again
  else if sh.getFields doorbellBit doorbellBit a.val = 1 ∧ a.Failed then ⟨a.status, payload, bus⟩
  else
    let w := bus.callUntil CsrAnswer.Failed (indwWrites params)
    let status := lastStatus a.status w.1
    if status ≠ .success then ⟨status, payload, w.2⟩
    else apiRing sh w.2 params a.val payload payloadSize

/-- The parameters of a command: whole dwords of the input payload, their number in one byte. -/
def FwCmd.params (cmd : FwCmd) : ApiParams where
  opcode := cmd.opcode
  subopcode := cmd.subOpcode
  indw i := dwordOf (slice cmd.inputPayload (4 * i) 4)
  indwSize := UInt8.ofNat (cmd.inputPayloadSize.toNat / 4)

/-- What a transfer over PECI returns. -/
structure PeciPassThru where
  code : ReturnStatus
  cmd : FwCmd
  bus : CsrBus

/-- `peci_pass_thru`. -/
def peciPassThru (sh : Shifts) (bus : CsrBus) (addr : UInt8) (cmd : FwCmd) : PeciPassThru :=
  if addr = 0 then ⟨PECIStatus.fail.toReturnStatus, cmd, bus⟩
  else
    let r := api sh bus cmd.params cmd.outPayload (cmd.outputPayloadSize.toNat / 4)
    ⟨r.status.toReturnStatus, { cmd with outPayload := r.payload }, r.bus⟩

end BmcNvdimm
