import Bmc.Lib.Device
import Bmc.Lib.Endian
import Bmc.Lib.Chunks

/-!
# Firmware commands for a memory module

The command record that both transports take, the status codes, and the registers of the mailbox.

* `FwCmd`: opcode, payloads and their sizes; `ReturnStatus`, `IsError`;
* `Access`, `Answer`, `Bus`: reads and writes of 32-bit registers that may fail;
* `dwordOf`, `dwordBytes`: four bytes as a register value and back.
-/

namespace BmcNvdimm

open BmcLib

/-! ## Status codes -/

/-- `RETURN_STATUS`. -/
abbrev ReturnStatus := UInt64

/-- `RETURN_ERROR`: the highest bit is set. -/
def IsError (code : ReturnStatus) : Prop := 0x8000000000000000 ≤ code

instance (code : ReturnStatus) : Decidable (IsError code) :=
  inferInstanceAs (Decidable (_ ≤ _))

/-- `RETURN_SUCCESS`. -/
abbrev returnSuccess : ReturnStatus := 0

/-- `RETURN_INVALID_PARAMETER`. -/
abbrev returnInvalidParameter : ReturnStatus := 0x8000000000000002

/-- `RETURN_DEVICE_ERROR`. -/
abbrev returnDeviceError : ReturnStatus := 0x8000000000000007

/-- `RETURN_TIMEOUT`. -/
abbrev returnTimeout : ReturnStatus := 0x8000000000000012

theorem not_isError_success : ¬ IsError returnSuccess := by decide

theorem isError_invalidParameter : IsError returnInvalidParameter := by decide

theorem isError_deviceError : IsError returnDeviceError := by decide

theorem isError_timeout : IsError returnTimeout := by decide

theorem ne_success_of_isError {code : ReturnStatus} (h : IsError code) : code ≠ returnSuccess := by
  rintro rfl
  exact not_isError_success h

/-! ## Commands -/

/-- `IN_PAYLOAD_SIZE`. -/
abbrev inPayloadSize : ℕ := 128

/-- `OUT_PAYLOAD_SIZE`. -/
abbrev outPayloadSize : ℕ := 128

/-- `fw_cmd_t`. The payloads are the memory from the start of the buffer of 128 bytes on. -/
structure FwCmd where
  inputPayloadSize : UInt32
  largeInputPayloadSize : UInt32
  outputPayloadSize : UInt32
  largeOutputPayloadSize : UInt32
  inputPayload : ℕ → UInt8
  outPayload : ℕ → UInt8
  opcode : UInt8
  subOpcode : UInt8
  status : UInt8

/-- `fw_cmd_t fw_cmd = {0}`. -/
def FwCmd.zero : FwCmd where
  inputPayloadSize := 0
  largeInputPayloadSize := 0
  outputPayloadSize := 0
  largeOutputPayloadSize := 0
  inputPayload := fun _ => 0
  outPayload := fun _ => 0
  opcode := 0
  subOpcode := 0
  status := 0

/-- The opcode, the sub-opcode and the doorbell in the upper half of the command register:
`OP_SHIFT_32`, `SUB_OP_SHIFT_32` and `DB_SHIFT_32`. -/
def commandDword (opcode subOpcode : UInt8) : UInt32 :=
  opcode.toUInt32 ||| subOpcode.toUInt32 <<< 8 ||| (1 : UInt32) <<< 16

/-- The doorbell bit of the command register is set. -/
def doorbell (value : UInt32) : Bool := value.toNat.testBit 16

/-! ## Register accesses -/

/-- A read or a write of a register. -/
inductive Access where
  | read (addr : UInt32)
  | write (addr value : UInt32)
  deriving DecidableEq, Repr

/-- The outcome of an access: the code that it returns, what then is in the variable read into, and
whether a write that failed has reached the register. -/
structure Answer where
  code : ReturnStatus
  value : UInt32
  landed : Bool
  deriving DecidableEq, Repr

/-- The registers as a program reaches them. -/
abbrev Bus := Device Access Answer

/-! ## Payload bytes -/

/-- `memcpy` of at most four bytes to a variable that is zero. -/
def dwordOf (bytes : List UInt8) : UInt32 := UInt32.ofNat (leNat bytes)

/-- The first `n` bytes of a variable. -/
def dwordBytes (n : ℕ) (value : UInt32) : List UInt8 := leBytes n value.toNat

@[simp] theorem length_dwordBytes (n : ℕ) (value : UInt32) : (dwordBytes n value).length = n :=
  length_leBytes n _

theorem toNat_dwordOf {bytes : List UInt8} (h : bytes.length ≤ 4) :
    (dwordOf bytes).toNat = leNat bytes := by
  have hlt : leNat bytes < 2 ^ 32 :=
    (leNat_lt bytes).trans_le (Nat.pow_le_pow_right (n := 256) (by norm_num) h)
  rw [dwordOf, UInt32.toNat_ofNat', Nat.mod_eq_of_lt hlt]

/-- The byte `i` of the registers with these values. -/
def payloadByte (value : ℕ → UInt32) (i : ℕ) : UInt8 :=
  UInt8.ofNat ((value (i / 4)).toNat / 256 ^ (i % 4))

/-- `memcpy` of a register to its place in a payload. -/
theorem store_dwordBytes {n : ℕ} (hn : n ≤ 4) (index : ℕ) (buffer : ℕ → UInt8) (value : ℕ → UInt32) (i : ℕ) :
    store buffer (4 * index) (dwordBytes n (value index)) i =
      if 4 * index ≤ i ∧ i < 4 * index + n then payloadByte value i else buffer i := by
  by_cases hi : 4 * index ≤ i ∧ i < 4 * index + n
  · obtain ⟨k, rfl⟩ := Nat.exists_eq_add_of_le hi.1
    have hk : k < n := by omega
    have hdiv : (4 * index + k) / 4 = index := by omega
    have hmod : (4 * index + k) % 4 = k := by omega
    rw [if_pos hi, store_apply_add (by rwa [length_dwordBytes]), payloadByte, hdiv, hmod]
    refine Option.some_injective _ ?_
    rw [← List.getElem?_eq_getElem, dwordBytes, getElem?_leBytes hk]
  · rw [if_neg hi]
    rcases Nat.lt_or_ge i (4 * index) with hlt | hge
    · exact store_apply_lt hlt
    · refine store_apply_ge ?_
      rw [length_dwordBytes]
      omega

theorem dwordOf_inj {bytes bytes' : List UInt8} (hlen : bytes.length = bytes'.length)
    (h4 : bytes.length ≤ 4) (h : dwordOf bytes = dwordOf bytes') : bytes = bytes' := by
  have h' := congrArg UInt32.toNat h
  rw [toNat_dwordOf h4, toNat_dwordOf (hlen ▸ h4)] at h'
  rw [← leBytes_leNat bytes, ← leBytes_leNat bytes', h', hlen]

end BmcNvdimm
