import Bmc.Lib.Device
import Bmc.Lib.Endian
import Bmc.Lib.Memory

/-!
# PECI calls

The functions of the PECI library that the crashdump commands call: each opens the device, sends one
message and copies what came back.

* `PeciCall`: the calls with their arguments; `PeciAnswer`: what the device and the CPU answer;
* `PeciCall.Accepted`, `PeciCall.readLen`: the lengths that a function accepts and copies;
* `PeciCall.status`, `PeciCall.Issued`: what a function returns, and whether it returns a completion
  code.
-/

namespace BmcAcd

/-- `EPECIStatus`. -/
inductive EPECIStatus where
  | success
  | invalidReq
  | hwErr
  | driverErr
  | cpuNotPresent
  | memErr
  deriving DecidableEq, Repr

/-- `PECI_DEV_CC_SUCCESS`. -/
abbrev peciDevCcSuccess : UInt8 := 0x40

/-- `PECI_DEV_CC_FATAL_MCA_DETECTED`. -/
abbrev peciDevCcFatalMcaDetected : UInt8 := 0x94

/-- `PECI_CC_UA`. -/
def peciCcUA (cc : UInt8) : Prop := cc ≠ peciDevCcSuccess ∧ cc ≠ peciDevCcFatalMcaDetected

instance (cc : UInt8) : Decidable (peciCcUA cc) := inferInstanceAs (Decidable (_ ∧ _))

/-- `MIN_CLIENT_ADDR`. -/
abbrev minClientAddr : UInt8 := 0x30

/-- `MAX_CLIENT_ADDR`. -/
abbrev maxClientAddr : UInt8 := 0x37

/-- A call of the PECI library. -/
inductive PeciCall where
  | crashDumpDiscovery (target subopcode param0 : UInt8) (param1 : UInt16) (param2 readLen : UInt8)
  | crashDumpGetFrame (target : UInt8) (param0 param1 param2 : UInt16) (readLen : UInt8)
  | ping (target : UInt8)
  | rdIAMSR (target threadID : UInt8) (address : UInt16)
  | rdPkgConfig (target index : UInt8) (value : UInt16) (readLen : UInt8)
  | rdPCIConfigLocal (target bus device fcn : UInt8) (reg : UInt16) (readLen : UInt8)
  | rdEndPointConfigPciLocal (target seg bus device fcn : UInt8) (reg : UInt16) (readLen : UInt8)
  | wrEndPointPCIConfigLocal (target seg bus device fcn : UInt8) (reg : UInt16) (dataLen : UInt8)
      (dataVal : UInt32)
  | rdEndPointConfigMmio (target seg bus device fcn bar addrType : UInt8) (offset : UInt64)
      (readLen : UInt8)
  | telemetryDiscovery (target subopcode param0 : UInt8) (param1 : UInt16) (param2 readLen : UInt8)
  | telemetryGetCrashlogSample (target : UInt8) (index sample : UInt16) (readLen : UInt8)
  deriving DecidableEq, Repr

/-- The answers to a call: whether `peci_Open` and the `ioctl` of `HW_peci_issue_cmd` succeed, and the
completion code and the data that are in the message afterwards. -/
structure PeciAnswer where
  opened : Bool
  ok : Bool
  cc : UInt8
  data : ℕ → UInt8

namespace PeciCall

/-- The number of bytes that are copied on success. -/
def readLen : PeciCall → ℕ
  | crashDumpDiscovery _ _ _ _ _ n => n.toNat
  | crashDumpGetFrame _ _ _ _ n => n.toNat
  | ping _ => 0
  | rdIAMSR _ _ _ => 8
  | rdPkgConfig _ _ _ n => n.toNat
  | rdPCIConfigLocal _ _ _ _ _ n => n.toNat
  | rdEndPointConfigPciLocal _ _ _ _ _ _ n => n.toNat
  | wrEndPointPCIConfigLocal _ _ _ _ _ _ _ _ => 0
  | rdEndPointConfigMmio _ _ _ _ _ _ _ _ n => n.toNat
  | telemetryDiscovery _ _ _ _ _ n => n.toNat
  | telemetryGetCrashlogSample _ _ _ n => n.toNat

/-- The arguments pass the checks of the function. -/
def Accepted : PeciCall → Prop
  | crashDumpDiscovery _ _ _ _ _ n => n = 1 ∨ n = 2 ∨ n = 8
  | crashDumpGetFrame _ _ _ _ n => n = 8 ∨ n = 16
  | ping _ => True
  | rdIAMSR _ _ _ => True
  | rdPkgConfig _ _ _ n => n = 1 ∨ n = 2 ∨ n = 4
  | rdPCIConfigLocal _ _ _ _ _ n => n = 1 ∨ n = 2 ∨ n = 4
  | rdEndPointConfigPciLocal _ _ _ _ _ _ n => n = 1 ∨ n = 2 ∨ n = 4
  | wrEndPointPCIConfigLocal _ _ _ _ _ _ n _ => n = 1 ∨ n = 2 ∨ n = 4
  | rdEndPointConfigMmio _ _ _ _ _ _ _ _ n => n = 1 ∨ n = 2 ∨ n = 4 ∨ n = 8
  | telemetryDiscovery target _ _ _ _ n =>
    minClientAddr ≤ target ∧ target ≤ maxClientAddr ∧ n ≤ 10
  | telemetryGetCrashlogSample target _ _ n =>
    minClientAddr ≤ target ∧ target ≤ maxClientAddr ∧ n ≤ 8

instance (c : PeciCall) : Decidable c.Accepted := by
  cases c <;> unfold Accepted <;> infer_instance

/-- The function checks its arguments before it opens the device. -/
def checksFirst : PeciCall → Bool
  | crashDumpDiscovery _ _ _ _ _ _ => true
  | crashDumpGetFrame _ _ _ _ _ => true
  | telemetryDiscovery _ _ _ _ _ _ => true
  | telemetryGetCrashlogSample _ _ _ _ => true
  | _ => false

/-- The function has a completion code to return. -/
def hasCc : PeciCall → Bool
  | ping _ => false
  | _ => true

/-- What the function returns. -/
def status (c : PeciCall) (a : PeciAnswer) : EPECIStatus :=
  if c.checksFirst ∧ ¬ c.Accepted then .invalidReq
  else if ¬ a.opened then .driverErr
  else if ¬ c.Accepted then .invalidReq
  else if a.ok then .success
  else .driverErr

/-- The message is sent, and the function returns a completion code. -/
def Issued (c : PeciCall) (a : PeciAnswer) : Prop := c.Accepted ∧ a.opened ∧ c.hasCc

instance (c : PeciCall) (a : PeciAnswer) : Decidable (c.Issued a) :=
  inferInstanceAs (Decidable (_ ∧ _ ∧ _))

/-- The call succeeded. -/
def Ok (c : PeciCall) (a : PeciAnswer) : Prop :=
  c.status a = .success ∧ (c.hasCc → ¬ peciCcUA a.cc)

instance (c : PeciCall) (a : PeciAnswer) : Decidable (c.Ok a) :=
  inferInstanceAs (Decidable (_ ∧ _))

end PeciCall

end BmcAcd
