import Bmc.Lib.Memory

/-!
# The USB device core: data model

The data of `coreusb.h`, `usb_hw.h` and `setup.h` that the core keeps for one device, and the calls
it makes to the hardware driver and to the interface modules, which are recorded in `UsbDev.ops`.

* `EndpointInfo`, `DeviceRequest`, `DescTable`, `UsbHw`, `UsbDev`;
* `HwOp`: a call that leaves the core;
* `getEndPointIndex`: the slot of the endpoint table for a number and a direction.
-/

namespace BmcUsb

open BmcLib

/-- `DIR_OUT`. -/
abbrev dirOut : UInt8 := 0

/-- `DIR_IN`. -/
abbrev dirIn : UInt8 := 1

/-- `CONFIGURABLE`. -/
abbrev configurable : UInt8 := 0x04

/-- `NO_ZERO_LEN_PKT`. -/
abbrev noZeroLenPkt : UInt8 := 0

/-- `ZERO_LEN_PKT`. -/
abbrev zeroLenPkt : UInt8 := 1

/-- A data pointer, given by the bytes from its address on; `none` is the null pointer. -/
abbrev DataPtr := Option (ℕ → UInt8)

/-- The `n` bytes at `p[pos]`; nothing is read through the null pointer. -/
def DataPtr.bytes (p : DataPtr) (pos n : ℕ) : List UInt8 :=
  match p with
  | none => []
  | some b => slice b pos n

/-- `ENDPOINT_INFO`, as far as the core reads it. -/
structure EndpointInfo where
  epNum : UInt8
  enabled : UInt8
  interface : UInt8
  maxPacketSize : UInt16
  dir : UInt8
  fifoSize : UInt16
  txData : DataPtr
  txDataLen : UInt32
  txDataPos : UInt32
  txZeroLenPkt : UInt8
  txReady : UInt8
  epUsed : UInt8

/-- The endpoint transmits nothing. -/
def EndpointInfo.Idle (e : EndpointInfo) : Prop := e.txData = none ∧ e.txReady = 1

/-- `sizeof` the buffers that `register_usb_device` allocates for the two requests. -/
abbrev requestDataSize : ℕ := 1024

/-- `DEVICE_REQUEST`. The buffer `data` is never null: without it the registration fails, before the
device is enabled. -/
structure DeviceRequest where
  bmRequestType : UInt8
  bRequest : UInt8
  wValue : UInt16
  wIndex : UInt16
  wLength : UInt16
  status : UInt8
  data : ℕ → UInt8
  dataLen : UInt16
  wLengthOrig : UInt16

/-- The eight bytes of a SETUP packet. -/
structure SetupPacket where
  bmRequestType : UInt8
  bRequest : UInt8
  wValue : UInt16
  wIndex : UInt16
  wLength : UInt16
  deriving DecidableEq, Repr

/-- The `memcpy` of a SETUP packet over the first eight bytes of a request. -/
def DeviceRequest.load (r : DeviceRequest) (p : SetupPacket) : DeviceRequest :=
  { r with
    bmRequestType := p.bmRequestType, bRequest := p.bRequest, wValue := p.wValue,
    wIndex := p.wIndex, wLength := p.wLength }

/-- `DESCRIPTOR_TABLE`: the descriptors, and the strings with their lengths. -/
structure DescTable where
  descBuff : ℕ → UInt8
  descSize : UInt16
  stringTable : UInt8 → ℕ → UInt8
  stringLen : UInt8 → UInt8
  nextCfgId : UInt8

/-- An entry of `ep_config`; the control endpoint has none. -/
structure EpConfig where
  epNum : UInt8
  epDir : UInt8
  epSize : UInt16
  epNum_ne : epNum ≠ 0

/-- `USB_HW`: the constants of the hardware, and which of its optional functions exist. -/
structure UsbHw where
  numEndpoints : UInt8
  ep0Size : UInt16
  epMultipleDMASupport : UInt8
  epMultipleDMASize : UInt16
  isThisHUBDevice : Bool
  usbTxComplete : Bool
  usbHwCompleteRequest : Bool
  usbHwSetRemoteWakeup : Bool
  usbHwGetRemoteWakeup : Bool
  usbHwEnableEp : Bool
  usbHwDisableEp : Bool

/-- A call of the hardware driver, of an interface module or of the scheduler. -/
inductive HwOp where
  | write (ep : UInt8) (packet : List UInt8)
  | txComplete (ep : UInt8)
  | completeRequest (status : UInt8)
  | stall (ep dir : UInt8)
  | unstall (ep dir : UInt8)
  | setAddr (addr enable : UInt8)
  | setRemoteWakeup (set : UInt8)
  | enableEp (ep dir type : UInt8)
  | disableEp (ep dir type : UInt8)
  | allocBuffer (ep : UInt8) (fifo maxPkt : UInt16) (dir type : UInt8)
  | wakeup (epIndex : ℕ)
  | interfaceTx (ifNum ep : UInt8)
  | miscActions (ep action : UInt8)
  deriving DecidableEq, Repr

/-- The part of a request's buffer that a packet is stored to, or taken from. -/
inductive Ep0Access where
  | stored (pos n : ℕ)
  | sent (pos n : ℕ)
  deriving DecidableEq, Repr

/-- Every byte lies in the buffer. -/
def Ep0Access.InBounds : Ep0Access → Prop
  | .stored pos n => ∀ i < n, pos + i < requestDataSize
  | .sent pos n => ∀ i < n, pos + i < requestDataSize

/-- A class request handler of an interface module. It gets the request and gives its result and the
request as it leaves it. -/
abbrev ReqHandler := DeviceRequest → ℤ × DeviceRequest

/-- `USB_DEV_INFO`, with the tables that the core keeps beside it. The functions `epStatus` and
`hwRemoteWakeup` are what the hardware answers at present; `ops` and `accesses` are records. -/
structure UsbDev where
  usbDevice : UsbHw
  endPoint : ℕ → EndpointInfo
  epConfig : List EpConfig
  cfgIndex : UInt8
  suspend : UInt8
  isDevHid : Bool
  devUsbMiscActions : Bool
  remoteWakeup : UInt8
  maxLUN : UInt8
  inRequest : DeviceRequest
  outRequest : DeviceRequest
  blockingSend : Bool
  desc : DescTable
  extProp : ℕ → UInt8
  classReqHandler : UInt8 → Option ReqHandler
  txHandler : UInt8 → Bool
  epStatus : UInt8 → UInt8 → Option (UInt8 × UInt8)
  hwRemoteWakeup : UInt8
  ops : List HwOp
  accesses : List Ep0Access

/-- Record a call. -/
def UsbDev.call (d : UsbDev) (op : HwOp) : UsbDev := { d with ops := d.ops ++ [op] }

/-- Record an access to the buffer of a request. -/
def UsbDev.access (d : UsbDev) (a : Ep0Access) : UsbDev := { d with accesses := d.accesses ++ [a] }

/-- Replace an entry of the endpoint table. -/
def UsbDev.setEp (d : UsbDev) (i : ℕ) (e : EndpointInfo) : UsbDev :=
  { d with endPoint := Function.update d.endPoint i e }

/-- Set `CfgIndex`. -/
def UsbDev.setCfgIndex (d : UsbDev) (v : UInt8) : UsbDev := { d with cfgIndex := v }

/-- Set `Suspend`. -/
def UsbDev.setSuspend (d : UsbDev) (v : UInt8) : UsbDev := { d with suspend := v }

/-- Set `BlockingSend`. -/
def UsbDev.setBlocking (d : UsbDev) (b : Bool) : UsbDev := { d with blockingSend := b }

/-- Replace the request of device-to-host transfers. -/
def UsbDev.setInRequest (d : UsbDev) (r : DeviceRequest) : UsbDev := { d with inRequest := r }

/-- Replace the request of host-to-device transfers. -/
def UsbDev.setOutRequest (d : UsbDev) (r : DeviceRequest) : UsbDev := { d with outRequest := r }

/-- `GetEndPointIndex`; `none` models the result `0xFF`. -/
def getEndPointIndex (d : UsbDev) (epNum epDir : UInt8) : Option ℕ :=
  (List.range (d.usbDevice.numEndpoints + 2).toNat).find? fun i =>
    (d.endPoint i).epUsed ≠ 0 && ((d.endPoint i).dir = epDir || (d.endPoint i).dir = configurable) &&
      (d.endPoint i).epNum = epNum

section

variable (d : UsbDev) (op : HwOp) (i : ℕ) (e : EndpointInfo)

@[simp] theorem UsbDev.call_ops : (d.call op).ops = d.ops ++ [op] := rfl

@[simp] theorem UsbDev.call_endPoint : (d.call op).endPoint = d.endPoint := rfl

@[simp] theorem UsbDev.setEp_ops : (d.setEp i e).ops = d.ops := rfl

@[simp] theorem UsbDev.setEp_self : (d.setEp i e).endPoint i = e := by simp [setEp]

theorem UsbDev.setEp_of_ne {j : ℕ} (h : j ≠ i) : (d.setEp i e).endPoint j = d.endPoint j := by
  simp [setEp, h]

theorem getEndPointIndex_epNum {d : UsbDev} {epNum epDir : UInt8} {i : ℕ}
    (h : getEndPointIndex d epNum epDir = some i) : (d.endPoint i).epNum = epNum := by
  have := List.find?_some h
  simp only [Bool.and_eq_true, decide_eq_true_eq] at this
  exact this.2

end

end BmcUsb
