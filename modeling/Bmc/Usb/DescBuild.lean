import Bmc.Usb.Descriptors
import Bmc.Usb.EpSelect

/-!
# Building the descriptors

The functions of `descriptors.c` that fill the descriptor buffer of a device, one descriptor after the other.

* `Descriptor`, with its bytes; `DescBuild`: the descriptor table while it is filled, with the endpoints of the hardware;
* `createDescriptor`, `addDeviceDesc`, `addCfgDesc`, `addInterfaceDesc`, `addHidDesc`, `addEndPointDesc`, which give the table they
  leave, and whether they succeed;
* **`addEndPointDesc_run_iff`**: when all the selections of a run are right.
-/

namespace BmcUsb

open BmcLib

/-! ## Descriptors -/

/-- A direction, as the builders get it (`IN`, `OUT`) and as the lookups get it (`DIR_IN`, `DIR_OUT`). -/
inductive EpDir where
  | epOut
  | epIn
  deriving DecidableEq

/-- `OUT` or `IN` -/
def EpDir.bits : EpDir → UInt8
  | epOut => 0x00
  | epIn => 0x80

/-- `DIR_OUT` or `DIR_IN` -/
def EpDir.flag : EpDir → UInt8
  | epOut => dirOut
  | epIn => dirIn

/-- The descriptors, with the fields that are not the same for all of them. -/
inductive Descriptor where
  | device (bMaxPacketSize0 : UInt8) (idVendor idProduct bcdDevice : UInt16) (iManufacturer iProduct iSerialNumber : UInt8)
  | config (wTotalLength bNumInterfaces bConfigurationValue bmAttributes : UInt8)
  | interface (bInterfaceNumber bNumEndpoints bInterfaceClass bInterfaceSubClass bInterfaceProtocol iInterface : UInt8)
  | hid (wDescriptorLength : UInt16)
  | endpoint (number : UInt8) (dir : EpDir) (bmAttributes : UInt8) (wMaxPacketSize : UInt16) (bInterval : UInt8)
  deriving DecidableEq

/-- `HID_DESC` -/
abbrev hidDesc : UInt8 := 0x21

/-- `REPORT_DESC` -/
abbrev reportDesc : UInt8 := 0x22

/-- `LO_BYTE` and `HI_BYTE` -/
def wordBytes (w : UInt16) : List UInt8 := [w.toUInt8, (w >>> 8).toUInt8]

/-- The bytes of a descriptor. The total length of a configuration is kept in a variable of eight bits. -/
def Descriptor.bytes : Descriptor → List UInt8
  | device ep0 vendor product rev iManufacturer iProduct iSerialNumber =>
    [18, BmcUsb.device, 0x10, 0x01, 0, 0, 0, ep0] ++ wordBytes vendor ++ wordBytes product ++ wordBytes rev ++
      [iManufacturer, iProduct, iSerialNumber, 0]
  | config total numInterfaces value attributes => [9, configuration, total, 0, numInterfaces, value, 0, attributes, 0]
  | interface num numEndpoints cls sub proto str => [9, BmcUsb.interface, num, 0, numEndpoints, cls, sub, proto, str]
  | hid report => [9, hidDesc, 0x10, 0x01, 0, 1, reportDesc] ++ wordBytes report
  | endpoint num dir attributes size interval =>
    [7, BmcUsb.endpoint, num ||| dir.bits, attributes] ++ wordBytes size ++ [interval]

/-! ## The builders -/

/-- `DESCRIPTOR_TABLE`, with the table of the endpoints and `EP0Size` of the device. -/
structure DescBuild where
  desc : DescTable
  usedSize : UInt16
  nextStrId : UInt8
  nextIfNum : UInt8
  eps : EpTable
  ep0Size : UInt16

namespace DescBuild

variable (b : DescBuild)

/-- `CreateDescriptor`; `mem` is what the new buffer holds. -/
def createDescriptor (mem : ℕ → UInt8) (descSize : UInt16) : DescBuild :=
  { b with desc := { b.desc with descBuff := mem, descSize }, usedSize := 0 }

/-- `AddDescriptor` -/
def addDescriptor (desc : List UInt8) : DescBuild × Bool :=
  if desc.length > b.desc.descSize.toNat - b.usedSize.toNat then (b, false)
  else
    ({ b with
        desc := { b.desc with descBuff := store b.desc.descBuff b.usedSize.toNat desc }
        usedSize := b.usedSize + UInt16.ofNat desc.length }, true)

/-- `ConvertAsciizToUniCode` -/
def convertAsciizToUniCode (str : List UInt8) : List UInt8 :=
  [UInt8.ofNat ((str.length + 1) * 2 + 2), 0x03] ++ str.flatMap (fun c => [c, 0]) ++ [0, 0]

/-- Enter a string, and give its index; a null pointer and a string for which there is no memory have the index 0. -/
def addString : Option (List UInt8) → DescBuild × UInt8
  | none => (b, 0)
  | some str =>
    let s := convertAsciizToUniCode str
    ({ b with
        desc := { b.desc with
          stringTable := Function.update b.desc.stringTable b.nextStrId (block 0 s)
          stringLen := Function.update b.desc.stringLen b.nextStrId (UInt8.ofNat s.length) }
        nextStrId := b.nextStrId + 1 }, b.nextStrId)

/-- The string `"serial"`. -/
def serial : List UInt8 := [0x73, 0x65, 0x72, 0x69, 0x61, 0x6C]

/-- `AddDeviceDesc`. A driver with the function `UsbHwGetdevicetypeEps` answers with the endpoints, or fails. -/
def addDeviceDesc (vendorId productId deviceRev : UInt16) (manufStr prodStr : Option (List UInt8)) (isThisLunDev : Bool)
    (usbHwGetdevicetypeEps : Option (Option EpTable)) : DescBuild × Bool :=
  let (b, iManufacturer) := b.addString manufStr
  let (b, iProduct) := b.addString prodStr
  let (b, iSerialNumber) := b.addString (if isThisLunDev then some serial else none)
  let desc := Descriptor.device b.ep0Size.toUInt8 vendorId productId deviceRev iManufacturer iProduct iSerialNumber
  match usbHwGetdevicetypeEps with
  | none => b.addDescriptor desc.bytes
  | some none => (b, false)
  | some (some eps) => { b with eps }.addDescriptor desc.bytes

/-- `SELF_POWERED` -/
abbrev selfPowered : UInt8 := 0xC0

/-- `REMOTE_WAKEUP` -/
abbrev remoteWakeup : UInt8 := 0xA0

/-- `CfgTotalSize`: a variable of eight bits. -/
def cfgTotalSize : UInt8 := (b.desc.descSize - UInt16.ofNat deviceDescSize).toUInt8

/-- Begin a configuration: count it in the device descriptor, and start with interface 0 and free endpoints. -/
def startConfig (dev : ℕ) : DescBuild :=
  { b with
    desc := { b.desc with
      nextCfgId := b.desc.nextCfgId + 1
      descBuff := store b.desc.descBuff (dev + 17) [b.desc.descBuff (dev + 17) + 1] }
    nextIfNum := 0
    eps := b.eps.freeAll }

/-- `AddCfgDesc`. Without a device descriptor the source runs into a null pointer, and the call does not return. -/
def addCfgDesc (numInterfaces : UInt8) (hid : Bool) : DescBuild × Bool :=
  match b.desc.getDeviceDesc with
  | none => (b, false)
  | some dev =>
    let desc := Descriptor.config b.cfgTotalSize numInterfaces b.desc.nextCfgId
      (if hid then selfPowered ||| remoteWakeup else selfPowered)
    (b.startConfig dev).addDescriptor desc.bytes

/-- `AddInterfaceDesc` -/
def addInterfaceDesc (bNumEndPoints bClass bSubClass bProtocol : UInt8) (intStr : Option (List UInt8)) : DescBuild × Bool :=
  let num := b.nextIfNum
  let (b, iInterface) := { b with nextIfNum := num + 1 }.addString intStr
  b.addDescriptor (Descriptor.interface num bNumEndPoints bClass bSubClass bProtocol iInterface).bytes

/-- `AddHidDesc` -/
def addHidDesc (reportSize : UInt16) : DescBuild × Bool := b.addDescriptor (Descriptor.hid reportSize).bytes

/-- `AddEndPointDesc` -/
def addEndPointDesc (dir : EpDir) (type : UInt8) (minPktSize maxPktSize : UInt16) (interval : UInt8) : DescBuild × Bool :=
  let (nextEpNum, epBufSize, eps) := selectSuitableEndpoint b.eps ⟨dir.bits, type, minPktSize, maxPktSize⟩
  if nextEpNum = 0xFF then ({ b with eps }, false)
  else { b with eps }.addDescriptor (Descriptor.endpoint nextEpNum dir type epBufSize interval).bytes

end DescBuild

/-! ## Many endpoints -/

/-- The arguments of a call of `AddEndPointDesc`. -/
structure EpCall where
  dir : EpDir
  type : UInt8
  minPktSize : UInt16
  maxPktSize : UInt16
  interval : UInt8

/-- What the call asks `select_suitable_endpoint` for. -/
def EpCall.request (c : EpCall) : EpRequest := ⟨c.dir.bits, c.type, c.minPktSize, c.maxPktSize⟩

/-- The table after a call of `AddEndPointDesc`, be it successful or not. -/
def DescBuild.afterEndPointDesc (b : DescBuild) (c : EpCall) : DescBuild :=
  (b.addEndPointDesc c.dir c.type c.minPktSize c.maxPktSize c.interval).1

/-- The endpoints are those that the selection leaves, with and without room for the descriptor. -/
theorem addDescriptor_eps (b : DescBuild) (desc : List UInt8) : (b.addDescriptor desc).1.eps = b.eps := by
  rw [DescBuild.addDescriptor]
  split_ifs <;> rfl

theorem afterEndPointDesc_eps (b : DescBuild) (c : EpCall) : (b.afterEndPointDesc c).eps = b.eps.after c.request := by
  rw [DescBuild.afterEndPointDesc, DescBuild.addEndPointDesc]
  dsimp only
  split_ifs
  · rfl
  · exact addDescriptor_eps _ _

/-- The entries of the hardware's endpoints that a sequence of calls gives out. -/
def DescBuild.givenOut (b : DescBuild) : List EpCall → List ℕ
  | [] => []
  | c :: cs =>
    (if (selectSuitableEndpoint b.eps c.request).1 = 0xFF then [] else [(b.eps.choice c.request).index]) ++
      (b.afterEndPointDesc c).givenOut cs

/-- The calls give out what their selections give out. -/
theorem givenOut_eq (b : DescBuild) (cs : List EpCall) : b.givenOut cs = BmcUsb.givenOut b.eps (cs.map EpCall.request) := by
  induction cs generalizing b with
  | nil => rfl
  | cons c cs ih => rw [DescBuild.givenOut, List.map_cons, BmcUsb.givenOut, ih, afterEndPointDesc_eps]

/-- **The selections of a run are right**, and no endpoint is given out twice, exactly when each of them finds an endpoint, or
has an empty table before it, or one whose first entry is used already. -/
theorem addEndPointDesc_run_iff (b : DescBuild) (cs : List EpCall) :
    (AllSteps DescBuild.afterEndPointDesc (fun b c => SelectsRight b.eps c.request) b cs ∧
        (b.givenOut cs).Nodup) ↔
      AllSteps DescBuild.afterEndPointDesc
        (fun b c => b.eps.CanSelect c.request ∨ b.eps.numEps = 0 ∨ b.eps.FirstUsed c.request) b cs := by
  have hnodup : (b.givenOut cs).Nodup := by
    rw [givenOut_eq]
    exact nodup_givenOut _ _
  rw [and_iff_left hnodup]
  exact allSteps_congr (I := fun _ => True) (fun b c _ => selectsRight_iff) (fun _ _ _ _ => trivial) trivial

/-- The endpoints of a device with one IN endpoint of 64 bytes, and one that is asked for and is not there. -/
def oneInEndpoint : EpTable where
  epConfig _ := ⟨1, 0x80, 64, 2, false⟩
  numEps := 1
  epNum_ne _ _ := ⟨by decide, by decide⟩

/-- **A failing call spoils an endpoint**: there is no OUT endpoint, and the IN endpoint is marked instead. -/
theorem no_out_endpoint :
    (selectSuitableEndpoint oneInEndpoint ⟨0x00, 2, 64, 64⟩).1 = 0xFF ∧
      (oneInEndpoint.epConfig 0).isEpUsed = false ∧
      ((oneInEndpoint.after ⟨0x00, 2, 64, 64⟩).epConfig 0).isEpUsed = true ∧
      ¬ SelectsRight oneInEndpoint ⟨0x00, 2, 64, 64⟩ := by
  refine ⟨by decide, rfl, by decide, fun h => ?_⟩
  have hsame := h.2 (by decide) 0 (by decide)
  exact absurd (congrArg EpSlot.isEpUsed hsame) (by decide)

end BmcUsb
