import Bmc.Lib.Loop
import Bmc.Usb.Device

/-!
# Descriptor lookups

The walks of `descriptors.c` over the descriptor buffer of a device. Every descriptor begins with its
length and its type.

* `DescTable.seek`: the walk from one descriptor to the next one;
* `getDeviceDesc`, `getConfigDesc`, `getInterfaceDesc`, `getEndpointDesc`: descriptors, as indices
  into the buffer; `getConfigDescSize`;
* `getNumInterfaces`, `getNumEndpoints`, `getMaxPacketSize`, `getInterface`, `getEndPointType`.
-/

namespace BmcUsb

open BmcLib

abbrev device : UInt8 := 0x01
abbrev configuration : UInt8 := 0x02
abbrev interface : UInt8 := 0x04
abbrev endpoint : UInt8 := 0x05
abbrev deviceQualifier : UInt8 := 0x06

/-- `sizeof(USB_DEVICE_DESC)`. -/
abbrev deviceDescSize : ℕ := 18

/-- `sizeof(USB_DEVICE_QUALIFIER_DESC)`. -/
abbrev deviceQualifierSize : ℕ := 10

namespace DescTable

variable (t : DescTable)

/-- Walk from descriptor to descriptor until `stop`, or to the end of the buffer. The source would
not leave the walk at a descriptor of length 0. -/
def seek (stop : ℕ → Bool) (index : ℕ) : ℕ :=
  whileN (fun i => i < t.descSize.toNat && !stop i) (fun i => i + (t.descBuff i).toNat)
    t.descSize.toNat index

/-- Where a walk found what it was looking for. -/
def found (wanted : ℕ → Bool) (index : ℕ) : Option ℕ :=
  if index < t.descSize.toNat && wanted index then some index else none

/-- The type of the descriptor at an index. -/
def type (index : ℕ) : UInt8 := t.descBuff (index + 1)

/-- `GetDeviceDesc`. -/
def getDeviceDesc : Option ℕ :=
  if t.descSize.toNat < deviceDescSize then none
  else if t.descBuff 1 ≠ device then none
  else some 0

/-- `GetConfigDesc`. -/
def getConfigDesc (configIndex : UInt8) : Option ℕ :=
  let wanted := fun i => t.type i = configuration && t.descBuff (i + 5) = configIndex
  t.found wanted (t.seek wanted (t.descBuff 0).toNat)

/-- `GetInterfaceDesc`. -/
def getInterfaceDesc (configIndex ifaceIndex : UInt8) : Option ℕ :=
  match t.getConfigDesc configIndex with
  | none => none
  | some cfg =>
    let wanted := fun i => t.type i = interface && t.descBuff (i + 2) = ifaceIndex
    t.found wanted (t.seek (fun i => wanted i || t.type i = configuration)
      (cfg + (t.descBuff cfg).toNat))

/-- `GetFirstEndpointDescIndex`; `none` models the result `0`. -/
def getFirstEndpointDescIndex (configIndex ifaceIndex : UInt8) : Option ℕ :=
  match t.getInterfaceDesc configIndex ifaceIndex with
  | none => none
  | some iface =>
    if t.descBuff (iface + 4) = 0 then none
    else
      let wanted := fun i => decide (t.type i = endpoint)
      t.found wanted (t.seek wanted (iface + (t.descBuff iface).toNat))

/-- `GetEndpointDesc`. -/
def getEndpointDesc (configIndex ifaceIndex endPointNum epDir : UInt8) : Option ℕ :=
  match t.getFirstEndpointDescIndex configIndex ifaceIndex with
  | none => none
  | some first =>
    let wanted := fun i => t.type i = endpoint &&
      (t.descBuff (i + 2) &&& 0x0F) = endPointNum && (t.descBuff (i + 2) &&& (0x80 : UInt8)) = epDir <<< 7
    t.found wanted (t.seek (fun i => wanted i || t.type i ≠ endpoint) first)

/-- `GetConfigDescSize`. -/
def getConfigDescSize (configIndex : UInt8) : UInt16 :=
  match t.getConfigDesc configIndex with
  | none => 0
  | some cfg => UInt16.ofNat
      (t.seek (fun i => t.type i = configuration) (cfg + (t.descBuff cfg).toNat) - cfg)

/-- `GetNumConfigurations`. -/
def getNumConfigurations : UInt8 := if t.nextCfgId = 0 then 0 else t.nextCfgId - 1

/-- `GetNumInterfaces`. -/
def getNumInterfaces (cfgIndex : UInt8) : UInt8 :=
  match t.getConfigDesc cfgIndex with
  | none => 0
  | some cfg => t.descBuff (cfg + 4)

/-- `GetNumEndpoints`. -/
def getNumEndpoints (cfgIndex intIndex : UInt8) : UInt8 :=
  match t.getInterfaceDesc cfgIndex intIndex with
  | none => 0
  | some iface => t.descBuff (iface + 4)

/-- The first interface of a configuration that has the endpoint, with the endpoint's descriptor. -/
def firstEndpoint (cfgIndex epNum epDir : UInt8) : Option (UInt8 × ℕ) :=
  (List.range (t.getNumInterfaces cfgIndex).toNat).findSome? fun i =>
    (t.getEndpointDesc cfgIndex (UInt8.ofNat i) epNum epDir).map (UInt8.ofNat i, ·)

/-- `GetMaxPacketSize`. -/
def getMaxPacketSize (cfgIndex epNum epDir : UInt8) : UInt16 :=
  match t.firstEndpoint cfgIndex epNum epDir with
  | none => 0
  | some (_, e) => (t.descBuff (e + 4)).toUInt16 + (t.descBuff (e + 5)).toUInt16 * 0x100

/-- `GetInterface`. -/
def getInterface (cfgIndex epNum epDir : UInt8) : UInt8 :=
  match t.firstEndpoint cfgIndex epNum epDir with
  | none => 0xFF
  | some (i, _) => i

/-- `GetEndPointType`. -/
def getEndPointType (cfgIndex epNum epDir : UInt8) : UInt8 :=
  match t.firstEndpoint cfgIndex epNum epDir with
  | none => 0
  | some (_, e) => t.descBuff (e + 3)

/-- Overwrite two neighbouring bytes of the buffer. -/
def setWord (index : ℕ) (lo hi : UInt8) : DescTable :=
  { t with descBuff := store t.descBuff index [lo, hi] }

end DescTable

/-- `GetDeviceQualifierDesc`. -/
def getDeviceQualifierDesc (hw : UsbHw) : List UInt8 :=
  [10, deviceQualifier, 0x10, 0x01, 0, 0, 0, hw.ep0Size.toUInt8, 0, 0]

/-- `GetInterfaceReqHandler`. -/
def getInterfaceReqHandler (d : UsbDev) (ifNum : UInt8) : Option ReqHandler :=
  if d.usbDevice.isThisHUBDevice then d.classReqHandler 0
  else if d.cfgIndex = 0 then none
  else if d.desc.getNumInterfaces d.cfgIndex = 0 then none
  else if ifNum ≥ d.desc.getNumInterfaces d.cfgIndex then none
  else d.classReqHandler ifNum

end BmcUsb
