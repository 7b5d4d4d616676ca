import Bmc.Usb.Config

/-!
# Control requests

The request handlers of `setup.c`, and the class request handler of the mass-storage interface. Each
one gets the device and the request, and gives both as it leaves them.

* `processGetStatus`, `processGetDescriptor`, …, one for each standard request;
* `processClassRequest`, `processVendorRequest`, `botReqHandler`;
* `processStandardRequest`, `processSetup`: the dispatchers;
* `processGetStatus_eq`: the byte that GET_STATUS writes;
* **`processSetup_frame`**: what the request handlers leave alone.
-/

namespace BmcUsb

open BmcLib

/-- `REQ_DEVICE2HOST`. -/
abbrev reqDevice2Host : UInt8 := 0x80

/-- `REQ_RECIP_MASK`. -/
def reqRecipMask (x : UInt8) : UInt8 := x &&& 0x1F

/-- `REQ_TYPE_MASK`. -/
def reqTypeMask (x : UInt8) : UInt8 := (x &&& 0x60) >>> 5

abbrev reqDevice : UInt8 := 0x00
abbrev reqInterface : UInt8 := 0x01
abbrev reqEndpoint : UInt8 := 0x02

/-- Write the first byte of the request's buffer. -/
def DeviceRequest.setByte (r : DeviceRequest) (b : UInt8) : DeviceRequest :=
  { r with data := store r.data 0 [b] }

/-- Copy a reply to the request's buffer and shorten the request to it. -/
def DeviceRequest.reply (r : DeviceRequest) (bytes : List UInt8) : DeviceRequest :=
  { r with data := store r.data 0 bytes, wLength := UInt16.ofNat bytes.length }

/-- Set the status of a request. -/
def DeviceRequest.setStatus (r : DeviceRequest) (status : UInt8) : DeviceRequest :=
  { r with status := status }

/-! ## Services of the core -/

/-- `UsbSetAddr`. -/
def usbSetAddr (d : UsbDev) (addr enable : UInt8) : UsbDev := d.call (.setAddr addr enable)

/-- `UsbStallEp`. -/
def usbStallEp (d : UsbDev) (ep dir : UInt8) : UsbDev := d.call (.stall ep dir)

/-- `UsbUnStallEp`. -/
def usbUnStallEp (d : UsbDev) (ep dir : UInt8) : UsbDev := d.call (.unstall ep dir)

/-- `UsbSetRemoteWakeup`. -/
def usbSetRemoteWakeup (d : UsbDev) (set : UInt8) : UsbDev :=
  if d.usbDevice.usbHwSetRemoteWakeup then d.call (.setRemoteWakeup set)
  else { d with remoteWakeup := set }

/-- `UsbGetRemoteWakeup`. -/
def usbGetRemoteWakeup (d : UsbDev) : UInt8 :=
  if d.usbDevice.usbHwGetRemoteWakeup then d.hwRemoteWakeup else d.remoteWakeup

/-- The endpoint number that `wIndex` names. -/
def DeviceRequest.epNum (r : DeviceRequest) : UInt8 := r.wIndex.toUInt8 &&& 0x7F

/-- The endpoint direction that `wIndex` names. -/
def DeviceRequest.epDir (r : DeviceRequest) : UInt8 :=
  if r.wIndex.toUInt8 &&& 0x80 ≠ 0 then dirIn else dirOut

/-! ## Class and vendor requests -/

/-- `BotReqHandler`, the handler of a mass-storage interface. -/
def botReqHandler (maxLUN : UInt8) : ReqHandler := fun r =>
  if reqRecipMask r.bmRequestType = reqInterface ∧ r.bRequest = 0xFE then (0, r.setByte maxLUN)
  else if reqRecipMask r.bmRequestType = reqInterface ∧ r.bRequest = 0xFF then (0, r)
  else (1, r)

/-- `ProcessVendorRequest`. -/
def processVendorRequest (d : UsbDev) (r : DeviceRequest) : UsbDev × DeviceRequest :=
  if r.wIndex = 0x05 ∧ r.bRequest = 0xA5 then
    (d, (r.reply (slice d.extProp 0 (min 76 r.wLength.toNat))).setStatus 0)
  else (d, r.setStatus 1)

/-- `ProcessClassRequest`. -/
def processClassRequest (d : UsbDev) (r : DeviceRequest) : UsbDev × DeviceRequest :=
  match getInterfaceReqHandler d r.wIndex.toUInt8 with
  | none => (d, r.setStatus 1)
  | some handler =>
    let (retVal, r) := handler r
    if retVal = 1 then (d, r.setStatus 1) else (d, r.setStatus 0)

/-! ## Standard requests -/

/-- `ProcessGetStatus`. -/
def processGetStatus (d : UsbDev) (r : DeviceRequest) : UsbDev × DeviceRequest :=
  if r.wValue ≠ 0 ∨ r.wLength ≠ 2 ∨ (reqRecipMask r.bmRequestType = reqDevice ∧ r.wIndex ≠ 0) then
    (d, r.setStatus 1)
  else
    let r := if reqRecipMask r.bmRequestType = reqInterface then r.setByte 0x00 else r
    let r :=
      if reqRecipMask r.bmRequestType = reqDevice then
        r.setByte (if usbGetRemoteWakeup d ≠ 0 then 0x03 else 0x01)
      else r
    let r :=
      if reqRecipMask r.bmRequestType = reqEndpoint then
        match d.epStatus r.epNum r.epDir with
        | none => r
        | some (_, stall) => r.setByte (if stall ≠ 0 then 0x01 else 0x00)
      else r
    (d, r.setStatus 0)

/-- `ProcessSetAddress`. -/
def processSetAddress (d : UsbDev) (r : DeviceRequest) : UsbDev × DeviceRequest :=
  if r.wValue > 127 ∨ r.wIndex ≠ 0 ∨ r.wLength ≠ 0 then (d, r.setStatus 1)
  else (usbSetAddr d (r.wValue &&& 0x7F).toUInt8 1, r.setStatus 0)

/-- `ProcessSetConfiguration`. -/
def processSetConfiguration (d : UsbDev) (r : DeviceRequest) : UsbDev × DeviceRequest :=
  if r.wIndex ≠ 0 ∨ r.wLength ≠ 0 ∨ r.wValue &&& 0xFF00 ≠ 0 then (d, r.setStatus 1)
  else if r.wValue = 0 then (usbUnCfgDevice d, r.setStatus 0)
  else (usbCfgDevice d r.wValue, r.setStatus 0)

/-- The descriptor that a request names, and `none` where `ProcessGetDescriptor` knows no such type. A
device without a device descriptor cannot be registered. -/
def namedDescriptor (d : UsbDev) (r : DeviceRequest) : Option (List UInt8) :=
  let index := r.wValue.toUInt8
  let type := (r.wValue >>> 8).toUInt8
  if type = 1 then some (slice d.desc.descBuff 0 deviceDescSize)
  else if type = 6 then some (getDeviceQualifierDesc d.usbDevice)
  else if type = 2 then
    some (slice d.desc.descBuff ((d.desc.getConfigDesc (index + 1)).getD 0)
      (d.desc.getConfigDescSize (index + 1)).toNat)
  else if type = 3 then
    some (slice (d.desc.stringTable index) 0 (d.desc.stringLen index).toNat)
  else none

/-- `ProcessGetDescriptor`. -/
def processGetDescriptor (d : UsbDev) (r : DeviceRequest) : UsbDev × DeviceRequest :=
  if reqRecipMask r.bmRequestType = reqInterface then processClassRequest d r
  else
    match namedDescriptor d r with
    | none => (d, r.setStatus 1)
    | some bytes => (d, (r.reply (bytes.take r.wLength.toNat)).setStatus 0)

/-- `ProcessGetConfiguration`. -/
def processGetConfiguration (d : UsbDev) (r : DeviceRequest) : UsbDev × DeviceRequest :=
  if r.wIndex ≠ 0 ∨ r.wLength ≠ 1 ∨ r.wValue ≠ 0 then (d, r.setStatus 1)
  else (d, (r.setByte d.cfgIndex).setStatus 0)

/-- `ProcessClearFeature`. -/
def processClearFeature (d : UsbDev) (r : DeviceRequest) : UsbDev × DeviceRequest :=
  if r.wLength ≠ 0 then (d, r.setStatus 1)
  else if reqRecipMask r.bmRequestType = reqInterface ∧ r.wValue ≠ 0 then (d, r.setStatus 1)
  else if reqRecipMask r.bmRequestType = reqDevice then
    if r.wValue = 1 then (usbSetRemoteWakeup d 0, r.setStatus 0) else (d, r.setStatus 1)
  else if reqRecipMask r.bmRequestType = reqEndpoint then
    if r.wValue = 0 then
      match d.epStatus r.epNum r.epDir with
      | none => (d, r.setStatus 0)
      | some (_, stall) =>
        if stall = 0 then
          (usbUnStallEp (usbStallEp d r.epNum r.epDir) r.epNum r.epDir, r.setStatus 0)
        else if stall = 1 then (usbUnStallEp d r.epNum r.epDir, r.setStatus 0)
        else (d, r.setStatus 0)
    else (d, r.setStatus 1)
  else (d, r.setStatus 0)

/-- `ProcessSetFeature`. -/
def processSetFeature (d : UsbDev) (r : DeviceRequest) : UsbDev × DeviceRequest :=
  if r.wLength ≠ 0 then (d, r.setStatus 1)
  else if reqRecipMask r.bmRequestType = reqInterface ∧ r.wValue ≠ 0 then (d, r.setStatus 1)
  else if reqRecipMask r.bmRequestType = reqDevice then
    if r.wValue = 1 then (usbSetRemoteWakeup d 1, r.setStatus 0) else (d, r.setStatus 1)
  else if reqRecipMask r.bmRequestType = reqEndpoint then
    if r.wValue = 0 then (usbStallEp d r.epNum r.epDir, r.setStatus 0) else (d, r.setStatus 1)
  else (d, r.setStatus 0)

/-- `ProcessStandardRequest`. -/
def processStandardRequest (d : UsbDev) (r : DeviceRequest) : UsbDev × DeviceRequest :=
  if r.bRequest = 0 then processGetStatus d r
  else if r.bRequest = 5 then processSetAddress d r
  else if r.bRequest = 6 then processGetDescriptor d r
  else if r.bRequest = 9 then processSetConfiguration d r
  else if r.bRequest = 8 then processGetConfiguration d r
  else if r.bRequest = 1 then processClearFeature d r
  else if r.bRequest = 3 then processSetFeature d r
  else (d, r.setStatus 1)

/-- `ProcessSetup`. -/
def processSetup (d : UsbDev) (r : DeviceRequest) : UsbDev × DeviceRequest :=
  if reqTypeMask r.bmRequestType = 0 then processStandardRequest d r
  else if reqTypeMask r.bmRequestType = 1 then processClassRequest d r
  else if reqTypeMask r.bmRequestType = 2 then processVendorRequest d r
  else (d, r.setStatus 1)

/-! ## The reply of GET_STATUS -/

/-- The status byte that GET_STATUS writes, and `none` where it writes nothing. -/
def statusByte (d : UsbDev) (r : DeviceRequest) : Option UInt8 :=
  if reqRecipMask r.bmRequestType = reqInterface then some 0x00
  else if reqRecipMask r.bmRequestType = reqDevice then
    some (if usbGetRemoteWakeup d ≠ 0 then 0x03 else 0x01)
  else if reqRecipMask r.bmRequestType = reqEndpoint then
    (d.epStatus r.epNum r.epDir).map fun s => if s.2 ≠ 0 then 0x01 else 0x00
  else none

/-- Write the first byte of the buffer, if there is one to write. -/
def DeviceRequest.fill (r : DeviceRequest) (b : Option UInt8) : DeviceRequest :=
  b.elim r r.setByte

theorem processGetStatus_eq {d : UsbDev} {r : DeviceRequest} (h : ¬ (r.wValue ≠ 0 ∨ r.wLength ≠ 2 ∨
    (reqRecipMask r.bmRequestType = reqDevice ∧ r.wIndex ≠ 0))) :
    processGetStatus d r = (d, (r.fill (statusByte d r)).setStatus 0) := by
  have hm : ∀ b, (r.setByte b).bmRequestType = r.bmRequestType := fun _ => rfl
  have hne : reqInterface ≠ reqDevice ∧ reqInterface ≠ reqEndpoint ∧ reqDevice ≠ reqEndpoint := by
    decide
  unfold processGetStatus statusByte DeviceRequest.fill
  rw [if_neg h]
  by_cases hi : reqRecipMask r.bmRequestType = reqInterface
  · simp only [hi, if_true, hm, hne.1, hne.2.1, if_false, Option.elim_some]
  simp only [hi, if_false]
  by_cases hd : reqRecipMask r.bmRequestType = reqDevice
  · simp only [hd, if_true, hm, hne.2.2, if_false, Option.elim_some]
  simp only [hd, if_false]
  by_cases he : reqRecipMask r.bmRequestType = reqEndpoint
  · simp only [he, if_true]
    cases d.epStatus r.epNum r.epDir <;> rfl
  · simp only [he, if_false]
    rfl

/-! ## The feature requests change nothing but the status -/

theorem processClearFeature_request (d : UsbDev) (r : DeviceRequest) :
    ∃ status, (processClearFeature d r).2 = r.setStatus status := by
  unfold processClearFeature
  split_ifs
  · exact ⟨_, rfl⟩
  · exact ⟨_, rfl⟩
  · exact ⟨_, rfl⟩
  · exact ⟨_, rfl⟩
  · split
    · exact ⟨_, rfl⟩
    · split_ifs <;> exact ⟨_, rfl⟩
  · exact ⟨_, rfl⟩
  · exact ⟨_, rfl⟩

theorem processSetFeature_request (d : UsbDev) (r : DeviceRequest) :
    ∃ status, (processSetFeature d r).2 = r.setStatus status := by
  unfold processSetFeature
  split_ifs <;> exact ⟨_, rfl⟩

/-! ## What the handlers leave alone -/

section Frame

variable {d : UsbDev} {r : DeviceRequest}

theorem usbSetRemoteWakeup_frame (set : UInt8) : Frame d (usbSetRemoteWakeup d set) := by
  unfold usbSetRemoteWakeup
  split_ifs
  · exact .call d _
  · exact ⟨rfl, rfl, rfl, rfl, List.prefix_rfl, rfl, rfl, fun _ => rfl, fun _ _ => rfl⟩

theorem processClassRequest_frame : Frame d (processClassRequest d r).1 := by
  unfold processClassRequest
  split
  · exact .refl d
  · simp only
    split_ifs <;> exact .refl d

theorem processGetStatus_frame : Frame d (processGetStatus d r).1 := by
  unfold processGetStatus
  split <;> exact .refl d

theorem processSetAddress_frame : Frame d (processSetAddress d r).1 := by
  unfold processSetAddress
  split
  · exact .refl d
  · exact .call d _

theorem processSetConfiguration_frame : Frame d (processSetConfiguration d r).1 := by
  unfold processSetConfiguration
  split_ifs
  · exact .refl d
  · exact usbUnCfgDevice_frame.toFrame
  · exact (usbCfgDevice_frame _).toFrame

theorem processGetDescriptor_frame : Frame d (processGetDescriptor d r).1 := by
  unfold processGetDescriptor
  split
  · exact processClassRequest_frame
  · split <;> exact .refl d

theorem processGetConfiguration_frame : Frame d (processGetConfiguration d r).1 := by
  unfold processGetConfiguration
  split <;> exact .refl d

theorem processClearFeature_frame : Frame d (processClearFeature d r).1 := by
  unfold processClearFeature
  split_ifs
  · exact .refl d
  · exact .refl d
  · exact usbSetRemoteWakeup_frame 0
  · exact .refl d
  · split
    · exact .refl d
    · split_ifs
      · exact (Frame.call d _).trans (.call _ _)
      · exact .call d _
      · exact .refl d
  · exact .refl d
  · exact .refl d

theorem processSetFeature_frame : Frame d (processSetFeature d r).1 := by
  unfold processSetFeature
  split_ifs
  · exact .refl d
  · exact .refl d
  · exact usbSetRemoteWakeup_frame 1
  · exact .refl d
  · exact .call d _
  · exact .refl d
  · exact .refl d

theorem processStandardRequest_frame : Frame d (processStandardRequest d r).1 := by
  unfold processStandardRequest
  split_ifs
  · exact processGetStatus_frame
  · exact processSetAddress_frame
  · exact processGetDescriptor_frame
  · exact processSetConfiguration_frame
  · exact processGetConfiguration_frame
  · exact processClearFeature_frame
  · exact processSetFeature_frame
  · exact .refl d

/-- **Frame rule of the request handlers.** -/
theorem processSetup_frame : Frame d (processSetup d r).1 := by
  unfold processSetup
  split_ifs
  · exact processStandardRequest_frame
  · exact processClassRequest_frame
  · unfold processVendorRequest
    split <;> exact .refl d
  · exact .refl d

end Frame

end BmcUsb
