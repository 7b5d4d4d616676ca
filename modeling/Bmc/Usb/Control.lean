import Bmc.Usb.Setup
import Bmc.Usb.Transmit

/-!
# Control transfers on endpoint 0

The requests that reach endpoint 0, and what the core does when a packet was sent.

* `usbCompleteRequest`, `sendPendingEP0Data`, `usbRxHandler0`, `usbTxHandler`;
* `Ep0Event`, `ep0Step`: the events on endpoint 0 and the device after each of them;
* `Ep0Ready`: endpoint 0 has its entry in the table.
-/

namespace BmcUsb

open BmcLib

/-- `UsbCompleteRequest`. -/
def usbCompleteRequest (d : UsbDev) (r : DeviceRequest) : UsbDev :=
  if d.usbDevice.usbHwCompleteRequest then d.call (.completeRequest r.status)
  else if r.status = 1 then usbStallEp (usbStallEp d 0 dirIn) 0 dirOut
  else if r.wLength = 0 ∨ r.bmRequestType &&& reqDevice2Host = 0 then
    (usbWriteData id 1 d 0 none 0 zeroLenPkt).2
  else d

/-- The number of bytes that `SendPendingEP0Data` sends next. -/
def pendingCount (d : UsbDev) : ℕ :=
  min (d.inRequest.wLength.toNat - d.inRequest.dataLen.toNat) (d.endPoint 0).maxPacketSize.toNat

/-- Count the next packet as sent. -/
def DeviceRequest.advance (r : DeviceRequest) (count : ℕ) : DeviceRequest :=
  { r with dataLen := r.dataLen + UInt16.ofNat count }

/-- `SendPendingEP0Data` ends a reply that is shorter than the host asked for, and fills its last
packet, with an empty packet. -/
def pendingFlag (d : UsbDev) : UInt8 :=
  let r := d.inRequest.advance (pendingCount d)
  if r.dataLen ≥ r.wLength ∧ pendingCount d = (d.endPoint 0).maxPacketSize.toNat ∧
    r.wLengthOrig > r.wLength then zeroLenPkt else noZeroLenPkt

/-- The next packet of the IN request. -/
def sendPendingPacket (d : UsbDev) : UsbDev :=
  let r := d.inRequest
  let count := pendingCount d
  (usbWriteDataNonBlock ((d.access (.sent r.dataLen.toNat count)).setInRequest (r.advance count)) 0
    (some fun i => r.data (r.dataLen.toNat + i)) (UInt32.ofNat count) (pendingFlag d)).2

/-- Complete the IN request, or send its next packet. -/
def continueInRequest (d : UsbDev) : UsbDev :=
  if d.inRequest.dataLen ≥ d.inRequest.wLength then usbCompleteRequest d d.inRequest
  else sendPendingPacket d

/-- `SendPendingEP0Data`. -/
def sendPendingEP0Data (d : UsbDev) : UsbDev :=
  continueInRequest
    (if d.inRequest.wLength = 0 then d.setInRequest (d.inRequest.setStatus 1) else d)

/-- The number of bytes that `UsbRxHandler0` stores of a data packet. The subtraction is one of `int`s;
its result is compared as an `unsigned`. -/
def rxCount (r : DeviceRequest) (packet : List UInt8) : ℕ :=
  let count : ℤ := r.wLength.toNat - r.dataLen.toNat
  if (packet.length : ℤ) ≤ count % 2 ^ 32 then packet.length else count.toNat

/-- Store a data packet behind the data of a request. -/
def DeviceRequest.append (r : DeviceRequest) (packet : List UInt8) : DeviceRequest :=
  { r with
    data := store r.data r.dataLen.toNat (packet.take (rxCount r packet))
    dataLen := r.dataLen + UInt16.ofNat (rxCount r packet) }

/-- Process the OUT request and complete it. -/
def finishOutRequest (d : UsbDev) : UsbDev :=
  let s := processSetup d d.outRequest
  usbCompleteRequest (s.1.setOutRequest s.2) s.2

/-- The IN request when a SETUP packet was copied to it. -/
def DeviceRequest.loadIn (r : DeviceRequest) (p : SetupPacket) : DeviceRequest :=
  { r.load p with wLengthOrig := p.wLength, status := 1 }

/-- No byte of a reply was sent yet. -/
def DeviceRequest.rewind (r : DeviceRequest) : DeviceRequest := { r with dataLen := 0 }

/-- `UsbRxHandler0` on a SETUP packet of a device-to-host request. -/
def usbRxSetupIn (d : UsbDev) (p : SetupPacket) : UsbDev :=
  let s := processSetup d (d.inRequest.loadIn p)
  if s.2.status ≠ 0 then usbCompleteRequest (s.1.setInRequest s.2) s.2
  else sendPendingEP0Data (s.1.setInRequest s.2.rewind)

/-- `UsbRxHandler0` on a SETUP packet of a host-to-device request. -/
def usbRxSetupOut (d : UsbDev) (p : SetupPacket) : UsbDev :=
  let r := (d.outRequest.load p).setStatus 1
  if r.wLength = 0 then finishOutRequest (d.setOutRequest r) else d.setOutRequest r.rewind

/-- `UsbRxHandler0` on a data packet. -/
def usbRxData (d : UsbDev) (packet : List UInt8) : UsbDev :=
  let r := d.outRequest
  if packet.length = 0 ∨ r.wLength = 0 then d
  else
    let d := (d.access (.stored r.dataLen.toNat (rxCount r packet))).setOutRequest (r.append packet)
    if d.outRequest.dataLen ≥ d.outRequest.wLength then finishOutRequest d else d

/-- `CallInterfaceTxHandler`. -/
def callInterfaceTxHandler (d : UsbDev) (ep : UInt8) : UsbDev :=
  if ep = 0 then sendPendingEP0Data d
  else if d.cfgIndex = 0 then d
  else
    let ifNum := d.desc.getInterface d.cfgIndex ep dirIn
    if ifNum = 0xFF then d
    else if d.txHandler ifNum then d.call (.interfaceTx ifNum ep) else d

/-- `UsbTxHandler`. -/
def usbTxHandler (d : UsbDev) (ep : UInt8) : ℤ × UsbDev :=
  match getEndPointIndex d ep dirIn with
  | none => (1, d)
  | some i =>
    if (d.endPoint i).txData.isNone then (0, callInterfaceTxHandler (endOfTransmission d ep i) ep)
    else (1, handleTxData d ep i)

/-- An event on endpoint 0. -/
inductive Ep0Event where
  | setup (p : SetupPacket)
  | data (packet : List UInt8)
  | txDone
  | busReset
  deriving DecidableEq, Repr

/-- The device after an event. -/
def ep0Step (d : UsbDev) : Ep0Event → UsbDev
  | .setup p =>
    if p.bmRequestType &&& reqDevice2Host ≠ 0 then usbRxSetupIn d p else usbRxSetupOut d p
  | .data packet => usbRxData d packet
  | .txDone => (usbTxHandler d 0).2
  | .busReset => usbBusReset d

/-- Endpoint 0 has the first entry of the table. -/
def Ep0Ready (d : UsbDev) : Prop := getEndPointIndex d 0 dirIn = some 0

instance (d : UsbDev) : Decidable (Ep0Ready d) := by
  unfold Ep0Ready
  infer_instance

/-! ## What stays the same about endpoint 0 -/

/-- **Endpoint 0 is set up**: its entry, and packets that fit the one-byte size of the device
descriptor. -/
structure Ep0Ok (d : UsbDev) : Prop where
  ready : Ep0Ready d
  max_pos : 0 < (d.endPoint 0).maxPacketSize.toNat
  max_lt : (d.endPoint 0).maxPacketSize.toNat < 256
  ep0Size_pos : 0 < d.usbDevice.ep0Size.toNat
  ep0Size_lt : d.usbDevice.ep0Size.toNat < 256

/-- The slot of endpoint 0 is the same; only a bus reset changes its packet size. -/
structure Ep0Kept (d d' : UsbDev) : Prop where
  usbDevice : d'.usbDevice = d.usbDevice
  classReqHandler : d'.classReqHandler = d.classReqHandler
  maxLUN : d'.maxLUN = d.maxLUN
  epNum : (d'.endPoint 0).epNum = (d.endPoint 0).epNum
  epUsed : (d'.endPoint 0).epUsed = (d.endPoint 0).epUsed
  dir : (d'.endPoint 0).dir = (d.endPoint 0).dir
  max : (d'.endPoint 0).maxPacketSize = (d.endPoint 0).maxPacketSize ∨
    (d'.endPoint 0).maxPacketSize = d.usbDevice.ep0Size

section Kept

variable {d d' d'' : UsbDev} {r : DeviceRequest}

theorem ep0Ready_iff : Ep0Ready d ↔ 0 < (d.usbDevice.numEndpoints + 2).toNat ∧
    (d.endPoint 0).epUsed ≠ 0 ∧
    ((d.endPoint 0).dir = dirIn ∨ (d.endPoint 0).dir = configurable) ∧ (d.endPoint 0).epNum = 0 := by
  unfold Ep0Ready getEndPointIndex
  cases h : (d.usbDevice.numEndpoints + 2).toNat with
  | zero => simp
  | succ n =>
    rw [List.range_succ_eq_map, List.find?_cons]
    split
    next hp =>
      simp only [Bool.and_eq_true, Bool.or_eq_true, decide_eq_true_eq] at hp
      simpa [and_assoc] using hp
    next hp =>
      simp only [Bool.and_eq_false_iff, Bool.or_eq_false_iff, decide_eq_false_iff_not] at hp
      constructor
      · intro hf
        have := List.mem_of_find?_eq_some hf
        simp at this
      · rintro ⟨-, h1, h2, h3⟩
        tauto

theorem Ep0Ok.epNum (h : Ep0Ok d) : (d.endPoint 0).epNum = 0 := (ep0Ready_iff.1 h.ready).2.2.2

theorem Ep0Ok.numEndpoints (h : Ep0Ok d) : 0 < (d.usbDevice.numEndpoints + 2).toNat :=
  (ep0Ready_iff.1 h.ready).1

theorem Ep0Kept.ok (h : Ep0Kept d d') (hd : Ep0Ok d) : Ep0Ok d' where
  ready := by
    have h' := ep0Ready_iff.1 hd.ready
    rw [ep0Ready_iff, h.usbDevice, h.epUsed, h.dir, h.epNum]
    exact h'
  max_pos := by
    rcases h.max with hm | hm <;> rw [hm]
    · exact hd.max_pos
    · exact hd.ep0Size_pos
  max_lt := by
    rcases h.max with hm | hm <;> rw [hm]
    · exact hd.max_lt
    · exact hd.ep0Size_lt
  ep0Size_pos := by rw [h.usbDevice]; exact hd.ep0Size_pos
  ep0Size_lt := by rw [h.usbDevice]; exact hd.ep0Size_lt

theorem Ep0Kept.refl (d : UsbDev) : Ep0Kept d d := ⟨rfl, rfl, rfl, rfl, rfl, rfl, .inl rfl⟩

theorem Ep0Kept.trans (h : Ep0Kept d d') (h' : Ep0Kept d' d'') : Ep0Kept d d'' where
  usbDevice := h'.usbDevice.trans h.usbDevice
  classReqHandler := h'.classReqHandler.trans h.classReqHandler
  maxLUN := h'.maxLUN.trans h.maxLUN
  epNum := h'.epNum.trans h.epNum
  epUsed := h'.epUsed.trans h.epUsed
  dir := h'.dir.trans h.dir
  max := by
    rcases h'.max with hm | hm
    · rw [hm]
      exact h.max
    · rw [hm, h.usbDevice]
      exact .inr rfl

theorem TxFrame.kept (h : TxFrame d d') : Ep0Kept d d' :=
  ⟨h.usbDevice, h.classReqHandler, h.maxLUN, h.epNum 0, h.epUsed 0, h.dir 0, .inl (h.maxPacketSize 0)⟩

theorem Frame.kept (h : Frame d d') (h0 : (d.endPoint 0).epNum = 0) : Ep0Kept d d' := by
  have he := h.ep0 0 h0
  exact ⟨h.usbDevice, h.classReqHandler, h.maxLUN, by rw [he], by rw [he], by rw [he], .inl (by rw [he])⟩

theorem IsReset.kept (h : IsReset d d') : Ep0Kept d d' := by
  have he := h.ep0
  exact ⟨h.usbDevice, h.classReqHandler, h.maxLUN, by rw [he]; rfl, by rw [he]; rfl, by rw [he]; rfl, .inr (by rw [he]; rfl)⟩

theorem setInRequest_kept : Ep0Kept d (d.setInRequest r) := ⟨rfl, rfl, rfl, rfl, rfl, rfl, .inl rfl⟩

theorem setOutRequest_kept : Ep0Kept d (d.setOutRequest r) := ⟨rfl, rfl, rfl, rfl, rfl, rfl, .inl rfl⟩

theorem access_kept (a : Ep0Access) : Ep0Kept d (d.access a) := ⟨rfl, rfl, rfl, rfl, rfl, rfl, .inl rfl⟩

theorem usbCompleteRequest_frame : TxFrame d (usbCompleteRequest d r) := by
  unfold usbCompleteRequest
  split_ifs
  · exact .call d _
  · exact (TxFrame.call d _).trans (.call _ _)
  · exact usbWriteData_zero_frame
  · exact .refl d

theorem sendPendingPacket_kept : Ep0Kept d (sendPendingPacket d) :=
  (access_kept _).trans (Ep0Kept.trans setInRequest_kept usbWriteDataNonBlock_frame.kept)

theorem continueInRequest_kept : Ep0Kept d (continueInRequest d) := by
  unfold continueInRequest
  split_ifs
  · exact usbCompleteRequest_frame.kept
  · exact sendPendingPacket_kept

theorem sendPendingEP0Data_kept : Ep0Kept d (sendPendingEP0Data d) := by
  refine Ep0Kept.trans ?_ continueInRequest_kept
  split_ifs
  · exact setInRequest_kept
  · exact .refl d

theorem finishOutRequest_kept (h0 : (d.endPoint 0).epNum = 0) : Ep0Kept d (finishOutRequest d) :=
  (processSetup_frame.kept h0).trans (Ep0Kept.trans setOutRequest_kept usbCompleteRequest_frame.kept)

theorem usbRxSetupIn_kept (h0 : (d.endPoint 0).epNum = 0) (p : SetupPacket) :
    Ep0Kept d (usbRxSetupIn d p) := by
  unfold usbRxSetupIn
  simp only
  split_ifs
  · exact (processSetup_frame.kept h0).trans (Ep0Kept.trans setInRequest_kept usbCompleteRequest_frame.kept)
  · exact (processSetup_frame.kept h0).trans (Ep0Kept.trans setInRequest_kept sendPendingEP0Data_kept)

theorem usbRxSetupOut_kept (h0 : (d.endPoint 0).epNum = 0) (p : SetupPacket) :
    Ep0Kept d (usbRxSetupOut d p) := by
  unfold usbRxSetupOut
  simp only
  split_ifs
  · exact Ep0Kept.trans setOutRequest_kept (finishOutRequest_kept h0)
  · exact setOutRequest_kept

theorem usbRxData_kept (h0 : (d.endPoint 0).epNum = 0) (packet : List UInt8) :
    Ep0Kept d (usbRxData d packet) := by
  unfold usbRxData
  simp only
  split_ifs
  · exact .refl d
  · exact (access_kept _).trans (Ep0Kept.trans setOutRequest_kept (finishOutRequest_kept h0))
  · exact (access_kept _).trans setOutRequest_kept

theorem callInterfaceTxHandler_kept {ep : UInt8} : Ep0Kept d (callInterfaceTxHandler d ep) := by
  unfold callInterfaceTxHandler
  simp only
  split_ifs
  · exact sendPendingEP0Data_kept
  · exact .refl d
  · exact .refl d
  · exact (TxFrame.call d _).kept
  · exact .refl d

theorem usbTxHandler_kept {ep : UInt8} : Ep0Kept d (usbTxHandler d ep).2 := by
  unfold usbTxHandler
  split
  · exact .refl d
  · split_ifs
    · exact endOfTransmission_frame.kept.trans callInterfaceTxHandler_kept
    · exact handleTxData_frame.kept

theorem ep0Step_kept (hd : Ep0Ok d) (e : Ep0Event) : Ep0Kept d (ep0Step d e) := by
  cases e with
  | setup p =>
    simp only [ep0Step]
    split_ifs
    · exact usbRxSetupIn_kept hd.epNum p
    · exact usbRxSetupOut_kept hd.epNum p
  | data packet => exact usbRxData_kept hd.epNum packet
  | txDone => exact usbTxHandler_kept
  | busReset => exact (usbBusReset_isReset hd.epNum hd.numEndpoints).kept

/-- **Endpoint 0 stays set up.** -/
theorem ep0Step_ok (hd : Ep0Ok d) (e : Ep0Event) : Ep0Ok (ep0Step d e) := (ep0Step_kept hd e).ok hd

/-- The same for a history of events. -/
theorem run_kept (hd : Ep0Ok d) (history : List Ep0Event) :
    Ep0Kept d (history.foldl ep0Step d) := by
  refine List.foldlRecOn _ _ (.refl d) fun s hs e _ => ?_
  exact hs.trans (ep0Step_kept (hs.ok hd) e)

end Kept

/-! ## A mass-storage device -/

/-- An enabled endpoint that has nothing to send. -/
def massEndpoint (epNum dir : UInt8) : EndpointInfo where
  epNum := epNum
  enabled := 1
  interface := 0
  maxPacketSize := 64
  dir := dir
  fifoSize := 128
  txData := none
  txDataLen := 0
  txDataPos := 0
  txZeroLenPkt := 0
  txReady := 1
  epUsed := 1

/-- A device with one mass-storage interface in its configuration 1, which is selected. The buffers of
its requests hold what the allocator left there. -/
def massDevice : UsbDev where
  usbDevice :=
    { numEndpoints := 2, ep0Size := 64, epMultipleDMASupport := 0, epMultipleDMASize := 0,
      isThisHUBDevice := false, usbTxComplete := true, usbHwCompleteRequest := false,
      usbHwSetRemoteWakeup := false, usbHwGetRemoteWakeup := false, usbHwEnableEp := false,
      usbHwDisableEp := false }
  endPoint i :=
    if i = 0 then massEndpoint 0 dirIn
    else if i = 1 then massEndpoint 0 dirOut
    else if i = 2 then massEndpoint 1 dirIn
    else massEndpoint 2 dirOut
  epConfig := []
  cfgIndex := 1
  suspend := 0
  isDevHid := false
  devUsbMiscActions := false
  remoteWakeup := 0
  maxLUN := 0
  inRequest := ⟨0, 0, 0, 0, 0, 0, fun _ => 0xAA, 0, 0⟩
  outRequest := ⟨0, 0, 0, 0, 0, 0, fun _ => 0xAA, 0, 0⟩
  blockingSend := false
  desc :=
    { descBuff := block 0
        ([18, 1, 0, 2, 0, 0, 0, 64, 0x6B, 0x04, 0, 0, 0, 1, 0, 0, 0, 1] ++
          [9, 2, 18, 0, 1, 1, 0, 0xC0, 0] ++ [9, 4, 0, 0, 0, 8, 6, 0x50, 0])
      descSize := 36
      stringTable := fun _ _ => 0
      stringLen := fun _ => 0
      nextCfgId := 2 }
  extProp _ := 0
  classReqHandler _ := some (botReqHandler 0)
  txHandler _ := false
  epStatus _ _ := some (1, 0)
  hwRemoteWakeup := 0
  ops := []
  accesses := []

theorem ep0Ok_massDevice : Ep0Ok massDevice :=
  ⟨by decide, by decide, by decide, by decide, by decide⟩

end BmcUsb
