import Bmc.Usb.TransmitRun

/-!
# What the host sees on endpoint 0

The calls that the core makes when it completes a request and when it continues the IN request.

* `completionOps`, **`usbCompleteRequest_ops`**: an error stalls the endpoint, a request without data
  or to the device is answered by an empty packet;
* `pendingBytes`, **`sendPendingPacket_sending`**: the next packet of the IN request;
* `txDone_idle`, `txDone_busy`: the completion of a packet of endpoint 0.
-/

namespace BmcUsb

open BmcLib

/-- The calls of `UsbCompleteRequest`, where the core completes the requests itself. -/
def completionOps (r : DeviceRequest) : List HwOp :=
  if r.status = 1 then [.stall 0 dirIn, .stall 0 dirOut]
  else if r.wLength = 0 ∨ r.bmRequestType &&& reqDevice2Host = 0 then [.write 0 []]
  else []

/-- The bytes that `SendPendingEP0Data` sends next. -/
def pendingBytes (d : UsbDev) : List UInt8 :=
  slice d.inRequest.data d.inRequest.dataLen.toNat (pendingCount d)

section Ops

variable {d : UsbDev} {b : Bool} {buffer : DataPtr} {len : UInt32} {zero : UInt8} {r : DeviceRequest}
  {n : ℕ}

theorem maxSize_zero (d : UsbDev) (e : EndpointInfo) :
    (maxSize d 0 e).toNat = e.maxPacketSize.toNat := by
  unfold maxSize
  rw [if_neg (by simp)]
  simp

/-- A write on endpoint 0 is always accepted, and its first packet sent. -/
theorem startWrite_zero (hd : Ep0Ok d) (hb : buffer = none → len.toNat = 0)
    (h : len ≠ 0 ∨ zero ≠ 0) :
    startWrite b d 0 buffer len zero =
      some (sending (d.setBlocking b) 0 0 (d.endPoint 0).maxPacketSize.toNat buffer len zero 1) := by
  have haccept : ∃ d₁, startWrite b d 0 buffer len zero = some d₁ := by
    unfold startWrite
    rw [hd.ready]
    exact ⟨_, if_pos rfl⟩
  obtain ⟨d₁, hd₁⟩ := haccept
  have hmax : (maxSize (d.setBlocking b) 0 ((d.setBlocking b).endPoint 0)).toNat =
      (d.endPoint 0).maxPacketSize.toNat := maxSize_zero _ _
  rw [hd₁, startWrite_eq hd.ready hd₁ (d.endPoint 0).maxPacketSize.toNat,
    handleTxData_sending hmax hd.max_pos hb (length_packets_pos hd.max_pos h)]

/-- The packet that a write of at most one packet sends. -/
theorem sending_one_ops {m : ℕ} (hm : 0 < m) (hb : buffer = none → len.toNat = 0)
    (h : len ≠ 0 ∨ zero ≠ 0) (hlen : len.toNat ≤ m) {i : ℕ} {ep : UInt8} :
    (sending d ep i m buffer len zero 1).ops = d.ops ++ [.write ep (buffer.bytes 0 len.toNat)] := by
  have hpos : 0 < (packets m len.toNat buffer zero).length := length_packets_pos hm h
  have hfirst : (packets m len.toNat buffer zero)[0] = buffer.bytes 0 len.toNat := by
    rcases Nat.eq_zero_or_pos len.toNat with h0 | h0
    · rw [(packets_end hm (by omega) hpos).2.2.2, h0]
      cases buffer <;> rfl
    · rw [getElem_packets_lt hm hb (by omega) hpos]
      congr 1 <;> omega
  rw [sending_ops, List.take_succ_eq_append_getElem hpos, List.take_zero, List.nil_append,
    List.map_singleton, hfirst]

/-- The endpoint has nothing left to send when that packet fills no packet, or no empty one follows. -/
theorem sending_one_txData {m : ℕ} (hm : 0 < m) (hlen : len.toNat ≤ m) {i : ℕ} {ep : UInt8}
    (hz : zero = 0 ∨ len.toNat < m) :
    ((sending d ep i m buffer len zero 1).endPoint i).txData = none := by
  have hlast : ¬ 1 < (packets m len.toNat buffer zero).length := by
    intro hc
    obtain ⟨hzero, heq, -⟩ := packets_end hm (by omega) hc
    rcases hz with hz | hz
    · exact hzero hz
    · omega
  rw [sending_endPoint, sendingEp]
  exact if_neg (by omega)

/-! ## Completing a request -/

/-- The packet of the status stage. -/
theorem usbWriteData_status (hd : Ep0Ok d) :
    (usbWriteData id 1 d 0 none 0 zeroLenPkt).2 =
      sending (d.setBlocking true) 0 0 (d.endPoint 0).maxPacketSize.toNat none 0 zeroLenPkt 1 := by
  unfold usbWriteData
  rw [startWrite_zero hd (fun _ => rfl) (.inr (by decide))]
  rfl

/-- **What the host sees of a completed request.** -/
theorem usbCompleteRequest_ops (hd : Ep0Ok d) (hw : d.usbDevice.usbHwCompleteRequest = false) :
    (usbCompleteRequest d r).ops = d.ops ++ completionOps r := by
  unfold usbCompleteRequest completionOps
  rw [hw, if_neg Bool.false_ne_true]
  split_ifs
  · simp [usbStallEp]
  · rw [usbWriteData_status hd, sending_one_ops hd.max_pos (fun _ => rfl) (.inr (by decide))
      (Nat.zero_le _)]
    rfl
  · exact (List.append_nil _).symm

/-- The status stage leaves no packet behind, whatever the endpoint had to send before. -/
theorem usbCompleteRequest_status (hd : Ep0Ok d) (hw : d.usbDevice.usbHwCompleteRequest = false)
    (hs : r.status ≠ 1) (h : r.wLength = 0 ∨ r.bmRequestType &&& reqDevice2Host = 0) :
    ((usbCompleteRequest d r).endPoint 0).txData = none := by
  unfold usbCompleteRequest
  rw [hw, if_neg Bool.false_ne_true, if_neg hs, if_pos h, usbWriteData_status hd]
  exact sending_one_txData hd.max_pos (Nat.zero_le _) (.inr hd.max_pos)

/-- A reply that was sent needs no status packet. -/
theorem usbCompleteRequest_reply (hs : r.status ≠ 1) (h0 : r.wLength ≠ 0)
    (hin : r.bmRequestType &&& reqDevice2Host ≠ 0) :
    usbCompleteRequest d r = d ∨ usbCompleteRequest d r = d.call (.completeRequest r.status) := by
  unfold usbCompleteRequest
  rw [if_neg hs, if_neg (not_or.mpr ⟨h0, hin⟩)]
  split_ifs
  · exact .inr rfl
  · exact .inl rfl

/-! ## Continuing the IN request -/

theorem pendingCount_le (d : UsbDev) : pendingCount d ≤ (d.endPoint 0).maxPacketSize.toNat :=
  Nat.min_le_right _ _

theorem pendingCount_pos (hd : Ep0Ok d) (h : d.inRequest.dataLen < d.inRequest.wLength) :
    0 < pendingCount d := by
  have h1 := UInt16.lt_iff_toNat_lt.mp h
  have h2 := hd.max_pos
  unfold pendingCount
  omega

theorem pendingCount_toNat (hd : Ep0Ok d) : (UInt32.ofNat (pendingCount d)).toNat = pendingCount d := by
  have h1 := pendingCount_le d
  have h2 := hd.max_lt
  refine UInt32.toNat_ofNat_of_lt ?_
  show _ < 2 ^ 32
  omega

/-- The device that `SendPendingEP0Data` gives to the transmit path. -/
def advanced (d : UsbDev) : UsbDev :=
  (d.access (.sent d.inRequest.dataLen.toNat (pendingCount d))).setInRequest
    (d.inRequest.advance (pendingCount d))

/-- The reply from the next byte on. -/
def pendingData (d : UsbDev) : DataPtr :=
  some fun i => d.inRequest.data (d.inRequest.dataLen.toNat + i)

theorem pendingCount_ne_zero (hd : Ep0Ok d) (h : d.inRequest.dataLen < d.inRequest.wLength) :
    UInt32.ofNat (pendingCount d) ≠ 0 := by
  rw [ne_eq, ← UInt32.toNat_inj, pendingCount_toNat hd]
  exact (pendingCount_pos hd h).ne'

/-- **The next packet of the IN request.** -/
theorem sendPendingPacket_sending (hd : Ep0Ok d) (h : d.inRequest.dataLen < d.inRequest.wLength) :
    sendPendingPacket d = sending ((advanced d).setBlocking false) 0 0
      (d.endPoint 0).maxPacketSize.toNat (pendingData d) (UInt32.ofNat (pendingCount d))
      (pendingFlag d) 1 := by
  have hd' : Ep0Ok (advanced d) := ((access_kept _).trans setInRequest_kept).ok hd
  have hstart : startWrite false (advanced d) 0 (pendingData d) (UInt32.ofNat (pendingCount d))
      (pendingFlag d) = _ := startWrite_zero hd' nofun (.inl (pendingCount_ne_zero hd h))
  unfold advanced pendingData at hstart
  unfold sendPendingPacket usbWriteDataNonBlock
  simp only [hstart]
  rfl

theorem sendPendingPacket_ops (hd : Ep0Ok d) (h : d.inRequest.dataLen < d.inRequest.wLength) :
    (sendPendingPacket d).ops = d.ops ++ [.write 0 (pendingBytes d)] := by
  have hle : (UInt32.ofNat (pendingCount d)).toNat ≤ (d.endPoint 0).maxPacketSize.toNat :=
    (pendingCount_toNat hd).le.trans (pendingCount_le d)
  have hb : pendingData d = none → (UInt32.ofNat (pendingCount d)).toNat = 0 := fun hc =>
    absurd hc (Option.some_ne_none _)
  have hbytes : (pendingData d).bytes 0 (pendingCount d) = pendingBytes d := slice_shift _ _ _
  rw [sendPendingPacket_sending hd h,
    sending_one_ops hd.max_pos hb (.inl (pendingCount_ne_zero hd h)) hle, pendingCount_toNat hd,
    hbytes]
  rfl

theorem sendPendingPacket_inRequest : (sendPendingPacket d).inRequest =
    d.inRequest.advance (pendingCount d) :=
  (usbWriteDataNonBlock_frame (d := advanced d)).inRequest

/-- An endpoint with a trailing empty packet to send. -/
def EndpointInfo.EmptyLeft (e : EndpointInfo) : Prop :=
  e.txDataLen = e.txDataPos ∧ e.txZeroLenPkt ≠ 0

/-- The packet was all of the write, up to an empty packet. -/
theorem sendPendingPacket_tx (hd : Ep0Ok d) (h : d.inRequest.dataLen < d.inRequest.wLength) :
    ((sendPendingPacket d).endPoint 0).txData = none ∨
      ((sendPendingPacket d).endPoint 0).EmptyLeft := by
  have hle : (UInt32.ofNat (pendingCount d)).toNat ≤ (d.endPoint 0).maxPacketSize.toNat :=
    (pendingCount_toNat hd).le.trans (pendingCount_le d)
  rw [sendPendingPacket_sending hd h]
  by_cases hz : pendingFlag d = 0 ∨
    (UInt32.ofNat (pendingCount d)).toNat < (d.endPoint 0).maxPacketSize.toNat
  · exact .inl (sending_one_txData hd.max_pos hle hz)
  · obtain ⟨hz, hfull⟩ := not_or.mp hz
    refine .inr ⟨?_, hz⟩
    rw [sending_endPoint, ← UInt32.toNat_inj, sendingEp_len, sendingEp_pos]
    omega

/-! ## Completions -/

/-- The end of a packet of endpoint 0 with nothing left of the write. -/
theorem txDone_idle (hd : Ep0Ready d) (h : (d.endPoint 0).txData = none) :
    ep0Step d .txDone = sendPendingEP0Data (endOfTransmission d 0 0) := by
  simp only [ep0Step, usbTxHandler]
  rw [hd]
  simp only [h]
  rfl

/-- The end of a packet of endpoint 0 that is followed by another one of the same write. -/
theorem txDone_busy (hd : Ep0Ready d) (h : (d.endPoint 0).txData ≠ none) :
    ep0Step d .txDone = handleTxData d 0 0 := by
  simp only [ep0Step, usbTxHandler]
  rw [hd]
  cases hdata : (d.endPoint 0).txData with
  | none => exact absurd hdata h
  | some b => simp only [hdata, Option.isNone_some, Bool.false_eq_true, if_false]

/-- The trailing empty packet is sent. -/
theorem handleTxData_emptyLeft (hd : Ep0Ok d) (h : (d.endPoint 0).EmptyLeft) :
    ((handleTxData d 0 0).endPoint 0).txData = none ∧
      (handleTxData d 0 0).ops = d.ops ++ [.write 0 []] := by
  have hmax : ¬ (d.endPoint 0).txDataLen - (d.endPoint 0).txDataPos ≥ maxSize d 0 (d.endPoint 0) := by
    rw [h.1, UInt32.sub_self, ge_iff_le, UInt32.le_iff_toNat_le, maxSize_zero]
    exact hd.max_pos.not_ge
  have hleft : (d.endPoint 0).txDataLen = (d.endPoint 0).txDataPos ∧
      (d.endPoint 0).txZeroLenPkt ≠ 0 := h
  unfold handleTxData
  simp only
  rw [if_neg hmax, if_neg (not_not.mpr h.1), if_pos hleft, UsbDev.call_endPoint, UsbDev.setEp_self]
  exact ⟨rfl, rfl⟩

end Ops

end BmcUsb
