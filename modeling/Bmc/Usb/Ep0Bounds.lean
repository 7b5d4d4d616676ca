import Bmc.Usb.Ep0Ops

/-!
# The buffers of endpoint 0

Both requests have a buffer of `requestDataSize` bytes, and `wLength` is what the host says.

* `AccessesOk`: every access to the two buffers so far was in bounds;
* `FitsBuffers`: the condition on an event; `ep0Step_accessesOk_iff`: it is exact for one event;
* **`ep0Run_accessesOk_iff`**: it is exact for every sequence of events.
-/

namespace BmcUsb

open BmcLib

/-- Every byte stored to, or taken from, the buffers of the requests lay in them. -/
def AccessesOk (d : UsbDev) : Prop := ∀ a ∈ d.accesses, a.InBounds

/-- The event stores and sends bytes of the buffers only. A data packet is cut to what the request
asks for, unless more than that has arrived already. -/
def FitsBuffers (d : UsbDev) : Ep0Event → Prop
  | .setup _ => True
  | .data packet =>
    let r := d.outRequest
    packet = [] ∨ r.wLength = 0 ∨ r.dataLen = r.wLength ∨
      if r.dataLen < r.wLength then
        min (r.dataLen.toNat + packet.length) r.wLength.toNat ≤ requestDataSize
      else r.dataLen.toNat + packet.length ≤ requestDataSize
  | .txDone =>
    let r := d.inRequest
    (d.endPoint 0).txData ≠ none ∨ r.wLength ≤ r.dataLen ∨
      min (r.dataLen.toNat + (d.endPoint 0).maxPacketSize.toNat) r.wLength.toNat ≤ requestDataSize
  | .busReset => True

instance (d : UsbDev) (e : Ep0Event) : Decidable (FitsBuffers d e) := by
  unfold FitsBuffers
  split <;> infer_instance

section Accesses

variable {d d' : UsbDev} {r : DeviceRequest} {packet : List UInt8}

theorem accessesOk_congr (h : d'.accesses = d.accesses) : AccessesOk d' ↔ AccessesOk d := by
  unfold AccessesOk
  rw [h]

theorem accessesOk_append {a : Ep0Access} (h : d'.accesses = d.accesses ++ [a]) :
    AccessesOk d' ↔ AccessesOk d ∧ a.InBounds := by
  unfold AccessesOk
  rw [h, List.forall_mem_append, List.forall_mem_singleton]

/-! ## Sending -/

theorem continueInRequest_accesses : (continueInRequest d).accesses = d.accesses ++
    if d.inRequest.wLength ≤ d.inRequest.dataLen then []
    else [.sent d.inRequest.dataLen.toNat (pendingCount d)] := by
  unfold continueInRequest
  split_ifs
  · rw [usbCompleteRequest_frame.accesses, List.append_nil]
  · unfold sendPendingPacket
    rw [usbWriteDataNonBlock_frame.accesses]
    rfl

/-- The bytes that `SendPendingEP0Data` sends. -/
theorem sendPendingEP0Data_accesses : (sendPendingEP0Data d).accesses = d.accesses ++
    if d.inRequest.wLength ≤ d.inRequest.dataLen then []
    else [.sent d.inRequest.dataLen.toNat (pendingCount d)] := by
  unfold sendPendingEP0Data
  by_cases h0 : d.inRequest.wLength = 0
  · rw [if_pos h0, continueInRequest_accesses]
    rfl
  · rw [if_neg h0, continueInRequest_accesses]

theorem sent_inBounds_iff (hd : Ep0Ok d) (h : ¬ d.inRequest.wLength ≤ d.inRequest.dataLen) :
    (Ep0Access.sent d.inRequest.dataLen.toNat (pendingCount d)).InBounds ↔
      min (d.inRequest.dataLen.toNat + (d.endPoint 0).maxPacketSize.toNat)
        d.inRequest.wLength.toNat ≤ requestDataSize := by
  have hlt := UInt16.lt_iff_toNat_lt.mp (UInt16.not_le.mp h)
  have hmax := hd.max_pos
  unfold Ep0Access.InBounds pendingCount
  constructor
  · intro hb
    have := hb (min (d.inRequest.wLength.toNat - d.inRequest.dataLen.toNat)
      (d.endPoint 0).maxPacketSize.toNat - 1) (by omega)
    omega
  · intro hb i hi
    omega

/-- A reply starts in the buffer: its first packet is smaller than the buffer. -/
theorem first_inBounds (hd : Ep0Ok d) (h : d.inRequest.dataLen = 0) :
    (Ep0Access.sent d.inRequest.dataLen.toNat (pendingCount d)).InBounds := by
  intro i hi
  have h1 := pendingCount_le d
  have h2 := hd.max_lt
  have h3 : d.inRequest.dataLen.toNat = 0 := by rw [h]; rfl
  show _ < 1024
  omega

/-! ## Storing -/

theorem rxCount_of_lt (hlen : packet.length < 2 ^ 31) (h : r.dataLen < r.wLength) :
    rxCount r packet = min packet.length (r.wLength.toNat - r.dataLen.toNat) := by
  have hlt := UInt16.lt_iff_toNat_lt.mp h
  have hw := r.wLength.toNat_lt
  unfold rxCount
  simp only
  split_ifs <;> omega

theorem rxCount_of_gt (hlen : packet.length < 2 ^ 31) (h : r.wLength < r.dataLen) :
    rxCount r packet = packet.length := by
  have hlt := UInt16.lt_iff_toNat_lt.mp h
  have hw := r.dataLen.toNat_lt
  unfold rxCount
  simp only
  split_ifs <;> omega

theorem rxCount_of_eq (h : r.dataLen = r.wLength) : rxCount r packet = 0 := by
  unfold rxCount
  rw [h]
  simp only
  split_ifs <;> omega

theorem stored_inBounds_iff {pos n : ℕ} :
    (Ep0Access.stored pos n).InBounds ↔ n = 0 ∨ pos + n ≤ requestDataSize := by
  unfold Ep0Access.InBounds
  constructor
  · intro h
    by_contra hc
    have := h (n - 1) (by omega)
    omega
  · intro h i hi
    omega

/-- **The bytes that a data packet stores.** -/
theorem stored_iff (hlen : packet.length < 2 ^ 31) (hp : packet.length ≠ 0) (hw : r.wLength ≠ 0) :
    (Ep0Access.stored r.dataLen.toNat (rxCount r packet)).InBounds ↔
      packet = [] ∨ r.wLength = 0 ∨ r.dataLen = r.wLength ∨
        if r.dataLen < r.wLength then
          min (r.dataLen.toNat + packet.length) r.wLength.toNat ≤ requestDataSize
        else r.dataLen.toNat + packet.length ≤ requestDataSize := by
  have hnil : packet ≠ [] := List.length_pos_iff.mp (Nat.pos_of_ne_zero hp)
  rw [stored_inBounds_iff]
  rcases lt_trichotomy r.dataLen.toNat r.wLength.toNat with hlt | heq | hgt
  · have hlt' : r.dataLen < r.wLength := UInt16.lt_iff_toNat_lt.mpr hlt
    have hne : r.dataLen ≠ r.wLength := UInt16.ne_of_lt hlt'
    rw [rxCount_of_lt hlen hlt', if_pos hlt']
    simp only [hnil, hw, hne, false_or]
    omega
  · have heq' : r.dataLen = r.wLength := UInt16.toNat_inj.mp heq
    exact iff_of_true (.inl (rxCount_of_eq heq')) (.inr (.inr (.inl heq')))
  · have hgt' : r.wLength < r.dataLen := UInt16.lt_iff_toNat_lt.mpr hgt
    have hne : r.dataLen ≠ r.wLength := (UInt16.ne_of_lt hgt').symm
    rw [rxCount_of_gt hlen hgt', if_neg (UInt16.not_lt.mpr (UInt16.le_of_lt hgt'))]
    simp only [hnil, hw, hne, false_or]
    omega

/-! ## One event -/

theorem finishOutRequest_accesses : (finishOutRequest d).accesses = d.accesses :=
  usbCompleteRequest_frame.accesses.trans processSetup_frame.accesses

theorem usbRxSetupIn_accessesOk_iff (hd : Ep0Ok d) (p : SetupPacket) :
    AccessesOk (usbRxSetupIn d p) ↔ AccessesOk d := by
  unfold usbRxSetupIn
  set s := processSetup d (d.inRequest.loadIn p)
  have hframe : Frame d s.1 := processSetup_frame
  simp only
  split_ifs with hs
  · exact accessesOk_congr (usbCompleteRequest_frame.accesses.trans hframe.accesses)
  · set x := s.1.setInRequest s.2.rewind
    have hx : Ep0Ok x := ((hframe.kept hd.epNum).trans setInRequest_kept).ok hd
    have hxa : x.accesses = d.accesses := hframe.accesses
    have hacc := sendPendingEP0Data_accesses (d := x)
    split_ifs at hacc with hle
    · rw [List.append_nil, hxa] at hacc
      exact accessesOk_congr hacc
    · rw [hxa] at hacc
      rw [accessesOk_append hacc]
      exact and_iff_left (first_inBounds hx rfl)

theorem usbRxData_accesses (h : ¬ (packet.length = 0 ∨ d.outRequest.wLength = 0)) :
    (usbRxData d packet).accesses =
      d.accesses ++ [.stored d.outRequest.dataLen.toNat (rxCount d.outRequest packet)] := by
  unfold usbRxData
  simp only
  rw [if_neg h]
  split_ifs
  · exact finishOutRequest_accesses
  · rfl

/-- **An event keeps to the buffers exactly if it fits them.** -/
theorem ep0Step_accessesOk_iff (hd : Ep0Ok d) (e : Ep0Event)
    (he : ∀ packet, e = .data packet → packet.length < 2 ^ 31) :
    AccessesOk (ep0Step d e) ↔ AccessesOk d ∧ FitsBuffers d e := by
  cases e with
  | setup p =>
    refine Iff.trans ?_ (and_iff_left trivial).symm
    simp only [ep0Step, usbRxSetupOut]
    split_ifs
    · exact usbRxSetupIn_accessesOk_iff hd p
    · exact accessesOk_congr finishOutRequest_accesses
    · exact Iff.rfl
  | data packet =>
    simp only [ep0Step]
    by_cases h : packet.length = 0 ∨ d.outRequest.wLength = 0
    · have hsame : usbRxData d packet = d := if_pos h
      have hfits : FitsBuffers d (.data packet) := by
        rcases h with h | h
        · exact .inl (List.length_eq_zero_iff.mp h)
        · exact .inr (.inl h)
      rw [hsame]
      exact (and_iff_left hfits).symm
    · rw [accessesOk_append (usbRxData_accesses h),
        stored_iff (he packet rfl) (not_or.mp h).1 (not_or.mp h).2]
      exact Iff.rfl
  | txDone =>
    by_cases hdata : (d.endPoint 0).txData = none
    · have hframe : TxFrame d (endOfTransmission d 0 0) := endOfTransmission_frame
      have hacc := sendPendingEP0Data_accesses (d := endOfTransmission d 0 0)
      rw [← txDone_idle hd.ready hdata, hframe.accesses, hframe.inRequest] at hacc
      split_ifs at hacc with hle
      · rw [List.append_nil] at hacc
        rw [accessesOk_congr hacc]
        exact (and_iff_left (.inr (.inl hle))).symm
      · have hsent := sent_inBounds_iff (hframe.kept.ok hd) (by rwa [hframe.inRequest])
        rw [hframe.inRequest, hframe.maxPacketSize] at hsent
        rw [accessesOk_append hacc, hsent]
        simp only [FitsBuffers, hdata, hle, ne_eq, not_true, false_or]
    · rw [txDone_busy hd.ready hdata, accessesOk_congr handleTxData_frame.accesses]
      exact (and_iff_left (.inl hdata)).symm
  | busReset =>
    refine Iff.trans ?_ (and_iff_left trivial).symm
    exact accessesOk_congr (usbBusReset_isReset hd.epNum hd.numEndpoints).accesses

end Accesses

/-! ## A sequence of events -/

/-- **The buffers of endpoint 0.** For every sequence of events on endpoint 0, all bytes are stored to
and sent from the buffers of the requests if and only if every event fits them. -/
theorem ep0Run_accessesOk_iff (d : UsbDev) (hd : Ep0Ok d) (hacc : d.accesses = []) (es : List Ep0Event)
    (hes : ∀ packet, .data packet ∈ es → packet.length < 2 ^ 31) :
    AccessesOk (es.foldl ep0Step d) ↔ AllSteps ep0Step FitsBuffers d es := by
  have hstart : AccessesOk d := by
    unfold AccessesOk
    rw [hacc]
    exact List.forall_mem_nil _
  rw [foldl_iff_allSteps_mem (J := Ep0Ok) (fun s a _ hs => ep0Step_ok hs a)
    (fun s a ha hs => ep0Step_accessesOk_iff hs a ?_) hd]
  · exact and_iff_right hstart
  · rintro packet rfl
    exact hes packet ha

/-- A class request of the host with `wLength` bytes of data. -/
def classOut (wLength : UInt16) : SetupPacket := ⟨0x21, 0xFF, 0, 0, wLength⟩

theorem ep0Run_accessesOk_iff_two_packets :
    AccessesOk ([.setup (classOut 3), .data [1, 2], .data [3, 4]].foldl ep0Step massDevice) :=
  (ep0Run_accessesOk_iff massDevice ep0Ok_massDevice rfl [.setup (classOut 3), .data [1, 2], .data [3, 4]]
    (by simp)).mpr (by decide)

/-- **The seventeenth packet of a long request is stored behind the buffer.** -/
theorem not_accessesOk_long_request :
    ¬ AccessesOk ((.setup (classOut 2000) :: List.replicate 17 (.data (List.replicate 64 0))).foldl
      ep0Step massDevice) := by
  have hmem : Ep0Access.stored 1024 64 ∈
      ((.setup (classOut 2000) :: List.replicate 17 (.data (List.replicate 64 0))).foldl
        ep0Step massDevice).accesses := by decide +kernel
  exact fun h => absurd (h _ hmem 0 (by decide)) (by decide)

end BmcUsb
