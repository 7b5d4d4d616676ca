import Mathlib
import Bmc.Usb.Ep0Ops

/-!
# Endpoint 0 after a status stage

When the status packet of a host-to-device request was sent, endpoint 0 should be quiet until the next
SETUP packet arrives. The completion of that packet, however, runs into `SendPendingEP0Data`, which
continues from the IN request, whatever became of it.

* `pendingOps`, `sendPendingEP0Data_ops`: what a completion with nothing left of the write does;
* `CompletesOut`: an event that makes the core send the status packet; `Settled`: the state after it;
* `Peaceful`: the condition on an event; `ep0Step_quiet_iff`: it is exact for one event;
* **`quietAfterStatus_iff`**: it is exact for everything up to the next SETUP packet.
-/

namespace BmcUsb

open BmcLib

/-! ## Continuing from the IN request -/

/-- The calls of `SendPendingEP0Data`. -/
def pendingOps (d : UsbDev) : List HwOp :=
  if d.inRequest.wLength = 0 then [.stall 0 dirIn, .stall 0 dirOut]
  else if d.inRequest.dataLen ≥ d.inRequest.wLength then completionOps d.inRequest
  else [.write 0 (pendingBytes d)]

/-- The reply of an IN request was sent and needs no status packet. -/
def DeviceRequest.Finished (r : DeviceRequest) : Prop :=
  r.wLength ≠ 0 ∧ r.wLength ≤ r.dataLen ∧ r.status ≠ 1 ∧ r.bmRequestType &&& reqDevice2Host ≠ 0

instance (r : DeviceRequest) : Decidable r.Finished := by
  unfold DeviceRequest.Finished
  infer_instance

section Pending

variable {d d' x : UsbDev} {r : DeviceRequest} {l : List HwOp} {op : HwOp}

theorem sendPendingEP0Data_ops (hd : Ep0Ok d) (hw : d.usbDevice.usbHwCompleteRequest = false) :
    (sendPendingEP0Data d).ops = d.ops ++ pendingOps d := by
  unfold sendPendingEP0Data pendingOps
  split_ifs with h0 hge
  · -- an empty request fails
    set x := d.setInRequest (d.inRequest.setStatus 1)
    have hx : Ep0Ok x := setInRequest_kept.ok hd
    have hlen : x.inRequest.wLength = 0 := h0
    have hge : x.inRequest.dataLen ≥ x.inRequest.wLength := by
      rw [hlen]
      exact UInt16.zero_le
    unfold continueInRequest
    rw [if_pos hge, usbCompleteRequest_ops hx hw]
    rfl
  · unfold continueInRequest
    rw [if_pos hge, usbCompleteRequest_ops hd hw]
  · unfold continueInRequest
    rw [if_neg hge, sendPendingPacket_ops hd (UInt16.not_le.mp hge)]

/-- The calls since `d` are quiet if the last ones are. -/
theorem quietSince_iff (h : d'.ops = d.ops ++ l) : QuietSince d d' ↔ ∀ op ∈ l, ¬ op.OnEp0 := by
  constructor
  · rintro ⟨l', hl', hq⟩
    rwa [List.append_cancel_left (h.symm.trans hl')]
  · exact fun hq => ⟨l, h, hq⟩

/-- A call on endpoint 0 ends the quiet. -/
theorem not_quietSince (hx : d.ops <+: x.ops) (h : d'.ops = x.ops ++ l) (hop : op ∈ l)
    (ho : op.OnEp0) : ¬ QuietSince d d' := by
  obtain ⟨l', hl'⟩ := hx
  rw [← hl', List.append_assoc] at h
  rw [quietSince_iff h]
  exact fun hq => hq op (List.mem_append_right l' hop) ho

theorem completionOps_quiet_iff : (∀ op ∈ completionOps r, ¬ op.OnEp0) ↔
    r.status ≠ 1 ∧ r.wLength ≠ 0 ∧ r.bmRequestType &&& reqDevice2Host ≠ 0 := by
  unfold completionOps
  split_ifs with h1 h2
  · simp [HwOp.OnEp0, h1]
  · simp only [List.mem_singleton, forall_eq, HwOp.OnEp0, not_true, false_iff]
    tauto
  · simp only [List.not_mem_nil, false_implies, implies_true, true_iff]
    tauto

theorem pendingOps_quiet_iff : (∀ op ∈ pendingOps d, ¬ op.OnEp0) ↔ d.inRequest.Finished := by
  unfold pendingOps DeviceRequest.Finished
  split_ifs with h0 hge
  · simp [HwOp.OnEp0, h0]
  · rw [completionOps_quiet_iff]
    tauto
  · simp only [List.mem_singleton, forall_eq, HwOp.OnEp0, not_true, false_iff]
    tauto

end Pending

/-! ## The end of a request without an IN data stage -/

/-- The device with the OUT request complete, if the event completes it. -/
def completing (d : UsbDev) : Ep0Event → Option UsbDev
  | .setup p =>
    if p.bmRequestType &&& reqDevice2Host = 0 ∧ p.wLength = 0 then
      some (d.setOutRequest ((d.outRequest.load p).setStatus 1)) else none
  | .data packet =>
    let r := d.outRequest
    if packet.length = 0 ∨ r.wLength = 0 ∨ (r.append packet).dataLen < r.wLength then none
    else some ((d.access (.stored r.dataLen.toNat (rxCount r packet))).setOutRequest (r.append packet))
  | .txDone => none
  | .busReset => none

/-- The event completes a host-to-device request with success, so that its status packet is sent. -/
def CompletesOut (d : UsbDev) (e : Ep0Event) : Prop :=
  ∃ x, completing d e = some x ∧ x.outRequest.bmRequestType &&& reqDevice2Host = 0 ∧
    (processSetup x x.outRequest).2.status ≠ 1

/-- The class handlers leave the direction of a request alone. -/
def KeepsDirection (d : UsbDev) : Prop :=
  ∀ i handler r, d.classReqHandler i = some handler →
    (handler r).2.bmRequestType = r.bmRequestType

/-- The state after a status packet. -/
structure Settled (d : UsbDev) : Prop where
  ok : Ep0Ok d
  hw : d.usbDevice.usbHwCompleteRequest = false
  keeps : KeepsDirection d
  sent : (d.endPoint 0).txData = none
  out : d.outRequest.bmRequestType &&& reqDevice2Host = 0

/-- The event leaves endpoint 0 in peace. -/
def Peaceful (d : UsbDev) : Ep0Event → Prop
  | .setup _ => True
  | .data packet => packet = [] ∨ d.outRequest.wLength = 0 ∨
      (d.outRequest.append packet).dataLen < d.outRequest.wLength
  | .txDone => d.inRequest.Finished
  | .busReset => True

instance (d : UsbDev) : DecidablePred (Peaceful d)
  | .setup _ | .busReset => instDecidableTrue
  | .data packet => inferInstanceAs (Decidable (packet = [] ∨ d.outRequest.wLength = 0 ∨
      (d.outRequest.append packet).dataLen < d.outRequest.wLength))
  | .txDone => inferInstanceAs (Decidable d.inRequest.Finished)

section Settled

variable {d d' x : UsbDev} {r : DeviceRequest} {e : Ep0Event}

theorem KeepsDirection.kept (hc : KeepsDirection d) (h : Ep0Kept d d') : KeepsDirection d' := by
  unfold KeepsDirection
  rwa [h.classReqHandler]

theorem getInterfaceReqHandler_keeps (hc : KeepsDirection d) {i : UInt8} {handler : ReqHandler}
    (h : getInterfaceReqHandler d i = some handler) :
    (handler r).2.bmRequestType = r.bmRequestType := by
  unfold getInterfaceReqHandler at h
  split_ifs at h
  · exact hc 0 handler r h
  · exact hc i handler r h

theorem processClassRequest_bmRequestType (hc : KeepsDirection d) :
    (processClassRequest d r).2.bmRequestType = r.bmRequestType := by
  unfold processClassRequest
  split
  · rfl
  next handler hh =>
    have hkeep := getInterfaceReqHandler_keeps (r := r) hc hh
    simp only
    split_ifs <;> exact hkeep

theorem processGetStatus_bmRequestType :
    (processGetStatus d r).2.bmRequestType = r.bmRequestType := by
  by_cases h : r.wValue ≠ 0 ∨ r.wLength ≠ 2 ∨
    (reqRecipMask r.bmRequestType = reqDevice ∧ r.wIndex ≠ 0)
  · unfold processGetStatus
    rw [if_pos h]
    rfl
  · rw [processGetStatus_eq h]
    unfold DeviceRequest.fill
    cases statusByte d r <;> rfl

theorem processSetup_bmRequestType (hc : KeepsDirection d) :
    (processSetup d r).2.bmRequestType = r.bmRequestType := by
  unfold processSetup
  split_ifs
  · unfold processStandardRequest
    split_ifs
    · exact processGetStatus_bmRequestType
    · unfold processSetAddress
      split_ifs <;> rfl
    · unfold processGetDescriptor
      split_ifs
      · exact processClassRequest_bmRequestType hc
      · split <;> rfl
    · unfold processSetConfiguration
      split_ifs <;> rfl
    · unfold processGetConfiguration
      split_ifs <;> rfl
    · obtain ⟨status, hs⟩ := processClearFeature_request d r
      rw [hs]
      rfl
    · obtain ⟨status, hs⟩ := processSetFeature_request d r
      rw [hs]
      rfl
    · rfl
  · exact processClassRequest_bmRequestType hc
  · unfold processVendorRequest
    split_ifs <;> rfl
  · rfl

/-! ## One event -/

theorem completing_kept (h : completing d e = some x) : Ep0Kept d x := by
  cases e with
  | setup p =>
    simp only [completing] at h
    split_ifs at h
    obtain rfl := Option.some.inj h
    exact setOutRequest_kept
  | data packet =>
    simp only [completing] at h
    split_ifs at h
    obtain rfl := Option.some.inj h
    exact (access_kept _).trans setOutRequest_kept
  | txDone => cases h
  | busReset => cases h

theorem completing_ops (h : completing d e = some x) : x.ops = d.ops := by
  cases e with
  | setup p =>
    simp only [completing] at h
    split_ifs at h
    obtain rfl := Option.some.inj h
    rfl
  | data packet =>
    simp only [completing] at h
    split_ifs at h
    obtain rfl := Option.some.inj h
    rfl
  | txDone => cases h
  | busReset => cases h

/-- The event makes the core process the OUT request and complete it. -/
theorem ep0Step_completing (h : completing d e = some x) : ep0Step d e = finishOutRequest x := by
  cases e with
  | setup p =>
    simp only [completing] at h
    split_ifs at h with hp
    obtain rfl := Option.some.inj h
    have hlen : ((d.outRequest.load p).setStatus 1).wLength = 0 := hp.2
    simp only [ep0Step, usbRxSetupOut]
    rw [if_neg (not_not.mpr hp.1), if_pos hlen]
  | data packet =>
    simp only [completing] at h
    split_ifs at h with hp
    obtain rfl := Option.some.inj h
    obtain ⟨h1, h2, h3⟩ := not_or.mp hp |>.imp_right not_or.mp
    have hge : (d.outRequest.append packet).dataLen ≥ (d.outRequest.append packet).wLength :=
      UInt16.not_lt.mp h3
    simp only [ep0Step, usbRxData]
    rw [if_neg (not_or.mpr ⟨h1, h2⟩)]
    exact if_pos hge
  | txDone => cases h
  | busReset => cases h

/-- Without that, a data packet is only stored. -/
theorem ep0Step_data_of_peaceful {packet : List UInt8} (h : Peaceful d (.data packet)) :
    ep0Step d (.data packet) = d ∨
      ep0Step d (.data packet) =
        (d.access (.stored d.outRequest.dataLen.toNat (rxCount d.outRequest packet))).setOutRequest
          (d.outRequest.append packet) := by
  simp only [ep0Step, usbRxData]
  split_ifs with h0 hge
  · exact .inl rfl
  · exfalso
    rcases h with h | h | h
    · exact h0 (.inl (by rw [h]; rfl))
    · exact h0 (.inr h)
    · exact absurd h (UInt16.not_lt.mpr hge)
  · exact .inr rfl

/-- **The state after a status packet.** -/
theorem settled_of_completesOut (hd : Ep0Ok d) (hw : d.usbDevice.usbHwCompleteRequest = false)
    (hc : KeepsDirection d) (he : CompletesOut d e) : Settled (ep0Step d e) := by
  obtain ⟨x, hx, hout, hs⟩ := he
  have hkept := ep0Step_kept hd e
  have hxk := completing_kept hx
  have hxd := hxk.ok hd
  have hxc := hc.kept hxk
  have hbm := processSetup_bmRequestType (r := x.outRequest) hxc
  have hstep := ep0Step_completing hx
  set s := processSetup x x.outRequest
  have hsk : Ep0Kept x (s.1.setOutRequest s.2) :=
    (processSetup_frame.kept hxd.epNum).trans setOutRequest_kept
  have hsw : (s.1.setOutRequest s.2).usbDevice.usbHwCompleteRequest = false := by
    rw [hsk.usbDevice, hxk.usbDevice, hw]
  constructor
  case ok => exact hkept.ok hd
  case hw => rw [hkept.usbDevice, hw]
  case keeps => exact hc.kept hkept
  case sent =>
    rw [hstep]
    exact usbCompleteRequest_status (hsk.ok hxd) hsw hs (.inr (by rw [hbm, hout]))
  case out =>
    have hreq : (finishOutRequest x).outRequest = s.2 :=
      (usbCompleteRequest_frame (d := s.1.setOutRequest s.2) (r := s.2)).outRequest
    rw [hstep, hreq, hbm, hout]

/-- The status stage of a host-to-device request is never quiet. -/
theorem not_quiet_finishOutRequest (hd : Ep0Ok d)
    (hw : d.usbDevice.usbHwCompleteRequest = false) (hc : KeepsDirection d)
    (hout : d.outRequest.bmRequestType &&& reqDevice2Host = 0) :
    ¬ QuietSince d (finishOutRequest d) := by
  have hbm := processSetup_bmRequestType (r := d.outRequest) hc
  set s := processSetup d d.outRequest
  have hframe : Frame d s.1 := processSetup_frame
  have hkept : Ep0Kept d (s.1.setOutRequest s.2) := (hframe.kept hd.epNum).trans setOutRequest_kept
  have hops : (finishOutRequest d).ops = (s.1.setOutRequest s.2).ops ++ completionOps s.2 :=
    usbCompleteRequest_ops (hkept.ok hd) (by rw [hkept.usbDevice, hw])
  have hloud : ∃ op ∈ completionOps s.2, op.OnEp0 := by
    by_contra hc
    push Not at hc
    exact (completionOps_quiet_iff.mp hc).2.2 (by rw [hbm, hout])
  obtain ⟨op, hop, ho⟩ := hloud
  exact not_quietSince hframe.ops hops hop ho

/-- **An event is quiet exactly if it is peaceful.** -/
theorem ep0Step_quiet_iff (h : Settled d) (he : ∀ p, e ≠ .setup p) :
    QuietSince d (ep0Step d e) ↔ Peaceful d e := by
  cases e with
  | setup p => exact absurd rfl (he p)
  | data packet =>
    constructor
    · intro hq
      by_contra hp
      obtain ⟨h1, h2, h3⟩ : packet ≠ [] ∧ d.outRequest.wLength ≠ 0 ∧
          ¬ (d.outRequest.append packet).dataLen < d.outRequest.wLength := by
        simpa [Peaceful] using hp
      have hx : ∃ x, completing d (.data packet) = some x ∧
          x.outRequest.bmRequestType = d.outRequest.bmRequestType := by
        simp only [completing]
        rw [if_neg (by simp [h1, h2, h3])]
        exact ⟨_, rfl, rfl⟩
      obtain ⟨x, hx, hbm⟩ := hx
      have hkept := completing_kept hx
      unfold QuietSince at hq
      rw [ep0Step_completing hx, ← completing_ops hx] at hq
      exact not_quiet_finishOutRequest (hkept.ok h.ok) (by rw [hkept.usbDevice, h.hw])
        (h.keeps.kept hkept) (by rw [hbm, h.out]) hq
    · intro hp
      rcases ep0Step_data_of_peaceful hp with hs | hs <;> rw [hs]
      · exact .refl d
      · exact .of_eq rfl
  | txDone =>
    set x := endOfTransmission d 0 0
    have hframe : TxFrame d x := endOfTransmission_frame
    have hops : (ep0Step d .txDone).ops =
        d.ops ++ (endOps d.usbDevice d.blockingSend 0 0 ++ pendingOps x) := by
      rw [txDone_idle h.ok.ready h.sent, sendPendingEP0Data_ops (hframe.kept.ok h.ok)
        (by rw [hframe.usbDevice, h.hw]), endOfTransmission_ops, List.append_assoc]
    have hend : ∀ op ∈ endOps d.usbDevice d.blockingSend 0 0, ¬ op.OnEp0 := by
      unfold endOps
      cases d.usbDevice.usbTxComplete <;> simp [HwOp.OnEp0]
    rw [quietSince_iff hops, Peaceful, ← hframe.inRequest, ← pendingOps_quiet_iff]
    constructor
    · exact fun hq op hop => hq op (List.mem_append_right _ hop)
    · intro hq op hop
      rcases List.mem_append.mp hop with hop | hop
      · exact hend op hop
      · exact hq op hop
  | busReset =>
    exact iff_of_true (usbBusReset_isReset h.ok.epNum h.ok.numEndpoints).quiet trivial

/-- A peaceful event leaves the state settled. -/
theorem Settled.step (h : Settled d) (he : ∀ p, e ≠ .setup p) (hp : Peaceful d e) :
    Settled (ep0Step d e) := by
  have hkept := ep0Step_kept h.ok e
  have hw : (ep0Step d e).usbDevice.usbHwCompleteRequest = false := by rw [hkept.usbDevice, h.hw]
  have hkeeps := h.keeps.kept hkept
  suffices hs : ((ep0Step d e).endPoint 0).txData = none ∧
      (ep0Step d e).outRequest.bmRequestType = d.outRequest.bmRequestType from
    ⟨hkept.ok h.ok, hw, hkeeps, hs.1, by rw [hs.2, h.out]⟩
  cases e with
  | setup p => exact absurd rfl (he p)
  | data packet =>
    rcases ep0Step_data_of_peaceful hp with hs | hs <;> rw [hs]
    · exact ⟨h.sent, rfl⟩
    · exact ⟨h.sent, rfl⟩
  | txDone =>
    have hframe : TxFrame d (endOfTransmission d 0 0) := endOfTransmission_frame
    obtain ⟨h0, hge, hst, hin⟩ := hp
    have hsame : ep0Step d .txDone = endOfTransmission d 0 0 := by
      rw [txDone_idle h.ok.ready h.sent]
      unfold sendPendingEP0Data
      rw [hframe.inRequest, if_neg h0]
      unfold continueInRequest
      rw [hframe.inRequest, if_pos hge]
      unfold usbCompleteRequest
      rw [hframe.usbDevice, h.hw, if_neg Bool.false_ne_true, if_neg hst,
        if_neg (not_or.mpr ⟨h0, hin⟩)]
    rw [hsame]
    exact ⟨(endOfTransmission_idle h.sent).1, by rw [hframe.outRequest]⟩
  | busReset =>
    have hreset := usbBusReset_isReset h.ok.epNum h.ok.numEndpoints
    simp only [ep0Step]
    rw [hreset.ep0, hreset.outRequest]
    exact ⟨rfl, rfl⟩

end Settled

/-! ## Everything up to the next SETUP packet -/

/-- **Endpoint 0 after a status packet.** In every history, once the status packet of a host-to-device
request was sent, endpoint 0 is left in peace up to the next SETUP packet if and only if every event
until then is peaceful. -/
theorem quietAfterStatus_iff (d : UsbDev) (hd : Ep0Ok d)
    (hw : d.usbDevice.usbHwCompleteRequest = false) (hc : KeepsDirection d)
    (history : List Ep0Event) (e : Ep0Event) (he : CompletesOut (history.foldl ep0Step d) e)
    (es : List Ep0Event) (hes : ∀ a ∈ es, ∀ p, a ≠ .setup p) :
    AllSteps ep0Step (fun s a => QuietSince s (ep0Step s a))
        (ep0Step (history.foldl ep0Step d) e) es ↔
      AllSteps ep0Step Peaceful (ep0Step (history.foldl ep0Step d) e) es := by
  have hkept : Ep0Kept d (history.foldl ep0Step d) := run_kept hd history
  have hc' := hc.kept hkept
  refine allSteps_congr_mem (fun s a ha hs => ep0Step_quiet_iff hs (hes a ha))
    (fun s a ha hs hp => hs.step (hes a ha) hp) ?_
  exact settled_of_completesOut (hkept.ok hd) (by rw [hkept.usbDevice, hw]) hc' he

/-- SET_ADDRESS. -/
def setAddress : SetupPacket := ⟨0x00, 5, 5, 0, 0⟩

/-- GET_CONFIGURATION. -/
def getConfiguration : SetupPacket := ⟨0x80, 8, 0, 0, 1⟩

/-- The vendor request, whose reply takes two packets. -/
def getExtProperties : SetupPacket := ⟨0xC0, 0xA5, 0, 5, 76⟩

theorem keepsDirection_massDevice : KeepsDirection massDevice := by
  intro i handler r h
  obtain rfl := Option.some.inj h
  unfold botReqHandler
  split_ifs <;> rfl

theorem quietAfterStatus_iff_set_address :
    AllSteps ep0Step (fun s a => QuietSince s (ep0Step s a))
      (ep0Step ([.setup getConfiguration, .txDone].foldl ep0Step massDevice) (.setup setAddress))
      [.txDone] :=
  (quietAfterStatus_iff massDevice ep0Ok_massDevice rfl keepsDirection_massDevice
    [.setup getConfiguration, .txDone] (.setup setAddress)
    ⟨_, rfl, by decide, by decide⟩ [.txDone] (by simp)).mpr (by decide)

/-- **A status packet is followed by the rest of an abandoned reply.** -/
theorem status_then_leftover :
    massDevice.usbDevice.usbHwCompleteRequest = false ∧
      CompletesOut (ep0Step massDevice (.setup getExtProperties)) (.setup setAddress) ∧
      ¬ AllSteps ep0Step (fun s a => QuietSince s (ep0Step s a))
        (ep0Step (ep0Step massDevice (.setup getExtProperties)) (.setup setAddress)) [.txDone] := by
  refine ⟨rfl, ⟨_, rfl, by decide, by decide⟩, ?_⟩
  rintro ⟨hq, -⟩
  have hops : (ep0Step (ep0Step (ep0Step massDevice (.setup getExtProperties)) (.setup setAddress))
      .txDone).ops =
      (ep0Step (ep0Step massDevice (.setup getExtProperties)) (.setup setAddress)).ops ++
        [.txComplete 0, .write 0 (List.replicate 12 0)] := by decide +kernel
  rw [quietSince_iff hops] at hq
  exact hq (.write 0 (List.replicate 12 0)) (by simp) rfl

end BmcUsb
