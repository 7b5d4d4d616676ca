import Bmc.Usb.Ep0Quiet

/-!
# The replies of endpoint 0

The replies to control-IN requests are built in one buffer, which is never cleared.

* `UsbDev.state`: the device without its requests and its transmissions; `replyOf`: the reply that a
  request has in such a state;
* `Replying`: the states between the SETUP packet and the end of the reply, with one lemma for a
  completed packet, and `replying_run` for `n` of them;
* `Fresh`: the host gets the beginning of that reply, and nothing else; `Filled`: the handler fills
  every byte that is sent;
* **`fresh_iff`**: for an accepted request, `Fresh` is `Filled`.
-/

namespace BmcUsb

open BmcLib

/-! ## What the reply should be -/

/-- A request that holds nothing. -/
def blankRequest : DeviceRequest := ⟨0, 0, 0, 0, 0, 0, fun _ => 0, 0, 0⟩

/-- An endpoint that transmits nothing. -/
def EndpointInfo.unloaded (e : EndpointInfo) : EndpointInfo :=
  { e with txData := none, txDataLen := 0, txDataPos := 0, txZeroLenPkt := 0, txReady := 1 }

/-- The state of a device, without what earlier requests left in the buffers and the endpoints. -/
def UsbDev.state (d : UsbDev) : UsbDev :=
  { d with
    inRequest := blankRequest, outRequest := blankRequest, blockingSend := false
    endPoint := fun i => (d.endPoint i).unloaded, ops := [], accesses := [] }

/-- The reply to a device-to-host request, and `none` for a request that has no reply. -/
def replyOf (d : UsbDev) (p : SetupPacket) : Option (List UInt8) :=
  if reqTypeMask p.bmRequestType = 0 then
    if p.bRequest = 0 then (statusByte d (blankRequest.load p)).map fun b => [b, 0]
    else if p.bRequest = 6 then
      if reqRecipMask p.bmRequestType = reqInterface then none
      else namedDescriptor d (blankRequest.load p)
    else if p.bRequest = 8 then some [d.cfgIndex]
    else none
  else if reqTypeMask p.bmRequestType = 1 then
    if reqRecipMask p.bmRequestType = reqInterface ∧ p.bRequest = 0xFE then some [d.maxLUN] else none
  else if reqTypeMask p.bmRequestType = 2 then
    if p.wIndex = 0x05 ∧ p.bRequest = 0xA5 then some (slice d.extProp 0 76) else none
  else none

/-- The request is accepted, and has a data stage. -/
def Accepted (d : UsbDev) (p : SetupPacket) : Prop :=
  p.bmRequestType &&& reqDevice2Host ≠ 0 ∧
    (processSetup d (d.inRequest.loadIn p)).2.status = 0 ∧
    (processSetup d (d.inRequest.loadIn p)).2.wLength ≠ 0

instance (d : UsbDev) (p : SetupPacket) : Decidable (Accepted d p) := by
  unfold Accepted
  infer_instance

/-- The class requests go to the handler of a mass-storage interface. -/
def BotClass (d : UsbDev) : Prop :=
  ∀ i handler, d.classReqHandler i = some handler → handler = botReqHandler d.maxLUN

/-- The bytes that the host gets on endpoint 0. -/
def ep0Bytes (ops : List HwOp) : List UInt8 :=
  ops.flatMap fun
    | .write ep packet => if ep = 0 then packet else []
    | _ => []

/-- The device when `n` packets were completed after a SETUP packet. -/
def replyRun (d : UsbDev) (p : SetupPacket) (n : ℕ) : UsbDev :=
  (fun d => ep0Step d .txDone)^[n] (ep0Step d (.setup p))

/-- The bytes that the host has got by then. -/
def replyBytes (d : UsbDev) (p : SetupPacket) (n : ℕ) : List UInt8 :=
  ep0Bytes ((replyRun d p n).ops.drop d.ops.length)

/-- **The reply is fresh**: the host gets the first `wLength` bytes of the request's reply in the
present state of the device. -/
def Fresh (d : UsbDev) (p : SetupPacket) : Prop :=
  ∃ reply, replyOf d.state p = some reply ∧
    ∃ N, ∀ n ≥ N, replyBytes d p n = reply.take p.wLength.toNat

/-- The handler of the request fills every byte that is sent. GET_STATUS writes one of its two bytes,
and none at all for an unknown recipient; the class requests of a mass-storage interface leave the
length to the host. -/
def Filled (d : UsbDev) (p : SetupPacket) : Prop :=
  if reqTypeMask p.bmRequestType = 0 then
    p.bRequest = 0 →
      d.inRequest.data 1 = 0 ∧
        (reqRecipMask p.bmRequestType = reqInterface ∨ reqRecipMask p.bmRequestType = reqDevice ∨
          reqRecipMask p.bmRequestType = reqEndpoint ∧
            (d.epStatus (blankRequest.load p).epNum (blankRequest.load p).epDir).isSome)
  else if reqTypeMask p.bmRequestType = 1 then p.bRequest = 0xFE ∧ p.wLength = 1
  else True

instance (d : UsbDev) (p : SetupPacket) : Decidable (Filled d p) := by
  unfold Filled
  infer_instance

/-! ## The run of a reply -/

/-- `j` bytes of the reply `r` were sent since the calls `base`. -/
structure Replying (r : DeviceRequest) (base : List HwOp) (j : ℕ) (d : UsbDev) : Prop where
  ok : Ep0Ok d
  request : d.inRequest = { r with dataLen := UInt16.ofNat j }
  le : j ≤ r.wLength.toNat
  sent : ∃ l, d.ops = base ++ l ∧ ep0Bytes l = slice r.data 0 j
  tx : (d.endPoint 0).txData = none ∨ (d.endPoint 0).EmptyLeft

section Replying

variable {d : UsbDev} {r : DeviceRequest} {base l : List HwOp} {j : ℕ} {p : SetupPacket}

theorem BotClass.kept {d' : UsbDev} (hbot : BotClass d) (h : Ep0Kept d d') : BotClass d' := by
  unfold BotClass
  rwa [h.classReqHandler, h.maxLUN]

theorem ep0Bytes_append (l l' : List HwOp) : ep0Bytes (l ++ l') = ep0Bytes l ++ ep0Bytes l' :=
  List.flatMap_append

theorem ep0Bytes_packet (packet : List UInt8) : ep0Bytes [.write 0 packet] = packet := by
  simp [ep0Bytes]

theorem ep0Bytes_endOps (hw : UsbHw) (b : Bool) : ep0Bytes (endOps hw b 0 0) = [] := by
  unfold endOps
  cases hw.usbTxComplete <;> simp [ep0Bytes]

/-- The next packet of the reply. -/
theorem replying_send (hd : Ep0Ok d) (hreq : d.inRequest = { r with dataLen := UInt16.ofNat j })
    (hj : j < r.wLength.toNat) (hops : d.ops = base ++ l) (hl : ep0Bytes l = slice r.data 0 j) :
    ∃ j', j < j' ∧ Replying r base j' (sendPendingEP0Data d) := by
  have hdata : d.inRequest.data = r.data := by rw [hreq]
  have hw : d.inRequest.wLength = r.wLength := by rw [hreq]
  have hlen : d.inRequest.dataLen.toNat = j := by
    rw [hreq]
    exact UInt16.toNat_ofNat_of_lt (hj.trans r.wLength.toNat_lt)
  have hlt : d.inRequest.dataLen < d.inRequest.wLength := by
    rw [UInt16.lt_iff_toNat_lt, hlen, hw]
    exact hj
  have h0 : d.inRequest.wLength ≠ 0 := by
    intro hc
    rw [hc] at hlt
    exact absurd (UInt16.lt_iff_toNat_lt.mp hlt) (Nat.not_lt_zero _)
  have hsend : sendPendingEP0Data d = sendPendingPacket d := by
    unfold sendPendingEP0Data
    rw [if_neg h0]
    unfold continueInRequest
    rw [if_neg (UInt16.not_le.mpr hlt)]
  have hpos := pendingCount_pos hd hlt
  have hcount : pendingCount d ≤ r.wLength.toNat - j := by
    unfold pendingCount
    rw [hw, hlen]
    omega
  rw [hsend]
  refine ⟨j + pendingCount d, by omega, ?_⟩
  constructor
  case ok => exact sendPendingPacket_kept.ok hd
  case request =>
    rw [sendPendingPacket_inRequest]
    generalize pendingCount d = c
    rw [hreq, UInt16.ofNat_add]
    rfl
  case le => omega
  case sent =>
    refine ⟨l ++ [.write 0 (pendingBytes d)], ?_, ?_⟩
    · rw [sendPendingPacket_ops hd hlt, hops, List.append_assoc]
    · rw [ep0Bytes_append, ep0Bytes_packet, hl, pendingBytes, hdata, hlen, slice_add, Nat.zero_add]
  case tx => exact sendPendingPacket_tx hd hlt

theorem Replying.call (h : Replying r base j d) {op : HwOp} (hop : ep0Bytes [op] = []) :
    Replying r base j (d.call op) := by
  obtain ⟨l, hops, hl⟩ := h.sent
  refine ⟨(TxFrame.call d op).kept.ok h.ok, h.request, h.le, ⟨l ++ [op], ?_, ?_⟩, h.tx⟩
  · rw [UsbDev.call_ops, hops, List.append_assoc]
  · rw [ep0Bytes_append, hop, hl, List.append_nil]

/-- How far the reply is; an empty packet that is left counts, too. -/
def progress (j : ℕ) (d : UsbDev) : ℕ := 2 * j + if (d.endPoint 0).txData.isNone then 1 else 0

/-- **A completed packet.** It brings the reply forward, until all of it was sent. -/
theorem Replying.txDone (h : Replying r base j d) (hst : r.status = 0) (h0 : r.wLength ≠ 0)
    (hin : r.bmRequestType &&& reqDevice2Host ≠ 0) :
    ∃ j', j ≤ j' ∧ Replying r base j' (ep0Step d .txDone) ∧
      (j' = r.wLength.toNat ∨ progress j d < progress j' (ep0Step d .txDone)) := by
  obtain ⟨l, hops, hl⟩ := h.sent
  by_cases hdata : (d.endPoint 0).txData = none
  · set x := endOfTransmission d 0 0
    have hframe : TxFrame d x := endOfTransmission_frame
    have hx : Ep0Ok x := hframe.kept.ok h.ok
    have hreq : x.inRequest = { r with dataLen := UInt16.ofNat j } := by
      rw [hframe.inRequest, h.request]
    have hxops : x.ops = base ++ (l ++ endOps d.usbDevice d.blockingSend 0 0) := by
      rw [endOfTransmission_ops, hops, List.append_assoc]
    have hxl : ep0Bytes (l ++ endOps d.usbDevice d.blockingSend 0 0) = slice r.data 0 j := by
      rw [ep0Bytes_append, ep0Bytes_endOps, hl, List.append_nil]
    rw [txDone_idle h.ok.ready hdata]
    rcases h.le.lt_or_eq with hj | hj
    · obtain ⟨j', hlt, hnext⟩ := replying_send hx hreq hj hxops hxl
      refine ⟨j', hlt.le, hnext, .inr ?_⟩
      unfold progress
      split_ifs <;> omega
    · -- all of it was sent
      refine ⟨j, le_rfl, ?_, .inl hj⟩
      have hge : x.inRequest.dataLen ≥ x.inRequest.wLength := by
        rw [hreq, hj, UInt16.ofNat_toNat]
        exact UInt16.le_refl _
      have hdone : sendPendingEP0Data x = usbCompleteRequest x x.inRequest := by
        unfold sendPendingEP0Data
        rw [if_neg (by rwa [hreq])]
        unfold continueInRequest
        rw [if_pos hge]
      have hxr : Replying r base j x :=
        ⟨hx, hreq, h.le, ⟨_, hxops, hxl⟩, .inl (endOfTransmission_idle hdata).1⟩
      have hx1 : x.inRequest.status ≠ 1 := by
        rw [hreq]
        exact hst.trans_ne (by decide)
      rw [hdone]
      rcases usbCompleteRequest_reply (d := x) hx1 (by rwa [hreq]) (by rwa [hreq]) with hc | hc
      · rwa [hc]
      · rw [hc]
        exact hxr.call rfl
  · have hleft := h.tx.resolve_left hdata
    obtain ⟨hnone, hsent⟩ := handleTxData_emptyLeft h.ok hleft
    have hframe : TxFrame d (handleTxData d 0 0) := handleTxData_frame
    rw [txDone_busy h.ok.ready hdata]
    have hreq : (handleTxData d 0 0).inRequest = { r with dataLen := UInt16.ofNat j } := by
      rw [hframe.inRequest, h.request]
    refine ⟨j, le_rfl, ⟨hframe.kept.ok h.ok, hreq, h.le, ?_, .inl hnone⟩, .inr ?_⟩
    · refine ⟨l ++ [.write 0 []], by rw [hsent, hops, List.append_assoc], ?_⟩
      rw [ep0Bytes_append, ep0Bytes_packet, hl, List.append_nil]
    · have hsome : (d.endPoint 0).txData.isNone = false := by
        cases ht : (d.endPoint 0).txData with
        | none => exact absurd ht hdata
        | some b => rfl
      unfold progress
      rw [hnone, hsome]
      simp

/-- **The run of a reply.** After enough completed packets all of it was sent. -/
theorem replying_run (h : Replying r base j d) (hst : r.status = 0) (h0 : r.wLength ≠ 0)
    (hin : r.bmRequestType &&& reqDevice2Host ≠ 0) (n : ℕ) :
    ∃ j', Replying r base j' ((fun d => ep0Step d .txDone)^[n] d) ∧
      (j' = r.wLength.toNat ∨ n ≤ progress j' ((fun d => ep0Step d .txDone)^[n] d)) := by
  induction n with
  | zero => exact ⟨j, h, .inr (Nat.zero_le _)⟩
  | succ n ih =>
    obtain ⟨i, hi, hprog⟩ := ih
    obtain ⟨j', hle, hj', hnext⟩ := hi.txDone hst h0 hin
    rw [Function.iterate_succ_apply']
    refine ⟨j', hj', ?_⟩
    rcases hnext with hdone | hnext
    · exact .inl hdone
    rcases hprog with hdone | hprog
    · have := hj'.le
      exact .inl (by omega)
    · exact .inr (by omega)

/-- The bytes that were sent in the end. -/
theorem replying_run_bytes (h : Replying r base j d) (hst : r.status = 0) (h0 : r.wLength ≠ 0)
    (hin : r.bmRequestType &&& reqDevice2Host ≠ 0) {n : ℕ} (hn : 2 * r.wLength.toNat + 2 ≤ n) :
    ep0Bytes (((fun d => ep0Step d .txDone)^[n] d).ops.drop base.length) =
      slice r.data 0 r.wLength.toNat := by
  obtain ⟨j', hj', hdone⟩ := replying_run h hst h0 hin n
  have hall : j' = r.wLength.toNat := by
    rcases hdone with hdone | hdone
    · exact hdone
    · have hle := hj'.le
      unfold progress at hdone
      split_ifs at hdone <;> omega
  obtain ⟨l, hops, hl⟩ := hj'.sent
  rw [hops, List.drop_left, hl, hall]

/-! ## The handlers -/

/-- **What the handlers make of an accepted device-to-host request.** -/
inductive HandledIn (d : UsbDev) (r : DeviceRequest) : DeviceRequest → Prop
  | status (ht : reqTypeMask r.bmRequestType = 0) (hb : r.bRequest = 0) (hl : r.wLength = 2) :
    HandledIn d r ((r.fill (statusByte d r)).setStatus 0)
  | descriptor (ht : reqTypeMask r.bmRequestType = 0) (hb : r.bRequest = 6)
    (hr : reqRecipMask r.bmRequestType ≠ reqInterface) (bytes : List UInt8)
    (hn : namedDescriptor d r = some bytes) :
    HandledIn d r ((r.reply (bytes.take r.wLength.toNat)).setStatus 0)
  | configuration (ht : reqTypeMask r.bmRequestType = 0) (hb : r.bRequest = 8) (hl : r.wLength = 1) :
    HandledIn d r ((r.setByte d.cfgIndex).setStatus 0)
  | maxLun (ht : reqTypeMask r.bmRequestType = 1) (hr : reqRecipMask r.bmRequestType = reqInterface)
    (hb : r.bRequest = 0xFE) : HandledIn d r ((r.setByte d.maxLUN).setStatus 0)
  | massReset (ht : reqTypeMask r.bmRequestType = 1)
    (hr : reqRecipMask r.bmRequestType = reqInterface) (hb : r.bRequest = 0xFF) :
    HandledIn d r (r.setStatus 0)
  | properties (ht : reqTypeMask r.bmRequestType = 2) (hw : r.wIndex = 0x05 ∧ r.bRequest = 0xA5) :
    HandledIn d r ((r.reply (slice d.extProp 0 (min 76 r.wLength.toNat))).setStatus 0)

theorem rejected_status (d : UsbDev) (r : DeviceRequest) :
    ((d, r.setStatus 1) : UsbDev × DeviceRequest).2.status ≠ 0 := show (1 : UInt8) ≠ 0 by decide

theorem botReqHandler_cases (m : UInt8) (r : DeviceRequest) :
    (reqRecipMask r.bmRequestType = reqInterface ∧ r.bRequest = 0xFE ∧
        botReqHandler m r = (0, r.setByte m)) ∨
      (reqRecipMask r.bmRequestType = reqInterface ∧ r.bRequest = 0xFF ∧
        botReqHandler m r = (0, r)) ∨
      botReqHandler m r = (1, r) := by
  unfold botReqHandler
  split_ifs with h1 h2
  · exact .inl ⟨h1.1, h1.2, rfl⟩
  · exact .inr (.inl ⟨h2.1, h2.2, rfl⟩)
  · exact .inr (.inr rfl)

theorem processClassRequest_accepted (hbot : BotClass d)
    (hst : (processClassRequest d r).2.status = 0) :
    (processClassRequest d r).1 = d ∧ reqRecipMask r.bmRequestType = reqInterface ∧
      (r.bRequest = 0xFE ∧ (processClassRequest d r).2 = (r.setByte d.maxLUN).setStatus 0 ∨
        r.bRequest = 0xFF ∧ (processClassRequest d r).2 = r.setStatus 0) := by
  unfold processClassRequest at hst ⊢
  split at hst
  · exact absurd hst (rejected_status d r)
  next handler hh =>
    have hbot' : handler = botReqHandler d.maxLUN := by
      unfold getInterfaceReqHandler at hh
      split_ifs at hh
      · exact hbot 0 handler hh
      · exact hbot _ handler hh
    subst hbot'
    rcases botReqHandler_cases d.maxLUN r with ⟨hr, hb, he⟩ | ⟨hr, hb, he⟩ | he
    · rw [he]
      exact ⟨rfl, hr, .inl ⟨hb, rfl⟩⟩
    · rw [he]
      exact ⟨rfl, hr, .inr ⟨hb, rfl⟩⟩
    · rw [he] at hst
      exact absurd hst (rejected_status d r)

theorem processStandardRequest_accepted (hbot : BotClass d)
    (ht : reqTypeMask r.bmRequestType = 0)
    (hst : (processStandardRequest d r).2.status = 0)
    (hlen : (processStandardRequest d r).2.wLength ≠ 0) :
    (processStandardRequest d r).1 = d ∧ HandledIn d r (processStandardRequest d r).2 := by
  unfold processStandardRequest at hst hlen ⊢
  split_ifs at hst hlen ⊢ with h0 h5 h6 h9 h8 h1 h3
  · by_cases hbad : r.wValue ≠ 0 ∨ r.wLength ≠ 2 ∨
      (reqRecipMask r.bmRequestType = reqDevice ∧ r.wIndex ≠ 0)
    · unfold processGetStatus at hst
      rw [if_pos hbad] at hst
      exact absurd hst (rejected_status d r)
    · rw [processGetStatus_eq hbad]
      exact ⟨rfl, .status ht h0 (not_not.mp (not_or.mp (not_or.mp hbad).2).1)⟩
  · unfold processSetAddress at hst hlen
    split_ifs at hst hlen with hbad
    · exact absurd hst (rejected_status d r)
    · exact absurd (not_not.mp (not_or.mp (not_or.mp hbad).2).2) hlen
  · unfold processGetDescriptor at hst ⊢
    split_ifs at hst ⊢ with hr
    · obtain ⟨-, -, ⟨hb, -⟩ | ⟨hb, -⟩⟩ := processClassRequest_accepted hbot hst
      · exact absurd (h6.symm.trans hb) (by decide)
      · exact absurd (h6.symm.trans hb) (by decide)
    · split at hst
      · exact absurd hst (rejected_status d r)
      next bytes hn => exact ⟨rfl, .descriptor ht h6 hr bytes hn⟩
  · unfold processSetConfiguration at hst hlen
    split_ifs at hst hlen with hbad hv
    · exact absurd hst (rejected_status d r)
    · exact absurd (not_not.mp (not_or.mp (not_or.mp hbad).2).1) hlen
    · exact absurd (not_not.mp (not_or.mp (not_or.mp hbad).2).1) hlen
  · unfold processGetConfiguration at hst ⊢
    split_ifs at hst ⊢ with hbad
    · exact absurd hst (rejected_status d r)
    · exact ⟨rfl, .configuration ht h8 (not_not.mp (not_or.mp (not_or.mp hbad).2).1)⟩
  · obtain ⟨status, hs⟩ := processClearFeature_request d r
    by_cases hw : r.wLength = 0
    · rw [hs] at hlen
      exact absurd hw hlen
    · unfold processClearFeature at hst
      rw [if_pos hw] at hst
      exact absurd hst (rejected_status d r)
  · obtain ⟨status, hs⟩ := processSetFeature_request d r
    by_cases hw : r.wLength = 0
    · rw [hs] at hlen
      exact absurd hw hlen
    · unfold processSetFeature at hst
      rw [if_pos hw] at hst
      exact absurd hst (rejected_status d r)
  · exact absurd hst (rejected_status d r)

/-- **Inversion of an accepted request with a data stage.** -/
theorem processSetup_accepted (hbot : BotClass d) (hst : (processSetup d r).2.status = 0)
    (hlen : (processSetup d r).2.wLength ≠ 0) :
    (processSetup d r).1 = d ∧ HandledIn d r (processSetup d r).2 := by
  unfold processSetup at hst hlen ⊢
  split_ifs at hst hlen ⊢ with h0 h1 h2
  · exact processStandardRequest_accepted hbot h0 hst hlen
  · obtain ⟨hd, hr, ⟨hb, hreq⟩ | ⟨hb, hreq⟩⟩ := processClassRequest_accepted hbot hst
    · rw [hreq]
      exact ⟨hd, .maxLun h1 hr hb⟩
    · rw [hreq]
      exact ⟨hd, .massReset h1 hr hb⟩
  · unfold processVendorRequest at hst ⊢
    split_ifs at hst ⊢ with hw
    · exact ⟨rfl, .properties h2 hw⟩
    · exact absurd hst (rejected_status d r)
  · exact absurd hst (rejected_status d r)

theorem HandledIn.bmRequestType {r' : DeviceRequest} (h : HandledIn d r r') :
    r'.bmRequestType = r.bmRequestType := by
  cases h with
  | status ht hb hl =>
    unfold DeviceRequest.fill
    cases statusByte d r <;> rfl
  | descriptor ht hb hr bytes hn => rfl
  | configuration ht hb hl => rfl
  | maxLun ht hr hb => rfl
  | massReset ht hr hb => rfl
  | properties ht hw => rfl

/-! ## The bytes of a reply -/

/-- **The host gets what is in the buffer**, up to the length that the handler leaves. -/
theorem replyBytes_eq (hd : Ep0Ok d) (hbot : BotClass d) (h : Accepted d p) {r' : DeviceRequest}
    (hr' : r' = (processSetup d (d.inRequest.loadIn p)).2) {n : ℕ}
    (hn : 2 * r'.wLength.toNat + 2 ≤ n) :
    replyBytes d p n = slice r'.data 0 r'.wLength.toNat := by
  obtain ⟨hin, hst, hlen⟩ := h
  obtain ⟨hsame, hhandled⟩ := processSetup_accepted hbot hst hlen
  have hbm := hhandled.bmRequestType
  rw [← hr'] at hst hlen hhandled hbm
  have hstep : ep0Step d (.setup p) = sendPendingEP0Data (d.setInRequest r'.rewind) := by
    simp only [ep0Step, usbRxSetupIn]
    rw [if_pos hin, ← hr', hsame, if_neg (not_not.mpr hst)]
  have hpos : 0 < r'.rewind.wLength.toNat := by
    refine Nat.pos_of_ne_zero fun hc => hlen ?_
    exact UInt16.toNat_inj.mp hc
  have hrin : r'.rewind.bmRequestType &&& reqDevice2Host ≠ 0 := by
    rw [show r'.rewind.bmRequestType = p.bmRequestType from hbm]
    exact hin
  obtain ⟨j, -, hj⟩ : ∃ j, 0 < j ∧
      Replying r'.rewind d.ops j (sendPendingEP0Data (d.setInRequest r'.rewind)) :=
    replying_send (setInRequest_kept.ok hd) rfl hpos (List.append_nil _).symm rfl
  unfold replyBytes replyRun
  rw [hstep]
  exact replying_run_bytes hj hst hlen hrin hn

/-- The eventual bytes decide whether a reply is fresh. -/
theorem fresh_iff_slice (hd : Ep0Ok d) (hbot : BotClass d) (h : Accepted d p) {r' : DeviceRequest}
    (hr' : r' = (processSetup d (d.inRequest.loadIn p)).2) :
    Fresh d p ↔ ∃ reply, replyOf d p = some reply ∧
      slice r'.data 0 r'.wLength.toNat = reply.take p.wLength.toNat := by
  constructor
  · rintro ⟨reply, hreply, N, hN⟩
    refine ⟨reply, hreply, ?_⟩
    rw [← replyBytes_eq hd hbot h hr' (Nat.le_max_right N _), hN _ (Nat.le_max_left N _)]
  · rintro ⟨reply, hreply, heq⟩
    refine ⟨reply, hreply, 2 * r'.wLength.toNat + 2, fun n hn => ?_⟩
    rw [replyBytes_eq hd hbot h hr' hn, heq]

theorem slice_reply (r : DeviceRequest) (bytes : List UInt8) (h : bytes.length < 2 ^ 16) :
    slice (r.reply bytes).data 0 (r.reply bytes).wLength.toNat = bytes := by
  have hlen : (r.reply bytes).wLength.toNat = bytes.length := UInt16.toNat_ofNat_of_lt h
  rw [hlen]
  exact slice_store_same r.data 0 bytes

theorem slice_setByte (r : DeviceRequest) (b : UInt8) : slice (r.setByte b).data 0 1 = [b] :=
  slice_store_same r.data 0 [b]

theorem statusByte_isSome_iff : (statusByte d r).isSome ↔
    reqRecipMask r.bmRequestType = reqInterface ∨ reqRecipMask r.bmRequestType = reqDevice ∨
      reqRecipMask r.bmRequestType = reqEndpoint ∧ (d.epStatus r.epNum r.epDir).isSome := by
  unfold statusByte
  by_cases hi : reqRecipMask r.bmRequestType = reqInterface
  · rw [if_pos hi]
    exact iff_of_true rfl (.inl hi)
  by_cases hd : reqRecipMask r.bmRequestType = reqDevice
  · rw [if_neg hi, if_pos hd]
    exact iff_of_true rfl (.inr (.inl hd))
  rw [if_neg hi, if_neg hd, or_iff_right hi, or_iff_right hd]
  by_cases he : reqRecipMask r.bmRequestType = reqEndpoint
  · rw [if_pos he, Option.isSome_map, and_iff_right he]
  · rw [if_neg he]
    exact iff_of_false Bool.false_ne_true fun hc => he hc.1

/-- The two bytes that GET_STATUS sends. -/
theorem slice_fill (r : DeviceRequest) (b : UInt8) :
    slice (r.fill (some b)).data 0 2 = [b, r.data 1] := by
  show slice (store r.data 0 [b]) 0 (1 + 1) = _
  rw [slice_add, show slice (store r.data 0 [b]) 0 1 = [b] from slice_store_same r.data 0 [b],
    slice_store_disjoint (Or.inr (by simp))]
  rfl

/-- **A reply is fresh exactly if the handler fills it.** -/
theorem fresh_iff_filled (hd : Ep0Ok d) (hbot : BotClass d) (h : Accepted d p) :
    Fresh d p ↔ Filled d p := by
  rw [fresh_iff_slice hd hbot h rfl]
  obtain ⟨-, hst, hlen⟩ := h
  have hhandled := (processSetup_accepted hbot hst hlen).2
  set r := d.inRequest.loadIn p
  generalize (processSetup d r).2 = r' at hhandled hlen
  unfold replyOf Filled
  cases hhandled with
  | status ht hb hl =>
    have ht' : reqTypeMask p.bmRequestType = 0 := ht
    have hb' : p.bRequest = 0 := hb
    have hl' : p.wLength = 2 := hl
    have hbyte : statusByte d (blankRequest.load p) = statusByte d r := rfl
    have hsome := statusByte_isSome_iff (d := d) (r := r)
    have hlen' : ((r.fill (statusByte d r)).setStatus 0).wLength = 2 := by
      cases statusByte d r <;> exact hl
    rw [if_pos ht', if_pos hb', if_pos ht', hbyte, hlen', hl']
    cases hsb : statusByte d r with
    | none =>
      rw [hsb] at hsome
      refine iff_of_false nofun fun hc => ?_
      exact absurd (hsome.mpr (hc hb').2) (by decide)
    | some b =>
      rw [hsb] at hsome
      have hslice : slice ((r.fill (some b)).setStatus 0).data 0 (2 : UInt16).toNat =
          [b, d.inRequest.data 1] := slice_fill r b
      rw [hslice]
      constructor
      · rintro ⟨reply, hreply, heq⟩ -
        obtain rfl := Option.some.inj hreply
        exact ⟨(List.cons.inj (List.cons.inj heq).2).1, hsome.mp rfl⟩
      · intro hf
        refine ⟨[b, 0], rfl, ?_⟩
        rw [(hf hb').1]
        rfl
  | descriptor ht hb hr bytes hn =>
    have ht' : reqTypeMask p.bmRequestType = 0 := ht
    have hb' : p.bRequest = 6 := hb
    have hr' : reqRecipMask p.bmRequestType ≠ reqInterface := hr
    have hn' : namedDescriptor d (blankRequest.load p) = some bytes := hn
    have hne : p.bRequest ≠ 0 := by rw [hb']; decide
    rw [if_pos ht', if_neg hne, if_pos hb', if_neg hr', hn', if_pos ht']
    refine iff_of_true ⟨bytes, rfl, ?_⟩ fun hc => absurd hc hne
    refine slice_reply r (bytes.take p.wLength.toNat) ?_
    rw [List.length_take]
    exact lt_of_le_of_lt (Nat.min_le_left _ _) p.wLength.toNat_lt
  | configuration ht hb hl =>
    have ht' : reqTypeMask p.bmRequestType = 0 := ht
    have hb' : p.bRequest = 8 := hb
    have hl' : p.wLength = 1 := hl
    have hne : p.bRequest ≠ 0 := by rw [hb']; decide
    have hne6 : p.bRequest ≠ 6 := by rw [hb']; decide
    have hlen' : ((r.setByte d.cfgIndex).setStatus 0).wLength = 1 := hl
    rw [if_pos ht', if_neg hne, if_neg hne6, if_pos hb', if_pos ht', hl', hlen']
    exact iff_of_true ⟨[d.cfgIndex], rfl, slice_setByte r d.cfgIndex⟩ fun hc => absurd hc hne
  | maxLun ht hr hb =>
    have ht' : reqTypeMask p.bmRequestType = 1 := ht
    have hne : reqTypeMask p.bmRequestType ≠ 0 := by rw [ht']; decide
    have hb' : p.bRequest = 0xFE := hb
    rw [if_neg hne, if_pos ht', if_pos ⟨hr, hb'⟩, if_neg hne, if_pos ht']
    constructor
    · rintro ⟨reply, hreply, heq⟩
      obtain rfl := Option.some.inj hreply
      have hl := congrArg List.length heq
      rw [length_slice, List.length_take, List.length_singleton] at hl
      have hw : p.wLength.toNat = min p.wLength.toNat 1 := hl
      have h0 : p.wLength.toNat ≠ 0 := fun hc => hlen (UInt16.toNat_inj.mp hc)
      refine ⟨hb', UInt16.toNat_inj.mp ?_⟩
      show p.wLength.toNat = 1
      omega
    · rintro ⟨-, hl⟩
      have hlen' : ((r.setByte d.maxLUN).setStatus 0).wLength = 1 := hl
      rw [hlen', hl]
      exact ⟨[d.maxLUN], rfl, slice_setByte r d.maxLUN⟩
  | massReset ht hr hb =>
    have ht' : reqTypeMask p.bmRequestType = 1 := ht
    have hne : reqTypeMask p.bmRequestType ≠ 0 := by rw [ht']; decide
    have hb' : p.bRequest ≠ 0xFE := by
      rw [show p.bRequest = 0xFF from hb]
      decide
    rw [if_neg hne, if_pos ht', if_neg fun hc => hb' hc.2, if_neg hne, if_pos ht']
    exact iff_of_false nofun fun hc => hb' hc.1
  | properties ht hw =>
    have ht' : reqTypeMask p.bmRequestType = 2 := ht
    have hne : reqTypeMask p.bmRequestType ≠ 0 := by rw [ht']; decide
    have hne1 : reqTypeMask p.bmRequestType ≠ 1 := by rw [ht']; decide
    have hw' : p.wIndex = 0x05 ∧ p.bRequest = 0xA5 := hw
    rw [if_neg hne, if_neg hne1, if_pos ht', if_pos hw', if_neg hne, if_neg hne1]
    refine iff_of_true ⟨slice d.extProp 0 76, rfl, ?_⟩ trivial
    have htake : (slice d.extProp 0 76).take p.wLength.toNat =
        slice d.extProp 0 (min 76 p.wLength.toNat) := by
      rw [take_slice, Nat.min_comm]
    rw [htake]
    refine slice_reply r (slice d.extProp 0 (min 76 p.wLength.toNat)) ?_
    rw [length_slice]
    omega

end Replying

/-! ## Every history -/

/-- GET_DESCRIPTOR for the device descriptor. -/
def getDeviceDescriptor : SetupPacket := ⟨0x80, 6, 0x0100, 0, 18⟩

/-- GET_STATUS of the device. -/
def getStatus : SetupPacket := ⟨0x80, 0, 0, 0, 2⟩

theorem botClass_massDevice : BotClass massDevice := fun _ _ h => (Option.some.inj h).symm

end BmcUsb
