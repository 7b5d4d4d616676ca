import Bmc.Usb.Descriptors

/-!
# Configurations and bus resets

The functions of `coreusb.c` that walk over the endpoints of a configuration.

* `forEndpoints`: the loop over interfaces, endpoint numbers and directions;
* `usbCfgDevice`, `usbUnCfgDevice`, `usbConfigureFS`, `usbRestoreInitState`, `usbBusReset`;
* `Frame`, `QuietFrame`: what these functions leave alone, with one lemma for each of them;
* **`usbBusReset_isReset`**: a bus reset leaves endpoint 0 idle and both requests empty.
-/

namespace BmcUsb

open BmcLib

/-! ## The loop over the endpoints -/

/-- One round of the innermost loop; `n` counts the endpoints of the interface that are left. -/
def endpointRound (cfg iface epNum : UInt8) (f : UsbDev → ℕ → UInt8 → UInt8 → UsbDev)
    (s : UsbDev × UInt8) (dir : UInt8) : UsbDev × UInt8 :=
  match s.1.desc.getEndpointDesc cfg iface epNum dir with
  | none => s
  | some e => (f s.1 e epNum dir, s.2 - 1)

/-- The loops over the endpoint numbers and the two directions. -/
def interfaceRound (cfg : UInt8) (f : UsbDev → ℕ → UInt8 → UInt8 → UsbDev) (d : UsbDev) (iface : UInt8) :
    UsbDev :=
  ((List.range d.usbDevice.numEndpoints.toNat).foldl
    (fun s k => if s.2 = 0 then s
      else [dirOut, dirIn].foldl (endpointRound cfg iface (UInt8.ofNat (k + 1)) f) s)
    (d, d.desc.getNumEndpoints cfg iface)).1

/-- Run `f` on the endpoint descriptors of a configuration. -/
def forEndpoints (cfg : UInt8) (f : UsbDev → ℕ → UInt8 → UInt8 → UsbDev) (d : UsbDev) : UsbDev :=
  (List.range (d.desc.getNumInterfaces cfg).toNat).foldl
    (fun d i => interfaceRound cfg f d (UInt8.ofNat i)) d

/-- **Loop rule.** What one round keeps, the loop keeps; endpoint 0 is not among the rounds. -/
theorem forEndpoints_inv {P : UsbDev → Prop} {cfg : UInt8} {f : UsbDev → ℕ → UInt8 → UInt8 → UsbDev}
    (hf : ∀ d e n dir, n ≠ 0 → P d → P (f d e n dir)) {d : UsbDev} (hd : P d) : P (forEndpoints cfg f d) := by
  refine List.foldlRecOn _ _ hd fun d hd i _ => ?_
  refine List.foldlRecOn (motive := fun s : UsbDev × UInt8 => P s.1) _ _ hd fun s hs k hk => ?_
  split_ifs
  · exact hs
  have hk' : UInt8.ofNat (k + 1) ≠ 0 := by
    have h1 := List.mem_range.mp hk
    have h2 := d.usbDevice.numEndpoints.toNat_lt
    rw [ne_eq, ← UInt8.toNat_inj, UInt8.toNat_ofNat']
    show ¬ (k + 1) % 2 ^ 8 = 0
    omega
  refine List.foldlRecOn (motive := fun s : UsbDev × UInt8 => P s.1) _ _ hs fun s hs dir _ => ?_
  unfold endpointRound
  split
  · exact hs
  · exact hf _ _ _ _ hk' hs

/-! ## Configuring -/

/-- `GetEndPointBufSize`. -/
def getEndPointBufSize (d : UsbDev) (epNum epDir : UInt8) : UInt16 :=
  match d.epConfig.find? fun c => c.epNum = epNum && (c.epDir = epDir || c.epDir = configurable) with
  | none => 0
  | some c => c.epSize

/-- `EnableEndPoint` on an endpoint other than 0. -/
def enableEndPoint (d : UsbDev) (epNum epDir : UInt8) : UsbDev :=
  match getEndPointIndex d epNum epDir with
  | none => d
  | some i =>
    let max := d.desc.getMaxPacketSize d.cfgIndex epNum epDir
    let iface := d.desc.getInterface d.cfgIndex epNum epDir
    let e := { d.endPoint i with maxPacketSize := max, fifoSize := max * 2, interface := iface }
    match d.desc.getEndpointDesc d.cfgIndex iface epNum epDir with
    | none => d.setEp i e
    | some k =>
      let dir := if d.desc.descBuff (k + 2) &&& 0x80 ≠ 0 then dirIn else dirOut
      (d.setEp i { e with dir := dir }).call (.allocBuffer epNum e.fifoSize max dir
        (d.desc.getEndPointType d.cfgIndex epNum epDir))

/-- `UsbEnableAllEndPoints`. -/
def usbEnableAllEndPoints (d : UsbDev) : UsbDev :=
  (d.epConfig.take d.usbDevice.numEndpoints.toNat).foldl
    (fun d c => enableEndPoint d c.epNum (c.epDir >>> (7 : UInt8))) d

/-- Set the `Enabled` field of an endpoint. -/
def setEnabled (d : UsbDev) (epNum epDir enabled : UInt8) : UsbDev :=
  match getEndPointIndex d epNum epDir with
  | none => d
  | some i => d.setEp i { d.endPoint i with enabled := enabled }

/-- The round of `UsbCfgDevice`. -/
def cfgRound (d : UsbDev) (e : ℕ) (epNum _direction : UInt8) : UsbDev :=
  let dir := if d.desc.descBuff (e + 2) &&& 0x80 ≠ 0 then dirIn else dirOut
  let d := if d.usbDevice.usbHwEnableEp then
    d.call (.enableEp epNum dir (d.desc.descBuff (e + 3) &&& 0x03)) else d
  setEnabled d epNum dir 1

/-- `UsbCfgDevice`. -/
def usbCfgDevice (d : UsbDev) (cfgIndex : UInt16) : UsbDev :=
  let d := usbEnableAllEndPoints (d.setCfgIndex cfgIndex.toUInt8)
  forEndpoints cfgIndex.toUInt8 cfgRound d

/-- The round of `UsbUnCfgDevice`. -/
def unCfgRound (d : UsbDev) (e : ℕ) (epNum _direction : UInt8) : UsbDev :=
  let dir := if d.desc.descBuff (e + 2) &&& 0x80 ≠ 0 then dirIn else dirOut
  let d := if d.usbDevice.usbHwDisableEp then
    d.call (.disableEp epNum dir (d.desc.descBuff (e + 3) &&& 0x03)) else d
  setEnabled d epNum dir 0

/-- `UsbUnCfgDevice`. -/
def usbUnCfgDevice (d : UsbDev) : UsbDev :=
  if d.cfgIndex = 0 then d
  else forEndpoints d.cfgIndex unCfgRound (d.setCfgIndex 0)

/-- The largest packet of an endpoint type at full speed. -/
def fullSpeedMax (type : UInt8) : UInt16 := if type = 1 then 1023 else 64

/-- The round of `UsbConfigureFS`. -/
def configureFSRound (d : UsbDev) (e : ℕ) (epNum _direction : UInt8) : UsbDev :=
  let type := d.desc.descBuff (e + 3) &&& 0x03
  let dir := if d.desc.descBuff (e + 2) &&& 0x80 ≠ 0 then dirIn else dirOut
  let size := min (getEndPointBufSize d epNum (dir <<< 7)) (fullSpeedMax type)
  { d with desc := d.desc.setWord (e + 4) size.toUInt8 (size >>> 8).toUInt8 }

/-- The configurations, numbered from 1. -/
def forConfigs (f : UsbDev → UInt8 → UsbDev) (d : UsbDev) : UsbDev :=
  (List.range d.desc.getNumConfigurations.toNat).foldl (fun d k => f d (UInt8.ofNat (k + 1))) d

/-- `UsbConfigureFS`. -/
def usbConfigureFS (d : UsbDev) : UsbDev :=
  let d := d.setEp 0 { d.endPoint 0 with maxPacketSize := d.usbDevice.ep0Size }
  match d.desc.getDeviceDesc with
  | none => d
  | some _ =>
    let lo := if d.isDevHid then 0x00 else 0x10
    let hi := if d.isDevHid then 0x02 else 0x01
    let desc := d.desc.setWord 2 lo hi
    let desc := { desc with
      descBuff := store desc.descBuff 7 [d.usbDevice.ep0Size.toUInt8] }
    forConfigs (fun d cfg => forEndpoints cfg configureFSRound d) { d with desc := desc }

/-- A request after a bus reset. -/
def DeviceRequest.reset (r : DeviceRequest) : DeviceRequest := { r with dataLen := 0, wLength := 0 }

/-- Mark every endpoint as idle. -/
def UsbDev.idleAll (d : UsbDev) : UsbDev :=
  { d with endPoint := fun i =>
      if i < (d.usbDevice.numEndpoints + 2).toNat then
        { d.endPoint i with txReady := 1, txData := none } else d.endPoint i }

/-- `UsbRestoreInitState`. The disconnect handlers of the interfaces have no access to endpoint 0. -/
def usbRestoreInitState (d : UsbDev) : UsbDev :=
  let d := (usbUnCfgDevice d).call (.setAddr 0 1)
  usbConfigureFS
    ((d.setInRequest d.inRequest.reset).setOutRequest d.outRequest.reset).idleAll

/-- The round of `UsbBusReset`: wake up the writer that sleeps on the endpoint. -/
def busResetRound (d : UsbDev) (_e : ℕ) (epNum direction : UInt8) : UsbDev :=
  match getEndPointIndex d epNum direction with
  | none => d
  | some i => d.call (.wakeup i)

/-- `UsbBusReset`. -/
def usbBusReset (d : UsbDev) : UsbDev :=
  let d := if d.devUsbMiscActions then d.call (.miscActions 0 3) else d
  let d := (usbRestoreInitState (d.setSuspend 0)).setCfgIndex 0
  forConfigs (fun d cfg => forEndpoints cfg busResetRound d) d

/-- `UsbBusDisconnect`. -/
def usbBusDisconnect (d : UsbDev) : UsbDev := usbRestoreInitState d

/-- `UsbBusSuspend`; the writers that sleep are woken up. -/
def usbBusSuspend (d : UsbDev) : UsbDev :=
  forConfigs (fun d cfg => forEndpoints cfg busResetRound d) (d.setSuspend 1)

/-- `UsbBusResume`. -/
def usbBusResume (d : UsbDev) : UsbDev := d.setSuspend 0

/-! ## What these functions leave alone -/

/-- The calls that a host notices on endpoint 0: a packet or a stall. -/
def HwOp.OnEp0 : HwOp → Prop
  | .write ep _ => ep = 0
  | .stall ep _ => ep = 0
  | _ => False

/-- The calls recorded since `d` leave endpoint 0 in peace. -/
def QuietSince (d d' : UsbDev) : Prop := ∃ l, d'.ops = d.ops ++ l ∧ ∀ op ∈ l, ¬ op.OnEp0

/-- **The frame of the request handlers**: the two requests, and the entries of endpoint 0. -/
structure Frame (d d' : UsbDev) : Prop where
  usbDevice : d'.usbDevice = d.usbDevice
  classReqHandler : d'.classReqHandler = d.classReqHandler
  maxLUN : d'.maxLUN = d.maxLUN
  accesses : d'.accesses = d.accesses
  ops : d.ops <+: d'.ops
  inRequest : d'.inRequest = d.inRequest
  outRequest : d'.outRequest = d.outRequest
  epNum : ∀ i, (d'.endPoint i).epNum = (d.endPoint i).epNum
  ep0 : ∀ i, (d.endPoint i).epNum = 0 → d'.endPoint i = d.endPoint i

/-- The frame of the functions that also make no call on endpoint 0. -/
structure QuietFrame (d d' : UsbDev) : Prop extends Frame d d' where
  quiet : QuietSince d d'

section Frame

variable {d d' d'' : UsbDev} {op : HwOp} {i : ℕ} {e : EndpointInfo}

theorem QuietSince.refl (d : UsbDev) : QuietSince d d := ⟨[], (List.append_nil _).symm, by simp⟩

theorem QuietSince.trans (h : QuietSince d d') (h' : QuietSince d' d'') : QuietSince d d'' := by
  obtain ⟨l, hl, hq⟩ := h
  obtain ⟨l', hl', hq'⟩ := h'
  refine ⟨l ++ l', by rw [hl', hl, List.append_assoc], fun op hop => ?_⟩
  rcases List.mem_append.mp hop with h | h
  · exact hq op h
  · exact hq' op h

theorem QuietSince.of_eq (h : d'.ops = d.ops) : QuietSince d d' :=
  ⟨[], by rw [h, List.append_nil], by simp⟩

theorem QuietSince.call (d : UsbDev) (h : ¬ op.OnEp0) : QuietSince d (d.call op) :=
  ⟨[op], rfl, by simpa using h⟩

theorem Frame.refl (d : UsbDev) : Frame d d :=
  ⟨rfl, rfl, rfl, rfl, List.prefix_rfl, rfl, rfl, fun _ => rfl, fun _ _ => rfl⟩

theorem Frame.trans (h : Frame d d') (h' : Frame d' d'') : Frame d d'' where
  usbDevice := h'.usbDevice.trans h.usbDevice
  classReqHandler := h'.classReqHandler.trans h.classReqHandler
  maxLUN := h'.maxLUN.trans h.maxLUN
  accesses := h'.accesses.trans h.accesses
  ops := h.ops.trans h'.ops
  inRequest := h'.inRequest.trans h.inRequest
  outRequest := h'.outRequest.trans h.outRequest
  epNum i := (h'.epNum i).trans (h.epNum i)
  ep0 i hi := (h'.ep0 i ((h.epNum i).trans hi)).trans (h.ep0 i hi)

theorem Frame.call (d : UsbDev) (op : HwOp) : Frame d (d.call op) :=
  ⟨rfl, rfl, rfl, rfl, List.prefix_append _ _, rfl, rfl, fun _ => rfl, fun _ _ => rfl⟩

theorem QuietFrame.refl (d : UsbDev) : QuietFrame d d := ⟨.refl d, .refl d⟩

theorem QuietFrame.trans (h : QuietFrame d d') (h' : QuietFrame d' d'') : QuietFrame d d'' :=
  ⟨h.toFrame.trans h'.toFrame, h.quiet.trans h'.quiet⟩

theorem QuietFrame.call (d : UsbDev) (h : ¬ op.OnEp0) : QuietFrame d (d.call op) :=
  ⟨.call d op, .call d h⟩

theorem QuietFrame.ite_call (d : UsbDev) (c : Prop) [Decidable c] (h : ¬ op.OnEp0) :
    QuietFrame d (if c then d.call op else d) := by
  split
  · exact .call d h
  · exact .refl d

/-- An entry of another endpoint may change, except for its number. -/
theorem QuietFrame.setEp (hi : (d.endPoint i).epNum ≠ 0) (he : e.epNum = (d.endPoint i).epNum) :
    QuietFrame d (d.setEp i e) := by
  refine ⟨⟨rfl, rfl, rfl, rfl, List.prefix_rfl, rfl, rfl, fun j => ?_, fun j hj => ?_⟩, .of_eq rfl⟩
  · by_cases h : j = i
    · subst h
      rw [UsbDev.setEp_self, he]
    · rw [UsbDev.setEp_of_ne _ _ _ h]
  · refine UsbDev.setEp_of_ne _ _ _ ?_
    rintro rfl
    exact hi hj

theorem enableEndPoint_frame {n dir : UInt8} (hn : n ≠ 0) : QuietFrame d (enableEndPoint d n dir) := by
  unfold enableEndPoint
  split
  · exact .refl d
  next i hi =>
    have hne : (d.endPoint i).epNum ≠ 0 := by rwa [getEndPointIndex_epNum hi]
    simp only
    split
    · exact .setEp hne rfl
    · refine QuietFrame.trans ?_ (.call _ id)
      exact .setEp hne rfl

theorem usbEnableAllEndPoints_frame : QuietFrame d (usbEnableAllEndPoints d) :=
  List.foldlRecOn _ _ (.refl d) fun _ h c _ => h.trans (enableEndPoint_frame c.epNum_ne)

theorem setEnabled_frame {n dir b : UInt8} (hn : n ≠ 0) : QuietFrame d (setEnabled d n dir b) := by
  unfold setEnabled
  split
  · exact .refl d
  next i hi => exact .setEp (by rwa [getEndPointIndex_epNum hi]) rfl

theorem cfgRound_frame {k : ℕ} {n dir : UInt8} (hn : n ≠ 0) : QuietFrame d (cfgRound d k n dir) := by
  unfold cfgRound
  exact (QuietFrame.ite_call d _ id).trans (setEnabled_frame hn)

theorem unCfgRound_frame {k : ℕ} {n dir : UInt8} (hn : n ≠ 0) : QuietFrame d (unCfgRound d k n dir) := by
  unfold unCfgRound
  exact (QuietFrame.ite_call d _ id).trans (setEnabled_frame hn)

theorem busResetRound_frame {k : ℕ} {n dir : UInt8} : QuietFrame d (busResetRound d k n dir) := by
  unfold busResetRound
  split
  · exact .refl d
  · exact .call d id

/-- A loop over the endpoints keeps the frame if its rounds do. -/
theorem forEndpoints_frame {cfg : UInt8} {f : UsbDev → ℕ → UInt8 → UInt8 → UsbDev}
    (hf : ∀ d k n dir, n ≠ 0 → QuietFrame d (f d k n dir)) : QuietFrame d (forEndpoints cfg f d) :=
  forEndpoints_inv (fun x k n dir hn h => h.trans (hf x k n dir hn)) (.refl d)

theorem forConfigs_frame {f : UsbDev → UInt8 → UsbDev} (hf : ∀ d cfg, QuietFrame d (f d cfg)) :
    QuietFrame d (forConfigs f d) :=
  List.foldlRecOn _ _ (.refl d) fun _ h _ _ => h.trans (hf _ _)

theorem setCfgIndex_frame (v : UInt8) : QuietFrame d (d.setCfgIndex v) :=
  ⟨⟨rfl, rfl, rfl, rfl, List.prefix_rfl, rfl, rfl, fun _ => rfl, fun _ _ => rfl⟩, .of_eq rfl⟩

theorem setSuspend_frame (v : UInt8) : QuietFrame d (d.setSuspend v) :=
  ⟨⟨rfl, rfl, rfl, rfl, List.prefix_rfl, rfl, rfl, fun _ => rfl, fun _ _ => rfl⟩, .of_eq rfl⟩

theorem usbCfgDevice_frame (v : UInt16) : QuietFrame d (usbCfgDevice d v) :=
  ((setCfgIndex_frame _).trans usbEnableAllEndPoints_frame).trans
    (forEndpoints_frame fun _ _ _ _ hn => cfgRound_frame hn)

theorem usbUnCfgDevice_frame : QuietFrame d (usbUnCfgDevice d) := by
  unfold usbUnCfgDevice
  split_ifs
  · exact .refl d
  · exact (setCfgIndex_frame 0).trans (forEndpoints_frame fun _ _ _ _ hn => unCfgRound_frame hn)

theorem setDesc_frame (t : DescTable) : QuietFrame d { d with desc := t } :=
  ⟨⟨rfl, rfl, rfl, rfl, List.prefix_rfl, rfl, rfl, fun _ => rfl, fun _ _ => rfl⟩, .of_eq rfl⟩

/-- `UsbConfigureFS` changes one field of the first entry. -/
theorem usbConfigureFS_frame :
    QuietFrame (d.setEp 0 { d.endPoint 0 with maxPacketSize := d.usbDevice.ep0Size })
      (usbConfigureFS d) := by
  unfold usbConfigureFS
  simp only
  split
  · exact .refl _
  · exact (setDesc_frame _).trans
      (forConfigs_frame fun _ _ => forEndpoints_frame fun _ _ _ _ _ => setDesc_frame _)

/-- The entry of endpoint 0 after a bus reset. -/
def EndpointInfo.reset (e : EndpointInfo) (hw : UsbHw) : EndpointInfo :=
  { e with txReady := 1, txData := none, maxPacketSize := hw.ep0Size }

/-- **What a bus reset does to endpoint 0.** -/
structure IsReset (d d' : UsbDev) : Prop where
  usbDevice : d'.usbDevice = d.usbDevice
  classReqHandler : d'.classReqHandler = d.classReqHandler
  maxLUN : d'.maxLUN = d.maxLUN
  accesses : d'.accesses = d.accesses
  inRequest : d'.inRequest = d.inRequest.reset
  outRequest : d'.outRequest = d.outRequest.reset
  epNum : ∀ i, (d'.endPoint i).epNum = (d.endPoint i).epNum
  ep0 : d'.endPoint 0 = (d.endPoint 0).reset d.usbDevice
  quiet : QuietSince d d'

theorem IsReset.frame (h : IsReset d d') (h0 : (d.endPoint 0).epNum = 0)
    (hf : QuietFrame d' d'') : IsReset d d'' where
  usbDevice := hf.usbDevice.trans h.usbDevice
  classReqHandler := hf.classReqHandler.trans h.classReqHandler
  maxLUN := hf.maxLUN.trans h.maxLUN
  accesses := hf.accesses.trans h.accesses
  inRequest := hf.inRequest.trans h.inRequest
  outRequest := hf.outRequest.trans h.outRequest
  epNum i := (hf.epNum i).trans (h.epNum i)
  ep0 := (hf.ep0 0 ((h.epNum 0).trans h0)).trans h.ep0
  quiet := h.quiet.trans hf.quiet

theorem UsbDev.idleAll_zero (hn : 0 < (d.usbDevice.numEndpoints + 2).toNat) :
    d.idleAll.endPoint 0 = { d.endPoint 0 with txReady := 1, txData := none } := if_pos hn

theorem UsbDev.idleAll_epNum : (d.idleAll.endPoint i).epNum = (d.endPoint i).epNum := by
  simp only [idleAll]
  split_ifs <;> rfl

theorem QuietFrame.isReset (h0 : (d.endPoint 0).epNum = 0) (hf : QuietFrame d d')
    (h : IsReset d' d'') : IsReset d d'' where
  usbDevice := h.usbDevice.trans hf.usbDevice
  classReqHandler := h.classReqHandler.trans hf.classReqHandler
  maxLUN := h.maxLUN.trans hf.maxLUN
  accesses := h.accesses.trans hf.accesses
  inRequest := h.inRequest.trans (congrArg _ hf.inRequest)
  outRequest := h.outRequest.trans (congrArg _ hf.outRequest)
  epNum i := (h.epNum i).trans (hf.epNum i)
  ep0 := by rw [h.ep0, hf.ep0 0 h0, hf.usbDevice]
  quiet := hf.quiet.trans h.quiet

/-- The device when `UsbRestoreInitState` has cleared the requests and the endpoints, and endpoint 0
has got the packet size of the hardware. -/
theorem isReset_clear (h0 : (d.endPoint 0).epNum = 0) (hn : 0 < (d.usbDevice.numEndpoints + 2).toNat)
    (hf : QuietFrame d d') {x : UsbDev}
    (hx : x = ((d'.setInRequest d'.inRequest.reset).setOutRequest d'.outRequest.reset).idleAll) :
    IsReset d (x.setEp 0 { x.endPoint 0 with maxPacketSize := x.usbDevice.ep0Size }) := by
  subst hx
  refine ⟨hf.usbDevice, hf.classReqHandler, hf.maxLUN, hf.accesses, ?_, ?_, fun i => ?_, ?_, ?_⟩
  · exact congrArg DeviceRequest.reset hf.inRequest
  · exact congrArg DeviceRequest.reset hf.outRequest
  · rw [← hf.epNum]
    by_cases hi : i = 0
    · subst hi
      rw [UsbDev.setEp_self]
      exact UsbDev.idleAll_epNum
    · rw [UsbDev.setEp_of_ne _ _ _ hi]
      exact UsbDev.idleAll_epNum
  · rw [UsbDev.setEp_self, UsbDev.idleAll_zero (by rwa [← hf.usbDevice] at hn)]
    simp only [UsbDev.setOutRequest, UsbDev.setInRequest, UsbDev.idleAll, hf.ep0 0 h0, hf.usbDevice]
    rfl
  · exact hf.quiet.trans (.of_eq rfl)

theorem usbRestoreInitState_isReset (h0 : (d.endPoint 0).epNum = 0)
    (hn : 0 < (d.usbDevice.numEndpoints + 2).toNat) : IsReset d (usbRestoreInitState d) := by
  have hf : QuietFrame d ((usbUnCfgDevice d).call (.setAddr 0 1)) :=
    usbUnCfgDevice_frame.trans (.call _ id)
  exact (isReset_clear h0 hn hf rfl).frame h0 usbConfigureFS_frame

/-- **A bus reset leaves endpoint 0 idle and both requests empty.** -/
theorem usbBusReset_isReset (h0 : (d.endPoint 0).epNum = 0)
    (hn : 0 < (d.usbDevice.numEndpoints + 2).toNat) : IsReset d (usbBusReset d) := by
  have h1 : QuietFrame d (if d.devUsbMiscActions then d.call (.miscActions 0 3) else d) :=
    .ite_call d _ id
  have h2 := h1.trans (setSuspend_frame 0)
  have hrestore := usbRestoreInitState_isReset ((h2.epNum 0).trans h0) (by rwa [h2.usbDevice])
  have hwake : ∀ x : UsbDev, QuietFrame x (forConfigs (fun d cfg => forEndpoints cfg busResetRound d) x) :=
    fun x => forConfigs_frame fun _ _ => forEndpoints_frame fun _ _ _ _ _ => busResetRound_frame
  unfold usbBusReset
  exact (h2.isReset h0 hrestore).frame h0 ((setCfgIndex_frame 0).trans (hwake _))

end Frame

end BmcUsb
