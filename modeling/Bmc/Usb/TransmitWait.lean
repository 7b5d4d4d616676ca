import Bmc.Usb.Control

/-!
# Waiting for a transmission

A write that sleeps until its transmission is complete, while interrupts and other writers change the device.

* `Settled`: an endpoint that is ready transmits nothing; **`UsbEvent.settles`**: every event keeps that;
* `usbOsSleepOnTimeout`: how the sleep ends;
* **`usbWriteData_idle_iff`**: the write leaves its endpoint idle exactly when no signal ends the sleep early.
-/

namespace BmcUsb

open BmcLib

/-! ## What happens during the sleep -/

/-- What changes the device while a writer sleeps: the transfers on endpoint 0, a completed packet, the events of the bus, and
other writers, which start a write or give one up. -/
inductive UsbEvent where
  | ep0 (e : Ep0Event)
  | txDone (ep : UInt8)
  | busDisconnect
  | busSuspend
  | busResume
  | write (blocking : Bool) (ep : UInt8) (buffer : DataPtr) (len : UInt32) (zero : UInt8)
  | giveUp (i : ℕ)

/-- The entry of an endpoint when its writer gives up. -/
def EndpointInfo.giveUp (e : EndpointInfo) : EndpointInfo := { e with txData := none, txReady := 1 }

/-- The device after an event. -/
def usbEventStep (d : UsbDev) : UsbEvent → UsbDev
  | .ep0 e => ep0Step d e
  | .txDone ep => (usbTxHandler d ep).2
  | .busDisconnect => usbBusDisconnect d
  | .busSuspend => usbBusSuspend d
  | .busResume => usbBusResume d
  | .write blocking ep buffer len zero => (startWrite blocking d ep buffer len zero).getD d
  | .giveUp i => d.setEp i (d.endPoint i).giveUp

/-! ## Endpoints that are ready -/

/-- An endpoint that is ready transmits nothing. -/
def EndpointInfo.Settled (e : EndpointInfo) : Prop := e.txReady = 0 ∨ e.Idle

/-- Endpoints stay settled from `d` to `d'`. -/
def KeepsSettled (d d' : UsbDev) : Prop := ∀ i, (d.endPoint i).Settled → (d'.endPoint i).Settled

section KeepsSettled

variable {d d' d'' : UsbDev} {e : EndpointInfo} {i : ℕ} {ep : UInt8}

theorem KeepsSettled.refl (d : UsbDev) : KeepsSettled d d := fun _ h => h

theorem KeepsSettled.trans (h : KeepsSettled d d') (h' : KeepsSettled d' d'') : KeepsSettled d d'' := fun i hi => h' i (h i hi)

/-- The same, with the later part first. -/
theorem KeepsSettled.comp (h' : KeepsSettled d' d'') (h : KeepsSettled d d') : KeepsSettled d d'' := h.trans h'

/-- The endpoints are the same. -/
theorem KeepsSettled.of_eq (h : d'.endPoint = d.endPoint) : KeepsSettled d d' := fun i hi => by rwa [h]

theorem KeepsSettled.call (d : UsbDev) (op : HwOp) : KeepsSettled d (d.call op) := .of_eq rfl

theorem KeepsSettled.ite_call (d : UsbDev) (c : Prop) [Decidable c] (op : HwOp) :
    KeepsSettled d (if c then d.call op else d) := by
  split_ifs
  · exact .call d op
  · exact .refl d

theorem KeepsSettled.setEp (he : (d.endPoint i).Settled → e.Settled) : KeepsSettled d (d.setEp i e) := by
  intro j hj
  rcases eq_or_ne j i with rfl | hne
  · rw [UsbDev.setEp_self]
    exact he hj
  · rwa [UsbDev.setEp_of_ne _ _ _ hne]

theorem KeepsSettled.foldl {α : Type*} {f : UsbDev → α → UsbDev} (hf : ∀ d a, KeepsSettled d (f d a)) (as : List α)
    (d : UsbDev) : KeepsSettled d (as.foldl f d) :=
  List.foldlRecOn _ _ (.refl d) fun _ h _ _ => h.trans (hf _ _)

theorem KeepsSettled.forEndpoints {cfg : UInt8} {f : UsbDev → ℕ → UInt8 → UInt8 → UsbDev}
    (hf : ∀ d k n dir, KeepsSettled d (f d k n dir)) (d : UsbDev) : KeepsSettled d (forEndpoints cfg f d) :=
  forEndpoints_inv (fun _ _ _ _ _ h => h.trans (hf _ _ _ _)) (.refl d)

theorem KeepsSettled.forConfigs {f : UsbDev → UInt8 → UsbDev} (hf : ∀ d cfg, KeepsSettled d (f d cfg)) (d : UsbDev) :
    KeepsSettled d (forConfigs f d) :=
  .foldl (fun _ _ => hf _ _) _ d

/-! ## Configuring and the bus -/

theorem enableEndPoint_settles (d : UsbDev) (n dir : UInt8) : KeepsSettled d (enableEndPoint d n dir) := by
  unfold enableEndPoint
  split
  · exact .refl d
  · dsimp only
    split
    · exact .setEp id
    · exact (KeepsSettled.call _ _).comp (.setEp id)

theorem setEnabled_settles (d : UsbDev) (n dir b : UInt8) : KeepsSettled d (setEnabled d n dir b) := by
  unfold setEnabled
  split
  · exact .refl d
  · exact .setEp id

theorem cfgRound_settles (d : UsbDev) (k : ℕ) (n dir : UInt8) : KeepsSettled d (cfgRound d k n dir) := by
  unfold cfgRound
  exact (KeepsSettled.ite_call d _ _).trans (setEnabled_settles _ _ _ _)

theorem unCfgRound_settles (d : UsbDev) (k : ℕ) (n dir : UInt8) : KeepsSettled d (unCfgRound d k n dir) := by
  unfold unCfgRound
  exact (KeepsSettled.ite_call d _ _).trans (setEnabled_settles _ _ _ _)

theorem usbEnableAllEndPoints_settles (d : UsbDev) : KeepsSettled d (usbEnableAllEndPoints d) :=
  .foldl (fun _ _ => enableEndPoint_settles _ _ _) _ d

theorem usbCfgDevice_settles (d : UsbDev) (v : UInt16) : KeepsSettled d (usbCfgDevice d v) :=
  (KeepsSettled.forEndpoints cfgRound_settles _).comp ((usbEnableAllEndPoints_settles _).comp (.of_eq rfl))

theorem usbUnCfgDevice_settles (d : UsbDev) : KeepsSettled d (usbUnCfgDevice d) := by
  unfold usbUnCfgDevice
  split_ifs
  · exact .refl d
  · exact (KeepsSettled.forEndpoints unCfgRound_settles _).comp (.of_eq rfl)

theorem setDesc_settles (d : UsbDev) (t : DescTable) : KeepsSettled d { d with desc := t } := .of_eq rfl

theorem usbConfigureFS_settles (d : UsbDev) : KeepsSettled d (usbConfigureFS d) := by
  have hsize : KeepsSettled d (d.setEp 0 { d.endPoint 0 with maxPacketSize := d.usbDevice.ep0Size }) := .setEp id
  have hrounds : ∀ d, KeepsSettled d (forConfigs (fun d cfg => forEndpoints cfg configureFSRound d) d) := fun d =>
    .forConfigs (fun d cfg => .forEndpoints (fun d k n dir => setDesc_settles d _) d) d
  refine hsize.trans ?_
  unfold usbConfigureFS
  dsimp only
  split
  · exact .refl _
  · exact (setDesc_settles _ _).trans (hrounds _)

theorem idleAll_settles (d : UsbDev) : KeepsSettled d d.idleAll := by
  intro i hi
  rw [UsbDev.idleAll]
  dsimp only
  split_ifs
  · exact .inr ⟨rfl, rfl⟩
  · exact hi

theorem usbRestoreInitState_settles (d : UsbDev) : KeepsSettled d (usbRestoreInitState d) :=
  (usbConfigureFS_settles _).comp ((idleAll_settles _).comp (.comp (.of_eq rfl) (usbUnCfgDevice_settles d)))

theorem wakeup_settles (d : UsbDev) : KeepsSettled d (forConfigs (fun d cfg => forEndpoints cfg busResetRound d) d) := by
  refine .forConfigs (fun d cfg => .forEndpoints (fun d k n dir => ?_) d) d
  unfold busResetRound
  split
  · exact .refl d
  · exact .call d _

theorem usbBusReset_settles (d : UsbDev) : KeepsSettled d (usbBusReset d) := by
  have hcall : KeepsSettled d (if d.devUsbMiscActions then d.call (.miscActions 0 3) else d) := .ite_call d _ _
  have hrestore : ∀ d, KeepsSettled d ((usbRestoreInitState (d.setSuspend 0)).setCfgIndex 0) := fun d =>
    KeepsSettled.comp (.of_eq rfl) ((usbRestoreInitState_settles _).comp (.of_eq rfl))
  exact (wakeup_settles _).comp ((hrestore _).comp hcall)

/-! ## The requests -/

theorem usbSetRemoteWakeup_settles (d : UsbDev) (set : UInt8) : KeepsSettled d (usbSetRemoteWakeup d set) := by
  unfold usbSetRemoteWakeup
  split_ifs
  · exact .call d _
  · exact .of_eq rfl

/-- Only SET_CONFIGURATION changes an endpoint. -/
theorem processStandardRequest_settles (d : UsbDev) (r : DeviceRequest) : KeepsSettled d (processStandardRequest d r).1 := by
  have hclass : KeepsSettled d (processClassRequest d r).1 := by
    unfold processClassRequest
    split
    · exact .refl d
    · dsimp only
      split_ifs <;> exact .refl d
  unfold processStandardRequest
  split_ifs
  · unfold processGetStatus
    split_ifs <;> exact .refl d
  · unfold processSetAddress
    split_ifs
    · exact .refl d
    · exact .call d _
  · unfold processGetDescriptor
    split_ifs
    · exact hclass
    · split <;> exact .refl d
  · unfold processSetConfiguration
    split_ifs
    · exact .refl d
    · exact usbUnCfgDevice_settles d
    · exact usbCfgDevice_settles d _
  · unfold processGetConfiguration
    split_ifs <;> exact .refl d
  · unfold processClearFeature
    split_ifs
    · exact .refl d
    · exact .refl d
    · exact usbSetRemoteWakeup_settles d 0
    · exact .refl d
    · split
      · exact .refl d
      · split_ifs
        · exact (KeepsSettled.call d _).trans (.call _ _)
        · exact .call d _
        · exact .refl d
    · exact .refl d
    · exact .refl d
  · unfold processSetFeature
    split_ifs
    · exact .refl d
    · exact .refl d
    · exact usbSetRemoteWakeup_settles d 1
    · exact .refl d
    · exact .call d _
    · exact .refl d
    · exact .refl d
  · exact .refl d

theorem processSetup_settles (d : UsbDev) (r : DeviceRequest) : KeepsSettled d (processSetup d r).1 := by
  unfold processSetup
  split_ifs
  · exact processStandardRequest_settles d r
  · unfold processClassRequest
    split
    · exact .refl d
    · dsimp only
      split_ifs <;> exact .refl d
  · unfold processVendorRequest
    split_ifs <;> exact .refl d
  · exact .refl d

/-! ## The transmit path -/

/-- The data of an endpoint only gives way to none. -/
theorem handleTxData_settles (d : UsbDev) (ep : UInt8) (i : ℕ) : KeepsSettled d (handleTxData d ep i) := by
  have hsend : ∀ (pos : UInt32) (data : DataPtr) (op : HwOp), (data = none ∨ data = (d.endPoint i).txData) →
      KeepsSettled d ((d.setEp i { d.endPoint i with txDataPos := pos, txData := data }).call op) := by
    intro pos data op hdata
    refine KeepsSettled.trans (.setEp fun hi => ?_) (.call _ op)
    refine hi.imp id fun hidle => ⟨?_, hidle.2⟩
    rcases hdata with rfl | rfl
    · rfl
    · exact hidle.1
  unfold handleTxData
  dsimp only
  split_ifs
  · exact hsend _ _ _ (.inl rfl)
  · exact hsend _ _ _ (.inr rfl)
  · exact hsend _ _ _ (.inl rfl)
  · exact hsend _ _ _ (.inl rfl)
  · exact .refl d

theorem startWrite_settles {b : Bool} {buffer : DataPtr} {len : UInt32} {zero : UInt8}
    (h : startWrite b d ep buffer len zero = some d') : KeepsSettled d d' := by
  unfold startWrite at h
  split at h
  · cases h
  next i _ =>
    split_ifs at h
    obtain rfl := Option.some.inj h
    have hload : KeepsSettled d (loadTx d i buffer len zero) := .setEp fun _ => .inl rfl
    exact (handleTxData_settles _ ep i).comp (.comp (.of_eq rfl) hload)

theorem usbWriteDataNonBlock_settles (d : UsbDev) (ep : UInt8) (buffer : DataPtr) (len : UInt32) (zero : UInt8) :
    KeepsSettled d (usbWriteDataNonBlock d ep buffer len zero).2 := by
  unfold usbWriteDataNonBlock
  split
  · exact .refl d
  next h => exact startWrite_settles h

theorem usbCompleteRequest_settles (d : UsbDev) (r : DeviceRequest) : KeepsSettled d (usbCompleteRequest d r) := by
  unfold usbCompleteRequest
  split_ifs
  · exact .call d _
  · exact (KeepsSettled.call d _).trans (.call _ _)
  · unfold usbWriteData
    split
    · exact .refl d
    next h => exact startWrite_settles h
  · exact .refl d

theorem sendPendingEP0Data_settles (d : UsbDev) : KeepsSettled d (sendPendingEP0Data d) := by
  have hcontinue : ∀ d, KeepsSettled d (continueInRequest d) := by
    intro d
    unfold continueInRequest
    split_ifs
    · exact usbCompleteRequest_settles d _
    · exact (usbWriteDataNonBlock_settles _ _ _ _ _).comp (.of_eq rfl)
  unfold sendPendingEP0Data
  refine (hcontinue _).comp ?_
  split_ifs
  · exact .of_eq rfl
  · exact .refl d

theorem callInterfaceTxHandler_settles (d : UsbDev) (ep : UInt8) : KeepsSettled d (callInterfaceTxHandler d ep) := by
  unfold callInterfaceTxHandler
  dsimp only
  split_ifs
  · exact sendPendingEP0Data_settles d
  · exact .refl d
  · exact .refl d
  · exact .call d _
  · exact .refl d

/-- **A completed packet**: an endpoint becomes ready when its data is gone. -/
theorem usbTxHandler_settles (d : UsbDev) (ep : UInt8) : KeepsSettled d (usbTxHandler d ep).2 := by
  unfold usbTxHandler
  split
  · exact .refl d
  next i _ =>
    split_ifs with hdata
    · have hready : KeepsSettled d (d.setEp i { d.endPoint i with txReady := 1 }) :=
        .setEp fun _ => .inr ⟨Option.isNone_iff_eq_none.1 hdata, rfl⟩
      have hend : KeepsSettled d (endOfTransmission d ep i) :=
        (KeepsSettled.ite_call _ _ _).comp ((KeepsSettled.ite_call _ _ _).comp hready)
      exact (callInterfaceTxHandler_settles _ ep).comp hend
    · exact handleTxData_settles d ep i

theorem ep0Step_settles (d : UsbDev) (e : Ep0Event) : KeepsSettled d (ep0Step d e) := by
  have hfinish : ∀ d, KeepsSettled d (finishOutRequest d) := fun d =>
    (usbCompleteRequest_settles _ _).comp (.comp (.of_eq rfl) (processSetup_settles d _))
  cases e with
  | setup p =>
    rw [ep0Step]
    split_ifs
    · unfold usbRxSetupIn
      dsimp only
      split_ifs
      · exact (usbCompleteRequest_settles _ _).comp (.comp (.of_eq rfl) (processSetup_settles d _))
      · exact (sendPendingEP0Data_settles _).comp (.comp (.of_eq rfl) (processSetup_settles d _))
    · unfold usbRxSetupOut
      dsimp only
      split_ifs
      · exact (hfinish _).comp (.of_eq rfl)
      · exact .of_eq rfl
  | data packet =>
    rw [ep0Step]
    unfold usbRxData
    dsimp only
    split_ifs
    · exact .refl d
    · exact (hfinish _).comp (.of_eq rfl)
    · exact .of_eq rfl
  | txDone => exact usbTxHandler_settles d 0
  | busReset => exact usbBusReset_settles d

/-- **Every event** keeps endpoints settled. -/
theorem UsbEvent.settles (d : UsbDev) (event : UsbEvent) : KeepsSettled d (usbEventStep d event) := by
  cases event with
  | ep0 e => exact ep0Step_settles d e
  | txDone ep => exact usbTxHandler_settles d ep
  | busDisconnect => exact usbRestoreInitState_settles d
  | busSuspend => exact (wakeup_settles _).comp (.of_eq rfl)
  | busResume => exact .of_eq rfl
  | write b ep buffer len zero =>
    rw [usbEventStep]
    rcases hstart : startWrite b d ep buffer len zero with - | d'
    · exact .refl d
    · exact startWrite_settles hstart
  | giveUp i => exact .setEp fun _ => .inr ⟨rfl, rfl⟩

/-- **All events** of a sleep keep endpoints settled. -/
theorem usbEventRun_settles (d : UsbDev) (events : List UsbEvent) : KeepsSettled d (events.foldl usbEventStep d) :=
  .foldl UsbEvent.settles events d

end KeepsSettled

/-! ## The end of the sleep -/

/-- `TRANSMIT_TIMEOUT` -/
abbrev transmitTimeout : ℤ := 45000

/-- What ends a sleep whose condition does not hold. -/
inductive Wake where
  | timeout | signal
  deriving DecidableEq

/-- `Usb_OsSleepOnTimeout` when the sleep ends with the condition `var`: the time that remains, zero for a timeout, and
`-ERESTARTSYS` for a signal. A sleep without a timeout has the result 1. -/
def usbOsSleepOnTimeout (var : UInt8) (msecs remaining : ℤ) (wake : Wake) : ℤ :=
  if msecs = 0 then 1
  else if var ≠ 0 then max 1 remaining
  else
    match wake with
    | .timeout => 0
    | .signal => -512

/-- `UsbWriteData` when the events of its sleep and its end are given. -/
def usbWriteDataWait (events : List UsbEvent) (remaining : ℤ) (wake : Wake) (d : UsbDev) (ep : UInt8) (i : ℕ) (buffer : DataPtr)
    (len : UInt32) (zero : UInt8) : ℤ × UsbDev :=
  let during := fun d => events.foldl usbEventStep d
  let woken := during ((startWrite true d ep buffer len zero).getD d)
  usbWriteData during (usbOsSleepOnTimeout (woken.endPoint i).txReady transmitTimeout remaining wake) d ep buffer len zero

section Wait

variable {d d₁ : UsbDev} {ep : UInt8} {i : ℕ} {buffer : DataPtr} {len : UInt32} {zero : UInt8}

theorem handleTxData_isDevHid (d : UsbDev) (ep : UInt8) (i : ℕ) : (handleTxData d ep i).isDevHid = d.isDevHid := by
  unfold handleTxData
  dsimp only
  split_ifs <;> rfl

theorem handleTxData_txReady (d : UsbDev) (ep : UInt8) (i : ℕ) :
    ((handleTxData d ep i).endPoint i).txReady = (d.endPoint i).txReady := by
  unfold handleTxData
  dsimp only
  split_ifs <;> simp only [UsbDev.call_endPoint, UsbDev.setEp_self]

/-- A write that starts leaves its endpoint busy. -/
theorem startWrite_busy (hi : getEndPointIndex d ep dirIn = some i) {b : Bool}
    (hstart : startWrite b d ep buffer len zero = some d₁) :
    (d₁.endPoint i).txReady = 0 ∧ d₁.isDevHid = d.isDevHid := by
  rw [startWrite, hi] at hstart
  dsimp only at hstart
  split_ifs at hstart
  obtain rfl := Option.some.inj hstart
  rw [handleTxData_txReady, handleTxData_isDevHid]
  refine ⟨?_, rfl⟩
  rw [UsbDev.setBlocking, loadTx]
  dsimp only
  rw [UsbDev.setEp_self]

theorem miscActions_endPoint (d : UsbDev) (ep action : UInt8) : (miscActions d ep action).endPoint = d.endPoint := by
  rw [miscActions]
  split_ifs <;> rfl

/-- **A blocking write releases its buffer**: when it returns, its endpoint is idle, unless a signal ended the sleep before the
transmission was complete. -/
theorem usbWriteData_idle_iff (events : List UsbEvent) (remaining : ℤ) (wake : Wake) (hep : ep ≠ 0) (hhid : d.isDevHid = false)
    (hi : getEndPointIndex d ep dirIn = some i) (hstart : startWrite true d ep buffer len zero = some d₁) :
    ((usbWriteDataWait events remaining wake d ep i buffer len zero).2.endPoint i).Idle ↔
      ¬ (wake = .signal ∧ ((events.foldl usbEventStep d₁).endPoint i).txReady = 0) := by
  obtain ⟨hbusy, hhid₁⟩ := startWrite_busy hi hstart
  have hsettled := usbEventRun_settles d₁ events i (.inl hbusy)
  rw [usbWriteDataWait]
  dsimp only
  rw [hstart, Option.getD_some, usbWriteData, hstart]
  dsimp only
  rw [if_neg hep, hhid₁, hhid, if_neg Bool.false_ne_true]
  set s := events.foldl usbEventStep d₁ with hs
  by_cases hready : (s.endPoint i).txReady = 0
  · rw [hready]
    cases wake with
    | timeout =>
      have hret : usbOsSleepOnTimeout 0 transmitTimeout remaining .timeout = 0 := rfl
      rw [hret, if_neg (lt_irrefl 0), if_pos rfl, hi]
      dsimp only
      rw [miscActions_endPoint, UsbDev.setEp_self]
      exact ⟨(fun _ h => nomatch h.1), fun _ => ⟨rfl, rfl⟩⟩
    | signal =>
      have hret : usbOsSleepOnTimeout 0 transmitTimeout remaining .signal < 0 := show (-512 : ℤ) < 0 by decide
      rw [if_pos hret]
      refine ⟨fun hidle => ?_, fun h => absurd ⟨rfl, rfl⟩ h⟩
      exact absurd (hready.symm.trans hidle.2) (by decide)
  · have hret : usbOsSleepOnTimeout (s.endPoint i).txReady transmitTimeout remaining wake = max 1 remaining := if_pos hready
    have hpos : 0 < max 1 remaining := lt_max_of_lt_left zero_lt_one
    rw [hret, if_neg hpos.not_gt, if_neg hpos.ne']
    dsimp only
    rw [miscActions_endPoint]
    exact ⟨fun _ h => hready h.2, fun _ => hsettled.resolve_left hready⟩

/-- A CSW that is sent while the writer sleeps. -/
theorem usbWriteData_idle_csw :
    ((usbWriteDataWait [.txDone 1] 44000 .signal massDevice 1 2 (some fun _ => 7) 13 1).2.endPoint 2).Idle :=
  (usbWriteData_idle_iff [.txDone 1] 44000 .signal (by decide) rfl (by decide) (Option.some_get (by decide)).symm).2 (by decide)

/-- A signal that comes before the host takes the CSW: the endpoint still refers to the buffer. -/
theorem usbWriteData_interrupted :
    getEndPointIndex massDevice 1 dirIn = some 2 ∧ (massDevice.endPoint 2).Idle ∧
      ((usbWriteDataWait [] 0 .signal massDevice 1 2 (some fun _ => 7) 100 1).1 = -4 ∧
        ¬ ((usbWriteDataWait [] 0 .signal massDevice 1 2 (some fun _ => 7) 100 1).2.endPoint 2).Idle) := by
  refine ⟨by decide, ⟨rfl, rfl⟩, rfl, fun h => ?_⟩
  exact absurd (h.2 : (0 : UInt8) = 1) (by decide)

end Wait

end BmcUsb
