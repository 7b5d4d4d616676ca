import Bmc.Lib.Device
import Bmc.Asd.Common

/-!
# The target handler

The functions of `target_handler.c` that the message layer calls, over pins and an IPMI interface
that may answer every call as they like.

* `TargetHandle`: the handle with its event configuration;
* `targetInitialize`, `targetDeinitialize`, `targetWrite`, `targetRead`, `targetWriteEventConfig`,
  `targetWaitPRDY`, `targetWaitSync`.
-/

namespace BmcAsd

open BmcLib

/-! ## Data -/

/-- `Pin`. -/
inductive Pin where
  | pwrGood | preq | resetButton | powerButton | earlyBootStall | sysPwrOk | prdy | tckMuxSelect
  deriving DecidableEq, Repr

/-- `PIN_MAX`. -/
abbrev pinMax : ℕ := 8

/-- The pin with the number `n`; `none` from `PIN_MAX` on. -/
def Pin.ofNat? : ℕ → Option Pin
  | 0 => some .pwrGood | 1 => some .preq | 2 => some .resetButton | 3 => some .powerButton
  | 4 => some .earlyBootStall | 5 => some .sysPwrOk | 6 => some .prdy | 7 => some .tckMuxSelect
  | _ => none

/-- `WriteConfig`. -/
inductive WriteConfig where
  | breakAll | resetBreak | reportPRDY | reportPLTRST | reportMBP
  deriving DecidableEq, Repr

/-- The event configuration register with the number `n`; `none` from `WRITE_CONFIG_MAX` on. -/
def WriteConfig.ofNat? : ℕ → Option WriteConfig
  | 0 => some .breakAll | 1 => some .resetBreak | 2 => some .reportPRDY
  | 3 => some .reportPLTRST | 4 => some .reportMBP | _ => none

/-- `event_configuration`. -/
structure EventConfiguration where
  breakAll : Bool
  resetBreak : Bool
  reportPRDY : Bool
  reportPLTRST : Bool
  reportMBP : Bool

/-- The GPIOs that the functions below use. -/
inductive Gpio where
  | xdpPrstIn | debugEnN | cpuPwrgd | prdyN
  /-- `ASD_PIN_TO_GPIO[pin]`. -/
  | ofPin (pin : Pin)
  deriving DecidableEq, Repr

/-- The calls to the pins and to IPMI. -/
inductive TargetCall where
  | initializeGpios
  | deinitializeGpios
  | readPin (gpio : Gpio)
  | writePin (gpio : Gpio) (value : Bool)
  | ipmiResetTarget
  | ipmiGetPowerState
  | ipmiSetPowerState (on : Bool)
  /-- `poll` on `PRDY`, with a timeout in milliseconds. -/
  | pollPrdy (timeoutMs : ℕ)
  deriving DecidableEq, Repr

/-- An answer: success, and the level that was read. -/
structure TargetAnswer where
  ok : Bool
  value : Bool

/-- `Target_Control_Handle`. -/
structure TargetHandle where
  initialized : Bool
  xdpPresent : Bool
  useIpmiInterface : Bool
  isMasterProbe : Bool
  eventCfg : EventConfiguration
  gpios : Device TargetCall TargetAnswer

/-- `TargetHandler`; `platform_init` decides about IPMI. -/
def targetHandler (useIpmiInterface : Bool) (eventCfg : EventConfiguration)
    (gpios : Device TargetCall TargetAnswer) : TargetHandle where
  initialized := false
  xdpPresent := false
  useIpmiInterface := useIpmiInterface
  isMasterProbe := false
  eventCfg := eventCfg
  gpios := gpios

/-- A call to the pins. -/
def TargetHandle.call (t : TargetHandle) (c : TargetCall) : TargetAnswer × TargetHandle :=
  (t.gpios.answer, { t with gpios := t.gpios.call c })

/-- The status of an answer. -/
def TargetAnswer.status (a : TargetAnswer) : Status := if a.ok then .ok else .err

/-! ## Initialisation -/

/-- The reading of the XDP pin in `target_initialize`. -/
def targetCheckXdp (t : TargetHandle) (xdpFailEnable : Bool) : Status × TargetHandle :=
  let r := t.call (.readPin .xdpPrstIn)
  if r.1.ok then
    if r.1.value then (if xdpFailEnable then .err else .ok, { r.2 with xdpPresent := true })
    else (.ok, r.2)
  else (.err, r.2)

/-- `target_initialize`. -/
def targetInitialize (t : TargetHandle) (xdpFailEnable : Bool) : Status × TargetHandle :=
  if t.initialized then (.err, t)
  else
    let r := t.call .initializeGpios
    let r := if r.1.ok then targetCheckXdp r.2 xdpFailEnable else (.err, r.2)
    let r := if r.1 = .ok then
        let w := r.2.call (.writePin .debugEnN true)
        (w.1.status, w.2)
      else r
    if r.1 = .ok then (.ok, { r.2 with initialized := true })
    else (r.1, (r.2.call .deinitializeGpios).2)

/-- `target_deinitialize`. -/
def targetDeinitialize (t : TargetHandle) : Status × TargetHandle :=
  if !t.initialized then (.err, t)
  else
    let r := t.call .deinitializeGpios
    (r.1.status, r.2)

/-! ## Pins -/

/-- `target_write`. -/
def targetWrite (t : TargetHandle) (pin : Pin) (assert : Bool) : Status × TargetHandle :=
  if !t.initialized then (.err, t)
  else
    match pin with
    | .resetButton =>
      if t.useIpmiInterface && assert then
        let r := t.call .ipmiResetTarget
        (r.1.status, r.2)
      else (.ok, t)
    | .powerButton =>
      if assert then
        let r := t.call (.readPin .cpuPwrgd)
        if r.1.ok then
          if t.useIpmiInterface then
            let w := r.2.call (.ipmiSetPowerState assert)
            (w.1.status, w.2)
          else (.ok, r.2)
        else (.err, r.2)
      else (.ok, t)
    | .preq | .tckMuxSelect | .sysPwrOk | .earlyBootStall =>
      let r := t.call (.writePin (.ofPin pin) assert)
      (r.1.status, r.2)
    | .pwrGood | .prdy => (.err, t)

/-- `target_read`, for the pin with the number `pin`: the status, `*asserted`, and the handle. -/
def targetRead (t : TargetHandle) (pin : ℕ) : Status × Bool × TargetHandle :=
  if !t.initialized then (.err, false, t)
  else
    match Pin.ofNat? pin with
    | none => (.err, false, t)
    | some p =>
      match p with
      | .pwrGood =>
        let r := t.call (if t.useIpmiInterface then .ipmiGetPowerState else .readPin .cpuPwrgd)
        (r.1.status, r.1.ok && r.1.value, r.2)
      | .prdy | .preq | .sysPwrOk | .earlyBootStall =>
        let r := t.call (.readPin (.ofPin p))
        (r.1.status, r.1.ok && r.1.value, r.2)
      | .resetButton | .powerButton | .tckMuxSelect => (.err, false, t)

/-- `target_write_event_config`. -/
def targetWriteEventConfig (t : TargetHandle) (eventCfg : WriteConfig) (enable : Bool) :
    Status × TargetHandle :=
  if !t.initialized then (.err, t)
  else
    match eventCfg with
    | .breakAll => (.ok, { t with eventCfg := { t.eventCfg with breakAll := enable } })
    | .resetBreak => (.ok, { t with eventCfg := { t.eventCfg with resetBreak := enable } })
    | .reportPRDY =>
      -- the outcome of this read is ignored
      let t := (t.call (.readPin .prdyN)).2
      (.ok, { t with eventCfg := { t.eventCfg with reportPRDY := enable } })
    | .reportPLTRST => (.ok, { t with eventCfg := { t.eventCfg with reportPLTRST := enable } })
    | .reportMBP => (.ok, { t with eventCfg := { t.eventCfg with reportMBP := enable } })

/-- `JTAG_CLOCK_CYCLE_MILLISECONDS`. -/
abbrev jtagClockCycleMilliseconds : ℕ := 1000

/-- `target_wait_PRDY`; from `31` on, `1 << log2time` is negative or, on the ARM target, zero. -/
def targetWaitPRDY (t : TargetHandle) (log2time : UInt8) : Status × TargetHandle :=
  if !t.initialized then (.err, t)
  else
    let shifted := if log2time.toNat < 31 then 2 ^ log2time.toNat else 0
    let timeoutMs := max 1 (shifted / jtagClockCycleMilliseconds)
    let r := t.call (.pollPrdy timeoutMs)
    (r.1.status, r.2)

/-- `target_wait_sync`, which is not implemented. -/
def targetWaitSync (t : TargetHandle) (_timeout _delay : ℕ) : Status :=
  if !t.initialized then .err else if t.isMasterProbe then .err else .timeout

end BmcAsd
