import Bmc.Lib.Device
import Bmc.Asd.Common

/-!
# The JTAG handler

`jtag_handler.c` over a driver that may answer every call as it likes.

* `JtagHandler`: the two scan chains, the active one, and the driver;
* `jtagSetPadding`, `jtagSetTapState`, `jtagSetActiveChain`, `jtagWaitCycles`, `jtagSetJtagTck`;
* `performShift`, `jtagShiftHw`, `jtagShift`: shifting bits, with the padding of a scan; `jtagShift`
  is cut into `shiftPrefix` and `shiftData`.
-/

namespace BmcAsd

open BmcLib

/-! ## Data -/

abbrev drMaxPadSize : ℕ := 250
abbrev irMaxPadSize : ℕ := 2000
abbrev maxWaitCycles : ℕ := 256
abbrev apbFreq : ℕ := 24740000

/-- `DIV_ROUND_UP`. -/
def divRoundUp (n d : ℕ) : ℕ := (n + d - 1) / d

/-- `enum jtag_states`, without `JTAG_STATE_CURRENT`. -/
inductive TapState where
  | tlr | rti | selDr | capDr | shfDr | ex1Dr | pauDr | ex2Dr | updDr
  | selIr | capIr | shfIr | ex1Ir | pauIr | ex2Ir | updIr
  deriving DecidableEq, Repr

/-- The state with the number `n`, as in `(enum jtag_states)(cmd & TAP_STATE_MASK)`. -/
def TapState.ofNibble : ℕ → TapState
  | 0 => .tlr | 1 => .rti | 2 => .selDr | 3 => .capDr | 4 => .shfDr | 5 => .ex1Dr | 6 => .pauDr
  | 7 => .ex2Dr | 8 => .updDr | 9 => .selIr | 10 => .capIr | 11 => .shfIr | 12 => .ex1Ir
  | 13 => .pauIr | 14 => .ex2Ir | _ => .updIr

/-- `JTAGPaddingTypes`. -/
inductive PaddingType where
  | irPre | irPost | drPre | drPost
  deriving DecidableEq, Repr

/-- `JTAGScanState`. -/
inductive ScanState where
  | done | run
  deriving DecidableEq, Repr

/-- `JTAGShiftPadding`, within the bounds that `JTAG_set_padding` checks. -/
structure ShiftPadding where
  drPre : Fin (drMaxPadSize + 1)
  drPost : Fin (drMaxPadSize + 1)
  irPre : Fin (irMaxPadSize + 1)
  irPost : Fin (irMaxPadSize + 1)

/-- `JTAG_Chain_State`. -/
structure ChainState where
  tapState : TapState
  shiftPadding : ShiftPadding
  scanState : ScanState

/-- A scan chain, smaller than `MAX_SCAN_CHAINS`. -/
abbrev ScanChain := Fin maxScanChains

/-- `struct jtag_xfer`, with the bytes at `tdio` and the chain that is active at the time. The
padding counts are those that the driver adds itself in hardware mode. -/
structure Xfer where
  chain : ScanChain
  src : TapState
  endState : TapState
  length : ℕ
  tdi : List UInt8
  prePadNumber : ℕ
  postPadNumber : ℕ

/-- The calls of the JTAG driver. -/
inductive JtagCall where
  | openDevice
  | mode (swMode : Bool)
  | state (src dst : TapState) (reset : Bool)
  | xfer (x : Xfer)
  | bitbang (cycles : ℕ)
  /-- `JTAG_SIOCFREQ` with the frequency `APB_FREQ / tck`. -/
  | freq (tck : ℕ)

/-- An answer of the driver; `tdo` are the bytes it stores at `tdio`. -/
structure JtagAnswer where
  ok : Bool
  tdo : ℕ → UInt8

/-- `JTAG_Handler`. -/
structure JtagHandler where
  chains : ScanChain → ChainState
  activeChain : ScanChain
  swMode : Bool
  driverOpen : Bool
  driver : Device JtagCall JtagAnswer

namespace JtagHandler

/-- The state of the active chain. -/
def active (h : JtagHandler) : ChainState := h.chains h.activeChain

/-- Change the active chain. -/
def setActive (h : JtagHandler) (c : ChainState) : JtagHandler :=
  { h with chains := Function.update h.chains h.activeChain c }

/-- Set `active_chain->tap_state`. -/
def setTap (h : JtagHandler) (s : TapState) : JtagHandler :=
  h.setActive { h.active with tapState := s }

/-- Set `active_chain->scan_state`. -/
def setScan (h : JtagHandler) (s : ScanState) : JtagHandler :=
  h.setActive { h.active with scanState := s }

/-- An `ioctl`: the driver's answer and the handler after it. -/
def ioctl (h : JtagHandler) (c : JtagCall) : JtagAnswer × JtagHandler :=
  (h.driver.answer, { h with driver := h.driver.call c })

end JtagHandler

/-- `padDataOne`; behind it lies `padDataZero`. -/
def padDataOne : ℕ → UInt8 := fun i => if i < irMaxPadSize / 8 then 0xFF else 0

/-- `padDataZero`. -/
def padDataZero : ℕ → UInt8 := fun _ => 0

/-- The `n` bytes that `memcpy_s(dest, dmax, src, n)` leaves at `dest`: the bytes of `src`, or zeros
if a constraint is violated. -/
def memcpyS (dmax : ℕ) (src : Option (ℕ → UInt8)) (n : ℕ) : List UInt8 :=
  match src with
  | some m => if n ≤ dmax then slice m 0 n else List.replicate n 0
  | none => List.replicate n 0

/-! ## Initialisation -/

/-- `initialize_jtag_chains`, for one chain. -/
def ChainState.init : ChainState where
  tapState := .tlr
  shiftPadding := ⟨0, 0, 0, 0⟩
  scanState := .done

/-- `JTAGHandler`. -/
def jtagHandler (driver : Device JtagCall JtagAnswer) : JtagHandler where
  chains := fun _ => .init
  activeChain := 0
  swMode := true
  driverOpen := false
  driver := driver

/-- `JTAG_wait_cycles`. -/
def jtagWaitCycles (h : JtagHandler) (numberOfCycles : ℕ) : Status × JtagHandler :=
  if numberOfCycles > maxWaitCycles then (.err, h)
  else
    let r := h.ioctl (.bitbang numberOfCycles)
    if r.1.ok then (.ok, r.2) else (.err, r.2)

/-- `JTAG_set_tap_state`. -/
def jtagSetTapState (h : JtagHandler) (tapState : TapState) : Status × JtagHandler :=
  let r := h.ioctl (.state h.active.tapState tapState (tapState = .tlr))
  if r.1.ok then
    let h := r.2.setTap tapState
    if tapState = .rti ∨ tapState = .pauDr then
      let r := jtagWaitCycles h 5
      if r.1 = .ok then (.ok, r.2) else (.err, r.2)
    else (.ok, h)
  else (.err, r.2)

/-- `JTAG_tap_reset`. -/
def jtagTapReset (h : JtagHandler) : Status × JtagHandler := jtagSetTapState h .tlr

/-- `JTAG_initialize`. -/
def jtagInitialize (h : JtagHandler) (swMode : Bool) : Status × JtagHandler :=
  let h := { h with swMode := swMode }
  let r := h.ioctl .openDevice
  if r.1.ok then
    let h := { r.2 with driverOpen := true }
    let r := h.ioctl (.mode swMode)
    if r.1.ok then
      let r := jtagSetTapState r.2 .tlr
      if r.1 = .ok then (.ok, { r.2 with chains := fun _ => .init })
      else (.err, { r.2 with driverOpen := false })
    else (.err, { r.2 with driverOpen := false })
  else (.err, { r.2 with driverOpen := false })

/-- `JTAG_deinitialize`. -/
def jtagDeinitialize (h : JtagHandler) : Status × JtagHandler := (.ok, { h with driverOpen := false })

/-! ## Settings -/

/-- `JTAG_set_padding`. -/
def jtagSetPadding (h : JtagHandler) (padding : PaddingType) (value : ℕ) : Status × JtagHandler :=
  let c := h.active
  let set (p : ShiftPadding) : Status × JtagHandler := (.ok, h.setActive { c with shiftPadding := p })
  match padding with
  | .drPre =>
    if hv : value > drMaxPadSize then (.err, h)
    else set { c.shiftPadding with drPre := ⟨value, by omega⟩ }
  | .drPost =>
    if hv : value > drMaxPadSize then (.err, h)
    else set { c.shiftPadding with drPost := ⟨value, by omega⟩ }
  | .irPre =>
    if hv : value > irMaxPadSize then (.err, h)
    else set { c.shiftPadding with irPre := ⟨value, by omega⟩ }
  | .irPost =>
    if hv : value > irMaxPadSize then (.err, h)
    else set { c.shiftPadding with irPost := ⟨value, by omega⟩ }

/-- `JTAG_set_jtag_tck`. -/
def jtagSetJtagTck (h : JtagHandler) (tck : ℕ) : Status × JtagHandler :=
  let r := h.ioctl (.freq tck)
  if r.1.ok then (.ok, r.2) else (.err, r.2)

/-- `JTAG_set_active_chain`. -/
def jtagSetActiveChain (h : JtagHandler) (chain : ℕ) : Status × JtagHandler :=
  if hc : chain ≥ maxScanChains then (.err, h)
  else (.ok, { h with activeChain := ⟨chain, by omega⟩ })

/-! ## Shifting -/

/-- The result of a shift: the bytes left at `output`, if they were written, and the handler. -/
structure ShiftResult where
  status : Status
  output : Option (List UInt8)
  handler : JtagHandler

/-- The transfer at the end of `perform_shift` and `JTAG_shift_hw`: `tdio` is `output` or a local
buffer that holds a copy of the input. -/
def transfer (h : JtagHandler) (numberOfBits : ℕ) (input : Option (ℕ → UInt8)) (output : Option ℕ)
    (currentState endState : TapState) (prePadNumber postPadNumber : ℕ) : ShiftResult :=
  let n := divRoundUp numberOfBits 8
  let tdi := memcpyS (output.getD n) input n
  let r := h.ioctl (.xfer
    { chain := h.activeChain, src := currentState, endState := endState, length := numberOfBits,
      tdi := tdi, prePadNumber := prePadNumber, postPadNumber := postPadNumber })
  if r.1.ok then ⟨.ok, output.map fun _ => slice r.1.tdo 0 n, r.2.setTap endState⟩
  else ⟨.err, output.map fun _ => tdi, r.2⟩

/-- `perform_shift`; `input` is `NULL` or memory, `output` is `NULL` or `output_bytes`. -/
def performShift (h : JtagHandler) (numberOfBits : ℕ) (input : Option (ℕ → UInt8))
    (output : Option ℕ) (currentTapState endTapState : TapState) : ShiftResult :=
  transfer h numberOfBits input output currentTapState endTapState 0 0

/-- `preFix` and `postFix`, as both shift functions look them up; `none` outside the shift states. -/
def shiftPads (c : ChainState) : Option (ℕ × ℕ) :=
  if c.tapState = .shfIr then some (c.shiftPadding.irPre, c.shiftPadding.irPost)
  else if c.tapState = .shfDr then some (c.shiftPadding.drPre, c.shiftPadding.drPost)
  else none

/-- `JTAG_shift_hw`. -/
def jtagShiftHw (h : JtagHandler) (numberOfBits : ℕ) (input : Option (ℕ → UInt8))
    (output : Option ℕ) (endTapState : TapState) : ShiftResult :=
  let currentState := h.active.tapState
  match shiftPads h.active with
  | none => ⟨.err, none, h⟩
  | some (pre, post) =>
    let first : Bool := h.active.scanState = .done
    let h := if first then h.setScan .run else h
    let leaves : Bool := currentState ≠ endTapState
    let h := if leaves then h.setScan .done else h
    transfer h numberOfBits input output currentState endTapState (if first then pre else 0)
      (if leaves then post else 0)

/-- The pre-padding of `JTAG_shift`, at the beginning of a scan. -/
def shiftPrefix (h : JtagHandler) (preFix : ℕ) (padData : ℕ → UInt8) (currentState : TapState) :
    ShiftResult :=
  if h.active.scanState = .done then
    let h := h.setScan .run
    if preFix ≠ 0 then performShift h preFix (some padData) none currentState currentState
    else ⟨.ok, none, h⟩
  else ⟨.ok, none, h⟩

/-- The data and the post-padding of `JTAG_shift`. -/
def shiftData (h : JtagHandler) (numberOfBits : ℕ) (input : Option (ℕ → UInt8))
    (output : Option ℕ) (postFix : ℕ) (padData : ℕ → UInt8) (currentState endTapState : TapState) :
    ShiftResult :=
  if postFix ≠ 0 ∧ currentState ≠ endTapState then
    let h := h.setScan .done
    let data := performShift h numberOfBits input output currentState currentState
    if data.status ≠ .ok then ⟨.err, data.output, data.handler⟩
    else
      let post := performShift data.handler postFix (some padData) none currentState endTapState
      if post.status ≠ .ok then ⟨.err, data.output, post.handler⟩
      else ⟨.ok, data.output, post.handler⟩
  else
    let data := performShift h numberOfBits input output currentState endTapState
    if data.status ≠ .ok then ⟨.err, data.output, data.handler⟩
    else if currentState ≠ endTapState then ⟨.ok, data.output, data.handler.setScan .done⟩
    else ⟨.ok, data.output, data.handler⟩

/-- `JTAG_shift`. -/
def jtagShift (h : JtagHandler) (numberOfBits : ℕ) (input : Option (ℕ → UInt8))
    (output : Option ℕ) (endTapState : TapState) : ShiftResult :=
  if !h.swMode then jtagShiftHw h numberOfBits input output endTapState
  else
    let currentState := h.active.tapState
    match shiftPads h.active with
    | none => ⟨.err, none, h⟩
    | some (preFix, postFix) =>
      let padData := if currentState = .shfIr then padDataOne else padDataZero
      let pre := shiftPrefix h preFix padData currentState
      if pre.status ≠ .ok then ⟨.err, none, pre.handler⟩
      else shiftData pre.handler numberOfBits input output postFix padData currentState endTapState

end BmcAsd
