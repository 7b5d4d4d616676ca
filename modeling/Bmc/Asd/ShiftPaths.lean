import Bmc.Asd.JtagPadding

/-!
# The two ways to shift

In software mode `JTAG_shift` shifts the padding of a scan itself; in hardware mode it asks the driver for it, in the same
transfer as the data.

* `padConfig`: the word that asks for padding, with `prePadNumber_padConfig` and its companions;
* `JtagCall.padded`: the bits that the driver puts out for it; `streams`: the bits of a run, operation by operation;
* `jtagShiftHw_spec`: a shift in hardware mode;
* **`paths_agree`**: in both modes each operation puts out the same bits, and leaves the chains the same.
-/

namespace BmcAsd

open BmcLib

/-! ## A word with padding -/

/-- `int_value` of a `union pad_config`: two fields of twelve bits, and the bit to pad with. -/
def padConfig (pre post : ℕ) (padData : Bool) : UInt32 :=
  UInt32.ofNat (pre % 2 ^ 12 + post % 2 ^ 12 * 2 ^ 12 + padData.toNat * 2 ^ 24)

/-- `pre_pad_number` -/
def prePadNumber (padding : UInt32) : ℕ := padding.toNat % 2 ^ 12

/-- `post_pad_number` -/
def postPadNumber (padding : UInt32) : ℕ := padding.toNat / 2 ^ 12 % 2 ^ 12

/-- `pad_data` -/
def padData (padding : UInt32) : Bool := padding.toNat / 2 ^ 24 % 2 = 1

section PadConfig

variable (pre post : ℕ) (b : Bool)

theorem toNat_padConfig : (padConfig pre post b).toNat = pre % 2 ^ 12 + post % 2 ^ 12 * 2 ^ 12 + b.toNat * 2 ^ 24 := by
  have hb := b.toNat_le
  rw [padConfig, UInt32.toNat_ofNat']
  exact Nat.mod_eq_of_lt (by omega)

theorem prePadNumber_padConfig {pre : ℕ} (h : pre < 2 ^ 12) : prePadNumber (padConfig pre post b) = pre := by
  rw [prePadNumber, toNat_padConfig]
  omega

theorem postPadNumber_padConfig {post : ℕ} (h : post < 2 ^ 12) : postPadNumber (padConfig pre post b) = post := by
  have hb := b.toNat_le
  rw [postPadNumber, toNat_padConfig]
  omega

theorem padData_padConfig : padData (padConfig pre post b) = b := by
  rw [padData, toNat_padConfig]
  cases b
  · rw [decide_eq_false_iff_not, Bool.toNat_false]
    omega
  · rw [decide_eq_true_eq, Bool.toNat_true]
    omega

end PadConfig

/-! ## Streams -/

/-- `padding` of a transfer of `JTAG_shift_hw`. -/
def Xfer.padding (x : Xfer) : UInt32 := padConfig x.prePadNumber x.postPadNumber (x.src = .shfIr)

/-- The bits of a call in hardware mode, with the padding that it asks for. -/
def JtagCall.padded : JtagCall → List Bool
  | .xfer x =>
    List.replicate (prePadNumber x.padding) (padData x.padding) ++ bitsOf x.tdi x.length ++
      List.replicate (postPadNumber x.padding) (padData x.padding)
  | _ => []

/-- The bits that the driver puts out between two states of the handler. -/
def stream (h h' : JtagHandler) : List Bool :=
  (h.driver.news h'.driver).flatMap (if h.swMode then JtagCall.bits else JtagCall.padded)

/-- The bits of each operation of a run. -/
def streams (h : JtagHandler) : List JtagOp → List (List Bool)
  | [] => []
  | op :: ops => stream h (op.run h) :: streams (op.run h) ops

/-- The chains are the same, with their tap states, their scan states and their padding. -/
structure SameChains (h h' : JtagHandler) : Prop where
  chains : h.chains = h'.chains
  activeChain : h.activeChain = h'.activeChain

/-! ## Hardware mode -/

section Hardware

variable {h : JtagHandler}

theorem stream_hw (hhw : h.swMode = false) (h' : JtagHandler) :
    stream h h' = (h.driver.news h'.driver).flatMap JtagCall.padded := by
  rw [stream, hhw]
  rfl

theorem stream_sw (hsw : h.swMode = true) (h' : JtagHandler) : stream h h' = emitted h h' := by
  rw [stream, hsw]
  rfl

/-- A transfer when the driver works. -/
theorem transfer_spec (hd : DriverOk h.driver) (n : ℕ) (i : Option (ℕ → UInt8)) (o : Option ℕ) (t e : TapState)
    (pre post : ℕ) :
    let tdi := memcpyS (o.getD (divRoundUp n 8)) i (divRoundUp n 8)
    Moves h (transfer h n i o t e pre post).handler { h.active with tapState := e } (bitsOf tdi n) ∧
      h.driver.news (transfer h n i o t e pre post).handler.driver = [.xfer ⟨h.activeChain, t, e, n, tdi, pre, post⟩] := by
  intro tdi
  have hmoves := (moves_ioctl h (.xfer ⟨h.activeChain, t, e, n, tdi, pre, post⟩)).trans
    (moves_setActive _ { h.active with tapState := e })
  rw [List.append_nil] at hmoves
  rw [transfer]
  dsimp only
  split_ifs with hok
  · exact ⟨hmoves, Device.news_call _ _⟩
  · exact absurd hd.answer hok

/-- `JTAG_shift_hw` has set the scan state. -/
def scanStateSet (h : JtagHandler) (leaves : Bool) : JtagHandler :=
  let h := if decide (h.active.scanState = .done) = true then h.setScan .run else h
  if leaves = true then h.setScan .done else h

theorem scanStateSet_moves (h : JtagHandler) (leaves : Bool) :
    Moves h (scanStateSet h leaves) { h.active with scanState := if leaves then .done else .run } [] := by
  set h₁ := if decide (h.active.scanState = .done) = true then h.setScan .run else h with hh₁
  have hrun : Moves h h₁ { h.active with scanState := .run } [] := by
    cases hscan : h.active.scanState with
    | done =>
      rw [hh₁, if_pos (decide_eq_true hscan)]
      exact moves_setActive h _
    | run =>
      have hactive : h.active = { h.active with scanState := .run } := by rw [← hscan]
      rw [hh₁, if_neg (by rw [hscan]; decide), ← hactive]
      exact Moves.refl h
  cases leaves with
  | false => exact hrun
  | true =>
    have hactive : ({ h₁.active with scanState := .done } : ChainState) = { h.active with scanState := .done } := by
      rw [hrun.active]
    have hdone : Moves h (scanStateSet h true) { h₁.active with scanState := .done } [] :=
      hrun.trans (moves_setActive h₁ _)
    rw [hactive] at hdone
    exact hdone

end Hardware

/-! ## A shift -/

/-- The bits of a shift: pre-padding at the beginning of a scan, the data, and post-padding at its end. -/
def shiftStream (c : ChainState) (r : ShiftRequest) : List Bool :=
  (if c.scanState = .done then List.replicate (c.shiftPadding.pads c.tapState).1 (c.tapState = .shfIr : Bool) else []) ++
    r.data ++
    if c.tapState = r.endState then []
    else List.replicate (c.shiftPadding.pads c.tapState).2 (c.tapState = .shfIr : Bool)

/-- The chain after a shift. -/
def shiftedChain (c : ChainState) (r : ShiftRequest) : ChainState :=
  { c with tapState := r.endState, scanState := if c.tapState = r.endState then .run else .done }

theorem pads_lt (p : ShiftPadding) (t : TapState) : (p.pads t).1 < 2 ^ 12 ∧ (p.pads t).2 < 2 ^ 12 := by
  obtain ⟨hpre, hpost⟩ := pads_le p t
  have hmax : irMaxPadSize < 2 ^ 12 := by decide
  exact ⟨hpre.trans_lt hmax, hpost.trans_lt hmax⟩

/-- The bits of a transfer with padding that fits into the fields. -/
theorem padded_xfer {x : Xfer} (hpre : x.prePadNumber < 2 ^ 12) (hpost : x.postPadNumber < 2 ^ 12) :
    (JtagCall.xfer x).padded = List.replicate x.prePadNumber (x.src = .shfIr : Bool) ++ bitsOf x.tdi x.length ++
      List.replicate x.postPadNumber (x.src = .shfIr : Bool) := by
  rw [JtagCall.padded, Xfer.padding, prePadNumber_padConfig _ _ hpre, postPadNumber_padConfig _ _ hpost, padData_padConfig]

/-- The buffer of a request that reads back. -/
def ShiftRequest.output (r : ShiftRequest) : Option ℕ := if r.readBack then some (divRoundUp r.numberOfBits 8) else none

theorem ShiftRequest.bitsOf_tdi (r : ShiftRequest) :
    bitsOf (memcpyS (r.output.getD (divRoundUp r.numberOfBits 8)) r.input (divRoundUp r.numberOfBits 8)) r.numberOfBits =
      r.data := by
  have hout : r.output.getD (divRoundUp r.numberOfBits 8) = divRoundUp r.numberOfBits 8 := by
    rw [ShiftRequest.output]
    cases r.readBack <;> rfl
  rw [hout]
  exact bitsOf_request r _ rfl

/-- In hardware mode, a shift is one transfer. -/
theorem run_shift_hw {h : JtagHandler} (hhw : h.swMode = false) (hs : h.active.tapState.IsShift) (r : ShiftRequest) :
    JtagOp.run h (.shift r) =
      (transfer (scanStateSet h (decide (h.active.tapState ≠ r.endState))) r.numberOfBits r.input r.output
        h.active.tapState r.endState
        (if decide (h.active.scanState = .done) = true then (h.active.shiftPadding.pads h.active.tapState).1 else 0)
        (if decide (h.active.tapState ≠ r.endState) = true then (h.active.shiftPadding.pads h.active.tapState).2
          else 0)).handler := by
  rw [JtagOp.run, jtagShift, hhw, jtagShiftHw, shiftPads_eq hs]
  rfl

/-- **A shift in hardware mode.** One transfer asks for all the bits. -/
theorem shift_hw_spec {h : JtagHandler} (hd : DriverOk h.driver) (hhw : h.swMode = false)
    (hs : h.active.tapState.IsShift) (r : ShiftRequest) :
    (∃ bits, Moves h (JtagOp.run h (.shift r)) (shiftedChain h.active r) bits) ∧
      stream h (JtagOp.run h (.shift r)) = shiftStream h.active r := by
  have hset := scanStateSet_moves h (decide (h.active.tapState ≠ r.endState))
  obtain ⟨hpre, hpost⟩ := pads_lt h.active.shiftPadding h.active.tapState
  rw [run_shift_hw hhw hs, stream_hw hhw]
  set pre := if decide (h.active.scanState = .done) = true then (h.active.shiftPadding.pads h.active.tapState).1 else 0
    with hpreEq
  set post := if decide (h.active.tapState ≠ r.endState) = true then (h.active.shiftPadding.pads h.active.tapState).2 else 0
    with hpostEq
  have hprelt : pre < 2 ^ 12 := by
    rw [hpreEq]
    split_ifs <;> omega
  have hpostlt : post < 2 ^ 12 := by
    rw [hpostEq]
    split_ifs <;> omega
  obtain ⟨hmoves, hnews⟩ := transfer_spec (hset.driverOk hd) r.numberOfBits r.input r.output h.active.tapState r.endState
    pre post
  have hdriver : (scanStateSet h (decide (h.active.tapState ≠ r.endState))).driver = h.driver := by
    rw [scanStateSet]
    split_ifs <;> rfl
  rw [hdriver] at hnews
  constructor
  · refine ⟨r.data, ?_⟩
    have hall := hset.trans hmoves
    rw [hset.active, r.bitsOf_tdi, List.nil_append] at hall
    by_cases he : h.active.tapState = r.endState
    · simpa [shiftedChain, he] using hall
    · simpa [shiftedChain, he] using hall
  · rw [hnews, List.flatMap_singleton, padded_xfer hprelt hpostlt, shiftStream]
    rw [r.bitsOf_tdi, hpreEq, hpostEq]
    by_cases he : h.active.tapState = r.endState
    · by_cases hscan : h.active.scanState = .done <;> simp [he, hscan]
    · by_cases hscan : h.active.scanState = .done <;> simp [he, hscan]

/-- **A shift in software mode.** -/
theorem shift_sw_spec {h : JtagHandler} (hd : DriverOk h.driver) (hsw : h.swMode = true)
    (hs : h.active.tapState.IsShift) (r : ShiftRequest) :
    (∃ bits, Moves h (JtagOp.run h (.shift r)) (shiftedChain h.active r) bits) ∧
      stream h (JtagOp.run h (.shift r)) = shiftStream h.active r := by
  have hmoves := jtagShift_moves hd hsw hs r
  exact ⟨⟨_, hmoves⟩, (stream_sw hsw _).trans hmoves.bits⟩

/-! ## Runs -/

section Runs

variable {h h' : JtagHandler}

/-- The calls of `JTAG_set_tap_state` when the driver works. -/
theorem news_setTapState (hd : DriverOk h.driver) (t : TapState) :
    h.driver.news (jtagSetTapState h t).2.driver = [.state h.active.tapState t (t = .tlr)] ∨
      h.driver.news (jtagSetTapState h t).2.driver = [.state h.active.tapState t (t = .tlr), .bitbang 5] := by
  have hok : (h.ioctl (.state h.active.tapState t (t = .tlr))).1.ok = true := hd.answer
  have hstate := Device.extends_call h.driver (.state h.active.tapState t (t = .tlr))
  have hone : h.driver.news (h.driver.call (.state h.active.tapState t (t = .tlr))) = _ := Device.news_call _ _
  rw [jtagSetTapState]
  dsimp only
  rw [if_pos hok]
  split_ifs with hwait hdone
  all_goals try exact .inl hone
  all_goals
    refine .inr ?_
    rw [jtagWaitCycles, if_neg (by decide)]
    dsimp only
    split_ifs <;> exact (hstate.news_trans (Device.extends_call _ _)).trans (by rw [hone, Device.news_call]; rfl)

/-- Changing the state puts nothing out. -/
theorem stream_setTapState (hd : DriverOk h.driver) (t : TapState) : stream h (jtagSetTapState h t).2 = [] := by
  rw [stream]
  rcases news_setTapState hd t with hnews | hnews <;> rw [hnews] <;> cases h.swMode <;> rfl

/-- The driver has not been called. -/
theorem stream_self {h₁ : JtagHandler} (hdriver : h₁.driver = h.driver) : stream h h₁ = [] := by
  rw [stream, hdriver, Device.news_self, List.flatMap_nil]

/-- The handlers are in the two modes, over drivers that work, and their chains are the same. -/
structure InBothModes (h h' : JtagHandler) : Prop where
  same : SameChains h h'
  software : h.swMode = true
  hardware : h'.swMode = false
  ok : DriverOk h.driver
  ok' : DriverOk h'.driver

theorem InBothModes.active (b : InBothModes h h') : h.active = h'.active := by
  rw [JtagHandler.active, JtagHandler.active, b.same.chains, b.same.activeChain]

/-- The active chains go to the same state. -/
theorem InBothModes.moves (b : InBothModes h h') {h₁ h₁' : JtagHandler} {c : ChainState} {bits bits' : List Bool}
    (m : Moves h h₁ c bits) (m' : Moves h' h₁' c bits') : InBothModes h₁ h₁' where
  same := ⟨by rw [m.chains, m'.chains, b.same.chains, b.same.activeChain],
    by rw [m.activeChain, m'.activeChain, b.same.activeChain]⟩
  software := m.swMode.trans b.software
  hardware := m'.swMode.trans b.hardware
  ok := m.driverOk b.ok
  ok' := m'.driverOk b.ok'

/-- Outside the shift states nothing is shifted. -/
theorem run_shift_outside (hs : ¬ h.active.tapState.IsShift) (r : ShiftRequest) : JtagOp.run h (.shift r) = h := by
  rw [JtagOp.run, jtagShift, jtagShiftHw, shiftPads_eq_none hs]
  cases h.swMode <;> rfl

/-- **One operation** in both modes. -/
theorem InBothModes.run (b : InBothModes h h') (op : JtagOp) :
    InBothModes (op.run h) (op.run h') ∧ stream h (op.run h) = stream h' (op.run h') := by
  cases op with
  | setPadding padding value =>
    have hdriver (h : JtagHandler) : (jtagSetPadding h padding value).2.driver = h.driver := by
      cases padding <;>
        · rw [jtagSetPadding]
          dsimp only
          split_ifs <;> rfl
    refine ⟨?_, (stream_self (hdriver h)).trans (stream_self (hdriver h')).symm⟩
    cases padding <;>
      · simp only [JtagOp.run, jtagSetPadding, ← b.active]
        split_ifs
        · exact b
        · exact b.moves (moves_setActive h _) (moves_setActive h' _)
  | setTapState t =>
    refine ⟨b.moves (jtagSetTapState_moves b.ok t) (b.active ▸ jtagSetTapState_moves b.ok' t), ?_⟩
    exact (stream_setTapState b.ok t).trans (stream_setTapState b.ok' t).symm
  | tapReset =>
    refine ⟨b.moves (jtagSetTapState_moves b.ok .tlr) (b.active ▸ jtagSetTapState_moves b.ok' .tlr), ?_⟩
    exact (stream_setTapState b.ok .tlr).trans (stream_setTapState b.ok' .tlr).symm
  | setActiveChain chain =>
    have hdriver (h : JtagHandler) : (jtagSetActiveChain h chain).2.driver = h.driver := by
      obtain ⟨x, hx⟩ := jtagSetActiveChain_eq h chain
      rw [hx]
    refine ⟨?_, (stream_self (hdriver h)).trans (stream_self (hdriver h')).symm⟩
    rw [JtagOp.run, JtagOp.run, jtagSetActiveChain, jtagSetActiveChain]
    split_ifs
    · exact b
    · exact ⟨⟨b.same.chains, rfl⟩, b.software, b.hardware, b.ok, b.ok'⟩
  | shift r =>
    by_cases hs : h.active.tapState.IsShift
    · obtain ⟨⟨_, m⟩, hbits⟩ := shift_sw_spec b.ok b.software hs r
      obtain ⟨⟨_, m'⟩, hbits'⟩ := shift_hw_spec b.ok' b.hardware (b.active ▸ hs) r
      rw [← b.active] at m' hbits'
      exact ⟨b.moves m m', hbits.trans hbits'.symm⟩
    · rw [run_shift_outside hs, run_shift_outside (b.active ▸ hs)]
      exact ⟨b, (stream_self rfl).trans (stream_self rfl).symm⟩

/-- **Both modes agree.** Each operation puts out the same bits, and the chains stay the same. -/
theorem paths_agree (ops : List JtagOp) (b : InBothModes h h') :
    streams h ops = streams h' ops ∧ SameChains (ops.foldl JtagOp.run h) (ops.foldl JtagOp.run h') := by
  induction ops generalizing h h' with
  | nil => exact ⟨rfl, b.same⟩
  | cons op ops ih =>
    obtain ⟨hnext, hbits⟩ := b.run op
    obtain ⟨hrest, hend⟩ := ih hnext
    exact ⟨by rw [streams, streams, hbits, hrest], hend⟩

end Runs

/-- A handler over a driver without failures. -/
def readyHandler (swMode : Bool) : JtagHandler :=
  (jtagInitialize (jtagHandler ⟨fun _ => ⟨true, fun _ => 0⟩, []⟩) swMode).2

/-- A scan of the instruction register in two shifts, with padding on both sides. -/
def paddedScan : List JtagOp :=
  [.setPadding .irPre 9, .setPadding .irPost 5, .setTapState .shfIr,
    .shift ⟨3, some fun _ => 5, true, .shfIr, by decide⟩, .shift ⟨2, some fun _ => 1, false, .ex1Ir, by decide⟩,
    .setTapState .rti]

theorem paths_agree_paddedScan :
    streams (readyHandler true) paddedScan = streams (readyHandler false) paddedScan ∧
      SameChains (paddedScan.foldl JtagOp.run (readyHandler true)) (paddedScan.foldl JtagOp.run (readyHandler false)) :=
  paths_agree paddedScan ⟨⟨rfl, rfl⟩, rfl, rfl, fun _ => rfl, fun _ => rfl⟩

end BmcAsd
