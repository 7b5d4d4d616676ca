import Bmc.Lib.Loop
import Bmc.Asd.JtagHandler

/-!
# Bits of a JTAG shift

In software mode the handler shifts the padding of a scan itself.

* `emitted`: the bits that reach the driver, `JtagOp.run`: the operations of the handler;
* `Moves`: what an operation does to the active chain, with `jtagSetTapState_moves` and
  **`jtagShift_moves`**: the bits of a shift in a shift state.
-/

namespace BmcAsd

open BmcLib

/-! ## Bits -/

/-- The first `n` bits of some bytes, lowest bits first. -/
def bitsOf (bytes : List UInt8) (n : ℕ) : List Bool :=
  (List.range n).map fun i => (bytes.getD (i / 8) 0).toNat.testBit (i % 8)

/-- The bits that a call of the driver shifts. -/
def JtagCall.bits : JtagCall → List Bool
  | .xfer x => bitsOf x.tdi x.length
  | _ => []

/-- The bits shifted between two states of the handler. -/
def emitted (h h' : JtagHandler) : List Bool := (h.driver.news h'.driver).flatMap JtagCall.bits

/-! ## Operations -/

/-- The arguments of `JTAG_shift`; `fits` says that the caller's buffers hold the bits. -/
structure ShiftRequest where
  numberOfBits : ℕ
  input : Option (ℕ → UInt8)
  readBack : Bool
  endState : TapState
  fits : divRoundUp numberOfBits 8 ≤ maxDataSize

/-- The data bits of a shift; without an input they are zero. -/
def ShiftRequest.data (r : ShiftRequest) : List Bool :=
  match r.input with
  | some m => (List.range r.numberOfBits).map fun i => (m (i / 8)).toNat.testBit (i % 8)
  | none => List.replicate r.numberOfBits false

/-- The operations of the handler. -/
inductive JtagOp where
  | setPadding (padding : PaddingType) (value : ℕ)
  | setTapState (tapState : TapState)
  | tapReset
  | setActiveChain (chain : ℕ)
  | shift (r : ShiftRequest)

/-- Run an operation. -/
def JtagOp.run (h : JtagHandler) : JtagOp → JtagHandler
  | .setPadding padding value => (jtagSetPadding h padding value).2
  | .setTapState tapState => (jtagSetTapState h tapState).2
  | .tapReset => (jtagTapReset h).2
  | .setActiveChain chain => (jtagSetActiveChain h chain).2
  | .shift r =>
    (jtagShift h r.numberOfBits r.input
      (if r.readBack then some (divRoundUp r.numberOfBits 8) else none) r.endState).handler

/-- `Shift-IR` or `Shift-DR`. -/
def TapState.IsShift (s : TapState) : Prop := s = .shfIr ∨ s = .shfDr

instance (s : TapState) : Decidable s.IsShift := inferInstanceAs (Decidable (_ ∨ _))

/-- The pre- and post-padding that a chain has for a shift state. -/
def ShiftPadding.pads (p : ShiftPadding) (s : TapState) : ℕ × ℕ :=
  if s = .shfIr then (p.irPre, p.irPost) else (p.drPre, p.drPost)

/-! ## What the operations do -/

/-- `h'` is `h` after the active chain has gone to the state `c` and `bits` have been shifted. -/
structure Moves (h h' : JtagHandler) (c : ChainState) (bits : List Bool) : Prop where
  chains : h'.chains = Function.update h.chains h.activeChain c
  activeChain : h'.activeChain = h.activeChain
  swMode : h'.swMode = h.swMode
  driver : h.driver.Extends h'.driver
  bits : emitted h h' = bits

/-- Every call of the driver succeeds. -/
def DriverOk (d : Device JtagCall JtagAnswer) : Prop := ∀ n, (d.answers n).ok = true

theorem DriverOk.answer {d : Device JtagCall JtagAnswer} (h : DriverOk d) : d.answer.ok = true := h _

section Moves

variable {h h₁ h₂ h₃ : JtagHandler} {c c' : ChainState} {b b' : List Bool}

theorem Moves.active (m : Moves h h₁ c b) : h₁.active = c := by
  rw [JtagHandler.active, m.chains, m.activeChain, Function.update_self]

theorem Moves.driverOk (m : Moves h h₁ c b) (hd : DriverOk h.driver) : DriverOk h₁.driver := by
  rw [DriverOk, m.driver.1]
  exact hd

theorem Moves.refl (h : JtagHandler) : Moves h h h.active [] where
  chains := (Function.update_eq_self _ _).symm
  activeChain := rfl
  swMode := rfl
  driver := Device.Extends.refl _
  bits := by simp [emitted]

theorem Moves.trans (m : Moves h₁ h₂ c b) (m' : Moves h₂ h₃ c' b') : Moves h₁ h₃ c' (b ++ b') where
  chains := by rw [m'.chains, m.chains, m.activeChain, Function.update_idem]
  activeChain := m'.activeChain.trans m.activeChain
  swMode := m'.swMode.trans m.swMode
  driver := m.driver.trans m'.driver
  bits := by
    rw [← m.bits, ← m'.bits, emitted, emitted, emitted, m.driver.news_trans m'.driver,
      List.flatMap_append]

theorem moves_setActive (h : JtagHandler) (c : ChainState) : Moves h (h.setActive c) c [] where
  chains := rfl
  activeChain := rfl
  swMode := rfl
  driver := Device.Extends.refl _
  bits := by simp [emitted, JtagHandler.setActive]

theorem moves_ioctl (h : JtagHandler) (k : JtagCall) : Moves h (h.ioctl k).2 h.active k.bits where
  chains := (Function.update_eq_self _ _).symm
  activeChain := rfl
  swMode := rfl
  driver := Device.extends_call _ _
  bits := by simp [emitted, JtagHandler.ioctl]

theorem jtagWaitCycles_moves (hd : DriverOk h.driver) {n : ℕ} (hn : n ≤ maxWaitCycles) :
    (jtagWaitCycles h n).1 = .ok ∧ Moves h (jtagWaitCycles h n).2 h.active [] := by
  have hok : (h.ioctl (.bitbang n)).1.ok = true := hd.answer
  rw [jtagWaitCycles, if_neg (by omega)]
  dsimp only
  rw [if_pos hok]
  exact ⟨rfl, moves_ioctl h (.bitbang n)⟩

theorem jtagSetTapState_moves (hd : DriverOk h.driver) (t : TapState) :
    Moves h (jtagSetTapState h t).2 { h.active with tapState := t } [] := by
  have hok : (h.ioctl (.state h.active.tapState t (t = .tlr))).1.ok = true := hd.answer
  have hm := (moves_ioctl h (.state h.active.tapState t (t = .tlr))).trans
    (moves_setActive _ { h.active with tapState := t })
  have hwait := jtagWaitCycles_moves (hm.driverOk hd) (n := 5) (by decide)
  rw [hm.active] at hwait
  rw [jtagSetTapState]
  dsimp only
  rw [if_pos hok]
  split_ifs with hw hs
  · exact hm.trans hwait.2
  · exact absurd hwait.1 hs
  · exact hm

theorem performShift_moves (hd : DriverOk h.driver) (n : ℕ) (i : Option (ℕ → UInt8)) (o : Option ℕ)
    (t e : TapState) :
    (performShift h n i o t e).status = .ok ∧
      Moves h (performShift h n i o t e).handler { h.active with tapState := e }
        (bitsOf (memcpyS (o.getD (divRoundUp n 8)) i (divRoundUp n 8)) n) := by
  have := (moves_ioctl h (.xfer ⟨h.activeChain, t, e, n,
    memcpyS (o.getD (divRoundUp n 8)) i (divRoundUp n 8), 0, 0⟩)).trans
    (moves_setActive _ { h.active with tapState := e })
  rw [List.append_nil] at this
  rw [performShift, transfer]
  dsimp only
  split_ifs with hok
  · exact ⟨rfl, this⟩
  · exact absurd hd.answer hok

end Moves

theorem jtagSetPadding_moves (h : JtagHandler) (padding : PaddingType) (value : ℕ) :
    ∃ p, Moves h (jtagSetPadding h padding value).2 { h.active with shiftPadding := p } [] := by
  have hr : Moves h h { h.active with shiftPadding := h.active.shiftPadding } [] := Moves.refl h
  cases padding <;>
    · simp only [jtagSetPadding]
      split_ifs
      · exact ⟨_, hr⟩
      · exact ⟨_, moves_setActive h _⟩

theorem jtagSetActiveChain_eq (h : JtagHandler) (chain : ℕ) :
    ∃ x, (jtagSetActiveChain h chain).2 = { h with activeChain := x } := by
  rw [jtagSetActiveChain]
  split_ifs
  · exact ⟨_, rfl⟩
  · exact ⟨_, rfl⟩

/-! ## Bits of the padding and of the data -/

theorem bitsOf_memcpyS (m : ℕ → UInt8) (n : ℕ) :
    bitsOf (memcpyS (divRoundUp n 8) (some m) (divRoundUp n 8)) n =
      (List.range n).map fun i => (m (i / 8)).toNat.testBit (i % 8) := by
  refine List.map_congr_left fun i hi => ?_
  have hlt : i / 8 < divRoundUp n 8 := by
    have := List.mem_range.mp hi
    rw [divRoundUp]
    omega
  simp only [memcpyS, le_refl, if_true]
  rw [List.getD_eq_getElem?_getD, List.getElem?_eq_getElem (by rwa [length_slice]), Option.getD_some,
    getElem_slice, Nat.zero_add]

theorem bitsOf_request (r : ShiftRequest) (o : ℕ) (ho : divRoundUp r.numberOfBits 8 = o) :
    bitsOf (memcpyS o r.input o) r.numberOfBits = r.data := by
  rw [ShiftRequest.data, ← ho]
  cases r.input with
  | some m => exact bitsOf_memcpyS m _
  | none =>
    refine List.ext_getElem (by simp [bitsOf]) fun i h1 h2 => ?_
    simp only [bitsOf, memcpyS, List.getElem_map, List.getElem_range, List.getD_eq_getElem?_getD,
      List.getElem?_replicate, List.getElem_replicate]
    split_ifs <;> simp

theorem bitsOf_padDataOne {n : ℕ} (hn : n ≤ irMaxPadSize) :
    bitsOf (memcpyS (divRoundUp n 8) (some padDataOne) (divRoundUp n 8)) n =
      List.replicate n true := by
  rw [bitsOf_memcpyS]
  refine List.eq_replicate_iff.mpr ⟨by simp, fun b hb => ?_⟩
  obtain ⟨i, hi, rfl⟩ := List.mem_map.mp hb
  have hlt : i / 8 < irMaxPadSize / 8 := by
    have := List.mem_range.mp hi
    have : n ≤ 2000 := hn
    show i / 8 < 2000 / 8
    omega
  rw [padDataOne, if_pos hlt]
  have h8 : i % 8 < 8 := Nat.mod_lt _ (by decide)
  generalize i % 8 = k at h8
  interval_cases k <;> rfl

theorem bitsOf_padDataZero (n : ℕ) :
    bitsOf (memcpyS (divRoundUp n 8) (some padDataZero) (divRoundUp n 8)) n =
      List.replicate n false := by
  rw [bitsOf_memcpyS]
  refine List.eq_replicate_iff.mpr ⟨by simp, fun b hb => ?_⟩
  obtain ⟨i, hi, rfl⟩ := List.mem_map.mp hb
  simp [padDataZero]

/-! ## A shift -/

theorem shiftPads_eq {c : ChainState} (hs : c.tapState.IsShift) :
    shiftPads c = some (c.shiftPadding.pads c.tapState) := by
  rw [shiftPads, ShiftPadding.pads]
  rcases hs with hs | hs <;> simp [hs]

theorem shiftPads_eq_none {c : ChainState} (hs : ¬ c.tapState.IsShift) : shiftPads c = none := by
  rw [TapState.IsShift, not_or] at hs
  rw [shiftPads, if_neg hs.1, if_neg hs.2]

theorem pads_le (p : ShiftPadding) (s : TapState) :
    (p.pads s).1 ≤ irMaxPadSize ∧ (p.pads s).2 ≤ irMaxPadSize := by
  have h1 := p.irPre.isLt
  have h2 := p.irPost.isLt
  have h3 := p.drPre.isLt
  have h4 := p.drPost.isLt
  rw [ShiftPadding.pads]
  split_ifs
  · exact ⟨by omega, by omega⟩
  · have hle : drMaxPadSize ≤ irMaxPadSize := by decide
    exact ⟨(Nat.lt_succ_iff.mp h3).trans hle, (Nat.lt_succ_iff.mp h4).trans hle⟩

/-- Shifting `n` padding bits. -/
theorem performShift_pad {h : JtagHandler} (hd : DriverOk h.driver) {n : ℕ} (hn : n ≤ irMaxPadSize)
    (t e : TapState) :
    (performShift h n (some (if t = .shfIr then padDataOne else padDataZero)) none t e).status = .ok ∧
      Moves h (performShift h n (some (if t = .shfIr then padDataOne else padDataZero)) none t
        e).handler { h.active with tapState := e } (List.replicate n (t = .shfIr)) := by
  have hp := performShift_moves hd n (some (if t = .shfIr then padDataOne else padDataZero)) none t e
  rw [Option.getD_none] at hp
  by_cases ht : t = .shfIr
  · simp only [ht, if_true, decide_true] at hp ⊢
    rwa [bitsOf_padDataOne hn] at hp
  · simp only [ht, if_false, decide_false] at hp ⊢
    rwa [bitsOf_padDataZero] at hp

theorem shiftPrefix_moves {h : JtagHandler} (hd : DriverOk h.driver) {n : ℕ} (hn : n ≤ irMaxPadSize) :
    (shiftPrefix h n (if h.active.tapState = .shfIr then padDataOne else padDataZero)
        h.active.tapState).status = .ok ∧
      Moves h (shiftPrefix h n (if h.active.tapState = .shfIr then padDataOne else padDataZero)
          h.active.tapState).handler { h.active with scanState := .run }
        (if h.active.scanState = .done then List.replicate n (h.active.tapState = .shfIr : Bool)
          else []) := by
  have hset : Moves h (h.setScan .run) { h.active with scanState := .run } [] := moves_setActive _ _
  rw [shiftPrefix]
  cases hsc : h.active.scanState with
  | done =>
    rw [if_pos rfl, if_pos rfl]
    dsimp only
    by_cases hn0 : n = 0
    · rw [if_neg (not_not.mpr hn0), hn0]
      exact ⟨rfl, hset⟩
    · have hp := performShift_pad (hset.driverOk hd) hn h.active.tapState h.active.tapState
      rw [hset.active] at hp
      rw [if_pos hn0]
      exact ⟨hp.1, hset.trans hp.2⟩
  | run =>
    have hr := Moves.refl h
    have hc : h.active = { h.active with scanState := .run } := by rw [← hsc]
    rw [hc] at hr
    exact ⟨rfl, hr⟩

theorem shiftData_moves {h : JtagHandler} (hd : DriverOk h.driver) {n : ℕ} (hn : n ≤ irMaxPadSize)
    (hr : h.active.scanState = .run) (r : ShiftRequest) :
    Moves h (shiftData h r.numberOfBits r.input
        (if r.readBack then some (divRoundUp r.numberOfBits 8) else none) n
        (if h.active.tapState = .shfIr then padDataOne else padDataZero) h.active.tapState
        r.endState).handler
      { h.active with
        tapState := r.endState
        scanState := if h.active.tapState = r.endState then .run else .done }
      (r.data ++ if h.active.tapState = r.endState then [] else
        List.replicate n (h.active.tapState = .shfIr : Bool)) := by
  have hout : (if r.readBack then some (divRoundUp r.numberOfBits 8) else none).getD
      (divRoundUp r.numberOfBits 8) = divRoundUp r.numberOfBits 8 := by
    cases r.readBack <;> rfl
  have hset : Moves h (h.setScan .done) { h.active with scanState := .done } [] :=
    moves_setActive _ _
  rw [shiftData]
  by_cases he : h.active.tapState = r.endState
  · -- the shift stays in the state
    have hp := performShift_moves hd r.numberOfBits r.input
      (if r.readBack then some (divRoundUp r.numberOfBits 8) else none) h.active.tapState r.endState
    rw [hout, bitsOf_request r _ rfl] at hp
    rw [if_neg (by simp [he]), if_pos he, if_pos he, List.append_nil]
    dsimp only
    rw [if_neg (by simp [hp.1]), if_neg (by simp [he]), ← hr]
    exact hp.2
  rw [if_neg he, if_neg he]
  by_cases hn0 : n = 0
  · have hp := performShift_moves hd r.numberOfBits r.input
      (if r.readBack then some (divRoundUp r.numberOfBits 8) else none) h.active.tapState r.endState
    rw [hout, bitsOf_request r _ rfl] at hp
    have hm := hp.2.trans (moves_setActive _ { h.active with tapState := r.endState, scanState := .done })
    rw [if_neg (by simp [hn0])]
    dsimp only
    rw [if_neg (by simp [hp.1]), if_pos he, hn0]
    rw [JtagHandler.setScan, hp.2.active]
    exact hm
  · have hp := performShift_moves (hset.driverOk hd) r.numberOfBits r.input
      (if r.readBack then some (divRoundUp r.numberOfBits 8) else none) h.active.tapState
      h.active.tapState
    rw [hout, bitsOf_request r _ rfl, hset.active] at hp
    have hm := hset.trans hp.2
    have hq := performShift_pad (hm.driverOk hd) hn h.active.tapState r.endState
    rw [hm.active] at hq
    rw [if_pos ⟨hn0, he⟩]
    dsimp only
    rw [if_neg (by simp [hp.1]), if_neg (by simp [hq.1])]
    exact hm.trans hq.2

/-- **A shift in a shift state** puts out pre-padding if the chain is not in a scan, the data, and
post-padding if it leaves the state. -/
theorem jtagShift_moves {h : JtagHandler} (hd : DriverOk h.driver) (hsw : h.swMode = true)
    (hs : h.active.tapState.IsShift) (r : ShiftRequest) :
    Moves h (JtagOp.run h (.shift r))
      { h.active with
        tapState := r.endState
        scanState := if h.active.tapState = r.endState then .run else .done }
      ((if h.active.scanState = .done then
          List.replicate (h.active.shiftPadding.pads h.active.tapState).1
            (h.active.tapState = .shfIr : Bool) else []) ++ r.data ++
        (if h.active.tapState = r.endState then [] else
          List.replicate (h.active.shiftPadding.pads h.active.tapState).2
            (h.active.tapState = .shfIr : Bool))) := by
  have hpre := shiftPrefix_moves hd (pads_le h.active.shiftPadding h.active.tapState).1
  have hdata := shiftData_moves (hpre.2.driverOk hd)
    (pads_le h.active.shiftPadding h.active.tapState).2 (by rw [hpre.2.active]) r
  rw [hpre.2.active] at hdata
  rw [List.append_assoc, JtagOp.run, jtagShift, if_neg (by simp [hsw]), shiftPads_eq hs]
  dsimp only
  rw [if_neg (by simp [hpre.1])]
  exact hpre.2.trans hdata

end BmcAsd
