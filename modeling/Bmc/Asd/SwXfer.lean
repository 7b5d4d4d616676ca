import Bmc.Lib.Loop
import Bmc.Asd.Tap

/-!
# Transfers bit by bit

`aspeed_jtag_xfer_sw` of the driver shifts the bits of a transfer with one cycle of `TCK` for each.

* `AspeedJtag`: the driver over a controller that may answer each cycle as it likes; `TckCycle.writes`: the register writes of
  a cycle;
* `aspeedJtagXferSw`: the transfer; `Shifting`: what holds in its loop;
* `BitExact`: the bits, the words and the end state; **`bitExact_iff`**: when they are right.
-/

namespace BmcAsd

open BmcLib

/-! ## Cycles -/

/-- `struct aspeed_jtag`: the two states that it keeps, and the pins. -/
structure AspeedJtag where
  status : TapState
  currentState : TapState
  pins : Device TckCycle Bool

abbrev aspeedJtagSwModeEn : UInt32 := 0x80000
abbrev aspeedJtagSwModeTck : UInt32 := 0x40000
abbrev aspeedJtagSwModeTms : UInt32 := 0x20000
abbrev aspeedJtagSwModeTdio : UInt32 := 0x10000

/-- The writes to `ASPEED_JTAG_SW` of a cycle. -/
def TckCycle.writes (c : TckCycle) : List UInt32 :=
  [aspeedJtagSwModeEn ||| c.tms.toUInt32 * aspeedJtagSwModeTms ||| c.tdi.toUInt32 * aspeedJtagSwModeTdio,
    aspeedJtagSwModeEn ||| aspeedJtagSwModeTck ||| c.tms.toUInt32 * aspeedJtagSwModeTms |||
      c.tdi.toUInt32 * aspeedJtagSwModeTdio]

/-- The rising edges of `TCK` in some writes, with the levels of `TMS` and `TDI`; `tck` is the level before them. -/
def risingEdges : Bool → List UInt32 → List TckCycle
  | _, [] => []
  | tck, w :: ws =>
    let high : Bool := w &&& aspeedJtagSwModeTck ≠ 0
    (if !tck && high then [⟨w &&& aspeedJtagSwModeTms ≠ 0, w &&& aspeedJtagSwModeTdio ≠ 0⟩] else []) ++ risingEdges high ws

/-- The writes of a cycle make one edge, with its levels. -/
theorem risingEdges_writes (tck : Bool) (c : TckCycle) (ws : List UInt32) :
    risingEdges tck (c.writes ++ ws) = c :: risingEdges true ws := by
  obtain ⟨tms, tdi⟩ := c
  cases tck <;> cases tms <;> cases tdi <;> rfl

/-- **The pins of a run.** Its writes make its cycles. -/
theorem risingEdges_flatMap_writes (tck : Bool) (cs : List TckCycle) : risingEdges tck (cs.flatMap TckCycle.writes) = cs := by
  induction cs generalizing tck with
  | nil => rfl
  | cons c cs ih => rw [List.flatMap_cons, risingEdges_writes, ih]

namespace AspeedJtag

/-- `aspeed_jtag_tck_cycle` -/
def tckCycle (j : AspeedJtag) (tms tdi : Bool) : Bool × AspeedJtag :=
  (j.pins.answer, { j with pins := j.pins.call ⟨tms, tdi⟩ })

/-- `aspeed_jtag_set_tap_state`; without a source it is `JTAG_STATE_CURRENT`. -/
def setTapState (j : AspeedJtag) (src : Option TapState) (dst : TapState) : AspeedJtag :=
  let src := src.getD j.status
  let j := (tmsCycleLookup src dst).levels.foldl (fun j tms => (j.tckCycle tms false).2) j
  { j with currentState := dst }

end AspeedJtag

/-! ## Transfers -/

/-- `enum jtag_xfer_type` -/
inductive JtagXferType
  | sir | sdr
  deriving DecidableEq

abbrev jtagWriteXfer : UInt8 := 2

/-- `struct jtag_xfer`, without its padding, which is not for this way of shifting. -/
structure JtagXfer where
  type : JtagXferType
  direction : UInt8
  src : Option TapState
  endState : TapState
  length : ℕ

namespace JtagXfer

/-- `JTAG_STATE_SHIFTIR` or `JTAG_STATE_SHIFTDR`. -/
def shift (x : JtagXfer) : TapState := if x.type = .sir then .shfIr else .shfDr

/-- `JTAG_STATE_EXIT1IR` or `JTAG_STATE_EXIT1DR`. -/
def exit1 (x : JtagXfer) : TapState := if x.type = .sir then .ex1Ir else .ex1Dr

/-- `ASPEED_JTAG_GET_TDI` -/
def getTdi (x : JtagXfer) (word : UInt32) : UInt32 := if x.direction &&& jtagWriteXfer ≠ 0 then word else 0xffffffff

end JtagXfer

/-- The words at `data`, with the indices that have been used. -/
structure XferWords where
  data : ℕ → UInt32
  touched : List ℕ

/-- Read or write a word. -/
def XferWords.set (w : XferWords) (i : ℕ) (word : UInt32) : XferWords where
  data := Function.update w.data i word
  touched := i :: w.touched

/-- The variables of `aspeed_jtag_xfer_sw`. -/
structure SwXfer where
  jtag : AspeedJtag
  words : XferWords
  remainXfer : ℕ
  shiftBits : ℕ
  index : ℕ
  tdi : UInt32

namespace SwXfer

/-- `tdi = ASPEED_JTAG_GET_TDI(..., data[index]); data[index] = 0;`. -/
def loadTdi (s : SwXfer) (x : JtagXfer) : SwXfer :=
  { s with tdi := x.getTdi (s.words.data s.index), words := s.words.set s.index 0 }

/-- `tdo = aspeed_jtag_tck_cycle(..., tms, tdi & ASPEED_JTAG_DATA_MSB); data[index] |= tdo << ...;`. -/
def shiftBit (s : SwXfer) (tms : Bool) : SwXfer :=
  let r := s.jtag.tckCycle tms (s.tdi &&& 1 = 1)
  { s with
    jtag := r.2
    words := s.words.set s.index (s.words.data s.index ||| r.1.toUInt32 <<< UInt32.ofNat (s.shiftBits % 32)) }

/-- The loop condition. -/
def goesOn (s : SwXfer) : Bool := 1 < s.remainXfer

/-- One round of the loop. -/
def round (x : JtagXfer) (s : SwXfer) : SwXfer :=
  let s := s.shiftBit false
  let s := { s with tdi := s.tdi >>> 1, shiftBits := s.shiftBits + 1, remainXfer := s.remainXfer - 1 }
  if s.shiftBits % 32 = 0 then loadTdi { s with index := s.index + 1 } x else s

/-- The variables before the loop. -/
def start (j : AspeedJtag) (x : JtagXfer) (data : ℕ → UInt32) : SwXfer :=
  loadTdi { jtag := j.setTapState x.src x.shift, words := ⟨data, []⟩, remainXfer := x.length, shiftBits := 0,
            index := 0, tdi := 0 } x

/-- The last bit, and the way to the end state. -/
def finish (x : JtagXfer) (s : SwXfer) : SwXfer :=
  if x.endState = x.shift then s.shiftBit false
  else
    let s := s.shiftBit true
    { s with jtag := { s.jtag with status := x.exit1 }.setTapState (some x.exit1) x.endState }

end SwXfer

/-- `aspeed_jtag_xfer_sw` -/
def aspeedJtagXferSw (j : AspeedJtag) (x : JtagXfer) (data : ℕ → UInt32) : SwXfer :=
  (whileN SwXfer.goesOn (SwXfer.round x) x.length (SwXfer.start j x data)).finish x

/-! ## Bits of words -/

/-- The bit `i` of the words. -/
def wordBit (data : ℕ → UInt32) (i : ℕ) : Bool := (data (i / 32)).toNat.testBit (i % 32)

/-- The bit `i` to be shifted: of the data, or a one when nothing is written. -/
def JtagXfer.bit (x : JtagXfer) (data : ℕ → UInt32) (i : ℕ) : Bool :=
  if x.direction &&& jtagWriteXfer ≠ 0 then wordBit data i else true

section Bits

variable {x : JtagXfer} {data : ℕ → UInt32} {w : UInt32}

theorem testBit_getTdi (w : UInt32) {b : ℕ} (hb : b < 32) :
    (x.getTdi w).toNat.testBit b = if x.direction &&& jtagWriteXfer ≠ 0 then w.toNat.testBit b else true := by
  rw [JtagXfer.getTdi]
  split_ifs
  · rfl
  · interval_cases b <;> rfl

theorem decide_and_one (w : UInt32) : decide (w &&& 1 = 1) = w.toNat.testBit 0 := by
  have hone : w &&& 1 = 1 ↔ w.toNat % 2 = 1 := by
    rw [← UInt32.toNat_inj, UInt32.toNat_and]
    exact Eq.congr_left (Nat.and_one_is_mod _)
  rw [Nat.testBit_zero, decide_eq_decide]
  exact hone

theorem testBit_shiftRight_one (w : UInt32) (b : ℕ) : (w >>> 1).toNat.testBit b = w.toNat.testBit (b + 1) := by
  rw [UInt32.toNat_shiftRight]
  change (w.toNat >>> 1).testBit b = _
  rw [Nat.testBit_shiftRight, Nat.add_comm]

/-- A bit that is put at a place. -/
theorem testBit_or_bit (w : UInt32) (tdo : Bool) {m b : ℕ} (hm : m < 32) (hb : b < 32) :
    (w ||| tdo.toUInt32 <<< UInt32.ofNat m).toNat.testBit b = (w.toNat.testBit b || (tdo && decide (b = m))) := by
  have hshift : (UInt32.ofNat m).toNat % 32 = m := by
    rw [UInt32.toNat_ofNat']
    omega
  rw [UInt32.toNat_or, Nat.testBit_or, UInt32.toNat_shiftLeft, hshift, Nat.testBit_mod_two_pow, decide_eq_true hb,
    Bool.true_and]
  congr 1
  cases tdo with
  | false =>
    change ((0 : ℕ) <<< m).testBit b = false
    rw [Nat.zero_shiftLeft, Nat.zero_testBit]
  | true =>
    change ((1 : ℕ) <<< m).testBit b = decide (b = m)
    rw [Nat.one_shiftLeft, Nat.testBit_two_pow, decide_eq_decide, eq_comm]

end Bits

/-! ## The loop -/

/-- What holds after `k` rounds, over pins `d` that have just been brought to the shift state. -/
structure Shifting (d : Device TckCycle Bool) (x : JtagXfer) (data : ℕ → UInt32) (k : ℕ) (s : SwXfer) : Prop where
  remain : s.remainXfer + k = x.length
  shiftBits : s.shiftBits = k
  index : s.index = k / 32
  tdi : ∀ b, k % 32 + b < 32 → s.tdi.toNat.testBit b = x.bit data (k + b)
  pins : s.jtag.pins = d.calls ((List.range k).map fun i => ⟨false, x.bit data i⟩)
  stored : ∀ i, i / 32 ≤ k / 32 → wordBit s.words.data i = (decide (i < k) && d.ahead i)
  ahead : ∀ w, k / 32 < w → s.words.data w = data w
  touched : ∀ w ∈ s.words.touched, w ≤ k / 32

section Loop

variable {d : Device TckCycle Bool} {x : JtagXfer} {data : ℕ → UInt32} {k : ℕ} {s : SwXfer}

/-- The next words are loaded. -/
theorem testBit_load {w b : ℕ} (hb : b < 32) : (x.getTdi (data w)).toNat.testBit b = x.bit data (32 * w + b) := by
  rw [testBit_getTdi _ hb, JtagXfer.bit, wordBit, show (32 * w + b) / 32 = w by omega, show (32 * w + b) % 32 = b by omega]

theorem shifting_start (j : AspeedJtag) (x : JtagXfer) (data : ℕ → UInt32) :
    Shifting (j.setTapState x.src x.shift).pins x data 0 (SwXfer.start j x data) where
  remain := rfl
  shiftBits := rfl
  index := rfl
  tdi b hb := by
    rw [Nat.zero_mod, Nat.zero_add] at hb
    rw [Nat.zero_add]
    exact (testBit_load (w := 0) hb).trans (by rw [Nat.mul_zero, Nat.zero_add])
  pins := (Device.calls_nil _).symm
  stored i hi := by
    have hzero : i / 32 = 0 := Nat.le_zero.1 hi
    rw [wordBit, hzero]
    exact Nat.zero_testBit _
  ahead w hw := Function.update_of_ne (Nat.ne_of_gt hw) _ _
  touched w hw := by
    exact (List.mem_singleton.1 hw).le

/-- The words, the pins and the driver after one more bit. -/
structure Shifted (d : Device TckCycle Bool) (x : JtagXfer) (data : ℕ → UInt32) (k : ℕ) (tms : Bool) (s : SwXfer) : Prop where
  pins : s.jtag.pins = d.calls (((List.range k).map fun i => ⟨false, x.bit data i⟩) ++ [⟨tms, x.bit data k⟩])
  stored : ∀ i, i / 32 ≤ k / 32 → wordBit s.words.data i = (decide (i < k + 1) && d.ahead i)
  ahead : ∀ w, k / 32 < w → s.words.data w = data w
  touched : ∀ w ∈ s.words.touched, w ≤ k / 32

/-- **One bit.** -/
theorem Shifting.shiftBit (h : Shifting d x data k s) (tms : Bool) : Shifted d x data k tms (s.shiftBit tms) where
  pins := by
    have htdi : decide (s.tdi &&& 1 = 1) = x.bit data k := by
      rw [decide_and_one]
      exact h.tdi 0 (by omega)
    change s.jtag.pins.call ⟨tms, decide (s.tdi &&& 1 = 1)⟩ = _
    rw [htdi, h.pins, Device.call_eq_calls, Device.calls_calls]
  stored i hi := by
    have htdo : s.jtag.pins.answer = d.ahead k := by
      rw [← Device.ahead_zero, h.pins, Device.ahead_calls, List.length_map, List.length_range, Nat.add_zero]
    have hold := h.stored i hi
    change wordBit (Function.update s.words.data s.index
      (s.words.data s.index ||| s.jtag.pins.answer.toUInt32 <<< UInt32.ofNat (s.shiftBits % 32))) i = _
    rw [wordBit, h.index, h.shiftBits, htdo]
    by_cases hword : i / 32 = k / 32
    · rw [hword, Function.update_self, testBit_or_bit _ _ (by omega) (by omega), ← hword]
      change (wordBit s.words.data i || (d.ahead k && decide (i % 32 = k % 32))) = _
      rw [hold]
      by_cases hk : i = k
      · subst hk
        simp
      · have hlow : ¬ i % 32 = k % 32 := by omega
        have hlt : i < k + 1 ↔ i < k := by omega
        simp [hlow, hlt]
    · rw [Function.update_of_ne hword]
      have hlt : i < k + 1 ↔ i < k := by omega
      rw [decide_eq_decide.2 hlt]
      exact hold
  ahead w hw := (Function.update_of_ne (by rw [h.index]; omega) _ _).trans (h.ahead w hw)
  touched w hw := by
    rcases List.mem_cons.1 hw with rfl | hw
    · exact h.index.le
    · exact h.touched w hw

/-- **One round.** -/
theorem Shifting.round (h : Shifting d x data k s) (hgo : s.goesOn = true) : Shifting d x data (k + 1) (s.round x) := by
  have hmore : 1 < s.remainXfer := of_decide_eq_true hgo
  have hremain : s.remainXfer - 1 + (k + 1) = x.length := by
    have := h.remain
    omega
  have hbit := h.shiftBit false
  have hpins : (s.shiftBit false).jtag.pins = d.calls ((List.range (k + 1)).map fun i => ⟨false, x.bit data i⟩) := by
    rw [hbit.pins, List.range_succ, List.map_append]
    rfl
  have hcount : (s.shiftBit false).shiftBits + 1 = k + 1 := congrArg (· + 1) h.shiftBits
  have hindex : (s.shiftBit false).index = k / 32 := h.index
  rw [SwXfer.round]
  dsimp only
  rw [hcount]
  split_ifs with hword
  · -- the next word begins
    have hnext : k / 32 + 1 = (k + 1) / 32 := by omega
    have hplace : (k + 1) % 32 = 0 := hword
    rw [SwXfer.loadTdi]
    dsimp only
    rw [hindex, hnext]
    refine ⟨hremain, rfl, rfl, ?_, hpins, ?_, ?_, ?_⟩
    · intro b hb
      rw [hbit.ahead _ (by omega), testBit_load (by omega)]
      congr 1
      omega
    · intro i hi
      by_cases hnew : i / 32 = (k + 1) / 32
      · have hlater : ¬ i < k + 1 := by omega
        have hzero : Function.update (s.shiftBit false).words.data ((k + 1) / 32) 0 ((k + 1) / 32) = 0 := Function.update_self ..
        rw [decide_eq_false hlater, Bool.false_and, wordBit, hnew]
        exact (congrArg (fun w : UInt32 => w.toNat.testBit (i % 32)) hzero).trans (Nat.zero_testBit _)
      · rw [← hbit.stored i (by omega)]
        exact congrArg (fun w : UInt32 => w.toNat.testBit (i % 32)) (Function.update_of_ne hnew _ _)
    · intro w hw
      exact (Function.update_of_ne (Nat.ne_of_gt hw) _ _).trans (hbit.ahead w (by omega))
    · intro w hw
      rcases List.mem_cons.1 hw with rfl | hw
      · exact le_refl _
      · exact (hbit.touched w hw).trans (by omega)
  · have hsame : (k + 1) / 32 = k / 32 := by omega
    have hplace : (k + 1) % 32 = k % 32 + 1 := by omega
    refine ⟨hremain, rfl, hindex.trans hsame.symm, ?_, hpins, ?_, ?_, ?_⟩
    · intro b hb
      change (s.tdi >>> 1).toNat.testBit b = _
      rw [testBit_shiftRight_one, h.tdi (b + 1) (by omega)]
      congr 1
      omega
    · rw [hsame]
      exact hbit.stored
    · rw [hsame]
      exact hbit.ahead
    · rw [hsame]
      exact hbit.touched

/-- **The loop** shifts all bits but the last. -/
theorem shifting_loop (j : AspeedJtag) {x : JtagXfer} (hn : 1 ≤ x.length) (data : ℕ → UInt32) :
    Shifting (j.setTapState x.src x.shift).pins x data (x.length - 1)
      (whileN SwXfer.goesOn (SwXfer.round x) x.length (SwXfer.start j x data)) := by
  have hinv : ∃ k, k < x.length ∧ Shifting (j.setTapState x.src x.shift).pins x data k
      (whileN SwXfer.goesOn (SwXfer.round x) x.length (SwXfer.start j x data)) := by
    refine whileN_inv (P := fun s => ∃ k, k < x.length ∧ Shifting _ x data k s) ?_ ⟨0, hn, shifting_start j x data⟩ _
    rintro s ⟨k, hk, h⟩ hgo
    have hmore : 1 < s.remainXfer := of_decide_eq_true hgo
    have hremain := h.remain
    exact ⟨k + 1, by omega, h.round hgo⟩
  have hdone := whileN_done (c := SwXfer.goesOn) (f := SwXfer.round x)
    (P := fun s => ∃ k, k < x.length ∧ Shifting (j.setTapState x.src x.shift).pins x data k s) SwXfer.remainXfer ?_
    ⟨0, hn, shifting_start j x data⟩ (le_refl x.length)
  · obtain ⟨k, hk, h⟩ := hinv
    have hremain := h.remain
    have hlast : ¬ 1 < SwXfer.remainXfer _ := of_decide_eq_false hdone
    have hk' : k = x.length - 1 := by omega
    exact hk' ▸ h
  · rintro s ⟨k, hk, h⟩ hgo
    have hmore : 1 < s.remainXfer := of_decide_eq_true hgo
    have hremain := h.remain
    have hnext := h.round hgo
    refine ⟨⟨k + 1, by omega, hnext⟩, ?_⟩
    have hremain' := hnext.remain
    omega

end Loop

/-! ## The way to a state and back -/

/-- The cycles that walk some levels of `TMS`. -/
def walkTrace (d : Device TckCycle Bool) (levels : List Bool) : Trace :=
  d.transcript (d.calls (levels.map fun tms => ⟨tms, false⟩))

theorem levels_walkTrace (d : Device TckCycle Bool) (levels : List Bool) : (walkTrace d levels).levels = levels := by
  rw [walkTrace, Device.transcript_calls, Trace.levels]
  exact List.ext_getElem (by simp) fun i _ _ => by simp

theorem tdi_walkTrace {d : Device TckCycle Bool} {levels : List Bool} : ∀ p ∈ walkTrace d levels, p.1.tdi = false := by
  intro p hp
  rw [walkTrace, Device.transcript_calls, List.mem_mapIdx] at hp
  obtain ⟨i, hi, rfl⟩ := hp
  rw [List.getElem_map]

theorem pins_setTapState (j : AspeedJtag) (src : Option TapState) (dst : TapState) :
    (j.setTapState src dst).pins =
      j.pins.calls ((tmsCycleLookup (src.getD j.status) dst).levels.map fun tms => ⟨tms, false⟩) := by
  have hfold (levels : List Bool) (j : AspeedJtag) :
      (levels.foldl (fun j tms => (j.tckCycle tms false).2) j).pins =
        j.pins.calls (levels.map fun tms => ⟨tms, false⟩) := by
    induction levels generalizing j with
    | nil => exact (Device.calls_nil _).symm
    | cons tms levels ih =>
      rw [List.foldl_cons, ih, List.map_cons]
      exact Device.calls_calls _ [_] _
  exact hfold _ j

/-! ## The whole transfer -/

/-- The cycles of a transfer, with the answers of the pins. -/
def xferTrace (j : AspeedJtag) (x : JtagXfer) (data : ℕ → UInt32) : Trace :=
  j.pins.transcript (aspeedJtagXferSw j x data).jtag.pins

/-- **A transfer is exact** when the controller is in the state `tap` before it: the bits that the register sees, the words
that are stored, and the end state. -/
structure BitExact (j : AspeedJtag) (tap : TapState) (x : JtagXfer) (data : ℕ → UInt32) : Prop where
  tdi : (clocked x.shift tap (xferTrace j x data)).map (fun p => p.1.tdi) = (List.range x.length).map (x.bit data)
  tdo : (clocked x.shift tap (xferTrace j x data)).map Prod.snd =
    (List.range x.length).map (wordBit (aspeedJtagXferSw j x data).words.data)
  touched : ∀ w ∈ (aspeedJtagXferSw j x data).words.touched, w < (x.length + 31) / 32
  untouched : ∀ w, (x.length + 31) / 32 ≤ w → (aspeedJtagXferSw j x data).words.data w = data w
  endState : tapAfter tap (xferTrace j x data) = x.endState

/-- The levels to the shift state. -/
def JtagXfer.wayIn (x : JtagXfer) (j : AspeedJtag) : List Bool := (tmsCycleLookup (x.src.getD j.status) x.shift).levels

/-- The levels from behind the last bit to the end state. -/
def JtagXfer.wayOut (x : JtagXfer) : List Bool :=
  if x.endState = x.shift then [] else (tmsCycleLookup x.exit1 x.endState).levels

/-- The table leads the controller from the state `tap` to the shift state, and not earlier than at the end. -/
def Arrives (j : AspeedJtag) (tap : TapState) (x : JtagXfer) : Prop :=
  tap.walk (x.wayIn j) = x.shift ∧ ∀ k < (x.wayIn j).length, tap.walk ((x.wayIn j).take k) ≠ x.shift

/-- The cycles of the bits: the last one leaves the shift state unless the transfer ends in it. -/
def bitCycles (x : JtagXfer) (data : ℕ → UInt32) : List TckCycle :=
  ((List.range (x.length - 1)).map fun i => ⟨false, x.bit data i⟩) ++
    [⟨decide (x.endState ≠ x.shift), x.bit data (x.length - 1)⟩]

section Whole

variable {j : AspeedJtag} {tap : TapState} {x : JtagXfer} {data : ℕ → UInt32}

/-- The bits as they come in a transfer. -/
theorem shifted_xfer (j : AspeedJtag) (hn : 1 ≤ x.length) (data : ℕ → UInt32) :
    ∃ s, Shifted (j.setTapState x.src x.shift).pins x data (x.length - 1) (decide (x.endState ≠ x.shift)) s ∧
      (aspeedJtagXferSw j x data).words = s.words ∧
      (aspeedJtagXferSw j x data).jtag.pins = s.jtag.pins.calls (x.wayOut.map fun tms => ⟨tms, false⟩) := by
  have hloop := shifting_loop j hn data
  refine ⟨_, hloop.shiftBit _, ?_⟩
  rw [aspeedJtagXferSw, SwXfer.finish, JtagXfer.wayOut]
  by_cases he : x.endState = x.shift
  · rw [if_pos he, if_pos he, decide_eq_false (not_not.2 he)]
    exact ⟨rfl, (Device.calls_nil _).symm⟩
  · rw [if_neg he, if_neg he, decide_eq_true he]
    exact ⟨rfl, pins_setTapState _ _ _⟩

/-- **The cycles of a transfer**: the way in, the bits, the way out. -/
theorem xferTrace_eq (j : AspeedJtag) (hn : 1 ≤ x.length) (data : ℕ → UInt32) :
    let d := j.pins.calls ((x.wayIn j).map fun tms => ⟨tms, false⟩)
    xferTrace j x data = walkTrace j.pins (x.wayIn j) ++ d.transcript (d.calls (bitCycles x data)) ++
      walkTrace (d.calls (bitCycles x data)) x.wayOut := by
  intro d
  obtain ⟨s, hs, -, hpins⟩ := shifted_xfer j hn data
  have hd : (j.setTapState x.src x.shift).pins = d := pins_setTapState _ _ _
  have hall : (d.calls (bitCycles x data)).calls (x.wayOut.map fun tms => ⟨tms, false⟩) =
      j.pins.calls (((x.wayIn j).map fun tms => ⟨tms, false⟩) ++
        (bitCycles x data ++ x.wayOut.map fun tms => ⟨tms, false⟩)) := by
    rw [Device.calls_calls, Device.calls_calls]
  rw [xferTrace, hpins, hs.pins, hd]
  change j.pins.transcript ((d.calls (bitCycles x data)).calls _) = _
  rw [hall, Device.transcript_calls_append, Device.transcript_calls_append, ← List.append_assoc]
  rfl

theorem shift_next (x : JtagXfer) : x.shift.next false = x.shift ∧ x.shift.next true = x.exit1 := by
  rw [JtagXfer.shift, JtagXfer.exit1]
  split_ifs <;> exact ⟨rfl, rfl⟩

theorem shift_exit1 (x : JtagXfer) :
    x.shift = .shfDr ∧ x.exit1 = .ex1Dr ∨ x.shift = .shfIr ∧ x.exit1 = .ex1Ir := by
  rw [JtagXfer.shift, JtagXfer.exit1]
  split_ifs
  · exact .inr ⟨rfl, rfl⟩
  · exact .inl ⟨rfl, rfl⟩

theorem length_bitCycles (hn : 1 ≤ x.length) : (bitCycles x data).length = x.length := by
  rw [bitCycles, List.length_append, List.length_map, List.length_range, List.length_singleton]
  omega

/-- In the shift state all bits are seen. -/
theorem clocked_bits (d : Device TckCycle Bool) (x : JtagXfer) (data : ℕ → UInt32) :
    let t := d.transcript (d.calls (bitCycles x data))
    clocked x.shift x.shift t = t ∧ tapAfter x.shift t = if x.endState = x.shift then x.shift else x.exit1 := by
  intro t
  have ht : t = d.transcript (d.calls ((List.range (x.length - 1)).map fun i => ⟨false, x.bit data i⟩)) ++
      [(⟨decide (x.endState ≠ x.shift), x.bit data (x.length - 1)⟩, d.ahead (x.length - 1))] := by
    change d.transcript (d.calls (_ ++ _)) = _
    rw [Device.transcript_calls_append, ← Device.call_eq_calls, Device.transcript_call, ← Device.ahead_zero,
      Device.ahead_calls, List.length_map, List.length_range, Nat.add_zero]
  have hstay := clocked_stay (s := x.shift)
    (t := d.transcript (d.calls ((List.range (x.length - 1)).map fun i => ⟨false, x.bit data i⟩))) (shift_next x).1 ?_
  · rw [ht, clocked_append, tapAfter_append, hstay.1, hstay.2, clocked, if_pos rfl]
    refine ⟨rfl, ?_⟩
    change x.shift.next (decide (x.endState ≠ x.shift)) = _
    by_cases he : x.endState = x.shift
    · rw [if_pos he, decide_eq_false (not_not.2 he), (shift_next x).1]
    · rw [if_neg he, decide_eq_true he, (shift_next x).2]
  · intro p hp
    rw [Device.transcript_calls_range] at hp
    obtain ⟨i, -, rfl⟩ := List.mem_map.1 hp
    rfl

theorem tdi_bits (d : Device TckCycle Bool) (hn : 1 ≤ x.length) (data : ℕ → UInt32) :
    (d.transcript (d.calls (bitCycles x data))).map (fun p => p.1.tdi) = (List.range x.length).map (x.bit data) := by
  have hcycles : (bitCycles x data).map TckCycle.tdi = (List.range x.length).map (x.bit data) := by
    rw [bitCycles, List.map_append, List.map_map, show x.length = x.length - 1 + 1 by omega, List.range_succ, List.map_append]
    rfl
  rw [← hcycles, Device.transcript_calls]
  exact List.ext_getElem (by simp) fun i _ _ => by simp

theorem tdo_bits (d : Device TckCycle Bool) (hn : 1 ≤ x.length) (data : ℕ → UInt32) :
    (d.transcript (d.calls (bitCycles x data))).map Prod.snd = (List.range x.length).map d.ahead := by
  rw [Device.transcript_calls]
  exact List.ext_getElem (by simp [length_bitCycles hn]) fun i _ _ => by simp

/-- The words after a transfer. -/
theorem words_xfer (j : AspeedJtag) (hn : 1 ≤ x.length) (data : ℕ → UInt32) :
    let r := aspeedJtagXferSw j x data
    (∀ i < x.length, wordBit r.words.data i = (j.pins.calls ((x.wayIn j).map fun tms => ⟨tms, false⟩)).ahead i) ∧
      (∀ w, (x.length + 31) / 32 ≤ w → r.words.data w = data w) ∧ ∀ w ∈ r.words.touched, w < (x.length + 31) / 32 := by
  intro r
  obtain ⟨s, hs, hwords, -⟩ := shifted_xfer j hn data
  have hd : (j.setTapState x.src x.shift).pins = j.pins.calls ((x.wayIn j).map fun tms => ⟨tms, false⟩) :=
    pins_setTapState _ _ _
  rw [hd] at hs
  change (∀ i < x.length, wordBit (aspeedJtagXferSw j x data).words.data i = _) ∧ _
  rw [hwords]
  refine ⟨fun i hi => ?_, fun w hw => hs.ahead w (by omega), fun w hw => ?_⟩
  · rw [hs.stored i (by omega), decide_eq_true (by omega), Bool.true_and]
  · have hle := hs.touched w hw
    omega

/-- **A transfer that arrives** is exact. -/
theorem bitExact_of_arrives (h : Arrives j tap x) (hn : 1 ≤ x.length) (data : ℕ → UInt32) : BitExact j tap x data := by
  obtain ⟨hstored, huntouched, htouched⟩ := words_xfer j hn data
  set d := j.pins.calls ((x.wayIn j).map fun tms => ⟨tms, false⟩)
  have htrace := xferTrace_eq j hn data
  obtain ⟨hseen, hleft⟩ := clocked_bits d x data
  have hin : tapAfter tap (walkTrace j.pins (x.wayIn j)) = x.shift ∧
      clocked x.shift tap (walkTrace j.pins (x.wayIn j)) = [] := by
    rw [tapAfter_eq_walk, clocked_eq_nil_iff, levels_walkTrace]
    exact h
  have hout : tapAfter (if x.endState = x.shift then x.shift else x.exit1) (walkTrace (d.calls (bitCycles x data)) x.wayOut) =
      x.endState ∧ clocked x.shift (if x.endState = x.shift then x.shift else x.exit1)
        (walkTrace (d.calls (bitCycles x data)) x.wayOut) = [] := by
    rw [tapAfter_eq_walk, clocked_eq_nil_iff, levels_walkTrace, JtagXfer.wayOut]
    by_cases he : x.endState = x.shift
    · rw [if_pos he, if_pos he]
      exact ⟨he.symm, fun k hk => absurd hk (Nat.not_lt_zero k)⟩
    · rw [if_neg he, if_neg he]
      exact ⟨walk_tmsCycle _ _, (walk_tmsCycle_take (shift_exit1 x) x.endState).2 he⟩
  have hclocked : clocked x.shift tap (xferTrace j x data) = d.transcript (d.calls (bitCycles x data)) := by
    rw [htrace, clocked_append, clocked_append, tapAfter_append, hin.1, hin.2, hseen, hleft, hout.2, List.nil_append,
      List.append_nil]
  refine ⟨?_, ?_, htouched, huntouched, ?_⟩
  · rw [hclocked, tdi_bits d hn]
  · rw [hclocked, tdo_bits d hn]
    exact List.map_congr_left fun i hi => (hstored i (List.mem_range.1 hi)).symm
  · rw [htrace, tapAfter_append, tapAfter_append, hin.1, hleft, hout.1]

/-- When nothing but ones are seen, no cycle of a walk is seen. -/
theorem clocked_walk_nil {r s : TapState} {d : Device TckCycle Bool} {levels : List Bool}
    (h : ∀ p ∈ clocked r s (walkTrace d levels), p.1.tdi = true) : clocked r s (walkTrace d levels) = [] :=
  List.eq_nil_iff_forall_not_mem.2 fun p hp =>
    absurd ((h p hp).symm.trans (tdi_walkTrace p (clocked_subset p hp))) (by decide)

/-- **A transfer that is exact** for ones arrives. -/
theorem arrives_of_bitExact (hn : 1 ≤ x.length) (h : BitExact j tap x fun _ => 0xffffffff) : Arrives j tap x := by
  have hbit : ∀ i, x.bit (fun _ => 0xffffffff) i = true := by
    intro i
    rw [JtagXfer.bit, wordBit]
    split_ifs
    · have hlt : i % 32 < 32 := Nat.mod_lt _ (by decide)
      generalize i % 32 = b at hlt
      interval_cases b <;> rfl
    · rfl
  have hones : ∀ p ∈ clocked x.shift tap (xferTrace j x fun _ => 0xffffffff), p.1.tdi = true := by
    intro p hp
    have hmem := List.mem_map_of_mem (f := fun p : TckCycle × Bool => p.1.tdi) hp
    rw [h.tdi] at hmem
    obtain ⟨i, -, hi⟩ := List.mem_map.1 hmem
    exact hi.symm.trans (hbit i)
  have hlen := congrArg List.length h.tdi
  rw [List.length_map, List.length_map, List.length_range] at hlen
  have htrace := xferTrace_eq j hn fun _ => 0xffffffff
  set d := j.pins.calls ((x.wayIn j).map fun tms => ⟨tms, false⟩)
  rw [htrace, clocked_append, clocked_append] at hones hlen
  have hin := clocked_walk_nil fun p hp => hones p (List.mem_append_left _ (List.mem_append_left _ hp))
  have hout := clocked_walk_nil fun p hp => hones p (List.mem_append_right _ hp)
  rw [hin, hout, List.nil_append, List.append_nil] at hlen
  have hbits : (d.transcript (d.calls (bitCycles x fun _ => 0xffffffff))).length = x.length := by
    rw [Device.transcript_calls, List.length_mapIdx, length_bitCycles hn]
  have hfirst := eq_of_length_clocked ?_ (hlen.trans hbits.symm)
  · rw [tapAfter_eq_walk, levels_walkTrace] at hfirst
    rw [clocked_eq_nil_iff, levels_walkTrace] at hin
    exact ⟨hfirst, hin⟩
  · intro hnil
    rw [hnil, List.length_nil] at hbits
    omega

/-- **Bit exact.** The transfers over some pins are exact, whatever the data are, exactly when the way in leads from where the
controller is to the shift state. -/
theorem bitExact_iff (j : AspeedJtag) (tap : TapState) (x : JtagXfer) (hn : 1 ≤ x.length) :
    (∀ data, BitExact j tap x data) ↔ Arrives j tap x :=
  ⟨fun h => arrives_of_bitExact hn (h _), fun h data => bitExact_of_arrives h hn data⟩

/-- A transfer from the state that it names arrives. -/
theorem arrives_of_named (h : x.src.getD j.status = tap) : Arrives j tap x := by
  rw [Arrives, JtagXfer.wayIn, h]
  exact ⟨walk_tmsCycle _ _, (walk_tmsCycle_take (shift_exit1 x) tap).1⟩

end Whole

/-- A driver after a reset. -/
def resetJtag : AspeedJtag := ⟨.tlr, .tlr, ⟨fun n => n % 3 = 0, []⟩⟩

/-- Thirty-three bits of the data register, from the state that is named. -/
theorem bitExact_pauseDr : BitExact resetJtag .tlr ⟨.sdr, 3, some .tlr, .pauDr, 33⟩ fun _ => 0xA5A5A5A5 :=
  (bitExact_iff resetJtag .tlr ⟨.sdr, 3, some .tlr, .pauDr, 33⟩ (by decide)).2 (arrives_of_named rfl) _

/-- The controller is brought to Pause-IR. -/
def pausedJtag : AspeedJtag := resetJtag.setTapState (some .tlr) .pauIr

/-- Then one bit is shifted from the current state, but the driver takes it to be another one. -/
theorem not_bitExact_current :
    tapAfter .tlr (resetJtag.pins.transcript pausedJtag.pins) = .pauIr ∧
      ¬ BitExact pausedJtag .pauIr ⟨.sdr, 2, none, .pauDr, 1⟩ fun _ => 0 := by
  refine ⟨by decide +kernel, fun h => ?_⟩
  exact absurd h.endState (by decide +kernel)

end BmcAsd
