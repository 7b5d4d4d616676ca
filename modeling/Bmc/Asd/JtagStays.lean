import Bmc.Lib.Loop
import Bmc.Asd.JtagPadding

/-!
# Padding of JTAG scans

An observer cuts the bits that reach the driver into the stays of each chain in a shift state.

* `Watched.observe`: one operation of the handler, seen by the observer;
* `Watched.Coherent`: the invariant of an observed run, kept by `observe_spec`;
* **`Watched.allPadded_iff`**: every stay is padded exactly once, on both sides, exactly if no step
  of the run leaves a shift state behind the back of `JTAG_shift`.
-/

namespace BmcAsd

open BmcLib

/-! ## Stays -/

/-- A stay of a chain in a shift state: the bits that reached the driver, and the data bits, the
pre-padding at the first shift and the post-padding on leaving. -/
structure Stay where
  state : TapState
  shifted : Bool
  emitted : List Bool
  data : List Bool
  pre : ℕ
  post : ℕ

namespace Stay

/-- A stay that begins. -/
def enter (s : TapState) : Option Stay :=
  if s.IsShift then some ⟨s, false, [], [], 0, 0⟩ else none

/-- Ones pad the instruction register, zeros the data register. -/
def padBit (s : Stay) : Bool := s.state = .shfIr

/-- The stay after the operation `op` that starts with padding `p` and shifts `bits`. -/
def extend (s : Stay) (p : ShiftPadding) (op : JtagOp) (bits : List Bool) : Stay :=
  match op with
  | .shift r =>
    { s with shifted := true, emitted := s.emitted ++ bits, data := s.data ++ r.data,
             pre := if s.shifted then s.pre else (p.pads s.state).1 }
  | _ => { s with emitted := s.emitted ++ bits }

/-- The stay left with padding `p`; a stay without a shift is no scan and has no padding. -/
def leave (s : Stay) (p : ShiftPadding) : Stay :=
  { s with post := if s.shifted then (p.pads s.state).2 else 0 }

/-- The padding of a stay is emitted exactly once, before and after all of its data. -/
def Padded (s : Stay) : Prop :=
  s.emitted = List.replicate s.pre s.padBit ++ s.data ++ List.replicate s.post s.padBit

end Stay

instance (s : Stay) : Decidable s.Padded := inferInstanceAs (Decidable (_ = _))

/-- The handler with the stays of its chains: those that are over, and the current ones. -/
structure Watched where
  handler : JtagHandler
  current : ScanChain → Option Stay
  finished : ScanChain → List Stay

namespace Watched

/-- One operation. -/
def observe (w : Watched) (op : JtagOp) : Watched :=
  let h := op.run w.handler
  let c := w.handler.activeChain
  let tap := (h.chains c).tapState
  match w.current c with
  | none => { w with handler := h, current := Function.update w.current c (Stay.enter tap) }
  | some s =>
    let p := (w.handler.chains c).shiftPadding
    let s := s.extend p op (emitted w.handler h)
    if tap = s.state then { w with handler := h, current := Function.update w.current c (some s) }
    else
      { handler := h
        current := Function.update w.current c (Stay.enter tap)
        finished := Function.update w.finished c (w.finished c ++ [s.leave p]) }

/-- Every stay so far is padded. -/
def AllPadded (w : Watched) : Prop :=
  ∀ c, (∀ s ∈ w.finished c, s.Padded) ∧ ∀ s ∈ w.current c, s.Padded

/-- The operation does not go wrong: it does not leave a shift state by a plain state change while
post-padding is due, and a scan does not begin with a stale `JTAGScanState_Run` while pre-padding
is due. -/
def Clean (w : Watched) (op : JtagOp) : Prop :=
  let c := w.handler.active
  match w.current w.handler.activeChain with
  | none => True
  | some s =>
    match op with
    | .shift _ => s.shifted = false → c.scanState = .run → (c.shiftPadding.pads s.state).1 = 0
    | .setTapState t => t ≠ s.state → s.shifted = true → (c.shiftPadding.pads s.state).2 = 0
    | .tapReset => s.shifted = true → (c.shiftPadding.pads s.state).2 = 0
    | _ => True

/-- The handler that was created and initialised in software mode. -/
def start (driver : Device JtagCall JtagAnswer) : Watched where
  handler := (jtagInitialize (jtagHandler driver) true).2
  current := fun _ => none
  finished := fun _ => []

end Watched

/-! ## The invariant of the observer -/

/-- What the observer knows about the current stay of a chain. The pre-padding is there or it is
missing, nothing else can have happened. -/
structure Stay.Tracks (s : Stay) (c : ChainState) : Prop where
  isShift : s.state.IsShift
  tap : c.tapState = s.state
  run : s.shifted = true → c.scanState = .run
  fresh : s.shifted = false → s.data = [] ∧ s.pre = 0
  post : s.post = 0
  emitted : ∃ m ≤ s.pre, s.emitted = List.replicate m s.padBit ++ s.data

/-- The invariant of an observed run. -/
structure Watched.Coherent (w : Watched) : Prop where
  ok : DriverOk w.handler.driver
  swMode : w.handler.swMode = true
  outside : ∀ c, w.current c = none → ¬ (w.handler.chains c).tapState.IsShift
  inside : ∀ c s, w.current c = some s → s.Tracks (w.handler.chains c)

theorem Stay.padded_iff {s : Stay} {m k : ℕ}
    (h : s.emitted = List.replicate m s.padBit ++ s.data ++ List.replicate k s.padBit)
    (hm : m ≤ s.pre) (hk : k ≤ s.post) : s.Padded ↔ m = s.pre ∧ k = s.post := by
  rw [Padded, h]
  constructor
  · intro he
    have := congrArg List.length he
    simp only [List.length_append, List.length_replicate] at this
    omega
  · rintro ⟨rfl, rfl⟩
    rfl

theorem Stay.Tracks.padded_iff {s : Stay} {c : ChainState} (h : s.Tracks c) {m : ℕ}
    (hm : m ≤ s.pre) (he : s.emitted = List.replicate m s.padBit ++ s.data) :
    s.Padded ↔ m = s.pre := by
  rw [Stay.padded_iff (k := 0) (by rw [he, List.replicate_zero, List.append_nil]) hm (Nat.zero_le _),
    h.post]
  simp

theorem Stay.enter_tracks {c : ChainState} {s : Stay} (h : Stay.enter c.tapState = some s) :
    s.Tracks c ∧ s.Padded := by
  rw [Stay.enter] at h
  split_ifs at h with hs
  cases h
  exact ⟨⟨hs, rfl, by simp, by simp, rfl, 0, le_refl _, rfl⟩, rfl⟩

theorem Stay.enter_eq_none {t : TapState} (h : Stay.enter t = none) : ¬ t.IsShift := by
  rw [Stay.enter] at h
  split_ifs at h with hs
  exact hs

@[simp] theorem Stay.extend_state (s : Stay) (p : ShiftPadding) (op : JtagOp) (b : List Bool) :
    (s.extend p op b).state = s.state := by
  cases op <;> rfl

/-- The stay after a shift that emits what `jtagShift_moves` says. -/
theorem Stay.Tracks.extend_shift {s : Stay} {c : ChainState} (h : s.Tracks c) (r : ShiftRequest)
    {bits : List Bool} {k : ℕ}
    (hb : bits = (if c.scanState = .done then
        List.replicate (c.shiftPadding.pads s.state).1 s.padBit else []) ++ r.data ++
      List.replicate k s.padBit) :
    ∃ m ≤ (s.extend c.shiftPadding (.shift r) bits).pre,
      (s.extend c.shiftPadding (.shift r) bits).emitted =
        List.replicate m (s.extend c.shiftPadding (.shift r) bits).padBit ++
          (s.extend c.shiftPadding (.shift r) bits).data ++
        List.replicate k (s.extend c.shiftPadding (.shift r) bits).padBit ∧
      (m = (s.extend c.shiftPadding (.shift r) bits).pre ↔ s.Padded ∧
        (s.shifted = false → c.scanState = .run → (c.shiftPadding.pads s.state).1 = 0)) := by
  obtain ⟨m, hm, he⟩ := h.emitted
  rw [h.padded_iff hm he]
  have hbit : (s.extend c.shiftPadding (.shift r) bits).padBit = s.padBit := rfl
  rw [hbit]
  simp only [Stay.extend]
  cases hs : s.shifted with
  | true =>
    refine ⟨m, hm, ?_, by simp⟩
    rw [hb, h.run hs, he]
    simp
  | false =>
    obtain ⟨hd, hp⟩ := h.fresh hs
    obtain rfl : m = 0 := by omega
    rw [hb, he, hd, hp]
    cases hc : c.scanState with
    | done => exact ⟨_, le_refl _, by simp, by simp⟩
    | run => exact ⟨0, Nat.zero_le _, by simp, by simp [eq_comm]⟩


namespace Watched

variable {w : Watched} {op : JtagOp}

/-- The stays of one chain are padded. -/
def PaddedAt (w : Watched) (c : ScanChain) : Prop :=
  (∀ s ∈ w.finished c, s.Padded) ∧ ∀ s ∈ w.current c, s.Padded

theorem paddedAt_congr {w w' : Watched} {c : ScanChain} (hc : w'.current c = w.current c)
    (hf : w'.finished c = w.finished c) : w'.PaddedAt c ↔ w.PaddedAt c := by
  rw [PaddedAt, PaddedAt, hc, hf]

/-- An operation that changes only the stays of the chain `c`. -/
theorem allPadded_iff_of_frame {w w' : Watched} {c : ScanChain} {C : Prop}
    (hf : ∀ d ≠ c, w'.PaddedAt d ↔ w.PaddedAt d) (hc : w'.PaddedAt c ↔ w.PaddedAt c ∧ C) :
    w'.AllPadded ↔ w.AllPadded ∧ C := by
  constructor
  · intro h
    refine ⟨fun d => ?_, (hc.mp (h c)).2⟩
    by_cases hd : d = c
    · rw [hd]
      exact (hc.mp (h c)).1
    · exact (hf d hd).mp (h d)
  · rintro ⟨h, hC⟩ d
    by_cases hd : d = c
    · rw [hd]
      exact hc.mpr ⟨h c, hC⟩
    · exact (hf d hd).mpr (h d)

/-- An observed operation that takes the active chain to the state `a` and emits `b`. -/
theorem observe_spec_of (hw : w.Coherent) {a : ChainState} {b : List Bool}
    (hok : DriverOk (op.run w.handler).driver) (hsw : (op.run w.handler).swMode = true)
    (hchains : (op.run w.handler).chains =
      Function.update w.handler.chains w.handler.activeChain a)
    (hbits : emitted w.handler (op.run w.handler) = b)
    (hstay : ∀ s, w.current w.handler.activeChain = some s → a.tapState = s.state →
      (s.extend w.handler.active.shiftPadding op b).Tracks a ∧
      ((s.extend w.handler.active.shiftPadding op b).Padded ↔ s.Padded ∧ w.Clean op))
    (hleave : ∀ s, w.current w.handler.activeChain = some s → a.tapState ≠ s.state →
      (((s.extend w.handler.active.shiftPadding op b).leave w.handler.active.shiftPadding).Padded ↔
        s.Padded ∧ w.Clean op)) :
    (w.observe op).Coherent ∧ ((w.observe op).AllPadded ↔ w.AllPadded ∧ w.Clean op) := by
  have htap : ((op.run w.handler).chains w.handler.activeChain) = a := by
    rw [hchains, Function.update_self]
  -- a state of the observer in which only the current stay of the active chain has changed
  have hframe : ∀ (x : Option Stay) (d : ScanChain) (s : Stay), d ≠ w.handler.activeChain →
      Function.update w.current w.handler.activeChain x d = some s →
      s.Tracks ((op.run w.handler).chains d) := by
    intro x d s hd hs
    rw [Function.update_of_ne hd] at hs
    rw [hchains, Function.update_of_ne hd]
    exact hw.inside d s hs
  have hout : ∀ (x : Option Stay) (d : ScanChain), d ≠ w.handler.activeChain →
      Function.update w.current w.handler.activeChain x d = none →
      ¬ ((op.run w.handler).chains d).tapState.IsShift := by
    intro x d hd hs
    rw [Function.update_of_ne hd] at hs
    rw [hchains, Function.update_of_ne hd]
    exact hw.outside d hs
  have hcoh : ∀ (x : Option Stay) (f : ScanChain → List Stay),
      (x = none → ¬ a.tapState.IsShift) → (∀ s, x = some s → s.Tracks a) →
      Coherent ⟨op.run w.handler, Function.update w.current w.handler.activeChain x, f⟩ := by
    intro x f hn hs
    refine ⟨hok, hsw, fun d hd => ?_, fun d s hd => ?_⟩
    · by_cases hdc : d = w.handler.activeChain
      · subst hdc
        rw [htap]
        exact hn (by simpa using hd)
      · exact hout x d hdc hd
    · by_cases hdc : d = w.handler.activeChain
      · subst hdc
        rw [htap]
        exact hs s (by simpa using hd)
      · exact hframe x d s hdc hd
  have henter := hcoh (Stay.enter a.tapState)
  rw [observe]
  dsimp only
  rw [htap, hbits]
  cases hcur : w.current w.handler.activeChain with
  | none =>
    dsimp only
    refine ⟨henter _ Stay.enter_eq_none fun s hs => (Stay.enter_tracks hs).1, ?_⟩
    refine allPadded_iff_of_frame (c := w.handler.activeChain)
      (fun d hd => paddedAt_congr (Function.update_of_ne hd _ _) rfl) ?_
    simp only [PaddedAt, Clean, hcur, Function.update_self, and_true, Option.not_mem_none]
    refine and_congr_right fun _ => iff_of_true (fun s hs => (Stay.enter_tracks hs).2) (by simp)
  | some s =>
    dsimp only
    rw [Stay.extend_state]
    by_cases htaps : a.tapState = s.state
    · rw [if_pos htaps]
      obtain ⟨htr, hpad⟩ := hstay s hcur htaps
      refine ⟨hcoh _ _ (by simp) fun s' hs' => ?_, ?_⟩
      · cases hs'
        exact htr
      refine allPadded_iff_of_frame (c := w.handler.activeChain)
        (fun d hd => paddedAt_congr (Function.update_of_ne hd _ _) rfl) ?_
      simp only [PaddedAt, Function.update_self, hcur, Option.mem_some_iff, forall_eq', and_assoc]
      exact and_congr_right fun _ => hpad
    · rw [if_neg htaps]
      refine ⟨henter _ Stay.enter_eq_none fun s hs => (Stay.enter_tracks hs).1, ?_⟩
      refine allPadded_iff_of_frame (c := w.handler.activeChain)
        (fun d hd => paddedAt_congr (Function.update_of_ne hd _ _) (Function.update_of_ne hd _ _)) ?_
      simp only [PaddedAt, Function.update_self, hcur, Option.mem_some_iff, forall_eq',
        List.forall_mem_append, List.forall_mem_singleton]
      have hnew : ∀ s' ∈ Stay.enter a.tapState, s'.Padded := fun s' hs' => (Stay.enter_tracks hs').2
      rw [and_iff_left hnew, and_assoc]
      exact and_congr_right fun _ => hleave s hcur htaps

/-- An operation without a shift: the current stay goes on, or it ends. -/
theorem observe_quiet (hw : w.Coherent) {a : ChainState}
    (hop : ∀ s p, Stay.extend s p op [] = s)
    (hm : Moves w.handler (op.run w.handler) a [])
    (hscan : a.scanState = w.handler.active.scanState)
    (hclean : ∀ s, w.current w.handler.activeChain = some s →
      (w.Clean op ↔ (a.tapState ≠ s.state → s.shifted = true →
        (w.handler.active.shiftPadding.pads s.state).2 = 0))) :
    (w.observe op).Coherent ∧ ((w.observe op).AllPadded ↔ w.AllPadded ∧ w.Clean op) := by
  refine observe_spec_of hw (hm.driverOk hw.ok) (hm.swMode.trans hw.swMode) hm.chains hm.bits ?_ ?_
  · intro s hs ht
    have h := hw.inside _ s hs
    rw [hop, hclean s hs]
    refine ⟨⟨h.isShift, ht, fun hsh => hscan.trans (h.run hsh), h.fresh, h.post, h.emitted⟩, ?_⟩
    simp [ht]
  · intro s hs ht
    have h := hw.inside _ s hs
    obtain ⟨m, hm, he⟩ := h.emitted
    rw [hop, hclean s hs, h.padded_iff hm he]
    rw [Stay.padded_iff (s := s.leave _) (m := m) (k := 0)
      (by rw [List.replicate_zero, List.append_nil]; exact he) hm (Nat.zero_le _)]
    cases hsh : s.shifted <;> simp [Stay.leave, hsh, ht, eq_comm]

theorem clean_shift {s : Stay} (hcur : w.current w.handler.activeChain = some s) (r : ShiftRequest) :
    w.Clean (.shift r) ↔ (s.shifted = false → w.handler.active.scanState = .run →
      (w.handler.active.shiftPadding.pads s.state).1 = 0) := by
  simp [Clean, hcur]

theorem observe_shift (hw : w.Coherent) (r : ShiftRequest) :
    (w.observe (.shift r)).Coherent ∧
      ((w.observe (.shift r)).AllPadded ↔ w.AllPadded ∧ w.Clean (.shift r)) := by
  by_cases hs : w.handler.active.tapState.IsShift
  · have hm := jtagShift_moves hw.ok hw.swMode hs r
    refine observe_spec_of hw (hm.driverOk hw.ok) (hm.swMode.trans hw.swMode) hm.chains hm.bits ?_ ?_
    · intro s hcur ht
      have h := hw.inside _ s hcur
      have htap : w.handler.active.tapState = s.state := h.tap
      have hend : s.state = r.endState := ht.symm
      obtain ⟨m, hm, he, hiff⟩ := h.extend_shift r (k := 0) rfl
      rw [htap, if_pos hend, if_pos hend]
      have htr : (s.extend w.handler.active.shiftPadding (.shift r) _).Tracks
          { w.handler.active with tapState := r.endState, scanState := .run } :=
        ⟨h.isShift, hend.symm, fun _ => rfl, by simp [Stay.extend], h.post, m, hm,
          he.trans (List.append_nil _)⟩
      refine ⟨htr, (htr.padded_iff hm (he.trans (List.append_nil _))).trans ?_⟩
      exact hiff.trans (and_congr_right fun _ => (clean_shift hcur r).symm)
    · intro s hcur ht
      have h := hw.inside _ s hcur
      have htap : w.handler.active.tapState = s.state := h.tap
      have hend : s.state ≠ r.endState := fun he => ht he.symm
      obtain ⟨m, hm, he, hiff⟩ := h.extend_shift r
        (k := (w.handler.active.shiftPadding.pads s.state).2) rfl
      rw [htap, if_neg hend]
      have hpost : ∀ bits, ((s.extend w.handler.active.shiftPadding (.shift r) bits).leave
          w.handler.active.shiftPadding).post = (w.handler.active.shiftPadding.pads s.state).2 :=
        fun _ => rfl
      refine (Stay.padded_iff (s := (s.extend w.handler.active.shiftPadding (.shift r) _).leave
        w.handler.active.shiftPadding) he hm (le_of_eq (hpost _).symm)).trans ?_
      rw [hpost, and_iff_left rfl]
      exact hiff.trans (and_congr_right fun _ => (clean_shift hcur r).symm)
  · -- outside the shift states `JTAG_shift` fails and changes nothing
    have hrun : JtagOp.run w.handler (.shift r) = w.handler := by
      rw [JtagOp.run, jtagShift, if_neg (by simp [hw.swMode]), shiftPads_eq_none hs]
    have hnone : ∀ s, w.current w.handler.activeChain ≠ some s := by
      intro s hcur
      have h := hw.inside _ s hcur
      exact hs (by rw [JtagHandler.active, h.tap]; exact h.isShift)
    have hm := Moves.refl w.handler
    refine observe_spec_of hw (a := w.handler.active) (b := []) ?_ ?_ ?_ ?_
      (fun s hcur => absurd hcur (hnone s)) (fun s hcur => absurd hcur (hnone s))
    · rw [hrun]
      exact hw.ok
    · rw [hrun]
      exact hw.swMode
    · rw [hrun]
      exact hm.chains
    · rw [hrun]
      exact hm.bits

theorem observe_spec (hw : w.Coherent) (op : JtagOp) :
    (w.observe op).Coherent ∧ ((w.observe op).AllPadded ↔ w.AllPadded ∧ w.Clean op) := by
  have hext : ∀ (s : Stay), { s with emitted := s.emitted ++ [] } = s := by
    intro s
    rw [List.append_nil]
  cases op with
  | shift r => exact observe_shift hw r
  | setTapState t =>
    refine observe_quiet hw (fun s _ => hext s) (jtagSetTapState_moves hw.ok t) rfl ?_
    intro s hcur
    simp [Clean, hcur]
  | tapReset =>
    refine observe_quiet hw (fun s _ => hext s) (jtagSetTapState_moves hw.ok .tlr) rfl ?_
    intro s hcur
    have hne : TapState.tlr ≠ s.state := by
      rcases (hw.inside _ s hcur).isShift with h | h <;> simp [h]
    simp [Clean, hcur, hne]
  | setPadding padding value =>
    obtain ⟨p, hp⟩ := jtagSetPadding_moves w.handler padding value
    refine observe_quiet hw (fun s _ => hext s) hp rfl ?_
    intro s hcur
    simp [Clean, hcur, show w.handler.active.tapState = s.state from (hw.inside _ s hcur).tap]
  | setActiveChain chain =>
    obtain ⟨x, hx⟩ := jtagSetActiveChain_eq w.handler chain
    have hm := Moves.refl w.handler
    have hrun : JtagOp.run w.handler (.setActiveChain chain) = { w.handler with activeChain := x } :=
      hx
    refine observe_spec_of hw (a := w.handler.active) (b := []) ?_ ?_ ?_ ?_ ?_ ?_
    · rw [hrun]
      exact hw.ok
    · rw [hrun]
      exact hw.swMode
    · rw [hrun]
      exact hm.chains
    · rw [hrun]
      exact hm.bits
    · intro s hcur ht
      have h := hw.inside _ s hcur
      rw [show s.extend w.handler.active.shiftPadding (.setActiveChain chain) [] = s from hext s]
      exact ⟨h, by simp [Clean, hcur]⟩
    · intro s hcur ht
      exact absurd (hw.inside _ s hcur).tap ht

theorem start_coherent (driver : Device JtagCall JtagAnswer) (hd : DriverOk driver) :
    (start driver).Coherent := by
  have h1 := moves_ioctl { jtagHandler driver with swMode := true } .openDevice
  have h2 := moves_ioctl { (JtagHandler.ioctl { jtagHandler driver with swMode := true }
    .openDevice).2 with driverOpen := true } (.mode true)
  have h3 := jtagSetTapState_moves (h2.driverOk (h1.driverOk hd)) .tlr
  have htlr : ∀ c, ((start driver).handler.chains c).tapState = .tlr := by
    intro c
    rw [start, jtagInitialize]
    dsimp only
    split_ifs with ho hm hs
    · rfl
    · rw [h3.chains, Function.update_apply]
      split_ifs <;> rfl
    · rfl
    · rfl
  have hdrv : (start driver).handler.driver.answers = driver.answers ∧
      (start driver).handler.swMode = true := by
    rw [start, jtagInitialize]
    dsimp only
    split_ifs with ho hm hs
    · exact ⟨h3.driver.1, h3.swMode⟩
    · exact ⟨h3.driver.1, h3.swMode⟩
    · exact ⟨rfl, rfl⟩
    · exact ⟨rfl, rfl⟩
  refine ⟨fun n => ?_, hdrv.2, fun c _ => ?_, fun c s hs => ?_⟩
  · rw [hdrv.1]
    exact hd n
  · rw [htlr]
    simp [TapState.IsShift]
  · cases hs

/-- **Padding.** In every run of the initialised handler in software mode, with a driver that never
fails, each stay in a shift state emits the pre-padding once, all of its data and, when it is left,
the post-padding once, exactly if every step of the run is clean. -/
theorem allPadded_iff (driver : Device JtagCall JtagAnswer) (hd : DriverOk driver)
    (ops : List JtagOp) :
    (ops.foldl observe (start driver)).AllPadded ↔ AllSteps observe Clean (start driver) ops := by
  have hstart := start_coherent driver hd
  rw [foldl_iff_allSteps (J := Coherent) (I := AllPadded) (fun w op hw => (observe_spec hw op).1)
    (fun w op hw => (observe_spec hw op).2) hstart]
  refine and_iff_right fun c => ⟨by simp [start], by simp [start]⟩

/-! ## A run that goes wrong, and one that does not -/

/-- A driver that never fails. -/
def okDriver : Device JtagCall JtagAnswer := ⟨fun _ => ⟨true, fun _ => 0⟩, []⟩

/-- Shift eight ones. -/
def shiftOnes (endState : TapState) : JtagOp :=
  .shift ⟨8, some fun _ => 0xFF, false, endState, by decide⟩

theorem allPadded_shift_and_leave : (List.foldl observe (start okDriver)
    [.setPadding .drPre 2, .setPadding .drPost 3, .setTapState .shfDr, shiftOnes .rti]).AllPadded :=
  (allPadded_iff okDriver (fun _ => rfl) _).mpr
    ⟨trivial, trivial, trivial, fun _ h => absurd h (by decide), trivial⟩

theorem not_allPadded_leave_by_state : ¬ (List.foldl observe (start okDriver)
    [.setPadding .drPost 3, .setTapState .shfDr, shiftOnes .shfDr, .setTapState .rti]).AllPadded := by
  intro h
  have h0 := (h 0).1
  revert h0
  decide

end Watched

end BmcAsd
