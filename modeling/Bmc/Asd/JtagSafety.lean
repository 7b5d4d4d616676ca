import Bmc.Asd.JtagMessage

/-!
# Safety of JTAG messages

What `process_jtag_message` reads, writes, indexes and divides by, for every payload, every mode and
every outcome of the handlers.

* `Keeps`: a piece of code with safe accesses that respects the bounds of the loop variables;
* `jtagCommand_keeps`: every command but one is such a piece of code;
* **`processJtagMessage_safe_iff`**: the message is processed safely exactly if no round meets the
  clock setting whose 8-bit divisor wraps around to zero.
-/

namespace BmcAsd

open BmcLib

/-! ## Safe pieces of code -/

/-- All accesses so far were safe. -/
def AsdMsg.Safe (s : AsdMsg) : Prop := ∀ a ∈ s.accesses, a.Safe

/-- The bounds of the loop variables. -/
structure JtagLoop.Bounded (l : JtagLoop) : Prop where
  used : l.packet.used ≤ l.packet.total
  response : l.responseCnt ≤ maxDataSize

/-- `l'` comes from `l` by a piece of code whose accesses are safe and which does not go back in the
packet. -/
structure Keeps (l l' : JtagLoop) : Prop where
  bounded : l'.Bounded
  buffer : l'.packet.buffer = l.packet.buffer
  total : l'.packet.total = l.packet.total
  used : l.packet.used ≤ l'.packet.used
  accesses : ∃ as, l'.st.accesses = l.st.accesses ++ as ∧ ∀ a ∈ as, a.Safe

section Keeps

variable {l l₁ l₂ l₃ : JtagLoop}

theorem Keeps.refl (h : l.Bounded) : Keeps l l :=
  ⟨h, rfl, rfl, le_refl _, [], by simp, by simp⟩

theorem Keeps.trans (h : Keeps l₁ l₂) (h' : Keeps l₂ l₃) : Keeps l₁ l₃ := by
  obtain ⟨as, ha, hs⟩ := h.accesses
  obtain ⟨as', ha', hs'⟩ := h'.accesses
  refine ⟨h'.bounded, h'.buffer.trans h.buffer, h'.total.trans h.total, h.used.trans h'.used,
    as ++ as', by rw [ha', ha, List.append_assoc], ?_⟩
  intro a ha
  rcases List.mem_append.mp ha with h | h
  · exact hs a h
  · exact hs' a h

theorem Keeps.safe_iff (h : Keeps l₁ l₂) : l₂.st.Safe ↔ l₁.st.Safe := by
  obtain ⟨as, ha, hs⟩ := h.accesses
  rw [AsdMsg.Safe, AsdMsg.Safe, ha]
  constructor
  · intro h a hm
    exact h a (List.mem_append_left _ hm)
  · intro h a hm
    rcases List.mem_append.mp hm with hm | hm
    · exact h a hm
    · exact hs a hm

/-- A change of the state that touches some safe places. -/
theorem keeps_touch (hb : l.Bounded) {s : AsdMsg} {a : List Access}
    (hs : s.accesses = l.st.accesses ++ a) (ha : ∀ x ∈ a, x.Safe) (t : Status) (b : Bool) :
    Keeps l { l with st := s, status := t, broken := b } :=
  ⟨⟨hb.used, hb.response⟩, rfl, rfl, le_refl _, a, hs, ha⟩

theorem keeps_result (hb : l.Bounded) {r : Status × AsdMsg} (h : r.2.accesses = l.st.accesses) :
    Keeps l (l.result r) :=
  keeps_touch hb (a := []) (by rw [h, List.append_nil]) (by simp) _ _

theorem keeps_fail (hb : l.Bounded) : Keeps l l.fail :=
  keeps_touch hb (a := []) (by simp) (by simp) _ _

theorem keeps_jtag (hb : l.Bounded) (r : Status × JtagHandler) : Keeps l (l.jtag r) :=
  keeps_result hb rfl

theorem keeps_target (hb : l.Bounded) (r : Status × TargetHandle) : Keeps l (l.target r) :=
  keeps_result hb rfl

/-- The loop variables after `n` bytes of the packet have been read. -/
def JtagLoop.advance (l : JtagLoop) (n : ℕ) : JtagLoop :=
  { l with packet := { l.packet with used := l.packet.used + n }
           st := l.st.touch [.packet l.packet.used n l.packet.total] }

theorem withData_eq {n : ℕ} (h : l.packet.used + n ≤ l.packet.total)
    (k : List UInt8 → JtagLoop → JtagLoop) :
    l.withData n k = k (slice l.packet.buffer l.packet.used n) (l.advance n) := by
  rw [JtagLoop.withData, getPacketData_of_le h]
  rfl

theorem withData_short {n : ℕ} (h : l.packet.total < l.packet.used + n)
    (k : List UInt8 → JtagLoop → JtagLoop) : l.withData n k = l.fail := by
  rw [JtagLoop.withData, getPacketData_eq_none h]

theorem keeps_advance (hb : l.Bounded) {n : ℕ} (h : l.packet.used + n ≤ l.packet.total) :
    Keeps l (l.advance n) :=
  ⟨⟨h, hb.response⟩, rfl, rfl, Nat.le_add_right _ _, _, rfl, by simpa [Access.Safe] using h⟩

/-- Reading operands is safe if the rest is. -/
theorem withData_keeps (hb : l.Bounded) {n : ℕ} {k : List UInt8 → JtagLoop → JtagLoop}
    (hk : l.packet.used + n ≤ l.packet.total → (l.advance n).Bounded →
      Keeps (l.advance n) (k (slice l.packet.buffer l.packet.used n) (l.advance n))) :
    Keeps l (l.withData n k) := by
  by_cases h : l.packet.used + n ≤ l.packet.total
  · have ha := keeps_advance hb h
    rw [withData_eq h]
    exact ha.trans (hk h ha.bounded)
  · rw [withData_short (by omega)]
    exact keeps_fail hb

end Keeps

/-! ## The command handlers -/

section Handlers

variable {l : JtagLoop}

theorem paddingCfg_keeps (hb : l.Bounded) (n : ℕ) (padding : PaddingType) :
    Keeps l (paddingCfg l n padding) :=
  withData_keeps hb fun _ hb' => keeps_jtag hb' _

/-- The 8-bit product of `write_cfg` is zero for two operands. -/
theorem tclk_eq_zero_iff (data : UInt8) : tclk data = 0 ↔ data = 0x40 ∨ data = 0x60 := by
  have h : ∀ n : Fin 256, tclk (UInt8.ofNat n) = 0 ↔
      UInt8.ofNat n = 0x40 ∨ UInt8.ofNat n = 0x60 := by decide +kernel
  have := h ⟨data.toNat, data.toNat_lt⟩
  rwa [UInt8.ofNat_toNat] at this

theorem writeCfg_keeps (hb : l.Bounded) {cmd : UInt8}
    (hf : cmd = jtagFreq → l.packet.used < l.packet.total →
      tclk (l.packet.buffer l.packet.used) ≠ 0) : Keeps l (writeCfg l cmd) := by
  rw [writeCfg]
  split_ifs with h1 h2 h3 h4 h5 h6
  · refine withData_keeps hb fun hle hb' => ?_
    have hne := hf h1 (by omega)
    have hsafe : Keeps (l.advance 1) ((l.advance 1).touch
        [.division (tclk ((slice l.packet.buffer l.packet.used 1).headD 0)).toNat]) := by
      refine keeps_touch hb' rfl ?_ _ _
      intro a ha
      rw [List.mem_singleton.mp ha]
      intro h0
      exact hne (UInt8.toNat_inj.mp h0)
    exact hsafe.trans (keeps_jtag hsafe.bounded _)
  · exact paddingCfg_keeps hb _ _
  · exact paddingCfg_keeps hb _ _
  · exact paddingCfg_keeps hb _ _
  · exact paddingCfg_keeps hb _ _
  · exact withData_keeps hb fun _ hb' => keeps_result hb' rfl
  · exact keeps_fail hb

theorem writeEventConfig_accesses (s : AsdMsg) (data : UInt8) :
    (writeEventConfig s data).2.accesses = s.accesses := by
  rw [writeEventConfig]
  split <;> rfl

theorem skipWaitCyclesStep_keeps {s : Bool × JtagLoop} (hb : s.2.Bounded) :
    Keeps s.2 (skipWaitCyclesStep s).2 ∧
      ((skipWaitCyclesStep s).1 = true → s.2.packet.used < (skipWaitCyclesStep s).2.packet.used) := by
  rw [skipWaitCyclesStep]
  cases hget : getPacketData s.2.packet 2 with
  | none => exact ⟨keeps_fail hb, by simp⟩
  | some r =>
    obtain ⟨bytes, p⟩ := r
    obtain ⟨hle, -, rfl⟩ := getPacketData_eq_some hget
    have ha := keeps_advance hb hle
    dsimp only
    split_ifs
    · exact ⟨ha, fun _ => Nat.lt_add_of_pos_right two_pos⟩
    · refine ⟨⟨⟨hb.used, hb.response⟩, rfl, rfl, ?_, ha.accesses⟩, by simp⟩
      simp [PacketData.unget]

theorem skipWaitCycles_keeps (hb : l.Bounded) : Keeps l (skipWaitCycles l) := by
  refine whileN_inv (P := fun s : Bool × JtagLoop => Keeps l s.2) ?_ (Keeps.refl hb) _
  intro s hs _
  exact hs.trans (skipWaitCyclesStep_keeps hs.bounded).1

/-- The rounds of `skipWaitCycles` suffice. -/
theorem skipWaitCycles_done (hb : l.Bounded) :
    skipWaitCyclesGoesOn
      (whileN skipWaitCyclesGoesOn skipWaitCyclesStep l.packet.total (true, l)) = false := by
  refine whileN_done (P := fun s : Bool × JtagLoop => s.2.Bounded)
    (fun s => if s.1 then s.2.packet.total - s.2.packet.used else 0) ?_ hb ?_
  · intro s hs hc
    obtain ⟨hk, hlt⟩ := skipWaitCyclesStep_keeps hs
    rw [skipWaitCyclesGoesOn, Bool.and_eq_true, decide_eq_true_eq] at hc
    refine ⟨hk.bounded, ?_⟩
    rw [if_pos hc.1, hk.total]
    split_ifs with h
    · have := hlt h
      omega
    · omega
  · simp

theorem readChainBytes_keeps (n : ℕ) {l : JtagLoop} (hb : l.Bounded) {i : ℕ}
    (hn : i + n ≤ maxMultichains) : Keeps l (readChainBytes l i n) := by
  induction n generalizing l i with
  | zero => exact Keeps.refl hb
  | succ n ih =>
    rw [readChainBytes]
    cases hget : getPacketData l.packet 1 with
    | none => exact keeps_touch hb (a := []) (by simp) (by simp) _ _
    | some r =>
      obtain ⟨bytes, p⟩ := r
      obtain ⟨hle, -, rfl⟩ := getPacketData_eq_some hget
      have hstep : Keeps l { l with
          packet := { l.packet with used := l.packet.used + 1 }
          st := l.st.touch [.packet l.packet.used 1 l.packet.total, .chainByte i] } := by
        refine ⟨⟨hle, hb.response⟩, rfl, rfl, Nat.le_add_right _ _, _, rfl, ?_⟩
        simp only [List.mem_cons, List.not_mem_nil, or_false, forall_eq_or_imp, forall_eq]
        exact ⟨hle, show i < maxMultichains by omega⟩
      exact hstep.trans (ih hstep.bounded (by omega))

theorem chainTextAccesses_safe (n : ℕ) {p : ℕ} (hn : n ≤ maxMultichains)
    (hp : p + 3 * n ≤ maxMultichains * 4) : ∀ a ∈ chainTextAccesses p n, a.Safe := by
  induction n generalizing p with
  | zero => simp [chainTextAccesses]
  | succ i ih =>
    have hpos : p + 3 ≤ maxMultichains * 5 := by omega
    rw [chainTextAccesses]
    have hrest := ih (p := p + 2 + if i % 2 = 0 ∧ i ≠ 0 then 1 else 0) (by omega)
      (by split_ifs <;> omega)
    intro a ha
    rw [List.mem_append, List.mem_append] at ha
    rcases ha with (ha | ha) | ha
    · simp only [List.mem_cons, List.not_mem_nil, or_false] at ha
      rcases ha with rfl | rfl | rfl
      · exact show i < maxMultichains by omega
      · exact hpos
      · exact two_ne_zero
    · split_ifs at ha with hsp
      · rw [List.mem_singleton.mp ha]
        exact show p + 2 + 2 ≤ maxMultichains * 5 by omega
      · simp at ha
    · exact hrest a ha

theorem selectChain_keeps (hb : l.Bounded) {selected : ℕ} (hs : selected < maxMultichains) :
    Keeps l (selectChain l selected) := by
  rw [selectChain]
  cases l.st.jtagChainMode with
  | single =>
    dsimp only
    split_ifs with hc
    · exact keeps_fail hb
    · refine keeps_touch hb (a := [.scanChain selected]) ?_ ?_ _ _
      · rw [asdWriteSetActiveChainEvent]
        dsimp only
        split_ifs <;> rfl
      · simpa [Access.Safe] using hc
  | multi =>
    have hread := readChainBytes_keeps (selected + 1) hb (i := 0) (by omega)
    refine hread.trans (keeps_touch hread.bounded rfl ?_ _ _)
    exact chainTextAccesses_safe _ hs (by omega)

theorem writePins_keeps (hb : l.Bounded) (data : UInt8) : Keeps l (writePins l data) := by
  rw [writePins]
  dsimp only
  split
  · have hw := keeps_target hb (targetWrite l.st.targetHandler ‹Pin› (data >>> 7 == 1))
    split_ifs
    · exact hw
    · exact hw.trans (skipWaitCycles_keeps hw.bounded)
    · exact hw
  · split_ifs
    · refine selectChain_keeps hb ?_
      have : (data &&& 0x7f &&& 0xf).toNat ≤ 0xf := by
        rw [UInt8.toNat_and]
        exact Nat.and_le_right
      exact Nat.lt_succ_of_le this
    · exact keeps_fail hb

theorem readStatus_keeps (hb : l.Bounded) (hroom : l.responseCnt + 2 ≤ maxDataSize)
    (index pin : UInt8) : Keeps l (readStatus l index pin) := by
  rw [readStatus]
  dsimp only
  by_cases hr : (targetRead l.st.targetHandler pin.toNat).1 = .ok
  · rw [if_pos hr]
    refine ⟨⟨hb.used, hroom⟩, rfl, rfl, le_refl _, _, rfl, ?_⟩
    simpa [Access.Safe] using hroom
  · rw [if_neg hr]
    exact keeps_result (r := (_, { l.st with targetHandler := _ })) hb rfl

end Handlers

/-! ## Scans -/

theorem length_memcpyS (dmax : ℕ) (src : Option (ℕ → UInt8)) (n : ℕ) :
    (memcpyS dmax src n).length = n := by
  unfold memcpyS
  split
  · split_ifs <;> simp
  · simp

section ShiftLength

variable (h : JtagHandler) (bits : ℕ) (i : Option (ℕ → UInt8)) (o : Option ℕ)

theorem transfer_length (c e : TapState) (a b : ℕ) :
    ∀ tdo ∈ (transfer h bits i o c e a b).output, o.isSome ∧ tdo.length = divRoundUp bits 8 := by
  intro tdo ht
  rw [transfer] at ht
  split_ifs at ht <;> obtain ⟨n, ho, rfl⟩ := Option.map_eq_some_iff.mp ht
  · simp [ho]
  · simp [ho, length_memcpyS]

theorem shiftData_length (post : ℕ) (pad : ℕ → UInt8) (c e : TapState) :
    ∀ tdo ∈ (shiftData h bits i o post pad c e).output, o.isSome ∧ tdo.length = divRoundUp bits 8 := by
  intro tdo ht
  rw [shiftData] at ht
  split at ht
  · dsimp only at ht
    split_ifs at ht <;> exact transfer_length _ bits i o _ _ _ _ tdo ht
  · dsimp only at ht
    split at ht
    · exact transfer_length _ bits i o _ _ _ _ tdo ht
    · split at ht <;> exact transfer_length _ bits i o _ _ _ _ tdo ht

/-- What a shift leaves at its output, if it gets one, has the length of the scan. -/
theorem jtagShift_length (e : TapState) :
    ∀ tdo ∈ (jtagShift h bits i o e).output, o.isSome ∧ tdo.length = divRoundUp bits 8 := by
  intro tdo ht
  rw [jtagShift] at ht
  split_ifs at ht
  · rw [jtagShiftHw] at ht
    dsimp only at ht
    split at ht
    · simp at ht
    · exact transfer_length _ bits i o _ _ _ _ tdo ht
  · dsimp only at ht
    split at ht
    · simp at ht
    · rename_i pre post _
      generalize (if h.active.tapState = .shfIr then padDataOne else padDataZero) = pad at ht
      split_ifs at ht
      · simp at ht
      · exact shiftData_length _ bits i o _ _ _ _ tdo ht

end ShiftLength

theorem getScanLength_bytes (cmd : UInt8) :
    (getScanLength cmd).2 = divRoundUp (getScanLength cmd).1 8 := by
  rw [getScanLength]
  split_ifs <;> rfl

/-! ## The look-ahead -/

/-- The state of the look-ahead in the packet `p`. While it has a command it knows the way back. -/
structure LookOk (p : PacketData) (l : LookAhead) : Prop where
  buffer : l.packet.buffer = p.buffer
  total : l.packet.total = p.total
  used_le : l.packet.used ≤ p.total
  le_used : p.used ≤ l.packet.used
  back : l.cmd2.isSome → l.packet.used = p.used + l.counter
  accesses : ∀ a ∈ l.accesses, a.Safe

theorem LookOk.advance {p : PacketData} {l : LookAhead} (h : LookOk p l)
    (hb : l.packet.used = p.used + l.counter) (n : ℕ) : LookOk p (l.advance n) := by
  rw [LookAhead.advance]
  by_cases hn : l.packet.used + n ≤ l.packet.total
  · rw [getPacketData_of_le hn]
    refine ⟨h.buffer, h.total, hn.trans_eq h.total, h.le_used.trans (Nat.le_add_right _ _), ?_, ?_⟩
    · intro _
      exact show l.packet.used + n = p.used + (l.counter + n) by omega
    · intro a ha
      rcases List.mem_append.mp ha with ha | ha
      · exact h.accesses a ha
      · rw [List.mem_singleton.mp ha]
        exact hn
  · rw [getPacketData_eq_none (by omega)]
    exact ⟨h.buffer, h.total, h.used_le, h.le_used, by simp, h.accesses⟩

/-- The look-ahead before it has read anything. -/
theorem LookOk.start {p : PacketData} (hp : p.used ≤ p.total) : LookOk p (LookAhead.start p) :=
  ⟨rfl, rfl, hp, le_refl _, fun _ => rfl, fun _ h => nomatch h⟩

theorem lookAhead_ok {p : PacketData} (hp : p.used ≤ p.total) : LookOk p (lookAhead p) := by
  refine whileN_inv (P := LookOk p) ?_ ((LookOk.start hp).advance rfl 1) _
  intro l hl hc
  refine hl.advance (hl.back ?_) _
  by_contra hnone
  rw [Bool.not_eq_true, Option.isSome_eq_false_iff, Option.isNone_iff_eq_none] at hnone
  simp [LookAhead.goesOn, hnone] at hc

theorem LookAhead.advance_total (l : LookAhead) (n : ℕ) :
    (l.advance n).packet.total = l.packet.total := by
  rw [LookAhead.advance]
  split
  · rfl
  · rename_i h
    rw [(getPacketData_eq_some h).2.2]

/-- The rounds of the look-ahead suffice. -/
theorem lookAhead_done (p : PacketData) : (lookAhead p).goesOn = false := by
  have hstart := (LookAhead.start p).advance_total 1
  refine whileN_done (P := fun l : LookAhead => l.packet.total = p.total)
    (fun l => if l.cmd2.isSome then l.packet.total - l.packet.used else 0) ?_ hstart ?_
  · intro l hl hc
    rw [LookAhead.goesOn, Bool.and_eq_true, decide_eq_true_eq, decide_eq_true_eq] at hc
    obtain ⟨hlt, hskip⟩ := hc
    refine ⟨(LookAhead.advance_total _ _).trans hl, ?_⟩
    cases hcmd : l.cmd2 with
    | none => simp [hcmd] at hskip
    | some c =>
      rw [hcmd, Option.elim_some] at hskip
      rw [Option.elim_some, LookAhead.advance]
      by_cases hn : l.packet.used + lookSkip c ≤ l.packet.total
      · rw [getPacketData_of_le hn]
        dsimp only
        rw [Option.isSome_some, if_pos rfl]
        split_ifs <;> omega
      · rw [getPacketData_eq_none (by omega)]
        simpa using hlt
  · have : ((LookAhead.start p).advance 1).packet.total = p.total := hstart
    split_ifs <;> omega

/-- The look-ahead never goes back behind its start. -/
theorem determineShiftEndState_ok (s : AsdMsg) (scanType : ScanType) {p : PacketData}
    (hp : p.used ≤ p.total) {r : Status × TapState × PacketData × List Access}
    (hr : determineShiftEndState s scanType p = r) :
    r.2.2.1.buffer = p.buffer ∧ r.2.2.1.total = p.total ∧ p.used ≤ r.2.2.1.used ∧
      r.2.2.1.used ≤ p.total ∧ ∀ a ∈ r.2.2.2, a.Safe := by
  subst hr
  rw [determineShiftEndState]
  by_cases hle : p.used + 1 ≤ p.total
  · have hfirst : (Access.packet p.used 1 p.total).Safe := hle
    rw [getPacketData_of_le hle]
    dsimp only
    split_ifs with htap hmode hsome hsome
    · have hl := lookAhead_ok (p := { p with used := p.used + 1 }) hle
      have hback := hl.back hsome
      refine ⟨hl.buffer, hl.total, ?_, ?_, ?_⟩
      · simp only [PacketData.unget] at hback ⊢
        omega
      · exact (Nat.sub_le _ _).trans ((Nat.sub_le _ _).trans hl.used_le)
      · simpa using ⟨hfirst, hl.accesses⟩
    · have hl := lookAhead_ok (p := { p with used := p.used + 1 }) hle
      have hback := hl.le_used
      refine ⟨hl.buffer, hl.total, ?_, (Nat.sub_le _ _).trans hl.used_le, ?_⟩
      · simp only [PacketData.unget] at hback ⊢
        omega
      · simpa using ⟨hfirst, hl.accesses⟩
    · simp [LookAhead.start] at hsome
    · exact ⟨rfl, rfl, by simp [PacketData.unget, LookAhead.start],
        by simpa [PacketData.unget, LookAhead.start] using hp, by simpa [LookAhead.start] using hfirst⟩
    all_goals exact ⟨rfl, rfl, by simp [PacketData.unget], by simpa [PacketData.unget] using hp,
        by simpa using hfirst⟩
  · rw [getPacketData_eq_none (by omega)]
    exact ⟨rfl, rfl, le_refl _, hp, by simp⟩

section Scan

variable {l : JtagLoop}

theorem scanTransfer_keeps (hb : l.Bounded) (scanType : ScanType) (cmd : UInt8)
    (input : Option (List UInt8)) (endState : TapState)
    (hroom : scanType ≠ .write → l.responseCnt + (getScanLength cmd).2 ≤ maxDataSize) :
    Keeps l (scanTransfer l scanType cmd input endState) := by
  rw [scanTransfer]
  generalize hs : jtagShift l.st.jtagHandler (getScanLength cmd).1 (input.map (block 0))
    (if scanType = .write then none else some (getScanLength cmd).2) endState = s
  have hlen : ∀ tdo ∈ s.output, l.responseCnt + tdo.length ≤ maxDataSize := by
    intro tdo ht
    rw [← hs] at ht
    obtain ⟨ho, hl⟩ := jtagShift_length _ _ _ _ _ tdo ht
    rw [hl, ← getScanLength_bytes]
    refine hroom fun hw => ?_
    simp [hw] at ho
  have hst : Keeps l (l.result (s.status,
      (s.output.map fun tdo => ({ l.st with jtagHandler := s.handler }.touch
        [.division 8]).respond l.responseCnt tdo).getD
      ({ l.st with jtagHandler := s.handler }.touch [.division 8]))) := by
    have hdiv : (Access.division 8).Safe := by decide
    cases hout : s.output with
    | none => exact keeps_touch hb rfl (by simpa using hdiv) _ _
    | some tdo =>
      refine keeps_touch hb (List.append_assoc _ _ _) ?_ _ _
      simpa using ⟨hdiv, hlen tdo hout⟩
  dsimp only
  split_ifs with hend
  · exact hst
  · rw [not_or] at hend
    exact hst.trans ⟨⟨hst.bounded.used, hroom hend.2⟩, rfl, rfl, le_refl _, [], by simp, by simp⟩

theorem scanShift_keeps (hb : l.Bounded) (scanType : ScanType) (cmd : UInt8)
    (input : Option (List UInt8))
    (hroom : scanType ≠ .write → l.responseCnt + (getScanLength cmd).2 ≤ maxDataSize) :
    Keeps l (scanShift l scanType cmd input) := by
  rw [scanShift]
  generalize hr : determineShiftEndState l.st scanType l.packet = r
  obtain ⟨hbuf, htot, hge, hle, hsafe⟩ := determineShiftEndState_ok l.st scanType hb.used hr
  have hlook : Keeps l ({ l with packet := r.2.2.1 }.result (r.1, l.st.touch r.2.2.2)) :=
    ⟨⟨hle.trans_eq htot.symm, hb.response⟩, hbuf, htot, hge, _, rfl, hsafe⟩
  split_ifs
  · exact hlook
  · exact hlook.trans (scanTransfer_keeps hlook.bounded scanType cmd input r.2.1 hroom)

theorem beginRead_keeps (hb : l.Bounded) {cmd : UInt8} {k : JtagLoop → JtagLoop}
    (hk : ∀ l' : JtagLoop, l'.Bounded → l'.responseCnt + (getScanLength cmd).2 ≤ maxDataSize →
      Keeps l' (k l')) : Keeps l (beginRead l cmd k) := by
  rw [beginRead]
  split_ifs with hroom
  · exact keeps_fail hb
  · have hcmd : Keeps l { l with
        st := l.st.respond l.responseCnt [cmd], responseCnt := l.responseCnt + 1 } :=
      ⟨⟨hb.used, show l.responseCnt + 1 ≤ maxDataSize by omega⟩, rfl, rfl, le_refl _, _, rfl,
        by simpa [Access.Safe] using show l.responseCnt + 1 ≤ maxDataSize by omega⟩
    exact hcmd.trans (hk _ hcmd.bounded (by simpa using by omega))

end Scan

/-! ## The loop -/

/-- The next command is a clock setting whose 8-bit divisor is zero. -/
def JtagLoop.ClockWraps (l : JtagLoop) : Prop :=
  l.packet.used + 2 ≤ l.packet.total ∧ l.packet.buffer l.packet.used = jtagFreq ∧
    (l.packet.buffer (l.packet.used + 1) = 0x40 ∨ l.packet.buffer (l.packet.used + 1) = 0x60)

section Loop

variable {l : JtagLoop}

theorem keeps_ite {c : Prop} [Decidable c] {a b : JtagLoop} (ha : c → Keeps l a)
    (hb : ¬ c → Keeps l b) : Keeps l (if c then a else b) := by
  by_cases h : c
  · rw [if_pos h]
    exact ha h
  · rw [if_neg h]
    exact hb h

theorem jtagDispatch_keeps (hb : l.Bounded) {cmd : UInt8}
    (hf : cmd = jtagFreq → l.packet.used < l.packet.total →
      tclk (l.packet.buffer l.packet.used) ≠ 0) : Keeps l (jtagDispatch l cmd) := by
  rw [jtagDispatch]
  refine keeps_ite (fun _ => withData_keeps hb fun _ hb' => ?eventConfig) fun _ => ?_
  case eventConfig => exact keeps_result hb' (writeEventConfig_accesses _ _)
  refine keeps_ite (fun _ => writeCfg_keeps hb hf) fun _ => ?_
  refine keeps_ite (fun _ => withData_keeps hb fun _ hb' => writePins_keeps hb' _) fun _ => ?_
  refine keeps_ite (fun _ => withData_keeps hb fun _ hb' => ?readStatus) fun _ => ?_
  case readStatus =>
    refine keeps_ite (fun _ => keeps_fail hb') fun hroom => ?_
    exact readStatus_keeps hb' (by omega) _ _
  refine keeps_ite (fun _ => withData_keeps hb fun _ hb' => keeps_jtag hb' _) fun _ => ?_
  refine keeps_ite (fun _ => ?waitPrdy) fun _ => ?_
  case waitPrdy =>
    have hdiv : Keeps l (l.touch [.division jtagClockCycleMilliseconds]) :=
      keeps_touch hb rfl (by simp [Access.Safe]) _ _
    exact hdiv.trans (keeps_target hdiv.bounded _)
  refine keeps_ite (fun _ => Keeps.refl hb) fun _ => ?_
  refine keeps_ite (fun _ => keeps_jtag hb _) fun _ => ?_
  refine keeps_ite (fun _ => withData_keeps hb fun _ hb' => ?waitSync) fun _ => ?_
  case waitSync => exact keeps_result (r := (_, _)) hb' rfl
  refine keeps_ite (fun _ => keeps_jtag hb _) fun _ => ?_
  refine keeps_ite (fun _ => withData_keeps hb fun _ hb' => ?write) fun _ => ?_
  case write => exact scanShift_keeps hb' _ _ _ (by simp)
  refine keeps_ite (fun _ => beginRead_keeps hb fun _ hb' hroom => ?read) fun _ => ?_
  case read => exact scanShift_keeps hb' _ _ _ fun _ => hroom
  refine keeps_ite (fun _ => beginRead_keeps hb fun _ hb' hroom => ?readWrite) fun _ => ?_
  case readWrite =>
    refine withData_keeps hb' fun _ hb'' => ?_
    exact scanShift_keeps hb'' _ _ _ fun _ => hroom
  exact keeps_fail hb

theorem jtagCommand_eq (h : l.packet.used < l.packet.total) :
    jtagCommand l = jtagDispatch (l.advance 1) (l.packet.buffer l.packet.used) := by
  rw [jtagCommand, withData_eq h]
  rfl

/-- **Every command but the overflowing clock setting is safe.** -/
theorem jtagCommand_keeps (hb : l.Bounded) (hg : l.goesOn = true) (hf : ¬ l.ClockWraps) :
    Keeps (l.advance 1) (jtagCommand l) := by
  rw [JtagLoop.goesOn, Bool.and_eq_true, decide_eq_true_eq] at hg
  rw [jtagCommand_eq hg.2]
  refine jtagDispatch_keeps (keeps_advance hb hg.2).bounded fun hcmd hlt => ?_
  intro h0
  exact hf ⟨hlt, hcmd, (tclk_eq_zero_iff _).mp h0⟩

/-- The overflowing clock setting divides by zero. -/
theorem jtagCommand_clockWraps (h : l.ClockWraps) :
    jtagCommand l = (((l.advance 1).advance 1).touch [.division 0]).jtag
      (jtagSetJtagTck l.st.jtagHandler 0) := by
  obtain ⟨hle, hcmd, hdata⟩ := h
  have hz : tclk (l.packet.buffer (l.packet.used + 1)) = 0 := (tclk_eq_zero_iff _).mpr hdata
  have h1 : (l.advance 1).packet.used + 1 ≤ (l.advance 1).packet.total := hle
  rw [jtagCommand_eq (by omega), hcmd, jtagDispatch, if_neg (by decide), if_pos (by decide),
    writeCfg, if_pos rfl, withData_eq h1]
  have hbyte : (slice (l.advance 1).packet.buffer (l.advance 1).packet.used 1).headD 0 =
      l.packet.buffer (l.packet.used + 1) := rfl
  rw [hbyte, hz]
  rfl

/-- What every round keeps, safe or not. -/
theorem jtagCommand_bounded (hb : l.Bounded) (hg : l.goesOn = true) :
    (jtagCommand l).Bounded ∧ (jtagCommand l).packet.total = l.packet.total ∧
      l.packet.used < (jtagCommand l).packet.used := by
  by_cases hf : l.ClockWraps
  · rw [jtagCommand_clockWraps hf]
    refine ⟨⟨hf.1, hb.response⟩, rfl, ?_⟩
    exact show l.packet.used < l.packet.used + 1 + 1 by omega
  · have h := jtagCommand_keeps hb hg hf
    exact ⟨h.bounded, h.total, h.used⟩

/-- One round is safe exactly if it meets no overflowing clock setting. -/
theorem jtagCommand_safe_iff (hb : l.Bounded) (hg : l.goesOn = true) :
    (jtagCommand l).st.Safe ↔ l.st.Safe ∧ ¬ l.ClockWraps := by
  by_cases hf : l.ClockWraps
  · rw [jtagCommand_clockWraps hf]
    refine ⟨fun h => ?_, fun h => absurd hf h.2⟩
    exact absurd rfl (h (.division 0) (List.mem_append_right _ (List.mem_singleton_self _)))
  · have hlt : l.packet.used < l.packet.total := by
      rw [JtagLoop.goesOn, Bool.and_eq_true, decide_eq_true_eq] at hg
      exact hg.2
    rw [(jtagCommand_keeps hb hg hf).safe_iff, (keeps_advance hb hlt).safe_iff]
    exact ⟨fun h => ⟨h, hf⟩, And.left⟩

end Loop

/-! ## Whole messages -/

/-- The loop variables after `k` rounds. -/
def jtagRounds (s : AsdMsg) (m : AsdMessage) (k : ℕ) : JtagLoop :=
  whileN JtagLoop.goesOn jtagCommand k (jtagLoopStart s m ((getMessageSize m.header).getD 0))

/-- Nothing has been touched yet. -/
def AsdMsg.untouched (s : AsdMsg) : AsdMsg := { s with accesses := [] }

theorem jtagLoopStart_bounded (s : AsdMsg) (m : AsdMessage) (size : ℕ) :
    (jtagLoopStart s m size).Bounded :=
  ⟨Nat.zero_le _, Nat.zero_le _⟩

/-- The rounds of `processJtagMessage` suffice. -/
theorem jtagRounds_done (s : AsdMsg) (m : AsdMessage) {n : ℕ}
    (hn : (getMessageSize m.header).getD 0 ≤ n) : (jtagRounds s m n).goesOn = false := by
  refine whileN_done (P := fun l : JtagLoop => l.Bounded)
    (fun l => l.packet.total - l.packet.used) ?_ (jtagLoopStart_bounded _ _ _) hn
  intro l hl hg
  obtain ⟨hb, ht, hu⟩ := jtagCommand_bounded hl hg
  have := hb.used
  exact ⟨hb, by omega⟩

theorem jtagRounds_safe_iff (s : AsdMsg) (m : AsdMessage) (n : ℕ) :
    (jtagRounds s.untouched m n).st.Safe ↔
      ∀ k < n, (jtagRounds s.untouched m k).goesOn = true →
        ¬ (jtagRounds s.untouched m k).ClockWraps := by
  have h := whileN_iff_heads (c := JtagLoop.goesOn) (f := jtagCommand)
    (P := fun l => l.Bounded) (I := fun l => l.st.Safe) (C := fun l => ¬ l.ClockWraps)
    (fun l hb hg => (jtagCommand_bounded hb hg).1) (fun l hb hg => jtagCommand_safe_iff hb hg)
    (jtagLoopStart_bounded s.untouched m ((getMessageSize m.header).getD 0)) n
  have hstart : (jtagLoopStart s.untouched m ((getMessageSize m.header).getD 0)).st.Safe :=
    fun _ h => nomatch h
  exact h.trans ⟨And.right, fun h => ⟨hstart, h⟩⟩

theorem sendResponse_accesses (s : AsdMsg) (m : AsdMessage) :
    (sendResponse s m).2.accesses = s.accesses := by
  unfold sendResponse
  split <;> rfl

theorem jtagReply_safe_iff (l : JtagLoop) (m : AsdMessage) : (jtagReply l m).2.Safe ↔ l.st.Safe := by
  rw [jtagReply]
  split_ifs
  · rw [AsdMsg.Safe, sendResponse_accesses]
    rfl
  · rfl

/-- **Safety of JTAG messages.** The loop over the commands ends, and everything that it touches for
a message is safe exactly if no round meets the overflowing clock setting. -/
theorem processJtagMessage_safe_iff (s : AsdMsg) (m : AsdMessage) :
    (jtagRounds s.untouched m ((getMessageSize m.header).getD 0)).goesOn = false ∧
      ((processJtagMessage s.untouched m).2.Safe ↔
        ∀ k, (jtagRounds s.untouched m k).goesOn = true →
          ¬ (jtagRounds s.untouched m k).ClockWraps) := by
  refine ⟨jtagRounds_done _ _ (le_refl _), ?_⟩
  have hall : (∀ k, (jtagRounds s.untouched m k).goesOn = true →
      ¬ (jtagRounds s.untouched m k).ClockWraps) ↔
      (jtagRounds s.untouched m ((getMessageSize m.header).getD 0)).st.Safe := by
    rw [jtagRounds_safe_iff]
    refine ⟨fun h k _ => h k, fun h k hg => ?_⟩
    by_cases hk : k < (getMessageSize m.header).getD 0
    · exact h k hk hg
    · rw [jtagRounds_done _ _ (by omega)] at hg
      exact absurd hg (by simp)
  rw [hall, processJtagMessage]
  cases hsize : getMessageSize m.header with
  | none => simp [jtagRounds, hsize, jtagLoopStart, AsdMsg.clearOutMsg, AsdMsg.Safe]
  | some size =>
    simp only [Option.getD_some]
    rw [jtagReply_safe_iff, jtagRounds, hsize]
    rfl

/-- A packet that sets the clock with prescaler 4 and the divisor field 0. -/
theorem processJtagMessage_divides_by_zero :
    ¬ (processJtagMessage (asdMsgInit (.quiet .software))
      ⟨{ MessageHeader.zero.withSize 2 with type := 1 }, block 0 [1, 0x40]⟩).2.Safe := by
  unfold AsdMsg.Safe
  decide +kernel

end BmcAsd
