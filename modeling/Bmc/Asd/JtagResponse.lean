import Mathlib
import Bmc.Asd.JtagSafety

/-!
# The response to a JTAG message

The commands of a packet, the frame that answers a command, and what `process_jtag_message` sends.

* `Commands`: the commands that the bytes of a packet stand for, with `Commands.unique`;
* `Answers`: the response frame of one command; `Executes`: the commands of the packet are executed
  in order, each one in a round of the loop;
* `Ran`, `Failed`: the two ways a piece of the loop body ends;
* **`answered_iff`**: the response is the concatenation of the frames of the packet's commands
  exactly if no look-ahead behind a scan runs off the end of the packet.
-/

namespace BmcAsd

open BmcLib

/-! ## The commands of a packet -/

/-- A command byte with its operands. -/
structure JtagCmd where
  cmd : UInt8
  operand : List UInt8
  deriving DecidableEq, Repr

/-- The bytes of a command in a packet. -/
def JtagCmd.bytes (c : JtagCmd) : List UInt8 := c.cmd :: c.operand

/-- The number of bits in a scan; an encoded `0` stands for `64`. -/
def scanBits (cmd : UInt8) : ℕ := if cmd &&& 0x3f = 0 then 64 else (cmd &&& 0x3f).toNat

/-- The number of bytes in a scan. -/
def scanBytes (cmd : UInt8) : ℕ := (scanBits cmd + 7) / 8

/-- The number of operand bytes behind the command byte `cmd`. Only for a chain selection does it
depend on the operand itself. -/
def operandLength (mode : ChainSelectMode) (cmd : UInt8) (operand : List UInt8) : ℕ :=
  if cmd = irPrefix ∨ cmd = irPostfix then 2
  else if cmd = writePinsCmd then
    if mode = .multi ∧ operand.headD 0 &&& 0x40 = 0x40 then (operand.headD 0 &&& 0xf).toNat + 2 else 1
  else if cmd ≤ readStatusMax ∨ cmd = waitCyclesTckDisable ∨ cmd = waitCyclesTckEnable then 1
  else if cmd = waitSyncCmd then 4
  else if (writeScanMin ≤ cmd ∧ cmd ≤ writeScanMax) ∨ readWriteScanMin ≤ cmd then scanBytes cmd
  else 0

/-- The command has as many operands as its command byte asks for. -/
def JtagCmd.Complete (mode : ChainSelectMode) (c : JtagCmd) : Prop :=
  c.operand.length = operandLength mode c.cmd c.operand

/-- The packet with the given bytes consists of the commands `cs`. -/
def Commands (mode : ChainSelectMode) (bytes : List UInt8) (cs : List JtagCmd) : Prop :=
  bytes = cs.flatMap JtagCmd.bytes ∧ ∀ c ∈ cs, c.Complete mode

theorem operandLength_pos (mode : ChainSelectMode) {cmd : UInt8} (l : List UInt8)
    (h : cmd = writePinsCmd) : 0 < operandLength mode cmd l := by
  subst h
  rw [operandLength, if_neg (by decide), if_pos rfl]
  split_ifs <;> omega

theorem operandLength_congr {mode : ChainSelectMode} {cmd : UInt8} {l l' : List UInt8}
    (h : cmd = writePinsCmd → l.headD 0 = l'.headD 0) :
    operandLength mode cmd l = operandLength mode cmd l' := by
  by_cases hp : cmd = writePinsCmd
  · rw [operandLength, operandLength, h hp]
  · simp only [operandLength, if_neg hp]

/-- The end of a command can be found from its front. -/
theorem JtagCmd.Complete.inj {mode : ChainSelectMode} {c c' : JtagCmd} {r r' : List UInt8}
    (hc : c.Complete mode) (hc' : c'.Complete mode) (h : c.bytes ++ r = c'.bytes ++ r') :
    c = c' ∧ r = r' := by
  obtain ⟨cmd, o⟩ := c
  obtain ⟨cmd', o'⟩ := c'
  simp only [JtagCmd.bytes, List.cons_append, List.cons.injEq] at h
  obtain ⟨rfl, h⟩ := h
  unfold Complete at hc hc'
  dsimp only at hc hc'
  have hlen : o.length = o'.length := by
    rw [hc, hc']
    refine operandLength_congr fun hp => ?_
    have h1 := operandLength_pos mode o hp
    have h2 := operandLength_pos mode o' hp
    cases o with
    | nil => simp at hc; omega
    | cons a o =>
      cases o' with
      | nil => simp at hc'; omega
      | cons a' o' =>
        rw [List.cons_append, List.cons_append, List.cons.injEq] at h
        exact h.1
  obtain ⟨rfl, rfl⟩ := List.append_inj h hlen
  exact ⟨rfl, rfl⟩

/-- **A packet consists of its commands in one way only.** -/
theorem Commands.unique {mode : ChainSelectMode} {bytes : List UInt8} {cs cs' : List JtagCmd}
    (h : Commands mode bytes cs) (h' : Commands mode bytes cs') : cs = cs' := by
  induction cs generalizing bytes cs' with
  | nil =>
    cases cs' with
    | nil => rfl
    | cons c' cs' => simpa [JtagCmd.bytes] using h.1.symm.trans h'.1
  | cons c cs ih =>
    cases cs' with
    | nil => simpa [JtagCmd.bytes] using h.1.symm.trans h'.1
    | cons c' cs' =>
      have heq := h.1.symm.trans h'.1
      rw [List.flatMap_cons, List.flatMap_cons] at heq
      have hc := List.forall_mem_cons.mp h.2
      have hc' := List.forall_mem_cons.mp h'.2
      obtain ⟨rfl, hr⟩ := JtagCmd.Complete.inj hc.1 hc'.1 heq
      rw [ih ⟨rfl, hc.2⟩ ⟨hr, hc'.2⟩]

/-! ## Response frames -/

/-- The status byte of `READ_STATUS` for the pin number `pin`. -/
def statusByte (s : AsdMsg) (pin : UInt8) : UInt8 :=
  if (targetRead s.targetHandler pin.toNat).2.1 then pin ||| 0x80 else pin

/-- The shift that a command which reads a scan asks for, with the end state `e`. -/
def readShift (s : AsdMsg) (c : JtagCmd) (e : TapState) : ShiftResult :=
  jtagShift s.jtagHandler (scanBits c.cmd)
    (if c.cmd ≤ readScanMax then none else some (block 0 c.operand)) (some (scanBytes c.cmd)) e

/-- The frame `f` answers the command `c`, executed in the state `s`. -/
def Answers (s : AsdMsg) (c : JtagCmd) (f : List UInt8) : Prop :=
  if readStatusMin ≤ c.cmd ∧ c.cmd ≤ readStatusMax then
    f = [c.cmd, statusByte s (c.operand.headD 0 &&& 0x7f)]
  else if readScanMin ≤ c.cmd then
    ∃ e tdo, (readShift s c e).output = some tdo ∧ tdo.length = scanBytes c.cmd ∧ f = c.cmd :: tdo
  else f = []

/-- A round of the loop executes the command `c`, with the response frame `f`, and takes the
commands `skipped` behind it, which wait while the target is in reset. -/
structure Round (l : JtagLoop) (c : JtagCmd) (skipped : List JtagCmd) (f : List UInt8) : Prop where
  stays : (jtagCommand l).broken = false
  complete : ∀ d ∈ c :: skipped, d.Complete l.st.jtagChainMode
  waits : ∀ d ∈ skipped, c.cmd = writePinsCmd ∧ d.cmd = waitCyclesTckDisable
  bytes : slice l.packet.buffer l.packet.used ((jtagCommand l).packet.used - l.packet.used) =
    (c :: skipped).flatMap JtagCmd.bytes
  answers : Answers l.st c f

/-- The commands of one round, with their response frames. -/
def roundItems (c : JtagCmd) (skipped : List JtagCmd) (f : List UInt8) :
    List (JtagCmd × List UInt8) :=
  (c, f) :: skipped.map (·, [])

/-- From `l` on, the rounds of the loop execute the given commands with the given frames. -/
inductive Executes : JtagLoop → List (JtagCmd × List UInt8) → Prop
  | done {l : JtagLoop} (h : l.goesOn = false) : Executes l []
  | round {l : JtagLoop} {c : JtagCmd} {skipped : List JtagCmd} {f : List UInt8}
      {rest : List (JtagCmd × List UInt8)} (h : l.goesOn = true) (hr : Round l c skipped f)
      (ht : Executes (jtagCommand l) rest) :
      Executes l (roundItems c skipped f ++ rest)

/-- The response to the message `m`: every command of the packet is executed in its place, and one
frame was sent. It has the header of the request, the status success, and as payload the response
frames of the commands. -/
def Answered (s : AsdMsg) (m : AsdMessage) (s' : AsdMsg) : Prop :=
  ∃ size items, getMessageSize m.header = some size ∧
    Executes (jtagLoopStart s m size) items ∧
    Commands s.jtagChainMode (slice m.buffer 0 size) (items.map Prod.fst) ∧
    ∃ h, s'.network = s.network.call ⟨h, items.flatMap Prod.snd⟩ ∧
      getMessageSize h = some (items.flatMap Prod.snd).length ∧
      h = { m.header with sizeLsb := h.sizeLsb, sizeMsb := h.sizeMsb, cmdStat := asdSuccess }

/-- The look-ahead from `p` on finds a tap state command, moves on behind it, and hits the end of the
packet before it finds a command that it does not skip. -/
def LooksOff (s : AsdMsg) (p : PacketData) : Prop :=
  s.jtagMode = .hardware ∧ p.used < p.total ∧ isTapState (p.buffer p.used) = true ∧
    (lookAhead { p with used := p.used + 1 }).cmd2 = none ∧
    (lookAhead { p with used := p.used + 1 }).packet.used ≠ p.used + 1

/-- The next command is a scan, and the look-ahead behind it runs off the end of the packet. -/
def JtagLoop.RunsOff (l : JtagLoop) : Prop :=
  let cmd := l.packet.buffer l.packet.used
  let n := operandLength l.st.jtagChainMode cmd []
  writeScanMin ≤ cmd ∧ LooksOff l.st { l.packet with used := l.packet.used + 1 + n }

/-! ## How a piece of the loop body ends -/

/-- The state parts that no command changes, apart from the response. -/
structure SameReply (s s' : AsdMsg) : Prop where
  outMsg : s'.outMsg = s.outMsg
  chainMode : s'.jtagChainMode = s.jtagChainMode
  network : s'.network = s.network

/-- The message fails. -/
def Failed (l : JtagLoop) : Prop := l.status ≠ .ok ∧ l.goesOn = false

/-- A piece of the loop body has read `n` bytes and appended `f` to the response. -/
structure Ran (l l' : JtagLoop) (n : ℕ) (f : List UInt8) : Prop where
  status : l'.status = .ok
  stays : l'.broken = false
  packet : l'.packet = { l.packet with used := l.packet.used + n }
  response : l'.responseCnt = l.responseCnt + f.length
  output : slice l'.st.outMsg.buffer 0 l'.responseCnt =
    slice l.st.outMsg.buffer 0 l.responseCnt ++ f
  chainMode : l'.st.jtagChainMode = l.st.jtagChainMode
  network : l'.st.network = l.st.network

section Ran

variable {l l₁ l₂ l₃ : JtagLoop} {n k : ℕ} {f g : List UInt8}

theorem Ran.trans (h : Ran l₁ l₂ n f) (h' : Ran l₂ l₃ k g) : Ran l₁ l₃ (n + k) (f ++ g) where
  status := h'.status
  stays := h'.stays
  packet := by rw [h'.packet, h.packet, Nat.add_assoc]
  response := by rw [h'.response, h.response, List.length_append, Nat.add_assoc]
  output := by rw [h'.output, h.output, List.append_assoc]
  chainMode := h'.chainMode.trans h.chainMode
  network := h'.network.trans h.network

theorem ran_result {r : Status × AsdMsg} (hr : r.1 = .ok) (hs : SameReply l.st r.2) :
    Ran l (l.result r) 0 [] where
  status := hr
  stays := by simp [JtagLoop.result, hr]
  packet := rfl
  response := rfl
  output := by
    rw [List.append_nil]
    exact congrArg (fun m : AsdMessage => slice m.buffer 0 l.responseCnt) hs.outMsg
  chainMode := hs.chainMode
  network := hs.network

theorem ran_refl (hs : l.status = .ok) (hb : l.broken = false) : Ran l l 0 [] :=
  ⟨hs, hb, rfl, rfl, (List.append_nil _).symm, rfl, rfl⟩

theorem ran_touch (hs : l.status = .ok) (hb : l.broken = false) (as : List Access) :
    Ran l (l.touch as) 0 [] :=
  ⟨hs, hb, rfl, rfl, (List.append_nil _).symm, rfl, rfl⟩

theorem ran_advance (hs : l.status = .ok) (hb : l.broken = false) (n : ℕ) :
    Ran l (l.advance n) n [] :=
  ⟨hs, hb, rfl, rfl, (List.append_nil _).symm, rfl, rfl⟩

theorem ran_respond (hs : l.status = .ok) (hb : l.broken = false) (f : List UInt8) :
    Ran l { l with st := l.st.respond l.responseCnt f, responseCnt := l.responseCnt + f.length }
      0 f :=
  ⟨hs, hb, rfl, rfl, slice_append_store _ _ _, rfl, rfl⟩

theorem failed_of_broken (hs : l.status ≠ .ok) (hb : l.broken = true) : Failed l :=
  ⟨hs, by rw [JtagLoop.goesOn, hb]; rfl⟩

theorem failed_fail (l : JtagLoop) : Failed l.fail :=
  failed_of_broken (fun h => nomatch h) rfl

theorem failed_result {r : Status × AsdMsg} (hr : r.1 ≠ .ok) : Failed (l.result r) :=
  failed_of_broken hr (by simpa [JtagLoop.result] using hr)

/-- A handler either fails or does nothing to the response. -/
theorem result_ends {r : Status × AsdMsg} (hs : SameReply l.st r.2) :
    Failed (l.result r) ∨ Ran l (l.result r) 0 [] := by
  by_cases hr : r.1 = .ok
  · exact Or.inr (ran_result hr hs)
  · exact Or.inl (failed_result hr)

theorem jtag_ends (r : Status × JtagHandler) : Failed (l.jtag r) ∨ Ran l (l.jtag r) 0 [] :=
  result_ends ⟨rfl, rfl, rfl⟩

theorem target_ends (r : Status × TargetHandle) : Failed (l.target r) ∨ Ran l (l.target r) 0 [] :=
  result_ends ⟨rfl, rfl, rfl⟩

end Ran

/-! ## The commands, one by one -/

/-- Behind the command byte `cmd`, the loop body reads the rest of the command and perhaps some
skipped commands, and appends the frame of the command. -/
structure Responds (l : JtagLoop) (cmd : UInt8) (l' : JtagLoop) (operand : List UInt8)
    (skipped : List JtagCmd) (f : List UInt8) : Prop where
  complete : JtagCmd.Complete l.st.jtagChainMode ⟨cmd, operand⟩
  waits : ∀ d ∈ skipped, d.Complete l.st.jtagChainMode ∧ cmd = writePinsCmd ∧
    d.cmd = waitCyclesTckDisable
  bytes : slice l.packet.buffer l.packet.used (operand ++ skipped.flatMap JtagCmd.bytes).length =
    operand ++ skipped.flatMap JtagCmd.bytes
  answers : Answers l.st ⟨cmd, operand⟩ f
  ran : Ran l l' (operand ++ skipped.flatMap JtagCmd.bytes).length f

/-- The loop body fails or responds. -/
def Ends (l : JtagLoop) (cmd : UInt8) (l' : JtagLoop) : Prop :=
  Failed l' ∨ ∃ operand skipped f, Responds l cmd l' operand skipped f

section Commands

variable {l : JtagLoop} {cmd : UInt8}

theorem ends_ite {c : Prop} [Decidable c] {a b : JtagLoop} (ha : c → Ends l cmd a)
    (hb : ¬ c → Ends l cmd b) : Ends l cmd (if c then a else b) := by
  by_cases h : c
  · rw [if_pos h]
    exact ha h
  · rw [if_neg h]
    exact hb h

/-- A command with `n` operands that skips nothing. -/
theorem ends_of_ran {l' : JtagLoop} {n : ℕ} {f : List UInt8}
    (hn : operandLength l.st.jtagChainMode cmd (slice l.packet.buffer l.packet.used n) = n)
    (ha : Answers l.st ⟨cmd, slice l.packet.buffer l.packet.used n⟩ f) (h : Ran l l' n f) :
    Ends l cmd l' := by
  refine Or.inr ⟨slice l.packet.buffer l.packet.used n, [], f, ?_, by simp, ?_, ha, ?_⟩
  · rw [JtagCmd.Complete, length_slice, hn]
  · simp
  · simpa using h

/-- A command without operands and without response. -/
theorem ends_bare {l' : JtagLoop} (hn : operandLength l.st.jtagChainMode cmd [] = 0)
    (ha : Answers l.st ⟨cmd, []⟩ []) (h : Failed l' ∨ Ran l l' 0 []) : Ends l cmd l' := by
  rcases h with h | h
  · exact Or.inl h
  · exact ends_of_ran (n := 0) hn ha h

/-- A command with `n` operands. -/
theorem ends_withData {n : ℕ} {k : List UInt8 → JtagLoop → JtagLoop}
    (hs : l.status = .ok) (hb : l.broken = false)
    (hn : operandLength l.st.jtagChainMode cmd (slice l.packet.buffer l.packet.used n) = n)
    (hk : l.packet.used + n ≤ l.packet.total → ∀ o, Failed (k o (l.advance n)) ∨
      ∃ f, Ran (l.advance n) (k o (l.advance n)) 0 f ∧ Answers l.st ⟨cmd, o⟩ f) :
    Ends l cmd (l.withData n k) := by
  by_cases h : l.packet.used + n ≤ l.packet.total
  · rw [withData_eq h]
    rcases hk h _ with hf | ⟨f, hr, ha⟩
    · exact Or.inl hf
    · exact ends_of_ran hn ha ((ran_advance hs hb n).trans hr)
  · rw [withData_short (by omega)]
    exact Or.inl (failed_fail l)

/-- A command with `n` operands and without response. -/
theorem ends_plain {n : ℕ} {k : List UInt8 → JtagLoop → JtagLoop}
    (hs : l.status = .ok) (hb : l.broken = false)
    (hn : operandLength l.st.jtagChainMode cmd (slice l.packet.buffer l.packet.used n) = n)
    (ha : ∀ o, Answers l.st ⟨cmd, o⟩ [])
    (hk : ∀ o, Failed (k o (l.advance n)) ∨ Ran (l.advance n) (k o (l.advance n)) 0 []) :
    Ends l cmd (l.withData n k) :=
  ends_withData hs hb hn fun _ o => (hk o).imp id fun hr => ⟨[], hr, ha o⟩

theorem forall_uint8 {P : UInt8 → Prop} (h : ∀ n : Fin 256, P (UInt8.ofNat n)) (c : UInt8) : P c := by
  have := h ⟨c.toNat, c.toNat_lt⟩
  rwa [UInt8.ofNat_toNat] at this

/-- Only two kinds of commands are answered. -/
theorem answers_nil {s : AsdMsg} {o : List UInt8} (h : ¬ (readStatusMin ≤ cmd ∧ cmd ≤ readStatusMax))
    (h' : ¬ readScanMin ≤ cmd) : Answers s ⟨cmd, o⟩ [] := by
  rw [Answers, if_neg h, if_neg h']

theorem writeCfg_ends (hs : l.status = .ok) (hb : l.broken = false) : Ends l cmd (writeCfg l cmd) := by
  have hpad (n : ℕ) (p : PaddingType) (o : List UInt8) : Failed ((l.advance n).jtag
      (jtagSetPadding (l.advance n).st.jtagHandler p
        (if n = 2 then operand16 o else (o.headD 0).toNat))) ∨ _ := jtag_ends _
  rw [writeCfg]
  refine ends_ite (fun h => ?freq) fun _ => ?_
  case freq =>
    subst h
    refine ends_plain hs hb rfl (fun _ => answers_nil (by decide) (by decide)) fun o => ?_
    have ht := ran_touch (l := l.advance 1) hs hb [.division (tclk (o.headD 0)).toNat]
    exact (jtag_ends _).imp id fun h => ht.trans h
  refine ends_ite (fun h => ?drPrefix) fun _ => ?_
  case drPrefix =>
    subst h
    exact ends_plain hs hb rfl (fun _ => answers_nil (by decide) (by decide)) (hpad 1 _)
  refine ends_ite (fun h => ?drPostfix) fun _ => ?_
  case drPostfix =>
    subst h
    exact ends_plain hs hb rfl (fun _ => answers_nil (by decide) (by decide)) (hpad 1 _)
  refine ends_ite (fun h => ?irPrefix) fun _ => ?_
  case irPrefix =>
    subst h
    exact ends_plain hs hb rfl (fun _ => answers_nil (by decide) (by decide)) (hpad 2 _)
  refine ends_ite (fun h => ?irPostfix) fun _ => ?_
  case irPostfix =>
    subst h
    exact ends_plain hs hb rfl (fun _ => answers_nil (by decide) (by decide)) (hpad 2 _)
  refine ends_ite (fun h => ?prdyTimeout) fun _ => Or.inl (failed_fail l)
  subst h
  exact ends_plain hs hb rfl (fun _ => answers_nil (by decide) (by decide)) fun o =>
    result_ends ⟨rfl, rfl, rfl⟩

/-! ### Pins -/

/-- The commands that the reset loop takes. -/
def Waits (skipped : List JtagCmd) : Prop :=
  ∀ d ∈ skipped, d.cmd = waitCyclesTckDisable ∧ d.operand.length = 1

theorem Waits.complete {skipped : List JtagCmd} (h : Waits skipped) (mode : ChainSelectMode) :
    ∀ d ∈ skipped, d.Complete mode := by
  intro d hd
  obtain ⟨hc, ho⟩ := h d hd
  rw [JtagCmd.Complete, ho, hc]
  rfl

/-- The reset loop takes a row of commands that wait. -/
def TakesWaits (l l' : JtagLoop) : Prop :=
  ∃ skipped, Waits skipped ∧
    slice l.packet.buffer l.packet.used (skipped.flatMap JtagCmd.bytes).length =
      skipped.flatMap JtagCmd.bytes ∧
    Ran l l' (skipped.flatMap JtagCmd.bytes).length []

theorem skipWaitCyclesStep_ends {s : Bool × JtagLoop} (h : TakesWaits l s.2) :
    (Failed (skipWaitCyclesStep s).2 ∧ (skipWaitCyclesStep s).1 = false) ∨
      TakesWaits l (skipWaitCyclesStep s).2 := by
  obtain ⟨skipped, hw, hbytes, hran⟩ := h
  rw [skipWaitCyclesStep]
  cases hget : getPacketData s.2.packet 2 with
  | none => exact Or.inl ⟨failed_fail _, rfl⟩
  | some r =>
    obtain ⟨bytes, p⟩ := r
    obtain ⟨-, rfl, rfl⟩ := getPacketData_eq_some hget
    have hadv := hran.trans (ran_advance hran.status hran.stays 2)
    have hbuf : s.2.packet.buffer = l.packet.buffer := by rw [hran.packet]
    have hused : s.2.packet.used = l.packet.used + (skipped.flatMap JtagCmd.bytes).length := by
      rw [hran.packet]
    refine Or.inr ?_
    dsimp only
    split_ifs with hcmd
    · set w : JtagCmd := ⟨waitCyclesTckDisable, [s.2.packet.buffer (s.2.packet.used + 1)]⟩ with hwait
      refine ⟨skipped ++ [w], ?_, ?_, ?_⟩
      · intro d hd
        rcases List.mem_append.mp hd with hd | hd
        · exact hw d hd
        · rw [List.mem_singleton.mp hd]
          exact ⟨rfl, rfl⟩
      · rw [List.flatMap_append, List.length_append, slice_add, hbytes]
        congr 1
        rw [← hused, ← hbuf]
        simp only [List.flatMap_cons, List.flatMap_nil, JtagCmd.bytes, List.append_nil, hwait]
        rw [← hcmd]
        rfl
      · have hlen : ((skipped ++ [w]).flatMap JtagCmd.bytes).length =
            (skipped.flatMap JtagCmd.bytes).length + 2 := by
          simp [JtagCmd.bytes, hwait]
        rw [hlen]
        exact hadv
    · refine ⟨skipped, hw, hbytes, ?_⟩
      exact ⟨hadv.status, hadv.stays, by rw [PacketData.unget, Nat.add_sub_cancel, hran.packet],
        hadv.response, hadv.output, hadv.chainMode, hadv.network⟩

theorem skipWaitCycles_ends (hs : l.status = .ok) (hb : l.broken = false) :
    Failed (skipWaitCycles l) ∨ TakesWaits l (skipWaitCycles l) := by
  have h := whileN_inv (c := skipWaitCyclesGoesOn) (f := skipWaitCyclesStep)
    (P := fun s => (Failed s.2 ∧ s.1 = false) ∨ TakesWaits l s.2) ?_
    (Or.inr ⟨[], by simp [Waits], rfl, ran_refl hs hb⟩ : _ ∨ TakesWaits l (true, l).2) l.packet.total
  · exact h.imp And.left id
  · intro s hP hc
    rcases hP with ⟨-, h1⟩ | hP
    · simp [skipWaitCyclesGoesOn, h1] at hc
    · exact skipWaitCyclesStep_ends hP

theorem readChainBytes_ends (n : ℕ) {l : JtagLoop} (hs : l.status = .ok) (hb : l.broken = false)
    (i : ℕ) : Failed (readChainBytes l i n) ∨ Ran l (readChainBytes l i n) n [] := by
  induction n generalizing l i with
  | zero => exact Or.inr (ran_refl hs hb)
  | succ n ih =>
    rw [readChainBytes]
    cases hget : getPacketData l.packet 1 with
    | none =>
      refine Or.inl ⟨show Status.err ≠ .ok by decide, ?_⟩
      have : ¬ l.packet.used < l.packet.total := by
        intro hlt
        rw [getPacketData_of_le (n := 1) hlt] at hget
        cases hget
      simp [JtagLoop.goesOn, this]
    | some r =>
      obtain ⟨bytes, p⟩ := r
      obtain ⟨-, rfl, rfl⟩ := getPacketData_eq_some hget
      have hstep : Ran l { l with
          packet := { l.packet with used := l.packet.used + 1 }
          st := l.st.touch [.packet l.packet.used 1 l.packet.total, .chainByte i] } 1 [] :=
        ⟨hs, hb, rfl, rfl, (List.append_nil _).symm, rfl, rfl⟩
      refine (ih hstep.status hstep.stays (i + 1)).imp id fun h => ?_
      have hall := hstep.trans h
      rw [Nat.add_comm 1 n] at hall
      exact hall

theorem asdWriteSetActiveChainEvent_same (s : AsdMsg) (scanChain : ℕ) :
    SameReply s (asdWriteSetActiveChainEvent s scanChain).2 := by
  rw [asdWriteSetActiveChainEvent]
  dsimp only
  split_ifs <;> exact ⟨rfl, rfl, rfl⟩

theorem selectChain_ends (hs : l.status = .ok) (hb : l.broken = false) (selected : ℕ) :
    Failed (selectChain l selected) ∨ Ran l (selectChain l selected)
      (if l.st.jtagChainMode = .multi then selected + 1 else 0) [] := by
  unfold selectChain
  cases l.st.jtagChainMode with
  | single =>
    by_cases hc : selected ≥ maxScanChains
    · exact Or.inl (by simpa [hc] using failed_fail l)
    · simpa [hc] using result_ends (asdWriteSetActiveChainEvent_same l.st selected)
  | multi =>
    rcases readChainBytes_ends (selected + 1) hs hb 0 with hf | hr
    · exact Or.inl hf
    · exact Or.inr (hr.trans (ran_touch hr.status hr.stays _))

theorem pin_bits (data : UInt8) :
    ((Pin.ofNat? (data &&& 0x7f).toNat).isSome → data &&& 0x40 ≠ 0x40) ∧
      data &&& 0x7f &&& 0x40 = data &&& 0x40 ∧ data &&& 0x7f &&& 0xf = data &&& 0xf := by
  refine forall_uint8 (P := fun c => ((Pin.ofNat? (c &&& 0x7f).toNat).isSome → c &&& 0x40 ≠ 0x40) ∧
    c &&& 0x7f &&& 0x40 = c &&& 0x40 ∧ c &&& 0x7f &&& 0xf = c &&& 0xf) ?_ data
  decide +kernel

theorem operandLength_pins (mode : ChainSelectMode) (o : List UInt8) :
    operandLength mode writePinsCmd o =
      if mode = .multi ∧ o.headD 0 &&& 0x40 = 0x40 then (o.headD 0 &&& 0xf).toNat + 2 else 1 := by
  rw [operandLength, if_neg (by decide), if_pos rfl]

theorem writePins_ends (hs : l.status = .ok) (hb : l.broken = false) :
    Ends l writePinsCmd (l.withData 1 fun bytes l => writePins l (bytes.headD 0)) := by
  by_cases hle : l.packet.used + 1 ≤ l.packet.total
  swap
  · rw [withData_short (by omega)]
    exact Or.inl (failed_fail l)
  have hdata : (slice l.packet.buffer l.packet.used 1).headD 0 = l.packet.buffer l.packet.used := rfl
  have hans (o : List UInt8) : Answers l.st ⟨writePinsCmd, o⟩ [] :=
    answers_nil (by decide) (by decide)
  have hadv := ran_advance hs hb 1
  rw [withData_eq hle, hdata]
  generalize hd : l.packet.buffer l.packet.used = data
  obtain ⟨hpin, hsel, hidx⟩ := pin_bits data
  rw [writePins]
  dsimp only
  cases hp : Pin.ofNat? (data &&& 0x7f).toNat with
  | some pin =>
    have hone (o : List UInt8) (ho : o.headD 0 = data) :
        operandLength l.st.jtagChainMode writePinsCmd o = 1 := by
      rw [operandLength_pins, ho, if_neg fun h => hpin (by rw [hp]; rfl) h.2]
    dsimp only
    generalize hw : targetWrite (l.advance 1).st.targetHandler pin (data >>> 7 == 1) = w
    rcases target_ends (l := l.advance 1) w with hf | hr
    · have hbr : ((l.advance 1).target w).broken = true := by
        have := hf.1
        simpa [JtagLoop.target, JtagLoop.result] using this
      rw [if_pos hbr]
      exact Or.inl hf
    · rw [if_neg (by simp [hr.stays])]
      split_ifs
      · rcases skipWaitCycles_ends hr.status hr.stays with hf | ⟨skipped, hwait, hbytes, hran⟩
        · exact Or.inl hf
        · refine Or.inr ⟨[data], skipped, [], ?_, fun d hd => ?_, ?_, hans _, ?_⟩
          · exact (hone [data] rfl).symm
          · exact ⟨hwait.complete _ d hd, rfl, (hwait d hd).1⟩
          · rw [hr.packet] at hbytes
            rw [List.length_append, slice_add]
            congr 1
            rw [← hd]
            rfl
          · rw [List.length_append]
            exact (hadv.trans hr).trans hran
      · exact ends_of_ran (n := 1) (hone _ (hdata.trans hd)) (hans _) (hadv.trans hr)
  | none =>
    dsimp only
    split_ifs with hc
    · rw [hsel] at hc
      rw [hidx]
      rcases selectChain_ends (l := l.advance 1) hs hb (data &&& 0xf).toNat with hf | hr
      · exact Or.inl hf
      · refine ends_of_ran ?_ (hans _) (hadv.trans hr)
        have hhead (n : ℕ) : (slice l.packet.buffer l.packet.used (1 + n)).headD 0 = data := by
          rw [slice_add]
          exact hd
        rw [operandLength_pins, hhead, hc]
        show (if l.st.jtagChainMode = .multi ∧ _ then _ else _) =
          1 + if l.st.jtagChainMode = .multi then _ else _
        by_cases hm : l.st.jtagChainMode = .multi
        · rw [if_pos ⟨hm, rfl⟩, if_pos hm]
          omega
        · rw [if_neg fun h => hm h.1, if_neg hm]
    · exact Or.inl (failed_fail _)

theorem readStatus_ends (hs : l.status = .ok) (hb : l.broken = false)
    (hc : readStatusMin ≤ cmd ∧ cmd ≤ readStatusMax) :
    Ends l cmd (l.withData 1 fun bytes l =>
      if l.responseCnt + 2 > maxDataSize then l.fail
      else readStatus l (cmd &&& 0x7) (bytes.headD 0 &&& 0x7f)) := by
  have hone : ∀ c : UInt8, readStatusMin ≤ c ∧ c ≤ readStatusMax → ∀ mode,
      operandLength mode c [] = 1 ∧ c ≠ writePinsCmd ∧ readStatusMin + (c &&& 0x7) = c := by
    intro c hc
    have hlow : (c &&& 0x7).toNat = c.toNat % 2 ^ 3 := by
      rw [UInt8.toNat_and]
      exact Nat.and_two_pow_sub_one_eq_mod _ 3
    simp only [operandLength, UInt8.le_iff_toNat_le, ne_eq, ← UInt8.toNat_inj, UInt8.toNat_add, hlow, irPrefix,
      irPostfix, writePinsCmd, readStatusMin, readStatusMax, UInt8.reduceToNat] at hc ⊢
    intro mode
    refine ⟨?_, by omega, by omega⟩
    rw [if_neg (by omega), if_neg (by omega), if_pos (by omega)]
  obtain ⟨hlen, hpins, hbyte⟩ := hone cmd hc l.st.jtagChainMode
  refine ends_withData hs hb ((operandLength_congr fun h => absurd h hpins).trans hlen) ?_
  intro _ o
  by_cases hroom : (l.advance 1).responseCnt + 2 > maxDataSize
  · rw [if_pos hroom]
    exact Or.inl (failed_fail _)
  · rw [if_neg hroom, readStatus]
    dsimp only
    by_cases hr : (targetRead (l.advance 1).st.targetHandler (o.headD 0 &&& 0x7f).toNat).1 = .ok
    · rw [if_pos hr]
      refine Or.inr ⟨[cmd, statusByte l.st (o.headD 0 &&& 0x7f)], ?_, ?_⟩
      · have hresp := ran_respond (l := l.advance 1) hs hb
          [cmd, statusByte l.st (o.headD 0 &&& 0x7f)]
        refine ⟨rfl, rfl, rfl, rfl, ?_, rfl, rfl⟩
        rw [hbyte]
        exact hresp.output
      · rw [Answers, if_pos hc]
    · rw [if_neg hr]
      exact Or.inl (failed_of_broken hr (by simpa [JtagLoop.result] using hr))

/-! ### Scans -/

theorem getScanLength_eq (cmd : UInt8) : getScanLength cmd = (scanBits cmd, scanBytes cmd) := by
  rw [getScanLength, scanBytes, scanBits]
  have h0 : (cmd &&& 0x3f).toNat = 0 ↔ cmd &&& 0x3f = 0 := by
    rw [← UInt8.toNat_inj]
    rfl
  simp only [h0]
  split_ifs <;> rfl

theorem operandLength_scan (mode : ChainSelectMode) (o : List UInt8) (h : writeScanMin ≤ cmd) :
    operandLength mode cmd o =
      if readScanMin ≤ cmd ∧ cmd ≤ readScanMax then 0 else scanBytes cmd := by
  have hbits : ∀ c : UInt8, writeScanMin ≤ c → c ≠ writePinsCmd ∧ ∀ m,
      operandLength m c [] = if readScanMin ≤ c ∧ c ≤ readScanMax then 0 else scanBytes c := by
    refine forall_uint8 ?_
    intro n hn
    refine ⟨?_, fun m => ?_⟩
    · revert n
      decide +kernel
    · revert n
      cases m <;> decide +kernel
  obtain ⟨hpins, hlen⟩ := hbits cmd h
  rw [← hlen mode]
  exact operandLength_congr fun h => absurd h hpins

/-- A shift that succeeds writes its output, if it has one. -/
theorem jtagShift_output {h : JtagHandler} {bits n : ℕ} {i : Option (ℕ → UInt8)} {e : TapState}
    (hok : (jtagShift h bits i (some n) e).status = .ok) :
    ∃ tdo, (jtagShift h bits i (some n) e).output = some tdo := by
  have htransfer (h : JtagHandler) (c e : TapState) (a b : ℕ) :
      (transfer h bits i (some n) c e a b).output.isSome := by
    rw [transfer]
    split_ifs <;> rfl
  have hdata (h : JtagHandler) (post : ℕ) (pad : ℕ → UInt8) (c e : TapState) :
      (shiftData h bits i (some n) post pad c e).output.isSome := by
    rw [shiftData]
    split
    · dsimp only
      split_ifs <;> exact htransfer _ _ _ _ _
    · dsimp only
      split
      · exact htransfer _ _ _ _ _
      · split <;> exact htransfer _ _ _ _ _
  rw [← Option.isSome_iff_exists]
  revert hok
  unfold jtagShift
  split
  · unfold jtagShiftHw
    dsimp only
    split
    · intro hok
      cases hok
    · exact fun _ => htransfer _ _ _ _ _
  · dsimp only
    split
    · intro hok
      cases hok
    · generalize (if h.active.tapState = .shfIr then padDataOne else padDataZero) = pad
      split
      · intro hok
        cases hok
      · exact fun _ => hdata _ _ _ _ _

/-- Where the look-ahead leaves the packet. -/
theorem determineShiftEndState_used (s : AsdMsg) (scanType : ScanType) {p : PacketData}
    (hp : p.used ≤ p.total) :
    (determineShiftEndState s scanType p).2.2.1.used = p.used ↔ ¬ LooksOff s p := by
  rw [determineShiftEndState]
  by_cases hle : p.used + 1 ≤ p.total
  · rw [getPacketData_of_le hle]
    dsimp only
    have hbyte : (slice p.buffer p.used 1).headD 0 = p.buffer p.used := rfl
    rw [hbyte]
    by_cases htap : isTapState (p.buffer p.used) = true
    · rw [if_pos htap]
      by_cases hmode : s.jtagMode = .hardware
      · have hl := lookAhead_ok (p := { p with used := p.used + 1 }) hle
        have hback := hl.back
        have hge : p.used + 1 ≤ (lookAhead { p with used := p.used + 1 }).packet.used := hl.le_used
        simp only [hmode, if_true, LooksOff, htap, true_and, Nat.lt_of_succ_le hle]
        cases hcmd : (lookAhead { p with used := p.used + 1 }).cmd2 with
        | some c =>
          rw [hcmd] at hback
          have h := hback rfl
          simp only [Option.isSome_some, if_true, PacketData.unget] at h ⊢
          simp
          omega
        | none =>
          simp only [Option.isSome_none, PacketData.unget]
          simp
          omega
      · simp [hmode, LooksOff, LookAhead.start, PacketData.unget]
    · rw [if_neg htap]
      simp [LooksOff, htap, PacketData.unget]
  · rw [getPacketData_eq_none (by omega)]
    simp [LooksOff]
    omega

theorem scanTransfer_packet (l : JtagLoop) (scanType : ScanType) (cmd : UInt8)
    (input : Option (List UInt8)) (e : TapState) :
    (scanTransfer l scanType cmd input e).packet = l.packet := by
  rw [scanTransfer]
  dsimp only
  split_ifs <;> rfl

theorem scanShift_packet (l : JtagLoop) (scanType : ScanType) (cmd : UInt8)
    (input : Option (List UInt8)) :
    (scanShift l scanType cmd input).packet =
      (determineShiftEndState l.st scanType l.packet).2.2.1 := by
  rw [scanShift]
  split_ifs
  · rfl
  · rw [scanTransfer_packet]
    rfl

/-- The shift of a scan command appends what was read, and nothing for a write. -/
theorem scanTransfer_ends (cmd : UInt8) (hs : l.status = .ok) (hb : l.broken = false)
    (scanType : ScanType) (input : Option (List UInt8)) (e : TapState) :
    Failed (scanTransfer l scanType cmd input e) ∨
      ∃ f, Ran l (scanTransfer l scanType cmd input e) 0 f ∧ (scanType = .write → f = []) ∧
        (scanType ≠ .write →
          (jtagShift l.st.jtagHandler (scanBits cmd) (input.map (block 0)) (some (scanBytes cmd))
            e).output = some f ∧ f.length = scanBytes cmd) := by
  rw [scanTransfer, getScanLength_eq]
  dsimp only
  by_cases hw : scanType = .write
  · subst hw
    rw [if_pos rfl]
    generalize hsh : jtagShift l.st.jtagHandler (scanBits cmd) (input.map (block 0)) none e = r
    have hnone : r.output = none := by
      rw [Option.eq_none_iff_forall_not_mem, ← hsh]
      intro tdo ht
      have := (jtagShift_length _ _ _ _ _ tdo ht).1
      cases this
    rw [if_pos (Or.inr rfl), hnone]
    have hends := result_ends (l := l)
      (r := (r.status, { l.st with jtagHandler := r.handler }.touch [.division 8])) ⟨rfl, rfl, rfl⟩
    exact hends.imp id fun h => ⟨[], h, fun _ => rfl, fun h => absurd rfl h⟩
  · rw [if_neg hw]
    generalize hsh : jtagShift l.st.jtagHandler (scanBits cmd) (input.map (block 0))
      (some (scanBytes cmd)) e = r
    by_cases hok : r.status = .ok
    · obtain ⟨tdo, ht⟩ := jtagShift_output (hsh ▸ hok)
      have hlen := (jtagShift_length _ _ _ _ _ tdo ht).2
      have hlen : tdo.length = scanBytes cmd := by
        rw [hlen]
        rfl
      rw [hsh] at ht
      refine Or.inr ⟨tdo, ?_, fun h => absurd h hw, fun _ => ⟨ht, hlen⟩⟩
      rw [ht, if_neg (by simp [JtagLoop.result, hok, hw])]
      have hresp := ran_respond (l := l) hs hb tdo
      exact ⟨hok, by simp [JtagLoop.result, hok], rfl, by rw [hlen]; rfl, hlen ▸ hresp.output, rfl, rfl⟩
    · rw [if_pos (Or.inl (by simpa [JtagLoop.result] using hok))]
      exact Or.inl (failed_result hok)

theorem scanShift_ends (cmd : UInt8) (hle : l.packet.used ≤ l.packet.total)
    (hoff : ¬ LooksOff l.st l.packet) (scanType : ScanType) (input : Option (List UInt8)) :
    Failed (scanShift l scanType cmd input) ∨
      ∃ e f, Ran l (scanShift l scanType cmd input) 0 f ∧ (scanType = .write → f = []) ∧
        (scanType ≠ .write →
          (jtagShift l.st.jtagHandler (scanBits cmd) (input.map (block 0)) (some (scanBytes cmd))
            e).output = some f ∧ f.length = scanBytes cmd) := by
  have hused := (determineShiftEndState_used l.st scanType hle).mpr hoff
  rw [scanShift]
  generalize hr : determineShiftEndState l.st scanType l.packet = r at hused
  obtain ⟨hbuf, htot, -, -, -⟩ := determineShiftEndState_ok l.st scanType hle hr
  have hpacket : r.2.2.1 = l.packet := PacketData.ext hbuf hused htot
  rw [hpacket]
  by_cases hok : r.1 = .ok
  · have hran : Ran l ({ l with packet := l.packet }.result (r.1, l.st.touch r.2.2.2)) 0 [] :=
      ran_result hok ⟨rfl, rfl, rfl⟩
    rw [if_neg (by simp [hran.stays])]
    rcases scanTransfer_ends cmd hran.status hran.stays scanType input r.2.1 with
      hf | ⟨f, hf, hw, hrd⟩
    · exact Or.inl hf
    · exact Or.inr ⟨r.2.1, f, hran.trans hf, hw, hrd⟩
  · rw [if_pos (by simpa [JtagLoop.result] using hok)]
    exact Or.inl (failed_result hok)

theorem writeScan_ends (hs : l.status = .ok) (hb : l.broken = false)
    (hc : writeScanMin ≤ cmd ∧ cmd ≤ writeScanMax)
    (hoff : ¬ LooksOff l.st { l.packet with used := l.packet.used + scanBytes cmd }) :
    Ends l cmd (l.withData (getScanLength cmd).2 fun bytes l =>
      scanShift l .write cmd (some bytes)) := by
  have hkinds : ¬ (readStatusMin ≤ cmd ∧ cmd ≤ readStatusMax) ∧ ¬ readScanMin ≤ cmd := by
    simp only [UInt8.le_iff_toNat_le] at hc ⊢
    change 64 ≤ _ ∧ _ ≤ 127 at hc
    change ¬ (8 ≤ _ ∧ _ ≤ 15) ∧ ¬ 128 ≤ _
    omega
  rw [getScanLength_eq]
  refine ends_withData hs hb ?_ fun hle o => ?_
  · rw [operandLength_scan _ _ hc.1, if_neg fun h => hkinds.2 h.1]
  · rcases scanShift_ends (l := l.advance (scanBytes cmd)) cmd hle hoff .write (some o) with
      hf | ⟨e, f, hr, hw, -⟩
    · exact Or.inl hf
    · exact Or.inr ⟨f, hr, hw rfl ▸ answers_nil hkinds.1 hkinds.2⟩

/-- The response of a command that reads a scan starts with the command byte. -/
theorem beginRead_ends {k : JtagLoop → JtagLoop} {n : ℕ}
    (hs : l.status = .ok) (hb : l.broken = false)
    (hc : readScanMin ≤ cmd)
    (hn : operandLength l.st.jtagChainMode cmd (slice l.packet.buffer l.packet.used n) = n)
    (hk : ∀ l', Ran l l' 0 [cmd] → l'.st.jtagHandler = l.st.jtagHandler →
      l'.st.jtagMode = l.st.jtagMode → Failed (k l') ∨ ∃ e tdo, Ran l' (k l') n tdo ∧
        (readShift l.st ⟨cmd, slice l.packet.buffer l.packet.used n⟩ e).output = some tdo ∧
        tdo.length = scanBytes cmd) : Ends l cmd (beginRead l cmd k) := by
  have hkinds : ¬ (readStatusMin ≤ cmd ∧ cmd ≤ readStatusMax) := by
    simp only [UInt8.le_iff_toNat_le] at hc ⊢
    change 128 ≤ _ at hc
    change ¬ (8 ≤ _ ∧ _ ≤ 15)
    omega
  rw [beginRead]
  refine ends_ite (fun _ => Or.inl (failed_fail l)) fun _ => ?_
  have hran := ran_respond hs hb [cmd]
  rcases hk _ hran rfl rfl with hf | ⟨e, tdo, hr, hout, hlen⟩
  · exact Or.inl hf
  · refine ends_of_ran hn ?_ (by simpa using hran.trans hr)
    rw [Answers, if_neg hkinds, if_pos hc]
    exact ⟨e, tdo, hout, hlen, rfl⟩

theorem readScan_ends (hs : l.status = .ok) (hb : l.broken = false)
    (hle : l.packet.used ≤ l.packet.total)
    (hc : readScanMin ≤ cmd ∧ cmd ≤ readScanMax) (hoff : ¬ LooksOff l.st l.packet) :
    Ends l cmd (beginRead l cmd fun l => scanShift l .read cmd none) := by
  have hscan : writeScanMin ≤ cmd := UInt8.le_trans (b := readScanMin) (by decide) hc.1
  refine beginRead_ends (n := 0) hs hb hc.1 ?_ fun l' hran hj hm => ?_
  · rw [operandLength_scan _ _ hscan, if_pos hc]
  · have hpacket : l'.packet = l.packet := hran.packet
    have hoff' : ¬ LooksOff l'.st l'.packet := by rwa [LooksOff, hm, hpacket]
    rcases scanShift_ends cmd (hpacket ▸ hle) hoff' .read none with hf | ⟨e, f, hr, -, hrd⟩
    · exact Or.inl hf
    · refine Or.inr ⟨e, f, hr, ?_, (hrd (by decide)).2⟩
      rw [readShift, if_pos hc.2, ← hj]
      exact (hrd (by decide)).1

theorem readWriteScan_ends (hs : l.status = .ok) (hb : l.broken = false)
    (hc : readWriteScanMin ≤ cmd)
    (hoff : ¬ LooksOff l.st { l.packet with used := l.packet.used + scanBytes cmd }) :
    Ends l cmd (beginRead l cmd fun l =>
      l.withData (getScanLength cmd).2 fun bytes l => scanShift l .readWrite cmd (some bytes)) := by
  have hscan : writeScanMin ≤ cmd := UInt8.le_trans (b := readWriteScanMin) (by decide) hc
  have hread : readScanMin ≤ cmd := UInt8.le_trans (b := readWriteScanMin) (by decide) hc
  have hgt : ¬ cmd ≤ readScanMax := fun h => absurd (UInt8.le_trans hc h) (by decide)
  refine beginRead_ends (n := scanBytes cmd) hs hb hread ?_ fun l' hran hj hm => ?_
  · rw [operandLength_scan _ _ hscan, if_neg fun h => hgt h.2]
  · have hpacket : l'.packet = l.packet := hran.packet
    rw [getScanLength_eq]
    by_cases hle : l'.packet.used + scanBytes cmd ≤ l'.packet.total
    · rw [withData_eq hle]
      have hoff' : ¬ LooksOff (l'.advance (scanBytes cmd)).st (l'.advance (scanBytes cmd)).packet := by
        rw [LooksOff, JtagLoop.advance, hpacket]
        exact fun h => hoff ⟨hm ▸ h.1, h.2⟩
      have hadv := ran_advance hran.status hran.stays (scanBytes cmd)
      rcases scanShift_ends (l := l'.advance (scanBytes cmd)) cmd hle hoff' .readWrite
        (some (slice l'.packet.buffer l'.packet.used (scanBytes cmd))) with hf | ⟨e, f, hr, -, hrd⟩
      · exact Or.inl hf
      · refine Or.inr ⟨e, f, hadv.trans hr, ?_, (hrd (by decide)).2⟩
        rw [readShift, if_neg hgt, ← hj, ← hpacket]
        exact (hrd (by decide)).1
    · rw [withData_short (by dsimp only; omega)]
      exact Or.inl (failed_fail _)

/-! ### Any command -/

theorem jtagDispatch_ends (cmd : UInt8) (hs : l.status = .ok) (hb : l.broken = false)
    (hle : l.packet.used ≤ l.packet.total)
    (hoff : writeScanMin ≤ cmd → ¬ LooksOff l.st { l.packet with
      used := l.packet.used + operandLength l.st.jtagChainMode cmd [] }) :
    Ends l cmd (jtagDispatch l cmd) := by
  rw [jtagDispatch]
  refine ends_ite (fun h => ?eventConfig) fun _ => ?_
  case eventConfig =>
    subst h
    refine ends_plain hs hb rfl (fun _ => answers_nil (by decide) (by decide)) fun o => ?_
    refine result_ends ?_
    rw [writeEventConfig]
    split <;> exact ⟨rfl, rfl, rfl⟩
  refine ends_ite (fun _ => writeCfg_ends hs hb) fun _ => ?_
  refine ends_ite (fun h => h ▸ writePins_ends hs hb) fun _ => ?_
  refine ends_ite (fun h => readStatus_ends hs hb h) fun hstatus => ?_
  refine ends_ite (fun h => ?waitCycles) fun _ => ?_
  case waitCycles =>
    refine ends_plain hs hb ?_ (fun _ => ?_) fun o => jtag_ends _
    · rcases h with rfl | rfl <;> rfl
    · rcases h with rfl | rfl <;> exact answers_nil (by decide) (by decide)
  refine ends_ite (fun h => ?waitPrdy) fun _ => ?_
  case waitPrdy =>
    subst h
    refine ends_bare rfl (answers_nil (by decide) (by decide)) ?_
    have ht := ran_touch hs hb [.division jtagClockCycleMilliseconds]
    exact (target_ends _).imp id fun h => ht.trans h
  refine ends_ite (fun h => ?clearTimeout) fun _ => ?_
  case clearTimeout =>
    subst h
    exact ends_bare rfl (answers_nil (by decide) (by decide)) (Or.inr (ran_refl hs hb))
  refine ends_ite (fun h => ?tapReset) fun _ => ?_
  case tapReset =>
    subst h
    exact ends_bare rfl (answers_nil (by decide) (by decide)) (jtag_ends _)
  refine ends_ite (fun h => ?waitSync) fun _ => ?_
  case waitSync =>
    subst h
    exact ends_plain hs hb rfl (fun _ => answers_nil (by decide) (by decide)) fun o =>
      result_ends (r := (_, _)) ⟨rfl, rfl, rfl⟩
  refine ends_ite (fun h => ?tapState) fun _ => ?_
  case tapState =>
    have hnone : ∀ c : UInt8, tapStateMin ≤ c ∧ c ≤ tapStateMax →
        ¬ readScanMin ≤ c ∧ ∀ m, operandLength m c [] = 0 := by
      intro c hc
      simp only [operandLength, UInt8.le_iff_toNat_le, ← UInt8.toNat_inj, irPrefix, irPostfix, writePinsCmd,
        readStatusMax, waitCyclesTckDisable, waitCyclesTckEnable, waitSyncCmd, writeScanMin, writeScanMax,
        readWriteScanMin, tapStateMin, tapStateMax, readScanMin, UInt8.reduceToNat] at hc ⊢
      refine ⟨by omega, fun m => ?_⟩
      repeat rw [if_neg (by omega)]
    obtain ⟨hread, hlen⟩ := hnone cmd h
    exact ends_bare (hlen _) (answers_nil hstatus hread) (jtag_ends _)
  refine ends_ite (fun h => ?writeScan) fun _ => ?_
  case writeScan =>
    refine writeScan_ends hs hb h ?_
    have hread : ¬ readScanMin ≤ cmd := fun h' => absurd (UInt8.le_trans h' h.2) (by decide)
    have := hoff h.1
    rwa [operandLength_scan _ _ h.1, if_neg fun h' => hread h'.1] at this
  refine ends_ite (fun h => ?readScan) fun _ => ?_
  case readScan =>
    refine readScan_ends hs hb hle h ?_
    have hscan : writeScanMin ≤ cmd := UInt8.le_trans (b := readScanMin) (by decide) h.1
    have := hoff hscan
    rwa [operandLength_scan _ _ hscan, if_pos h] at this
  refine ends_ite (fun h => ?readWriteScan) fun _ => Or.inl (failed_fail l)
  refine readWriteScan_ends hs hb h ?_
  have hscan : writeScanMin ≤ cmd := UInt8.le_trans (b := readWriteScanMin) (by decide) h
  have hgt : ¬ cmd ≤ readScanMax := fun h' => absurd (UInt8.le_trans h h') (by decide)
  have := hoff hscan
  rwa [operandLength_scan _ _ hscan, if_neg fun h' => hgt h'.2] at this

/-- **One round.** Unless the look-ahead runs off the packet, a round fails or executes the next
command of the packet. -/
theorem jtagCommand_ends (hs : l.status = .ok) (hg : l.goesOn = true) (hoff : ¬ l.RunsOff) :
    Failed (jtagCommand l) ∨ ∃ c skipped f, Round l c skipped f ∧
      Ran l (jtagCommand l) ((c :: skipped).flatMap JtagCmd.bytes).length f := by
  rw [JtagLoop.goesOn, Bool.and_eq_true, decide_eq_true_eq, Bool.not_eq_true'] at hg
  obtain ⟨hb, hlt⟩ := hg
  have hends := jtagDispatch_ends (l := l.advance 1) (l.packet.buffer l.packet.used) hs hb hlt
    fun hscan hlooks => hoff ⟨hscan, hlooks⟩
  rw [← jtagCommand_eq hlt] at hends
  refine hends.imp id ?_
  rintro ⟨operand, skipped, f, hcomplete, hwaits, hbytes, hans, hran⟩
  have hall := (ran_advance hs hb 1).trans hran
  have hlen : ((⟨l.packet.buffer l.packet.used, operand⟩ :: skipped).flatMap JtagCmd.bytes).length =
      1 + (operand ++ skipped.flatMap JtagCmd.bytes).length := by
    simp only [List.flatMap_cons, JtagCmd.bytes, List.cons_append, List.length_cons]
    omega
  refine ⟨⟨l.packet.buffer l.packet.used, operand⟩, skipped, f,
    ⟨hall.stays, ?_, fun d hd => (hwaits d hd).2, ?_, hans⟩, hlen ▸ hall⟩
  · exact List.forall_mem_cons.mpr ⟨hcomplete, fun d hd => (hwaits d hd).1⟩
  · rw [hall.packet, Nat.add_sub_cancel_left, slice_add]
    exact congrArg (l.packet.buffer l.packet.used :: ·) hbytes

/-! ### A look-ahead that runs off -/

theorem jtagDispatch_scan (h : writeScanMin ≤ cmd) :
    jtagDispatch l cmd =
      if writeScanMin ≤ cmd ∧ cmd ≤ writeScanMax then
        l.withData (getScanLength cmd).2 fun bytes l => scanShift l .write cmd (some bytes)
      else if readScanMin ≤ cmd ∧ cmd ≤ readScanMax then
        beginRead l cmd fun l => scanShift l .read cmd none
      else if readWriteScanMin ≤ cmd then
        beginRead l cmd fun l =>
          l.withData (getScanLength cmd).2 fun bytes l => scanShift l .readWrite cmd (some bytes)
      else l.fail := by
  have hother : ∀ c : UInt8, writeScanMin ≤ c → c ≠ writeEventConfigCmd ∧
      ¬ (writeCfgMin ≤ c ∧ c ≤ writeCfgMax) ∧ c ≠ writePinsCmd ∧
      ¬ (readStatusMin ≤ c ∧ c ≤ readStatusMax) ∧
      ¬ (c = waitCyclesTckDisable ∨ c = waitCyclesTckEnable) ∧ c ≠ waitPrdyCmd ∧
      c ≠ clearTimeout ∧ c ≠ tapResetCmd ∧ c ≠ waitSyncCmd ∧
      ¬ (tapStateMin ≤ c ∧ c ≤ tapStateMax) := by
    intro c hc
    simp only [UInt8.le_iff_toNat_le, ne_eq, ← UInt8.toNat_inj] at hc ⊢
    change 0x40 ≤ c.toNat at hc
    refine ⟨?_, ?_, ?_, ?_, ?_, ?_, ?_, ?_, ?_, ?_⟩
    all_goals
      simp only [writeEventConfigCmd, writeCfgMin, writeCfgMax, writePinsCmd, readStatusMin, readStatusMax,
        waitCyclesTckDisable, waitCyclesTckEnable, waitPrdyCmd, clearTimeout, tapResetCmd, waitSyncCmd,
        tapStateMin, tapStateMax, UInt8.reduceToNat]
      omega
  obtain ⟨h0, h1, h2, h3, h4, h5, h6, h7, h8, h9⟩ := hother cmd h
  rw [jtagDispatch, if_neg h0, if_neg h1, if_neg h2, if_neg h3, if_neg h4, if_neg h5, if_neg h6,
    if_neg h7, if_neg h8, if_neg h9]

/-- Where a scan command that is not left by a `break` leaves the packet. -/
theorem jtagDispatch_scan_packet (h : writeScanMin ≤ cmd) (hb : (jtagDispatch l cmd).broken = false) :
    ∃ s scanType, s.jtagMode = l.st.jtagMode ∧ (jtagDispatch l cmd).packet =
      (determineShiftEndState s scanType { l.packet with
        used := l.packet.used + operandLength l.st.jtagChainMode cmd [] }).2.2.1 := by
  have hfail (l : JtagLoop) : ¬ l.fail.broken = false := fun h => nomatch h
  rw [operandLength_scan _ _ h]
  rw [jtagDispatch_scan h] at hb ⊢
  have hdata (l' : JtagLoop) (hp : l'.packet = l.packet) (hm : l'.st.jtagMode = l.st.jtagMode)
      (t : ScanType) (hb : (l'.withData (getScanLength cmd).2 fun bytes l =>
        scanShift l t cmd (some bytes)).broken = false) :
      ∃ s scanType, s.jtagMode = l.st.jtagMode ∧ (l'.withData (getScanLength cmd).2 fun bytes l =>
        scanShift l t cmd (some bytes)).packet = (determineShiftEndState s scanType
          { l.packet with used := l.packet.used + scanBytes cmd }).2.2.1 := by
    rw [getScanLength_eq] at hb ⊢
    by_cases hle : l'.packet.used + scanBytes cmd ≤ l'.packet.total
    · rw [withData_eq hle, scanShift_packet]
      exact ⟨_, t, hm, by rw [← hp]; rfl⟩
    · rw [withData_short (by dsimp only; omega)] at hb
      exact absurd hb (hfail _)
  by_cases hw : writeScanMin ≤ cmd ∧ cmd ≤ writeScanMax
  · have hr : ¬ (readScanMin ≤ cmd ∧ cmd ≤ readScanMax) := fun h' =>
      absurd (UInt8.le_trans h'.1 hw.2) (by decide)
    rw [if_pos hw] at hb ⊢
    rw [if_neg hr]
    exact hdata l rfl rfl .write hb
  · rw [if_neg hw] at hb ⊢
    by_cases hr : readScanMin ≤ cmd ∧ cmd ≤ readScanMax
    · rw [if_pos hr] at hb ⊢
      rw [if_pos hr]
      rw [beginRead] at hb ⊢
      split_ifs at hb ⊢ with hroom
      · exact absurd hb (hfail _)
      · rw [scanShift_packet]
        exact ⟨_, .read, rfl, rfl⟩
    · rw [if_neg hr] at hb ⊢
      rw [if_neg hr]
      by_cases hrw : readWriteScanMin ≤ cmd
      · rw [if_pos hrw] at hb ⊢
        rw [beginRead] at hb ⊢
        by_cases hroom : l.responseCnt + 1 + (getScanLength cmd).2 > maxDataSize
        · rw [if_pos hroom] at hb
          exact absurd hb (hfail _)
        · rw [if_neg hroom] at hb ⊢
          refine hdata _ ?_ ?_ .readWrite hb <;> rfl
      · rw [if_neg hrw] at hb
        exact absurd hb (hfail _)

/-- A round in which the look-ahead runs off does not execute its command in place. -/
theorem Round.not_runsOff {c : JtagCmd} {skipped : List JtagCmd} {f : List UInt8}
    (h : Round l c skipped f) (hbound : l.Bounded) (hg : l.goesOn = true) : ¬ l.RunsOff := by
  rintro ⟨hscan, hlooks⟩
  have hlt : l.packet.used < l.packet.total := by
    rw [JtagLoop.goesOn, Bool.and_eq_true, decide_eq_true_eq] at hg
    exact hg.2
  obtain ⟨-, -, hmore⟩ := jtagCommand_bounded hbound hg
  set cmd := l.packet.buffer l.packet.used with hcmd
  have hpins : cmd ≠ writePinsCmd := fun h => by
    rw [h] at hscan
    exact absurd hscan (by decide)
  -- the command of the round is the one at its head, and nothing is skipped
  have hbytes := h.bytes
  obtain ⟨n, hn⟩ : ∃ n, (jtagCommand l).packet.used - l.packet.used = 1 + n :=
    ⟨(jtagCommand l).packet.used - l.packet.used - 1, by omega⟩
  rw [hn, slice_add, List.flatMap_cons, JtagCmd.bytes, List.cons_append] at hbytes
  have hhead : cmd = c.cmd := (List.cons.inj hbytes).1
  have htail : slice l.packet.buffer (l.packet.used + 1) n =
      c.operand ++ skipped.flatMap JtagCmd.bytes := (List.cons.inj hbytes).2
  have hskipped : skipped = [] := by
    refine List.eq_nil_iff_forall_not_mem.mpr fun d hd => ?_
    exact hpins (hhead.trans (h.waits d hd).1)
  subst hskipped
  have hlen : n = operandLength l.st.jtagChainMode cmd [] := by
    have hc : c.operand.length = operandLength l.st.jtagChainMode c.cmd c.operand :=
      h.complete c (List.mem_cons_self ..)
    have := congrArg List.length htail
    rw [length_slice, List.flatMap_nil, List.append_nil, hc, ← hhead] at this
    rw [this]
    exact operandLength_congr fun hp => absurd hp hpins
  -- but the look-ahead has left the packet somewhere else
  have hused : (jtagCommand l).packet.used =
      l.packet.used + 1 + operandLength l.st.jtagChainMode cmd [] := by omega
  have hstays := h.stays
  rw [jtagCommand_eq hlt] at hstays hused
  obtain ⟨s, t, hmode, hpacket⟩ := jtagDispatch_scan_packet hscan hstays
  rw [hpacket] at hused
  exact (determineShiftEndState_used s t (le_of_lt hlooks.2.1)).mp hused
    ⟨hmode.trans hlooks.1, hlooks.2⟩

end Commands

/-! ## Whole messages -/

theorem roundItems_fst (c : JtagCmd) (skipped : List JtagCmd) (f : List UInt8) :
    (roundItems c skipped f).map Prod.fst = c :: skipped := by
  simp [roundItems, Function.comp_def]

theorem roundItems_snd (c : JtagCmd) (skipped : List JtagCmd) (f : List UInt8) :
    (roundItems c skipped f).flatMap Prod.snd = f := by
  simp [roundItems, List.flatMap_map]

/-- The loop has executed the commands `items` between `l` and `l'`. -/
structure Appends (l l' : JtagLoop) (items : List (JtagCmd × List UInt8)) : Prop where
  bytes : slice l.packet.buffer l.packet.used (l.packet.total - l.packet.used) =
    (items.map Prod.fst).flatMap JtagCmd.bytes
  complete : ∀ c ∈ items.map Prod.fst, c.Complete l.st.jtagChainMode
  response : l'.responseCnt = l.responseCnt + (items.flatMap Prod.snd).length
  output : slice l'.st.outMsg.buffer 0 l'.responseCnt =
    slice l.st.outMsg.buffer 0 l.responseCnt ++ items.flatMap Prod.snd
  network : l'.st.network = l.st.network

theorem Appends.refl {l : JtagLoop} (h : l.packet.total ≤ l.packet.used) : Appends l l [] where
  bytes := by simp [Nat.sub_eq_zero_of_le h]
  complete := by simp
  response := rfl
  output := (List.append_nil _).symm
  network := rfl

theorem Appends.round {l l₁ l₂ : JtagLoop} {c : JtagCmd} {skipped : List JtagCmd} {f : List UInt8}
    {rest : List (JtagCmd × List UInt8)}
    (hran : Ran l l₁ ((c :: skipped).flatMap JtagCmd.bytes).length f) (hb : l₁.Bounded)
    (hbytes : slice l.packet.buffer l.packet.used ((c :: skipped).flatMap JtagCmd.bytes).length =
      (c :: skipped).flatMap JtagCmd.bytes)
    (hcomplete : ∀ d ∈ c :: skipped, d.Complete l.st.jtagChainMode) (h : Appends l₁ l₂ rest) :
    Appends l l₂ (roundItems c skipped f ++ rest) where
  bytes := by
    have hused := hb.used
    have hrest := h.bytes
    rw [hran.packet] at hrest hused
    rw [List.map_append, roundItems_fst, List.flatMap_append, ← hrest]
    generalize (c :: skipped).flatMap JtagCmd.bytes = bytes at hbytes hused ⊢
    dsimp only at hused ⊢
    conv_rhs => rw [← hbytes, length_slice, ← slice_add]
    congr 1
    omega
  complete := by
    intro d hd
    rw [List.map_append, roundItems_fst] at hd
    rcases List.mem_append.mp hd with hd | hd
    · exact hcomplete d hd
    · exact hran.chainMode ▸ h.complete d hd
  response := by
    rw [h.response, hran.response, List.flatMap_append, roundItems_snd, List.length_append,
      Nat.add_assoc]
  output := by
    rw [h.output, hran.output, List.flatMap_append, roundItems_snd, List.append_assoc]
  network := h.network.trans hran.network

/-- **A loop that ends well** and in which no look-ahead runs off executes the packet. -/
theorem executes_of_not_runsOff (n : ℕ) {l : JtagLoop} (hb : l.Bounded) (hs : l.status = .ok)
    (hbr : l.broken = false) (hend : (whileN JtagLoop.goesOn jtagCommand n l).goesOn = false)
    (hok : (whileN JtagLoop.goesOn jtagCommand n l).status = .ok)
    (hoff : ∀ k, (whileN JtagLoop.goesOn jtagCommand k l).goesOn = true →
      ¬ (whileN JtagLoop.goesOn jtagCommand k l).RunsOff) :
    ∃ items, Executes l items ∧ Appends l (whileN JtagLoop.goesOn jtagCommand n l) items := by
  by_cases hg : l.goesOn = true
  · cases n with
    | zero => exact absurd hg (by rw [whileN_zero] at hend; simp [hend])
    | succ n =>
      rw [whileN_succ_pos hg] at hend hok ⊢
      rcases jtagCommand_ends hs hg (hoff 0 hg) with hf | ⟨c, skipped, f, hround, hran⟩
      · rw [whileN_of_exit hf.2] at hok
        exact absurd hok hf.1
      · have hb' := (jtagCommand_bounded hb hg).1
        obtain ⟨rest, hexec, happ⟩ := executes_of_not_runsOff n hb' hran.status hran.stays hend hok
          fun k => by simpa only [whileN_succ_pos hg] using hoff (k + 1)
        refine ⟨_, .round hg hround hexec, happ.round hran hb' ?_ hround.complete⟩
        have := hround.bytes
        rwa [hran.packet, Nat.add_sub_cancel_left] at this
  · rw [Bool.not_eq_true] at hg
    refine ⟨[], .done hg, ?_⟩
    rw [whileN_of_exit hg]
    refine Appends.refl ?_
    simpa [JtagLoop.goesOn, hbr] using hg

/-- In a loop that executes the packet, no look-ahead runs off. -/
theorem Executes.not_runsOff {l : JtagLoop} {items : List (JtagCmd × List UInt8)}
    (h : Executes l items) (hb : l.Bounded) (k : ℕ)
    (hg : (whileN JtagLoop.goesOn jtagCommand k l).goesOn = true) :
    ¬ (whileN JtagLoop.goesOn jtagCommand k l).RunsOff := by
  induction h generalizing k with
  | done hd =>
    rw [whileN_of_exit hd, hd] at hg
    cases hg
  | round hl hr ht ih =>
    cases k with
    | zero => exact hr.not_runsOff hb hl
    | succ k =>
      rw [whileN_succ_pos hl] at hg ⊢
      exact ih (jtagCommand_bounded hb hl).1 k hg

/-- The header of the response. -/
def replyHeader (h : MessageHeader) (n : ℕ) : MessageHeader :=
  { h.withSize n with cmdStat := asdSuccess }

/-- A successful message ends with one frame, whose payload is the response. -/
theorem jtagReply_ok {l : JtagLoop} {m : AsdMessage} {s' : AsdMsg} (hb : l.Bounded)
    (h : jtagReply l m = (.ok, s')) :
    l.status = .ok ∧ getMessageSize (replyHeader m.header l.responseCnt) = some l.responseCnt ∧
      s'.network = l.st.network.call ⟨replyHeader m.header l.responseCnt,
        slice l.st.outMsg.buffer 0 l.responseCnt⟩ := by
  have hsize : getMessageSize (replyHeader m.header l.responseCnt) = some l.responseCnt :=
    getMessageSize_withSize m.header hb.response
  rw [jtagReply] at h
  split_ifs at h with hok
  · refine ⟨hok, hsize, ?_⟩
    have hsend := sendResponse_eq (l.st.setOutHeader (replyHeader m.header l.responseCnt))
      ⟨replyHeader m.header l.responseCnt, l.st.outMsg.buffer⟩ hsize
    rw [← (Prod.mk.inj (hsend.symm.trans h)).2]
    rfl
  · exact absurd (Prod.mk.inj h).1 hok

/-- **Response.** When `process_jtag_message` succeeds, every command of the packet has been executed
in its place and the one frame sent consists of the response frames of these commands, exactly if
no look-ahead has run off the end of the packet. -/
theorem answered_iff {s s' : AsdMsg} {m : AsdMessage} (h : processJtagMessage s m = (.ok, s')) :
    Answered s m s' ↔
      ∀ k, (jtagRounds s m k).goesOn = true → ¬ (jtagRounds s m k).RunsOff := by
  rw [processJtagMessage] at h
  cases hsize : getMessageSize m.header with
  | none =>
    rw [hsize] at h
    cases h
  | some size =>
    rw [hsize] at h
    have hrounds (k : ℕ) : jtagRounds s m k =
        whileN JtagLoop.goesOn jtagCommand k (jtagLoopStart s m size) := by
      rw [jtagRounds, hsize]
      rfl
    have hend := jtagRounds_done s m (n := size) (by rw [hsize]; rfl)
    have hstart := jtagLoopStart_bounded s m size
    have hbound : (whileN JtagLoop.goesOn jtagCommand size (jtagLoopStart s m size)).Bounded :=
      whileN_inv (P := JtagLoop.Bounded) (fun a ha hg => (jtagCommand_bounded ha hg).1) hstart size
    obtain ⟨hok, hsent, hnetwork⟩ := jtagReply_ok hbound h
    simp only [hrounds] at hend ⊢
    constructor
    · rintro ⟨size', items, hsize', hexec, -⟩ k hg
      obtain rfl : size' = size := by simpa [hsize] using hsize'.symm
      exact hexec.not_runsOff hstart k hg
    · intro hoff
      obtain ⟨items, hexec, happ⟩ := executes_of_not_runsOff size hstart rfl rfl hend hok hoff
      rw [happ.output, happ.network] at hnetwork
      have hcnt : _ = (items.flatMap Prod.snd).length := happ.response.trans (Nat.zero_add _)
      rw [hcnt] at hnetwork hsent
      exact ⟨size, items, hsize, hexec, ⟨happ.bytes, happ.complete⟩, _, hnetwork, hsent, rfl⟩

/-! ## The length of a response -/

/-- The length of the response frame of a command. -/
def frameLength (c : JtagCmd) : ℕ :=
  if readStatusMin ≤ c.cmd ∧ c.cmd ≤ readStatusMax then 2
  else if readScanMin ≤ c.cmd then 1 + scanBytes c.cmd
  else 0

theorem Answers.length {s : AsdMsg} {c : JtagCmd} {f : List UInt8} (h : Answers s c f) :
    f.length = frameLength c := by
  rw [Answers] at h
  rw [frameLength]
  split_ifs at h ⊢
  · rw [h]
    rfl
  · obtain ⟨e, tdo, -, hlen, rfl⟩ := h
    rw [List.length_cons, hlen, Nat.add_comm]
  · rw [h]
    rfl

theorem Executes.length {l : JtagLoop} {items : List (JtagCmd × List UInt8)}
    (h : Executes l items) :
    (items.flatMap Prod.snd).length = ((items.map Prod.fst).map frameLength).sum := by
  induction h with
  | done => rfl
  | @round l c skipped f rest _ hr _ ih =>
    have hskipped : (skipped.map frameLength).sum = 0 := by
      rw [List.sum_eq_zero]
      intro n hn
      obtain ⟨d, hd, rfl⟩ := List.mem_map.mp hn
      rw [frameLength, (hr.waits d hd).2]
      rfl
    rw [List.flatMap_append, roundItems_snd, List.length_append, ih, hr.answers.length,
      List.map_append, roundItems_fst, List.map_append, List.sum_append, List.map_cons,
      List.sum_cons, hskipped, Nat.add_zero]

/-- **The commands of the packet determine the length of the response.** -/
theorem Answered.length {s s' : AsdMsg} {m : AsdMessage} {n : ℕ} (h : Answered s m s')
    (hn : getMessageSize m.header = some n) (cs : List JtagCmd)
    (hcs : Commands s.jtagChainMode (slice m.buffer 0 n) cs) :
    s'.network.log.map (fun f => f.payload.length) =
      s.network.log.map (fun f => f.payload.length) ++ [(cs.map frameLength).sum] := by
  obtain ⟨size, items, hsize, hexec, hitems, _, hnetwork, -⟩ := h
  obtain rfl : size = n := by simpa [hn] using hsize.symm
  rw [hcs.unique hitems, ← hexec.length, hnetwork]
  simp

/-! ## A packet that is answered, and one that is not -/

/-- An initialised message layer without failures, in hardware mode. -/
def hardwareMsg : AsdMsg :=
  let s := asdMsgInit (.quiet .hardware)
  { s with jtagHandler := (jtagInitialize s.jtagHandler false).2 }

/-- A JTAG message with the given payload. -/
def jtagMsg (payload : List UInt8) : AsdMessage :=
  ⟨{ MessageHeader.zero.withSize payload.length with type := 1 }, block 0 payload⟩

/-- Two shifts, each one with its end state behind it. -/
theorem answered_iff_two_scans :
    Answered hardwareMsg (jtagMsg [0x24, 0x88, 0x24, 0x48, 0xFF, 0x21])
        (processJtagMessage hardwareMsg (jtagMsg [0x24, 0x88, 0x24, 0x48, 0xFF, 0x21])).2 ↔
      ∀ k, (jtagRounds hardwareMsg (jtagMsg [0x24, 0x88, 0x24, 0x48, 0xFF, 0x21]) k).goesOn = true →
        ¬ (jtagRounds hardwareMsg (jtagMsg [0x24, 0x88, 0x24, 0x48, 0xFF, 0x21]) k).RunsOff :=
  answered_iff (Prod.ext (by decide +kernel) rfl)

/-- A padding command whose operand looks like another one: the scan in its last operand byte is
executed, and the two commands in front of it are not. -/
theorem not_answered_padding :
    (processJtagMessage hardwareMsg
      (jtagMsg [0x24, 0x88, 0x24, 0x04, 0x04, 0x88, 0x21])).1 = .ok ∧
    ¬ Answered hardwareMsg (jtagMsg [0x24, 0x88, 0x24, 0x04, 0x04, 0x88, 0x21])
      (processJtagMessage hardwareMsg (jtagMsg [0x24, 0x88, 0x24, 0x04, 0x04, 0x88, 0x21])).2 := by
  refine ⟨by decide +kernel, fun h => ?_⟩
  have hlen := h.length (n := 7) (by decide +kernel)
    [⟨0x24, []⟩, ⟨0x88, []⟩, ⟨0x24, []⟩, ⟨0x04, [0x04, 0x88]⟩, ⟨0x21, []⟩]
    ⟨by decide +kernel, by unfold JtagCmd.Complete; decide +kernel⟩
  revert hlen
  decide +kernel

end BmcAsd
