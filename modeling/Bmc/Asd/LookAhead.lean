import Bmc.Asd.I2cRounds
import Bmc.Asd.JtagResponse

/-!
# The look-ahead and the grammar of the commands

Behind a scan `determine_shift_end_state` looks for the tap state command in which the scan should end. It passes over the
commands that set up the next scan, and reads their operands as commands.

* `passable`, `shiftEnd`: the commands that it should pass over, and the state that it should find;
* `lookAhead_rests`, `lookAhead_operand`: where it comes to rest;
* **`endsRight_iff`**: it finds the right state, whatever the operands are, exactly when there are none;
* `lookFits`: it never wants two bytes where there is one; **`peeks_iff`**: it gives back all that it has read exactly then.
-/

namespace BmcAsd

open BmcLib

/-! ## What the look-ahead should find -/

/-- Event configuration, clock frequency, prefixes and postfixes, wait cycles. -/
def passable (cmd : UInt8) : Bool :=
  cmd ∈ [writeEventConfigCmd, jtagFreq, drPrefix, drPostfix, irPrefix, irPostfix, waitCyclesTckDisable,
    waitCyclesTckEnable]

/-- The state in which a scan should end: that of the second command when the scan can stay there, else that of the
first one. -/
def shiftEnd (s₁ s₂ : UInt8) : TapState :=
  if tapStateOf s₂ ∈ [.pauDr, .pauIr, .rti] then tapStateOf s₂ else tapStateOf s₁

/-- Two tap state commands with other commands between them, and the rest of the packet. -/
def commandsBetween (s₁ s₂ : UInt8) (cs : List JtagCmd) (rest : List UInt8) : List UInt8 :=
  s₁ :: (cs.flatMap JtagCmd.bytes ++ s₂ :: rest)

/-- The look-ahead finds the right state between `s₁` and `s₂` with the commands `cmds` between them, whatever the operands
of these commands are. -/
def EndsRight (s₁ s₂ : UInt8) (cmds : List UInt8) : Prop :=
  ∀ (cs : List JtagCmd) (rest : List UInt8) (s : AsdMsg) (t : ScanType) (p : PacketData),
    cs.map JtagCmd.cmd = cmds → (∀ c ∈ cs, c.Complete s.jtagChainMode) → s.jtagMode = .hardware →
      p.unread = commandsBetween s₁ s₂ cs rest →
        (determineShiftEndState s t p).1 = .ok ∧ (determineShiftEndState s t p).2.1 = shiftEnd s₁ s₂

/-! ## Where the look-ahead comes to rest -/

section Rest

variable {p : PacketData} {c o : UInt8} {rest : List UInt8}

theorem used_le_of_unread (h : p.unread = c :: rest) : p.used ≤ p.total := by
  have hlen := congrArg List.length h
  rw [unread_length, List.length_cons] at hlen
  omega

/-- Some bytes are read. -/
theorem advance_unread {l : LookAhead} {a b : List UInt8} (hle : l.packet.used ≤ l.packet.total)
    (h : l.packet.unread = a ++ b) :
    (l.advance a.length).cmd2 = a.head? ∧ (l.advance a.length).packet = l.packet.skip a.length := by
  rw [LookAhead.advance, getPacketData_unread hle h]
  exact ⟨rfl, rfl⟩

/-- The look-ahead goes on while there are bytes and the command is one that it passes over. -/
theorem goesOn_iff {l : LookAhead} (hcmd : l.cmd2 = some c) :
    l.goesOn = true ↔ l.packet.used < l.packet.total ∧ lookSkip c ≠ 0 := by
  rw [LookAhead.goesOn, hcmd, Option.elim_some, Bool.and_eq_true, decide_eq_true_eq, decide_eq_true_eq]

/-- One round of the look-ahead. -/
def LookAhead.next (l : LookAhead) : LookAhead := l.advance (l.cmd2.elim 0 lookSkip)

/-- A state of the look-ahead: the command that it looks at, and the bytes behind it. -/
structure LookingAt (l : LookAhead) (c : UInt8) (behind : List UInt8) : Prop where
  cmd : l.cmd2 = some c
  used_le : l.packet.used ≤ l.packet.total
  unread : l.packet.unread = behind

/-- **One round** moves over as many bytes as the command has operands, and looks at the first of them. -/
theorem LookingAt.next {l : LookAhead} {a b : List UInt8} (h : LookingAt l c (o :: a ++ b))
    (hc : lookSkip c = (o :: a).length) : l.goesOn = true ∧ LookingAt l.next o b := by
  have hne : lookSkip c ≠ 0 := by
    rw [hc]
    exact Nat.succ_ne_zero _
  have hlt : l.packet.used < l.packet.total := by
    have hlen := congrArg List.length h.unread
    rw [unread_length, List.length_append, List.length_cons] at hlen
    omega
  obtain ⟨hcmd, hpacket⟩ := advance_unread h.used_le h.unread
  have hnext : l.next = l.advance (o :: a).length := by rw [LookAhead.next, h.cmd, Option.elim_some, hc]
  refine ⟨(goesOn_iff h.cmd).2 ⟨hlt, hne⟩, ?_, ?_, ?_⟩
  · rw [hnext, hcmd, List.head?_cons]
  · rw [hnext, hpacket]
    exact skip_used_le h.used_le h.unread
  · rw [hnext, hpacket]
    exact (unread_split h.used_le h.unread).2

/-- The look-ahead at its start. -/
theorem LookingAt.start (h : p.unread = c :: rest) : LookingAt ((LookAhead.start p).advance 1) c rest := by
  have hle := used_le_of_unread h
  obtain ⟨hcmd, hpacket⟩ := advance_unread (l := LookAhead.start p) (a := [c]) (b := rest) hle h
  refine ⟨hcmd, ?_, ?_⟩
  · change ((LookAhead.start p).advance [c].length).packet.used ≤ ((LookAhead.start p).advance [c].length).packet.total
    rw [hpacket]
    exact skip_used_le (a := [c]) hle h
  · change ((LookAhead.start p).advance [c].length).packet.unread = _
    rw [hpacket]
    exact (unread_split (a := [c]) hle h).2

/-- **The look-ahead stops** at a command that it does not pass over. -/
theorem LookingAt.stops {l : LookAhead} (h : LookingAt l c rest) (hc : lookSkip c = 0) (n : ℕ) :
    (whileN LookAhead.goesOn LookAhead.next n l).cmd2 = some c := by
  rw [whileN_of_exit]
  · exact h.cmd
  · exact Bool.eq_false_iff.2 fun hgo => ((goesOn_iff h.cmd).1 hgo).2 hc

theorem lookAhead_rests (h : p.unread = c :: rest) (hc : lookSkip c = 0) : (lookAhead p).cmd2 = some c :=
  (LookingAt.start h).stops hc p.total

/-- **The look-ahead stops at an operand** that does not look like a command that it passes over. -/
theorem lookAhead_operand {a b : List UInt8} (h : p.unread = c :: (o :: a ++ b)) (hc : lookSkip c = (o :: a).length)
    (ho : lookSkip o = 0) : (lookAhead p).cmd2 = some o := by
  obtain ⟨hgo, hnext⟩ := (LookingAt.start h).next hc
  have htotal : p.total = p.total - 1 + 1 := by
    have hlen := congrArg List.length h
    rw [unread_length, List.length_cons] at hlen
    omega
  change (whileN LookAhead.goesOn LookAhead.next p.total ((LookAhead.start p).advance 1)).cmd2 = some o
  rw [htotal, whileN_succ_pos hgo]
  exact hnext.stops ho _

end Rest

/-! ## When it is right -/

theorem lookSkip_tapState {c : UInt8} (h : isTapState c = true) : lookSkip c = 0 := by
  rw [lookSkip, if_pos h]

/-- The look-ahead moves over as many bytes as the main loop. -/
theorem lookSkip_passable {cmd : UInt8} (h : passable cmd = true) (mode : ChainSelectMode) (operand : List UInt8) :
    lookSkip cmd = operandLength mode cmd operand ∧ 0 < lookSkip cmd := by
  rw [passable, decide_eq_true_eq] at h
  simp only [List.mem_cons, List.not_mem_nil, or_false] at h
  rcases h with rfl | rfl | rfl | rfl | rfl | rfl | rfl | rfl <;> exact ⟨rfl, by decide⟩

/-- The end state that the look-ahead gives for the command it has come to. -/
theorem determineShiftEndState_hardware {s : AsdMsg} {p : PacketData} {s₁ : UInt8} {rest : List UInt8}
    (t : ScanType) (h₁ : isTapState s₁ = true) (hmode : s.jtagMode = .hardware) (h : p.unread = s₁ :: rest) :
    (determineShiftEndState s t p).1 = .ok ∧
      (determineShiftEndState s t p).2.1 = lookEndState s₁ (lookAhead (p.skip 1)).cmd2 := by
  have hget := getPacketData_unread (a := [s₁]) (used_le_of_unread h) h
  rw [determineShiftEndState, show 1 = [s₁].length from rfl, hget]
  dsimp only
  rw [List.headD_cons, if_pos h₁, if_pos hmode]
  exact ⟨rfl, rfl⟩

theorem lookEndState_tapState {s₁ c : UInt8} (hc : isTapState c = true) :
    lookEndState s₁ (some c) = shiftEnd s₁ c := by
  rw [lookEndState, shiftEnd, hc]
  simp [or_assoc]

/-- A tap state command with another end state. -/
def otherState (s₁ s₂ : UInt8) : UInt8 := if shiftEnd s₁ s₂ = .pauDr then 0x2d else 0x26

theorem otherState_wrong (s₁ s₂ : UInt8) :
    isTapState (otherState s₁ s₂) = true ∧ shiftEnd s₁ (otherState s₁ s₂) ≠ shiftEnd s₁ s₂ := by
  have hdr : shiftEnd s₁ 0x26 = .pauDr := if_pos (by decide)
  have hir : shiftEnd s₁ 0x2d = .pauIr := if_pos (by decide)
  rw [otherState]
  split_ifs with h
  · exact ⟨by decide, fun hc => absurd (hir.symm.trans (hc.trans h)) (by decide)⟩
  · exact ⟨by decide, fun hc => h (hc.symm.trans hdr)⟩

/-- The command `cmd` with the operand `o`, and zeros when it has another one. -/
def withOperand (o : UInt8) (mode : ChainSelectMode) (cmd : UInt8) : JtagCmd :=
  ⟨cmd, o :: List.replicate (operandLength mode cmd [] - 1) 0⟩

theorem withOperand_complete {cmd : UInt8} (h : passable cmd = true) (o : UInt8) (mode : ChainSelectMode) :
    (withOperand o mode cmd).Complete mode := by
  obtain ⟨hlen, hpos⟩ := lookSkip_passable h mode []
  have hlen' := (lookSkip_passable h mode (o :: List.replicate (operandLength mode cmd [] - 1) 0)).1
  rw [JtagCmd.Complete, withOperand]
  dsimp only
  rw [← hlen', List.length_cons, List.length_replicate]
  omega

theorem commandsBetween_cons (s₁ s₂ : UInt8) (c : JtagCmd) (cs : List JtagCmd) (rest : List UInt8) :
    commandsBetween s₁ s₂ (c :: cs) rest =
      s₁ :: c.cmd :: (c.operand ++ (cs.flatMap JtagCmd.bytes ++ s₂ :: rest)) := by
  simp [commandsBetween, JtagCmd.bytes]

/-- A packet that begins with the given bytes. -/
def packetOf (bytes : List UInt8) : PacketData := { buffer := block 0 bytes, used := 0, total := bytes.length }

theorem unread_packetOf (bytes : List UInt8) : (packetOf bytes).unread = bytes := slice_block 0 bytes

/-- A first command with an operand that is a tap state command is enough to mislead the look-ahead. -/
theorem misled {s₁ c o : UInt8} {a rest : List UInt8} {s : AsdMsg} {p : PacketData} {t : ScanType}
    (h₁ : isTapState s₁ = true) (ho : isTapState o = true) (hc : lookSkip c = (o :: a).length)
    (hmode : s.jtagMode = .hardware) (h : p.unread = s₁ :: c :: (o :: a ++ rest)) :
    (determineShiftEndState s t p).2.1 = shiftEnd s₁ o := by
  have hnext : (p.skip 1).unread = c :: (o :: a ++ rest) :=
    (unread_split (a := [s₁]) (used_le_of_unread h) h).2
  rw [(determineShiftEndState_hardware t h₁ hmode h).2, lookAhead_operand hnext hc (lookSkip_tapState ho),
    lookEndState_tapState ho]

/-- **The look-ahead is right** whatever the operands are, exactly when no commands with operands are between the two
tap state commands. -/
theorem endsRight_iff {s₁ s₂ : UInt8} (h₁ : isTapState s₁ = true) (h₂ : isTapState s₂ = true) {cmds : List UInt8}
    (hcmds : ∀ c ∈ cmds, passable c = true) : EndsRight s₁ s₂ cmds ↔ cmds = [] := by
  constructor
  · intro h
    cases cmds with
    | nil => rfl
    | cons c cmds =>
      obtain ⟨htap, hwrong⟩ := otherState_wrong s₁ s₂
      -- all operands begin with a tap state command that stands for another state
      let cs := (c :: cmds).map (withOperand (otherState s₁ s₂) hardwareMsg.jtagChainMode)
      have hcs : cs.map JtagCmd.cmd = c :: cmds := by
        rw [List.map_map]
        exact List.map_id _
      have hcomplete : ∀ d ∈ cs, d.Complete hardwareMsg.jtagChainMode := by
        intro d hd
        obtain ⟨cmd, hcmd, rfl⟩ := List.mem_map.1 hd
        exact withOperand_complete (hcmds cmd hcmd) _ _
      have hunread := unread_packetOf (commandsBetween s₁ s₂ cs [])
      have hskip : lookSkip c = (withOperand (otherState s₁ s₂) hardwareMsg.jtagChainMode c).operand.length :=
        (lookSkip_passable (hcmds c List.mem_cons_self) _ _).1.trans
          (withOperand_complete (hcmds c List.mem_cons_self) _ _).symm
      have hright := (h cs [] hardwareMsg .write _ hcs hcomplete rfl hunread).2
      exact absurd ((misled h₁ htap hskip rfl (hunread.trans (commandsBetween_cons ..))).symm.trans hright) hwrong
  · rintro rfl cs rest s t p hcs - hmode hunread
    obtain rfl := List.map_eq_nil_iff.1 hcs
    obtain ⟨hok, hend⟩ := determineShiftEndState_hardware t h₁ hmode hunread
    have hnext : (p.skip 1).unread = s₂ :: rest :=
      (unread_split (a := [s₁]) (used_le_of_unread hunread) hunread).2
    rw [hend, lookAhead_rests hnext (lookSkip_tapState h₂), lookEndState_tapState h₂]
    exact ⟨hok, rfl⟩

/-- Nothing between Exit1-DR and Pause-DR: the scan ends in Pause-DR. -/
theorem endsRight_pauseDr : EndsRight 0x25 0x26 [] :=
  (endsRight_iff (by decide +kernel) (by decide +kernel) (by intro c hc; cases hc)).2 rfl

/-- A prefix of seven bits between them: its operand ends the search, and the scan ends in Exit1-DR. -/
theorem not_endsRight_prefix : ¬ EndsRight 0x25 0x26 [drPrefix] := by
  intro h
  have hright := (h [⟨drPrefix, [7]⟩] [] hardwareMsg .write (packetOf [0x25, drPrefix, 7, 0x26]) rfl
    (fun c hc => by rw [List.mem_singleton.1 hc]; rfl) rfl (unread_packetOf _)).2
  exact absurd hright (by decide +kernel)

/-! ## What it gives back -/

/-- The look-ahead at the command `c` with these bytes behind it never wants two bytes where there is one. -/
def lookFits (c : UInt8) : List UInt8 → Bool
  | [] => true
  | [_] => lookSkip c ≠ 2
  | o :: o' :: rest =>
    match lookSkip c with
    | 0 => true
    | 1 => lookFits o (o' :: rest)
    | _ => lookFits o rest

/-- The packet behind `determine_shift_end_state` is the packet before it. -/
def Peeks (s : AsdMsg) (t : ScanType) (p : PacketData) : Prop := (determineShiftEndState s t p).2.2.1 = p

/-- In hardware mode, behind a tap state command, the look-ahead never wants two bytes where there is one. -/
def LookFits (s : AsdMsg) (p : PacketData) : Prop :=
  ∀ s₁ c behind, s.jtagMode = .hardware → p.unread = s₁ :: c :: behind → isTapState s₁ = true → lookFits c behind = true

theorem lookSkip_cases (c : UInt8) : lookSkip c = 0 ∨ lookSkip c = 1 ∨ lookSkip c = 2 := by
  rw [lookSkip]
  split_ifs <;> simp

theorem LookAhead.le_advance (l : LookAhead) (n : ℕ) : l.packet.used ≤ (l.advance n).packet.used := by
  rw [LookAhead.advance]
  split
  · exact le_refl _
  · rename_i h
    rw [(getPacketData_eq_some h).2.2]
    exact Nat.le_add_right _ _

section Fits

variable {l : LookAhead} {c : UInt8} {behind : List UInt8}

/-- At the end of the packet the look-ahead stops. -/
theorem LookingAt.ends (h : LookingAt l c []) (n : ℕ) :
    (whileN LookAhead.goesOn LookAhead.next n l).cmd2 = some c := by
  rw [whileN_of_exit]
  · exact h.cmd
  · have hlen := congrArg List.length h.unread
    rw [unread_length, List.length_nil] at hlen
    rw [LookAhead.goesOn, decide_eq_false (by omega), Bool.false_and]

/-- **Two bytes where there is one.** The look-ahead ends without a command. -/
theorem LookingAt.falls {o : UInt8} (h : LookingAt l c [o]) (hc : lookSkip c = 2) (n : ℕ) :
    (whileN LookAhead.goesOn LookAhead.next (n + 1) l).cmd2 = none := by
  have hlen := congrArg List.length h.unread
  rw [unread_length, List.length_singleton] at hlen
  have hgo : l.goesOn = true := (goesOn_iff h.cmd).2 ⟨by omega, by omega⟩
  have hnone : l.next.cmd2 = none := by
    rw [LookAhead.next, h.cmd, Option.elim_some, hc, LookAhead.advance, getPacketData_eq_none (by omega)]
  rw [whileN_succ_pos hgo, whileN_of_exit]
  · exact hnone
  · rw [LookAhead.goesOn, hnone]
    exact Bool.and_false _

/-- **The look-ahead finds a command** exactly when it never wants two bytes where there is one. -/
theorem LookingAt.finds_iff (h : LookingAt l c behind) {n : ℕ} (hn : behind.length ≤ n) :
    (whileN LookAhead.goesOn LookAhead.next n l).cmd2.isSome = lookFits c behind := by
  induction c, behind using lookFits.induct generalizing l n with
  | case1 c =>
    rw [h.ends]
    rfl
  | case2 c o =>
    obtain ⟨m, rfl⟩ := Nat.exists_eq_succ_of_ne_zero (Nat.one_le_iff_ne_zero.1 hn)
    rw [lookFits]
    rcases lookSkip_cases c with hc | hc | hc
    · rw [h.stops hc, hc]
      rfl
    · obtain ⟨hgo, hnext⟩ := h.next (a := []) (b := []) hc
      rw [whileN_succ_pos hgo, hnext.ends, hc]
      rfl
    · rw [h.falls hc, hc]
      rfl
  | case3 c o o' rest hc =>
    rw [h.stops hc, lookFits, hc]
    rfl
  | case4 c o o' rest hc ih =>
    obtain ⟨m, rfl⟩ := Nat.exists_eq_add_of_lt ((Nat.succ_pos _).trans_le hn)
    rw [zero_add] at hn ⊢
    obtain ⟨hgo, hnext⟩ := h.next (a := []) (b := o' :: rest) hc
    rw [whileN_succ_pos hgo, ih hnext (Nat.le_of_succ_le_succ hn), lookFits, hc]
    rfl
  | case5 c o o' rest hzero hone ih =>
    have hc : lookSkip c = 2 := by
      rcases lookSkip_cases c with hc | hc | hc
      · exact absurd hc hzero
      · exact absurd hc hone
      · exact hc
    obtain ⟨m, rfl⟩ := Nat.exists_eq_add_of_lt ((Nat.succ_pos _).trans_le hn)
    rw [zero_add] at hn ⊢
    obtain ⟨hgo, hnext⟩ := h.next (a := [o']) (b := rest) hc
    have hlen : rest.length ≤ m := by
      rw [List.length_cons, List.length_cons] at hn
      omega
    rw [whileN_succ_pos hgo, ih hnext hlen, lookFits, hc]
    rfl


/-- The look-ahead never goes back. -/
theorem le_whileN_used (n : ℕ) (l : LookAhead) :
    l.packet.used ≤ (whileN LookAhead.goesOn LookAhead.next n l).packet.used :=
  whileN_inv (P := fun l' : LookAhead => l.packet.used ≤ l'.packet.used)
    (fun l' h _ => h.trans (l'.le_advance _)) (le_refl _) n

/-- **The look-ahead runs off** the packet when it wants two bytes where there is one. -/
theorem looksOff_cons {s : AsdMsg} {p : PacketData} {s₁ : UInt8} (h : p.unread = s₁ :: c :: behind) :
    LooksOff s p ↔ s.jtagMode = .hardware ∧ isTapState s₁ = true ∧ lookFits c behind = false := by
  have hle := used_le_of_unread h
  have hlen := congrArg List.length h
  rw [unread_length, List.length_cons, List.length_cons] at hlen
  have hfirst : p.buffer p.used = s₁ := (List.cons.inj (unread_split (a := [s₁]) hle h).1).1
  have hstart := LookingAt.start (unread_split (a := [s₁]) hle h).2
  have hfinds : (lookAhead (p.skip 1)).cmd2.isSome = lookFits c behind :=
    hstart.finds_iff (n := p.total) (by omega)
  have hmoved : (lookAhead (p.skip 1)).packet.used ≠ p.used + 1 := by
    have hused : ((LookAhead.start (p.skip 1)).advance 1).packet.used = p.used + 2 := by
      rw [LookAhead.advance, getPacketData_of_le (p := (LookAhead.start (p.skip 1)).packet)
        (show p.used + 1 + 1 ≤ p.total by omega)]
      rfl
    have hge := le_whileN_used p.total ((LookAhead.start (p.skip 1)).advance 1)
    rw [hused] at hge
    exact fun heq => absurd (hge.trans_eq heq) (by omega)
  rw [LooksOff, hfirst, ← hfinds, Option.isSome_eq_false_iff, Option.isNone_iff_eq_none]
  constructor
  · rintro ⟨hmode, -, htap, hnone, -⟩
    exact ⟨hmode, htap, hnone⟩
  · rintro ⟨hmode, htap, hnone⟩
    exact ⟨hmode, by omega, htap, hnone, hmoved⟩

/-- With less than two bytes there is nothing to look at. -/
theorem not_looksOff_short {s : AsdMsg} {p : PacketData} (h : p.unread.length ≤ 1) : ¬ LooksOff s p := by
  rintro ⟨-, hlt, -, -, hmoved⟩
  rw [unread_length] at h
  have hstay : (LookAhead.start (p.skip 1)).advance 1 = { LookAhead.start (p.skip 1) with counter := 1 } := by
    rw [LookAhead.advance, getPacketData_eq_none (p := (LookAhead.start (p.skip 1)).packet)
      (show p.total < p.used + 1 + 1 by omega)]
    rfl
  refine hmoved ?_
  change (whileN LookAhead.goesOn LookAhead.next p.total ((LookAhead.start (p.skip 1)).advance 1)).packet.used = _
  rw [hstay, whileN_of_exit]
  · rfl
  · exact Bool.and_false _

theorem looksOff_iff {s : AsdMsg} {p : PacketData} : LooksOff s p ↔ ¬ LookFits s p := by
  constructor
  · intro hoff hfits
    obtain ⟨s₁, c, behind, h⟩ : ∃ s₁ c behind, p.unread = s₁ :: c :: behind := by
      rcases hunread : p.unread with - | ⟨s₁, - | ⟨c, behind⟩⟩
      · exact absurd hoff (not_looksOff_short (by rw [hunread]; exact Nat.zero_le _))
      · exact absurd hoff (not_looksOff_short (by rw [hunread]; exact le_refl _))
      · exact ⟨s₁, c, behind, rfl⟩
    obtain ⟨hmode, htap, hfalls⟩ := (looksOff_cons h).1 hoff
    exact absurd (hfits s₁ c behind hmode h htap) (Bool.eq_false_iff.1 hfalls)
  · intro hnot
    by_contra hoff
    refine hnot fun s₁ c behind hmode h htap => ?_
    by_contra hfalls
    exact hoff ((looksOff_cons h).2 ⟨hmode, htap, Bool.eq_false_iff.2 hfalls⟩)

/-- **Everything is given back** exactly when the look-ahead, in hardware mode and behind a tap state command, never wants
two bytes where there is one. -/
theorem peeks_iff (s : AsdMsg) (t : ScanType) (p : PacketData) : Peeks s t p ↔ LookFits s p := by
  by_cases hle : p.used ≤ p.total
  · rw [← not_iff_not, ← looksOff_iff, ← not_iff_comm.1 (determineShiftEndState_used s t hle).symm, not_iff_not]
    obtain ⟨hbuffer, htotal, -⟩ := determineShiftEndState_ok s t hle rfl
    constructor
    · intro h
      exact congrArg PacketData.used h
    · intro h
      exact PacketData.ext hbuffer h htotal
  · have hunread : p.unread = [] := List.eq_nil_of_length_eq_zero (by rw [unread_length]; omega)
    have hsame : Peeks s t p := by
      rw [Peeks, determineShiftEndState, getPacketData_eq_none (by omega)]
    refine ⟨fun _ s₁ c behind _ h => ?_, fun _ => hsame⟩
    rw [hunread] at h
    cases h

end Fits

/-- A prefix of four bits between two tap state commands at the end of the packet: the operand looks like a command with
two bytes of operands, and two bytes are not given back. -/
theorem not_peeks_prefix : ¬ Peeks hardwareMsg .write (packetOf [0x25, drPrefix, 4, 0x26]) := by
  intro h
  exact absurd (congrArg PacketData.used h) (by decide +kernel)

end BmcAsd
