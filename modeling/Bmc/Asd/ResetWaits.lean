import Bmc.Asd.LookAhead

/-!
# Wait cycles behind a reset

When `WRITE_PINS` has asserted the reset button, it takes the `WAIT_CYCLES_TCK_DISABLE` commands behind it, two bytes at a time.

* `WaitRun`: the maximal row of these commands at the head of some bytes;
* `skipWaitCycles_run`: what the loop takes;
* **`skipsWaits_iff`**: the main loop goes on behind the row, exactly when there is not a single byte behind it.
-/

namespace BmcAsd

open BmcLib

/-! ## The row of commands -/

/-- The bytes begin with the commands `ws`, which wait, and no other such command is behind them. -/
structure WaitRun (bytes : List UInt8) (ws : List JtagCmd) (behind : List UInt8) : Prop where
  waits : Waits ws
  split : bytes = ws.flatMap JtagCmd.bytes ++ behind
  maximal : ∀ o rest, behind ≠ waitCyclesTckDisable :: o :: rest

/-- A command that waits. -/
def waitCommand (o : UInt8) : JtagCmd := ⟨waitCyclesTckDisable, [o]⟩

theorem WaitRun.cons {bytes behind : List UInt8} {ws : List JtagCmd} (h : WaitRun bytes ws behind) (o : UInt8) :
    WaitRun (waitCyclesTckDisable :: o :: bytes) (waitCommand o :: ws) behind where
  waits := List.forall_mem_cons.2 ⟨⟨rfl, rfl⟩, h.waits⟩
  split := by
    rw [h.split]
    rfl
  maximal := h.maximal

theorem waitRun_nil {behind : List UInt8} (h : ∀ o rest, behind ≠ waitCyclesTckDisable :: o :: rest) :
    WaitRun behind [] behind :=
  ⟨fun _ hd => absurd hd List.not_mem_nil, rfl, h⟩

/-- There always is a maximal row. -/
theorem exists_waitRun : ∀ bytes : List UInt8, ∃ ws behind, WaitRun bytes ws behind
  | [] => ⟨[], [], waitRun_nil fun _ _ h => nomatch h⟩
  | [c] => ⟨[], [c], waitRun_nil fun _ _ h => nomatch h⟩
  | c :: o :: bytes => by
    by_cases hc : c = waitCyclesTckDisable
    · subst hc
      obtain ⟨ws, behind, h⟩ := exists_waitRun bytes
      exact ⟨_, _, h.cons o⟩
    · exact ⟨[], _, waitRun_nil fun o' rest h => hc (List.cons.inj h).1⟩

/-! ## The loop that takes them -/

/-- The loop variables after `n` bytes of the packet were taken, with these accesses. -/
def JtagLoop.past (l : JtagLoop) (n : ℕ) (as : List Access) : JtagLoop :=
  { l with packet := l.packet.skip n, st := l.st.touch as }

section Loop

variable {l : JtagLoop} {c o : UInt8} {rest : List UInt8}

theorem past_past (l : JtagLoop) (m n : ℕ) (as bs : List Access) : (l.past m as).past n bs = l.past (m + n) (as ++ bs) := by
  simp only [JtagLoop.past, PacketData.skip_skip, AsdMsg.touch, List.append_assoc]

theorem past_zero (l : JtagLoop) : l.past 0 [] = l := by
  simp only [JtagLoop.past, PacketData.skip, AsdMsg.touch, List.append_nil, Nat.add_zero]

theorem goesOn_of_unread (h : l.packet.unread = c :: rest) : skipWaitCyclesGoesOn (true, l) = true := by
  have hlen := congrArg List.length h
  rw [unread_length, List.length_cons] at hlen
  rw [skipWaitCyclesGoesOn, Bool.true_and, decide_eq_true_eq]
  dsimp only
  omega

/-- **One round** takes a command that waits. -/
theorem skipWaitCyclesStep_wait (hle : l.packet.used ≤ l.packet.total)
    (h : l.packet.unread = waitCyclesTckDisable :: o :: rest) :
    ∃ as, skipWaitCyclesStep (true, l) = (true, l.past 2 as) := by
  refine ⟨[.packet l.packet.used 2 l.packet.total], ?_⟩
  have hget : getPacketData l.packet 2 = some ([waitCyclesTckDisable, o], l.packet.skip 2) :=
    getPacketData_unread (a := [waitCyclesTckDisable, o]) hle h
  rw [skipWaitCyclesStep, hget]
  rfl

/-- Another command is given back. -/
theorem skipWaitCyclesStep_other (hle : l.packet.used ≤ l.packet.total) (h : l.packet.unread = c :: o :: rest)
    (hc : c ≠ waitCyclesTckDisable) : ∃ as, skipWaitCyclesStep (true, l) = (false, l.past 0 as) := by
  refine ⟨[.packet l.packet.used 2 l.packet.total], ?_⟩
  have hget : getPacketData l.packet 2 = some ([c, o], l.packet.skip 2) :=
    getPacketData_unread (a := [c, o]) hle h
  rw [skipWaitCyclesStep, hget]
  dsimp only
  rw [List.headD_cons, if_neg hc]
  rfl

/-- **A single byte** fails. -/
theorem skipWaitCyclesStep_single (h : l.packet.unread = [c]) : skipWaitCyclesStep (true, l) = (false, l.fail) := by
  have hlen := congrArg List.length h
  rw [unread_length, List.length_singleton] at hlen
  rw [skipWaitCyclesStep, getPacketData_eq_none (by dsimp only; omega)]

/-- The loop variables behind the commands `ws`, when `behind` is not a single byte. -/
structure TakesRow (l l' : JtagLoop) (ws : List JtagCmd) (behind : List UInt8) : Prop where
  single : behind.length = 1 → l'.broken = true
  other : behind.length ≠ 1 → ∃ as, l' = l.past (ws.flatMap JtagCmd.bytes).length as

theorem whileN_false (n : ℕ) (l : JtagLoop) : whileN skipWaitCyclesGoesOn skipWaitCyclesStep n (false, l) = (false, l) :=
  whileN_of_exit rfl n

/-- Behind the row the loop ends. -/
theorem takesRow_nil {behind : List UInt8} (hle : l.packet.used ≤ l.packet.total) (h : l.packet.unread = behind)
    (hmaximal : ∀ o rest, behind ≠ waitCyclesTckDisable :: o :: rest) (n : ℕ) :
    TakesRow l (whileN skipWaitCyclesGoesOn skipWaitCyclesStep (n + 1) (true, l)).2 [] behind := by
  match behind, hmaximal with
  | [], _ =>
    have hexit : skipWaitCyclesGoesOn (true, l) = false := by
      have hlen := congrArg List.length h
      rw [unread_length, List.length_nil] at hlen
      rw [skipWaitCyclesGoesOn, Bool.true_and, decide_eq_false_iff_not]
      dsimp only
      omega
    rw [whileN_of_exit hexit]
    exact ⟨fun h => absurd h (by decide), fun _ => ⟨[], (past_zero l).symm⟩⟩
  | [c], _ =>
    rw [whileN_succ_pos (goesOn_of_unread h), skipWaitCyclesStep_single h, whileN_false]
    exact ⟨fun _ => rfl, fun hne => absurd rfl hne⟩
  | c :: o :: rest, hmaximal =>
    have hc : c ≠ waitCyclesTckDisable := fun heq => hmaximal o rest (by rw [heq])
    obtain ⟨as, hstep⟩ := skipWaitCyclesStep_other hle h hc
    rw [whileN_succ_pos (goesOn_of_unread h), hstep, whileN_false]
    exact ⟨fun hone => absurd hone (by simp), fun _ => ⟨as, rfl⟩⟩

/-- **The loop takes the row.** -/
theorem takesRow {ws : List JtagCmd} {behind : List UInt8} (hw : Waits ws)
    (hmaximal : ∀ o rest, behind ≠ waitCyclesTckDisable :: o :: rest) {n : ℕ} (hn : ws.length < n)
    (hle : l.packet.used ≤ l.packet.total) (h : l.packet.unread = ws.flatMap JtagCmd.bytes ++ behind) :
    TakesRow l (whileN skipWaitCyclesGoesOn skipWaitCyclesStep n (true, l)).2 ws behind := by
  induction ws generalizing l n with
  | nil =>
    obtain ⟨m, rfl⟩ := Nat.exists_eq_succ_of_ne_zero (Nat.ne_zero_of_lt hn)
    exact takesRow_nil hle h hmaximal m
  | cons w ws ih =>
    obtain ⟨m, rfl⟩ := Nat.exists_eq_succ_of_ne_zero (Nat.ne_zero_of_lt hn)
    obtain ⟨⟨hcmd, hoperand⟩, hw⟩ := List.forall_mem_cons.1 hw
    obtain ⟨o, ho⟩ := List.length_eq_one_iff.1 hoperand
    have hbytes : w.bytes = [waitCyclesTckDisable, o] := by rw [JtagCmd.bytes, hcmd, ho]
    rw [List.flatMap_cons, hbytes, List.append_assoc] at h
    obtain ⟨as, hstep⟩ := skipWaitCyclesStep_wait hle h
    have hle' : (l.past 2 as).packet.used ≤ (l.past 2 as).packet.total :=
      skip_used_le (a := [waitCyclesTckDisable, o]) hle h
    have hrest : (l.past 2 as).packet.unread = ws.flatMap JtagCmd.bytes ++ behind :=
      (unread_split (a := [waitCyclesTckDisable, o]) hle h).2
    have hrow := ih hw (Nat.lt_of_succ_lt_succ hn) hle' hrest
    rw [whileN_succ_pos (goesOn_of_unread h), hstep]
    refine ⟨hrow.single, fun hne => ?_⟩
    obtain ⟨bs, hpast⟩ := hrow.other hne
    refine ⟨as ++ bs, ?_⟩
    rw [hpast, past_past, List.flatMap_cons, List.length_append, hbytes]
    rfl

end Loop

/-! ## The command -/

/-- The main loop is at a `WRITE_PINS` command that asserts the reset button, and the target takes it. -/
structure AssertsReset (l : JtagLoop) (bytes : List UInt8) : Prop where
  goesOn : l.goesOn = true
  unread : ∃ data, l.packet.unread = writePinsCmd :: data :: bytes ∧ (data >>> 7 == 1) = true ∧
    Pin.ofNat? (data &&& 0x7f).toNat = some .resetButton
  taken : (targetWrite l.st.targetHandler .resetButton true).1 = .ok

/-- The main loop behind a `WRITE_PINS` command and the commands `ws`. -/
def JtagLoop.behindReset (l : JtagLoop) (ws : List JtagCmd) (as : List Access) : JtagLoop :=
  { (l.past (2 + (ws.flatMap JtagCmd.bytes).length) as) with
    st := { l.st with targetHandler := (targetWrite l.st.targetHandler .resetButton true).2 }.touch as
    status := .ok
    broken := false }

/-- **Only the row is skipped.** From the command on, the main loop runs as it does from behind the commands `ws`. -/
def SkipsWaits (l : JtagLoop) (ws : List JtagCmd) : Prop :=
  ∃ as, ∀ n, whileN JtagLoop.goesOn jtagCommand (n + 1) l =
    whileN JtagLoop.goesOn jtagCommand n (l.behindReset ws as)

theorem withData_past {l : JtagLoop} {a rest : List UInt8} (hle : l.packet.used ≤ l.packet.total)
    (h : l.packet.unread = a ++ rest) (k : List UInt8 → JtagLoop → JtagLoop) :
    l.withData a.length k = k a (l.past a.length [.packet l.packet.used a.length l.packet.total]) := by
  rw [JtagLoop.withData, getPacketData_unread hle h]
  rfl

theorem target_ok {l : JtagLoop} {r : Status × TargetHandle} (h : r.1 = .ok) :
    l.target r = { l with st := { l.st with targetHandler := r.2 }, status := .ok, broken := false } := by
  rw [JtagLoop.target, JtagLoop.result, h]
  rfl

theorem writePins_reset {l : JtagLoop} {data : UInt8} (hassert : (data >>> 7 == 1) = true)
    (hpin : Pin.ofNat? (data &&& 0x7f).toNat = some .resetButton)
    (htaken : (targetWrite l.st.targetHandler .resetButton true).1 = .ok) :
    writePins l data = skipWaitCycles (l.target (targetWrite l.st.targetHandler .resetButton true)) := by
  rw [writePins, hassert, hpin]
  dsimp only
  rw [target_ok htaken, if_neg Bool.false_ne_true, if_pos ⟨rfl, rfl⟩]

/-- The command runs the loop that takes the row. -/
theorem jtagCommand_reset {l : JtagLoop} {bytes : List UInt8} (h : AssertsReset l bytes) :
    ∃ as, (l.behindReset [] as).packet.unread = bytes ∧
      (l.behindReset [] as).packet.used ≤ (l.behindReset [] as).packet.total ∧
        jtagCommand l = skipWaitCycles (l.behindReset [] as) := by
  obtain ⟨data, hunread, hassert, hpin⟩ := h.unread
  have hle := used_le_of_unread hunread
  have hsecond := (unread_split (a := [writePinsCmd]) hle hunread).2
  have hle' := skip_used_le (a := [writePinsCmd]) hle hunread
  refine ⟨[.packet l.packet.used 1 l.packet.total, .packet (l.packet.used + 1) 1 l.packet.total],
    (unread_split (a := [writePinsCmd, data]) hle hunread).2, skip_used_le (a := [writePinsCmd, data]) hle hunread, ?_⟩
  rw [jtagCommand, show 1 = [writePinsCmd].length from rfl, withData_past hle hunread, List.headD_cons, jtagDispatch,
    if_neg (by decide), if_neg (by decide), if_pos rfl, show 1 = [data].length from rfl,
    withData_past (a := [data]) hle' hsecond, List.headD_cons, past_past,
    writePins_reset hassert hpin ?_, target_ok ?_]
  · rfl
  · exact h.taken
  · exact h.taken

theorem behindReset_past (l : JtagLoop) (ws : List JtagCmd) (as bs : List Access) :
    (l.behindReset [] as).past (ws.flatMap JtagCmd.bytes).length bs = l.behindReset ws (as ++ bs) := by
  simp only [JtagLoop.behindReset, JtagLoop.past, PacketData.skip_skip, AsdMsg.touch, List.append_assoc,
    List.flatMap_nil, List.length_nil, Nat.add_zero]

theorem length_flatMap_waits {ws : List JtagCmd} (h : Waits ws) :
    (ws.flatMap JtagCmd.bytes).length = 2 * ws.length := by
  induction ws with
  | nil => rfl
  | cons w ws ih =>
    obtain ⟨⟨-, hoperand⟩, hws⟩ := List.forall_mem_cons.1 h
    rw [List.flatMap_cons, List.length_append, ih hws, JtagCmd.bytes, List.length_cons, hoperand, List.length_cons]
    omega

/-- **The main loop goes on behind the row**, exactly when there is not a single byte behind it. -/
theorem skipsWaits_iff {l : JtagLoop} {bytes behind : List UInt8} {ws : List JtagCmd} (h : AssertsReset l bytes)
    (hrun : WaitRun bytes ws behind) : SkipsWaits l ws ↔ behind.length ≠ 1 := by
  obtain ⟨as, hunread, hle, hcommand⟩ := jtagCommand_reset h
  have hlen := congrArg List.length hunread
  have hrounds : ws.length < (l.behindReset [] as).packet.total := by
    have hused : (l.behindReset [] as).packet.used = l.packet.used + 2 := rfl
    have hbytes := length_flatMap_waits hrun.waits
    rw [unread_length, hrun.split, List.length_append] at hlen
    omega
  have hrow : TakesRow (l.behindReset [] as) (jtagCommand l) ws behind :=
    hcommand ▸ takesRow hrun.waits hrun.maximal hrounds hle (hunread.trans hrun.split)
  constructor
  · rintro ⟨bs, hsame⟩ hone
    have hbroken := hrow.single hone
    have hnext := hsame 0
    rw [whileN_succ_pos h.goesOn, whileN_zero, whileN_zero] at hnext
    rw [hnext] at hbroken
    cases hbroken
  · intro hne
    obtain ⟨bs, hpast⟩ := hrow.other hne
    refine ⟨as ++ bs, fun n => ?_⟩
    rw [whileN_succ_pos h.goesOn, hpast, behindReset_past]

/-- An initialised message layer, with an initialised target. -/
def targetMsg : AsdMsg :=
  { hardwareMsg with targetHandler := { hardwareMsg.targetHandler with initialized := true } }

/-- The main loop before a packet that begins with these bytes. -/
def loopOver (bytes : List UInt8) : JtagLoop where
  st := targetMsg
  packet := packetOf bytes
  responseCnt := 0
  status := .ok
  broken := false

theorem assertsReset_loopOver (bytes : List UInt8) : AssertsReset (loopOver (writePinsCmd :: 0x82 :: bytes)) bytes where
  goesOn := rfl
  unread := ⟨0x82, unread_packetOf _, by decide, by decide⟩
  taken := show (targetWrite targetMsg.targetHandler .resetButton true).1 = .ok by decide +kernel

/-- Reset, two commands that wait, and two tap state commands. -/
theorem skipsWaits_twice :
    SkipsWaits (loopOver [writePinsCmd, 0x82, 0x10, 0x05, 0x10, 0x00, 0x2c, 0x21]) [waitCommand 5, waitCommand 0] :=
  have hend : WaitRun [0x2c, 0x21] [] [0x2c, 0x21] := waitRun_nil fun _ _ h => absurd (List.cons.inj h).1 (by decide)
  (skipsWaits_iff (assertsReset_loopOver _) ((hend.cons 0).cons 5)).2 (by decide)

/-- Reset, a command that waits, and a last tap state command: the packet fails. -/
theorem not_skipsWaits_tapState : ¬ SkipsWaits (loopOver [writePinsCmd, 0x82, 0x10, 0x05, 0x2c]) [waitCommand 5] := by
  rintro ⟨as, h⟩
  have hgoes : (whileN JtagLoop.goesOn jtagCommand 1 (loopOver [writePinsCmd, 0x82, 0x10, 0x05, 0x2c])).broken = false :=
    congrArg JtagLoop.broken (h 0)
  exact absurd hgoes (by decide +kernel)

end BmcAsd
