import Bmc.Nvdimm.SmbusHonest
import Bmc.Nvdimm.Mailbox

/-!
# What the device sees of an SMBus transfer

* `smbusOps`: the accesses of a transfer at the device; `FwCmd.smbusSeen`: the command at the doorbell;
* **`smbusPassThru_seen`**: a transfer shows at most this command;
* **`honest_seen`**: an honest success shows it.
-/

namespace BmcNvdimm

open BmcLib

variable {bus : Bus} {cmd : FwCmd} {timeout : UInt64}

/-- The register at an address. -/
def smbusRegister (addr : UInt32) : Register := mailboxRegister ((addr.toNat - 0xC8000800) / 4)

/-- An access as it reaches the device. -/
def smbusOp : Access × Answer → Option MailboxOp
  | (.read addr, a) => if IsError a.code then none else some (.read (smbusRegister addr) a.value)
  | (.write addr value, a) =>
    if IsError a.code ∧ a.landed = false then none else some (.write (smbusRegister addr) value)

/-- The accesses as they reach the device. -/
def smbusOps (t : List (Access × Answer)) : List MailboxOp := t.filterMap smbusOp

theorem smbusOps_append (t t' : List (Access × Answer)) :
    smbusOps (t ++ t') = smbusOps t ++ smbusOps t' := List.filterMap_append

/-- The access is a read. -/
def Access.IsRead : Access → Prop
  | .read _ => True
  | .write _ _ => False

theorem mem_smbusOps {cs : List Access} {op : MailboxOp}
    (h : op ∈ smbusOps (bus.transcript (bus.calls cs))) :
    ∃ c ∈ cs, ∃ i, smbusOp (c, bus.ahead i) = some op := by
  obtain ⟨⟨c, a⟩, hmem, hop⟩ := List.mem_filterMap.1 h
  rw [Device.transcript_calls, List.mem_mapIdx] at hmem
  obtain ⟨i, hi, heq⟩ := hmem
  obtain ⟨rfl, rfl⟩ := Prod.ext_iff.1 heq
  exact ⟨_, List.getElem_mem hi, i, hop⟩

theorem quiet_smbusOps {cs : List Access} (h : ∀ c ∈ cs, c.IsRead) :
    ∀ op ∈ smbusOps (bus.transcript (bus.calls cs)), MailboxOp.Quiet op := by
  intro op hop
  obtain ⟨c, hc, i, hop⟩ := mem_smbusOps hop
  cases c with
  | read addr =>
    simp only [smbusOp] at hop
    split_ifs at hop
    obtain rfl := Option.some_injective _ hop
    trivial
  | write addr value => exact (h _ hc).elim

/-! ## Input registers -/

/-- The value that is written to input register `i`. -/
def FwCmd.inputDword (cmd : FwCmd) (i : ℕ) : UInt32 :=
  dwordOf (slice cmd.inputPayload (4 * i) (min 4 (cmd.inputPayloadSize.toNat - 4 * i)))

theorem inputWrites_eq (cmd : FwCmd) :
    inputWrites cmd.inputPayload cmd.inputPayloadSize.toNat =
      (List.range cmd.inputs).map fun i => .write (smbInputRegister i) (cmd.inputDword i) := by
  refine List.ext_getElem (by simp [FwCmd.inputs]) fun i h₁ h₂ => ?_
  rw [length_inputWrites, segments] at h₁
  rw [List.getElem_map, List.getElem_range]
  rcases Nat.lt_or_ge i (cmd.inputPayloadSize.toNat / 4) with hlt | hge
  · have hmin : min 4 (cmd.inputPayloadSize.toNat - 4 * i) = 4 := by omega
    simp [inputWrites, FwCmd.inputDword, hlt, hmin]
  · have hi : i = cmd.inputPayloadSize.toNat / 4 := by omega
    have hpos : 0 < cmd.inputPayloadSize.toNat % 4 := by omega
    have hmin : min 4 (cmd.inputPayloadSize.toNat - 4 * i) = cmd.inputPayloadSize.toNat % 4 := by omega
    subst hi
    simp [inputWrites, FwCmd.inputDword, hpos, hmin]

theorem smbusRegister_input {i : ℕ} (hi : i < 32) :
    smbusRegister (smbInputRegister i) = mailboxRegister (6 + i) := by
  have hval : (smbInputRegister i).toNat = 0xC8000818 + 4 * i := by
    rw [smbInputRegister, UInt32.toNat_ofNat', Nat.mod_eq_of_lt]
    omega
  rw [smbusRegister, hval]
  congr 1
  omega

theorem smbusRegister_output {i : ℕ} (hi : i < 32) :
    smbusRegister (smbOutputRegister i) = mailboxRegister (40 + i) := by
  have hval : (smbOutputRegister i).toNat = 0xC80008A0 + 4 * i := by
    rw [smbOutputRegister, UInt32.toNat_ofNat', Nat.mod_eq_of_lt]
    omega
  rw [smbusRegister, hval]
  congr 1
  omega

theorem inputs_le (h : verifySmbusCmd cmd = returnSuccess) :
    cmd.inputPayloadSize.toNat ≤ 128 ∧ cmd.outputPayloadSize.toNat ≤ 128 := by
  rw [verifySmbusCmd] at h
  by_cases hin : inPayloadSize < cmd.inputPayloadSize.toNat
  · rw [if_pos hin] at h
    exact absurd h (ne_success_of_isError isError_invalidParameter)
  by_cases hout : outPayloadSize < cmd.outputPayloadSize.toNat
  · rw [if_neg hin, if_pos hout] at h
    exact absurd h (ne_success_of_isError isError_invalidParameter)
  · exact ⟨Nat.not_lt.1 hin, Nat.not_lt.1 hout⟩

theorem smbusOps_inputWrites (hsize : cmd.inputs ≤ 32)
    (h : ∀ i < cmd.inputs, ¬ IsError (bus.ahead i).code) :
    smbusOps (bus.transcript
        (bus.calls (inputWrites cmd.inputPayload cmd.inputPayloadSize.toNat))) =
      (List.range cmd.inputs).map fun i => .write (mailboxRegister (6 + i)) (cmd.inputDword i) := by
  rw [inputWrites_eq, Device.transcript_calls_range, smbusOps, List.filterMap_map,
    ← List.filterMap_eq_map]
  refine List.filterMap_congr fun i hi => ?_
  have hi' := List.mem_range.1 hi
  have hok : ¬ (IsError (bus.ahead i).code ∧ (bus.ahead i).landed = false) := fun hc => h i hi' hc.1
  simp only [Function.comp_apply, smbusOp, if_neg hok, smbusRegister_input (hi'.trans_le hsize)]

/-! ## The command -/

/-- The command as the device sees it, when its input registers were `input` before. -/
def FwCmd.smbusSeen (cmd : FwCmd) (input : Fin 32 → UInt32) : Seen where
  opcode := cmd.opcode
  subOpcode := cmd.subOpcode
  input i := if i.val < cmd.inputs then cmd.inputDword i else input i

theorem exists_pollDoorbell_bus (bus : Bus) (delay : ℕ) :
    ∃ n, (pollDoorbell bus delay).2 = bus.calls (List.replicate n (.read smbCmdRegister)) := by
  induction delay generalizing bus with
  | zero => exact ⟨0, by simp [pollDoorbell]⟩
  | succ delay ih =>
    rw [pollDoorbell]
    split_ifs
    · exact ⟨1, rfl⟩
    · exact ⟨1, rfl⟩
    · obtain ⟨n, hn⟩ := ih (bus.call (.read smbCmdRegister))
      refine ⟨n + 1, ?_⟩
      rw [hn, Device.call_eq_calls, Device.calls_calls, List.replicate_succ]
      rfl

theorem exists_collect_bus (bus : Bus) (cmd : FwCmd) (code : ReturnStatus) :
    ∃ cs, (∀ c ∈ cs, c.IsRead) ∧ (smbusCollect bus cmd code).bus = bus.calls cs := by
  have hreads : ∀ n, ∀ c ∈ outputReads n, c.IsRead := by
    intro n c hc
    rcases List.mem_append.1 hc with hc | hc
    · obtain ⟨i, -, rfl⟩ := List.mem_map.1 hc
      trivial
    · split_ifs at hc
      · rw [List.mem_singleton.1 hc]
        trivial
      · simp at hc
  rw [smbusCollect]
  split_ifs
  · obtain ⟨cs, hcs, heq⟩ := Device.exists_callUntil_eq (IsError ·.code)
      (outputReads cmd.outputPayloadSize.toNat) bus
    exact ⟨cs, fun c hc => hreads _ c (hcs.subset hc), heq⟩
  · exact ⟨[], by simp, by simp⟩

/-- From the command on, a transfer only reads. -/
theorem exists_ring_bus (bus : Bus) (cmd : FwCmd) (timeout : UInt64) :
    ∃ cs, (∀ c ∈ cs, c.IsRead) ∧
      (smbusRing bus cmd timeout).bus =
        bus.calls (.write smbCmdRegister (smbusCommand cmd) :: cs) := by
  obtain ⟨n, hn⟩ := exists_pollDoorbell_bus (bus.call (.write smbCmdRegister (smbusCommand cmd)))
    (timeout.toNat / smbusPtDelayPeriodInUs)
  have hpoll : (pollSmbusCmdCompletion (bus.call (.write smbCmdRegister (smbusCommand cmd)))
      timeout).2.2 = bus.calls (.write smbCmdRegister (smbusCommand cmd) ::
        (List.replicate n (.read smbCmdRegister) ++ [.read smbStatusRegister])) := by
    rw [pollSmbusCmdCompletion]
    dsimp only
    rw [hn, Device.call_eq_calls, Device.call_eq_calls, Device.calls_calls, Device.calls_calls]
    rfl
  have hreads : ∀ c ∈ List.replicate n (Access.read smbCmdRegister) ++ [.read smbStatusRegister],
      c.IsRead := by
    intro c hc
    rcases List.mem_append.1 hc with hc | hc
    · rw [List.eq_of_mem_replicate hc]
      trivial
    · rw [List.mem_singleton.1 hc]
      trivial
  rw [smbusRing]
  split_ifs
  · exact ⟨_, hreads, hpoll⟩
  · exact ⟨_, hreads, hpoll⟩
  all_goals
    obtain ⟨cs, hcs, heq⟩ := exists_collect_bus
      (pollSmbusCmdCompletion (bus.call (.write smbCmdRegister (smbusCommand cmd))) timeout).2.2
      { cmd with status := statusByte (pollSmbusCmdCompletion
        (bus.call (.write smbCmdRegister (smbusCommand cmd))) timeout).2.1 } _
    refine ⟨_ ++ cs, fun c hc => (List.mem_append.1 hc).elim (hreads c) (hcs c), heq.trans ?_⟩
    rw [hpoll, Device.calls_calls]
    rfl

/-- A transfer stops before the command, or all inputs are written. -/
theorem smbusPassThru_cases (bus : Bus) (cmd : FwCmd) (timeout : UInt64) :
    (∃ cs, cs <+: readyAccesses cmd ∧ (smbusPassThru bus cmd timeout).bus = bus.calls cs) ∨
      (verifySmbusCmd cmd = returnSuccess ∧ (∀ i < cmd.inputs, ¬ IsError (bus.ahead (2 + i)).code) ∧
        smbusPassThru bus cmd timeout = smbusRing (bus.calls (readyAccesses cmd)) cmd timeout) := by
  have h1 : (bus.call (.read smbBootStatusRegisterH)).answer = bus.ahead 1 :=
    Device.ahead_call bus _ 0
  by_cases hverified : verifySmbusCmd cmd = returnSuccess
  swap
  · refine .inl ⟨[], List.nil_prefix, ?_⟩
    rw [smbusPassThru, if_pos hverified, Device.calls_nil]
  by_cases hhigh : IsError (bus.ahead 0).code
  · have hhigh' : IsError bus.answer.code := hhigh
    refine .inl ⟨[.read smbBootStatusRegisterH], ⟨_, rfl⟩, ?_⟩
    rw [smbusPassThru, if_neg (not_not_intro hverified), smbusGetBSR]
    dsimp only
    rw [if_pos hhigh', if_pos hhigh']
    rfl
  by_cases hlow : IsError (bus.ahead 1).code
  · have hhigh' : ¬ IsError bus.answer.code := hhigh
    refine .inl ⟨[.read smbBootStatusRegisterH, .read smbBootStatusRegister], ⟨_, rfl⟩, ?_⟩
    rw [smbusPassThru, if_neg (not_not_intro hverified), smbusGetBSR]
    dsimp only
    rw [if_neg hhigh', h1, if_pos hlow, if_pos hlow, Device.call_eq_calls, Device.call_eq_calls,
      Device.calls_calls]
    rfl
  by_cases hready : mailboxReady (bus.ahead 1).value = true
  swap
  · refine .inl ⟨[.read smbBootStatusRegisterH, .read smbBootStatusRegister], ⟨_, rfl⟩, ?_⟩
    rw [smbusPassThru, if_neg (not_not_intro hverified), smbusGetBSR_of_good hhigh hlow]
    dsimp only
    rw [if_neg hlow, if_pos (Bool.not_eq_true _ ▸ hready)]
  by_cases hinputs : ∀ i < cmd.inputs, ¬ IsError (bus.ahead (2 + i)).code
  · exact .inr ⟨hverified, hinputs, smbusPassThru_of_ready hverified hhigh hlow hready hinputs⟩
  push Not at hinputs
  obtain ⟨i, hi, herr⟩ := hinputs
  have hwrite : IsError (writeToSmbusInputMailbox
      (bus.calls [.read smbBootStatusRegisterH, .read smbBootStatusRegister]) cmd.inputPayload
      cmd.inputPayloadSize.toNat).1 := by
    rw [isError_write_iff]
    exact ⟨i, hi, by rwa [Device.ahead_calls]⟩
  have hsize := inputs_pos.1 (Nat.zero_lt_of_lt hi)
  obtain ⟨cs, hcs, heq⟩ := Device.exists_callUntil_eq (IsError ·.code)
    (inputWrites cmd.inputPayload cmd.inputPayloadSize.toNat)
    (bus.calls [.read smbBootStatusRegisterH, .read smbBootStatusRegister])
  refine .inl ⟨[.read smbBootStatusRegisterH, .read smbBootStatusRegister] ++ cs,
    (List.prefix_append_right_inj _).2 hcs, ?_⟩
  rw [smbusPassThru, if_neg (not_not_intro hverified), smbusGetBSR_of_good hhigh hlow]
  dsimp only
  rw [if_neg hlow, if_neg (by rw [hready]; decide), if_pos hsize, if_pos hwrite,
    writeToSmbusInputMailbox]
  dsimp only
  rw [heq, Device.calls_calls]

/-- No access before the command is to the command register. -/
theorem no_command_of_ready {cs : List Access} (hcs : cs <+: readyAccesses cmd)
    (hsize : cmd.inputs ≤ 32) (value : UInt32) :
    MailboxOp.write .command value ∉ smbusOps (bus.transcript (bus.calls cs)) := by
  intro hop
  obtain ⟨c, hc, k, hop⟩ := mem_smbusOps hop
  have hmem := hcs.subset hc
  rw [readyAccesses, inputWrites_eq] at hmem
  rcases List.mem_append.1 hmem with hmem | hmem
  · rcases List.mem_cons.1 hmem with h | hmem
    · simp only [h, smbusOp] at hop
      split_ifs at hop
      cases hop
    · rw [List.mem_singleton] at hmem
      simp only [hmem, smbusOp] at hop
      split_ifs at hop
      cases hop
  · obtain ⟨i, hi, h⟩ := List.mem_map.1 hmem
    have hi' : i < 32 := (List.mem_range.1 hi).trans_le hsize
    simp only [← h, smbusOp, smbusRegister_input hi', mailboxRegister_input hi'] at hop
    split_ifs at hop
    cases hop

theorem inputs_le_32 (h : verifySmbusCmd cmd = returnSuccess) : cmd.inputs ≤ 32 := by
  have := (inputs_le h).1
  unfold FwCmd.inputs segments
  omega

/-- Before the command the device has the input registers of the command. -/
theorem run_ready (m : Mailbox) (hsize : cmd.inputs ≤ 32)
    (h : ∀ i < cmd.inputs, ¬ IsError (bus.ahead (2 + i)).code) :
    m.run (smbusOps (bus.transcript (bus.calls (readyAccesses cmd)))) =
      ⟨(cmd.smbusSeen m.input).input, m.seen⟩ := by
  have hreads : ∀ c ∈ [Access.read smbBootStatusRegisterH, .read smbBootStatusRegister],
      c.IsRead := by
    intro c hc
    rcases List.mem_cons.1 hc with rfl | hc
    · trivial
    · rw [List.mem_singleton.1 hc]
      trivial
  have hgood : ∀ i < cmd.inputs, ¬ IsError
      ((bus.calls [.read smbBootStatusRegisterH, .read smbBootStatusRegister]).ahead i).code := by
    intro i hi
    rw [Device.ahead_calls]
    exact h i hi
  rw [readyAccesses, Device.transcript_calls_append, smbusOps_append, Mailbox.run_append,
    Mailbox.run_of_quiet (quiet_smbusOps hreads), smbusOps_inputWrites hsize hgood,
    Mailbox.run_inputs m cmd.inputDword hsize]
  rfl

/-- From the command on, the device sees it if the write reaches the register. -/
theorem run_ring (bus : Bus) (cmd : FwCmd) (timeout : UInt64) (m : Mailbox) :
    m.run (smbusOps (bus.transcript (smbusRing bus cmd timeout).bus)) =
      if IsError (bus.ahead 0).code ∧ (bus.ahead 0).landed = false then m
      else { m with seen := m.seen ++ [⟨cmd.opcode, cmd.subOpcode, m.input⟩] } := by
  obtain ⟨cs, hcs, hbus⟩ := exists_ring_bus bus cmd timeout
  have hreg : smbusRegister smbCmdRegister = .command := by decide
  rw [hbus, ← List.singleton_append, Device.transcript_calls_append, smbusOps_append,
    Mailbox.run_append, Mailbox.run_of_quiet (quiet_smbusOps hcs), Device.transcript_calls]
  simp only [List.mapIdx_cons, List.mapIdx_nil, smbusOps, List.filterMap_cons, List.filterMap_nil,
    smbusOp, hreg]
  split_ifs with hlost
  · rfl
  · exact Mailbox.step_command (isCommand_smbusCommand cmd)

/-- **What the device sees of a transfer**: nothing, or the command. -/
theorem smbusPassThru_seen (bus : Bus) (cmd : FwCmd) (timeout : UInt64) (m : Mailbox) :
    (m.run (smbusOps (bus.transcript (smbusPassThru bus cmd timeout).bus))).seen = m.seen ∨
      verifySmbusCmd cmd = returnSuccess ∧
        (m.run (smbusOps (bus.transcript (smbusPassThru bus cmd timeout).bus))).seen =
          m.seen ++ [cmd.smbusSeen m.input] := by
  by_cases hverified : verifySmbusCmd cmd = returnSuccess
  swap
  · rw [smbusPassThru, if_pos hverified, Device.transcript_self]
    exact .inl rfl
  have hsize := inputs_le_32 hverified
  rcases smbusPassThru_cases bus cmd timeout with ⟨cs, hcs, hbus⟩ | ⟨-, hinputs, hring⟩
  · refine .inl ?_
    rw [hbus]
    exact Mailbox.run_seen fun value hmem => absurd hmem (no_command_of_ready hcs hsize value)
  · obtain ⟨cs, -, hbus⟩ := exists_ring_bus (bus.calls (readyAccesses cmd)) cmd timeout
    have hrun := run_ring (bus.calls (readyAccesses cmd)) cmd timeout
      ⟨(cmd.smbusSeen m.input).input, m.seen⟩
    rw [hbus] at hrun
    rw [hring, hbus, Device.calls_calls, Device.transcript_calls_append, smbusOps_append,
      Mailbox.run_append, run_ready m hsize hinputs, hrun]
    split_ifs
    · exact .inl rfl
    · exact .inr ⟨hverified, rfl⟩

/-- A transfer that rings the doorbell shows the command. -/
theorem smbusPassThru_run (hverified : verifySmbusCmd cmd = returnSuccess)
    (hhigh : ¬ IsError (bus.ahead 0).code) (hlow : ¬ IsError (bus.ahead 1).code)
    (hready : mailboxReady (bus.ahead 1).value = true)
    (hinputs : ∀ i < cmd.inputs, ¬ IsError (bus.ahead (2 + i)).code)
    (hrung : ¬ IsError (afterInputs bus cmd 0).code) (m : Mailbox) :
    m.run (smbusOps (bus.transcript (smbusPassThru bus cmd timeout).bus)) =
      ⟨(cmd.smbusSeen m.input).input, m.seen ++ [cmd.smbusSeen m.input]⟩ := by
  have hlanded : ¬ (IsError ((bus.calls (readyAccesses cmd)).ahead 0).code ∧
      ((bus.calls (readyAccesses cmd)).ahead 0).landed = false) := by
    rw [ahead_readyAccesses]
    exact fun hc => hrung hc.1
  obtain ⟨cs, -, hbus⟩ := exists_ring_bus (bus.calls (readyAccesses cmd)) cmd timeout
  have hrun := run_ring (bus.calls (readyAccesses cmd)) cmd timeout
    ⟨(cmd.smbusSeen m.input).input, m.seen⟩
  rw [hbus, if_neg hlanded] at hrun
  rw [smbusPassThru_of_ready hverified hhigh hlow hready hinputs, hbus, Device.calls_calls,
    Device.transcript_calls_append, smbusOps_append, Mailbox.run_append,
    run_ready m (inputs_le_32 hverified) hinputs, hrun]
  rfl

/-- **An honest success shows the command.** -/
theorem honest_seen {k : ℕ} (hverified : verifySmbusCmd cmd = returnSuccess)
    (h : Honest bus cmd k (smbusPassThru bus cmd timeout)) (m : Mailbox) :
    m.run (smbusOps (bus.transcript (smbusPassThru bus cmd timeout).bus)) =
      ⟨(cmd.smbusSeen m.input).input, m.seen ++ [cmd.smbusSeen m.input]⟩ :=
  smbusPassThru_run hverified h.high h.low h.ready h.inputs h.rung m

/-- The answers of the device are not changed by a transfer. -/
theorem answers_smbusPassThru (bus : Bus) (cmd : FwCmd) (timeout : UInt64) :
    (smbusPassThru bus cmd timeout).bus.answers = bus.answers := by
  rcases smbusPassThru_cases bus cmd timeout with ⟨cs, -, hbus⟩ | ⟨-, -, hring⟩
  · rw [hbus]
    rfl
  · obtain ⟨cs, -, hbus⟩ := exists_ring_bus (bus.calls (readyAccesses cmd)) cmd timeout
    rw [hring, hbus]
    rfl

end BmcNvdimm
