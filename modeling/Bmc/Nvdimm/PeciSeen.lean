import Bmc.Nvdimm.PeciRun

/-!
# What the device sees of a transfer over PECI

* `csrOps`: the accesses of a transfer at the device; `FwCmd.peciSeen`: the command at the doorbell;
* `isCommand_ringDword`: the dword that rings the doorbell;
* **`peciPassThru_seen`**: a transfer shows at most this command, and `peciPasses_seen`: a successful one
  shows it.
-/

namespace BmcNvdimm

open BmcLib

variable {sh : Shifts} {bus : CsrBus} {addr : UInt8} {cmd : FwCmd} {j : ℕ}

/-! ## The dword of the command -/

namespace Shifts

theorem bitField_eq (sh : Shifts) {offset size : UInt32} (hoffset : offset < 32) (hsize : size < 32)
    (val : UInt32) : sh.bitField offset size val = (val &&& (1 <<< size - 1)) <<< offset := by
  rw [bitField, sh.left_of_lt _ _ hoffset, sh.left_of_lt _ _ hsize]

theorem bitField_byte (sh : Shifts) {offset : UInt32} (hoffset : offset < 32) (b : UInt8) :
    sh.bitField offset 8 b.toUInt32 = b.toUInt32 <<< offset := by
  rw [sh.bitField_eq hoffset (by decide)]
  congr 1
  rw [← UInt32.toNat_inj, UInt32.toNat_and, UInt8.toNat_toUInt32]
  exact Nat.and_two_pow_sub_one_of_lt_two_pow b.toNat_lt

end Shifts

/-- The sequence bit is the highest bit or none. -/
theorem apiSequence_cases (sh : Shifts) (val : UInt32) :
    apiSequence sh val = 0x80000000 ∨ apiSequence sh val = 0 := by
  rw [apiSequence, sh.bitField_eq (by decide) (by decide), sh.bitField_eq (by decide) (by decide)]
  split_ifs
  · exact .inl rfl
  · exact .inr rfl

theorem toNat_apiCommand (sh : Shifts) (params : ApiParams) : (apiCommand sh params).toNat =
    params.opcode.toNat ||| params.subopcode.toNat <<< 8 % 2 ^ 32 := by
  rw [apiCommand, sh.bitField_byte (by decide), sh.bitField_byte (by decide)]
  simp [show subopcodeBit.toNat % 32 = 8 from rfl]

theorem testBit_apiCommand (sh : Shifts) (params : ApiParams) {i : ℕ} (hi : i < 32) :
    (apiCommand sh params).toNat.testBit i =
      (params.opcode.toNat.testBit i ||
        (decide (8 ≤ i) && params.subopcode.toNat.testBit (i - 8))) := by
  rw [toNat_apiCommand, Nat.testBit_or, Nat.testBit_mod_two_pow, Nat.testBit_shiftLeft,
    decide_eq_true hi, Bool.true_and]

theorem doorbell_apiCommand (sh : Shifts) (params : ApiParams) :
    doorbell (apiCommand sh params) = false := by
  rw [doorbell, testBit_apiCommand sh params (by decide), testBit_byte _ (by decide),
    testBit_byte _ (by decide)]
  rfl

/-- **The command with the doorbell.** -/
theorem isCommand_ringDword (sh : Shifts) (cmd : FwCmd) (val : UInt32) :
    IsCommand (ringDword sh cmd val) cmd.opcode cmd.subOpcode := by
  intro i hi
  have hdoorbell : sh.bitField doorbellBit 1 1 = 0x10000 := by
    rw [sh.bitField_eq (by decide) (by decide)]
    rfl
  have hbit : (0x10000 : UInt32).toNat.testBit i = decide (i = 16) := by
    rw [show (0x10000 : UInt32).toNat = 2 ^ 16 from rfl, Nat.testBit_two_pow]
    exact decide_eq_decide.2 eq_comm
  have hseq : (apiSequence sh val).toNat.testBit i = false := by
    rcases apiSequence_cases sh val with h | h
    · rw [h, show (0x80000000 : UInt32).toNat = 2 ^ 31 from rfl, Nat.testBit_two_pow]
      exact decide_eq_false (by omega)
    · rw [h]
      exact Nat.zero_testBit i
  rw [ringDword, UInt32.toNat_or, UInt32.toNat_or, Nat.testBit_or, Nat.testBit_or,
    testBit_apiCommand sh cmd.params (by omega), hdoorbell, hbit, hseq, Bool.or_false, Bool.or_assoc]
  rfl

/-! ## Accesses at the device -/

/-- An access as it reaches the device. -/
def csrOp : CsrAccess × CsrAnswer → Option MailboxOp
  | (.csrRd index, a) => if a.Failed then none else some (.read (csrRegister index) a.val)
  | (.csrWr index val, a) =>
    if a.Failed ∧ a.landed = false then none else some (.write (csrRegister index) val)

/-- The accesses as they reach the device. -/
def csrOps (t : List (CsrAccess × CsrAnswer)) : List MailboxOp := t.filterMap csrOp

theorem csrOps_append (t t' : List (CsrAccess × CsrAnswer)) :
    csrOps (t ++ t') = csrOps t ++ csrOps t' := List.filterMap_append

/-- The access is a read. -/
def CsrAccess.IsRead : CsrAccess → Prop
  | .csrRd _ => True
  | .csrWr _ _ => False

theorem mem_csrOps {cs : List CsrAccess} {op : MailboxOp}
    (h : op ∈ csrOps (bus.transcript (bus.calls cs))) :
    ∃ c ∈ cs, ∃ i, csrOp (c, bus.ahead i) = some op := by
  obtain ⟨⟨c, a⟩, hmem, hop⟩ := List.mem_filterMap.1 h
  rw [Device.transcript_calls, List.mem_mapIdx] at hmem
  obtain ⟨i, hi, heq⟩ := hmem
  obtain ⟨rfl, rfl⟩ := Prod.ext_iff.1 heq
  exact ⟨_, List.getElem_mem hi, i, hop⟩

theorem quiet_csrOps {cs : List CsrAccess} (h : ∀ c ∈ cs, c.IsRead) :
    ∀ op ∈ csrOps (bus.transcript (bus.calls cs)), MailboxOp.Quiet op := by
  intro op hop
  obtain ⟨c, hc, i, hop⟩ := mem_csrOps hop
  cases c with
  | csrRd index =>
    simp only [csrOp] at hop
    split_ifs at hop
    obtain rfl := Option.some_injective _ hop
    trivial
  | csrWr index val => exact (h _ hc).elim

theorem csrRegister_input (i : ℕ) : csrRegister (mbSmbusInputPayload0 + i) = mailboxRegister (6 + i) := by
  have hword : mbSmbusInputPayload0 + i - 258 = 6 + i := by
    rw [mbSmbusInputPayload0]
    omega
  rw [csrRegister, hword]

theorem csrRegister_output (i : ℕ) :
    csrRegister (mbSmbusOutputPayload0 + i) = mailboxRegister (40 + i) := by
  have hword : mbSmbusOutputPayload0 + i - 258 = 40 + i := by
    rw [mbSmbusOutputPayload0]
    omega
  rw [csrRegister, hword]

theorem csrOps_indwWrites (h : ∀ i < cmd.indws, ¬ (bus.ahead i).Failed) :
    csrOps (bus.transcript (bus.calls (indwWrites cmd.params))) =
      (List.range cmd.indws).map fun i => .write (mailboxRegister (6 + i)) (cmd.params.indw i) := by
  rw [indwWrites, Device.transcript_calls_range, csrOps, List.filterMap_map, ← List.filterMap_eq_map]
  refine List.filterMap_congr fun i hi => ?_
  have hok : ¬ ((bus.ahead i).Failed ∧ (bus.ahead i).landed = false) :=
    fun hc => h i (List.mem_range.1 hi) hc.1
  simp only [Function.comp_apply, csrOp, if_neg hok, csrRegister_input]

/-! ## The command at the doorbell -/

/-- The command as the device sees it, when its input registers were `input` before. -/
def FwCmd.peciSeen (cmd : FwCmd) (input : Fin 32 → UInt32) : Seen where
  opcode := cmd.opcode
  subOpcode := cmd.subOpcode
  input i := if i.val < cmd.indws then cmd.params.indw i else input i

theorem ready_eq : peciReady sh cmd =
    [.csrRd mbSmbusCmd] ++ (indwWrites cmd.params ++ [.csrWr mbSmbusCmd (apiCommand sh cmd.params)]) :=
  rfl

/-- Before the doorbell the device has the input registers of the command. -/
theorem run_peciReady (m : Mailbox) (hsize : cmd.indws ≤ 32) (h : Rings bus cmd) :
    m.run (csrOps (bus.transcript (bus.calls (peciReady sh cmd)))) =
      ⟨(cmd.peciSeen m.input).input, m.seen⟩ := by
  have hread : ∀ c ∈ [CsrAccess.csrRd mbSmbusCmd], c.IsRead := by
    intro c hc
    rw [List.mem_singleton.1 hc]
    trivial
  have hgood : ∀ i < cmd.indws, ¬ ((bus.calls [.csrRd mbSmbusCmd]).ahead i).Failed := by
    intro i hi
    rw [Device.ahead_calls]
    exact h.inputs i hi
  have hreg : csrRegister mbSmbusCmd = .command := by decide
  have hquiet : ∀ d : CsrBus, ∀ op ∈ csrOps (d.transcript
      (d.calls [.csrWr mbSmbusCmd (apiCommand sh cmd.params)])), MailboxOp.Quiet op := by
    intro d op hop
    obtain ⟨c, hc, i, hop⟩ := mem_csrOps hop
    obtain rfl := List.mem_singleton.1 hc
    simp only [csrOp, hreg] at hop
    split_ifs at hop
    obtain rfl := Option.some_injective _ hop
    exact doorbell_apiCommand sh cmd.params
  rw [ready_eq, Device.transcript_calls_append, csrOps_append, Mailbox.run_append,
    Mailbox.run_of_quiet (quiet_csrOps hread), Device.transcript_calls_append, csrOps_append,
    Mailbox.run_append, csrOps_indwWrites hgood, Mailbox.run_inputs m cmd.params.indw hsize,
    Mailbox.run_of_quiet (hquiet _)]
  rfl

theorem run_ringDword (m : Mailbox) (val : UInt32) {cs : List CsrAccess} (hcs : ∀ c ∈ cs, c.IsRead) :
    m.run (csrOps (bus.transcript
        (bus.calls ([.csrWr mbSmbusCmd (ringDword sh cmd val)] ++ cs)))) =
      if (bus.ahead 0).Failed ∧ (bus.ahead 0).landed = false then m
      else { m with seen := m.seen ++ [⟨cmd.opcode, cmd.subOpcode, m.input⟩] } := by
  have hreg : csrRegister mbSmbusCmd = .command := by decide
  rw [Device.transcript_calls_append, csrOps_append, Mailbox.run_append,
    Mailbox.run_of_quiet (quiet_csrOps hcs), Device.transcript_calls]
  simp only [List.mapIdx_cons, List.mapIdx_nil, csrOps, List.filterMap_cons, List.filterMap_nil,
    csrOp, hreg]
  split_ifs with hlost
  · rfl
  · exact Mailbox.step_command (isCommand_ringDword sh cmd val)

theorem IsCollectRead.isRead {n : ℕ} {c : CsrAccess} (h : IsCollectRead n c) : c.IsRead := by
  rcases h with rfl | ⟨i, -, rfl⟩
  · trivial
  · trivial

/-- A transfer stops before the doorbell, or only reads after it. -/
theorem peciPassThru_bus (sh : Shifts) (bus : CsrBus) (addr : UInt8) (cmd : FwCmd) :
    (¬ (addr ≠ 0 ∧ Rings bus cmd) ∧ ∃ cs, cs <+: peciReady sh cmd ∧ (cs = [] ↔ addr = 0) ∧
        (peciPassThru sh bus addr cmd).bus = bus.calls cs) ∨
      (addr ≠ 0 ∧ Rings bus cmd) ∧ ∃ cs, (∀ c ∈ cs, IsCollectRead cmd.outdws c) ∧
        (peciPassThru sh bus addr cmd).bus = bus.calls (peciReady sh cmd ++
          ([.csrWr mbSmbusCmd (ringDword sh cmd (bus.ahead 0).val)] ++ cs)) := by
  by_cases haddr : addr = 0
  · refine .inl ⟨fun hc => hc.1 haddr, [], List.nil_prefix, iff_of_true rfl haddr, ?_⟩
    rw [peciPassThru, if_pos haddr, Device.calls_nil]
  rw [peciPassThru, if_neg haddr, ← FwCmd.outdws]
  by_cases hrings : Rings bus cmd
  · refine .inr ⟨⟨haddr, hrings⟩, ?_⟩
    rw [api_of_rings sh hrings]
    split_ifs
    · exact ⟨[], by simp, by simp⟩
    · obtain ⟨cs, hcs, heq⟩ := exists_apiCollect_bus
        (bus.calls (peciReady sh cmd ++ [.csrWr mbSmbusCmd (ringDword sh cmd (bus.ahead 0).val)]))
        cmd.outPayload cmd.outdws
      refine ⟨cs, hcs, heq.trans ?_⟩
      rw [Device.calls_calls, List.append_assoc]
  · obtain ⟨-, -, cs, hcs, hne, heq⟩ :=
      api_of_not_rings sh hrings cmd.outPayload cmd.outdws
    exact .inl ⟨fun hc => hrings hc.2, cs, hcs, iff_of_false hne haddr, heq⟩

/-- Before the doorbell is no access that rings it. -/
theorem no_doorbell_of_ready {cs : List CsrAccess} (hcs : cs <+: peciReady sh cmd)
    (hsize : cmd.indws ≤ 32) (value : UInt32)
    (hop : MailboxOp.write .command value ∈ csrOps (bus.transcript (bus.calls cs))) :
    doorbell value = false := by
  obtain ⟨c, hc, i, hop⟩ := mem_csrOps hop
  have hmem := hcs.subset hc
  rw [ready_eq] at hmem
  rcases List.mem_append.1 hmem with h | hmem
  · obtain rfl := List.mem_singleton.1 h
    simp only [csrOp] at hop
    split_ifs at hop
    cases hop
  rcases List.mem_append.1 hmem with h | h
  · obtain ⟨k, hk, rfl⟩ := List.mem_map.1 h
    have hk' : k < 32 := (List.mem_range.1 hk).trans_le hsize
    simp only [csrOp, csrRegister_input, mailboxRegister_input hk'] at hop
    split_ifs at hop
    cases hop
  · obtain rfl := List.mem_singleton.1 h
    simp only [csrOp] at hop
    split_ifs at hop
    obtain ⟨-, rfl⟩ := MailboxOp.write.inj (Option.some_injective _ hop)
    exact doorbell_apiCommand sh cmd.params

/-- **What the device sees of a transfer**: nothing, or the command. -/
theorem peciPassThru_seen (sh : Shifts) (bus : CsrBus) (addr : UInt8) (cmd : FwCmd)
    (hsize : cmd.indws ≤ 32) (m : Mailbox) :
    (m.run (csrOps (bus.transcript (peciPassThru sh bus addr cmd).bus))).seen = m.seen ∨
      (m.run (csrOps (bus.transcript (peciPassThru sh bus addr cmd).bus))).seen =
        m.seen ++ [cmd.peciSeen m.input] := by
  rcases peciPassThru_bus sh bus addr cmd with ⟨-, cs, hcs, -, hbus⟩ | ⟨⟨-, hrings⟩, cs, hcs, hbus⟩
  · refine .inl ?_
    rw [hbus]
    exact Mailbox.run_seen (no_doorbell_of_ready hcs hsize)
  · rw [hbus, Device.transcript_calls_append, csrOps_append, Mailbox.run_append,
      run_peciReady m hsize hrings, run_ringDword _ _ fun c hc => (hcs c hc).isRead]
    split_ifs
    · exact .inl rfl
    · exact .inr rfl

/-- A transfer that rings the doorbell shows the command. -/
theorem peciPassThru_run (haddr : addr ≠ 0) (hsize : cmd.indws ≤ 32) (hrings : Rings bus cmd)
    (hrung : ¬ (afterIndw bus cmd 1).Failed) (m : Mailbox) :
    m.run (csrOps (bus.transcript (peciPassThru sh bus addr cmd).bus)) =
      ⟨(cmd.peciSeen m.input).input, m.seen ++ [cmd.peciSeen m.input]⟩ := by
  have hans : (bus.calls (peciReady sh cmd)).ahead 0 = afterIndw bus cmd 1 := by
    rw [Device.ahead_calls, length_peciReady, afterIndw]
    congr 1
    omega
  rcases peciPassThru_bus sh bus addr cmd with ⟨hno, -⟩ | ⟨-, cs, hcs, hbus⟩
  · exact absurd ⟨haddr, hrings⟩ hno
  rw [hbus, Device.transcript_calls_append, csrOps_append, Mailbox.run_append,
    run_peciReady m hsize hrings, run_ringDword _ _ fun c hc => (hcs c hc).isRead, hans,
    if_neg fun hc => hrung hc.1]
  rfl

/-- **A successful transfer shows the command.** -/
theorem peciPasses_seen (haddr : addr ≠ 0) (h : PeciPasses bus cmd j) (hsize : cmd.indws ≤ 32)
    (m : Mailbox) :
    m.run (csrOps (bus.transcript (peciPassThru sh bus addr cmd).bus)) =
      ⟨(cmd.peciSeen m.input).input, m.seen ++ [cmd.peciSeen m.input]⟩ :=
  peciPassThru_run haddr hsize h.rings h.rung m

/-- The answers of the device are not changed by a transfer. -/
theorem answers_peciPassThru (sh : Shifts) (bus : CsrBus) (addr : UInt8) (cmd : FwCmd) :
    (peciPassThru sh bus addr cmd).bus.answers = bus.answers := by
  rcases peciPassThru_bus sh bus addr cmd with ⟨-, cs, -, -, hbus⟩ | ⟨-, cs, -, hbus⟩ <;>
  · rw [hbus]
    rfl

end BmcNvdimm
