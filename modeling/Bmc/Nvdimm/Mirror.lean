import Bmc.Nvdimm.SmbusSeen
import Bmc.Nvdimm.PeciSeen

/-!
# The two transports

Whether PECI does with a command what SMBus does with it.

* `Reacts`: the output registers are the device's answer to the command that it has seen;
* `Mirrors`: the same commands, no command over a busy one, no access outside the mailbox, an honest
  success, and the same output payload;
* **`mirrors_iff`**: when this holds.
-/

namespace BmcNvdimm

open BmcLib

variable {sh : Shifts} {pbus : CsrBus} {bus : Bus} {addr : UInt8} {cmd : FwCmd} {timeout : UInt64}
  {j k : ℕ}

/-! ## The device -/

/-- What was read from the output registers is what the device answers to a command that it has seen:
`react` is any device, `input` what its input registers held. -/
def Reacts (react : Seen → Fin 32 → UInt32) (input : Fin 32 → UInt32) (ops : List MailboxOp) : Prop :=
  ∀ s ∈ ((Mailbox.mk input []).run ops).seen, ∀ i value, .read (.output i) value ∈ ops →
    value = react s i

theorem outputReads_eq (n : ℕ) :
    outputReads n = (List.range (segments n)).map fun i => .read (smbOutputRegister i) := by
  refine List.ext_getElem (by simp) fun i h₁ h₂ => ?_
  rw [length_outputReads, segments] at h₁
  rw [List.getElem_map, List.getElem_range]
  rcases Nat.lt_or_ge i (n / 4) with hlt | hge
  · simp [outputReads, hlt]
  · have hi : i = n / 4 := by omega
    have hpos : 0 < n % 4 := by omega
    subst hi
    simp [outputReads, hpos]

theorem outputs_le_32 (h : verifySmbusCmd cmd = returnSuccess) : cmd.outputs ≤ 32 := by
  have := (inputs_le h).2
  unfold FwCmd.outputs segments
  omega

/-- No access before the output payload reads it. -/
theorem no_output_of_ring {i : Fin 32} {value : UInt32} :
    MailboxOp.read (.output i) value ∉
      smbusOps (bus.transcript (bus.calls (readyAccesses cmd ++ ringAccesses cmd k))) := by
  intro hop
  obtain ⟨c, hc, n, hop⟩ := mem_smbusOps hop
  have hread : c = .read smbBootStatusRegisterH ∨ c = .read smbBootStatusRegister ∨
      c = .read smbCmdRegister ∨ c = .read smbStatusRegister ∨ ∃ addr v, c = .write addr v := by
    rw [readyAccesses, inputWrites_eq, ringAccesses] at hc
    simp only [List.mem_append, List.mem_cons, List.not_mem_nil, or_false, List.mem_map,
      List.mem_replicate] at hc
    rcases hc with ((h | h) | ⟨i, -, rfl⟩) | ((h | ⟨-, h⟩) | h)
    · exact .inl h
    · exact .inr (.inl h)
    · exact .inr (.inr (.inr (.inr ⟨_, _, rfl⟩)))
    · exact .inr (.inr (.inr (.inr ⟨_, _, h⟩)))
    · exact .inr (.inr (.inl h))
    · exact .inr (.inr (.inr (.inl h)))
  have hreg : smbusRegister smbBootStatusRegisterH = .other ∧
      smbusRegister smbBootStatusRegister = .other ∧ smbusRegister smbCmdRegister = .command ∧
      smbusRegister smbStatusRegister = .status := by decide
  rcases hread with rfl | rfl | rfl | rfl | ⟨addr, v, rfl⟩ <;>
    simp only [smbusOp, hreg] at hop <;> split_ifs at hop <;> cases hop

/-- The reads of output registers of an honest success. -/
theorem smbus_output_iff (hverified : verifySmbusCmd cmd = returnSuccess)
    (h : Honest bus cmd k (smbusPassThru bus cmd timeout)) (i : Fin 32) (value : UInt32) :
    .read (.output i) value ∈ smbusOps (bus.transcript (smbusPassThru bus cmd timeout).bus) ↔
      i.val < cmd.outputs ∧ value = (afterInputs bus cmd (3 + k + i)).value := by
  have hsize := outputs_le_32 hverified
  have hans : ∀ n, (bus.calls (readyAccesses cmd ++ ringAccesses cmd k)).ahead n =
      afterInputs bus cmd (3 + k + n) := by
    intro n
    rw [Device.ahead_calls, List.length_append, length_readyAccesses, length_ringAccesses, afterInputs]
    congr 1
    omega
  rw [h.accesses, smbusAccesses, Device.transcript_calls_append, smbusOps_append, List.mem_append,
    or_iff_right no_output_of_ring, outputReads_eq, Device.transcript_calls_range, smbusOps,
    List.filterMap_map, List.mem_filterMap]
  constructor
  · rintro ⟨n, hn, hop⟩
    have hn' : n < 32 := (List.mem_range.1 hn).trans_le hsize
    simp only [Function.comp_apply, smbusOp, hans, smbusRegister_output hn',
      mailboxRegister_output hn'] at hop
    split_ifs at hop
    obtain ⟨hreg, rfl⟩ := MailboxOp.read.inj (Option.some_injective _ hop)
    obtain rfl := Register.output.inj hreg
    exact ⟨List.mem_range.1 hn, rfl⟩
  · rintro ⟨hi, rfl⟩
    refine ⟨i, List.mem_range.2 hi, ?_⟩
    simp only [Function.comp_apply, smbusOp, hans, if_neg (h.outputs i hi), smbusRegister_output i.2,
      mailboxRegister_output i.2]

/-- The reads of output registers of a successful transfer over PECI. -/
theorem peci_output_iff (haddr : addr ≠ 0) (hj : j < apiMaxRetries) (h : PeciPasses pbus cmd j)
    (hout : cmd.outdws ≤ 32) (i : Fin 32) (value : UInt32) :
    .read (.output i) value ∈ csrOps (pbus.transcript (peciPassThru sh pbus addr cmd).bus) ↔
      i.val < cmd.outdws ∧ value = (afterIndw pbus cmd (3 + j + i)).val := by
  have hans : ∀ n, (pbus.calls ((peciReady sh cmd ++
      [.csrWr mbSmbusCmd (ringDword sh cmd (pbus.ahead 0).val)]) ++
      List.replicate (j + 1) (.csrRd mbSmbusStatus))).ahead n = afterIndw pbus cmd (3 + j + n) := by
    intro n
    rw [Device.ahead_calls, List.length_append, List.length_append, length_peciReady,
      List.length_singleton, List.length_replicate, afterIndw]
    congr 1
    omega
  have hnone : MailboxOp.read (.output i) value ∉ csrOps (pbus.transcript (pbus.calls
      ((peciReady sh cmd ++ [.csrWr mbSmbusCmd (ringDword sh cmd (pbus.ahead 0).val)]) ++
        List.replicate (j + 1) (.csrRd mbSmbusStatus)))) := by
    intro hop
    obtain ⟨c, hc, n, hop⟩ := mem_csrOps hop
    have hread : c = .csrRd mbSmbusCmd ∨ c = .csrRd mbSmbusStatus ∨ ∃ index v, c = .csrWr index v := by
      rw [ready_eq, indwWrites] at hc
      simp only [List.mem_append, List.mem_cons, List.not_mem_nil, or_false, List.mem_map,
        List.mem_replicate] at hc
      rcases hc with ((h | ⟨i, -, rfl⟩ | h) | h) | ⟨-, h⟩
      · exact .inl h
      · exact .inr (.inr ⟨_, _, rfl⟩)
      · exact .inr (.inr ⟨_, _, h⟩)
      · exact .inr (.inr ⟨_, _, h⟩)
      · exact .inr (.inl h)
    have hreg : csrRegister mbSmbusCmd = .command ∧ csrRegister mbSmbusStatus = .status := by decide
    rcases hread with rfl | rfl | ⟨index, v, rfl⟩ <;>
      simp only [csrOp, hreg] at hop <;> split_ifs at hop <;> cases hop
  rw [(peciPassThru_of_passes haddr hj h).1, peciAccesses, ← List.append_assoc,
    Device.transcript_calls_append, csrOps_append, List.mem_append, or_iff_right hnone, payloadReads,
    Device.transcript_calls_range, csrOps, List.filterMap_map, List.mem_filterMap]
  constructor
  · rintro ⟨n, hn, hop⟩
    have hn' : n < 32 := (List.mem_range.1 hn).trans_le hout
    simp only [Function.comp_apply, csrOp, hans, csrRegister_output, mailboxRegister_output hn'] at hop
    split_ifs at hop
    obtain ⟨hreg, rfl⟩ := MailboxOp.read.inj (Option.some_injective _ hop)
    obtain rfl := Register.output.inj hreg
    exact ⟨List.mem_range.1 hn, rfl⟩
  · rintro ⟨hi, rfl⟩
    refine ⟨i, List.mem_range.2 hi, ?_⟩
    simp only [Function.comp_apply, csrOp, hans, if_neg (h.outputs i hi), csrRegister_output,
      mailboxRegister_output i.2]

section Reacts

variable {react : Seen → Fin 32 → UInt32} {input : Fin 32 → UInt32}

theorem smbus_reacts_iff (hverified : verifySmbusCmd cmd = returnSuccess)
    (h : Honest bus cmd k (smbusPassThru bus cmd timeout)) :
    Reacts react input (smbusOps (bus.transcript (smbusPassThru bus cmd timeout).bus)) ↔
      ∀ i : Fin 32, i.val < cmd.outputs →
        (afterInputs bus cmd (3 + k + i)).value = react (cmd.smbusSeen input) i := by
  simp only [Reacts, honest_seen hverified h, List.nil_append, List.mem_singleton, forall_eq,
    smbus_output_iff hverified h]
  constructor
  · intro hr i hi
    exact hr i _ ⟨hi, rfl⟩
  · rintro hr i value ⟨hi, rfl⟩
    exact hr i hi

theorem peci_reacts_iff (haddr : addr ≠ 0) (hj : j < apiMaxRetries) (h : PeciPasses pbus cmd j)
    (hin : cmd.indws ≤ 32) (hout : cmd.outdws ≤ 32) :
    Reacts react input (csrOps (pbus.transcript (peciPassThru sh pbus addr cmd).bus)) ↔
      ∀ i : Fin 32, i.val < cmd.outdws →
        (afterIndw pbus cmd (3 + j + i)).val = react (cmd.peciSeen input) i := by
  simp only [Reacts, peciPasses_seen haddr h hin, List.nil_append, List.mem_singleton, forall_eq,
    peci_output_iff haddr hj h hout]
  constructor
  · intro hr i hi
    exact hr i _ ⟨hi, rfl⟩
  · rintro hr i value ⟨hi, rfl⟩
    exact hr i hi

end Reacts

/-! ## Sizes -/

theorem indws_eq (h : verifySmbusCmd cmd = returnSuccess) :
    cmd.indws = cmd.inputPayloadSize.toNat / 4 := by
  have := (inputs_le h).1
  rw [FwCmd.indws, FwCmd.params, UInt8.toNat_ofNat', Nat.mod_eq_of_lt]
  omega

theorem indws_le_32 (h : verifySmbusCmd cmd = returnSuccess) : cmd.indws ≤ 32 := by
  have := (inputs_le h).1
  rw [indws_eq h]
  omega

theorem outdws_le_32 (h : verifySmbusCmd cmd = returnSuccess) : cmd.outdws ≤ 32 := by
  have := (inputs_le h).2
  unfold FwCmd.outdws
  omega

/-- An input payload of whole dwords is sent the same way. -/
theorem peciSeen_eq (h : verifySmbusCmd cmd = returnSuccess) (hdvd : 4 ∣ cmd.inputPayloadSize.toNat)
    (input : Fin 32 → UInt32) : cmd.peciSeen input = cmd.smbusSeen input := by
  have hlen : cmd.indws = cmd.inputs := by
    rw [indws_eq h, FwCmd.inputs, segments]
    omega
  rw [FwCmd.peciSeen, FwCmd.smbusSeen, hlen]
  congr 1
  funext i
  split_ifs with hi
  · have hmin : min 4 (cmd.inputPayloadSize.toNat - 4 * i.val) = 4 := by
      unfold FwCmd.inputs segments at hi
      omega
    rw [FwCmd.inputDword, hmin]
    rfl
  · rfl

/-- An input payload with a part of a dword is not: the last register keeps what it held. -/
theorem exists_peciSeen_ne (h : verifySmbusCmd cmd = returnSuccess)
    (hdvd : ¬ 4 ∣ cmd.inputPayloadSize.toNat) : ∃ input, cmd.peciSeen input ≠ cmd.smbusSeen input := by
  have hsize := (inputs_le h).1
  have hlt : cmd.indws < 32 := by
    rw [indws_eq h]
    omega
  refine ⟨fun _ => cmd.inputDword cmd.indws + 1, fun heq => ?_⟩
  have hi := congrFun (congrArg Seen.input heq) ⟨cmd.indws, hlt⟩
  have hin : cmd.indws < cmd.inputs := by
    rw [indws_eq h, FwCmd.inputs, segments]
    omega
  simp only [FwCmd.peciSeen, FwCmd.smbusSeen, lt_irrefl, if_false, if_pos hin] at hi
  simp at hi

/-- The values that a device on the SMBus answers with: ready, no doorbell, complete, and `out`. -/
def goodValue (cmd : FwCmd) (out : ℕ → UInt32) (n : ℕ) : UInt32 :=
  if n = 1 then 0x100000
  else if n = 4 + cmd.inputs then 1
  else if 5 + cmd.inputs ≤ n then out (n - (5 + cmd.inputs))
  else 0

/-- A device on the SMBus that never fails. -/
def goodBus (cmd : FwCmd) (out : ℕ → UInt32) : Bus where
  answers n := ⟨returnSuccess, goodValue cmd out n, true⟩
  log := []

section GoodBus

variable (hverified : verifySmbusCmd cmd = returnSuccess) (out : ℕ → UInt32)

theorem goodBus_code (n : ℕ) : ¬ IsError ((goodBus cmd out).ahead n).code := not_isError_success

theorem goodBus_value (n : ℕ) :
    (afterInputs (goodBus cmd out) cmd n).value = goodValue cmd out (2 + cmd.inputs + n) := by
  simp [afterInputs, Device.ahead, goodBus]

theorem goodBus_doorbell : (afterInputs (goodBus cmd out) cmd (1 + 0)).value = 0 := by
  rw [goodBus_value, goodValue, if_neg (by omega), if_neg (by omega), if_neg (by omega)]

theorem goodBus_status : (afterInputs (goodBus cmd out) cmd (2 + 0)).value = 1 := by
  rw [goodBus_value, goodValue, if_neg (by omega), if_pos (by omega)]

theorem goodBus_output (i : ℕ) : (afterInputs (goodBus cmd out) cmd (3 + 0 + i)).value = out i := by
  rw [goodBus_value, goodValue, if_neg (by omega), if_neg (by omega), if_pos (by omega)]
  congr 1
  omega

theorem goodBus_clear : doorbell (afterInputs (goodBus cmd out) cmd (1 + 0)).value = false := by
  rw [goodBus_doorbell]
  rfl

theorem goodBus_complete : mbComplete (afterInputs (goodBus cmd out) cmd (2 + 0)).value = true := by
  rw [goodBus_status]
  rfl

include hverified

theorem goodBus_passes : Passes (goodBus cmd out) cmd 0 := by
  have hstatus : statusByte (afterInputs (goodBus cmd out) cmd (2 + 0)).value = 0 := by
    rw [goodBus_status]
    rfl
  have hready : mailboxReady ((goodBus cmd out).ahead 1).value = true := by
    rw [show ((goodBus cmd out).ahead 1).value = 0x100000 from rfl]
    decide
  refine ⟨hverified, goodBus_code out 0, goodBus_code out 1, hready, fun i _ => goodBus_code out _, ?_⟩
  exact ⟨⟨fun j hj => absurd hj (Nat.not_lt_zero j), .inr (goodBus_clear out)⟩, goodBus_code out _,
    hstatus, fun i _ => goodBus_code out _, rfl, fun _ => goodBus_complete out⟩

theorem goodBus_success : (smbusPassThru (goodBus cmd out) cmd 100).code = returnSuccess :=
  smbusPassThru_success_iff.2 ⟨0, by decide, goodBus_passes hverified out⟩

theorem goodBus_honest : Honest (goodBus cmd out) cmd 0 (smbusPassThru (goodBus cmd out) cmd 100) :=
  honest_of_passes (by decide) (goodBus_passes hverified out) (goodBus_code out _)
    (goodBus_code out _) (goodBus_complete out)

end GoodBus

/-! ## The same output payload -/

/-- A success over PECI leaves the output payload that an honest success over SMBus leaves, for any device
that answers to the commands that it sees. -/
def SamePayload (sh : Shifts) (pbus : CsrBus) (addr : UInt8) (cmd : FwCmd) : Prop :=
  ∀ (react : Seen → Fin 32 → UInt32) (input : Fin 32 → UInt32) (bus : Bus) (timeout : UInt64) (k : ℕ),
    (smbusPassThru bus cmd timeout).code = returnSuccess →
    Honest bus cmd k (smbusPassThru bus cmd timeout) →
    Reacts react input (smbusOps (bus.transcript (smbusPassThru bus cmd timeout).bus)) →
    (peciPassThru sh pbus addr cmd).code = returnSuccess →
    Reacts react input (csrOps (pbus.transcript (peciPassThru sh pbus addr cmd).bus)) →
    (peciPassThru sh pbus addr cmd).cmd.outPayload = (smbusPassThru bus cmd timeout).cmd.outPayload

section SamePayload

variable (hverified : verifySmbusCmd cmd = returnSuccess) (haddr : addr ≠ 0) (hj : j < apiMaxRetries)
  (h : PeciPasses pbus cmd j)

include hverified haddr

theorem samePayload_of_dvd
    (hdvd : cmd.outputPayloadSize.toNat = 0 ∨
      4 ∣ cmd.inputPayloadSize.toNat ∧ 4 ∣ cmd.outputPayloadSize.toNat) :
    SamePayload sh pbus addr cmd := by
  intro react input bus timeout k _ hhonest hsmbus hcode hpeci
  obtain ⟨-, j, hj, h⟩ := peciPassThru_success_iff.1 hcode
  rw [smbus_reacts_iff hverified hhonest] at hsmbus
  rw [peci_reacts_iff haddr hj h (indws_le_32 hverified) (outdws_le_32 hverified)] at hpeci
  funext i
  rw [(peciPassThru_of_passes haddr hj h).2, hhonest.payload]
  rcases hdvd with h0 | ⟨hin, hout⟩
  · have hdws : 4 * cmd.outdws = 0 := by
      rw [FwCmd.outdws, h0]
    rw [hdws, h0]
    simp
  have hdws : 4 * cmd.outdws = cmd.outputPayloadSize.toNat := by
    unfold FwCmd.outdws
    omega
  rw [hdws]
  split_ifs with hi
  · have hout32 := outdws_le_32 hverified
    have hlt : i / 4 < cmd.outdws := by omega
    have hlt' : i / 4 < cmd.outputs := by
      unfold FwCmd.outputs segments
      omega
    have hi32 : i / 4 < 32 := by omega
    rw [payloadByte, payloadByte, hpeci ⟨i / 4, hi32⟩ hlt, hsmbus ⟨i / 4, hi32⟩ hlt',
      peciSeen_eq hverified hin]
  · rfl

include hj h

/-- A device that answers PECI as it did, and SMBus with another byte. -/
theorem not_samePayload_of_byte (react : Seen → Fin 32 → UInt32) (input : Fin 32 → UInt32)
    (hreact : ∀ i : Fin 32, i.val < cmd.outdws →
      (afterIndw pbus cmd (3 + j + i)).val = react (cmd.peciSeen input) i)
    {i : ℕ} (hi : i < cmd.outputPayloadSize.toNat) (hi32 : i / 4 < 32)
    (hne : (peciPassThru sh pbus addr cmd).cmd.outPayload i ≠
      UInt8.ofNat ((react (cmd.smbusSeen input) ⟨i / 4, hi32⟩).toNat / 256 ^ (i % 4))) :
    ¬ SamePayload sh pbus addr cmd := by
  intro hsame
  have hcode : (peciPassThru sh pbus addr cmd).code = returnSuccess :=
    peciPassThru_success_iff.2 ⟨haddr, j, hj, h⟩
  have hhonest := goodBus_honest hverified
    fun n => if hn : n < 32 then react (cmd.smbusSeen input) ⟨n, hn⟩ else 0
  have heq := hsame react input _ 100 0 (goodBus_success hverified _) hhonest
    ((smbus_reacts_iff hverified hhonest).2 fun i _ => by rw [goodBus_output, dif_pos i.2]) hcode
    ((peci_reacts_iff haddr hj h (indws_le_32 hverified) (outdws_le_32 hverified)).2 hreact)
  refine hne ((congrFun heq i).trans ?_)
  rw [hhonest.payload, if_pos hi, payloadByte, goodBus_output, dif_pos hi32]

theorem dvd_of_samePayload (hsame : SamePayload sh pbus addr cmd) :
    cmd.outputPayloadSize.toNat = 0 ∨
      4 ∣ cmd.inputPayloadSize.toNat ∧ 4 ∣ cmd.outputPayloadSize.toNat := by
  classical
  by_contra hdvd
  obtain ⟨h0, hdvd⟩ := not_or.1 hdvd
  have hsize := (inputs_le hverified).2
  have hpayload := (@peciPassThru_of_passes sh _ _ _ _ haddr hj h).2
  by_cases hout : 4 ∣ cmd.outputPayloadSize.toNat
  · -- the command that PECI shows is another one, and the device answers to it otherwise
    obtain ⟨input, hinput⟩ := exists_peciSeen_ne hverified fun hin => hdvd ⟨hin, hout⟩
    have hpos : 0 < cmd.outputPayloadSize.toNat := Nat.pos_of_ne_zero h0
    refine not_samePayload_of_byte hverified haddr hj h
      (fun s i => if s = cmd.peciSeen input then (afterIndw pbus cmd (3 + j + i)).val
        else (afterIndw pbus cmd (3 + j + i)).val + 1) input (fun i _ => (if_pos rfl).symm) hpos
      (by decide) ?_ hsame
    have hdws : 0 < 4 * cmd.outdws := by
      unfold FwCmd.outdws
      omega
    rw [hpayload, if_pos hdws, if_neg (Ne.symm hinput), payloadByte]
    intro hbyte
    have hnat := congrArg UInt8.toNat hbyte
    simp only [UInt8.toNat_ofNat', UInt32.toNat_add, Nat.zero_div, Nat.zero_mod, Nat.add_zero,
      Nat.pow_zero, Nat.div_one, UInt32.toNat_one] at hnat
    omega
  · -- the last dword is not read over PECI
    have hlt : 4 * cmd.outdws < cmd.outputPayloadSize.toNat := by
      unfold FwCmd.outdws
      omega
    have hi32 : 4 * cmd.outdws / 4 < 32 := by omega
    refine not_samePayload_of_byte hverified haddr hj h
      (fun _ i => if i.val < cmd.outdws then (afterIndw pbus cmd (3 + j + i)).val
        else (cmd.outPayload (4 * cmd.outdws) + 1).toUInt32) (fun _ => 0)
      (fun i hi => (if_pos hi).symm) hlt hi32 ?_ hsame
    have hnot : ¬ 4 * cmd.outdws / 4 < cmd.outdws := by omega
    have hmod : 4 * cmd.outdws % 4 = 0 := by omega
    rw [hpayload, if_neg (lt_irrefl _), if_neg hnot, hmod, Nat.pow_zero, Nat.div_one,
       UInt8.toNat_toUInt32, UInt8.ofNat_toNat]
    intro hbyte
    simp at hbyte

end SamePayload

/-! ## The same mailbox -/

/-- A read or a write of a register of the mailbox that has this use. -/
def InMailbox : CsrAccess → Prop
  | .csrRd index => csrRegister index = .command ∨ csrRegister index = .status ∨
      ∃ i, csrRegister index = .output i
  | .csrWr index _ => csrRegister index = .command ∨ ∃ i, csrRegister index = .input i

/-- The completion of the command was read back, with status zero, after `j` other reads. -/
structure PeciHonest (sh : Shifts) (pbus : CsrBus) (cmd : FwCmd) (j : ℕ) (r : PeciPassThru) : Prop where
  accesses : r.bus = pbus.calls (peciAccesses sh pbus cmd j)
  read : ¬ (afterIndw pbus cmd (2 + j)).Failed
  complete : mbComplete (afterIndw pbus cmd (2 + j)).val = true
  fwStatus : statusByte (afterIndw pbus cmd (2 + j)).val = 0

/-- **The transports implement the same mailbox** for a command. -/
structure Mirrors (sh : Shifts) (pbus : CsrBus) (addr : UInt8) (cmd : FwCmd) : Prop where
  accepts : addr ≠ 0 →
    ((peciPassThru sh pbus addr cmd).bus.log ≠ pbus.log ↔ verifySmbusCmd cmd = returnSuccess)
  busy : ∀ value, .csrWr mbSmbusCmd value ∈ pbus.news (peciPassThru sh pbus addr cmd).bus →
    doorbell value = true → doorbell (pbus.ahead 0).val = false
  registers : ∀ c ∈ pbus.news (peciPassThru sh pbus addr cmd).bus, InMailbox c
  buffer : ∀ i, outPayloadSize ≤ i →
    (peciPassThru sh pbus addr cmd).cmd.outPayload i = cmd.outPayload i
  honest : (peciPassThru sh pbus addr cmd).code = returnSuccess →
    ∃ j < apiMaxRetries, PeciHonest sh pbus cmd j (peciPassThru sh pbus addr cmd)
  payload : SamePayload sh pbus addr cmd

theorem inMailbox_of_ready (hsize : cmd.indws ≤ 32) {c : CsrAccess} (hc : c ∈ peciReady sh cmd) :
    InMailbox c := by
  rw [ready_eq] at hc
  rcases List.mem_append.1 hc with h | hc
  · rw [List.mem_singleton.1 h]
    exact .inl (by decide)
  rcases List.mem_append.1 hc with h | h
  · obtain ⟨i, hi, rfl⟩ := List.mem_map.1 h
    have hi32 := (List.mem_range.1 hi).trans_le hsize
    exact .inr ⟨⟨i, hi32⟩, by rw [csrRegister_input, mailboxRegister_input hi32]⟩
  · rw [List.mem_singleton.1 h]
    exact .inl (by decide)

theorem inMailbox_of_collect (hsize : cmd.outdws ≤ 32) {c : CsrAccess}
    (hc : IsCollectRead cmd.outdws c) : InMailbox c := by
  rcases hc with rfl | ⟨i, hi, rfl⟩
  · exact .inr (.inl (by decide))
  · have hi32 := hi.trans_le hsize
    exact .inr (.inr ⟨⟨i, hi32⟩, by rw [csrRegister_output, mailboxRegister_output hi32]⟩)

/-- **No register outside.** -/
theorem inMailbox_of_verified (hverified : verifySmbusCmd cmd = returnSuccess) :
    ∀ c ∈ pbus.news (peciPassThru sh pbus addr cmd).bus, InMailbox c := by
  intro c hc
  rcases peciPassThru_bus sh pbus addr cmd with ⟨-, cs, hcs, -, hbus⟩ | ⟨-, cs, hcs, hbus⟩
  · rw [hbus, Device.news_calls] at hc
    exact inMailbox_of_ready (indws_le_32 hverified) (hcs.subset hc)
  · rw [hbus, Device.news_calls] at hc
    rcases List.mem_append.1 hc with hc | hc
    · exact inMailbox_of_ready (indws_le_32 hverified) hc
    rcases List.mem_append.1 hc with hc | hc
    · rw [List.mem_singleton.1 hc]
      exact .inl (by decide)
    · exact inMailbox_of_collect (outdws_le_32 hverified) (hcs c hc)

/-- The doorbell is rung exactly when nothing fails before. -/
theorem rings_iff : (∃ value, .csrWr mbSmbusCmd value ∈
      pbus.news (peciPassThru sh pbus addr cmd).bus ∧ doorbell value = true) ↔
    addr ≠ 0 ∧ Rings pbus cmd := by
  rcases peciPassThru_bus sh pbus addr cmd with ⟨hnot, cs, hcs, -, hbus⟩ | ⟨hrings, cs, -, hbus⟩
  · refine iff_of_false ?_ hnot
    rintro ⟨value, hc, hring⟩
    rw [hbus, Device.news_calls] at hc
    have hmem := hcs.subset hc
    rw [ready_eq] at hmem
    rcases List.mem_append.1 hmem with h | hmem
    · cases List.mem_singleton.1 h
    rcases List.mem_append.1 hmem with h | h
    · obtain ⟨i, -, heq⟩ := List.mem_map.1 h
      have hindex := (CsrAccess.csrWr.inj heq).1
      simp only [mbSmbusInputPayload0, mbSmbusCmd] at hindex
      omega
    · obtain ⟨-, rfl⟩ := CsrAccess.csrWr.inj (List.mem_singleton.1 h)
      rw [doorbell_apiCommand] at hring
      cases hring
  · refine iff_of_true ⟨_, ?_, (isCommand_ringDword sh cmd (pbus.ahead 0).val).doorbell⟩ hrings
    rw [hbus, Device.news_calls]
    exact List.mem_append_right _ (List.mem_append_left _ (List.mem_singleton_self _))

theorem log_eq_iff :
    (peciPassThru sh pbus addr cmd).bus.log = pbus.log ↔ addr = 0 := by
  rcases peciPassThru_bus sh pbus addr cmd with ⟨-, cs, -, hnil, hbus⟩ | ⟨⟨haddr, -⟩, cs, -, hbus⟩
  · rw [hbus, Device.log_calls, List.append_right_eq_self, hnil]
  · rw [hbus, Device.log_calls, List.append_right_eq_self]
    exact iff_of_false (by simp) haddr

/-- **When the transports agree.** The registers of one command and its device are treated as by SMBus if
and only if the command is one that SMBus accepts, the doorbell is not set when the command is written,
and, where everything that PECI looks at is good, the last read of the status did not fail, the status
byte is zero, and the payloads are whole dwords unless there is no output. -/
theorem mirrors_iff (sh : Shifts) (pbus : CsrBus) (addr : UInt8) (cmd : FwCmd) :
    Mirrors sh pbus addr cmd ↔ addr = 0 ∨
      verifySmbusCmd cmd = returnSuccess ∧
      (Rings pbus cmd → doorbell (pbus.ahead 0).val = false) ∧
      ∀ j < apiMaxRetries, PeciPasses pbus cmd j →
        ¬ (afterIndw pbus cmd (2 + j)).Failed ∧ statusByte (afterIndw pbus cmd (2 + j)).val = 0 ∧
          (cmd.outputPayloadSize.toNat = 0 ∨
            4 ∣ cmd.inputPayloadSize.toNat ∧ 4 ∣ cmd.outputPayloadSize.toNat) := by
  by_cases haddr : addr = 0
  · refine iff_of_true ?_ (.inl haddr)
    have hcode : ¬ (peciPassThru sh pbus addr cmd).code = returnSuccess := by
      rw [peciPassThru_success_iff]
      exact fun hc => hc.1 haddr
    have hbus : (peciPassThru sh pbus addr cmd).bus = pbus := by rw [peciPassThru, if_pos haddr]
    have hcmd : (peciPassThru sh pbus addr cmd).cmd = cmd := by rw [peciPassThru, if_pos haddr]
    refine ⟨fun hc => absurd haddr hc, fun value hmem => ?_, fun c hmem => ?_, fun i _ => by rw [hcmd],
      fun hc => absurd hc hcode, fun _ _ _ _ _ _ _ _ hc => absurd hc hcode⟩
    · rw [hbus, Device.news_self] at hmem
      exact absurd hmem List.not_mem_nil
    · rw [hbus, Device.news_self] at hmem
      exact absurd hmem List.not_mem_nil
  rw [or_iff_right haddr]
  constructor
  · intro h
    have hverified := (h.accepts haddr).1 fun hlog => haddr (log_eq_iff.1 hlog)
    refine ⟨hverified, fun hrings => ?_, fun j hj hpass => ?_⟩
    · obtain ⟨value, hmem, hring⟩ := (@rings_iff sh _ _ _).2 ⟨haddr, hrings⟩
      exact h.busy value hmem hring
    obtain ⟨j', -, hhonest⟩ := h.honest (peciPassThru_success_iff.2 ⟨haddr, j, hj, hpass⟩)
    have hlog := Device.calls_injective pbus
      ((peciPassThru_of_passes haddr hj hpass).1.symm.trans hhonest.accesses)
    have hlen := congrArg List.length hlog
    rw [length_peciAccesses, length_peciAccesses] at hlen
    obtain rfl : j = j' := by omega
    exact ⟨hhonest.read, hhonest.fwStatus, dvd_of_samePayload hverified haddr hj hpass h.payload⟩
  · rintro ⟨hverified, hbusy, hpasses⟩
    refine ⟨fun _ => iff_of_true (fun hlog => haddr (log_eq_iff.1 hlog)) hverified,
      fun value hmem hring => ?_, inMailbox_of_verified hverified, fun i hi => ?_, fun hcode => ?_, ?_⟩
    · exact hbusy (rings_iff.1 ⟨value, hmem, hring⟩).2
    · have hout := outdws_le_32 hverified
      exact peciPassThru_payload_of_le (le_trans (by simp only [outPayloadSize]; omega) hi)
    · obtain ⟨-, j, hj, hpass⟩ := peciPassThru_success_iff.1 hcode
      obtain ⟨hread, hstatus, -⟩ := hpasses j hj hpass
      refine ⟨j, hj, (peciPassThru_of_passes haddr hj hpass).1, hread, ?_, hstatus⟩
      exact (Bool.and_eq_true_iff.1 hpass.ends.2).1
    · intro react input bus timeout k hsuccess hhonest hsmbus hcode hpeci
      obtain ⟨-, j, hj, hpass⟩ := peciPassThru_success_iff.1 hcode
      exact samePayload_of_dvd hverified haddr (hpasses j hj hpass).2.2 react input bus timeout k
        hsuccess hhonest hsmbus hcode hpeci

/-- A device that completes every command with an error in the status byte. -/
def refusingBus : CsrBus where
  answers _ := ⟨.success, 0x301, true⟩
  log := []

/-- The device refuses the command, and PECI reports success. -/
theorem not_mirrors_refusingBus : ¬ ∀ (sh : Shifts) (pbus : CsrBus) (addr : UInt8) (cmd : FwCmd),
    Mirrors sh pbus addr cmd := by
  intro h
  have hsuccess : (peciPassThru Shifts.mod32 refusingBus 0x30 identifyCmd).code = returnSuccess := by
    decide
  obtain ⟨j, -, hhonest⟩ := (h Shifts.mod32 refusingBus 0x30 identifyCmd).honest hsuccess
  have hstatus : statusByte 0x301 = 0 := hhonest.fwStatus
  exact absurd hstatus (by decide)

end BmcNvdimm
