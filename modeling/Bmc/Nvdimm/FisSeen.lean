import Bmc.Nvdimm.Fis
import Bmc.Nvdimm.Mirror

/-!
# What the device sees of the firmware commands

* `FwCall.view`: a call at the doorbell, over the registers as they were; `call_seen`: a call shows this
  or nothing;
* `Ready`: a device whose accesses all succeed; `call_of_ready`: there a call is seen;
* `Sends`, `Full`, `Distinct`; **`carried_iff`**: when the commands carry the arguments.
-/

namespace BmcNvdimm

open BmcLib

variable {sh : Shifts} {addr : UInt8} {cmd : FwCmd} {c c' : FwCall} {s : Fis} {iface iface' : Interface}

/-! ## A call at the doorbell -/

/-- The dword `i` of the input payload. -/
def FwCmd.dword (cmd : FwCmd) (i : ℕ) : UInt32 := dwordOf (slice cmd.inputPayload (4 * i) 4)

/-- A command at the doorbell: the payload if it has one, or what the registers held. -/
def FwCmd.view (cmd : FwCmd) (input : Fin 32 → UInt32) : Seen where
  opcode := cmd.opcode
  subOpcode := cmd.subOpcode
  input i := if cmd.inputPayloadSize = 0 then input i else cmd.dword i

theorem smbusSeen_eq_view (h : cmd.inputPayloadSize = 0 ∨ cmd.inputPayloadSize = 128) :
    cmd.smbusSeen = cmd.view := by
  funext input
  rw [FwCmd.smbusSeen, FwCmd.view]
  congr 1
  funext i
  rcases h with h | h
  · have hinputs : cmd.inputs = 0 := by
      rw [FwCmd.inputs, h]
      rfl
    rw [if_neg (by omega), if_pos h]
  · have hinputs : cmd.inputs = 32 := by
      rw [FwCmd.inputs, h]
      rfl
    have hmin : min 4 (128 - 4 * i.val) = 4 := by omega
    rw [if_pos (by omega), if_neg (by rw [h]; decide), FwCmd.inputDword, h,
      show (128 : UInt32).toNat = 128 from rfl, hmin, FwCmd.dword]

theorem peciSeen_eq_view (h : cmd.inputPayloadSize = 0 ∨ cmd.inputPayloadSize = 128) :
    cmd.indws ≤ 32 ∧ cmd.peciSeen = cmd.view := by
  rcases h with h | h
  · have hindws : cmd.indws = 0 := by
      rw [FwCmd.indws, FwCmd.params, h]
      rfl
    refine ⟨by omega, funext fun input => ?_⟩
    rw [FwCmd.peciSeen, FwCmd.view]
    congr 1
    funext i
    rw [if_neg (by omega), if_pos h]
  · have hindws : cmd.indws = 32 := by
      rw [FwCmd.indws, FwCmd.params, h]
      rfl
    refine ⟨by omega, funext fun input => ?_⟩
    rw [FwCmd.peciSeen, FwCmd.view]
    congr 1
    funext i
    rw [if_pos (by omega), if_neg (by rw [h]; decide)]
    rfl

/-- The record of a call; the activation is written like one without payloads. -/
def FwCall.record (c : FwCall) : FwCmd :=
  c.cmd.getD { FwCmd.zero with opcode := 0x09, subOpcode := 0x03 }

/-- A call at the doorbell, when the input registers were `input` before. -/
def FwCall.view (c : FwCall) (input : Fin 32 → UInt32) : Seen := c.record.view input

/-- The call sends an input payload. -/
def FwCall.Full : FwCall → Prop
  | .updateFirmwareBlock _ size _ => size % firmwareUpdatePacketSize = 0 ∧ size ≠ 0
  | .getErrorLog _ _ _ => True
  | _ => False

/-- **The sizes that are sent.** -/
theorem record_inputPayloadSize (c : FwCall) :
    (c.Full ∧ c.record.inputPayloadSize = 128) ∨ (¬ c.Full ∧ c.record.inputPayloadSize = 0) := by
  cases c with
  | updateFirmwareBlock payload size block =>
    rw [FwCall.Full, FwCall.record, FwCall.cmd]
    split_ifs with h
    · exact .inr ⟨by tauto, rfl⟩
    · exact .inl ⟨by tauto, rfl⟩
  | getErrorLog request outputPayloadSize largeOutputPayloadSize => exact .inl ⟨trivial, rfl⟩
  | _ => exact .inr ⟨id, rfl⟩

theorem record_size (c : FwCall) :
    c.record.inputPayloadSize = 0 ∨ c.record.inputPayloadSize = 128 :=
  (record_inputPayloadSize c).elim (fun h => .inr h.2) fun h => .inl h.2

theorem record_of_cmd (h : c.cmd = some cmd) : c.record = cmd := by rw [FwCall.record, h, Option.getD_some]

theorem view_of_full (h : c.Full) (input input' : Fin 32 → UInt32) : c.view input = c.view input' := by
  have hsize : c.record.inputPayloadSize ≠ 0 := by
    rcases record_inputPayloadSize c with ⟨-, h'⟩ | ⟨h', -⟩
    · rw [h']
      decide
    · exact absurd h h'
  simp only [FwCall.view, FwCmd.view, if_neg hsize]

theorem view_of_not_full (h : ¬ c.Full) (input : Fin 32 → UInt32) :
    c.view input = ⟨c.record.opcode, c.record.subOpcode, input⟩ := by
  rcases record_inputPayloadSize c with ⟨h', -⟩ | ⟨-, hsize⟩
  · exact absurd h' h
  · simp only [FwCall.view, FwCmd.view, if_pos hsize]

theorem isActivation_iff : c.isActivation = true ↔ c = .fwActivation := by
  cases c <;> simp [FwCall.isActivation]

/-! ## What a call shows -/

/-- The call rings the doorbell if no access fails. -/
def Sends (addr : UInt8) : Interface → FwCall → Prop
  | .i2c, c => c.isActivation = true ∨ ∃ cmd, c.cmd = some cmd ∧ verifySmbusCmd cmd = returnSuccess
  | .peci, c => c.isActivation = true ∨ ∃ cmd, c.cmd = some cmd ∧ addr ≠ 0

theorem isCommand_activation : IsCommand activationDword 0x09 0x03 := by
  unfold IsCommand
  decide

/-- A write of the command register as the device sees it. -/
theorem step_activation (m : Mailbox) :
    m.step (.write .command activationDword) =
      ⟨m.input, m.seen ++ [FwCall.fwActivation.view m.input]⟩ := by
  rw [Mailbox.step_command isCommand_activation, view_of_not_full id]
  rfl

/-- **What the device sees of a call**: nothing, or the call. -/
theorem call_seen (sh : Shifts) (addr : UInt8) (s : Fis) (iface : Interface) (c : FwCall) :
    (s.call sh addr iface c).mailbox.seen = s.mailbox.seen ∨
      Sends addr iface c ∧
        (s.call sh addr iface c).mailbox.seen = s.mailbox.seen ++ [c.view s.mailbox.input] := by
  cases iface with
  | i2c =>
    dsimp only [Fis.call]
    rw [fwCallSmbus]
    split_ifs with hact
    · obtain rfl := isActivation_iff.1 hact
      have hreg : smbusRegister smbCmdRegister = .command := by decide
      rw [Device.transcript_call]
      simp only [smbusOps, List.filterMap_cons, List.filterMap_nil, smbusOp, hreg]
      split_ifs
      · exact .inl rfl
      · exact .inr ⟨.inl rfl, congrArg Mailbox.seen (step_activation s.mailbox)⟩
    · cases hcmd : c.cmd with
      | none => exact .inl (by simp [smbusOps])
      | some cmd =>
        rw [FwCall.view, record_of_cmd hcmd, ← smbusSeen_eq_view (record_of_cmd hcmd ▸ record_size c)]
        rcases smbusPassThru_seen s.smbus cmd ptLongTimeoutInterval s.mailbox with h | ⟨hok, h⟩
        · exact .inl h
        · exact .inr ⟨.inr ⟨cmd, hcmd, hok⟩, h⟩
  | peci =>
    dsimp only [Fis.call]
    rw [fwCallPeci]
    split_ifs with hact
    · obtain rfl := isActivation_iff.1 hact
      have hreg : csrRegister mbSmbusCmd = .command := by decide
      rw [Device.transcript_call]
      simp only [csrOps, List.filterMap_cons, List.filterMap_nil, csrOp, hreg]
      split_ifs
      · exact .inl rfl
      · exact .inr ⟨.inl rfl, congrArg Mailbox.seen (step_activation s.mailbox)⟩
    · cases hcmd : c.cmd with
      | none => exact .inl (by simp [csrOps])
      | some cmd =>
        obtain ⟨hsize, hview⟩ := peciSeen_eq_view (record_of_cmd hcmd ▸ record_size c)
        by_cases haddr : addr = 0
        · refine .inl ?_
          dsimp only
          rw [peciPassThru, if_pos haddr, Device.transcript_self]
          rfl
        rw [FwCall.view, record_of_cmd hcmd, ← hview]
        rcases peciPassThru_seen sh s.peci addr cmd hsize s.mailbox with h | h
        · exact .inl h
        · exact .inr ⟨.inr ⟨cmd, hcmd, haddr⟩, h⟩

theorem mem_seenBy {v : Seen} (h : v ∈ s.seenBy sh addr iface c) :
    Sends addr iface c ∧ v = c.view s.mailbox.input := by
  rw [Fis.seenBy] at h
  rcases call_seen sh addr s iface c with heq | ⟨hsends, heq⟩
  · rw [heq, List.drop_length] at h
    simp at h
  · rw [heq, List.drop_left] at h
    exact ⟨hsends, List.mem_singleton.1 h⟩

/-! ## A device that is ready -/

/-- Every access succeeds, and every read shows the mailbox ready. -/
structure Fis.Ready (s : Fis) : Prop where
  smbus : s.smbus.answers = fun _ => ⟨returnSuccess, 0x100000, true⟩
  peci : s.peci.answers = fun _ => ⟨.success, 0, true⟩

theorem mailbox_smbus_of_ready (hs : s.Ready) (h : Sends addr .i2c c) :
    s.mailbox.run (smbusOps (s.smbus.transcript (fwCallSmbus s.smbus c))) =
      ⟨(c.view s.mailbox.input).input, s.mailbox.seen ++ [c.view s.mailbox.input]⟩ := by
  have hans : ∀ i, s.smbus.ahead i = ⟨returnSuccess, 0x100000, true⟩ := by
    intro i
    rw [Device.ahead, hs.smbus]
  have hgood : ∀ i, ¬ IsError (s.smbus.ahead i).code := by
    intro i
    rw [hans i]
    exact not_isError_success
  rw [fwCallSmbus]
  split_ifs with hact
  · obtain rfl := isActivation_iff.1 hact
    have hreg : smbusRegister smbCmdRegister = .command := by decide
    have hok : ¬ (IsError s.smbus.answer.code ∧ s.smbus.answer.landed = false) :=
      fun hc => hgood 0 hc.1
    rw [Device.transcript_call]
    simp only [smbusOps, List.filterMap_cons, List.filterMap_nil, smbusOp, hreg, if_neg hok]
    rw [Mailbox.run_cons, Mailbox.run_nil, step_activation, view_of_not_full id]
  · obtain h | ⟨cmd, hcmd, hok⟩ := h
    · exact absurd h hact
    rw [hcmd, FwCall.view, record_of_cmd hcmd,
      ← smbusSeen_eq_view (record_of_cmd hcmd ▸ record_size c)]
    refine smbusPassThru_run hok (hgood 0) (hgood 1) ?_ (fun i _ => hgood _) (hgood _) _
    rw [hans 1]
    decide

theorem mailbox_peci_of_ready (hs : s.Ready) (h : Sends addr .peci c) :
    s.mailbox.run (csrOps (s.peci.transcript (fwCallPeci sh addr s.peci c))) =
      ⟨(c.view s.mailbox.input).input, s.mailbox.seen ++ [c.view s.mailbox.input]⟩ := by
  have hgood : ∀ i, ¬ (s.peci.ahead i).Failed := by
    intro i
    rw [Device.ahead, hs.peci]
    exact not_not_intro rfl
  rw [fwCallPeci]
  split_ifs with hact
  · obtain rfl := isActivation_iff.1 hact
    have hreg : csrRegister mbSmbusCmd = .command := by decide
    have hok : ¬ (s.peci.answer.Failed ∧ s.peci.answer.landed = false) := fun hc => hgood 0 hc.1
    rw [Device.transcript_call]
    simp only [csrOps, List.filterMap_cons, List.filterMap_nil, csrOp, hreg, if_neg hok]
    rw [Mailbox.run_cons, Mailbox.run_nil, step_activation, view_of_not_full id]
  · obtain h | ⟨cmd, hcmd, haddr⟩ := h
    · exact absurd h hact
    obtain ⟨hsize, hview⟩ := peciSeen_eq_view (record_of_cmd hcmd ▸ record_size c)
    rw [hcmd, FwCall.view, record_of_cmd hcmd, ← hview]
    exact peciPassThru_run haddr hsize ⟨hgood 0, fun i _ => hgood _, hgood _⟩ (hgood _) _

theorem mailbox_of_ready (hs : s.Ready) (h : Sends addr iface c) :
    (s.call sh addr iface c).mailbox =
      ⟨(c.view s.mailbox.input).input, s.mailbox.seen ++ [c.view s.mailbox.input]⟩ := by
  cases iface with
  | i2c => exact mailbox_smbus_of_ready hs h
  | peci => exact mailbox_peci_of_ready hs h

/-- A device stays ready. -/
theorem Fis.Ready.call (hs : s.Ready) (sh : Shifts) (addr : UInt8) (iface : Interface) (c : FwCall) :
    (s.call sh addr iface c).Ready := by
  have hsmbus : (fwCallSmbus s.smbus c).answers = s.smbus.answers := by
    rw [fwCallSmbus]
    split_ifs
    · rfl
    · cases c.cmd with
      | none => rfl
      | some cmd => exact answers_smbusPassThru _ _ _
  have hpeci : (fwCallPeci sh addr s.peci c).answers = s.peci.answers := by
    rw [fwCallPeci]
    split_ifs
    · rfl
    · cases c.cmd with
      | none => rfl
      | some cmd => exact answers_peciPassThru _ _ _ _
  cases iface with
  | i2c => exact ⟨hsmbus.trans hs.smbus, hs.peci⟩
  | peci => exact ⟨hs.smbus, hpeci.trans hs.peci⟩

theorem seenBy_of_ready (hs : s.Ready) (h : Sends addr iface c) :
    s.seenBy sh addr iface c = [c.view s.mailbox.input] := by
  rw [Fis.seenBy, mailbox_of_ready hs h, List.drop_left]

/-- A ready device before the first call. -/
def readyStart : Fis := Fis.start ⟨fun _ => ⟨returnSuccess, 0x100000, true⟩, []⟩ ⟨fun _ => ⟨.success, 0, true⟩, []⟩

theorem ready_readyStart : readyStart.Ready := ⟨rfl, rfl⟩

/-- A request of error logs in which every byte is 1. -/
def logRequest : FwCall := .getErrorLog (fun _ => 1) 0 0

/-- A ready device after this request. -/
def usedStart (sh : Shifts) (addr : UInt8) : Fis := readyStart.call sh addr .i2c logRequest

theorem ready_usedStart : (usedStart sh addr).Ready := ready_readyStart.call sh addr .i2c logRequest

theorem reachable_readyStart : Fis.Reachable sh addr readyStart := .start _ _

theorem reachable_usedStart : Fis.Reachable sh addr (usedStart sh addr) :=
  .call .i2c logRequest reachable_readyStart

theorem input_usedStart (i : Fin 32) : (usedStart sh addr).mailbox.input i = 0x01010101 := by
  have hsends : Sends addr .i2c logRequest := .inr ⟨_, rfl, by decide⟩
  rw [usedStart, mailbox_of_ready ready_readyStart hsends]
  have hsize : logRequest.record.inputPayloadSize ≠ 0 := by decide
  have hones : slice logRequest.record.inputPayload (4 * i) 4 = slice (fun _ => 1) 0 4 := by
    refine List.map_congr_left fun k hk => ?_
    have hlt : 4 * i.val + k < 128 := by
      have := List.mem_range.1 hk
      omega
    show store FwCmd.zero.inputPayload 0 (slice (fun _ => 1) 0 128) (4 * i + k) = 1
    rw [store_zero_apply, slice, List.getElem?_map, List.getElem?_range hlt]
    rfl
  simp only [FwCall.view, FwCmd.view, if_neg hsize, FwCmd.dword, hones]
  decide

/-! ## Payloads -/

/-- The registers hold the payload: no two payloads look the same. -/
theorem payload_inj (m : ℕ → UInt8) {bytes bytes' : List UInt8} (hlen : bytes.length = 128)
    (hlen' : bytes'.length = 128)
    (h : ∀ i < 32, dwordOf (slice (store m 0 bytes) (4 * i) 4) =
      dwordOf (slice (store m 0 bytes') (4 * i) 4)) : bytes = bytes' := by
  refine List.ext_getElem (hlen.trans hlen'.symm) fun k hk hk' => ?_
  have hdword := dwordOf_inj (by simp) (by simp) (h (k / 4) (by omega))
  have hbyte : store m 0 bytes k = store m 0 bytes' k := by
    have hget := congrArg (·[k % 4]?) hdword
    have hmod : k % 4 < 4 := Nat.mod_lt _ (by decide)
    have hk4 : 4 * (k / 4) + k % 4 = k := Nat.div_add_mod k 4
    simpa [slice, List.getElem?_range hmod, hk4] using hget
  simpa [store_zero_apply, hk, hk'] using hbyte

theorem length_updateFirmwarePayload (phase : UpdatePhase) (block : UInt32) {data : List UInt8}
    (h : data.length = 64) : (updateFirmwarePayload phase block data).length = 128 := by
  simp [updateFirmwarePayload, h]

theorem length_blockData (payload : ℕ → UInt8) (block : UInt32) : (blockData payload block).length = 64 :=
  length_slice _ _ _

/-- The payload of a firmware block determines its phase, 14 bits of its number, and its data. -/
theorem updateFirmwarePayload_inj {phase phase' : UpdatePhase} {block block' : UInt32}
    {data data' : List UInt8} (hlen : data.length = data'.length)
    (h : updateFirmwarePayload phase block data = updateFirmwarePayload phase' block' data') :
    phase = phase' ∧ block.toNat % 2 ^ 14 = block'.toNat % 2 ^ 14 ∧ data = data' := by
  have hphase : ∀ phase : UpdatePhase, phase.toNat < 4 := by
    intro phase
    cases phase <;> decide
  have hmod : ∀ n : ℕ, n % 2 ^ 14 < 2 ^ 14 := fun n => Nat.mod_lt _ (by decide)
  have hword : ∀ (phase : UpdatePhase) (n : ℕ), phase.toNat + 4 * (n % 2 ^ 14) < 256 ^ 2 := by
    intro phase n
    have := hphase phase
    have := hmod n
    omega
  simp only [updateFirmwarePayload, List.append_assoc] at h
  obtain ⟨hhead, hrest⟩ := List.append_inj h (by simp)
  obtain ⟨-, hrest⟩ := List.append_inj hrest (by simp)
  obtain ⟨hdata, -⟩ := List.append_inj hrest hlen
  have hnat := leBytes_inj (hword _ _) (hword _ _) hhead
  have h₁ := hphase phase
  have h₂ := hphase phase'
  have hphases : phase.toNat = phase'.toNat := by omega
  refine ⟨?_, by omega, hdata⟩
  cases phase <;> cases phase' <;> first | rfl | exact absurd hphases (by decide)

/-! ## When the arguments are carried -/

/-- What is sent differs: of a firmware block the phase, 14 bits of the number or the data. The page of a
memory health request is not sent. -/
def Distinct : FwCall → FwCall → Prop
  | .getErrorLog _ _ _, .getErrorLog _ _ _ => True
  | .updateFirmwareBlock payload size block, .updateFirmwareBlock payload' size' block' =>
    updatePhase size block ≠ updatePhase size' block' ∨
      block.toNat % 2 ^ 14 ≠ block'.toNat % 2 ^ 14 ∨ blockData payload block ≠ blockData payload' block'
  | _, _ => False

/-- Payloads that are sent are seen. -/
theorem dword_eq_of_view (h : c.Full) (h' : c'.Full) {input input' : Fin 32 → UInt32}
    (heq : c.view input = c'.view input') {i : ℕ} (hi : i < 32) : c.record.dword i = c'.record.dword i := by
  have hsize : ∀ {c : FwCall}, c.Full → c.record.inputPayloadSize ≠ 0 := by
    intro c h
    rcases record_inputPayloadSize c with ⟨-, h'⟩ | ⟨h', -⟩
    · rw [h']
      decide
    · exact absurd h h'
  have hinput := congrFun (congrArg Seen.input heq) ⟨i, hi⟩
  simpa only [FwCall.view, FwCmd.view, if_neg (hsize h), if_neg (hsize h')] using hinput

theorem record_updateFirmwareBlock {payload : ℕ → UInt8} {size block : UInt32}
    (h : FwCall.Full (.updateFirmwareBlock payload size block)) :
    (FwCall.updateFirmwareBlock payload size block).record = { FwCmd.zero with
      opcode := 0x09
      subOpcode := 0x00
      inputPayloadSize := 128
      inputPayload := store FwCmd.zero.inputPayload 0
        (updateFirmwarePayload (updatePhase size block) block (blockData payload block)) } := by
  have hsize : ¬ (size % firmwareUpdatePacketSize ≠ 0 ∨ size = 0) := by
    rintro (hc | hc)
    · exact hc h.1
    · exact h.2 hc
  rw [FwCall.record, FwCall.cmd, if_neg hsize, Option.getD_some]

theorem full_of_sends {payload : ℕ → UInt8} {size block : UInt32}
    (h : Sends addr iface (.updateFirmwareBlock payload size block)) :
    FwCall.Full (.updateFirmwareBlock payload size block) := by
  have hsome : ∀ {p : FwCmd → Prop},
      (∃ cmd, (FwCall.updateFirmwareBlock payload size block).cmd = some cmd ∧ p cmd) →
        size % firmwareUpdatePacketSize = 0 ∧ size ≠ 0 := by
    rintro p ⟨cmd, hcmd, -⟩
    rw [FwCall.cmd] at hcmd
    split_ifs at hcmd with hsize
    exact ⟨not_not.1 fun hc => hsize (.inl hc), fun hc => hsize (.inr hc)⟩
  cases iface with
  | i2c => exact h.elim (fun hact => by cases hact) hsome
  | peci => exact h.elim (fun hact => by cases hact) hsome

/-- Arguments that are sent are told apart. -/
theorem view_ne_of_distinct (hsends : Sends addr iface c) (hsends' : Sends addr iface' c')
    (hdiffer : Differ c c') (h : Distinct c c') (input input' : Fin 32 → UInt32) :
    c.view input ≠ c'.view input' := by
  intro heq
  cases c with
  | getErrorLog request outSize largeSize =>
    cases c' with
    | getErrorLog request' outSize' largeSize' =>
      have hfull : ∀ r o l, FwCall.Full (.getErrorLog r o l) := fun _ _ _ => trivial
      have hdword : ∀ i < 32, (FwCall.getErrorLog request outSize largeSize).record.dword i =
          (FwCall.getErrorLog request' outSize' largeSize').record.dword i :=
        fun i hi => dword_eq_of_view (hfull _ _ _) (hfull _ _ _) heq hi
      exact hdiffer (payload_inj FwCmd.zero.inputPayload (length_slice _ _ _) (length_slice _ _ _) hdword)
    | _ => exact h
  | updateFirmwareBlock payload size block =>
    cases c' with
    | updateFirmwareBlock payload' size' block' =>
      have hfull := full_of_sends hsends
      have hfull' := full_of_sends hsends'
      have hdword : ∀ i < 32, (FwCall.updateFirmwareBlock payload size block).record.dword i =
          (FwCall.updateFirmwareBlock payload' size' block').record.dword i :=
        fun i hi => dword_eq_of_view hfull hfull' heq hi
      rw [record_updateFirmwareBlock hfull, record_updateFirmwareBlock hfull'] at hdword
      have hbytes := payload_inj FwCmd.zero.inputPayload
        (length_updateFirmwarePayload _ _ (length_blockData _ _))
        (length_updateFirmwarePayload _ _ (length_blockData _ _)) hdword
      obtain ⟨hphase, hblock, hdata⟩ := updateFirmwarePayload_inj
        ((length_blockData _ _).trans (length_blockData _ _).symm) hbytes
      rcases h with h | h | h
      · exact h hphase
      · exact h hblock
      · exact h hdata
    | _ => exact h
  | _ => cases c' <;> exact h

/-- Arguments that are not sent are not told apart. -/
theorem view_eq_of_not_distinct (hsends : Sends addr iface c) (hsends' : Sends addr iface' c')
    (hdiffer : Differ c c') (h : ¬ Distinct c c') (input : Fin 32 → UInt32) :
    c.view input = c'.view input := by
  cases c with
  | getErrorLog request outSize largeSize =>
    cases c' with
    | getErrorLog request' outSize' largeSize' => exact absurd trivial h
    | _ => exact hdiffer.elim
  | updateFirmwareBlock payload size block =>
    cases c' with
    | updateFirmwareBlock payload' size' block' =>
      simp only [Distinct, not_or, not_not] at h
      obtain ⟨hphase, hblock, hdata⟩ := h
      rw [FwCall.view, FwCall.view, record_updateFirmwareBlock (full_of_sends hsends),
        record_updateFirmwareBlock (full_of_sends hsends'), updateFirmwarePayload, updateFirmwarePayload,
        hphase, hblock, hdata]
    | _ => exact hdiffer.elim
  | getMemoryHealth page =>
    cases c' with
    | getMemoryHealth page' => rw [view_of_not_full id, view_of_not_full id]; rfl
    | _ => exact hdiffer.elim
  | _ => cases c' <;> exact hdiffer.elim

/-- **When the commands carry the arguments.** A call must send an input payload, or the registers show
what earlier calls have left there; and what distinguishes two calls must be sent. -/
theorem carried_iff (sh : Shifts) (addr : UInt8) (iface iface' : Interface) (c c' : FwCall) :
    Carried sh addr iface iface' c c' ↔
      (Sends addr iface c → Sends addr iface' c' →
        (c = c' → c.Full) ∧ (Differ c c' → Distinct c c')) := by
  constructor
  · intro h hsends hsends'
    constructor
    · rintro rfl
      by_contra hfull
      have heq := (h readyStart (usedStart sh addr) reachable_readyStart reachable_usedStart
        _ (by rw [seenBy_of_ready ready_readyStart hsends]; exact List.mem_singleton_self _)
        _ (by rw [seenBy_of_ready ready_usedStart hsends']; exact List.mem_singleton_self _)).1 rfl
      rw [view_of_not_full hfull, view_of_not_full hfull] at heq
      have hinput : readyStart.mailbox.input = (usedStart sh addr).mailbox.input :=
        (Seen.mk.inj heq).2.2
      have hne : (0 : UInt32) ≠ 0x01010101 := by decide
      exact hne ((congrFun hinput 0).trans (input_usedStart 0))
    · intro hdiffer
      by_contra hdistinct
      refine (h readyStart readyStart reachable_readyStart reachable_readyStart
        _ (by rw [seenBy_of_ready ready_readyStart hsends]; exact List.mem_singleton_self _)
        _ (by rw [seenBy_of_ready ready_readyStart hsends']; exact List.mem_singleton_self _)).2 hdiffer ?_
      exact view_eq_of_not_distinct hsends hsends' hdiffer hdistinct _
  · intro h s s' _ _ v hv v' hv'
    obtain ⟨hsends, rfl⟩ := mem_seenBy hv
    obtain ⟨hsends', rfl⟩ := mem_seenBy hv'
    obtain ⟨hfull, hdistinct⟩ := h hsends hsends'
    refine ⟨?_, fun hdiffer => view_ne_of_distinct hsends hsends' hdiffer (hdistinct hdiffer) _ _⟩
    rintro rfl
    exact view_of_full (hfull rfl) _ _

/-- Requests of two pages of the memory health look the same. -/
theorem not_carried_memoryHealth : ¬ ∀ (sh : Shifts) (addr : UInt8) (iface iface' : Interface)
    (c c' : FwCall), Carried sh addr iface iface' c c' := by
  intro h
  have hsends : ∀ page, Sends 0x30 .i2c (.getMemoryHealth page) := fun page => .inr ⟨_, rfl, rfl⟩
  have hpages : (0 : UInt8) ≠ 1 := by decide
  refine (h .mod32 0x30 .i2c .i2c (.getMemoryHealth 0) (.getMemoryHealth 1) readyStart readyStart
    reachable_readyStart reachable_readyStart
    _ (by rw [seenBy_of_ready ready_readyStart (hsends 0)]; exact List.mem_singleton_self _)
    _ (by rw [seenBy_of_ready ready_readyStart (hsends 1)]; exact List.mem_singleton_self _)).2
    hpages ?_
  rw [view_of_not_full id, view_of_not_full id]
  rfl

end BmcNvdimm
