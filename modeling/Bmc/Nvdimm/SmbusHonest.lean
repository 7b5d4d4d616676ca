import Bmc.Nvdimm.Smbus
import Bmc.Nvdimm.Mailbox

/-!
# What the success of an SMBus transfer says

Whether `smbus_pass_thru` returns success only after the mailbox was ready, everything was written, the
doorbell was seen clear, and the command was complete with status zero.

* `Passes`: what the function looks at; **`smbusPassThru_success_iff`**: it returns success exactly then;
* `Honest`: what success is to mean; **`smbusPassThru_honest_iff`**: when it means that.
-/

namespace BmcNvdimm

open BmcLib

/-- **The command as it is written.** -/
theorem isCommand_smbusCommand (cmd : FwCmd) :
    IsCommand (smbusCommand cmd) cmd.opcode cmd.subOpcode := by
  intro i hi
  have hnat : (smbusCommand cmd).toNat =
      ((cmd.opcode.toNat <<< 32 % 2 ^ 64 ||| (cmd.subOpcode.toNat <<< 40 % 2 ^ 64 ||| 2 ^ 48)) >>> 32) %
        2 ^ 32 := by
    simp [smbusCommand]
  have h32 : i < 32 := by omega
  have h64 : 32 + i < 64 := by omega
  have hsub : 32 + i - 40 = i - 8 := by omega
  have h40 : 40 ≤ 32 + i ↔ 8 ≤ i := by omega
  have h48 : 48 = 32 + i ↔ i = 16 := by omega
  rw [hnat]
  simp only [Nat.testBit_mod_two_pow, Nat.testBit_shiftRight, Nat.testBit_or, Nat.testBit_shiftLeft,
    Nat.testBit_two_pow, h32, h64, hsub, ge_iff_le, h40, h48, Nat.le_add_right, Nat.add_sub_cancel_left,
    decide_true, Bool.true_and]

variable {bus : Bus} {cmd : FwCmd} {timeout : UInt64} {k : ℕ}

/-! ## What the function looks at -/

/-- The number of input registers that the command is sent in. -/
def FwCmd.inputs (cmd : FwCmd) : ℕ := segments cmd.inputPayloadSize.toNat

/-- The number of output registers that the answer is read from. -/
def FwCmd.outputs (cmd : FwCmd) : ℕ := segments cmd.outputPayloadSize.toNat

/-- **What lets a transfer return success** from the command on, after `k` reads of a busy doorbell. The
answers come in the order of the accesses: one for the command, those of the doorbell, one for the status
and one for each output register. -/
structure RingPasses (answer : ℕ → Answer) (cmd : FwCmd) (k : ℕ) : Prop where
  polled : StopsAt (fun j => answer (1 + j)) k
  read : ¬ IsError (answer (2 + k)).code
  fwStatus : statusByte (answer (2 + k)).value = 0
  outputs : ∀ i < cmd.outputs, ¬ IsError (answer (3 + k + i)).code
  last : (answer (2 + k + cmd.outputs)).code = returnSuccess
  complete : cmd.outputs = 0 → mbComplete (answer (2 + k)).value = true

/-- The answers that come after those for the boot status and for the input registers. -/
def afterInputs (bus : Bus) (cmd : FwCmd) (j : ℕ) : Answer := bus.ahead (2 + cmd.inputs + j)

/-- **What lets a transfer return success.** -/
structure Passes (bus : Bus) (cmd : FwCmd) (k : ℕ) : Prop where
  verified : verifySmbusCmd cmd = returnSuccess
  high : ¬ IsError (bus.ahead 0).code
  low : ¬ IsError (bus.ahead 1).code
  ready : mailboxReady (bus.ahead 1).value = true
  inputs : ∀ i < cmd.inputs, ¬ IsError (bus.ahead (2 + i)).code
  ring : RingPasses (afterInputs bus cmd) cmd k

theorem outputs_pos : 0 < cmd.outputs ↔ 0 < cmd.outputPayloadSize := by
  rw [FwCmd.outputs, segments_pos, UInt32.lt_iff_toNat_lt]
  rfl

/-! ## The end of a transfer -/

theorem collect_success_iff (code : ReturnStatus) :
    (smbusCollect bus cmd code).code = returnSuccess ↔
      (∀ i < cmd.outputs, ¬ IsError (bus.ahead i).code) ∧
        (if cmd.outputs = 0 then code else (bus.ahead (cmd.outputs - 1)).code) = returnSuccess := by
  rcases Nat.eq_zero_or_pos cmd.outputs with h0 | hpos
  · have hsize : ¬ 0 < cmd.outputPayloadSize := by rw [← outputs_pos, h0]; exact lt_irrefl 0
    rw [smbusCollect, if_neg hsize, h0]
    simp
  · have hsize := outputs_pos.1 hpos
    rw [smbusCollect, if_pos hsize, if_neg hpos.ne']
    by_cases hgood : ∀ i < cmd.outputs, ¬ IsError (bus.ahead i).code
    · have hn : 0 < cmd.outputPayloadSize.toNat := segments_pos.1 hpos
      have hcode := read_code_of_good cmd.outPayload hgood hn
      exact ⟨fun h => ⟨hgood, hcode.symm.trans h⟩, fun h => hcode.trans h.2⟩
    · refine iff_of_false (fun h => ?_) fun h => hgood h.1
      push Not at hgood
      exact ne_success_of_isError ((isError_read_iff cmd.outPayload).2 hgood) h

theorem collect_of_good {code : ReturnStatus}
    (h : ∀ i < cmd.outputs, ¬ IsError (bus.ahead i).code) :
    (smbusCollect bus cmd code).bus = bus.calls (outputReads cmd.outputPayloadSize.toNat) ∧
      ∀ i, (smbusCollect bus cmd code).cmd.outPayload i =
        if i < cmd.outputPayloadSize.toNat then payloadByte (fun j => (bus.ahead j).value) i
        else cmd.outPayload i := by
  by_cases hsize : 0 < cmd.outputPayloadSize
  · rw [smbusCollect, if_pos hsize]
    exact ⟨read_bus_of_good cmd.outPayload h, read_payload_of_good cmd.outPayload h⟩
  · have hn : cmd.outputPayloadSize.toNat = 0 := by
      rw [UInt32.lt_iff_toNat_lt] at hsize
      exact Nat.eq_zero_of_not_pos hsize
    rw [smbusCollect, if_neg hsize, hn]
    exact ⟨by simp [outputReads], fun i => by simp⟩

/-! ## From the command on -/

/-- The accesses from the command to the status. -/
def ringAccesses (cmd : FwCmd) (k : ℕ) : List Access :=
  .write smbCmdRegister (smbusCommand cmd) :: List.replicate (k + 1) (.read smbCmdRegister) ++
    [.read smbStatusRegister]

@[simp] theorem length_ringAccesses : (ringAccesses cmd k).length = 3 + k := by
  simp only [ringAccesses, List.length_append, List.length_cons, List.length_nil,
    List.length_replicate]
  omega

theorem poll_of_stop (hk : k < timeout.toNat / smbusPtDelayPeriodInUs) (h : StopsAt bus.ahead k) :
    pollSmbusCmdCompletion bus timeout =
      ((bus.ahead (k + 1)).code, (bus.ahead (k + 1)).value,
        bus.calls (List.replicate (k + 1) (.read smbCmdRegister) ++ [.read smbStatusRegister])) := by
  have hne : ¬ timeout.toNat / smbusPtDelayPeriodInUs - k = 0 := by omega
  rw [pollSmbusCmdCompletion, pollDoorbell_of_stop hk h]
  dsimp only
  rw [if_neg hne, ← Device.ahead_zero, Device.ahead_calls, Device.call_eq_calls, Device.calls_calls,
    List.length_replicate, Nat.add_zero]

theorem poll_of_not_stop (h : (pollDoorbell bus (timeout.toNat / smbusPtDelayPeriodInUs)).1 = 0) :
    (pollSmbusCmdCompletion bus timeout).1 = returnTimeout := by
  rw [pollSmbusCmdCompletion]
  exact if_pos h

theorem smbusRing_of_stop (hk : k < timeout.toNat / smbusPtDelayPeriodInUs)
    (h : StopsAt (fun j => bus.ahead (1 + j)) k) (hread : ¬ IsError (bus.ahead (2 + k)).code)
    (hstatus : statusByte (bus.ahead (2 + k)).value = 0) :
    smbusRing bus cmd timeout =
      smbusCollect (bus.calls (ringAccesses cmd k)) { cmd with status := 0 }
        (if mbComplete (bus.ahead (2 + k)).value then (bus.ahead (2 + k)).code
          else returnDeviceError) := by
  have hstop : StopsAt (bus.call (.write smbCmdRegister (smbusCommand cmd))).ahead k := by
    simpa only [StopsAt, Device.ahead_call, Nat.add_comm] using h
  have hpos : k + 1 + 1 = 2 + k := by omega
  rw [smbusRing]
  dsimp only
  rw [poll_of_stop hk hstop, Device.ahead_call, hpos, Device.call_eq_calls, Device.calls_calls]
  dsimp only
  rw [if_neg hread, hstatus, if_neg (not_not_intro rfl)]
  rfl

/-- Success needs a doorbell read that stops the loop in time, and then a good status. -/
theorem ring_polled (h : (smbusRing bus cmd timeout).code = returnSuccess) :
    ∃ k < timeout.toNat / smbusPtDelayPeriodInUs, StopsAt (fun j => bus.ahead (1 + j)) k ∧
      ¬ IsError (bus.ahead (2 + k)).code ∧ statusByte (bus.ahead (2 + k)).value = 0 := by
  rw [smbusRing] at h
  dsimp only at h
  rcases pollDoorbell_cases (bus.call (.write smbCmdRegister (smbusCommand cmd)))
    (timeout.toNat / smbusPtDelayPeriodInUs) with h0 | ⟨k, hk, hstop⟩
  · rw [poll_of_not_stop h0, if_pos isError_timeout] at h
    exact absurd h (ne_success_of_isError isError_timeout)
  have hpolled : StopsAt (fun j => bus.ahead (1 + j)) k := by
    simpa only [StopsAt, Device.ahead_call, Nat.add_comm] using hstop
  have hpos : k + 1 + 1 = 2 + k := by omega
  rw [poll_of_stop hk hstop, Device.ahead_call, hpos] at h
  dsimp only at h
  by_cases herr : IsError (bus.ahead (2 + k)).code
  · rw [if_pos herr] at h
    exact absurd h (ne_success_of_isError herr)
  by_cases hstatus : statusByte (bus.ahead (2 + k)).value = 0
  · exact ⟨k, hk, hpolled, herr, hstatus⟩
  · rw [if_neg herr, if_pos hstatus] at h
    exact absurd h (ne_success_of_isError isError_deviceError)

theorem ring_success_iff :
    (smbusRing bus cmd timeout).code = returnSuccess ↔
      ∃ k < timeout.toNat / smbusPtDelayPeriodInUs, RingPasses bus.ahead cmd k := by
  constructor
  · intro h
    obtain ⟨k, hk, hpolled, hread, hstatus⟩ := ring_polled h
    rw [smbusRing_of_stop hk hpolled hread hstatus, collect_success_iff] at h
    obtain ⟨hout, hlast⟩ := h
    refine ⟨k, hk, hpolled, hread, hstatus, fun i hi => ?_, ?_, fun h0 => ?_⟩
    · simpa [Nat.add_assoc] using hout i hi
    · split_ifs at hlast with h0 hc
      · have h0' : cmd.outputs = 0 := h0
        rwa [h0']
      · exact absurd hlast (by decide)
      · have hpos' : 3 + k + (cmd.outputs - 1) = 2 + k + cmd.outputs := by
          have : 0 < cmd.outputs := Nat.pos_of_ne_zero h0
          omega
        rw [Device.ahead_calls, length_ringAccesses] at hlast
        rwa [← hpos']
    · have h0' : ({ cmd with status := 0 } : FwCmd).outputs = 0 := h0
      rw [if_pos h0'] at hlast
      split_ifs at hlast with hc
      · exact hc
      · exact absurd hlast (by decide)
  · rintro ⟨k, hk, h⟩
    rw [smbusRing_of_stop hk h.polled h.read h.fwStatus, collect_success_iff]
    refine ⟨fun i hi => ?_, ?_⟩
    · rw [Device.ahead_calls, length_ringAccesses]
      exact h.outputs i hi
    · have hlast := h.last
      split_ifs with h0 hc
      · have h0' : cmd.outputs = 0 := h0
        rwa [h0'] at hlast
      · exact absurd (h.complete h0) hc
      · have hpos : 3 + k + (cmd.outputs - 1) = 2 + k + cmd.outputs := by
          have : 0 < cmd.outputs := Nat.pos_of_ne_zero h0
          omega
        rw [Device.ahead_calls, length_ringAccesses]
        exact hpos ▸ hlast

/-! ## The whole transfer -/

/-- The accesses before the command. -/
def readyAccesses (cmd : FwCmd) : List Access :=
  [.read smbBootStatusRegisterH, .read smbBootStatusRegister] ++
    inputWrites cmd.inputPayload cmd.inputPayloadSize.toNat

theorem length_readyAccesses : (readyAccesses cmd).length = 2 + cmd.inputs := by
  simp only [readyAccesses, List.length_append, List.length_cons, List.length_nil,
    length_inputWrites, FwCmd.inputs]

theorem ahead_readyAccesses : (bus.calls (readyAccesses cmd)).ahead = afterInputs bus cmd := by
  funext j
  rw [Device.ahead_calls, length_readyAccesses]
  rfl

theorem inputs_pos : 0 < cmd.inputs ↔ 0 < cmd.inputPayloadSize := by
  rw [FwCmd.inputs, segments_pos, UInt32.lt_iff_toNat_lt]
  rfl

theorem smbusGetBSR_of_good (hhigh : ¬ IsError (bus.ahead 0).code)
    (hlow : ¬ IsError (bus.ahead 1).code) :
    smbusGetBSR bus = ((bus.ahead 1).code, (bus.ahead 1).value,
      bus.calls [.read smbBootStatusRegisterH, .read smbBootStatusRegister]) := by
  rw [Device.ahead_zero] at hhigh
  have h1 : (bus.call (.read smbBootStatusRegisterH)).answer = bus.ahead 1 :=
    Device.ahead_call bus _ 0
  rw [smbusGetBSR]
  dsimp only
  rw [if_neg hhigh, h1, if_neg hlow, Device.call_eq_calls, Device.call_eq_calls, Device.calls_calls]
  rfl

theorem smbusPassThru_of_ready (hverified : verifySmbusCmd cmd = returnSuccess)
    (hhigh : ¬ IsError (bus.ahead 0).code) (hlow : ¬ IsError (bus.ahead 1).code)
    (hready : mailboxReady (bus.ahead 1).value = true)
    (hinputs : ∀ i < cmd.inputs, ¬ IsError (bus.ahead (2 + i)).code) :
    smbusPassThru bus cmd timeout = smbusRing (bus.calls (readyAccesses cmd)) cmd timeout := by
  rw [smbusPassThru, if_neg (not_not_intro hverified), smbusGetBSR_of_good hhigh hlow]
  dsimp only
  rw [if_neg hlow, if_neg (by rw [hready]; decide)]
  by_cases hsize : 0 < cmd.inputPayloadSize
  · have hgood : ∀ i < segments cmd.inputPayloadSize.toNat,
        ¬ IsError ((bus.calls [.read smbBootStatusRegisterH, .read smbBootStatusRegister]).ahead i).code := by
      intro i hi
      rw [Device.ahead_calls]
      exact hinputs i hi
    have hwrite : ¬ IsError (writeToSmbusInputMailbox
        (bus.calls [.read smbBootStatusRegisterH, .read smbBootStatusRegister]) cmd.inputPayload
        cmd.inputPayloadSize.toNat).1 := by
      rw [isError_write_iff]
      rintro ⟨i, hi, herr⟩
      exact hgood i hi herr
    rw [if_pos hsize, if_neg hwrite, write_of_good hgood, Device.calls_calls]
    rfl
  · rw [if_neg hsize, if_neg hlow]
    have hzero : cmd.inputPayloadSize.toNat = 0 := by
      rw [UInt32.lt_iff_toNat_lt] at hsize
      exact Nat.eq_zero_of_not_pos hsize
    rw [readyAccesses, hzero]
    rfl

/-- Success needs an accepted command, a ready mailbox and written inputs. -/
theorem passThru_ready (h : (smbusPassThru bus cmd timeout).code = returnSuccess) :
    verifySmbusCmd cmd = returnSuccess ∧ ¬ IsError (bus.ahead 0).code ∧
      ¬ IsError (bus.ahead 1).code ∧ mailboxReady (bus.ahead 1).value = true ∧
      ∀ i < cmd.inputs, ¬ IsError (bus.ahead (2 + i)).code := by
  have h1 : (bus.call (.read smbBootStatusRegisterH)).answer = bus.ahead 1 :=
    Device.ahead_call bus _ 0
  by_cases hverified : verifySmbusCmd cmd = returnSuccess
  swap
  · rw [smbusPassThru, if_pos hverified] at h
    exact absurd h (ne_success_of_isError isError_invalidParameter)
  rw [smbusPassThru, if_neg (not_not_intro hverified)] at h
  by_cases hhigh : IsError (bus.ahead 0).code
  · have hhigh' : IsError bus.answer.code := hhigh
    rw [smbusGetBSR] at h
    dsimp only at h
    rw [if_pos hhigh', if_pos hhigh'] at h
    exact absurd h (ne_success_of_isError hhigh')
  by_cases hlow : IsError (bus.ahead 1).code
  · have hhigh' : ¬ IsError bus.answer.code := hhigh
    rw [smbusGetBSR] at h
    dsimp only at h
    rw [if_neg hhigh', h1, if_pos hlow, if_pos hlow] at h
    exact absurd h (ne_success_of_isError hlow)
  rw [smbusGetBSR_of_good hhigh hlow] at h
  dsimp only at h
  rw [if_neg hlow] at h
  by_cases hready : mailboxReady (bus.ahead 1).value = true
  swap
  · rw [if_pos (Bool.not_eq_true _ ▸ hready)] at h
    exact absurd h (ne_success_of_isError isError_deviceError)
  refine ⟨hverified, hhigh, hlow, hready, fun i hi herr => ?_⟩
  have hwrite : IsError (writeToSmbusInputMailbox
      (bus.calls [.read smbBootStatusRegisterH, .read smbBootStatusRegister]) cmd.inputPayload
      cmd.inputPayloadSize.toNat).1 := by
    rw [isError_write_iff]
    exact ⟨i, hi, by rwa [Device.ahead_calls]⟩
  have hsize := inputs_pos.1 (Nat.zero_lt_of_lt hi)
  rw [if_neg (by rw [hready]; decide), if_pos hsize, if_pos hwrite] at h
  exact absurd h (ne_success_of_isError hwrite)

/-- **When a transfer returns success.** -/
theorem smbusPassThru_success_iff :
    (smbusPassThru bus cmd timeout).code = returnSuccess ↔
      ∃ k < timeout.toNat / smbusPtDelayPeriodInUs, Passes bus cmd k := by
  constructor
  · intro h
    obtain ⟨hverified, hhigh, hlow, hready, hinputs⟩ := passThru_ready h
    rw [smbusPassThru_of_ready hverified hhigh hlow hready hinputs, ring_success_iff] at h
    obtain ⟨k, hk, hring⟩ := h
    rw [ahead_readyAccesses] at hring
    exact ⟨k, hk, hverified, hhigh, hlow, hready, hinputs, hring⟩
  · rintro ⟨k, hk, h⟩
    rw [smbusPassThru_of_ready h.verified h.high h.low h.ready h.inputs, ring_success_iff]
    exact ⟨k, hk, by rw [ahead_readyAccesses]; exact h.ring⟩

/-! ## What success is to mean -/

/-- The accesses of a transfer with `k` reads of a busy doorbell. -/
def smbusAccesses (cmd : FwCmd) (k : ℕ) : List Access :=
  readyAccesses cmd ++ ringAccesses cmd k ++ outputReads cmd.outputPayloadSize.toNat

theorem length_smbusAccesses :
    (smbusAccesses cmd k).length = 5 + cmd.inputs + k + cmd.outputs := by
  rw [smbusAccesses, List.length_append, List.length_append, length_readyAccesses,
    length_ringAccesses, length_outputReads, FwCmd.outputs]
  omega

/-- **An honest success** after `k` reads of a busy doorbell: the mailbox was ready, all inputs and the
command were written, a doorbell read that succeeded showed it clear, the status read afterwards said
complete without an error, and the output payload is what the output registers held. -/
structure Honest (bus : Bus) (cmd : FwCmd) (k : ℕ) (r : PassThru) : Prop where
  accesses : r.bus = bus.calls (smbusAccesses cmd k)
  high : ¬ IsError (bus.ahead 0).code
  low : ¬ IsError (bus.ahead 1).code
  ready : mailboxReady (bus.ahead 1).value = true
  inputs : ∀ i < cmd.inputs, ¬ IsError (bus.ahead (2 + i)).code
  rung : ¬ IsError (afterInputs bus cmd 0).code
  cleared : ¬ IsError (afterInputs bus cmd (1 + k)).code
  clear : doorbell (afterInputs bus cmd (1 + k)).value = false
  read : ¬ IsError (afterInputs bus cmd (2 + k)).code
  complete : mbComplete (afterInputs bus cmd (2 + k)).value = true
  fwStatus : statusByte (afterInputs bus cmd (2 + k)).value = 0
  outputs : ∀ i < cmd.outputs, ¬ IsError (afterInputs bus cmd (3 + k + i)).code
  payload : ∀ i, r.cmd.outPayload i =
    if i < cmd.outputPayloadSize.toNat then
      payloadByte (fun j => (afterInputs bus cmd (3 + k + j)).value) i
    else cmd.outPayload i

theorem smbusPassThru_of_passes (hk : k < timeout.toNat / smbusPtDelayPeriodInUs)
    (h : Passes bus cmd k) :
    (smbusPassThru bus cmd timeout).bus = bus.calls (smbusAccesses cmd k) ∧
      ∀ i, (smbusPassThru bus cmd timeout).cmd.outPayload i =
        if i < cmd.outputPayloadSize.toNat then
          payloadByte (fun j => (afterInputs bus cmd (3 + k + j)).value) i
        else cmd.outPayload i := by
  have hring := h.ring
  rw [← ahead_readyAccesses] at hring ⊢
  rw [smbusPassThru_of_ready h.verified h.high h.low h.ready h.inputs,
    smbusRing_of_stop hk hring.polled hring.read hring.fwStatus]
  have hgood : ∀ i < ({ cmd with status := 0 } : FwCmd).outputs,
      ¬ IsError (((bus.calls (readyAccesses cmd)).calls (ringAccesses cmd k)).ahead i).code := by
    intro i hi
    rw [Device.ahead_calls _ (ringAccesses cmd k), length_ringAccesses]
    exact hring.outputs i hi
  obtain ⟨hbus, hpayload⟩ := collect_of_good hgood
  constructor
  · rw [hbus, Device.calls_calls, Device.calls_calls, smbusAccesses, List.append_assoc]
  · intro i
    rw [hpayload]
    simp only [Device.ahead_calls _ (ringAccesses cmd k), length_ringAccesses]

/-- The doorbell read that ends the polling is no error and the status says complete. -/
theorem honest_of_passes (hk : k < timeout.toNat / smbusPtDelayPeriodInUs) (h : Passes bus cmd k)
    (hrung : ¬ IsError (afterInputs bus cmd 0).code)
    (hcleared : ¬ IsError (afterInputs bus cmd (1 + k)).code)
    (hcomplete : mbComplete (afterInputs bus cmd (2 + k)).value = true) :
    Honest bus cmd k (smbusPassThru bus cmd timeout) where
  accesses := (smbusPassThru_of_passes hk h).1
  high := h.high
  low := h.low
  ready := h.ready
  inputs := h.inputs
  rung := hrung
  cleared := hcleared
  clear := h.ring.polled.2.resolve_left hcleared
  read := h.ring.read
  complete := hcomplete
  fwStatus := h.ring.fwStatus
  outputs := h.ring.outputs
  payload := (smbusPassThru_of_passes hk h).2

/-- **Honest success.** Success means what it says if and only if, whenever everything that the function
looks at is good, the write of the command and the last read of the doorbell did not fail and the status
said complete. -/
theorem smbusPassThru_honest_iff (bus : Bus) (cmd : FwCmd) (timeout : UInt64) :
    ((smbusPassThru bus cmd timeout).code = returnSuccess →
        ∃ k < timeout.toNat / smbusPtDelayPeriodInUs,
          Honest bus cmd k (smbusPassThru bus cmd timeout)) ↔
      ∀ k < timeout.toNat / smbusPtDelayPeriodInUs, Passes bus cmd k →
        ¬ IsError (afterInputs bus cmd 0).code ∧ ¬ IsError (afterInputs bus cmd (1 + k)).code ∧
          mbComplete (afterInputs bus cmd (2 + k)).value = true := by
  constructor
  · intro h k hk hpass
    obtain ⟨k', -, hhonest⟩ := h (smbusPassThru_success_iff.2 ⟨k, hk, hpass⟩)
    -- the number of accesses tells how often the doorbell was read
    have hlog := Device.calls_injective bus
      ((smbusPassThru_of_passes hk hpass).1.symm.trans hhonest.accesses)
    have hlen := congrArg List.length hlog
    rw [length_smbusAccesses, length_smbusAccesses] at hlen
    obtain rfl : k = k' := by omega
    exact ⟨hhonest.rung, hhonest.cleared, hhonest.complete⟩
  · intro h hsuccess
    obtain ⟨k, hk, hpass⟩ := smbusPassThru_success_iff.1 hsuccess
    obtain ⟨hrung, hcleared, hcomplete⟩ := h k hk hpass
    exact ⟨k, hk, honest_of_passes hk hpass hrung hcleared hcomplete⟩

/-- A device that fails the write of the command and then answers as if it had been executed. -/
def deafBus : Bus where
  answers
    | 1 => ⟨returnSuccess, 0x100000, true⟩
    | 2 => ⟨returnDeviceError, 0, false⟩
    | 4 => ⟨returnSuccess, 1, true⟩
    | _ => ⟨returnSuccess, 0, true⟩
  log := []

/-- A command without payloads. -/
def identifyCmd : FwCmd := { FwCmd.zero with opcode := 1 }

/-- Success although the command was never written. -/
theorem not_honest_deafBus : ¬ ∀ (bus : Bus) (cmd : FwCmd) (timeout : UInt64),
    verifySmbusCmd cmd = returnSuccess → (smbusPassThru bus cmd timeout).code = returnSuccess →
      ∃ k < timeout.toNat / smbusPtDelayPeriodInUs,
        Honest bus cmd k (smbusPassThru bus cmd timeout) := by
  intro h
  obtain ⟨k, -, hk⟩ := h deafBus identifyCmd 100 (by decide) (by decide)
  exact hk.rung (by decide)

end BmcNvdimm
