import Bmc.Nvdimm.Fw

/-!
# The SMBus mailbox

`smbus_direct.c`: a command is sent through the mailbox registers that the bus reaches.

* `verifySmbusCmd`, `smbusGetBSR`, `writeToSmbusInputMailbox`, `pollSmbusCmdCompletion`,
  `readFromSmbusOutputMailbox`: the steps; `smbusPassThru`: the whole transfer;
* `isError_write_iff`, `isError_read_iff`, `read_payload_of_good`: the loops over the payload registers;
* `pollDoorbell_of_stop`, `pollDoorbell_cases`: the polling loop.
-/

namespace BmcNvdimm

open BmcLib

/-! ## Registers -/

/-- `SMB_BOOT_STATUS_REGISTER`. -/
abbrev smbBootStatusRegister : UInt32 := 0xC8000000

/-- `SMB_BOOT_STATUS_REGISER_H`. -/
abbrev smbBootStatusRegisterH : UInt32 := 0xC8000004

/-- `SMB_CMD_REGISTER`. -/
abbrev smbCmdRegister : UInt32 := 0xC8000804

/-- `SMB_STATUS_REGISTER`. -/
abbrev smbStatusRegister : UInt32 := 0xC8000898

/-- The input register of a segment, from `SMB_INPUT_PAYLOAD_REGISTER_BASE` on. -/
def smbInputRegister (index : ℕ) : UInt32 := UInt32.ofNat (0xC8000818 + 4 * index)

/-- The output register of a segment, from `SMB_OUTPAYLOAD_REGISTER_BASE` on. -/
def smbOutputRegister (index : ℕ) : UInt32 := UInt32.ofNat (0xC80008A0 + 4 * index)

/-- `PtMax`. -/
abbrev ptMax : UInt8 := 0xF2

/-- `SMBUS_PT_DELAY_PERIOD_IN_US`. -/
abbrev smbusPtDelayPeriodInUs : ℕ := 100

/-- `MB_COMPLETE`. -/
def mbComplete (status : UInt32) : Bool := status.toNat.testBit 0

/-- The status byte of the status register. -/
def statusByte (status : UInt32) : UInt8 := UInt8.ofNat (status.toNat / 256)

/-- `MBR` in the lower half of the boot status register. -/
def mailboxReady (bsrL : UInt32) : Bool := bsrL.toNat.testBit 20

/-! ## Steps -/

/-- `verify_smbus_cmd`. -/
def verifySmbusCmd (cmd : FwCmd) : ReturnStatus :=
  if inPayloadSize < cmd.inputPayloadSize.toNat then returnInvalidParameter
  else if outPayloadSize < cmd.outputPayloadSize.toNat then returnInvalidParameter
  else if 0 < cmd.largeInputPayloadSize then returnInvalidParameter
  else if 0 < cmd.largeOutputPayloadSize then returnInvalidParameter
  else if ptMax < cmd.opcode then returnInvalidParameter
  else returnSuccess

/-- `smbus_get_BSR`: the upper half is read first. The result is the code and the lower half, which
holds the bit that is tested. -/
def smbusGetBSR (bus : Bus) : ReturnStatus × UInt32 × Bus :=
  let high := bus.answer
  let bus := bus.call (.read smbBootStatusRegisterH)
  if IsError high.code then (high.code, 0, bus)
  else
    let low := bus.answer
    let bus := bus.call (.read smbBootStatusRegister)
    if IsError low.code then (low.code, 0, bus) else (low.code, low.value, bus)

/-- The return code of a loop over accesses: that of the last one. -/
def lastCode (as : List Answer) : ReturnStatus := (as.getLast?.map Answer.code).getD returnSuccess

/-- The writes of `write_to_smbus_input_mailbox`: the full segments, and what remains. -/
def inputWrites (buffer : ℕ → UInt8) (numOfBytes : ℕ) : List Access :=
  ((List.range (numOfBytes / 4)).map fun index =>
    .write (smbInputRegister index) (dwordOf (slice buffer (4 * index) 4))) ++
  if 0 < numOfBytes % 4 then
    [.write (smbInputRegister (numOfBytes / 4))
      (dwordOf (slice buffer (4 * (numOfBytes / 4)) (numOfBytes % 4)))]
  else []

/-- `write_to_smbus_input_mailbox`. -/
def writeToSmbusInputMailbox (bus : Bus) (buffer : ℕ → UInt8) (numOfBytes : ℕ) : ReturnStatus × Bus :=
  let r := bus.callUntil (IsError ·.code) (inputWrites buffer numOfBytes)
  (lastCode r.1, r.2)

/-- The reads of `read_from_smbus_output_mailbox`: the full segments, and what remains. -/
def outputReads (numOfBytes : ℕ) : List Access :=
  ((List.range (numOfBytes / 4)).map fun index => .read (smbOutputRegister index)) ++
  if 0 < numOfBytes % 4 then [.read (smbOutputRegister (numOfBytes / 4))] else []

/-- The `memcpy`s of `read_from_smbus_output_mailbox`, from segment `index` on: one for each answer that
is not an error. -/
def copySegments (numOfBytes : ℕ) : ℕ → List Answer → (ℕ → UInt8) → ℕ → UInt8
  | _, [], buffer => buffer
  | index, a :: as, buffer =>
    if IsError a.code then buffer
    else copySegments numOfBytes (index + 1) as
      (store buffer (4 * index) (dwordBytes (min 4 (numOfBytes - 4 * index)) a.value))

/-- `read_from_smbus_output_mailbox`. -/
def readFromSmbusOutputMailbox (bus : Bus) (buffer : ℕ → UInt8) (numOfBytes : ℕ) :
    ReturnStatus × (ℕ → UInt8) × Bus :=
  let r := bus.callUntil (IsError ·.code) (outputReads numOfBytes)
  (lastCode r.1, copySegments numOfBytes 0 r.1 buffer, r.2)

/-- The loop of `poll_smbus_cmd_completion`: the delay that is left. Whether the loop ends with an error
or with a clear doorbell, its return code is overwritten by that of the status read. -/
def pollDoorbell (bus : Bus) : ℕ → ℕ × Bus
  | 0 => (0, bus)
  | delay + 1 =>
    let a := bus.answer
    let bus := bus.call (.read smbCmdRegister)
    if IsError a.code then (delay + 1, bus)
    else if doorbell a.value = false then (delay + 1, bus)
    else pollDoorbell bus delay

/-- `poll_smbus_cmd_completion`: the return code and the status register. -/
def pollSmbusCmdCompletion (bus : Bus) (timeout : UInt64) : ReturnStatus × UInt32 × Bus :=
  let r := pollDoorbell bus (timeout.toNat / smbusPtDelayPeriodInUs)
  let a := r.2.answer
  let bus := r.2.call (.read smbStatusRegister)
  (if r.1 = 0 then returnTimeout else a.code, a.value, bus)

/-! ## The transfer -/

/-- What a transfer returns: the code, the command record and the bus. -/
structure PassThru where
  code : ReturnStatus
  cmd : FwCmd
  bus : Bus

/-- The end of `smbus_pass_thru`: the output payload is read. -/
def smbusCollect (bus : Bus) (cmd : FwCmd) (code : ReturnStatus) : PassThru :=
  if 0 < cmd.outputPayloadSize then
    let r := readFromSmbusOutputMailbox bus cmd.outPayload cmd.outputPayloadSize.toNat
    ⟨r.1, { cmd with outPayload := r.2.1 }, r.2.2⟩
  else ⟨code, cmd, bus⟩

/-- The command as it is written to the register. -/
def smbusCommand (cmd : FwCmd) : UInt32 :=
  let command : UInt64 := cmd.opcode.toUInt64 <<< 32 |||
    (cmd.subOpcode.toUInt64 <<< 40 ||| (1 : UInt64) <<< 48)
  (command >>> 32).toUInt32

/-- `smbus_pass_thru` from the command on. -/
def smbusRing (bus : Bus) (cmd : FwCmd) (timeout : UInt64) : PassThru :=
  -- the code that this write returns is not looked at
  let bus := bus.call (.write smbCmdRegister (smbusCommand cmd))
  let p := pollSmbusCmdCompletion bus timeout
  let cmd := { cmd with status := statusByte p.2.1 }
  if IsError p.1 then ⟨p.1, cmd, p.2.2⟩
  else if cmd.status ≠ 0 then ⟨returnDeviceError, cmd, p.2.2⟩
  else smbusCollect p.2.2 cmd (if mbComplete p.2.1 then p.1 else returnDeviceError)

/-- `smbus_pass_thru`. -/
def smbusPassThru (bus : Bus) (cmd : FwCmd) (timeout : UInt64) : PassThru :=
  if verifySmbusCmd cmd ≠ 0 then ⟨returnInvalidParameter, cmd, bus⟩
  else
    let b := smbusGetBSR bus
    if IsError b.1 then ⟨b.1, cmd, b.2.2⟩
    else if mailboxReady b.2.1 = false then ⟨returnDeviceError, cmd, b.2.2⟩
    else
      let w := if 0 < cmd.inputPayloadSize then
          writeToSmbusInputMailbox b.2.2 cmd.inputPayload cmd.inputPayloadSize.toNat
        else (b.1, b.2.2)
      if IsError w.1 then ⟨w.1, cmd, w.2⟩ else smbusRing w.2 cmd timeout

/-! ## Input and output -/

/-- The number of segments of a payload. -/
def segments (numOfBytes : ℕ) : ℕ := (numOfBytes + 3) / 4

@[simp] theorem length_inputWrites (buffer : ℕ → UInt8) (n : ℕ) :
    (inputWrites buffer n).length = segments n := by
  rw [inputWrites, segments]
  split_ifs with h <;> simp <;> omega

@[simp] theorem length_outputReads (n : ℕ) : (outputReads n).length = segments n := by
  rw [outputReads, segments]
  split_ifs with h <;> simp <;> omega

theorem segments_pos {n : ℕ} : 0 < segments n ↔ 0 < n := by
  unfold segments
  omega

section Loops

variable {bus : Bus} {cs : List Access}

theorem lastCode_of_good (h : ∀ i < cs.length, ¬ IsError (bus.ahead i).code) (hcs : 0 < cs.length) :
    lastCode (bus.callUntil (IsError ·.code) cs).1 = (bus.ahead (cs.length - 1)).code := by
  obtain ⟨n, hn⟩ := Nat.exists_eq_succ_of_ne_zero hcs.ne'
  rw [Device.callUntil_of_good h, hn, lastCode, List.range_succ, List.map_append]
  simp

theorem isError_lastCode_iff :
    IsError (lastCode (bus.callUntil (IsError ·.code) cs).1) ↔
      ∃ i < cs.length, IsError (bus.ahead i).code := by
  constructor
  · intro h
    by_contra hall
    push Not at hall
    rcases Nat.eq_zero_or_pos cs.length with h0 | hpos
    · rw [List.length_eq_zero_iff.1 h0] at h
      exact not_isError_success h
    · rw [lastCode_of_good hall hpos] at h
      exact hall _ (Nat.sub_one_lt hpos.ne') h
  · rintro ⟨i, hi, h⟩
    obtain ⟨a, ha, hbad⟩ := Device.callUntil_of_bad (IsError ·.code) bus hi h
    rwa [lastCode, ha]

end Loops

variable {bus : Bus} {cmd : FwCmd}

theorem isError_write_iff {buffer : ℕ → UInt8} {n : ℕ} :
    IsError (writeToSmbusInputMailbox bus buffer n).1 ↔
      ∃ i < segments n, IsError (bus.ahead i).code := by
  rw [writeToSmbusInputMailbox, isError_lastCode_iff, length_inputWrites]

theorem write_of_good {buffer : ℕ → UInt8} {n : ℕ}
    (h : ∀ i < segments n, ¬ IsError (bus.ahead i).code) :
    (writeToSmbusInputMailbox bus buffer n).2 = bus.calls (inputWrites buffer n) := by
  rw [writeToSmbusInputMailbox, Device.callUntil_of_good (by rwa [length_inputWrites])]

theorem copySegments_of_good {n : ℕ} {as : List Answer} (h : ∀ a ∈ as, ¬ IsError a.code)
    {index : ℕ} (hlen : index + as.length = segments n) (buffer : ℕ → UInt8) (i : ℕ) :
    copySegments n index as buffer i =
      if 4 * index ≤ i ∧ i < n then
        payloadByte (fun j => (as[j - index]?.map Answer.value).getD 0) i
      else buffer i := by
  induction as generalizing index buffer with
  | nil =>
    have hn : n ≤ 4 * index := by
      simp only [segments, List.length_nil] at hlen
      omega
    rw [copySegments, if_neg (by omega)]
  | cons a as ih =>
    have hlt : 4 * index < n := by
      simp only [segments, List.length_cons] at hlen
      omega
    have hlen' : index + 1 + as.length = segments n := by
      rw [← hlen, List.length_cons]
      omega
    rw [copySegments, if_neg (h a List.mem_cons_self),
      ih (fun b hb => h b (List.mem_cons_of_mem _ hb)) hlen']
    have hstore := store_dwordBytes (n := min 4 (n - 4 * index)) (by omega) index buffer
      (fun j => ((a :: as)[j - index]?.map Answer.value).getD 0) i
    rw [Nat.sub_self] at hstore
    by_cases hi : 4 * (index + 1) ≤ i ∧ i < n
    · have hsub : i / 4 - index = (i / 4 - (index + 1)) + 1 := by omega
      rw [if_pos hi, if_pos (by omega), payloadByte, payloadByte, hsub, List.getElem?_cons_succ]
    · rw [if_neg hi]
      refine hstore.trans (if_congr ?_ rfl rfl)
      omega

theorem isError_read_iff (buffer : ℕ → UInt8) {n : ℕ} :
    IsError (readFromSmbusOutputMailbox bus buffer n).1 ↔
      ∃ i < segments n, IsError (bus.ahead i).code := by
  rw [readFromSmbusOutputMailbox, isError_lastCode_iff, length_outputReads]

section Read

variable (buffer : ℕ → UInt8) {n : ℕ} (h : ∀ i < segments n, ¬ IsError (bus.ahead i).code)

include h

theorem read_code_of_good (hn : 0 < n) :
    (readFromSmbusOutputMailbox bus buffer n).1 = (bus.ahead (segments n - 1)).code := by
  rw [readFromSmbusOutputMailbox, lastCode_of_good] <;> rw [length_outputReads]
  · exact h
  · exact segments_pos.2 hn

theorem read_bus_of_good :
    (readFromSmbusOutputMailbox bus buffer n).2.2 = bus.calls (outputReads n) := by
  rw [readFromSmbusOutputMailbox, Device.callUntil_of_good (by rwa [length_outputReads])]

theorem read_payload_of_good (i : ℕ) :
    (readFromSmbusOutputMailbox bus buffer n).2.1 i =
      if i < n then payloadByte (fun j => (bus.ahead j).value) i else buffer i := by
  have hgood : ∀ a ∈ (List.range (segments n)).map bus.ahead, ¬ IsError a.code := by
    intro a ha
    obtain ⟨j, hj, rfl⟩ := List.mem_map.1 ha
    exact h j (List.mem_range.1 hj)
  rw [readFromSmbusOutputMailbox, Device.callUntil_of_good (by rwa [length_outputReads]),
    length_outputReads]
  dsimp only
  rw [copySegments_of_good hgood (by simp)]
  split_ifs with h₁ h₂ h₂
  · have hseg : i / 4 < segments n := by
      unfold segments
      omega
    simp [payloadByte, hseg]
  · exact absurd h₁.2 h₂
  · exact absurd ⟨by omega, h₂⟩ h₁
  · rfl

end Read

/-! ## Polling -/

/-- The doorbell reads with these answers stop after `k` that show it set: the next one fails or shows it
clear. -/
def StopsAt (answer : ℕ → Answer) (k : ℕ) : Prop :=
  (∀ j < k, ¬ IsError (answer j).code ∧ doorbell (answer j).value = true) ∧
    (IsError (answer k).code ∨ doorbell (answer k).value = false)

theorem pollDoorbell_of_stop {k delay : ℕ} (hk : k < delay) (h : StopsAt bus.ahead k) :
    pollDoorbell bus delay =
      (delay - k, bus.calls (List.replicate (k + 1) (.read smbCmdRegister))) := by
  induction k generalizing bus delay with
  | zero =>
    obtain ⟨n, rfl⟩ := Nat.exists_eq_add_of_lt hk
    have hstop := h.2
    rw [Device.ahead_zero] at hstop
    rw [Nat.zero_add, pollDoorbell]
    rcases hstop with herr | hclear
    · rw [if_pos herr]
      rfl
    · by_cases herr : IsError bus.answer.code
      · rw [if_pos herr]
        rfl
      · rw [if_neg herr, if_pos hclear]
        rfl
  | succ k ih =>
    obtain ⟨n, rfl⟩ := Nat.exists_eq_add_of_lt hk
    obtain ⟨hbusy, hstop⟩ := h
    obtain ⟨herr, hset⟩ := hbusy 0 (Nat.succ_pos k)
    rw [Device.ahead_zero] at herr hset
    have hset' : ¬ doorbell bus.answer.value = false := by
      rw [Bool.not_eq_false]
      exact hset
    have hrest : StopsAt (bus.call (.read smbCmdRegister)).ahead k := by
      refine ⟨fun j hj => ?_, ?_⟩
      · rw [Device.ahead_call]
        exact hbusy (j + 1) (Nat.succ_lt_succ hj)
      · rwa [Device.ahead_call]
    rw [show k + 1 + n + 1 = (k + n + 1) + 1 by omega, pollDoorbell, if_neg herr, if_neg hset',
      ih (by omega) hrest, Device.call_eq_calls, Device.calls_calls]
    refine Prod.ext (by dsimp only; omega) ?_
    rw [List.replicate_succ]
    rfl

/-- The loop runs out of time or stops. -/
theorem pollDoorbell_cases (bus : Bus) (delay : ℕ) :
    (pollDoorbell bus delay).1 = 0 ∨ ∃ k < delay, StopsAt bus.ahead k := by
  induction delay generalizing bus with
  | zero => exact .inl rfl
  | succ delay ih =>
    by_cases herr : IsError bus.answer.code
    · exact .inr ⟨0, Nat.succ_pos _, fun _ h => absurd h (Nat.not_lt_zero _), .inl herr⟩
    by_cases hset : doorbell bus.answer.value = false
    · exact .inr ⟨0, Nat.succ_pos _, fun _ h => absurd h (Nat.not_lt_zero _), .inr hset⟩
    rw [pollDoorbell, if_neg herr, if_neg hset]
    rcases ih (bus.call (.read smbCmdRegister)) with h0 | ⟨k, hk, hbusy, hstop⟩
    · exact .inl h0
    refine .inr ⟨k + 1, Nat.succ_lt_succ hk, fun j hj => ?_, by rwa [Device.ahead_call] at hstop⟩
    obtain _ | j := j
    · exact ⟨herr, Bool.not_eq_false _ ▸ hset⟩
    · have := hbusy j (Nat.lt_of_succ_lt_succ hj)
      rwa [Device.ahead_call] at this

end BmcNvdimm
