import Bmc.Nvdimm.Peci

/-!
# Runs over PECI

What `peci_pass_thru` does for any device.

* `Rings`: the command is written with the doorbell; `peci_of_not_rings`, `peci_of_rings`: the accesses;
* `PeciPasses`: what the function looks at; **`peciPassThru_success_iff`**: it returns success exactly
  then, and `peciPassThru_of_passes`: what it then has done.
-/

namespace BmcNvdimm

open BmcLib

variable {sh : Shifts} {bus : CsrBus} {addr : UInt8} {cmd : FwCmd} {j : ℕ}

/-- The number of input registers that are written. -/
def FwCmd.indws (cmd : FwCmd) : ℕ := cmd.params.indwSize.toNat

/-- The number of output registers that are read. -/
def FwCmd.outdws (cmd : FwCmd) : ℕ := cmd.outputPayloadSize.toNat / 4

@[simp] theorem length_indwWrites : (indwWrites cmd.params).length = cmd.indws := by
  simp [indwWrites, FwCmd.indws]

@[simp] theorem length_payloadReads (n : ℕ) : (payloadReads n).length = n := by simp [payloadReads]

theorem toReturnStatus_eq_success {status : PECIStatus} :
    status.toReturnStatus = returnSuccess ↔ status = .success := by
  cases status <;> decide

/-! ## Loops -/

theorem lastStatus_eq_success {cs : List CsrAccess} {status : PECIStatus} :
    lastStatus status (bus.callUntil CsrAnswer.Failed cs).1 = .success ↔
      (∀ i < cs.length, ¬ (bus.ahead i).Failed) ∧ (cs = [] → status = .success) := by
  by_cases h : ∀ i < cs.length, ¬ (bus.ahead i).Failed
  · rw [Device.callUntil_of_good h]
    rcases cs.eq_nil_or_concat with rfl | ⟨cs, c, rfl⟩
    · simp [lastStatus]
    · have hlast : (bus.ahead cs.length).status = .success := not_not.1 (h _ (by simp))
      rw [List.concat_eq_append, List.length_append, List.length_singleton, lastStatus,
        List.range_succ, List.map_append]
      simpa [hlast] using h
  · refine iff_of_false (fun hs => ?_) fun hs => h hs.1
    push Not at h
    obtain ⟨i, hi, hfail⟩ := h
    obtain ⟨a, ha, hbad⟩ := Device.callUntil_of_bad CsrAnswer.Failed bus hi hfail
    rw [lastStatus, ha] at hs
    exact hbad hs

/-- The reads of the status with these answers end the loop after `j` others. -/
def EndsAt (answer : ℕ → CsrAnswer) (j : ℕ) : Prop :=
  (∀ i < j, (checkBit (answer i).val 0 && !checkBit (answer i).val 3) = false) ∧
    (checkBit (answer j).val 0 && !checkBit (answer j).val 3) = true

theorem waitComplete_of_endsAt {n : ℕ} (hj : j < n) (h : EndsAt bus.ahead j) :
    waitComplete bus n = (some (bus.ahead j), bus.calls (List.replicate (j + 1) (.csrRd mbSmbusStatus))) := by
  induction j generalizing bus n with
  | zero =>
    obtain ⟨m, rfl⟩ := Nat.exists_eq_add_of_lt hj
    have hend := h.2
    rw [Device.ahead_zero] at hend
    rw [Nat.zero_add, waitComplete, if_pos hend]
    rfl
  | succ j ih =>
    obtain ⟨m, rfl⟩ := Nat.exists_eq_add_of_lt hj
    obtain ⟨hbusy, hend⟩ := h
    have hhead := hbusy 0 (Nat.succ_pos j)
    rw [Device.ahead_zero] at hhead
    have hrest : EndsAt (bus.call (.csrRd mbSmbusStatus)).ahead j := by
      refine ⟨fun i hi => ?_, by rwa [Device.ahead_call]⟩
      rw [Device.ahead_call]
      exact hbusy (i + 1) (Nat.succ_lt_succ hi)
    rw [show j + 1 + m + 1 = (j + m + 1) + 1 by omega, waitComplete, if_neg (by rw [hhead]; decide),
      ih (by omega) hrest, Device.ahead_call, Device.call_eq_calls, Device.calls_calls,
      List.replicate_succ]
    rfl

theorem waitComplete_cases (bus : CsrBus) (n : ℕ) :
    waitComplete bus n = (none, bus.calls (List.replicate n (.csrRd mbSmbusStatus))) ∨
      ∃ j < n, EndsAt bus.ahead j := by
  induction n generalizing bus with
  | zero => exact .inl (by simp [waitComplete])
  | succ n ih =>
    by_cases hend : (checkBit bus.answer.val 0 && !checkBit bus.answer.val 3) = true
    · exact .inr ⟨0, Nat.succ_pos _, fun _ h => absurd h (Nat.not_lt_zero _), hend⟩
    rcases ih (bus.call (.csrRd mbSmbusStatus)) with h | ⟨j, hj, hbusy, hstop⟩
    · refine .inl ?_
      rw [waitComplete, if_neg hend, h, Device.call_eq_calls, Device.calls_calls, List.replicate_succ]
      rfl
    refine .inr ⟨j + 1, Nat.succ_lt_succ hj, fun i hi => ?_, by rwa [Device.ahead_call] at hstop⟩
    obtain _ | i := i
    · exact Bool.not_eq_true _ ▸ hend
    · have := hbusy i (Nat.lt_of_succ_lt_succ hi)
      rwa [Device.ahead_call] at this

theorem readPayload_apply {as : List CsrAnswer} {index : ℕ} (payload : ℕ → UInt8) (i : ℕ) :
    readPayload index as payload i =
      if 4 * index ≤ i ∧ i < 4 * (index + as.length) then
        payloadByte (fun k => (as[k - index]?.map CsrAnswer.val).getD 0) i
      else payload i := by
  induction as generalizing index payload with
  | nil =>
    rw [readPayload, if_neg]
    simp only [List.length_nil]
    omega
  | cons a as ih =>
    rw [readPayload, ih, List.length_cons]
    by_cases hi : 4 * (index + 1) ≤ i ∧ i < 4 * (index + 1 + as.length)
    · have hsub : i / 4 - index = (i / 4 - (index + 1)) + 1 := by omega
      rw [if_pos hi, if_pos (by omega), payloadByte, payloadByte, hsub, List.getElem?_cons_succ]
    rw [if_neg hi]
    have hstore := store_dwordBytes le_rfl index payload
      (fun k => ((a :: as)[k - index]?.map CsrAnswer.val).getD 0) i
    rw [Nat.sub_self] at hstore
    refine hstore.trans (if_congr ?_ rfl rfl)
    omega

/-! ## Up to the doorbell -/

/-- The command is written with the doorbell: no access before fails. -/
structure Rings (bus : CsrBus) (cmd : FwCmd) : Prop where
  read : ¬ (bus.ahead 0).Failed
  inputs : ∀ i < cmd.indws, ¬ (bus.ahead (1 + i)).Failed
  command : ¬ (bus.ahead (1 + cmd.indws)).Failed

/-- The answers from the first write of the command on. -/
def afterIndw (bus : CsrBus) (cmd : FwCmd) (k : ℕ) : CsrAnswer := bus.ahead (1 + cmd.indws + k)

/-- The command with the doorbell. -/
def ringDword (sh : Shifts) (cmd : FwCmd) (val : UInt32) : UInt32 :=
  apiCommand sh cmd.params ||| sh.bitField doorbellBit 1 1 ||| apiSequence sh val

/-- The accesses before the doorbell. -/
def peciReady (sh : Shifts) (cmd : FwCmd) : List CsrAccess :=
  .csrRd mbSmbusCmd :: indwWrites cmd.params ++ [.csrWr mbSmbusCmd (apiCommand sh cmd.params)]

@[simp] theorem length_peciReady : (peciReady sh cmd).length = 2 + cmd.indws := by
  simp only [peciReady, List.length_append, List.length_cons, List.length_nil, length_indwWrites]
  omega

theorem api_of_rings (sh : Shifts) (h : Rings bus cmd) (payload : ℕ → UInt8) (n : ℕ) :
    api sh bus cmd.params payload n =
      if (afterIndw bus cmd 1).Failed then
        ⟨(afterIndw bus cmd 1).status, payload,
          bus.calls (peciReady sh cmd ++ [.csrWr mbSmbusCmd (ringDword sh cmd (bus.ahead 0).val)])⟩
      else
        apiCollect
          (bus.calls (peciReady sh cmd ++ [.csrWr mbSmbusCmd (ringDword sh cmd (bus.ahead 0).val)]))
          payload n := by
  have hread : ¬ bus.answer.Failed := h.read
  have hinputs : ∀ i < (indwWrites cmd.params).length,
      ¬ ((bus.call (.csrRd mbSmbusCmd)).ahead i).Failed := by
    intro i hi
    rw [Device.ahead_call, Nat.add_comm]
    exact h.inputs i (by rwa [length_indwWrites] at hi)
  have hstatus : bus.answer.status = .success := not_not.1 hread
  have hlast := lastStatus_eq_success.2 ⟨hinputs, fun _ => hstatus⟩
  rw [api]
  dsimp only
  rw [if_neg hread, if_neg (fun hc => hread hc.2), if_neg (not_not_intro hlast),
    Device.callUntil_of_good hinputs]
  have hans : ((bus.call (.csrRd mbSmbusCmd)).calls (indwWrites cmd.params)).ahead =
      afterIndw bus cmd := by
    funext k
    rw [Device.ahead_calls, Device.ahead_call, length_indwWrites, afterIndw]
    congr 1
    omega
  have hcommand : ¬ ((bus.call (.csrRd mbSmbusCmd)).calls (indwWrites cmd.params)).answer.Failed := by
    rw [← Device.ahead_zero, hans]
    exact h.command
  have hring : (((bus.call (.csrRd mbSmbusCmd)).calls (indwWrites cmd.params)).call
      (.csrWr mbSmbusCmd (apiCommand sh cmd.params))).answer = afterIndw bus cmd 1 := by
    rw [← Device.ahead_zero, Device.ahead_call, hans]
  dsimp only
  rw [apiRing]
  dsimp only
  have hcalls : ∀ c : CsrAccess, [.csrRd mbSmbusCmd] ++ (indwWrites cmd.params ++
      ([.csrWr mbSmbusCmd (apiCommand sh cmd.params)] ++ [c])) = peciReady sh cmd ++ [c] := by
    intro c
    simp [peciReady]
  rw [if_neg hcommand, hring, Device.call_eq_calls, Device.call_eq_calls, Device.call_eq_calls,
    Device.calls_calls, Device.calls_calls, Device.calls_calls, hcalls]
  rfl

theorem api_of_not_rings (sh : Shifts) (h : ¬ Rings bus cmd) (payload : ℕ → UInt8) (n : ℕ) :
    (api sh bus cmd.params payload n).status ≠ .success ∧
      (api sh bus cmd.params payload n).payload = payload ∧
      ∃ cs, cs <+: peciReady sh cmd ∧ cs ≠ [] ∧
        (api sh bus cmd.params payload n).bus = bus.calls cs := by
  by_cases hread : bus.answer.Failed
  · rw [api]
    dsimp only
    rw [if_pos hread]
    exact ⟨hread, rfl, [.csrRd mbSmbusCmd], ⟨_, rfl⟩, by simp, rfl⟩
  have hstatus : bus.answer.status = .success := not_not.1 hread
  rw [api]
  dsimp only
  rw [if_neg hread, if_neg (fun hc => hread hc.2)]
  by_cases hinputs : ∀ i < cmd.indws, ¬ (bus.ahead (1 + i)).Failed
  · have hinputs' : ∀ i < (indwWrites cmd.params).length,
        ¬ ((bus.call (.csrRd mbSmbusCmd)).ahead i).Failed := by
      intro i hi
      rw [Device.ahead_call, Nat.add_comm]
      exact hinputs i (by rwa [length_indwWrites] at hi)
    have hlast := lastStatus_eq_success.2 ⟨hinputs', fun _ => hstatus⟩
    have hans : ((bus.call (.csrRd mbSmbusCmd)).calls (indwWrites cmd.params)).answer =
        bus.ahead (1 + cmd.indws) := by
      rw [← Device.ahead_zero, Device.ahead_calls, Device.ahead_call, length_indwWrites]
      congr 1
      omega
    have hcommand : (bus.ahead (1 + cmd.indws)).Failed := by
      by_contra hc
      exact h ⟨hread, hinputs, hc⟩
    rw [if_neg (not_not_intro hlast), Device.callUntil_of_good hinputs']
    dsimp only
    rw [apiRing]
    dsimp only
    rw [hans, if_pos hcommand]
    refine ⟨hcommand, rfl, peciReady sh cmd, List.prefix_rfl, by simp [peciReady], ?_⟩
    rw [Device.call_eq_calls, Device.call_eq_calls, Device.calls_calls, Device.calls_calls]
    rfl
  · have hlast : lastStatus bus.answer.status ((bus.call (.csrRd mbSmbusCmd)).callUntil
        CsrAnswer.Failed (indwWrites cmd.params)).1 ≠ .success := by
      rw [Ne, lastStatus_eq_success]
      rintro ⟨hgood, -⟩
      refine hinputs fun i hi => ?_
      have := hgood i (by rwa [length_indwWrites])
      rwa [Device.ahead_call, Nat.add_comm] at this
    rw [if_pos hlast]
    obtain ⟨cs, hcs, heq⟩ := Device.exists_callUntil_eq CsrAnswer.Failed
      (indwWrites cmd.params) (bus.call (.csrRd mbSmbusCmd))
    refine ⟨hlast, rfl, .csrRd mbSmbusCmd :: cs, ?_, by simp, ?_⟩
    · rw [peciReady, List.cons_append, List.cons_prefix_cons]
      exact ⟨rfl, hcs.trans (List.prefix_append _ _)⟩
    · rw [heq, Device.call_eq_calls, Device.calls_calls]
      rfl

/-! ## After the doorbell -/

/-- A read of the status or of one of the first `n` output registers. -/
def IsCollectRead (n : ℕ) (c : CsrAccess) : Prop :=
  c = .csrRd mbSmbusStatus ∨ ∃ i < n, c = .csrRd (mbSmbusOutputPayload0 + i)

theorem exists_apiCollect_bus (bus : CsrBus) (payload : ℕ → UInt8) (n : ℕ) :
    ∃ cs, (∀ c ∈ cs, IsCollectRead n c) ∧ (apiCollect bus payload n).bus = bus.calls cs := by
  have hreplicate : ∀ m, ∀ c ∈ List.replicate m (CsrAccess.csrRd mbSmbusStatus), IsCollectRead n c :=
    fun m c hc => .inl (List.eq_of_mem_replicate hc)
  rcases waitComplete_cases bus apiMaxRetries with h | ⟨j, hj, h⟩
  · rw [apiCollect, h]
    exact ⟨_, hreplicate _, rfl⟩
  · rw [apiCollect, waitComplete_of_endsAt hj h]
    dsimp only
    obtain ⟨cs, hcs, heq⟩ := Device.exists_callUntil_eq CsrAnswer.Failed (payloadReads n)
      (bus.calls (List.replicate (j + 1) (.csrRd mbSmbusStatus)))
    refine ⟨List.replicate (j + 1) (.csrRd mbSmbusStatus) ++ cs, fun c hc => ?_, ?_⟩
    · rcases List.mem_append.1 hc with hc | hc
      · exact hreplicate _ c hc
      · obtain ⟨i, hi, rfl⟩ := List.mem_map.1 (hcs.subset hc)
        exact .inr ⟨i, List.mem_range.1 hi, rfl⟩
    · rw [heq, Device.calls_calls]

/-- Behind the dwords that are read, a payload stays as it was. -/
theorem collect_payload_of_le {payload : ℕ → UInt8} {n i : ℕ} (hi : 4 * n ≤ i) :
    (apiCollect bus payload n).payload i = payload i := by
  rcases waitComplete_cases bus apiMaxRetries with h | ⟨j, hj, h⟩
  · rw [apiCollect, h]
  · rw [apiCollect, waitComplete_of_endsAt hj h]
    dsimp only
    have hlen := Device.length_callUntil_le CsrAnswer.Failed (payloadReads n)
      (bus.calls (List.replicate (j + 1) (.csrRd mbSmbusStatus)))
    rw [length_payloadReads] at hlen
    rw [readPayload_apply, if_neg (by omega)]

theorem peciPassThru_payload_of_le {i : ℕ} (hi : 4 * cmd.outdws ≤ i) :
    (peciPassThru sh bus addr cmd).cmd.outPayload i = cmd.outPayload i := by
  rw [peciPassThru]
  split_ifs
  · rfl
  dsimp only
  by_cases hrings : Rings bus cmd
  · rw [api_of_rings sh hrings]
    split_ifs
    · rfl
    · exact collect_payload_of_le hi
  · rw [(api_of_not_rings sh hrings _ _).2.1]

theorem collect_status_iff {payload : ℕ → UInt8} {n : ℕ} :
    (apiCollect bus payload n).status = .success ↔
      ∃ j < apiMaxRetries, EndsAt bus.ahead j ∧ (∀ i < n, ¬ (bus.ahead (1 + j + i)).Failed) ∧
        (n = 0 → ¬ (bus.ahead j).Failed) := by
  have hcollect : ∀ j < apiMaxRetries, EndsAt bus.ahead j →
      ((apiCollect bus payload n).status = .success ↔
        (∀ i < n, ¬ (bus.ahead (1 + j + i)).Failed) ∧ (n = 0 → ¬ (bus.ahead j).Failed)) := by
    intro j hj h
    rw [apiCollect, waitComplete_of_endsAt hj h]
    dsimp only
    rw [lastStatus_eq_success, length_payloadReads]
    have hnil : payloadReads n = [] ↔ n = 0 := by
      rw [← List.length_eq_zero_iff, length_payloadReads]
    simp only [Device.ahead_calls, List.length_replicate, hnil, Nat.add_comm j 1, CsrAnswer.Failed,
      not_not]
  constructor
  · intro hs
    rcases waitComplete_cases bus apiMaxRetries with h | ⟨j, hj, h⟩
    · rw [apiCollect, h] at hs
      cases hs
    · exact ⟨j, hj, h, (hcollect j hj h).1 hs⟩
  · rintro ⟨j, hj, h, hgood⟩
    exact (hcollect j hj h).2 hgood

/-! ## Success -/

/-- **What lets a transfer over PECI return success** after `j` reads of a status that does not say
complete. -/
structure PeciPasses (bus : CsrBus) (cmd : FwCmd) (j : ℕ) : Prop where
  rings : Rings bus cmd
  rung : ¬ (afterIndw bus cmd 1).Failed
  ends : EndsAt (fun i => afterIndw bus cmd (2 + i)) j
  outputs : ∀ i < cmd.outdws, ¬ (afterIndw bus cmd (3 + j + i)).Failed
  last : cmd.outdws = 0 → ¬ (afterIndw bus cmd (2 + j)).Failed

/-- The accesses of a transfer with `j` reads of a status that does not say complete. -/
def peciAccesses (sh : Shifts) (bus : CsrBus) (cmd : FwCmd) (j : ℕ) : List CsrAccess :=
  (peciReady sh cmd ++ [.csrWr mbSmbusCmd (ringDword sh cmd (bus.ahead 0).val)]) ++
    (List.replicate (j + 1) (.csrRd mbSmbusStatus) ++ payloadReads cmd.outdws)

theorem length_peciAccesses : (peciAccesses sh bus cmd j).length = 4 + cmd.indws + j + cmd.outdws := by
  simp only [peciAccesses, List.length_append, length_peciReady, List.length_singleton,
    List.length_replicate, length_payloadReads]
  omega

theorem ahead_ring (c : CsrAccess) (k : ℕ) :
    (bus.calls (peciReady sh cmd ++ [c])).ahead k = afterIndw bus cmd (2 + k) := by
  rw [Device.ahead_calls, List.length_append, length_peciReady, List.length_singleton, afterIndw]
  congr 1
  omega

/-- **When a transfer over PECI returns success.** -/
theorem peciPassThru_success_iff :
    (peciPassThru sh bus addr cmd).code = returnSuccess ↔
      addr ≠ 0 ∧ ∃ j < apiMaxRetries, PeciPasses bus cmd j := by
  rw [peciPassThru]
  split_ifs with haddr
  · have hfail : PECIStatus.fail.toReturnStatus ≠ returnSuccess := by decide
    exact iff_of_false hfail fun h => h.1 haddr
  dsimp only
  rw [toReturnStatus_eq_success]
  by_cases hrings : Rings bus cmd
  swap
  · refine iff_of_false (api_of_not_rings sh hrings _ _).1 ?_
    rintro ⟨-, j, -, h⟩
    exact hrings h.rings
  rw [api_of_rings sh hrings]
  split_ifs with hrung
  · refine iff_of_false hrung ?_
    rintro ⟨-, j, -, h⟩
    exact h.rung hrung
  rw [collect_status_iff]
  simp only [ahead_ring, EndsAt]
  constructor
  · rintro ⟨j, hj, hends, hout, hlast⟩
    refine ⟨haddr, j, hj, hrings, hrung, hends, fun i hi => ?_, hlast⟩
    rw [show 3 + j + i = 2 + (1 + j + i) by omega]
    exact hout i hi
  · rintro ⟨-, j, hj, h⟩
    refine ⟨j, hj, h.ends, fun i hi => ?_, h.last⟩
    rw [show 2 + (1 + j + i) = 3 + j + i by omega]
    exact h.outputs i hi

theorem peciPassThru_of_passes (haddr : addr ≠ 0) (hj : j < apiMaxRetries)
    (h : PeciPasses bus cmd j) :
    (peciPassThru sh bus addr cmd).bus = bus.calls (peciAccesses sh bus cmd j) ∧
      ∀ i, (peciPassThru sh bus addr cmd).cmd.outPayload i =
        if i < 4 * cmd.outdws then
          payloadByte (fun k => (afterIndw bus cmd (3 + j + k)).val) i
        else cmd.outPayload i := by
  have hends : EndsAt
      (bus.calls (peciReady sh cmd ++ [.csrWr mbSmbusCmd (ringDword sh cmd (bus.ahead 0).val)])).ahead j := by
    simpa only [EndsAt, ahead_ring] using h.ends
  have hgood : ∀ i < (payloadReads cmd.outdws).length, ¬ (((bus.calls (peciReady sh cmd ++
      [.csrWr mbSmbusCmd (ringDword sh cmd (bus.ahead 0).val)])).calls
      (List.replicate (j + 1) (.csrRd mbSmbusStatus))).ahead i).Failed := by
    intro i hi
    rw [length_payloadReads] at hi
    rw [Device.ahead_calls, ahead_ring, List.length_replicate,
      show 2 + (j + 1 + i) = 3 + j + i by omega]
    exact h.outputs i hi
  have hapi := api_of_rings sh h.rings cmd.outPayload cmd.outdws
  rw [if_neg h.rung, apiCollect, waitComplete_of_endsAt hj hends] at hapi
  dsimp only at hapi
  rw [Device.callUntil_of_good hgood] at hapi
  rw [peciPassThru, if_neg haddr, ← FwCmd.outdws, hapi]
  refine ⟨?_, fun i => ?_⟩
  · dsimp only
    simp only [Device.calls_calls, peciAccesses, List.append_assoc]
  · dsimp only
    rw [readPayload_apply]
    simp only [Nat.mul_zero, Nat.zero_le, true_and, Nat.zero_add, List.length_map, List.length_range,
      length_payloadReads, Nat.sub_zero]
    split_ifs with hi
    · have hdiv : i / 4 < cmd.outdws := by omega
      simp only [payloadByte, List.getElem?_map, List.getElem?_range hdiv, Option.map_some,
        Option.getD_some]
      rw [Device.ahead_calls, ahead_ring, List.length_replicate,
        show 2 + (j + 1 + i / 4) = 3 + j + i / 4 by omega]
    · rfl

end BmcNvdimm
