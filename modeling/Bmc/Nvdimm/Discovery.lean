import Bmc.Nvdimm.Dimm

/-!
# Discovery of the DIMMs

`discovery` reads the identification register of sixteen devices, one after the other.

* `SlotState`, `slotStep`: the variables of the loop, and its body; `discovery`: the whole call;
* `ReadsOf`, `slots`: the outcomes of the reads in a run, and the loop over them;
* **`discovery_runs`**: a run is the loop over its outcomes;
* `lastValue`, `testBit_slots`: the bits after some slots;
* `PerSlot`: each bit tells about its own slot; **`discovery_perSlot_iff`**: when they do.
-/

namespace BmcNvdimm

open BmcLib

/-! ## The call -/

/-- The row `vendor_device_id` of `csrs`. -/
def vendorDeviceId : SmBusCsrEntry := ⟨24, 6, 0x008⟩

/-- `ekv`, `bwv` and `cwv`. -/
def Known (devid : UInt32) : Prop := devid = 0x8086097a ∨ devid = 0x8086097b ∨ devid = 0x8086097c

instance : DecidablePred Known := fun _ => inferInstanceAs (Decidable (_ ∨ _ ∨ _))

/-- `PECI_CC_UA`. -/
def peciCcUa (cc : UInt8) : Bool := cc ≠ 0x40 ∧ cc ≠ 0x94

/-- `SET_BIT`, for a `uint16_t`. -/
def setBit (val : UInt16) (pos : ℕ) : UInt16 := UInt16.ofNat (val.toNat ||| 1 <<< pos)

/-- What a read returns, and what it stores if it gets that far. -/
abbrev ReadOutcome := Except PECIStatus UInt32

/-- The status that a read returns. -/
def readStatus : ReadOutcome → PECIStatus
  | .ok _ => .success
  | .error e => e

/-- `devid` after a read. A read that does not get that far leaves it as it is. -/
def stored (devid : UInt32) : ReadOutcome → UInt32
  | .ok val => val
  | .error _ => devid

/-- `devid`, `*mask` and `failMask`. -/
structure SlotState where
  devid : UInt32
  mask : UInt16
  failMask : UInt16
  deriving DecidableEq

/-- The body of the loop. The reads leave `cc` as it is, which is `0`. -/
def slotStep (i : ℕ) (r : ReadOutcome) (s : SlotState) : SlotState :=
  let devid := stored s.devid r
  { devid := devid
    failMask := if readStatus r ≠ .success ∧ peciCcUa 0 then setBit s.failMask i else s.failMask
    mask := if Known devid then setBit s.mask i else s.mask }

/-- `maxNumOfDevices`. -/
abbrev maxNumOfDevices : ℕ := 16

section

variable (buses : LpssBuses) (addr : UInt8) (mems : ℕ → BlockMemory)

/-- `csrRd` of the identification of device `i`. -/
def csrRd (i : ℕ) : I3cCode UInt32 := i3cBlockRead buses (csrArgs addr (UInt8.ofNat i) vendorDeviceId) (mems i)

/-- The loop, from slot `i` on, with the slots left. -/
def slotLoop : ℕ → ℕ → SlotState → I3cCode SlotState
  | _, 0, s => pure s
  | i, n + 1, s => do
    let r ← (csrRd buses addr mems i).attempt
    slotLoop (i + 1) n (slotStep i r s)

/-- `discovery`: what is then in `*mask`, and what it returns. -/
def discovery : Option UInt16 → I3cCode (Option UInt16 × UInt16)
  | none => pure (none, UInt16.ofNat PECIStatus.fail.ctorIdx)
  | some mask => do
    let s ← slotLoop buses addr mems 0 maxNumOfDevices ⟨0, mask, 0⟩
    pure (some s.mask, s.failMask)

/-- The transcript is that of reads with these outcomes, of the devices from `i` on. -/
def ReadsOf : ℕ → List ReadOutcome → Transcript → Prop
  | _, [], t => t = []
  | i, r :: rs, t => ∃ t₁ t₂, t = t₁ ++ t₂ ∧ (csrRd buses addr mems i).Runs t₁ r ∧ ReadsOf (i + 1) rs t₂

end

/-- The variables after reads with these outcomes, of the devices from `i` on. -/
def slots : ℕ → List ReadOutcome → SlotState → SlotState
  | _, [], s => s
  | i, r :: rs, s => slots (i + 1) rs (slotStep i r s)

/-! ## What it is for -/

/-- Bit `i` of the mask says that device `i` has returned a known identifier, and bit `i` of the other mask
that its read has failed. -/
structure PerSlot (rs : List ReadOutcome) (mask failMask : UInt16) : Prop where
  known : ∀ i < maxNumOfDevices, mask.toNat.testBit i = true ↔ ∃ val, rs[i]? = some (.ok val) ∧ Known val
  failed : ∀ i < maxNumOfDevices, failMask.toNat.testBit i = true ↔ ∃ r, rs[i]? = some r ∧ readStatus r ≠ .success

/-- The masks have no bit in common. -/
theorem PerSlot.disjoint {rs : List ReadOutcome} {mask failMask : UInt16} (h : PerSlot rs mask failMask) (i : ℕ)
    (hi : i < maxNumOfDevices) : ¬ (mask.toNat.testBit i = true ∧ failMask.toNat.testBit i = true) := by
  rintro ⟨hmask, hfail⟩
  obtain ⟨val, hval, -⟩ := (h.known i hi).1 hmask
  obtain ⟨r, hr, hne⟩ := (h.failed i hi).1 hfail
  rw [hval] at hr
  cases hr
  exact hne rfl

/-- The read behind a known identifier returns a value, and the mask has no bits before but those of known
devices. -/
structure Separate (rs : List ReadOutcome) (mask : UInt16) : Prop where
  next : ∀ i, i + 1 < maxNumOfDevices → ∀ val, rs[i]? = some (.ok val) → Known val →
    ∃ val', rs[i + 1]? = some (.ok val')
  start : ∀ i < maxNumOfDevices, mask.toNat.testBit i = true → ∃ val, rs[i]? = some (.ok val) ∧ Known val

/-! ## Runs -/

section

variable {buses : LpssBuses} {addr : UInt8} {mems : ℕ → BlockMemory} {t : Transcript}

/-- The loop over a run. -/
theorem slotLoop_runs {i n : ℕ} {s : SlotState} {r : Except PECIStatus SlotState}
    (h : (slotLoop buses addr mems i n s).Runs t r) :
    ∃ rs, rs.length = n ∧ ReadsOf buses addr mems i rs t ∧ r = .ok (slots i rs s) := by
  induction n generalizing i s t with
  | zero => exact ⟨[], rfl, h.1, h.2⟩
  | succ n ih =>
    rcases Code.runs_bind.1 h with ⟨t₁, t₂, r₁, rfl, h₁, h₂⟩ | ⟨e, he, -⟩
    · obtain ⟨r₀, hr₀, heq⟩ := Code.runs_attempt.1 h₁
      cases Except.ok.inj heq
      obtain ⟨rs, hlen, hreads, hr⟩ := ih h₂
      exact ⟨r₁ :: rs, congrArg (· + 1) hlen, ⟨t₁, t₂, rfl, hr₀, hreads⟩, hr⟩
    · obtain ⟨r₀, -, heq⟩ := Code.runs_attempt.1 he
      cases heq

/-- **A run.** It is never left, and it is the loop over the outcomes of its sixteen reads. -/
theorem discovery_runs {mask : UInt16} {r : Except PECIStatus (Option UInt16 × UInt16)}
    (h : (discovery buses addr mems (some mask)).Runs t r) :
    ∃ rs, rs.length = maxNumOfDevices ∧ ReadsOf buses addr mems 0 rs t ∧
      r = .ok (some (slots 0 rs ⟨0, mask, 0⟩).mask, (slots 0 rs ⟨0, mask, 0⟩).failMask) := by
  rcases Code.runs_bind.1 h with ⟨t₁, t₂, s, rfl, h₁, rfl, rfl⟩ | ⟨e, he, -⟩
  · obtain ⟨rs, hlen, hreads, heq⟩ := slotLoop_runs h₁
    cases Except.ok.inj heq
    rw [List.append_nil]
    exact ⟨rs, hlen, hreads, rfl⟩
  · obtain ⟨rs, -, -, heq⟩ := slotLoop_runs he
    cases heq

end

/-! ## Bits -/

theorem testBit_setBit (val : UInt16) {pos i : ℕ} (hi : i < 16) :
    (setBit val pos).toNat.testBit i = (val.toNat.testBit i || decide (pos = i)) := by
  rw [setBit, UInt16.toNat_ofNat', Nat.testBit_mod_two_pow, Nat.testBit_or, Nat.one_shiftLeft, Nat.testBit_two_pow,
    decide_eq_true hi, Bool.true_and]

variable {rs : List ReadOutcome} {mask : UInt16}

/-- The value in `devid` after some reads. -/
def lastValue (rs : List ReadOutcome) : UInt32 := rs.foldl stored 0

theorem slots_append (i : ℕ) (r : ReadOutcome) (s : SlotState) :
    slots i (rs ++ [r]) s = slotStep (i + rs.length) r (slots i rs s) := by
  induction rs generalizing i s with
  | nil => rfl
  | cons r' rs ih =>
    rw [List.cons_append, slots, ih, List.length_cons, slots]
    congr 1
    omega

theorem lastValue_append (r : ReadOutcome) : lastValue (rs ++ [r]) = stored (lastValue rs) r := by
  rw [lastValue, List.foldl_append]
  rfl

/-- A bit that is set under a condition. -/
theorem testBit_ite {c : Prop} [Decidable c] (val : UInt16) {pos i : ℕ} (hi : i < 16) :
    (if c then setBit val pos else val).toNat.testBit i = true ↔ val.toNat.testBit i = true ∨ c ∧ pos = i := by
  split_ifs with hc
  · rw [testBit_setBit val hi, Bool.or_eq_true, decide_eq_true_iff, and_iff_right hc]
  · exact (or_iff_left fun h => hc h.1).symm

/-- **The bits** after some slots. -/
theorem testBit_slots (rs : List ReadOutcome) (mask : UInt16) :
    (slots 0 rs ⟨0, mask, 0⟩).devid = lastValue rs ∧
      (∀ i < 16, (slots 0 rs ⟨0, mask, 0⟩).mask.toNat.testBit i = true ↔
        mask.toNat.testBit i = true ∨ i < rs.length ∧ Known (lastValue (rs.take (i + 1)))) ∧
      ∀ i < 16, (slots 0 rs ⟨0, mask, 0⟩).failMask.toNat.testBit i = true ↔
        ∃ r, rs[i]? = some r ∧ readStatus r ≠ .success := by
  induction rs using List.reverseRecOn with
  | nil =>
    refine ⟨rfl, fun i _ => ?_, fun i _ => ?_⟩
    · exact (or_iff_left fun h => Nat.not_lt_zero i h.1).symm
    · refine iff_of_false ?_ fun ⟨r, hr, _⟩ => nomatch hr
      rw [slots, UInt16.toNat_zero, Nat.zero_testBit]
      exact Bool.false_ne_true
  | append_singleton rs r ih =>
    obtain ⟨hdevid, hmask, hfail⟩ := ih
    have hlen : (rs ++ [r]).length = rs.length + 1 := List.length_append
    rw [slots_append, Nat.zero_add]
    have hval : (slotStep rs.length r (slots 0 rs ⟨0, mask, 0⟩)).devid = lastValue (rs ++ [r]) := by
      rw [lastValue_append, ← hdevid]
      rfl
    refine ⟨hval, fun i hi => ?_, fun i hi => ?_⟩
    · change (if Known (slotStep rs.length r (slots 0 rs ⟨0, mask, 0⟩)).devid then _ else _ : UInt16).toNat.testBit i =
        true ↔ _
      rw [hval, testBit_ite _ hi, hmask i hi, or_assoc, hlen]
      refine or_congr_right ?_
      rcases lt_trichotomy i rs.length with hlt | heq | hgt
      · rw [List.take_append_of_le_length (by omega)]
        exact ⟨fun h => h.elim (fun h => ⟨by omega, h.2⟩) fun h => absurd h.2 (by omega), fun h => .inl ⟨hlt, h.2⟩⟩
      · rw [List.take_of_length_le (by omega : (rs ++ [r]).length ≤ i + 1)]
        exact ⟨fun h => h.elim (fun h => absurd h.1 (by omega)) fun h => ⟨by omega, h.1⟩,
          fun h => .inr ⟨h.2, heq.symm⟩⟩
      · exact iff_of_false (fun h => h.elim (fun h => absurd h.1 (by omega)) fun h => absurd h.2 (by omega))
          fun h => absurd h.1 (by omega)
    · change (if _ ∧ _ then _ else _ : UInt16).toNat.testBit i = true ↔ _
      rw [testBit_ite _ hi, hfail i hi]
      rcases lt_trichotomy i rs.length with hlt | heq | hgt
      · rw [List.getElem?_append_left hlt]
        exact or_iff_left fun h => absurd h.2 (by omega)
      · rw [heq, List.getElem?_concat_length, List.getElem?_eq_none le_rfl]
        exact ⟨fun h => h.elim (fun ⟨_, h, _⟩ => nomatch h) fun h => ⟨r, rfl, h.1.1⟩,
          fun ⟨r', hr', hne⟩ => .inr ⟨⟨Option.some.inj hr' ▸ hne, rfl⟩, rfl⟩⟩
      · rw [List.getElem?_eq_none (by omega : (rs ++ [r]).length ≤ i), List.getElem?_eq_none hgt.le]
        exact ⟨fun h => h.elim id fun h => absurd h.2 (by omega), .inl⟩

/-- The value that is carried on, slot by slot. -/
theorem lastValue_take {i : ℕ} {r : ReadOutcome} (hr : rs[i]? = some r) :
    lastValue (rs.take (i + 1)) = stored (lastValue (rs.take i)) r := by
  have htake : rs.take (i + 1) = rs.take i ++ [r] := by rw [List.take_add_one, hr, Option.toList_some]
  rw [htake, lastValue_append]

/-! ## When the slots are separate -/

/-- In separate slots a known value is the slot's own. -/
theorem Separate.own (h : Separate rs mask) (hlen : rs.length = maxNumOfDevices) {i : ℕ} (hi : i < maxNumOfDevices)
    (hknown : Known (lastValue (rs.take (i + 1)))) : ∃ val, rs[i]? = some (.ok val) ∧ Known val := by
  induction i with
  | zero =>
    obtain ⟨r, hr⟩ : ∃ r, rs[0]? = some r := ⟨_, List.getElem?_eq_getElem (by omega)⟩
    rw [lastValue_take hr] at hknown
    cases r with
    | ok val => exact ⟨val, hr, hknown⟩
    | error e =>
      change Known 0 at hknown
      exact absurd hknown (by decide)
  | succ i ih =>
    obtain ⟨r, hr⟩ : ∃ r, rs[i + 1]? = some r := ⟨_, List.getElem?_eq_getElem (by omega)⟩
    rw [lastValue_take hr] at hknown
    cases r with
    | ok val => exact ⟨val, hr, hknown⟩
    | error e =>
      obtain ⟨val, hval, hvalKnown⟩ := ih (by omega) hknown
      obtain ⟨val', hval'⟩ := h.next i hi val hval hvalKnown
      rw [hr] at hval'
      cases hval'

/-- The bits after sixteen slots. -/
theorem perSlot_slots_iff (hlen : rs.length = maxNumOfDevices) :
    PerSlot rs (slots 0 rs ⟨0, mask, 0⟩).mask (slots 0 rs ⟨0, mask, 0⟩).failMask ↔ Separate rs mask := by
  obtain ⟨-, hmask, hfail⟩ := testBit_slots rs mask
  constructor
  · intro h
    refine ⟨fun i hi val hval hknown => ?_, fun i hi hbit => (h.known i hi).1 ((hmask i hi).2 (.inl hbit))⟩
    obtain ⟨r, hr⟩ : ∃ r, rs[i + 1]? = some r := ⟨_, List.getElem?_eq_getElem (by omega)⟩
    cases r with
    | ok val' => exact ⟨val', hr⟩
    | error e =>
      -- the identifier of the slot before is still in `devid`
      have hcarried : Known (lastValue (rs.take (i + 1 + 1))) := by
        rw [lastValue_take hr, lastValue_take hval]
        exact hknown
      obtain ⟨val', hval', -⟩ := (h.known (i + 1) hi).1 ((hmask (i + 1) hi).2 (.inr ⟨by omega, hcarried⟩))
      rw [hr] at hval'
      cases hval'
  · intro h
    refine ⟨fun i hi => ?_, hfail⟩
    rw [hmask i hi]
    refine ⟨fun hbit => hbit.elim (h.start i hi) fun hbit => h.own hlen hi hbit.2,
      fun ⟨val, hval, hknown⟩ => .inr ⟨by omega, ?_⟩⟩
    rw [lastValue_take hval]
    exact hknown

/-- **Discovery.** The bits of each slot tell about its own read exactly when every read behind a known
identifier returns a value, and the mask has no bits before but those of known devices. -/
theorem discovery_perSlot_iff (buses : LpssBuses) (addr : UInt8) (mems : ℕ → BlockMemory) (mask : UInt16) (t : Transcript)
    (r : Except PECIStatus (Option UInt16 × UInt16)) (h : (discovery buses addr mems (some mask)).Runs t r) :
    ∃ rs mask' failMask, rs.length = maxNumOfDevices ∧ ReadsOf buses addr mems 0 rs t ∧
      r = .ok (some mask', failMask) ∧ (PerSlot rs mask' failMask ↔ Separate rs mask) := by
  obtain ⟨rs, hlen, hreads, hr⟩ := discovery_runs h
  exact ⟨rs, _, _, hlen, hreads, hr, perSlot_slots_iff hlen⟩

/-- Sixteen reads that fail at once. -/
theorem discovery_perSlot_iff_failing :
    (discovery (fun _ => 0) 0x30 (fun _ => cleanMemory) (some 0)).Runs
      (List.replicate 16 (.rdEndPointConfigPciLocal 0x30 validBitOffset, ⟨false, 0⟩)) (.ok (some 0, 0xffff)) ∧
    ∃ rs mask' failMask, rs.length = maxNumOfDevices ∧
      ReadsOf (fun _ => 0) 0x30 (fun _ => cleanMemory) 0 rs
        (List.replicate 16 (.rdEndPointConfigPciLocal 0x30 validBitOffset, ⟨false, 0⟩)) ∧
      (.ok (some 0, 0xffff) : Except PECIStatus _) = .ok (some mask', failMask) ∧
      (PerSlot rs mask' failMask ↔ Separate rs 0) := by
  have hrun : (discovery (fun _ => 0) 0x30 (fun _ => cleanMemory) (some 0)).Runs
      (List.replicate 16 (.rdEndPointConfigPciLocal 0x30 validBitOffset, ⟨false, 0⟩)) (.ok (some 0, 0xffff)) :=
    @Code.runs_of_exec _ _ _ _ _ _ (List.replicate 16 ⟨false, 0⟩) _ rfl
  exact ⟨hrun, discovery_perSlot_iff _ _ _ _ _ _ hrun⟩

/-- The first device returns a known identifier and the reads of the others fail at once: bit 1 is set in both
masks. -/
theorem not_perSlot : ¬ ∀ (buses : LpssBuses) (addr : UInt8) (mems : ℕ → BlockMemory) (mask : UInt16) (t : Transcript)
    (r : Except PECIStatus (Option UInt16 × UInt16)), (discovery buses addr mems (some mask)).Runs t r →
    ∃ rs mask' failMask, ReadsOf buses addr mems 0 rs t ∧ r = .ok (some mask', failMask) ∧
      PerSlot rs mask' failMask := by
  intro h
  have hrun := @runs_transcriptOf _ (discovery (fun _ => 0) 0x30 (fun _ => cleanMemory) (some 0))
    ((readAnswers 0x10).set 14 (good 0x8086097a) ++ List.replicate 15 ⟨false, 0⟩)
    (.ok (some 0xffff, 0xfffe)) rfl
  obtain ⟨rs, mask', failMask, -, hr, hslots⟩ := h _ _ _ _ _ _ hrun
  cases hr
  exact hslots.disjoint 1 (by decide) (by decide)

end BmcNvdimm
