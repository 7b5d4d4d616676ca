import Bmc.Bafi.TorLayouts

/-!
# Reported TOR entries

* `fieldText_inj`, `details_inj`: the report tells the fields apart;
* `TorEntry.parseTorData_eq`: a valid entry is parsed; `not_reported`: fields that were not set;
* **`reported_iff`**: which entries are reported with their fields;
* **`silent_na_iff`**: for which words `N/A` is no number in the fields.
-/

namespace BmcBafi

open BmcLib

/-! ## Texts of fields -/

theorem hexText_intToHex_nil (width n : ℕ) : hexText (intToHex width n) = n := by
  have h := hexText_intToHex width n [] (by simp)
  rwa [List.append_nil] at h

theorem hexText_fieldText (memoryMap : List MemoryRegion) (f : TorField) (n : ℕ) :
    hexText (fieldText memoryMap f n) = n := by
  cases f with
  | address =>
    refine hexText_intToHex 8 n _ ?_
    cases mapToMemory memoryMap n with
    | none => simp
    | some name =>
      intro c hc
      obtain rfl := Option.some_inj.1 hc
      rfl
  | opcode => exact hexText_intToHex_nil 2 n
  | core | thread | inPipe | retry | fsm | lcs | target | sad => exact hexText_intToHex_nil 1 n

/-- The report tells the fields apart. -/
theorem details_inj {memoryMap : List MemoryRegion} {x y : TorField → ℕ}
    (h : details memoryMap x = details memoryMap y) : x = y := by
  funext f
  have hf : f ∈ [TorField.core, .thread, .opcode, .address, .inPipe, .retry, .fsm, .lcs, .target,
      .sad] := by
    cases f <;> decide
  have htext := (Prod.mk.inj (List.map_inj_left.1 h f hf)).2
  rw [← hexText_fieldText memoryMap f (x f), htext, hexText_fieldText]

/-! ## Entries -/

variable {cpu : CpuType} {cpuId : Option (List Char)}

/-- The text of the first word of a valid entry is logged. -/
theorem TorEntry.logged_zero {L : TorLayout} (e : TorEntry L) : Logged (e.text 0) (e.value 0) := by
  refine (e.texts 0).resolve_right fun h => ?_
  have hvalid := e.valid
  rw [h.2, Nat.zero_testBit] at hvalid
  exact Bool.false_ne_true hvalid

theorem TorEntry.value_of_unavailable {L : TorLayout} (e : TorEntry L) {k : Fin 8}
    (h : Unavailable (e.text k)) : e.value k = 0 := by
  refine ((e.texts k).resolve_left fun hlogged => ?_).2
  obtain ⟨l, hl, -⟩ := hlogged
  rw [hl] at h
  rcases h with h | h
  · exact absurd (List.cons_prefix_cons.1 h).1 (by decide)
  · exact absurd (List.cons_prefix_cons.1 h).1 (by decide)

/-- The texts of an entry are read, a logged one as its word. -/
theorem TorEntry.exists_words {L : TorLayout} (e : TorEntry L) (old : Fin 8 → Fin 3 → UInt32) :
    ∃ w : Fin 8 → Fin 3 → UInt32, (∀ k, divideTordumps (old k) (e.text k) = some (w k)) ∧
      ∀ k, Logged (e.text k) (e.value k) → tordumpNat (w k) = e.value k := by
  have hread : ∀ k, ∃ w, divideTordumps (old k) (e.text k) = some w ∧
      (Logged (e.text k) (e.value k) → tordumpNat w = e.value k) := by
    intro k
    by_cases hlogged : Logged (e.text k) (e.value k)
    · obtain ⟨w, hw, hvalue⟩ := divideTordumps_logged hlogged (e.value_lt k) (old k)
      exact ⟨w, hw, fun _ => hvalue⟩
    · have hnot := ((e.texts k).resolve_left hlogged).1
      obtain ⟨w, hw⟩ := divideTordumps_isSome (length_unavailable hnot) (old k)
      exact ⟨w, hw, fun h => absurd h hlogged⟩
  choose w hw using hread
  exact ⟨w, fun k => (hw k).1, fun k => (hw k).2⟩

theorem validBit_layoutOf (hcpu : cpu ≠ .icx) (id : List Char) : (layoutOf cpu id).validBit = 0 := by
  cases cpu with
  | icx => exact absurd rfl hcpu
  | spr | sprHbm =>
    unfold layoutOf
    simp only
    split_ifs <;> rfl

/-- **A valid entry is parsed**, from the words that are read. -/
theorem TorEntry.parseTorData_eq (e : TorEntry (layoutOf cpu (cpuId.getD []))) (stack : TORDataGeneric)
    {old : Fin 8 → Fin 3 → UInt32} {w : Fin 8 → Fin 3 → UInt32}
    (hw : ∀ k, divideTordumps (old k) (e.text k) = some (w k)) (h0 : tordumpNat (w 0) = e.value 0) :
    parseTorData cpu cpuId stack old (fun k => some (e.text k)) =
      some (some (parsed cpu cpuId stack w)) := by
  have himproper : ¬ (some (e.text 0)).all checkInproperValue = true := by
    obtain ⟨l, hl, -⟩ := e.logged_zero
    rw [hl]
    exact Bool.false_ne_true
  have hvalid : ∀ (g : TorGroup) (o : ℕ), o + 1 ≤ 32 → (e.value 0).testBit o = true →
      (stack.assignAll g [0] w).get 0 0 g o 1 ≠ 0 := by
    intro g o ho hbit hzero
    have hholds : (stack.assignAll g [0] w).Holds w ⟨0, 0, g⟩ := if_pos ⟨List.mem_singleton.2 rfl, rfl⟩
    have hread := testBit_bits (tordumpNat (w 0)) (32 * (0 : Fin 3).val + o) 1 0
    rw [← hholds.get_eq ho, hzero, Nat.zero_testBit, h0] at hread
    change false = (e.value 0).testBit (0 + o + 0) at hread
    rw [Nat.zero_add, Nat.add_zero, hbit] at hread
    exact Bool.false_ne_true hread
  have hbit := e.valid
  cases cpu with
  | icx =>
    rw [parseTorData, IcxCpu.parseTorData, if_neg himproper, readSubindices_eq hw, Option.bind_some,
      if_neg (hvalid .icx 2 (by decide) hbit), readSubindices_eq hw]
    rfl
  | spr | sprHbm =>
    rw [validBit_layoutOf (by decide)] at hbit
    change SprCpu.parseTorData (cpuId.getD []) stack old (fun k => some (e.text k)) = _
    rw [SprCpu.parseTorData, if_neg himproper, readSubindices_eq hw, Option.bind_some,
      if_neg (hvalid .spr1 0 (by decide) hbit), readSubindices_eq hw]
    rfl

/-- The report has the fields of the entry, whatever else the memory held before. -/
def Reported (cpu : CpuType) (cpuId : Option (List Char))
    (e : TorEntry (layoutOf cpu (cpuId.getD []))) : Prop :=
  ∀ memoryMap stack old, torReport cpu cpuId memoryMap stack old (fun k => some (e.text k)) =
    some (some (details memoryMap e.field))

/-- The text has no digits where the layout has fields. -/
def Silent (L : TorLayout) (k : Fin 8) (s : List Char) : Prop :=
  ∀ old, ∀ w ∈ divideTordumps old s, ∀ sl ∈ L.slices, sl.word = k →
    bits (tordumpNat w) sl.offset sl.width = 0

/-- What is reported are the variables of the entry. -/
theorem reported_eq_iff {e : TorEntry (layoutOf cpu (cpuId.getD []))} : Reported cpu cpuId e ↔
    ∀ stack (old w : Fin 8 → Fin 3 → UInt32),
      (∀ k, divideTordumps (old k) (e.text k) = some (w k)) →
      torVariables cpu (reportId cpu cpuId) (parsed cpu cpuId stack w) = e.field := by
  have hreport : ∀ memoryMap stack (old w : Fin 8 → Fin 3 → UInt32),
      (∀ k, divideTordumps (old k) (e.text k) = some (w k)) →
      torReport cpu cpuId memoryMap stack old (fun k => some (e.text k)) =
        some (some (details memoryMap
          (torVariables cpu (reportId cpu cpuId) (parsed cpu cpuId stack w)))) := by
    intro memoryMap stack old w hw
    have h0 : tordumpNat (w 0) = e.value 0 := by
      obtain ⟨w', hw', hvalue⟩ := divideTordumps_logged e.logged_zero (e.value_lt 0) (old 0)
      rw [← hvalue, Option.some_inj.1 ((hw 0).symm.trans hw')]
    rw [torReport, e.parseTorData_eq stack hw h0]
    rfl
  constructor
  · intro h stack old w hw
    have heq := (hreport [] stack old w hw).symm.trans (h [] stack old)
    exact details_inj (Option.some_inj.1 (Option.some_inj.1 heq))
  · intro h memoryMap stack old
    obtain ⟨w, hw, -⟩ := e.exists_words old
    rw [hreport memoryMap stack old w hw, h stack old w hw]

/-- If the layouts disagree, then the report uses words for the state machine that were not set. -/
theorem fsm_of_not_agree (h : ¬ LayoutsAgree cpu cpuId) :
    ∃ o < 32, ∃ o', ∀ (x : UInt32) (w : Fin 8 → Fin 3 → UInt32),
      torVariables cpu (reportId cpu cpuId) (parsed cpu cpuId ⟨fun _ => x⟩ w) .fsm =
        bits x.toNat o 4 ||| bits x.toNat o' 1 <<< 4 := by
  have hcpu : cpu ≠ .icx := fun hcpu => h (.inl hcpu)
  have hid : cpuId = some spr806f0 ∨ cpu = .sprHbm ∧ cpuId = some spr806f1 := by
    by_contra hid
    rw [not_or] at hid
    exact h (.inr ⟨hid.1, fun hhbm h1 => hid.2 ⟨hhbm, h1⟩⟩)
  have hstack : ∀ {n : Tordump} (x : UInt32) (w : Fin 8 → Fin 3 → UInt32),
      ¬ (n ∈ sprCopies (cpuId.getD []) ∨ n.group = .spr1) →
      (parsed cpu cpuId ⟨fun _ => x⟩ w).word n = x := fun x w hn => by
    rw [word_parsed_spr hcpu, if_neg hn]
  by_cases hhbm : cpu = .sprHbm
  · subst hhbm
    refine ⟨5, by decide, 0, fun x w => ?_⟩
    have hcopies : ∀ n ∈ [(⟨1, 6, .spr3⟩ : Tordump), ⟨1, 7, .spr3⟩],
        ¬ (n ∈ sprCopies (cpuId.getD []) ∨ n.group = .spr1) := by
      rcases hid with rfl | ⟨-, rfl⟩
      · decide
      · decide
    show (parsed .sprHbm cpuId ⟨fun _ => x⟩ w).fsm3_3_0 |||
      (parsed .sprHbm cpuId ⟨fun _ => x⟩ w).fsm3_4_4 <<< 4 = _
    rw [TORDataGeneric.fsm3_3_0, TORDataGeneric.fsm3_4_4, TORDataGeneric.get, TORDataGeneric.get,
      hstack x w (hcopies _ (by decide)), hstack x w (hcopies _ (by decide))]
  · obtain rfl : cpu = .spr := by
      cases cpu with
      | icx => exact absurd rfl hcpu
      | spr => rfl
      | sprHbm => exact absurd rfl hhbm
    obtain rfl := hid.resolve_right fun h => hhbm h.1
    refine ⟨4, by decide, 31, fun x w => ?_⟩
    show (parsed .spr (some spr806f0) ⟨fun _ => x⟩ w).fsm2_3_0 |||
      (parsed .spr (some spr806f0) ⟨fun _ => x⟩ w).fsm2_4_4 <<< 4 = _
    rw [TORDataGeneric.fsm2_3_0, TORDataGeneric.fsm2_4_4, TORDataGeneric.get, TORDataGeneric.get,
      hstack x w (by decide), hstack x w (by decide)]

/-- If the layouts agree, a reported entry is one whose missing words are silent. -/
theorem LayoutsAgree.reported_iff_silent (h : LayoutsAgree cpu cpuId)
    (e : TorEntry (layoutOf cpu (cpuId.getD []))) : Reported cpu cpuId e ↔
      ∀ k, Unavailable (e.text k) → Silent (layoutOf cpu (cpuId.getD [])) k (e.text k) := by
  rw [reported_eq_iff]
  constructor
  · intro hrep k hk old w hw sl hsl hword
    obtain ⟨ws, hws, -⟩ := e.exists_words fun _ => old
    have hfield := congrFun (hrep ⟨fun _ => 0⟩ _ ws hws) sl.field
    rw [h.torVariables_eq] at hfield
    have h0 : sl.read e.value = 0 := by
      rw [Slice.read, hword, e.value_of_unavailable hk, bits_zero]
    have hzero := read_eq_zero e.packed hsl hfield h0
    rwa [Slice.read, hword, Option.some_inj.1 ((hws k).symm.trans hw)] at hzero
  · intro hsilent stack old w hw
    funext f
    rw [h.torVariables_eq]
    refine join_of_packed (fun sl hsl => ?_) e.within f
    rw [← e.packed sl hsl, Slice.read, Slice.read]
    rcases e.texts sl.word with hlogged | ⟨hnot, hvalue⟩
    · obtain ⟨w', hw', heq⟩ := divideTordumps_logged hlogged (e.value_lt _) (old sl.word)
      rw [← heq, Option.some_inj.1 ((hw sl.word).symm.trans hw')]
    · rw [hvalue, bits_zero]
      exact hsilent _ hnot _ _ (hw sl.word) sl hsl rfl

/-- **Reported entries.** A valid entry is reported with its fields iff the report uses the layout of the
CPU with words that were set, and missing words have no digits where the layout has fields. -/
theorem reported_iff (cpu : CpuType) (cpuId : Option (List Char))
    (e : TorEntry (layoutOf cpu (cpuId.getD []))) : Reported cpu cpuId e ↔
      LayoutsAgree cpu cpuId ∧
        ∀ k, Unavailable (e.text k) → Silent (layoutOf cpu (cpuId.getD [])) k (e.text k) := by
  by_cases h : LayoutsAgree cpu cpuId
  · rw [h.reported_iff_silent, and_iff_right h]
  · refine iff_of_false (fun hrep => ?_) fun hc => h hc.1
    obtain ⟨o, ho, o', hfsm⟩ := fsm_of_not_agree h
    obtain ⟨w, hw, -⟩ := e.exists_words fun _ _ => 0
    have hfield : ∀ x : UInt32, bits x.toNat o 4 ||| bits x.toNat o' 1 <<< 4 = e.field .fsm := by
      intro x
      rw [← hfsm x w, reported_eq_iff.1 hrep _ _ w hw]
    have hzero : e.field .fsm = 0 := by
      rw [← hfield 0]
      change bits 0 o 4 ||| bits 0 o' 1 <<< 4 = 0
      rw [bits_zero, bits_zero]
      rfl
    -- with other contents of the memory, the lowest bit is set
    have hones := congrArg (·.testBit 0) (hfield 0xffffffff)
    change (bits (2 ^ 32 - 1) o 4 ||| bits (2 ^ 32 - 1) o' 1 <<< 4).testBit 0 =
      (e.field .fsm).testBit 0 at hones
    rw [hzero, Nat.testBit_or, testBit_bits, Nat.testBit_two_pow_sub_one, Nat.add_zero,
      decide_eq_true ho] at hones
    exact absurd hones (by simp)

/-- `N/A` is read as the number 10, from its last letter. -/
theorem divideTordumps_na (old : Fin 3 → UInt32) :
    divideTordumps old ['N', '/', 'A'] = some ![10, 0, 0] := by
  have hread : ∀ d, str2uint (tordump (padTordump ['N', '/', 'A']) d) (old d) =
      (true, (![10, 0, 0] : Fin 3 → UInt32) d) := by
    intro d
    match d with
    | 0 => rfl
    | 1 => rfl
    | 2 => rfl
  rw [divideTordumps, if_neg (by decide)]
  simp only [hread, implies_true, if_true]

/-- The words for which `N/A` is a number with bits of the fields. -/
def naWords : TorLayout → List (Fin 8)
  | .icx => [7]
  | .spr1 => [0, 4, 5, 7]
  | .spr2 => [0, 4, 5]
  | .spr3 => [0, 4, 5]

/-- **`N/A`** has digits where the layout has fields for some words only. -/
theorem silent_na_iff (L : TorLayout) (k : Fin 8) : Silent L k ['N', '/', 'A'] ↔ k ∉ naWords L := by
  have hbits : Silent L k ['N', '/', 'A'] ↔
      ∀ sl ∈ L.slices, sl.word = k → bits 10 sl.offset sl.width = 0 := by
    constructor
    · exact fun h => h (fun _ => 0) _ (divideTordumps_na _)
    · intro h old w hw
      obtain rfl := Option.some_inj.1 (hw.symm.trans (divideTordumps_na old))
      exact h
  rw [hbits]
  clear hbits
  revert k
  cases L <;> decide +kernel

/-- An entry of SPR with one word that was not read. -/
def spr3Entry : TorEntry (layoutOf .spr []) where
  field _ := 0
  value k := if k = 0 then 1 else 0
  text k := if k = 0 then ['0', 'x', '1'] else if k = 4 then ['N', '/', 'A'] else ['0', 'x', '0']
  field_lt f := by cases f <;> decide
  lowest_dvd f := by cases f <;> decide
  packed := by unfold Packed; decide +kernel
  value_lt := by decide +kernel
  texts k := by
    by_cases h0 : k = 0
    · exact .inl ⟨['1'], by rw [if_pos h0], by decide, by rw [if_pos h0]; rfl⟩
    · by_cases h4 : k = 4
      · exact .inr ⟨by rw [if_neg h0, if_pos h4]; exact .inl (List.prefix_refl _), if_neg h0⟩
      · exact .inl ⟨['0'], by rw [if_neg h0, if_neg h4], by decide, by rw [if_neg h0]; rfl⟩
  valid := by decide

/-- The last letter of `N/A` is reported as core 1. -/
theorem not_reported_na : ¬ Reported .spr none spr3Entry := by
  intro h
  exact absurd (h [] ⟨fun _ => 0⟩ fun _ _ => 0) (by decide +kernel)

end BmcBafi
