import Bmc.Bafi.Tsc

/-!
# First errors are found

* `countTscCfg_eq`: the values of a socket, if all its registers are numbers;
* `marked_iff`, `marked_iff_isFirst`: the marks of the summary;
* `findFirstErrorSocket_eq`: the last marked socket, with MCERR as its kind;
* **`firstErrors_iff`**: when marks, socket and kind are right.
-/

namespace BmcBafi

open BmcLib

/-! ## Reading -/

theorem halfNumber_lt {text : Option (List Char)} {n : ℕ} (h : halfNumber text = some n) :
    n < 2 ^ 32 := by
  unfold halfNumber at h
  split at h
  · exact Option.some_inj.1 h ▸ by decide
  · split_ifs at h
    · exact Option.some_inj.1 h ▸ by decide
    · obtain ⟨m, -, rfl⟩ := Option.map_eq_some_iff.1 h
      exact Nat.mod_lt _ (by decide)

/-- A half is read as its number. -/
theorem str2uint_tscText (text : Option (List Char)) : str2uint (tscText text) 0 =
    ((halfNumber text).isSome, UInt32.ofNat ((halfNumber text).getD 0)) := by
  have hzero : str2uint ['0', 'x', '0'] 0 = (true, UInt32.ofNat 0) := by decide +kernel
  cases text with
  | none => exact hzero
  | some s =>
    by_cases himproper : checkInproperValue s = true
    · have htext : tscText (some s) = ['0', 'x', '0'] := by
        rw [tscText, getUncoreData, Option.filter_some_neg (by simp [himproper])]
        rfl
      have hhalf : halfNumber (some s) = some 0 := if_pos himproper
      rw [htext, hzero, hhalf]
      rfl
    · have htext : tscText (some s) = s := by
        rw [tscText, getUncoreData, Option.filter_some_pos (by simp [himproper])]
        rfl
      have hhalf : halfNumber (some s) = (stoull 16 s).map (· % 2 ^ 32) := if_neg himproper
      rw [htext, hhalf, str2uint]
      cases stoull 16 s with
      | none => exact congrArg (·, _) (Bool.eq_false_iff.2 himproper)
      | some n =>
        refine congrArg (true, ·) (UInt32.toNat_inj.1 ?_)
        show n % 2 ^ 32 = n % 2 ^ 32 % 2 ^ 32
        rw [Nat.mod_mod]

theorem number_isSome_iff (r : TscRegister) : r.number.isSome = true ↔
    (halfNumber r.lo).isSome = true ∧ (halfNumber r.hi).isSome = true := by
  unfold TscRegister.number
  cases halfNumber r.lo with
  | none => simp
  | some lo => simp

/-- All registers of a socket are numbers, or missing. -/
def Readable (platform : TscPlatform) (registers : TscSection) : Prop :=
  ∀ k ∈ platform.kinds, (registers k).number.isSome = true

/-- **The values of a socket.** -/
theorem countTscCfg_eq {platform : TscPlatform} {registers : TscSection} {d : TscData} :
    countTscCfg platform registers = some d ↔ Readable platform registers ∧
      d = ⟨fun k => if k ∈ platform.kinds then ((registers k).number).getD 0 else 0⟩ := by
  have hread : (∀ k ∈ platform.kinds, (str2uint (tscText (registers k).lo) 0).1 = true ∧
      (str2uint (tscText (registers k).hi) 0).1 = true) ↔ Readable platform registers := by
    refine forall₂_congr fun k _ => ?_
    rw [str2uint_tscText, str2uint_tscText, number_isSome_iff]
  have hvalue : ∀ k, (registers k).number.isSome = true →
      (str2uint (tscText (registers k).lo) 0).2.toNat |||
        (str2uint (tscText (registers k).hi) 0).2.toNat <<< 32 = ((registers k).number).getD 0 := by
    intro k hk
    obtain ⟨hlo, hhi⟩ := (number_isSome_iff _).1 hk
    obtain ⟨lo, hlo⟩ := Option.isSome_iff_exists.1 hlo
    obtain ⟨hi, hhi⟩ := Option.isSome_iff_exists.1 hhi
    rw [str2uint_tscText, str2uint_tscText, TscRegister.number, hlo, hhi]
    show (UInt32.ofNat lo).toNat ||| (UInt32.ofNat hi).toNat <<< 32 = lo + 2 ^ 32 * hi
    have hlo' : (UInt32.ofNat lo).toNat = lo := UInt32.toNat_ofNat_of_lt (halfNumber_lt hlo)
    have hhi' : (UInt32.ofNat hi).toNat = hi := UInt32.toNat_ofNat_of_lt (halfNumber_lt hhi)
    rw [hlo', hhi', Nat.or_comm, ← Nat.shiftLeft_add_eq_or_of_lt (halfNumber_lt hlo),
      Nat.shiftLeft_eq, Nat.add_comm, Nat.mul_comm]
  unfold countTscCfg
  by_cases h : Readable platform registers
  · rw [if_pos (hread.2 h), Option.some_inj, and_iff_right h, eq_comm]
    have hcfg : ∀ k, (if k ∈ platform.kinds then
        (str2uint (tscText (registers k).lo) 0).2.toNat |||
          (str2uint (tscText (registers k).hi) 0).2.toNat <<< 32 else 0) =
        if k ∈ platform.kinds then ((registers k).number).getD 0 else 0 := by
      intro k
      split_ifs with hk
      · exact hvalue k (h k hk)
      · rfl
    simp only [hcfg]
  · rw [if_neg (mt hread.1 h)]
    exact iff_of_false (Option.some_ne_none d).symm fun h' => h h'.1

/-! ## Marks -/

/-- The smallest of the smallest values. -/
theorem min?_filterMap_min? {α : Type*} {f : α → List ℕ} {l : List α} {m : ℕ} :
    (l.filterMap fun a => (f a).min?).min? = some m ↔
      (∃ a ∈ l, m ∈ f a) ∧ ∀ a ∈ l, ∀ n ∈ f a, m ≤ n := by
  rw [List.min?_eq_some_iff]
  constructor
  · rintro ⟨hmem, hle⟩
    obtain ⟨a, ha, hmin⟩ := List.mem_filterMap.1 hmem
    refine ⟨⟨a, ha, (List.min?_eq_some_iff.1 hmin).1⟩, fun b hb n hn => ?_⟩
    obtain ⟨n', hn'⟩ := Option.isSome_iff_exists.1 (List.isSome_min?_of_mem hn)
    exact (hle n' (List.mem_filterMap.2 ⟨b, hb, hn'⟩)).trans ((List.min?_eq_some_iff.1 hn').2 n hn)
  · rintro ⟨⟨a, ha, hm⟩, hle⟩
    refine ⟨List.mem_filterMap.2 ⟨a, ha, List.min?_eq_some_iff.2 ⟨hm, hle a ha⟩⟩, fun n hn => ?_⟩
    obtain ⟨b, hb, hmin⟩ := List.mem_filterMap.1 hn
    exact hle b hb n (List.min?_eq_some_iff.1 hmin).1

theorem mem_values {d : TscData} {n : ℕ} : n ∈ d.values ↔ n ≠ 0 ∧ ∃ k, d.cfg k = n := by
  rw [TscData.values, List.mem_filter, decide_eq_true_iff, and_comm]
  refine and_congr_right fun _ => ?_
  constructor
  · intro h
    rcases List.mem_cons.1 h with rfl | h
    · exact ⟨_, rfl⟩
    rcases List.mem_cons.1 h with rfl | h
    · exact ⟨_, rfl⟩
    · exact ⟨_, (List.mem_singleton.1 h).symm⟩
  · rintro ⟨k, rfl⟩
    cases k <;> simp

/-- The letters of a reported number. -/
theorem notMem_intToHex {c : Char} (hx : c ≠ 'x') (hc : isHexDigit c = false) (width n : ℕ) :
    c ∉ intToHex width n := by
  intro hmem
  rw [intToHex, List.mem_cons, List.mem_cons, List.mem_append] at hmem
  rcases hmem with rfl | rfl | h | h
  · exact absurd hc (by decide)
  · exact hx rfl
  · exact absurd (List.eq_of_mem_replicate h ▸ hc) (by decide)
  · exact absurd ((List.all_eq_true.1 (ofHex_toDigits n).1 c h).symm.trans hc) (by decide)

theorem not_infix_of_notMem {α : Type*} {a : α} {s t : List α} (hs : a ∈ s) (ht : a ∉ t) :
    ¬ s <:+: t := fun h => ht (h.subset hs)

/-- A marked text. -/
theorem occurredFirst_infix_cfgText {smallest : Option ℕ} {k : TscKind} {n : ℕ} :
    occurredFirst <:+: cfgText smallest k n ↔ smallest = some n ∧ (k = .ierr → n ≠ 0) := by
  unfold cfgText
  split_ifs with h
  · exact iff_of_true ((List.suffix_cons _ _).isInfix.trans (List.suffix_append _ _).isInfix) h
  · refine iff_of_false (not_infix_of_notMem (a := '(') (by decide) ?_) h
    exact notMem_intToHex (by decide) (by decide) 8 n

theorem not_infix_boolText (b : Bool) : ¬ occurredFirst <:+: boolText b := by
  cases b <;> exact not_infix_of_notMem (a := '(') (by decide) (by decide)

/-- No text has the name of a register. -/
theorem underscore_notMem {platform : TscPlatform} {smallest : Option ℕ} {d : TscData}
    {entry : List Char × List Char} (h : entry ∈ tscEntry platform smallest d) : '_' ∉ entry.2 := by
  rw [tscEntry, List.mem_append, List.mem_map, List.mem_map] at h
  rcases h with ⟨k, -, rfl⟩ | ⟨k, -, rfl⟩
  · show '_' ∉ boolText _
    generalize decide (d.cfg k ≠ 0) = b
    cases b <;> decide
  · show '_' ∉ cfgText smallest k (d.cfg k)
    have hhex := notMem_intToHex (c := '_') (by decide) (by decide) 8 (d.cfg k)
    unfold cfgText
    split_ifs
    · rw [List.mem_append, not_or]
      exact ⟨hhex, by decide⟩
    · exact hhex

theorem socketName_injective : Function.Injective socketName := fun _ _ h =>
  toDigits_ten_injective (List.append_cancel_left h)

theorem codes_injective : Function.Injective codes :=
  List.map_injective_iff.2 fun _ _ => Char.toNat_inj.1

theorem TscKind.key_injective : Function.Injective TscKind.key := by
  intro k k' h
  cases k <;> cases k' <;> first | rfl | exact absurd h (by decide)

theorem TscKind.firstError_injective : Function.Injective TscKind.firstError := by
  intro k k' h
  cases k <;> cases k' <;> first | rfl | exact absurd h (by decide)

theorem TscKind.key_ne_occurred (k k' : TscKind) : k.key ≠ k'.occurred := by
  cases k <;> cases k' <;> decide

namespace TscSections

variable {platform : TscPlatform} {x : TscSections}

/-- The smallest value of the sockets whose registers are numbers. -/
def smallest (platform : TscPlatform) (x : TscSections) : Option ℕ :=
  (smallestValuesFromSockets (getTscData platform x.list)).min?

/-- The values of a socket. -/
def data (platform : TscPlatform) (registers : TscSection) : TscData :=
  ⟨fun k => if k ∈ platform.kinds then ((registers k).number).getD 0 else 0⟩

theorem mem_getTscData {socket : ℕ} {d : TscData} : (socket, d) ∈ getTscData platform x.list ↔
    ∃ registers, (socket, registers) ∈ x.list ∧ Readable platform registers ∧
      d = data platform registers := by
  rw [getTscData, List.mem_filterMap]
  constructor
  · rintro ⟨⟨s, registers⟩, hmem, h⟩
    obtain ⟨d', hd', heq⟩ := Option.map_eq_some_iff.1 h
    obtain ⟨rfl, rfl⟩ := Prod.mk.inj heq
    exact ⟨registers, hmem, countTscCfg_eq.1 hd'⟩
  · rintro ⟨registers, hmem, h⟩
    exact ⟨(socket, registers), hmem, Option.map_eq_some_iff.2 ⟨d, countTscCfg_eq.2 h, rfl⟩⟩

/-- The sockets are told apart by their numbers. -/
theorem registers_unique {socket : ℕ} {r r' : TscSection} (h : (socket, r) ∈ x.list)
    (h' : (socket, r') ∈ x.list) : r = r' :=
  congrArg Prod.snd (List.inj_on_of_nodup_map x.nodup h h' rfl)

/-- The registers of the socket are numbers, or missing. -/
def IsReadable (platform : TscPlatform) (x : TscSections) (socket : ℕ) : Prop :=
  ∀ registers, (socket, registers) ∈ x.list → Readable platform registers

/-- A value of a socket whose registers are numbers. -/
theorem hasTsc_iff_of_readable {socket : ℕ} {registers : TscSection}
    (hmem : (socket, registers) ∈ x.list) (hr : Readable platform registers) {k : TscKind} {n : ℕ} :
    x.HasTsc platform socket k n ↔ n ≠ 0 ∧ (data platform registers).cfg k = n := by
  constructor
  · rintro ⟨r, hr', hk, hn, h0⟩
    obtain rfl := registers_unique hmem hr'
    refine ⟨h0, (if_pos hk).trans ?_⟩
    rw [hn]
    rfl
  · rintro ⟨h0, rfl⟩
    have hk : k ∈ platform.kinds := by
      by_contra hk
      exact h0 (if_neg hk)
    refine ⟨registers, hmem, hk, ?_, h0⟩
    obtain ⟨n, hn⟩ := Option.isSome_iff_exists.1 (hr k hk)
    have hcfg : (data platform registers).cfg k = ((registers k).number).getD 0 := if_pos hk
    rw [hcfg, hn]
    rfl

/-- A value of a socket whose registers are numbers, as the code has it. -/
theorem exists_data_iff {socket : ℕ} {k : TscKind} {n : ℕ} :
    x.HasTsc platform socket k n ∧ x.IsReadable platform socket ↔
      ∃ d, (socket, d) ∈ getTscData platform x.list ∧ n ≠ 0 ∧ d.cfg k = n := by
  constructor
  · rintro ⟨htsc, hr⟩
    have hsocket := htsc
    obtain ⟨registers, hmem, -⟩ := hsocket
    exact ⟨_, mem_getTscData.2 ⟨registers, hmem, hr registers hmem, rfl⟩,
      (hasTsc_iff_of_readable hmem (hr registers hmem)).1 htsc⟩
  · rintro ⟨d, hd, hn⟩
    obtain ⟨registers, hmem, hr, rfl⟩ := mem_getTscData.1 hd
    refine ⟨(hasTsc_iff_of_readable hmem hr).2 hn, fun r hr' => ?_⟩
    rwa [registers_unique hr' hmem]

theorem smallest_eq_some_iff {n : ℕ} : smallest platform x = some n ↔
    (∃ socket k, x.HasTsc platform socket k n ∧ x.IsReadable platform socket) ∧
      ∀ socket k n', x.HasTsc platform socket k n' → x.IsReadable platform socket → n ≤ n' := by
  rw [smallest, smallestValuesFromSockets, min?_filterMap_min?]
  refine and_congr ?_ ?_
  · constructor
    · rintro ⟨⟨socket, d⟩, hd, hn⟩
      obtain ⟨h0, k, hk⟩ := mem_values.1 hn
      exact ⟨socket, k, exists_data_iff.2 ⟨d, hd, h0, hk⟩⟩
    · rintro ⟨socket, k, h⟩
      obtain ⟨d, hd, h0, hk⟩ := exists_data_iff.1 h
      exact ⟨(socket, d), hd, mem_values.2 ⟨h0, k, hk⟩⟩
  · constructor
    · intro h socket k n' htsc hr
      obtain ⟨d, hd, h0, hk⟩ := exists_data_iff.1 ⟨htsc, hr⟩
      exact h (socket, d) hd n' (mem_values.2 ⟨h0, k, hk⟩)
    · rintro h ⟨socket, d⟩ hd n' hn'
      obtain ⟨h0, k, hk⟩ := mem_values.1 hn'
      obtain ⟨htsc, hr⟩ := exists_data_iff.2 ⟨d, hd, h0, hk⟩
      exact h socket k n' htsc hr

theorem mem_summary {name : List Char} {entry : List (List Char × List Char)} :
    (name, entry) ∈ x.summary platform ↔ ∃ socket d, (socket, d) ∈ getTscData platform x.list ∧
      d.values ≠ [] ∧ name = socketName socket ∧ entry = tscEntry platform (smallest platform x) d := by
  rw [summary, tscSummary, List.mem_mergeSort, List.mem_map]
  constructor
  · rintro ⟨⟨socket, d⟩, hd, h⟩
    obtain ⟨rfl, rfl⟩ := Prod.mk.inj h
    exact ⟨socket, d, List.mem_of_mem_filter hd, of_decide_eq_true (List.mem_filter.1 hd).2, rfl, rfl⟩
  · rintro ⟨socket, d, hd, hv, rfl, rfl⟩
    exact ⟨(socket, d), List.mem_filter.2 ⟨hd, decide_eq_true hv⟩, rfl⟩

theorem mem_tscEntry {n : Option ℕ} {d : TscData} {k : TscKind} {text : List Char} :
    (k.key, text) ∈ tscEntry platform n d ↔ k ∈ platform.kinds ∧ text = cfgText n k (d.cfg k) := by
  rw [tscEntry, List.mem_append, List.mem_map, List.mem_map]
  constructor
  · rintro (⟨k', -, h⟩ | ⟨k', hk', h⟩)
    · exact absurd (Prod.mk.inj h).1.symm (k.key_ne_occurred k')
    · obtain ⟨hkey, rfl⟩ := Prod.mk.inj h
      obtain rfl := TscKind.key_injective hkey
      exact ⟨hk', rfl⟩
  · rintro ⟨hk, rfl⟩
    exact .inr ⟨k, hk, rfl⟩

/-- **Marks.** The marked registers are those with the smallest value that is read. -/
theorem marked_iff {socket : ℕ} {k : TscKind} : x.Marked platform socket k ↔
    ∃ n, x.HasTsc platform socket k n ∧ x.IsReadable platform socket ∧ smallest platform x = some n := by
  constructor
  · rintro ⟨entry, hentry, text, htext, hinfix⟩
    obtain ⟨socket', d, hd, -, hname, rfl⟩ := mem_summary.1 hentry
    obtain rfl := socketName_injective hname
    obtain ⟨hk, rfl⟩ := mem_tscEntry.1 htext
    obtain ⟨hsmallest, -⟩ := occurredFirst_infix_cfgText.1 hinfix
    obtain ⟨_, k', h⟩ := (smallest_eq_some_iff.1 hsmallest).1
    obtain ⟨-, -, h0, -⟩ := exists_data_iff.1 h
    obtain ⟨htsc, hr⟩ := exists_data_iff.2 ⟨d, hd, h0, rfl⟩
    exact ⟨_, htsc, hr, hsmallest⟩
  · rintro ⟨n, htsc, hr, hsmallest⟩
    obtain ⟨d, hd, h0, rfl⟩ := exists_data_iff.1 ⟨htsc, hr⟩
    obtain ⟨registers, -, hk, -⟩ := htsc
    exact ⟨_, mem_summary.2 ⟨socket, d, hd, List.ne_nil_of_mem (mem_values.2 ⟨h0, k, rfl⟩), rfl, rfl⟩, _,
      mem_tscEntry.2 ⟨hk, rfl⟩, occurredFirst_infix_cfgText.2 ⟨hsmallest, fun _ => h0⟩⟩

/-- Where there is an error, there is a first one. -/
theorem exists_isFirst {socket : ℕ} {k : TscKind} {n : ℕ} (h : x.HasTsc platform socket k n) :
    ∃ socket' k' n', x.HasTsc platform socket' k' n' ∧ x.IsFirst platform socket' k' ∧ n' ≤ n := by
  classical
  have hex : ∃ n socket k, x.HasTsc platform socket k n := ⟨n, socket, k, h⟩
  obtain ⟨socket', k', htsc⟩ := Nat.find_spec hex
  have hle : ∀ socket k n, x.HasTsc platform socket k n → Nat.find hex ≤ n :=
    fun socket k n h => Nat.find_min' hex ⟨socket, k, h⟩
  exact ⟨socket', k', _, htsc, ⟨_, htsc, hle⟩, hle socket k n h⟩

/-- The marks are right iff each socket with a first error can be read. -/
theorem marked_iff_isFirst : (∀ socket k, x.Marked platform socket k ↔ x.IsFirst platform socket k) ↔
    ∀ socket k, x.IsFirst platform socket k → x.IsReadable platform socket := by
  constructor
  · intro h socket k hfirst
    obtain ⟨n, -, hr, -⟩ := marked_iff.1 ((h socket k).2 hfirst)
    exact hr
  · intro h socket k
    rw [marked_iff]
    constructor
    · rintro ⟨n, htsc, hr, hsmallest⟩
      refine ⟨n, htsc, fun socket' k' n' htsc' => ?_⟩
      obtain ⟨s₀, k₀, n₀, htsc₀, hfirst, hle⟩ := exists_isFirst htsc'
      exact ((smallest_eq_some_iff.1 hsmallest).2 s₀ k₀ n₀ htsc₀ (h s₀ k₀ hfirst)).trans hle
    · intro hfirst
      have hr := h socket k hfirst
      obtain ⟨n, htsc, hle⟩ := hfirst
      refine ⟨n, htsc, hr, smallest_eq_some_iff.2 ⟨⟨socket, k, htsc, hr⟩, ?_⟩⟩
      exact fun socket' k' n' htsc' _ => hle socket' k' n' htsc'

end TscSections

/-! ## The first socket -/

/-- The texts of the summary do not name registers. -/
def Nameless (entries : List (List Char × List Char)) : Prop := ∀ e ∈ entries, '_' ∉ e.2

/-- The socket has a marked text. -/
def MarkedSocket (s : List Char × List (List Char × List Char)) : Prop :=
  ∃ e ∈ s.2, occurredFirst <:+: e.2

instance : DecidablePred MarkedSocket := fun s => by unfold MarkedSocket; infer_instance

namespace FirstErrorScan

/-- What a marked text makes of the variables. -/
def found (st : FirstErrorScan) (socket : List Char) : FirstErrorScan :=
  { st with firstError := TscKind.mcerr.firstError, mcerr := true, firstSocket := socket }

/-- **Kinds.** A text that names no register counts as MCERR. -/
theorem text_eq {socket : List Char} (st : FirstErrorScan) {tscVal : List Char} (h : '_' ∉ tscVal) :
    st.text socket tscVal = if occurredFirst <:+: tscVal then st.found socket else st := by
  have hkey : ∀ k : TscKind, ¬ k.key <:+: tscVal := fun k =>
    not_infix_of_notMem (a := '_') (by cases k <;> decide) h
  rw [FirstErrorScan.text, if_neg (hkey .ierr), if_neg (hkey .mcerr), if_neg (hkey .rmca)]
  rfl

theorem socket_eq {s : List Char × List (List Char × List Char)} (h : Nameless s.2)
    (st : FirstErrorScan) : st.socket s = if MarkedSocket s then st.found s.1 else st := by
  obtain ⟨name, entries⟩ := s
  induction entries using List.reverseRecOn with
  | nil => exact (if_neg fun ⟨e, he, _⟩ => List.not_mem_nil he).symm
  | append_singleton entries e ih =>
    have he : '_' ∉ e.2 := h e (List.mem_append_right _ (List.mem_singleton.2 rfl))
    have hrest := ih fun e' he' => h e' (List.mem_append_left _ he')
    have hstep : st.socket (name, entries ++ [e]) = (st.socket (name, entries)).text name e.2 := by
      rw [socket, socket, List.foldl_append]
      rfl
    have hmarked : MarkedSocket (name, entries ++ [e]) ↔
        MarkedSocket (name, entries) ∨ occurredFirst <:+: e.2 := by
      constructor
      · rintro ⟨e', he', hinfix⟩
        rcases List.mem_append.1 he' with hmem | hmem
        · exact .inl ⟨e', hmem, hinfix⟩
        · exact .inr (List.mem_singleton.1 hmem ▸ hinfix)
      · rintro (⟨e', he', hinfix⟩ | hinfix)
        · exact ⟨e', List.mem_append_left _ he', hinfix⟩
        · exact ⟨e, List.mem_append_right _ (List.mem_singleton.2 rfl), hinfix⟩
    rw [hstep, hrest, text_eq _ he]
    by_cases h1 : MarkedSocket (name, entries)
    · rw [if_pos h1, if_pos (hmarked.2 (.inl h1))]
      split_ifs <;> rfl
    · rw [if_neg h1]
      exact if_congr (hmarked.trans (or_iff_right h1)).symm rfl rfl

/-- The last marked socket is found. -/
theorem foldl_socket_eq {summary : List (List Char × List (List Char × List Char))}
    (h : ∀ s ∈ summary, Nameless s.2) (st : FirstErrorScan) :
    summary.foldl FirstErrorScan.socket st =
      match (summary.filter fun s => MarkedSocket s).getLast? with
      | some s => st.found s.1
      | none => st := by
  induction summary using List.reverseRecOn with
  | nil => rfl
  | append_singleton summary s ih =>
    rw [List.foldl_append, ih fun s' hs' => h s' (List.mem_append_left _ hs'), List.foldl_cons,
      List.foldl_nil, socket_eq (h s (List.mem_append_right _ (List.mem_singleton.2 rfl))),
      List.filter_append]
    by_cases hs : MarkedSocket s
    · rw [if_pos hs, List.filter_cons_of_pos (by simpa using hs), List.filter_nil,
        List.getLast?_concat]
      cases (summary.filter fun s => MarkedSocket s).getLast? with
      | some _ => rfl
      | none => rfl
    · rw [if_neg hs, List.filter_cons_of_neg (by simpa using hs), List.filter_nil, List.append_nil]

end FirstErrorScan

/-- **The first socket** is the last marked one, and its kind MCERR. -/
theorem findFirstErrorSocket_eq {summary : List (List Char × List (List Char × List Char))}
    (h : ∀ s ∈ summary, Nameless s.2) (firstError : List Char) :
    findFirstErrorSocket summary firstError =
      match (summary.filter fun s => MarkedSocket s).getLast? with
      | some s => (s.1, TscKind.mcerr.firstError)
      | none => ([], firstError) := by
  unfold findFirstErrorSocket
  rw [FirstErrorScan.foldl_socket_eq h]
  cases (summary.filter fun s => MarkedSocket s).getLast? with
  | some s => rfl
  | none => rfl

namespace TscSections

variable {platform : TscPlatform} {x : TscSections}

theorem nameless_summary {s : List Char × List (List Char × List Char)}
    (h : s ∈ x.summary platform) : Nameless s.2 := by
  obtain ⟨_, d, -, -, -, hentry⟩ := mem_summary.1 h
  rw [hentry]
  exact fun e he => underscore_notMem he

/-- The marked entries of the summary. -/
theorem markedSocket_iff {name : List Char} {entry : List (List Char × List Char)}
    (h : (name, entry) ∈ x.summary platform) :
    MarkedSocket (name, entry) ↔ ∃ socket k, name = socketName socket ∧ x.Marked platform socket k := by
  obtain ⟨socket, d, hd, -, rfl, rfl⟩ := mem_summary.1 h
  constructor
  · rintro ⟨⟨key, text⟩, he, hinfix⟩
    rcases List.mem_append.1 he with hbool | hcfg
    · obtain ⟨k, -, heq⟩ := List.mem_map.1 hbool
      exact absurd ((Prod.mk.inj heq).2 ▸ hinfix) (not_infix_boolText _)
    · obtain ⟨k, -, heq⟩ := List.mem_map.1 hcfg
      obtain ⟨rfl, -⟩ := Prod.mk.inj heq
      exact ⟨socket, k, rfl, _, h, text, he, hinfix⟩
  · rintro ⟨socket', k, hname, entry', hentry', text, htext, hinfix⟩
    obtain rfl := socketName_injective hname
    obtain ⟨socket', d', hd', -, hname', rfl⟩ := mem_summary.1 hentry'
    obtain rfl := socketName_injective hname'
    obtain ⟨r, hr, -, rfl⟩ := mem_getTscData.1 hd
    obtain ⟨r', hr', -, rfl⟩ := mem_getTscData.1 hd'
    obtain rfl := registers_unique hr hr'
    exact ⟨_, htext, hinfix⟩

/-- The summary is in the order of the names. -/
theorem pairwise_summary : (x.summary platform).Pairwise fun s s' => codes s.1 ≤ codes s'.1 := by
  rw [summary, tscSummary]
  refine (List.pairwise_mergeSort (fun a b c hab hbc => ?_) (fun a b => ?_) _).imp of_decide_eq_true
  · exact decide_eq_true (le_trans (of_decide_eq_true hab) (of_decide_eq_true hbc))
  · rw [Bool.or_eq_true, decide_eq_true_iff, decide_eq_true_iff]
    exact le_total (codes a.1) (codes b.1)

/-- The socket with a first error whose name is last. -/
def IsLast (platform : TscPlatform) (x : TscSections) (socket : ℕ) : Prop :=
  (∃ k, x.IsFirst platform socket k) ∧
    ∀ socket' k', x.IsFirst platform socket' k' → codes (socketName socket') ≤ codes (socketName socket)

/-- No socket is found iff none is marked. -/
theorem getLast?_eq_none :
    ((x.summary platform).filter fun s => MarkedSocket s).getLast? = none ↔
      ∀ socket k, ¬ x.Marked platform socket k := by
  rw [List.getLast?_eq_none_iff, List.filter_eq_nil_iff]
  constructor
  · rintro h socket k ⟨entry, hentry, hk⟩
    exact h _ hentry (decide_eq_true ((markedSocket_iff hentry).2 ⟨socket, k, rfl, entry, hentry, hk⟩))
  · rintro h ⟨name, entry⟩ hentry hmarked
    obtain ⟨socket, k, -, hk⟩ := (markedSocket_iff hentry).1 (of_decide_eq_true hmarked)
    exact h socket k hk

/-- The socket that is found has the last of the marked names. -/
theorem getLast?_eq_some {s : List Char × List (List Char × List Char)}
    (h : ((x.summary platform).filter fun s => MarkedSocket s).getLast? = some s) :
    ∃ socket, s.1 = socketName socket ∧ (∃ k, x.Marked platform socket k) ∧
      ∀ socket' k', x.Marked platform socket' k' → codes (socketName socket') ≤ codes (socketName socket) := by
  obtain ⟨init, hinit⟩ := List.getLast?_eq_some_iff.1 h
  have hmem : s ∈ (x.summary platform).filter fun s => MarkedSocket s := by
    rw [hinit]
    exact List.mem_append_right _ (List.mem_singleton.2 rfl)
  obtain ⟨hsummary, hmarked⟩ := List.mem_filter.1 hmem
  obtain ⟨socket, k, hname, hk⟩ := (markedSocket_iff hsummary).1 (of_decide_eq_true hmarked)
  refine ⟨socket, hname, ⟨k, hk⟩, ?_⟩
  rintro socket' k' ⟨entry, hentry, hk'⟩
  have hmem' : (socketName socket', entry) ∈ (x.summary platform).filter fun s => MarkedSocket s :=
    List.mem_filter.2 ⟨hentry,
      decide_eq_true ((markedSocket_iff hentry).2 ⟨socket', k', rfl, entry, hentry, hk'⟩)⟩
  rw [hinit] at hmem'
  rcases List.mem_append.1 hmem' with hmem' | hmem'
  · have hpairwise : (x.summary platform).Pairwise fun s s' => codes s.1 ≤ codes s'.1 := pairwise_summary
    have hsorted := hpairwise.filter fun s => MarkedSocket s
    rw [hinit] at hsorted
    exact hname ▸ (List.pairwise_append.1 hsorted).2.2 _ hmem' s (List.mem_singleton.2 rfl)
  · rw [← hname, ← List.mem_singleton.1 hmem']

/-- **First errors.** They are reported right iff no register of a socket with a first error is
unreadable, and the last of these sockets has a first MCERR. -/
theorem firstErrors_iff : x.FirstErrors platform ↔
    (∀ socket k, x.IsFirst platform socket k → x.IsReadable platform socket) ∧
      ∀ socket, x.IsLast platform socket → x.IsFirst platform socket .mcerr := by
  have hfind := findFirstErrorSocket_eq fun s (hs : s ∈ x.summary platform) => nameless_summary hs
  constructor
  · intro h
    refine ⟨marked_iff_isFirst.1 h.marked, fun socket hlast => ?_⟩
    obtain ⟨⟨k, hk⟩, hle⟩ := hlast
    obtain ⟨socket', k', hfound, hfirst⟩ := h.found socket k hk []
    rw [hfind] at hfound
    cases hlast : ((x.summary platform).filter fun s => MarkedSocket s).getLast? with
    | none => exact absurd ((h.marked socket k).2 hk) (getLast?_eq_none.1 hlast socket k)
    | some s =>
      rw [hlast] at hfound
      obtain ⟨hname, hkind⟩ := Prod.mk.inj hfound
      obtain ⟨socket'', hname', -, hle'⟩ := getLast?_eq_some hlast
      obtain rfl := socketName_injective (hname.symm.trans hname')
      obtain rfl := TscKind.firstError_injective hkind
      obtain rfl := socketName_injective
        (codes_injective (le_antisymm (hle socket' _ hfirst) (hle' socket k ((h.marked socket k).2 hk))))
      exact hfirst
  · rintro ⟨hread, hmcerr⟩
    have hmarked := marked_iff_isFirst.2 hread
    refine ⟨hmarked, fun hno firstError => ?_, fun socket k hk firstError => ?_⟩
    · rw [hfind, getLast?_eq_none.2 fun socket k hk => hno socket k ((hmarked socket k).1 hk)]
    · rw [hfind]
      cases hlast : ((x.summary platform).filter fun s => MarkedSocket s).getLast? with
      | none => exact absurd ((hmarked socket k).2 hk) (getLast?_eq_none.1 hlast socket k)
      | some s =>
        obtain ⟨socket', hname, ⟨k', hk'⟩, hle⟩ := getLast?_eq_some hlast
        refine ⟨socket', .mcerr, Prod.ext hname rfl, hmcerr socket' ⟨⟨k', (hmarked _ _).1 hk'⟩, ?_⟩⟩
        exact fun socket'' k'' h => hle socket'' k'' ((hmarked socket'' k'').2 h)

/-- One socket with an IERR. -/
def ierrOnly : TscSections where
  list := [(0, fun k => ⟨if k = .ierr then some "0x1".toList else none, none⟩)]
  nodup := List.nodup_singleton 0

/-- It is reported as an MCERR. -/
theorem not_firstErrors_ierr : ¬ ierrOnly.FirstErrors .eaglestream := by
  have hnumber : (TscRegister.mk (some "0x1".toList) none).number = some 1 := by decide +kernel
  have hzero : (TscRegister.mk none none).number = some 0 := by decide +kernel
  have hvalue : ∀ {socket k n}, ierrOnly.HasTsc .eaglestream socket k n → k = .ierr ∧ n = 1 := by
    rintro socket k n ⟨registers, hmem, -, hn, h0⟩
    obtain ⟨-, rfl⟩ := Prod.mk.inj (List.mem_singleton.1 hmem)
    cases k with
    | ierr => exact ⟨rfl, (Option.some_inj.1 (hnumber.symm.trans hn)).symm⟩
    | mcerr => exact absurd (Option.some_inj.1 (hzero.symm.trans hn)).symm h0
    | rmca => exact absurd (Option.some_inj.1 (hzero.symm.trans hn)).symm h0
  have hfirst : ierrOnly.IsFirst .eaglestream 0 .ierr :=
    ⟨1, ⟨_, List.mem_singleton.2 rfl, by decide, hnumber, one_ne_zero⟩,
      fun _ _ _ h => (hvalue h).2.ge⟩
  intro h
  obtain ⟨socket, k, hfound, _, htsc, -⟩ := h.found 0 .ierr hfirst []
  have hkind : (findFirstErrorSocket (ierrOnly.summary .eaglestream) []).2 =
      TscKind.mcerr.firstError := by decide +kernel
  rw [hfound] at hkind
  exact absurd ((hvalue htsc).1.symm.trans (TscKind.firstError_injective hkind)) (by decide)

end TscSections

end BmcBafi
