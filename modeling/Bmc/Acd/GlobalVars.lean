import Bmc.Lib.Search
import Bmc.Acd.StaleData

/-!
# Global variables

`RdGlobalVars` compares a string with the names of the global variables, each as far as the name goes.

* `GlobalName`, with the texts and values of the variables; `exactVar`: the variable of a name;
* `globalVar_eq`: the chain of comparisons is a search; `ReadsExactly`: the specification;
* **`readsExactly_iff`**: which strings give the variable of that name.
-/

namespace BmcAcd

open BmcLib

/-! ## Names -/

/-- The global variables, in the order of the comparisons. -/
inductive GlobalName where
  | peciAddr
  | cpuid
  | cpuidSource
  | coremaskSource
  | chacountSource
  | coremask
  | chacount
  | corecount
  | crashcorecount
  | crashcoremask
  deriving DecidableEq, Repr

namespace GlobalName

/-- The name of a variable. -/
def text : GlobalName → String
  | peciAddr => "peci_addr"
  | cpuid => "cpuid"
  | cpuidSource => "cpuid_source"
  | coremaskSource => "coremask_source"
  | chacountSource => "chacount_source"
  | coremask => "coremask"
  | chacount => "chacount"
  | corecount => "corecount"
  | crashcorecount => "crashcorecount"
  | crashcoremask => "crashcoremask"

/-- The value of a variable. -/
def value (i : CPUInfo) : GlobalName → GlobalVar
  | peciAddr => .number 1 (UInt64.ofInt i.clientAddr).toNat
  | cpuid => .number 4 (i.cpuModel ||| i.stepping.toUInt32).toNat
  | cpuidSource => .string (decodeState i.cpuidSource)
  | coremaskSource => .string (decodeState i.coreMaskSource)
  | chacountSource => .string (decodeState i.chaCountSource)
  | coremask => .number 8 i.coreMask.toNat
  | chacount => .number 1 i.chaCount
  | corecount => .number 1 (popcount i.coreMask.toNat)
  | crashcorecount => .number 1 (popcount i.crashedCoreMask.toNat)
  | crashcoremask => .number 8 i.crashedCoreMask.toNat

/-- All of them. -/
def all : List GlobalName :=
  [peciAddr, cpuid, cpuidSource, coremaskSource, chacountSource, coremask, chacount, corecount, crashcorecount,
    crashcoremask]

theorem mem_all (v : GlobalName) : v ∈ all := by cases v <;> decide

/-- The comparison of a string with a name, as far as the name goes. -/
def starts (t : String) (v : GlobalName) : Bool := v.text.toList.isPrefixOf t.toList

end GlobalName

/-- The variable whose name a string is. -/
def exactVar (t : String) : Option GlobalName := GlobalName.all.find? fun v => decide (t = v.text)

/-- Whether `RdGlobalVars` returns `ACD_SUCCESS`. -/
def rdGlobalVarsOk (s : CmdInOut) : Bool := (s.out.stringVal.bind (globalVar s.cpuInfo)).isSome

/-- The outputs give the value of a variable. -/
def Gives (o : PECICmdOutput) : GlobalVar → Prop
  | .number size n => o.size = size ∧ o.u64 = n % 2 ^ 64
  | .string t => o.printString = true ∧ o.stringVal = some t

/-- **The lookup is exact** at a string: it succeeds with the value of the variable whose name the string is, and fails
without one. -/
def ReadsExactly (s : CmdInOut) (t : String) : Prop :=
  let s := s.setOut (s.out.setStringVal (some t))
  match exactVar t with
  | some v => rdGlobalVarsOk s = true ∧ Gives (rdGlobalVars s).out (v.value s.cpuInfo)
  | none => rdGlobalVarsOk s = false

/-! ## The comparisons -/

/-- **The chain of comparisons** is a search in the list of the names. -/
theorem globalVar_eq (i : CPUInfo) (t : String) :
    globalVar i t = (GlobalName.all.find? (GlobalName.starts t)).map (GlobalName.value i) := by
  simp only [GlobalName.all, map_find?_cons, List.find?_nil, Option.map_none]
  rfl

theorem starts_iff {t : String} {v : GlobalName} : GlobalName.starts t v = true ↔ v.text.toList <+: t.toList :=
  List.isPrefixOf_iff_prefix

theorem exactVar_text (v : GlobalName) : exactVar v.text = some v := by cases v <;> decide

theorem eq_text_of_exactVar {t : String} {v : GlobalName} (h : exactVar t = some v) : t = v.text :=
  of_decide_eq_true (List.find?_some (p := fun v : GlobalName => decide (t = v.text)) h)

/-- A name that no earlier comparison accepts. -/
theorem find?_text {v : GlobalName} (h : v ≠ .cpuidSource) :
    GlobalName.all.find? (GlobalName.starts v.text) = some v := by
  cases v <;> first | exact absurd rfl h | decide

/-- The name of the source of the CPUID starts with the name of the CPUID. -/
theorem find?_cpuidSource :
    GlobalName.all.find? (GlobalName.starts GlobalName.cpuidSource.text) = some .cpuid := by decide

/-! ## The command -/

section Command

variable (s : CmdInOut) (t : String)

/-- The outputs of the command. -/
theorem rdGlobalVars_of {s : CmdInOut} {g : GlobalVar} (h : s.out.stringVal.bind (globalVar s.cpuInfo) = some g) :
    rdGlobalVars s = s.setOut (match g with
      | .number size n => ((s.out.setStatus .success peciDevCcSuccess).setSize size).setVal
          (store s.out.val 0 (leBytes 8 n))
      | .string v => ((s.out.setStatus .success peciDevCcSuccess).setPrintString true).setStringVal (some v)) := by
  have h' : (s.out.setStatus .success peciDevCcSuccess).stringVal.bind (globalVar s.cpuInfo) = some g := h
  unfold rdGlobalVars
  dsimp only
  rw [h']
  cases g <;> rfl

/-- The command on a string that the comparisons accept. -/
theorem rdGlobalVars_some {g : GlobalVar} (h : globalVar s.cpuInfo t = some g) :
    let s' := s.setOut (s.out.setStringVal (some t))
    rdGlobalVarsOk s' = true ∧ Gives (rdGlobalVars s').out g := by
  have hbind : (some t).bind (globalVar s.cpuInfo) = some g := h
  refine ⟨congrArg Option.isSome hbind, ?_⟩
  rw [rdGlobalVars_of (s := s.setOut (s.out.setStringVal (some t))) hbind]
  cases g with
  | number size n =>
    refine ⟨rfl, ?_⟩
    show leNat (slice (store _ 0 (leBytes 8 n)) 0 8) = n % 2 ^ 64
    rw [slice_store_zero (by rw [length_leBytes]), List.take_of_length_le (by rw [length_leBytes]), leNat_leBytes]
    norm_num
  | string v => exact ⟨rfl, rfl⟩

/-- The command on a string that no comparison accepts. -/
theorem rdGlobalVarsOk_none (h : globalVar s.cpuInfo t = none) :
    rdGlobalVarsOk (s.setOut (s.out.setStringVal (some t))) = false :=
  congrArg Option.isSome (show (some t).bind (globalVar s.cpuInfo) = none from h)

theorem decodeState_ne (c : CpuidState) : decodeState c ≠ "cpuid_source" := by cases c <;> decide

/-- The name `cpuid_source` gives the CPUID, and the string stays where it was. -/
theorem cpuidSource_fails : ¬ ReadsExactly s GlobalName.cpuidSource.text := by
  have hvar := globalVar_eq s.cpuInfo GlobalName.cpuidSource.text
  rw [find?_cpuidSource] at hvar
  have hstay : (rdGlobalVars (s.setOut (s.out.setStringVal (some GlobalName.cpuidSource.text)))).out.stringVal =
      some GlobalName.cpuidSource.text := by
    rw [rdGlobalVars_of (s := s.setOut (s.out.setStringVal (some GlobalName.cpuidSource.text))) hvar]
    rfl
  rw [ReadsExactly, exactVar_text]
  intro hgives
  exact decodeState_ne _ (Option.some.inj (hgives.2.2.symm.trans hstay))

/-- **Global variables.** A string gives the variable of that name exactly if it is a name, but not `cpuid_source`, or
starts with no name. -/
theorem readsExactly_iff : ReadsExactly s t ↔
    (∃ v : GlobalName, t = v.text ∧ v ≠ .cpuidSource) ∨ ∀ v : GlobalName, ¬ v.text.toList <+: t.toList := by
  have hvar := globalVar_eq s.cpuInfo t
  cases h : exactVar t with
  | none =>
    have hno : ∀ v : GlobalName, t ≠ v.text := by
      rintro v rfl
      exact Option.some_ne_none v ((exactVar_text v).symm.trans h)
    rw [ReadsExactly, h, or_iff_right fun ⟨v, hv, _⟩ => hno v hv]
    constructor
    · intro hok v hv
      have hfind : (GlobalName.all.find? (GlobalName.starts t)).isSome = true :=
        List.find?_isSome.2 ⟨v, v.mem_all, starts_iff.2 hv⟩
      obtain ⟨w, hw⟩ := Option.isSome_iff_exists.1 hfind
      have hsome := (rdGlobalVars_some s t (hvar.trans (by rw [hw]; rfl))).1
      exact Bool.noConfusion (hsome.symm.trans hok)
    · intro hnone
      have hfind : GlobalName.all.find? (GlobalName.starts t) = none :=
        List.find?_eq_none.2 fun v _ hv => hnone v (starts_iff.1 hv)
      exact rdGlobalVarsOk_none s t (hvar.trans (by rw [hfind]; rfl))
  | some v =>
    obtain rfl := eq_text_of_exactVar h
    rw [ReadsExactly, h]
    by_cases hv : v = .cpuidSource
    · subst hv
      refine iff_of_false (fun hgives => cpuidSource_fails s (by rwa [ReadsExactly, h])) ?_
      · rintro (⟨w, hw, hne⟩ | hnone)
        · obtain rfl := Option.some.inj ((exactVar_text .cpuidSource).symm.trans (hw ▸ exactVar_text w))
          exact hne rfl
        · exact hnone .cpuid (by decide)
    · rw [find?_text hv] at hvar
      exact iff_of_true (rdGlobalVars_some s v.text hvar) (.inl ⟨v, rfl, hv⟩)

end Command

/-- **The name `cpuid_source`** gives the CPUID. -/
theorem cpuidSource_inexact : ¬ ReadsExactly (newSection fun _ => ⟨true, true, 0x40, fun _ => 0⟩).io "cpuid_source" :=
  cpuidSource_fails _

end BmcAcd
