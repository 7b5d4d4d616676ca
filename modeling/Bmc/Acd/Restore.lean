import Bmc.Lib.Run
import Bmc.Lib.Search
import Bmc.Acd.Variables

/-!
# The parameters are restored

Before a command runs `UpdateParams` replaces elements of `Params` by numbers, and behind it `ResetParams` puts strings
back.

* `ParamEnv`, `paramRound`: one round of both; `SameParams`: the list denotes the same parameters;
* `restored`, with `getElem?_paramRound`: what becomes of one element;
* `toDouble_eq_self_iff`, `toDouble_strtoull_iff`: the numbers that a `double` holds;
* **`sameParams_iff`**: in a run of rounds the parameters stay the same exactly if every round keeps every element.
-/

namespace BmcAcd

open BmcLib

/-! ## Rounds -/

/-- What a round depends on: the CPU, the internal variables, and the indices of the loops. -/
structure ParamEnv where
  info : CPUInfo
  vars : List (String × VarValue)
  ctx : Context

/-- `UpdateParams`, and then `ResetParams`. -/
def paramRound (ps : Params) (env : ParamEnv) : Params :=
  resetParams (ps.map (updateParam env.info env.vars env.ctx)) (paramsTracker env.vars ps)

/-- An element denotes the same parameter: it is the same, or the value of the hexadecimal number that was there. -/
def SameParam (p p' : Param) : Prop :=
  p' = p ∨ ∃ t digits, p = .str t ∧ hexDigits t = some digits ∧ p' = .number (hexValue digits)

/-- **The list denotes the same parameters**, position by position. -/
def SameParams (ps ps' : Params) : Prop := List.Forall₂ SameParam ps ps'

/-- The placeholders, in the order of the comparisons. -/
def placeholders : List String := ["Target", "CHA", "(CORE*2)+THREAD", "Core"]

/-- The placeholder that the comparisons find in a string. -/
def placeholder (t : String) : Option String := placeholders.find? fun v => v.toList.isPrefixOf t.toList

/-- A `double` holds the number: it has at most 53 significant bits, and `strtoull` can return it, or rounding up gives
it. -/
def Representable (n : ℕ) : Prop := n ≤ 2 ^ 64 ∧ 2 ^ (n.log2 - 52) ∣ n

/-- The round keeps an element: it is a number, the name of a variable, or a string that starts with a placeholder only if
it is one, and is a hexadecimal number only if a `double` holds it. -/
def ParamEnv.Keeps (env : ParamEnv) : Param → Prop
  | .number _ => True
  | .str t => env.vars.lookup t ≠ none ∨
      (∀ v ∈ placeholders, v.toList <+: t.toList → t = v) ∧
        ∀ digits, hexDigits t = some digits → Representable (hexValue digits)

/-! ## One element -/

/-- What a round makes of an element. -/
def ParamEnv.restored (env : ParamEnv) : Param → Param
  | .number n => .number n
  | .str t =>
    if env.vars.lookup t ≠ none then .str t
    else match placeholder t with
      | some v => .str v
      | none => match hexDigits t with
        | some digits => .number (toDouble (strtoull digits))
        | none => .str t

section Element

variable {env : ParamEnv} {ps ps' : Params} {pos : ℕ}

/-- A position without notes stays as it is. -/
theorem getElem?_resetParams_of_forall_ne {tracker : List (String × ℕ)} (h : ∀ x ∈ tracker, x.2 ≠ pos) :
    (resetParams ps tracker)[pos]? = ps[pos]? := by
  induction tracker generalizing ps with
  | nil => rfl
  | cons x tracker ih =>
    have hset : resetParams ps (x :: tracker) = resetParams (ps.set x.2 (.str x.1)) tracker := rfl
    rw [hset, ih fun y hy => h y (List.mem_cons_of_mem x hy), List.getElem?_set_ne (h x List.mem_cons_self)]

/-- The chain of comparisons. -/
theorem trackParam_str (vars : List (String × VarValue)) (t : String) (hv : vars.lookup t = none) :
    trackParam vars pos (.str t) = ((placeholder t).map fun v => (v, pos)).toList := by
  rw [placeholder, placeholders]
  simp only [map_find?_cons, List.find?_nil, Option.map_none, trackParam, hv]
  split_ifs <;> rfl

theorem updateParam_str (t : String) (hv : env.vars.lookup t = none) (hp : placeholder t = none) :
    updateParam env.info env.vars env.ctx (.str t) =
      match hexDigits t with
      | some digits => .number (toDouble (strtoull digits))
      | none => .str t := by
  have hno : ∀ v ∈ placeholders, ¬ v.toList.isPrefixOf t.toList = true := List.find?_eq_none.1 hp
  have h1 := hno "Target" (by decide)
  have h2 := hno "CHA" (by decide)
  have h3 := hno "(CORE*2)+THREAD" (by decide)
  have h4 := hno "Core" (by decide)
  cases hdigits : hexDigits t with
  | none => simp only [updateParam, hv, if_neg h1, if_neg h2, if_neg h3, if_neg h4, hdigits]
  | some digits => simp only [updateParam, hv, if_neg h1, if_neg h2, if_neg h3, if_neg h4, hdigits]

theorem length_resetParams (ps : Params) (tracker : List (String × ℕ)) : (resetParams ps tracker).length = ps.length := by
  induction tracker generalizing ps with
  | nil => rfl
  | cons x tracker ih => exact (ih (ps.set x.2 (.str x.1))).trans List.length_set

/-- The notes about a position come from its element. -/
theorem mem_trackParam_of_mem {vars : List (String × VarValue)} {p : Param} {x : String × ℕ} (hp : ps[pos]? = some p)
    (hx : x ∈ paramsTracker vars ps) (h : x.2 = pos) : x ∈ trackParam vars pos p := by
  obtain ⟨pos', hlt, hx'⟩ := mem_paramsTracker.1 hx
  obtain rfl : pos' = pos := (snd_trackParam hx').symm.trans h
  obtain ⟨_, hget⟩ := List.getElem?_eq_some_iff.1 hp
  rwa [← hget]

theorem mem_paramsTracker_of_mem {vars : List (String × VarValue)} {p : Param} {x : String × ℕ} (hp : ps[pos]? = some p)
    (hx : x ∈ trackParam vars pos p) : x ∈ paramsTracker vars ps := by
  obtain ⟨hlt, hget⟩ := List.getElem?_eq_some_iff.1 hp
  refine mem_paramsTracker.2 ⟨pos, hlt, ?_⟩
  rwa [List.get_eq_getElem, hget]

/-- An element without a note. -/
theorem getElem?_paramRound_of_nil {p : Param} (hp : ps[pos]? = some p) (h : trackParam env.vars pos p = []) :
    (paramRound ps env)[pos]? = some (updateParam env.info env.vars env.ctx p) := by
  have hne : ∀ x ∈ paramsTracker env.vars ps, x.2 ≠ pos := fun x hx hx2 =>
    List.not_mem_nil (h ▸ mem_trackParam_of_mem hp hx hx2)
  rw [paramRound, getElem?_resetParams_of_forall_ne hne, List.getElem?_map, hp, Option.map_some]

/-- An element with a note. -/
theorem getElem?_paramRound_of_note {p : Param} {t : String} (hp : ps[pos]? = some p)
    (h : trackParam env.vars pos p = [(t, pos)]) : (paramRound ps env)[pos]? = some (.str t) := by
  have hlt : pos < (ps.map (updateParam env.info env.vars env.ctx)).length := by
    rw [List.length_map]
    exact (List.getElem?_eq_some_iff.1 hp).1
  refine getElem?_resetParams hlt (fun x hx hx2 => ?_) (.inl ⟨(t, pos), ?_, rfl⟩)
  · have hmem := mem_trackParam_of_mem hp hx hx2
    rw [h] at hmem
    exact congrArg Prod.fst (List.mem_singleton.1 hmem)
  · exact mem_paramsTracker_of_mem hp (by rw [h]; exact List.mem_singleton_self _)

/-- **One element** behind a round. -/
theorem getElem?_paramRound (env : ParamEnv) (ps : Params) (pos : ℕ) :
    (paramRound ps env)[pos]? = ps[pos]?.map env.restored := by
  cases hp : ps[pos]? with
  | none =>
    rw [List.getElem?_eq_none_iff] at hp
    rw [Option.map_none, List.getElem?_eq_none_iff, paramRound, length_resetParams, List.length_map]
    exact hp
  | some p =>
    cases p with
    | number n => exact getElem?_paramRound_of_nil hp rfl
    | str t =>
      cases hv : env.vars.lookup t with
      | some v =>
        have hnote : trackParam env.vars pos (.str t) = [(t, pos)] := by simp only [trackParam, hv]
        rw [getElem?_paramRound_of_note hp hnote, Option.map_some, ParamEnv.restored, if_pos (by simp [hv])]
      | none =>
        have htrack : trackParam env.vars pos (.str t) = ((placeholder t).map fun v => (v, pos)).toList :=
          trackParam_str env.vars t hv
        rw [Option.map_some, ParamEnv.restored, if_neg (by simp [hv])]
        cases hf : placeholder t with
        | some v =>
          rw [hf] at htrack
          exact getElem?_paramRound_of_note hp htrack
        | none =>
          rw [hf] at htrack
          rw [getElem?_paramRound_of_nil hp htrack, updateParam_str t hv hf]

theorem paramRound_eq (ps : Params) (env : ParamEnv) : paramRound ps env = ps.map env.restored :=
  List.ext_getElem? fun pos => by rw [getElem?_paramRound, List.getElem?_map]

end Element

/-! ## Numbers -/

/-- **Rounding** keeps a number exactly if it has at most 53 significant bits. -/
theorem toDouble_eq_self_iff (n : ℕ) : toDouble n = n ↔ 2 ^ (n.log2 - 52) ∣ n := by
  unfold toDouble
  split_ifs with hn
  · have hlog : n.log2 - 52 = 0 := by
      by_cases h0 : n = 0
      · subst h0
        rfl
      · have := (Nat.log2_lt h0).2 hn
        omega
    rw [hlog, pow_zero]
    exact iff_of_true rfl (one_dvd n)
  · dsimp only
    generalize hu : 2 ^ (n.log2 - 52) = u
    have hpos : 0 < u := by rw [← hu]; positivity
    have hdiv := Nat.div_add_mod n u
    rw [Nat.dvd_iff_mod_eq_zero, Nat.mul_comm] at *
    split_ifs with hround
    · constructor <;> intro h <;> omega
    · rw [Nat.add_mul, Nat.one_mul]
      have hlt := Nat.mod_lt n hpos
      refine iff_of_false (fun h => by omega) fun h => hround ?_
      left
      omega

/-- **Hexadecimal strings.** The number that replaces one is its value exactly if a `double` holds it. -/
theorem toDouble_strtoull_iff (digits : List Char) :
    toDouble (strtoull digits) = hexValue digits ↔ Representable (hexValue digits) := by
  have hstr : strtoull digits = min (2 ^ 64 - 1) (hexValue digits) := rfl
  rw [hstr, Representable]
  generalize hexValue digits = n
  by_cases hn : n ≤ 2 ^ 64 - 1
  · rw [min_eq_right hn, toDouble_eq_self_iff]
    exact ⟨fun h => ⟨by omega, h⟩, fun h => h.2⟩
  · -- `strtoull` returns its largest value, which is rounded up
    have hmax : toDouble (2 ^ 64 - 1) = 2 ^ 64 := by decide +kernel
    rw [min_eq_left (not_le.1 hn).le, hmax]
    constructor
    · rintro rfl
      exact ⟨le_refl _, by decide +kernel⟩
    · rintro ⟨hle, -⟩
      omega

/-! ## Runs -/

theorem eq_of_prefix_placeholder :
    ∀ v ∈ placeholders, ∀ w ∈ placeholders, w.toList.isPrefixOf v.toList = true → v = w := by decide

theorem hexDigits_placeholder : ∀ v ∈ placeholders, hexDigits v = none := by decide

theorem sameParam_number_iff {t : String} {digits : List Char} (h : hexDigits t = some digits) (n : ℕ) :
    SameParam (.str t) (.number n) ↔ n = hexValue digits := by
  constructor
  · rintro (h' | ⟨t', digits', ht, hd, hn⟩)
    · exact absurd h' (by simp)
    · obtain rfl := Param.str.inj ht
      obtain rfl := Option.some.inj (h.symm.trans hd)
      exact Int.ofNat_inj.1 (Param.number.inj hn)
  · rintro rfl
    exact .inr ⟨t, digits, rfl, h, rfl⟩

theorem sameParam_str_iff (t v : String) : SameParam (.str t) (.str v) ↔ t = v := by
  constructor
  · rintro (h | ⟨_, _, _, _, h⟩)
    · exact (Param.str.inj h).symm
    · exact absurd h (by simp)
  · rintro rfl
    exact .inl rfl

/-- **One round** on one element. -/
theorem sameParam_restored_iff (env : ParamEnv) (p : Param) : SameParam p (env.restored p) ↔ env.Keeps p := by
  cases p with
  | number n => exact iff_of_true (.inl rfl) trivial
  | str t =>
    by_cases hv : env.vars.lookup t = none
    · rw [ParamEnv.restored, if_neg (not_not.2 hv), ParamEnv.Keeps, or_iff_right (not_not.2 hv)]
      cases hf : placeholder t with
      | some v =>
        have hmem : v ∈ placeholders := List.mem_of_find?_eq_some hf
        have hpre : v.toList <+: t.toList :=
          List.isPrefixOf_iff_prefix.1 (List.find?_some (p := fun v : String => v.toList.isPrefixOf t.toList) hf)
        refine (sameParam_str_iff t v).trans ⟨?_, fun h => h.1 v hmem hpre⟩
        rintro rfl
        refine ⟨fun w hw hpre' => eq_of_prefix_placeholder t hmem w hw (List.isPrefixOf_iff_prefix.2 hpre'), ?_⟩
        intro digits hd
        rw [hexDigits_placeholder t hmem] at hd
        exact absurd hd (by simp)
      | none =>
        have hno : ∀ v ∈ placeholders, v.toList <+: t.toList → t = v := fun v hmem hpre =>
          absurd (List.isPrefixOf_iff_prefix.2 hpre) (List.find?_eq_none.1 hf v hmem)
        rw [and_iff_right hno]
        cases hd : hexDigits t with
        | none => exact iff_of_true (.inl rfl) fun _ h => absurd h (by simp)
        | some digits =>
          refine (sameParam_number_iff hd _).trans ((toDouble_strtoull_iff digits).trans ?_)
          exact ⟨fun h _ hd' => Option.some.inj hd' ▸ h, fun h => h digits rfl⟩
    · rw [ParamEnv.restored, if_pos hv]
      exact iff_of_true (.inl rfl) (.inl hv)

/-- An element that denotes the same parameter as the one at the start. -/
theorem SameParam.same_restored_iff {p q : Param} (h : SameParam p q) (env : ParamEnv) :
    SameParam p (env.restored q) ↔ env.Keeps q := by
  rcases h with rfl | ⟨t, digits, rfl, hd, rfl⟩
  · exact sameParam_restored_iff env q
  · exact iff_of_true (.inr ⟨t, digits, rfl, hd, rfl⟩) trivial

theorem SameParams.paramRound_iff {ps qs : Params} (h : SameParams ps qs) (env : ParamEnv) :
    SameParams ps (paramRound qs env) ↔ ∀ q ∈ qs, env.Keeps q := by
  rw [paramRound_eq, SameParams]
  induction h with
  | nil => exact iff_of_true .nil fun _ h => absurd h List.not_mem_nil
  | cons hpq _ ih => rw [List.map_cons, List.forall₂_cons, hpq.same_restored_iff, ih, List.forall_mem_cons]

/-- **The parameters are restored.** In a run of rounds, with any CPUs, variables and indices, the list denotes the
parameters of the input file behind every round exactly if every round keeps every element. -/
theorem sameParams_iff (ps : Params) (envs : List ParamEnv) :
    Always paramRound (SameParams ps) ps envs ↔
      AllSteps paramRound (fun qs env => ∀ q ∈ qs, env.Keeps q) ps envs := by
  have hstart : SameParams ps ps := List.forall₂_same.2 fun _ _ => .inl rfl
  have hround : ∀ qs env, True → SameParams ps qs → (SameParams ps (paramRound qs env) ↔ ∀ q ∈ qs, env.Keeps q) :=
    fun _ env _ h => SameParams.paramRound_iff h env
  exact always_iff_allSteps (fun _ _ (h : True) => h) hround trivial hstart envs

/-- An environment without variables. -/
def noVars : ParamEnv := ⟨oneCore, [], ⟨0, 0, 0⟩⟩

/-- **A string that starts with a placeholder** is cut to it. -/
theorem placeholder_cut : ¬ Always paramRound (SameParams [.str "CHA_MASK"]) [.str "CHA_MASK"] [noVars] := by
  intro h
  have hend : paramRound [.str "CHA_MASK"] noVars = [.str "CHA"] := by decide
  have hsame : SameParams [.str "CHA_MASK"] [.str "CHA"] := hend ▸ h.2
  have hstr := (sameParam_str_iff "CHA_MASK" "CHA").1 (List.forall₂_cons.1 hsame).1
  exact absurd hstr (by decide)

end BmcAcd
