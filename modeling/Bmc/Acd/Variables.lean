import Mathlib
import Bmc.Acd.Params

/-!
# Internal variables

The commands of a section assign variables and name them as parameters. `UpdateParams` replaces a name
in the input file by a number, and `ResetParams` puts it back behind the command.

* `trackParam`, `resetParams`: what is put back;
* `FileEvent`, `fileStep`: the run of a section with its input file, and the store `latest` that the
  variables are meant to be;
* `Bound`: the parameters that name variables have their latest values; `AssignedOnce`: the condition;
* **`bound_of_assignedOnce`**: a variable that is assigned once has its latest value.
-/

namespace BmcAcd

open BmcLib

/-! ## The input file -/

/-- What `UpdateParams` notes about the parameter at `pos`. -/
def trackParam (vars : List (String × VarValue)) (pos : ℕ) : Param → List (String × ℕ)
  | .number _ => []
  | .str t =>
    let starts := fun v : String => v.toList.isPrefixOf t.toList
    match vars.lookup t with
    | some _ => [(t, pos)]
    | none =>
      if starts "Target" then [("Target", pos)]
      else if starts "CHA" then [("CHA", pos)]
      else if starts "(CORE*2)+THREAD" then [("(CORE*2)+THREAD", pos)]
      else if starts "Core" then [("Core", pos)]
      else []

/-- The `paramsTracker` of a command. -/
def paramsTracker (vars : List (String × VarValue)) (ps : Params) : List (String × ℕ) :=
  (ps.mapIdx fun pos p => trackParam vars pos p).flatten

/-- `ResetParams`. -/
def resetParams (ps : Params) (tracker : List (String × ℕ)) : Params :=
  tracker.foldl (fun ps x => ps.set x.2 (.str x.1)) ps

/-- The entry with other parameters. -/
def CmdEntry.setParams (e : CmdEntry) (ps : Params) : CmdEntry := { e with params := ps }

/-- A store of variables. -/
abbrev Store := String → Option VarValue

/-- An assignment. -/
def Store.assign (f : Store) (x : String × VarValue) : Store := Function.update f x.1 (some x.2)

/-- The store that a list of assignments leaves. -/
def Store.ofVars (vars : List (String × VarValue)) : Store := fun t => vars.reverse.lookup t

/-- A section with its input file. `content` and `known` are the parameters in the file and the
variables when the command was set up, and `latest` is the value that a variable was assigned last. -/
structure FileState where
  sec : SectionState
  file : List CmdEntry
  current : ℕ
  tracker : List (String × ℕ)
  content : Params
  known : List (String × VarValue)
  latest : Store

/-- What happens in a section: the command `i` of the file is set up, it is repeated, its parameters are
put back; and the loops. -/
inductive FileEvent where
  | start (i : ℕ)
  | run (n : ℕ)
  | finish
  | loop (ctx : Context)
  | unskip
  | newCmdInOut (out : PECICmdOutput)

namespace FileState

variable (s : FileState)

/-- The command `i` of the file is set up. -/
def start (i : ℕ) : FileState :=
  match s.file[i]? with
  | none => s
  | some e =>
    { s with
      sec := s.sec.start e
      file := s.file.set i (e.setParams (s.sec.start e).io.params)
      current := i
      tracker := paramsTracker s.sec.io.internalVarsTracker e.params
      content := e.params
      known := s.sec.io.internalVarsTracker }

/-- A repetition of the command. -/
def run (n : ℕ) : FileState :=
  { s with
    sec := (s.sec.run n).2
    latest := (s.sec.newVars n).foldl Store.assign s.latest }

/-- The parameters of the command are put back. -/
def finish : FileState :=
  { s with
    file := s.file.modify s.current fun e => e.setParams (resetParams e.params s.tracker) }

/-- An event that leaves the file as it is. -/
def other (e : SectionEvent) : FileState := { s with sec := sectionStep s.sec e }

end FileState

/-- The state behind an event. -/
def fileStep (s : FileState) : FileEvent → FileState
  | .start i => s.start i
  | .run n => s.run n
  | .finish => s.finish
  | .loop ctx => s.other (.loop ctx)
  | .unskip => s.other .unskip
  | .newCmdInOut out => s.other (.newCmdInOut out)

/-- The names among the parameters of the command that is set up, with their positions, as they are in
the file `file`. -/
def FileState.names (s : FileState) (file : List CmdEntry) : List (String × ℕ) :=
  ((file[s.current]?).elim [] CmdEntry.params).zipIdx.filterMap fun x => x.1.string.map (·, x.2)

/-- **A store.** Every parameter that names a variable has its latest value. -/
def Bound (file : List CmdEntry) (s : FileState) : FileEvent → Prop
  | .run _ => ∀ x ∈ s.names file, ∀ v ∈ s.latest x.1,
    s.sec.io.params[x.2]? = some (.number (toDouble v.strtoull))
  | _ => True

/-- The number of times that a variable has been assigned. -/
def assignments (vars : List (String × VarValue)) (t : String) : ℕ := (vars.map Prod.fst).count t

/-- Every variable that the command names has been assigned once, before the command was set up; and
until then its name was in the file. -/
def AssignedOnce (file : List CmdEntry) (s : FileState) : FileEvent → Prop
  | .run _ => ∀ x ∈ s.names file, s.latest x.1 ≠ none →
    assignments s.sec.io.internalVarsTracker x.1 = 1 ∧ assignments s.known x.1 = 1 ∧
      s.content[x.2]? = some (.str x.1)
  | _ => True

instance (file : List CmdEntry) (s : FileState) : ∀ e, Decidable (Bound file s e)
  | .run _ => inferInstanceAs (Decidable (∀ x ∈ s.names file, ∀ v ∈ s.latest x.1, _))
  | .start _ => isTrue trivial
  | .finish => isTrue trivial
  | .loop _ => isTrue trivial
  | .unskip => isTrue trivial
  | .newCmdInOut _ => isTrue trivial

instance (file : List CmdEntry) (s : FileState) : ∀ e, Decidable (AssignedOnce file s e)
  | .run _ => inferInstanceAs (Decidable (∀ x ∈ s.names file, _ → _ ∧ _ ∧ _))
  | .start _ => isTrue trivial
  | .finish => isTrue trivial
  | .loop _ => isTrue trivial
  | .unskip => isTrue trivial
  | .newCmdInOut _ => isTrue trivial

/-! ## The parameters are put back -/

/-- Where all the notes about a position agree, the parameter is put back. -/
theorem getElem?_resetParams {ps : Params} {tracker : List (String × ℕ)} {pos : ℕ} {t : String}
    (hpos : pos < ps.length) (hall : ∀ x ∈ tracker, x.2 = pos → x.1 = t)
    (h : (∃ x ∈ tracker, x.2 = pos) ∨ ps[pos]? = some (.str t)) :
    (resetParams ps tracker)[pos]? = some (.str t) := by
  induction tracker generalizing ps with
  | nil =>
    rcases h with ⟨x, hx, -⟩ | h
    · simp at hx
    · exact h
  | cons x tracker ih =>
    have hall' : ∀ y ∈ tracker, y.2 = pos → y.1 = t := fun y hy => hall y (List.mem_cons_of_mem x hy)
    have hset : resetParams ps (x :: tracker) = resetParams (ps.set x.2 (.str x.1)) tracker := rfl
    rw [hset]
    refine ih (by rwa [List.length_set]) hall' ?_
    by_cases hx : x.2 = pos
    · right
      rw [hx, hall x List.mem_cons_self hx, List.getElem?_set_self hpos]
    · rcases h with ⟨y, hy, hy'⟩ | h
      · rcases List.mem_cons.mp hy with rfl | hy
        · exact absurd hy' hx
        · exact Or.inl ⟨y, hy, hy'⟩
      · right
        rwa [List.getElem?_set_ne hx]

/-- What is noted about a position comes from the parameter there. -/
theorem mem_paramsTracker {vars : List (String × VarValue)} {ps : Params} {x : String × ℕ} :
    x ∈ paramsTracker vars ps ↔
      ∃ pos, ∃ h : pos < ps.length, x ∈ trackParam vars pos (ps.get ⟨pos, h⟩) := by
  simp only [paramsTracker, List.mem_flatten, List.mem_mapIdx]
  constructor
  · rintro ⟨l, ⟨pos, h, rfl⟩, hx⟩
    exact ⟨pos, h, hx⟩
  · rintro ⟨pos, h, hx⟩
    exact ⟨_, ⟨pos, h, rfl⟩, hx⟩

theorem snd_trackParam {vars : List (String × VarValue)} {pos : ℕ} {p : Param} {x : String × ℕ}
    (h : x ∈ trackParam vars pos p) : x.2 = pos := by
  cases p with
  | number n => simp [trackParam] at h
  | str t =>
    simp only [trackParam] at h
    cases hv : vars.lookup t with
    | some v =>
      simp only [hv] at h
      obtain rfl := List.mem_singleton.mp h
      rfl
    | none =>
      simp only [hv] at h
      split_ifs at h <;> first
        | exact absurd h List.not_mem_nil
        | (obtain rfl := List.mem_singleton.mp h; rfl)

/-! ## The latest value -/

/-- A command only adds to the variables. -/
theorem vars_executed (s : SectionState) :
    ∃ l, s.executed.internalVarsTracker = s.io.internalVarsTracker ++ l := by
  cases hskip : s.own.skipped with
  | true =>
    rw [s.executed_skip hskip]
    exact ⟨[], (List.append_nil _).symm⟩
  | false =>
    rw [s.executed_run hskip]
    generalize hio : s.io.setOut (s.io.out.setPrintString false) = io
    have hvars : s.io.internalVarsTracker = io.internalVarsTracker := by rw [← hio]; rfl
    rw [hvars]
    cases s.entry.cmd with
    | none => exact ⟨[], (List.append_nil _).symm⟩
    | some cmd =>
      cases hr : cmd.reads io.params io.paramsValue with
      | some r =>
        rw [execute_reads io hr, ReadCmd.vars_exec]
        exact ⟨_, rfl⟩
      | none =>
        cases hm : cmd.makes io.params with
        | some m =>
          rw [execute_makes hm, vars_make (storedWidth_le_of_makes hm)]
          exact ⟨_, rfl⟩
        | none =>
          obtain ⟨o, b, hidle, -⟩ := execute_idle cmd io hr hm
          rw [hidle]
          exact ⟨[], (List.append_nil _).symm⟩

theorem vars_run (s : SectionState) (n : ℕ) :
    (s.run n).2.io.internalVarsTracker = s.io.internalVarsTracker ++ s.newVars n := by
  obtain ⟨l, hl⟩ := vars_executed s
  rw [(s.run_io n).vars, s.newVars_eq, hl, List.drop_left]

/-- Assignments, one after the other, and the latest one. -/
theorem assign_ofVars (vars : List (String × VarValue)) (x : String × VarValue) :
    (Store.ofVars vars).assign x = Store.ofVars (vars ++ [x]) := by
  funext t
  rw [Store.ofVars, List.reverse_append, List.reverse_singleton, List.singleton_append]
  by_cases h : t = x.1
  · subst h
    simp [Store.assign, List.lookup]
  · have hb : (t == x.1) = false := beq_eq_false_iff_ne.mpr h
    simp [Store.assign, Store.ofVars, Function.update_of_ne h, List.lookup, hb]

theorem foldl_assign (vars l : List (String × VarValue)) :
    l.foldl Store.assign (Store.ofVars vars) = Store.ofVars (vars ++ l) := by
  induction l generalizing vars with
  | nil => rw [List.append_nil]; rfl
  | cons x l ih => rw [List.foldl_cons, assign_ofVars, ih, List.append_assoc]; rfl

theorem mem_of_lookup {vars : List (String × VarValue)} {t : String} {v : VarValue}
    (h : vars.lookup t = some v) : (t, v) ∈ vars := by
  induction vars with
  | nil => simp at h
  | cons x vars ih =>
    obtain ⟨y, w⟩ := x
    rw [List.lookup_cons] at h
    split at h
    · rename_i hy
      obtain rfl := beq_iff_eq.mp hy
      obtain rfl := Option.some.inj h
      exact List.mem_cons_self
    · exact List.mem_cons_of_mem _ (ih h)

theorem assignments_cons (x : String × VarValue) (vars : List (String × VarValue)) (t : String) :
    assignments (x :: vars) t = assignments vars t + if x.1 = t then 1 else 0 := by
  rw [assignments, List.map_cons, List.count_cons]
  simp [assignments]

theorem assignments_pos {vars : List (String × VarValue)} {t : String} {v : VarValue}
    (h : (t, v) ∈ vars) : 0 < assignments vars t :=
  List.count_pos_iff.mpr (List.mem_map_of_mem h)

/-- A variable that was assigned once has one value. -/
theorem eq_of_assignments_one {vars : List (String × VarValue)} {t : String} {v w : VarValue}
    (h : assignments vars t = 1) (hv : (t, v) ∈ vars) (hw : (t, w) ∈ vars) : v = w := by
  induction vars with
  | nil => simp at hv
  | cons x vars ih =>
    rw [assignments_cons] at h
    rcases List.mem_cons.mp hv with hv | hv
    · rcases List.mem_cons.mp hw with hw | hw
      · exact (Prod.mk.inj (hv.trans hw.symm)).2
      · have hpos := assignments_pos hw
        rw [← hv, if_pos rfl] at h
        omega
    · have hpos := assignments_pos hv
      rcases List.mem_cons.mp hw with hw | hw
      · rw [← hw, if_pos rfl] at h
        omega
      · split_ifs at h
        · omega
        · exact ih h hv hw

theorem lookup_of_assignments {vars : List (String × VarValue)} {t : String}
    (h : assignments vars t = 1) : ∃ v, vars.lookup t = some v := by
  have hmem : t ∈ vars.map Prod.fst := List.count_pos_iff.mp (by rw [assignments] at h; omega)
  obtain ⟨x, hx, rfl⟩ := List.mem_map.mp hmem
  cases hl : vars.lookup x.1 with
  | some v => exact ⟨v, rfl⟩
  | none =>
    have := List.lookup_eq_none_iff.mp hl x hx
    simp at this

/-! ## Runs -/

/-- What holds in a run of a section. -/
structure FileState.Inv (s : FileState) : Prop where
  latest : s.latest = Store.ofVars s.sec.io.internalVarsTracker
  known : s.known <+: s.sec.io.internalVarsTracker
  params : ∀ (pos : ℕ) (t : String) (v : VarValue), s.content[pos]? = some (.str t) → s.known.lookup t = some v →
    s.sec.io.params[pos]? = some (.number (toDouble v.strtoull))

theorem FileState.Inv.start {s : FileState} (h : s.Inv) (i : ℕ) : (s.start i).Inv := by
  unfold FileState.start
  cases he : s.file[i]? with
  | none => exact h
  | some e =>
    refine ⟨h.latest, List.prefix_rfl, fun pos t v hc hv => ?_⟩
    show (e.params.map _)[pos]? = _
    rw [List.getElem?_map, hc]
    simp only [Option.map_some, updateParam]
    rw [show s.sec.io.internalVarsTracker.lookup t = some v from hv]

theorem FileState.Inv.run {s : FileState} (h : s.Inv) (n : ℕ) : (s.run n).Inv := by
  have hvars := vars_run s.sec n
  refine ⟨?_, ?_, fun pos t v hc hv => ?_⟩
  · show (s.sec.newVars n).foldl Store.assign s.latest = _
    rw [h.latest, foldl_assign, ← hvars]
    rfl
  · exact h.known.trans (hvars ▸ List.prefix_append _ _)
  · exact (congrArg (fun ps : Params => ps[pos]?) (sameCommand_run s.sec n).params).trans
      (h.params pos t v hc hv)

theorem FileState.Inv.step {s : FileState} (h : s.Inv) (e : FileEvent) : (fileStep s e).Inv := by
  cases e with
  | start i => exact h.start i
  | run n => exact h.run n
  | finish => exact ⟨h.latest, h.known, h.params⟩
  | loop ctx => exact ⟨h.latest, h.known, h.params⟩
  | unskip => exact ⟨h.latest, h.known, h.params⟩
  | newCmdInOut out => exact ⟨h.latest, h.known, h.params⟩

/-- **One repetition.** -/
theorem FileState.Inv.bound {s : FileState} (h : s.Inv) {file : List CmdEntry} {e : FileEvent}
    (he : AssignedOnce file s e) : Bound file s e := by
  cases e with
  | run n =>
    intro x hx v hv
    have hne : s.latest x.1 ≠ none := by
      rw [Option.mem_def.mp hv]
      simp
    obtain ⟨hone, hknown, hc⟩ := he x hx hne
    obtain ⟨w, hw⟩ := lookup_of_assignments hknown
    have hwmem : (x.1, w) ∈ s.sec.io.internalVarsTracker := h.known.subset (mem_of_lookup hw)
    have hvmem : (x.1, v) ∈ s.sec.io.internalVarsTracker := by
      rw [h.latest] at hv
      exact List.mem_reverse.mp (mem_of_lookup hv)
    obtain rfl := eq_of_assignments_one hone hvmem hwmem
    exact h.params x.2 x.1 v hc hw
  | _ => trivial

/-- A section at its start, with its input file. -/
def FileState.begin (sec : SectionState) (file : List CmdEntry) : FileState :=
  ⟨sec, file, 0, [], [], [], fun _ => none⟩

/-- **Variables that are assigned once.** In every run of a section in which every command runs only
while the variables that it names have been assigned once, before the command was set up, its
parameters have the latest values. -/
theorem bound_of_assignedOnce (sec : SectionState) (file : List CmdEntry) (es : List FileEvent)
    (hsec : sec.io.internalVarsTracker = [])
    (h : AllSteps fileStep (AssignedOnce file) (FileState.begin sec file) es) :
    AllSteps fileStep (Bound file) (FileState.begin sec file) es := by
  refine h.imp_inv (I := FileState.Inv) (fun s e hs he => ⟨hs.bound he, hs.step e⟩)
    ⟨?_, List.nil_prefix, ?_⟩
  · show (fun _ => none) = Store.ofVars sec.io.internalVarsTracker
    rw [hsec]
    rfl
  · intro pos t v hc
    simp [FileState.begin] at hc

/-- A command that assigns the variable `V`. -/
def assignEntry : CmdEntry where
  cmd := some .rdPkgConfig
  paramsValue := 0
  params := [.str "Target", .number 0, .str "CHA", .number 4]
  name := none
  outputSize := none
  repeats := none
  internalVar := some "V"

/-- A command that names the variable `V`. -/
def useEntry : CmdEntry where
  cmd := some .rdPkgConfig
  paramsValue := 0
  params := [.str "Target", .number 1, .str "V", .number 4]
  name := none
  outputSize := none
  repeats := none
  internalVar := none

/-- The events of a command that runs once. -/
def runOnce (i : ℕ) : List FileEvent := [.start i, .run 1, .finish]

/-- A CPU that returns other data every time. -/
def newData : ℕ → PeciAnswer := fun k => ⟨true, true, 0x40, fun _ => UInt8.ofNat k⟩

/-- The variable is assigned before the loop. -/
theorem bound_before_loop : AllSteps fileStep (Bound [assignEntry, useEntry])
    (FileState.begin (newSection newData) [assignEntry, useEntry])
    (runOnce 0 ++ .loop ⟨0, 0, 0⟩ :: runOnce 1 ++ .loop ⟨0, 0, 1⟩ :: runOnce 1) :=
  bound_of_assignedOnce _ _ _ rfl (by decide +kernel)

/-- The variable is assigned in the loop, and its first value is the one that is used. -/
theorem not_bound_in_loop : ¬ AllSteps fileStep (Bound [assignEntry, useEntry])
    (FileState.begin (newSection newData) [assignEntry, useEntry])
    (.loop ⟨0, 0, 0⟩ :: runOnce 0 ++ runOnce 1 ++ .loop ⟨0, 0, 1⟩ :: runOnce 0 ++ runOnce 1) := by
  decide +kernel

end BmcAcd
