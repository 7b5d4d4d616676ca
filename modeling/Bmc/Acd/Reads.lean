import Bmc.Acd.Flow

/-!
# Commands that are PECI calls

Most of the commands of a section set the size, make some calls and store a variable.

* `Results`: calls with their answers; `Results.returned`: the bytes that they returned;
* `ReadCmd`: such a command, `PeciCmd.reads`: the commands that are of this kind;
* **`execute_reads`**: they do what the source does;
* `ReadCmd.out_exec`, `ReadCmd.val_exec`, `ReadCmd.vars_exec`, `ReadCmd.transcript_exec`: what they
  leave behind.
-/

namespace BmcAcd

open BmcLib

/-! ## Results -/

/-- Calls with their answers. -/
abbrev Results := List (PeciCall × PeciAnswer)

namespace Results

/-- The bytes that were returned. -/
def returned (rs : Results) : List UInt8 := rs.flatMap fun r => slice r.2.data 0 r.1.readLen

/-- All the calls returned `PECI_CC_SUCCESS`. -/
def AllSuccess (rs : Results) : Prop := ∀ r ∈ rs, r.1.status r.2 = .success

/-- All the calls succeeded. -/
def AllOk (rs : Results) : Prop := ∀ r ∈ rs, r.1.Ok r.2

instance (rs : Results) : Decidable rs.AllSuccess := inferInstanceAs (Decidable (∀ _ ∈ rs, _))

instance (rs : Results) : Decidable rs.AllOk := inferInstanceAs (Decidable (∀ _ ∈ rs, _))

theorem AllOk.allSuccess {rs : Results} (h : rs.AllOk) : rs.AllSuccess := fun r hr => (h r hr).1

@[simp] theorem returned_nil : returned [] = [] := rfl

@[simp] theorem returned_cons (r : PeciCall × PeciAnswer) (rs : Results) :
    returned (r :: rs) = slice r.2.data 0 r.1.readLen ++ returned rs := rfl

@[simp] theorem allSuccess_cons {r : PeciCall × PeciAnswer} {rs : Results} :
    AllSuccess (r :: rs) ↔ r.1.status r.2 = .success ∧ AllSuccess rs := List.forall_mem_cons

end Results

/-- The results of calls. -/
def results (calls : List PeciCall) (answers : ℕ → PeciAnswer) : Results :=
  calls.mapIdx fun i c => (c, answers i)

@[simp] theorem results_nil (answers : ℕ → PeciAnswer) : results [] answers = [] := rfl

@[simp] theorem results_cons (c : PeciCall) (calls : List PeciCall) (answers : ℕ → PeciAnswer) :
    results (c :: calls) answers = (c, answers 0) :: results calls fun k => answers (k + 1) := by
  rw [results, List.mapIdx_cons]
  rfl

theorem PeciCall.issued_of_success {c : PeciCall} {a : PeciAnswer} (hc : c.hasCc)
    (h : c.status a = .success) : c.Issued a := by
  unfold PeciCall.status at h
  split_ifs at h with h1 h2 h3 h4
  exact ⟨by simpa using h3, by simpa using h2, hc⟩

/-! ## A sequence of calls -/

/-- `out` behind a sequence of calls, whose data go one behind the other from the byte `pos` on. -/
def PECICmdOutput.receiveAll (o : PECICmdOutput) : ℕ → Results → PECICmdOutput
  | _, [] => o
  | pos, r :: rs => (o.receive r.1 r.2 pos).receiveAll (pos + r.1.readLen) rs

/-- The answers to the next calls. -/
def CmdInOut.answers (s : CmdInOut) : ℕ → PeciAnswer :=
  fun k => s.bus.answers (s.bus.log.length + k)

/-- A sequence of calls. -/
def CmdInOut.issue (s : CmdInOut) : ℕ → List PeciCall → CmdInOut
  | _, [] => s
  | pos, c :: calls => (s.peci c pos).issue (pos + c.readLen) calls

attribute [local grind =] PECICmdOutput.receiveAll CmdInOut.issue

namespace PECICmdOutput

variable {o : PECICmdOutput} {pos : ℕ} {rs : Results}

@[simp] theorem size_receiveAll : (o.receiveAll pos rs).size = o.size := by
  induction rs generalizing o pos with
  | nil => rfl
  | cons r rs ih => rw [receiveAll, ih, receive]

@[simp] theorem printString_receiveAll : (o.receiveAll pos rs).printString = o.printString := by
  induction rs generalizing o pos with
  | nil => rfl
  | cons r rs ih => rw [receiveAll, ih, receive]

theorem ret_receiveAll {r : PeciCall × PeciAnswer} (h : r ∈ rs.getLast?) :
    (o.receiveAll pos rs).ret = r.1.status r.2 := by
  induction rs generalizing o pos with
  | nil => simp at h
  | cons r' rs ih =>
    cases rs with
    | nil =>
      obtain rfl : r' = r := by simpa using h
      rfl
    | cons r'' rs => exact ih (by simpa [List.getLast?_cons_cons] using h)

theorem cc_receiveAll {r : PeciCall × PeciAnswer} (h : r ∈ rs.getLast?) (hi : r.1.Issued r.2) :
    (o.receiveAll pos rs).cc = r.2.cc := by
  induction rs generalizing o pos with
  | nil => simp at h
  | cons r' rs ih =>
    cases rs with
    | nil =>
      obtain rfl : r' = r := by simpa using h
      exact if_pos hi
    | cons r'' rs => exact ih (by simpa [List.getLast?_cons_cons] using h)

/-- **The data of successful calls.** -/
theorem val_receiveAll (h : rs.AllSuccess) : (o.receiveAll pos rs).val = store o.val pos rs.returned := by
  induction rs generalizing o pos with
  | nil => rw [Results.returned_nil, store_nil]; rfl
  | cons r rs ih =>
    obtain ⟨hr, hrs⟩ := Results.allSuccess_cons.mp h
    have hlen : pos + r.1.readLen = pos + (slice r.2.data 0 r.1.readLen).length := by
      rw [length_slice]
    rw [receiveAll, ih hrs, Results.returned_cons, hlen, ← store_append]
    simp only [receive, hr, if_true]

end PECICmdOutput

namespace CmdInOut

variable (s : CmdInOut) (pos : ℕ) (calls : List PeciCall)

theorem answers_peci (c : PeciCall) : (s.peci c pos).answers = fun k => s.answers (k + 1) := by
  funext k
  simp only [answers, peci, Device.answers_call, Device.log_call, List.length_append,
    List.length_cons, List.length_nil]
  congr 1
  omega

theorem out_issue :
    (s.issue pos calls).out = s.out.receiveAll pos (results calls s.answers) := by
  induction calls generalizing s pos with
  | nil => rfl
  | cons c calls ih =>
    rw [issue, ih, answers_peci, results_cons, PECICmdOutput.receiveAll]
    rfl

theorem bus_issue :
    (s.issue pos calls).bus = { s.bus with log := s.bus.log ++ calls } := by
  induction calls generalizing s pos with
  | nil => simp [issue]
  | cons c calls ih =>
    rw [issue, ih]
    simp [peci, Device.call]

@[simp] theorem vars_issue :
    (s.issue pos calls).internalVarsTracker = s.internalVarsTracker := by
  induction calls generalizing s pos with
  | nil => rfl
  | cons c calls ih => rw [issue, ih, peci]

@[simp] theorem varName_issue : (s.issue pos calls).internalVarName = s.internalVarName := by
  induction calls generalizing s pos with
  | nil => rfl
  | cons c calls ih => rw [issue, ih, peci]

end CmdInOut

/-! ## The commands that are calls -/

/-- What a command keeps in its variable. -/
inductive Keep where
  | nothing
  | always
  | ifSuccess
  | ifOk
  deriving DecidableEq, Repr

/-- The number is stored, and not the error. -/
def Keep.StoresValue (rs : Results) : Keep → Prop
  | nothing => False
  | always => True
  | ifSuccess => rs.AllSuccess
  | ifOk => rs.AllOk

instance (rs : Results) : ∀ k : Keep, Decidable (k.StoresValue rs)
  | .nothing => isFalse id
  | .always => isTrue trivial
  | .ifSuccess => inferInstanceAs (Decidable rs.AllSuccess)
  | .ifOk => inferInstanceAs (Decidable rs.AllOk)

/-- A command that sets the size, makes some calls and stores a variable. -/
structure ReadCmd where
  size : Option UInt8
  calls : List PeciCall
  keep : Keep
  deriving DecidableEq, Repr

/-- The size is set. -/
def CmdInOut.resize (s : CmdInOut) : Option UInt8 → CmdInOut
  | none => s
  | some n => s.setOut (s.out.setSize n)

/-- A variable is stored. -/
def CmdInOut.keepVar (s : CmdInOut) (rs : Results) (k : Keep) : CmdInOut :=
  if k = .nothing then s
  else if k.StoresValue rs then s.updateInternalVar
  else s.addVar .error

/-- The run of such a command. -/
def ReadCmd.exec (r : ReadCmd) (s : CmdInOut) : CmdInOut :=
  ((s.resize r.size).issue 0 r.calls).keepVar (results r.calls s.answers) r.keep

section Kinds

variable (ps : Params) (n pos : ℕ)

/-- One call, whose length is the parameter at `pos`. -/
def oneRead (keep : Keep) (call : UInt8 → PeciCall) : ReadCmd where
  size := if pos < ps.length then some (ps.arg8 pos) else none
  calls := if ps.length > n then [] else [call (ps.arg8 pos)]
  keep := if ps.length > n then .nothing else keep

/-- One call, or two for eight bytes. -/
def oneOrTwoReads (call : ℕ → UInt8 → PeciCall) : ReadCmd where
  size := if pos < ps.length then some (ps.arg8 pos) else none
  calls :=
    if ps.length > n then []
    else if ps.arg8 pos = 1 ∨ ps.arg8 pos = 2 ∨ ps.arg8 pos = 4 then [call 0 (ps.arg8 pos)]
    else if ps.arg8 pos = 8 then [call 0 4, call 1 4]
    else []
  keep := if ps.length > n then .nothing else .always

/-- The commands that are of this kind. -/
def PeciCmd.reads (paramsValue : ℤ) : PeciCmd → Option ReadCmd
  | crashDumpDiscovery => some (oneRead ps 6 5 .ifSuccess ps.crashDumpDiscovery)
  | crashDumpGetFrame => some (oneRead ps 5 4 .always ps.crashDumpGetFrame)
  | ping => some ⟨none, [.ping (UInt8.ofInt paramsValue)], .nothing⟩
  | rdEndPointConfigMmio => some (oneRead ps 9 8 .always ps.rdEndPointConfigMmio)
  | rdPCIConfigLocal => some (oneOrTwoReads ps 6 5 ps.rdPCIConfigLocal)
  | rdEndPointConfigPciLocal => some (oneOrTwoReads ps 7 6 ps.rdEndPointConfigPciLocal)
  | wrEndPointConfigPciLocal => some (oneRead ps 8 6 .always ps.wrEndPointConfigPciLocal)
  | rdIAMSR => some (if ps.length > 3 then ⟨none, [], .nothing⟩ else ⟨some 8, [ps.rdIAMSR], .always⟩)
  | rdPkgConfig => some (oneRead ps 4 3 .always ps.rdPkgConfig)
  | rdPkgConfigCore => some (oneRead ps 5 4 .always ps.rdPkgConfigCore)
  | telemetryDiscovery => some (oneRead ps 6 5 .ifOk ps.telemetryDiscovery)
  | _ => none

end Kinds

section Exec

variable (s : CmdInOut) (n pos : ℕ)

theorem takeSize_eq :
    s.takeSize pos = s.resize (if pos < s.params.length then some (s.params.arg8 pos) else none) := by
  unfold CmdInOut.takeSize
  split_ifs <;> rfl

@[simp] theorem params_resize (sz : Option UInt8) : (s.resize sz).params = s.params := by
  cases sz <;> rfl

@[simp] theorem answers_resize (sz : Option UInt8) : (s.resize sz).answers = s.answers := by
  cases sz <;> rfl

theorem ret_peci_resize (sz : Option UInt8) (c : PeciCall) :
    ((s.resize sz).peci c 0).out.ret = c.status (s.answers 0) := by
  cases sz <;> rfl

theorem ok_peci_resize (sz : Option UInt8) {c : PeciCall} (hc : c.hasCc) :
    (((s.resize sz).peci c 0).out.ret ≠ .success ∨
      peciCcUA ((s.resize sz).peci c 0).out.cc) ↔ ¬ c.Ok (s.answers 0) := by
  rw [ret_peci_resize]
  have hcc : c.status (s.answers 0) = .success →
      ((s.resize sz).peci c 0).out.cc = (s.answers 0).cc := by
    intro h
    have hi := PeciCall.issued_of_success hc h
    cases sz <;> exact if_pos hi
  unfold PeciCall.Ok
  constructor
  · rintro (h | h) ⟨hs, hua⟩
    · exact h hs
    · rw [hcc hs] at h
      exact hua hc h
  · intro h
    by_cases hs : c.status (s.answers 0) = .success
    · right
      rw [hcc hs]
      by_contra hua
      exact h ⟨hs, fun _ => hua⟩
    · exact Or.inl hs

theorem oneCall_eq (call : UInt8 → PeciCall) :
    oneCall s n pos call = (oneRead s.params n pos .always call).exec s := by
  unfold oneCall oneRead ReadCmd.exec
  simp only [takeSize_eq, params_resize]
  by_cases h : s.params.length > n
  · simp [h, CmdInOut.issue, CmdInOut.keepVar]
  · simp [h, CmdInOut.issue, CmdInOut.keepVar, Keep.StoresValue]

theorem oneOrTwoCalls_eq (call : ℕ → UInt8 → PeciCall) (hlen : (call 0 4).readLen = 4) :
    oneOrTwoCalls s n pos call = (oneOrTwoReads s.params n pos call).exec s := by
  unfold oneOrTwoCalls oneOrTwoReads ReadCmd.exec
  simp only [takeSize_eq, params_resize]
  by_cases h : s.params.length > n
  · simp [h, CmdInOut.issue, CmdInOut.keepVar]
  · generalize (if pos < s.params.length then some (s.params.arg8 pos) else none) = sz
    by_cases h4 : s.params.arg8 pos = 1 ∨ s.params.arg8 pos = 2 ∨ s.params.arg8 pos = 4
    · simp [h, h4, CmdInOut.issue, CmdInOut.keepVar, Keep.StoresValue]
    by_cases h8 : s.params.arg8 pos = 8
    · have h4' : ¬ ((8 : UInt8) = 1 ∨ (8 : UInt8) = 2 ∨ (8 : UInt8) = 4) := by decide
      simp only [h, h8, h4', if_false, if_true, CmdInOut.issue, CmdInOut.keepVar, Keep.StoresValue,
        hlen, Nat.zero_add, reduceCtorEq]
    · simp [h, h4, h8, CmdInOut.issue, CmdInOut.keepVar, Keep.StoresValue]

theorem crashDumpDiscovery_eq : crashDumpDiscovery s =
    (oneRead s.params 6 5 .ifSuccess s.params.crashDumpDiscovery).exec s := by
  unfold crashDumpDiscovery oneRead ReadCmd.exec
  simp only [takeSize_eq, params_resize]
  by_cases h : s.params.length > 6
  · simp [h, CmdInOut.issue, CmdInOut.keepVar]
  · simp [h, ret_peci_resize, CmdInOut.issue, CmdInOut.keepVar, Keep.StoresValue, Results.AllSuccess]

theorem telemetryDiscovery_eq : telemetryDiscovery s =
    (oneRead s.params 6 5 .ifOk s.params.telemetryDiscovery).exec s := by
  unfold telemetryDiscovery oneRead ReadCmd.exec
  simp only [takeSize_eq, params_resize]
  by_cases h : s.params.length > 6
  · simp [h, CmdInOut.issue, CmdInOut.keepVar]
  · have hcc : (s.params.telemetryDiscovery (s.params.arg8 5)).hasCc := rfl
    simp [h, ok_peci_resize s _ hcc, CmdInOut.issue, CmdInOut.keepVar, Keep.StoresValue,
      Results.AllOk, -ne_eq]

/-- **The commands that are calls.** -/
theorem execute_reads {cmd : PeciCmd} {r : ReadCmd}
    (h : cmd.reads s.params s.paramsValue = some r) : execute (some cmd) s = r.exec s := by
  cases cmd <;> simp only [PeciCmd.reads, Option.some.injEq, reduceCtorEq] at h <;> subst h
  case crashDumpDiscovery => exact crashDumpDiscovery_eq s
  case crashDumpGetFrame => exact oneCall_eq s 5 4 _
  case ping => rfl
  case rdEndPointConfigMmio => exact oneCall_eq s 9 8 _
  case rdPCIConfigLocal => exact oneOrTwoCalls_eq s 6 5 _ rfl
  case rdEndPointConfigPciLocal => exact oneOrTwoCalls_eq s 7 6 _ rfl
  case wrEndPointConfigPciLocal => exact oneCall_eq s 8 6 _
  case rdIAMSR =>
    unfold execute rdIAMSR ReadCmd.exec
    split_ifs <;> rfl
  case rdPkgConfig => exact oneCall_eq s 4 3 _
  case rdPkgConfigCore => exact oneCall_eq s 5 4 _
  case telemetryDiscovery => exact telemetryDiscovery_eq s

end Exec

/-! ## What they leave behind -/

/-- The number that is stored in a variable. -/
def PECICmdOutput.number (o : PECICmdOutput) : ℕ := if o.size = 8 then o.u64 else o.u32

/-- A variable is assigned, if the command names one. -/
def assigned (name : Option String) (v : VarValue) : List (String × VarValue) :=
  name.toList.map fun x => (x, v)

section Effects

variable (s : CmdInOut) (r : ReadCmd)

@[simp] theorem out_addVar (v : VarValue) : (s.addVar v).out = s.out := by
  unfold CmdInOut.addVar
  split <;> rfl

@[simp] theorem bus_addVar (v : VarValue) : (s.addVar v).bus = s.bus := by
  unfold CmdInOut.addVar
  split <;> rfl

theorem vars_addVar (v : VarValue) : (s.addVar v).internalVarsTracker =
    s.internalVarsTracker ++ assigned s.internalVarName v := by
  unfold CmdInOut.addVar assigned
  split <;> rename_i h <;> simp [h]

@[simp] theorem out_updateInternalVar : s.updateInternalVar.out = s.out := out_addVar s _

@[simp] theorem bus_updateInternalVar : s.updateInternalVar.bus = s.bus := bus_addVar s _

theorem vars_updateInternalVar : s.updateInternalVar.internalVarsTracker =
    s.internalVarsTracker ++ assigned s.internalVarName (.hex s.out.number) := vars_addVar s _

theorem out_keepVar (rs : Results) (k : Keep) : (s.keepVar rs k).out = s.out := by
  unfold CmdInOut.keepVar
  split_ifs
  · rfl
  · exact out_updateInternalVar s
  · exact out_addVar s _

theorem bus_keepVar (rs : Results) (k : Keep) : (s.keepVar rs k).bus = s.bus := by
  unfold CmdInOut.keepVar
  split_ifs
  · rfl
  · exact bus_updateInternalVar s
  · exact bus_addVar s _

theorem vars_keepVar (rs : Results) (k : Keep) : (s.keepVar rs k).internalVarsTracker =
    s.internalVarsTracker ++ if k = .nothing then [] else
      assigned s.internalVarName (if k.StoresValue rs then .hex s.out.number else .error) := by
  unfold CmdInOut.keepVar
  split_ifs
  · rw [List.append_nil]
  · exact vars_updateInternalVar s
  · exact vars_addVar s _

/-- The answers to its calls. -/
def ReadCmd.results (r : ReadCmd) (s : CmdInOut) : Results := BmcAcd.results r.calls s.answers

theorem ReadCmd.out_exec :
    (r.exec s).out = (s.resize r.size).out.receiveAll 0 (r.results s) := by
  rw [exec, out_keepVar, CmdInOut.out_issue, answers_resize]
  rfl

theorem ReadCmd.transcript_exec : s.bus.transcript (r.exec s).bus = r.results s := by
  have hbus : (s.resize r.size).bus = s.bus := by cases r.size <;> rfl
  rw [exec, bus_keepVar, CmdInOut.bus_issue, hbus]
  simp [Device.transcript, Device.news, results, BmcAcd.results, CmdInOut.answers]

theorem ReadCmd.vars_exec : (r.exec s).internalVarsTracker =
    s.internalVarsTracker ++ if r.keep = .nothing then [] else
      assigned s.internalVarName
        (if r.keep.StoresValue (r.results s) then .hex (r.exec s).out.number else .error) := by
  have hvars : (s.resize r.size).internalVarsTracker = s.internalVarsTracker := by
    cases r.size <;> rfl
  have hname : (s.resize r.size).internalVarName = s.internalVarName := by cases r.size <;> rfl
  rw [out_exec]
  rw [exec, vars_keepVar, CmdInOut.vars_issue, CmdInOut.varName_issue, CmdInOut.out_issue,
    answers_resize, hvars, hname]
  rfl

theorem ReadCmd.size_exec {n : UInt8} (h : r.size = some n) : (r.exec s).out.size = n := by
  rw [out_exec, PECICmdOutput.size_receiveAll, h]
  rfl

theorem ReadCmd.printString_exec : (r.exec s).out.printString = s.out.printString := by
  rw [out_exec, PECICmdOutput.printString_receiveAll]
  cases r.size <;> rfl

theorem ReadCmd.val_exec (h : (r.results s).AllSuccess) :
    (r.exec s).out.val = store s.out.val 0 (r.results s).returned := by
  rw [out_exec, PECICmdOutput.val_receiveAll h]
  cases r.size <;> rfl

end Effects

end BmcAcd
