import Bmc.Acd.Reads
import Bmc.Lib.Loop

/-!
# Stale data

All the commands of a section share one `out`, which is never cleared. What is logged for a command,
and what is stored in its variable, is its own only if the command wrote what is read.

* `Own`: what is a command's own; `Own.item`, `Own.stored`: what it should log and store;
* `SectionState.Careful`: a command of which only own data are read;
* `run_item`, `run_newVars`: such a command logs and stores what it should;
* **`untainted_of_careful`**: in a run of such commands every value is the command's own.
-/

namespace BmcAcd

open BmcLib

/-! ## What is a command's own -/

/-- The data of a command that no command before it has left: its entry with the bound parameters,
the answers to its calls, and whether it is skipped. -/
structure Own where
  entry : CmdEntry
  logSize : Option UInt8
  params : Params
  paramsValue : ℤ
  internalVarName : Option String
  cpuInfo : CPUInfo
  answers : ℕ → PeciAnswer
  skipped : Bool

/-- The own data of the command that is set up. -/
def SectionState.own (s : SectionState) : Own where
  entry := s.entry
  logSize := s.entry.outputSize.map fun _ => s.nameSize
  params := s.io.params
  paramsValue := s.io.paramsValue
  internalVarName := s.io.internalVarName
  cpuInfo := s.io.cpuInfo
  answers := s.io.answers
  skipped := s.checkTime.skipFlag

/-- The number of bytes that are printed for a register of the size `size`. -/
def width (size : UInt8) : ℕ := if size = 1 ∨ size = 2 ∨ size = 4 then size.toNat else 8

/-- The number of bytes that are stored in a variable. -/
def storedWidth (size : UInt8) : ℕ := if size = 8 then 8 else 4

/-- The commands that make a value from their parameters, with its size and its bytes. -/
def PeciCmd.makes (ps : Params) : PeciCmd → Option (UInt8 × List UInt8)
  | rdPostEnumBus =>
    if ps.length > 4 ∨ ¬ checkBit (ps.argU32 0) (ps.arg 2) then none
    else some (1, leBytes 4 (((ps.argU32 1).toNat >>> (ps.arg8 3).toNat) % 256))
  | rdChaCount =>
    if ps.length > 2 then none
    else some (1, leBytes 4 (popcount (ps.argU32 0).toNat + popcount (ps.argU32 1).toNat))
  | rdAndConcatenate =>
    if ps.length > 2 then none
    else some (8, leBytes 4 (ps.argU32 0).toNat ++ leBytes 4 (ps.argU32 1).toNat)
  | _ => none

namespace Own

variable (c : Own)

/-- The results of a command that is calls. -/
def results (r : ReadCmd) : Results := BmcAcd.results r.calls c.answers

/-- The read of `peci_GetCPUID`. -/
def cpuidCall : PeciCall := .rdPkgConfig (UInt8.ofInt c.paramsValue) 0 0 4

/-- What a command that is calls should log. -/
def readItem (r : ReadCmd) : LogItem :=
  match (c.results r).getLast? with
  | none => .na
  | some (call, a) =>
    let val := leNat ((c.results r).returned.take (width (c.logSize.getD (r.size.getD 0))))
    if call.status a ≠ .success then .failed a.cc (call.status a)
    else if peciCcUA a.cc then .warned val a.cc (call.status a)
    else .plain val

/-- What `RdGlobalVars` should log. -/
def globalItem : LogItem :=
  match (lastString c.params).bind (globalVar c.cpuInfo) with
  | some (.number size n) => .plain (leNat ((leBytes 8 n).take (width (c.logSize.getD size))))
  | some (.string v) => .string (some v)
  | none => .plain 0

/-- What the command should log. -/
def item : LogItem :=
  match c.entry.cmd with
  | none => .na
  | some cmd =>
    match cmd.reads c.params c.paramsValue, cmd.makes c.params, cmd with
    | some r, _, _ => c.readItem r
    | none, some (size, bytes), _ => .plain (leNat (bytes.take (width (c.logSize.getD size))))
    | none, none, .getCPUID => .failed (c.answers 1).cc (c.cpuidCall.status (c.answers 1))
    | none, none, .rdGlobalVars => c.globalItem
    | none, none, .saveStrVars => .string (lastString c.params)
    | none, none, _ => .na

/-- What a command that is calls should store. -/
def readValue (r : ReadCmd) : VarValue :=
  if r.keep.StoresValue (c.results r) then
    .hex (leNat ((c.results r).returned.take (storedWidth (r.size.getD 0))))
  else .error

/-- What the command should store. -/
def stored : List (String × VarValue) :=
  match c.entry.cmd with
  | none => []
  | some cmd =>
    match cmd.reads c.params c.paramsValue, cmd.makes c.params with
    | some r, _ => if r.keep = .nothing then [] else assigned c.internalVarName (c.readValue r)
    | none, some (size, bytes) =>
      assigned c.internalVarName (.hex (leNat (bytes.take (storedWidth size))))
    | none, none => []

/-! ## The condition -/

/-- `n` bytes of `out` are bytes that were returned, and no others of the `size` bytes count. -/
def Covers (n : ℕ) (size : UInt8) (rs : Results) : Prop :=
  n ≤ rs.returned.length ∧
    (rs.AllOk → ∀ b ∈ (rs.returned.take size.toNat).drop n, b = 0)

instance (n : ℕ) (size : UInt8) (rs : Results) : Decidable (Covers n size rs) :=
  inferInstanceAs (Decidable (_ ∧ (_ → ∀ _ ∈ _, _)))

/-- A command that is calls logs only what is its own: the last call returned a completion code, it
succeeded only if the others did, and the bytes that are printed were read. -/
def LogsRead (r : ReadCmd) : Prop :=
  ∃ last ∈ (c.results r).getLast?, last.1.Issued last.2 ∧
    (last.1.status last.2 = .success → (c.results r).AllSuccess ∧
      ∃ size ∈ r.size, Covers (width (c.logSize.getD size)) size (c.results r)) ∧
    (last.1.Ok last.2 → (c.results r).AllOk)

/-- A command that is calls stores only what is its own: if the number is stored, all the calls
succeeded, and the bytes that are stored were read. -/
def StoresRead (r : ReadCmd) : Prop :=
  r.keep.StoresValue (c.results r) → (c.results r).AllSuccess ∧
    ∃ size ∈ r.size, Covers (storedWidth size) size (c.results r)

/-- `GetCPUID` reaches its read, and the read fails. -/
def CpuidFails : Prop :=
  (PeciCall.ping (UInt8.ofInt c.paramsValue)).status (c.answers 0) = .success ∧
    c.cpuidCall.Issued (c.answers 1) ∧ c.cpuidCall.status (c.answers 1) ≠ .success

/-- A command logs only what is its own; `string` is the string in `out`. -/
def Logs (string : Option String) : Prop :=
  match c.entry.cmd with
  | none => False
  | some cmd =>
    match cmd.reads c.params c.paramsValue, cmd.makes c.params, cmd with
    | some r, _, _ => c.LogsRead r
    | none, some (size, bytes), _ => width (c.logSize.getD size) ≤ bytes.length
    | none, none, .getCPUID => c.CpuidFails
    | none, none, .rdGlobalVars => string = lastString c.params ∧ string ≠ none
    | none, none, .saveStrVars => string = lastString c.params ∧ string ≠ none
    | none, none, _ => False

/-- A command stores only what is its own. -/
def Stores : Prop :=
  match c.entry.cmd with
  | none => True
  | some cmd =>
    match cmd.reads c.params c.paramsValue with
    | some r => c.StoresRead r
    | none => True

end Own

/-- Only own data of the command are read: where it is logged, and where it assigns a variable. A
command that is skipped is logged as such if no string is left to be printed. -/
def SectionState.Careful (s : SectionState) : Prop :=
  if s.own.skipped then s.entry.name ≠ none → s.io.out.printString = false
  else
    (s.entry.name ≠ none → s.own.Logs s.io.out.stringVal) ∧
      (s.io.internalVarName ≠ none → s.own.Stores)

/-! ## The guarantee -/

/-- An entry that shows an error. -/
def LogItem.IsError : LogItem → Prop
  | failed _ _ => True
  | warned _ _ _ => True
  | _ => False

namespace SectionState

variable (s : SectionState) (n : ℕ)

/-- The calls that the command makes, with their answers. -/
def made : Results := s.io.bus.transcript (s.run n).2.io.bus

/-- The number that the first `out.size` bytes form that the calls returned. -/
def ownNumber : ℕ := leNat ((s.made n).returned.take (s.run n).2.io.out.size.toNat)

/-- The variables that the command assigns. -/
def newVars : List (String × VarValue) :=
  (s.run n).2.io.internalVarsTracker.drop s.io.internalVarsTracker.length

/-- The value that is logged and the value that is stored are the command's own. -/
structure Untainted : Prop where
  value : s.made n ≠ [] → (s.made n).AllOk →
    (∀ i ∈ (s.run n).1, i = .plain (s.ownNumber n)) ∧ ∀ x ∈ s.newVars n, x.2 = .hex (s.ownNumber n)
  error : ¬ (s.made n).AllOk → ∀ i ∈ (s.run n).1, i.IsError
  same : ∀ (s' : SectionState) (n' : ℕ), s'.own = s.own → s'.Careful → (s'.run n').1 = (s.run n).1 ∧
    s'.newVars n' = s.newVars n

end SectionState

/-! ## A repetition of a command -/

/-- The value of the register that is logged from `o`. -/
def loggedItem (skipFlag : Bool) (size : UInt8) (o : PECICmdOutput) : LogItem :=
  if o.printString then .string o.stringVal
  else logItem skipFlag (o.setVal (maskVal size o.val))

namespace SectionState

variable (s : SectionState) (n : ℕ)

/-- The data of the command behind its execution. -/
def executed : CmdInOut := s.checkTime.execute.io

theorem executed_skip (h : s.own.skipped = true) : s.executed = s.io := by
  have h' : s.checkTime.skipFlag = true := h
  rw [executed, execute, if_pos h']
  rfl

theorem executed_run (h : s.own.skipped = false) :
    s.executed = BmcAcd.execute s.entry.cmd (s.io.setOut (s.io.out.setPrintString false)) := by
  have h' : ¬ s.checkTime.skipFlag = true := by
    rw [show s.checkTime.skipFlag = false from h]
    decide
  rw [executed, execute, if_neg h']
  rfl

theorem execute_eq : s.checkTime.execute = s.checkTime.setIo s.executed := by
  rw [executed, execute]
  split_ifs <;> rfl

theorem logValue_fst : s.logValue.1 = loggedItem s.skipFlag s.nameSize s.io.out := by
  unfold logValue loggedItem
  split_ifs <;> rfl

theorem io_logTimeouts : s.logTimeouts.io = s.io := by
  unfold logTimeouts
  split_ifs <;> dsimp only <;> split_ifs <;> rfl

/-- The fields of the data that the logger leaves as they are. -/
structure SameData (s t : CmdInOut) : Prop where
  bus : t.bus = s.bus
  vars : t.internalVarsTracker = s.internalVarsTracker
  size : t.out.size = s.out.size

theorem logValue_io : SameData s.io s.logValue.2.io := by
  unfold logValue
  split_ifs
  · exact ⟨rfl, rfl, rfl⟩
  · dsimp only
    split_ifs
    · rw [io_logTimeouts]
      exact ⟨rfl, rfl, rfl⟩
    · exact ⟨rfl, rfl, rfl⟩

theorem logger_fst : (s.logger n).1 = s.entry.name.map fun _ =>
    loggedItem s.skipFlag ((s.entry.outputSize.map fun _ => s.nameSize).getD s.io.out.size)
      s.io.out := by
  unfold logger
  cases hname : s.entry.name with
  | none => rfl
  | some name =>
    cases hsize : s.entry.outputSize with
    | none => exact congrArg some (logValue_fst _)
    | some k => exact congrArg some (logValue_fst _)

theorem logger_io : SameData s.io (s.logger n).2.io := by
  unfold logger
  cases hname : s.entry.name with
  | none => exact ⟨rfl, rfl, rfl⟩
  | some name =>
    cases hsize : s.entry.outputSize with
    | none => exact logValue_io (s.setNameSize s.io.out.size)
    | some k => exact logValue_io s

/-- **What is logged.** -/
theorem run_fst : (s.run n).1 = s.entry.name.map fun _ =>
    loggedItem s.own.skipped (s.own.logSize.getD s.executed.out.size) s.executed.out := by
  have hrun : (s.run n).1 = (s.checkTime.execute.logger n).1 := by
    rw [run]
    split_ifs <;> rfl
  rw [hrun, execute_eq, logger_fst]
  rfl

theorem run_io : SameData s.executed (s.run n).2.io := by
  have hrun : (s.run n).2.io = (s.checkTime.execute.logger n).2.io := by
    rw [run]
    split_ifs <;> rfl
  rw [hrun, execute_eq]
  exact logger_io (s.checkTime.setIo s.executed) n

theorem made_eq : s.made n = s.io.bus.transcript s.executed.bus := by
  rw [made, (run_io s n).bus]

theorem newVars_eq : s.newVars n =
    s.executed.internalVarsTracker.drop s.io.internalVarsTracker.length := by
  rw [newVars, (run_io s n).vars]

end SectionState

/-! ## The numbers that are read -/

theorem width_le (size : UInt8) : width size ≤ 8 := by
  unfold width
  split_ifs with h
  · rcases h with rfl | rfl | rfl <;> decide
  · exact le_refl 8

/-- The bytes from `n` on are cleared. -/
theorem leNat_slice_clear (val : ℕ → UInt8) {n : ℕ} (h : n ≤ 8) :
    leNat (slice (fun i => if n ≤ i ∧ i < 8 then 0 else val i) 0 8) = leNat (slice val 0 n) := by
  obtain ⟨k, hk⟩ := Nat.exists_eq_add_of_le h
  have hlow : slice (fun i => if n ≤ i ∧ i < 8 then 0 else val i) 0 n = slice val 0 n :=
    slice_congr fun i _ hi => if_neg (by omega)
  have hhigh : slice (fun i => if n ≤ i ∧ i < 8 then 0 else val i) (0 + n) k = List.replicate k 0 := by
    rw [List.eq_replicate_iff]
    refine ⟨length_slice _ _ _, fun b hb => ?_⟩
    obtain ⟨i, hi, rfl⟩ := List.mem_map.mp hb
    have := List.mem_range.mp hi
    exact if_pos (by omega)
  rw [hk, slice_add, ← hk, hlow, hhigh, leNat_append, leNat_zeros, Nat.mul_zero, Nat.add_zero]

/-- What is printed. -/
theorem u64_maskVal (o : PECICmdOutput) (size : UInt8) :
    (o.setVal (maskVal size o.val)).u64 = leNat (slice o.val 0 (width size)) := by
  unfold maskVal PECICmdOutput.u64
  split_ifs with h1 h2 h4
  · subst h1
    exact leNat_slice_clear o.val (by decide)
  · subst h2
    exact leNat_slice_clear o.val (by decide)
  · subst h4
    exact leNat_slice_clear o.val (by decide)
  · rw [width, if_neg (by tauto)]
    rfl

theorem number_eq (o : PECICmdOutput) : o.number = leNat (slice o.val 0 (storedWidth o.size)) := by
  unfold PECICmdOutput.number storedWidth
  split_ifs <;> rfl

/-- The entry of a command that is not skipped. -/
theorem loggedItem_eq {size : UInt8} {o : PECICmdOutput} (hp : o.printString = false) :
    loggedItem false size o =
      if o.ret ≠ .success then .failed o.cc o.ret
      else if peciCcUA o.cc then .warned (leNat (slice o.val 0 (width size))) o.cc o.ret
      else .plain (leNat (slice o.val 0 (width size))) := by
  rw [← u64_maskVal, loggedItem, if_neg (by simp [hp])]
  rfl

theorem loggedItem_success {size : UInt8} {o : PECICmdOutput} (hp : o.printString = false)
    (hret : o.ret = .success) (hcc : o.cc = peciDevCcSuccess) :
    loggedItem false size o = .plain (leNat (slice o.val 0 (width size))) := by
  have hua : ¬ peciCcUA peciDevCcSuccess := by decide
  rw [loggedItem_eq hp, if_neg (not_not.mpr hret), hcc, if_neg hua]

/-- The bytes of a command that are read, if it covers them. -/
theorem leNat_take_of_covers {n : ℕ} {size : UInt8} {rs : Results} (h : Own.Covers n size rs)
    (hle : rs.returned.length ≤ size.toNat) (hok : rs.AllOk) :
    leNat (rs.returned.take n) = leNat (rs.returned.take size.toNat) := by
  obtain ⟨hn, hzero⟩ := h
  have hsplit := List.take_append_drop n (rs.returned.take size.toNat)
  have hzeros : (rs.returned.take size.toNat).drop n =
      List.replicate ((rs.returned.take size.toNat).drop n).length 0 :=
    List.eq_replicate_iff.mpr ⟨rfl, hzero hok⟩
  have hmin : min n size.toNat = n := Nat.min_eq_left (hn.trans hle)
  rw [← hsplit, leNat_append, hzeros, leNat_zeros, Nat.mul_zero, Nat.add_zero, List.take_take, hmin]

/-! ## Commands that are calls -/

section Reads

variable {s : SectionState} {cmd : PeciCmd} {r : ReadCmd}

theorem eq_of_mem_size {ps : Params} {pos : ℕ} {size : UInt8}
    (h : size ∈ if pos < ps.length then some (ps.arg8 pos) else none) : ps.arg8 pos = size := by
  split_ifs at h
  · simpa using h
  · simp at h

theorem length_oneRead_le {ps : Params} {n pos : ℕ} {k : Keep} {call : UInt8 → PeciCall}
    {answers : ℕ → PeciAnswer} {size : UInt8} (hsize : size ∈ (oneRead ps n pos k call).size)
    (hlen : ∀ m, (call m).readLen ≤ m.toNat) :
    (results (oneRead ps n pos k call).calls answers).returned.length ≤ size.toNat := by
  obtain rfl := eq_of_mem_size hsize
  unfold oneRead
  dsimp only
  split_ifs
  · simp
  · simpa using hlen (ps.arg8 pos)

theorem length_oneOrTwoReads_le {ps : Params} {n pos : ℕ} {call : ℕ → UInt8 → PeciCall}
    {answers : ℕ → PeciAnswer} {size : UInt8} (hsize : size ∈ (oneOrTwoReads ps n pos call).size)
    (hlen : ∀ k m, (call k m).readLen ≤ m.toNat) :
    (results (oneOrTwoReads ps n pos call).calls answers).returned.length ≤ size.toNat := by
  obtain rfl := eq_of_mem_size hsize
  unfold oneOrTwoReads
  dsimp only
  split_ifs with h1 h2 h3
  · simp
  · simpa using hlen 0 (ps.arg8 pos)
  · have h0 : (call 0 4).readLen ≤ 4 := hlen 0 4
    have h4 : (call 1 4).readLen ≤ 4 := hlen 1 4
    rw [h3]
    simp only [results_cons, results_nil, Results.returned_cons, Results.returned_nil,
      List.length_append, length_slice, List.length_nil]
    exact Nat.add_le_add h0 h4
  · simp

theorem length_returned_le {ps : Params} {v : ℤ} {answers : ℕ → PeciAnswer} {size : UInt8}
    (h : cmd.reads ps v = some r) (hsize : size ∈ r.size) :
    (results r.calls answers).returned.length ≤ size.toNat := by
  cases cmd <;> simp only [PeciCmd.reads, Option.some.injEq, reduceCtorEq] at h <;> subst h
  case crashDumpDiscovery => exact length_oneRead_le hsize fun _ => le_refl _
  case crashDumpGetFrame => exact length_oneRead_le hsize fun _ => le_refl _
  case ping => simp at hsize
  case rdEndPointConfigMmio => exact length_oneRead_le hsize fun _ => le_refl _
  case rdPCIConfigLocal => exact length_oneOrTwoReads_le hsize fun _ _ => le_refl _
  case rdEndPointConfigPciLocal => exact length_oneOrTwoReads_le hsize fun _ _ => le_refl _
  case wrEndPointConfigPciLocal => exact length_oneRead_le hsize fun _ => Nat.zero_le _
  case rdIAMSR =>
    split_ifs at hsize ⊢
    · simp at hsize
    · obtain rfl : 8 = size := by simpa using hsize
      simp [Params.rdIAMSR, PeciCall.readLen]
  case rdPkgConfig => exact length_oneRead_le hsize fun _ => le_refl _
  case rdPkgConfigCore => exact length_oneRead_le hsize fun _ => le_refl _
  case telemetryDiscovery => exact length_oneRead_le hsize fun _ => le_refl _

/-- The data behind a command that is calls. -/
theorem executed_reads (hskip : s.own.skipped = false) (hcmd : s.entry.cmd = some cmd)
    (hr : cmd.reads s.io.params s.io.paramsValue = some r) :
    s.executed = r.exec (s.io.setOut (s.io.out.setPrintString false)) := by
  rw [s.executed_run hskip, hcmd]
  exact execute_reads _ hr

theorem item_reads (hskip : s.own.skipped = false) (hcmd : s.entry.cmd = some cmd)
    (hr : cmd.reads s.io.params s.io.paramsValue = some r) (h : s.own.LogsRead r) :
    loggedItem s.own.skipped (s.own.logSize.getD s.executed.out.size) s.executed.out =
      s.own.readItem r := by
  obtain ⟨last, hlast, hissued, hsuccess, -⟩ := h
  have hres : r.results (s.io.setOut (s.io.out.setPrintString false)) = s.own.results r := rfl
  have hret : s.executed.out.ret = last.1.status last.2 := by
    rw [executed_reads hskip hcmd hr, ReadCmd.out_exec, hres]
    exact PECICmdOutput.ret_receiveAll hlast
  have hcc : s.executed.out.cc = last.2.cc := by
    rw [executed_reads hskip hcmd hr, ReadCmd.out_exec, hres]
    exact PECICmdOutput.cc_receiveAll hlast hissued
  have hp : s.executed.out.printString = false := by
    rw [executed_reads hskip hcmd hr, ReadCmd.printString_exec]
    rfl
  have hlast' : (s.own.results r).getLast? = some (last.1, last.2) := hlast
  rw [hskip, loggedItem_eq hp, hret, hcc, Own.readItem, hlast']
  dsimp only
  by_cases hs : last.1.status last.2 = .success
  · obtain ⟨hall, size, hsize, hcov, -⟩ := hsuccess hs
    have hsz : s.executed.out.size = size := by
      rw [executed_reads hskip hcmd hr]
      exact ReadCmd.size_exec _ _ hsize
    have hval : s.executed.out.val = store s.io.out.val 0 (s.own.results r).returned := by
      rw [executed_reads hskip hcmd hr]
      exact ReadCmd.val_exec _ _ hall
    have hgetD : r.size.getD 0 = size := by
      rw [Option.mem_def.mp hsize]
      rfl
    rw [hsz, hval, slice_store_zero hcov, hgetD]
  · rw [if_pos hs, if_pos hs]

theorem newVars_reads (hskip : s.own.skipped = false) (hcmd : s.entry.cmd = some cmd)
    (hr : cmd.reads s.io.params s.io.paramsValue = some r)
    (h : s.io.internalVarName ≠ none → s.own.StoresRead r) (n : ℕ) :
    s.newVars n = if r.keep = .nothing then [] else
      assigned s.io.internalVarName (s.own.readValue r) := by
  have hres : r.results (s.io.setOut (s.io.out.setPrintString false)) = s.own.results r := rfl
  have hname : (s.io.setOut (s.io.out.setPrintString false)).internalVarName =
    s.io.internalVarName := rfl
  have hvars : (s.io.setOut (s.io.out.setPrintString false)).internalVarsTracker =
    s.io.internalVarsTracker := rfl
  rw [s.newVars_eq, executed_reads hskip hcmd hr, ReadCmd.vars_exec, hres, hname, hvars,
    List.drop_left]
  by_cases hk : r.keep = .nothing
  · rw [if_pos hk, if_pos hk]
  rw [if_neg hk, if_neg hk, Own.readValue]
  cases hvar : s.io.internalVarName with
  | none => rfl
  | some x =>
    by_cases hv : r.keep.StoresValue (s.own.results r)
    · obtain ⟨hall, size, hsize, hcov, -⟩ := h (by simp [hvar]) hv
      have hgetD : r.size.getD 0 = size := by
        rw [Option.mem_def.mp hsize]
        rfl
      have hval := ReadCmd.val_exec (s.io.setOut (s.io.out.setPrintString false)) r hall
      rw [if_pos hv, if_pos hv, number_eq, ReadCmd.size_exec _ _ hsize, hval, hres,
        slice_store_zero hcov, hgetD]
    · rw [if_neg hv, if_neg hv]

theorem made_reads (hskip : s.own.skipped = false) (hcmd : s.entry.cmd = some cmd)
    (hr : cmd.reads s.io.params s.io.paramsValue = some r) (n : ℕ) :
    s.made n = s.own.results r := by
  rw [s.made_eq, executed_reads hskip hcmd hr]
  exact ReadCmd.transcript_exec (s.io.setOut (s.io.out.setPrintString false)) r

end Reads

/-! ## The other commands -/

/-- A value that is made, with its bytes in `out`. -/
def CmdInOut.make (s : CmdInOut) (size : UInt8) (bytes : List UInt8) : CmdInOut :=
  let s := (s.setOut ((s.out.setSize size).setVal (store s.out.val 0 bytes))).updateInternalVar
  s.setOut (s.out.setStatus .success peciDevCcSuccess)

section Others

theorem execute_makes {s : CmdInOut} {cmd : PeciCmd} {size : UInt8} {bytes : List UInt8}
    (h : cmd.makes s.params = some (size, bytes)) : execute (some cmd) s = s.make size bytes := by
  cases cmd <;> simp only [PeciCmd.makes, reduceCtorEq] at h
  case rdPostEnumBus =>
    split_ifs at h with hc
    obtain ⟨rfl, rfl⟩ := Prod.mk.inj (Option.some.inj h)
    obtain ⟨hlen, hbit⟩ := not_or.mp hc
    unfold execute rdPostEnumBus
    rw [if_neg hlen, if_neg hbit]
    rfl
  case rdChaCount =>
    split_ifs at h with hlen
    obtain ⟨rfl, rfl⟩ := Prod.mk.inj (Option.some.inj h)
    unfold execute rdChaCount
    rw [if_neg hlen]
    rfl
  case rdAndConcatenate =>
    split_ifs at h with hlen
    obtain ⟨rfl, rfl⟩ := Prod.mk.inj (Option.some.inj h)
    unfold execute rdAndConcatenate
    have hval : store (store s.out.val 4 (leBytes 4 (s.params.argU32 1).toNat)) 0
        (leBytes 4 (s.params.argU32 0).toNat) = store s.out.val 0
          (leBytes 4 (s.params.argU32 0).toNat ++ leBytes 4 (s.params.argU32 1).toNat) := by
      rw [store_comm (by simp), ← store_append, length_leBytes]
    rw [if_neg hlen, hval]
    rfl

theorem storedWidth_le_of_makes {ps : Params} {cmd : PeciCmd} {size : UInt8} {bytes : List UInt8}
    (h : cmd.makes ps = some (size, bytes)) : storedWidth size ≤ bytes.length := by
  cases cmd <;> simp only [PeciCmd.makes, reduceCtorEq] at h <;> split_ifs at h <;>
    obtain ⟨rfl, rfl⟩ := Prod.mk.inj (Option.some.inj h) <;> simp [storedWidth]

theorem out_make (s : CmdInOut) (size : UInt8) (bytes : List UInt8) :
    (s.make size bytes).out = ((s.out.setSize size).setVal (store s.out.val 0 bytes)).setStatus
      .success peciDevCcSuccess := by
  unfold CmdInOut.make
  dsimp only [CmdInOut.setOut]
  rw [out_updateInternalVar]

theorem bus_make (s : CmdInOut) (size : UInt8) (bytes : List UInt8) :
    (s.make size bytes).bus = s.bus := by
  unfold CmdInOut.make
  dsimp only [CmdInOut.setOut]
  rw [bus_updateInternalVar]

theorem vars_make {s : CmdInOut} {size : UInt8} {bytes : List UInt8}
    (h : storedWidth size ≤ bytes.length) : (s.make size bytes).internalVarsTracker =
      s.internalVarsTracker ++
        assigned s.internalVarName (.hex (leNat (bytes.take (storedWidth size)))) := by
  unfold CmdInOut.make
  dsimp only [CmdInOut.setOut]
  rw [vars_updateInternalVar, number_eq]
  dsimp only [PECICmdOutput.setVal, PECICmdOutput.setSize]
  rw [slice_store_zero h]

theorem leNat_take_leBytes_zero (k : ℕ) : leNat ((leBytes 8 0).take k) = 0 := by
  have hz : leBytes 8 0 = List.replicate 8 0 := by decide
  rw [hz, List.take_replicate, leNat_zeros]

theorem item_make {s : CmdInOut} {size w : UInt8} {bytes : List UInt8}
    (hp : s.out.printString = false) (h : width w ≤ bytes.length) :
    loggedItem false w (s.make size bytes).out = .plain (leNat (bytes.take (width w))) := by
  rw [out_make]
  refine (loggedItem_success ?_ rfl rfl).trans ?_
  · exact hp
  · exact congrArg (fun l => LogItem.plain (leNat l)) (slice_store_zero h)

theorem item_global {s : CmdInOut} (c : Own) (hinfo : c.cpuInfo = s.cpuInfo)
    (hstr : s.out.stringVal = lastString c.params) (hp : s.out.printString = false) :
    loggedItem false (c.logSize.getD (rdGlobalVars s).out.size) (rdGlobalVars s).out =
      c.globalItem := by
  have hlen : ∀ w n, width w ≤ (leBytes 8 n).length := fun w n => by
    rw [length_leBytes]
    exact width_le w
  have hs : (s.out.setStatus .success peciDevCcSuccess).stringVal = lastString c.params := hstr
  unfold Own.globalItem rdGlobalVars
  rw [hinfo]
  dsimp only
  rw [hs]
  cases (lastString c.params).bind (globalVar s.cpuInfo) with
  | none =>
    dsimp only
    rw [loggedItem_success rfl rfl rfl]
    refine congrArg LogItem.plain ?_
    exact (congrArg leNat (slice_store_zero (hlen _ _))).trans (leNat_take_leBytes_zero _)
  | some g =>
    cases g with
    | number size n =>
      dsimp only
      refine (loggedItem_success ?_ rfl rfl).trans ?_
      · exact hp
      · exact congrArg (fun l => LogItem.plain (leNat l)) (slice_store_zero (hlen _ _))
    | string v => rfl

theorem getCPUID_fails {s : CmdInOut} {c : Own} (hv : c.paramsValue = s.paramsValue)
    (ha : c.answers = s.answers) (h : c.CpuidFails) :
    (getCPUID s).out.ret = c.cpuidCall.status (c.answers 1) ∧
      (getCPUID s).out.cc = (c.answers 1).cc ∧
      (getCPUID s).out.printString = s.out.printString ∧
      (getCPUID s).bus = (s.bus.call (.ping (UInt8.ofInt s.paramsValue))).call c.cpuidCall := by
  obtain ⟨hping, hissued, -⟩ := h
  have h0 : s.bus.answer = c.answers 0 := by rw [ha]; rfl
  have h1 : (s.bus.call (.ping (UInt8.ofInt s.paramsValue))).answer = c.answers 1 := by
    rw [ha, Device.answer, Device.answers_call, Device.log_call, List.length_append]
    rfl
  unfold Own.cpuidCall at hissued ⊢
  rw [hv] at hping hissued ⊢
  unfold getCPUID
  dsimp only
  rw [h0, h1, if_neg (not_not.mpr hping), if_pos hissued]
  exact ⟨rfl, rfl, rfl, rfl⟩

theorem item_cpuid {s : CmdInOut} {c : Own} {w : UInt8} (hv : c.paramsValue = s.paramsValue)
    (ha : c.answers = s.answers) (hp : s.out.printString = false) (h : c.CpuidFails) :
    loggedItem false w (getCPUID s).out =
      .failed (c.answers 1).cc (c.cpuidCall.status (c.answers 1)) := by
  obtain ⟨hret, hcc, hp', -⟩ := getCPUID_fails hv ha h
  rw [loggedItem_eq (hp'.trans hp), hret, hcc, if_pos h.2.2]

end Others

/-! ## Careful commands -/

section Careful

variable {s : SectionState}

/-- **What a careful command logs.** -/
theorem run_item (hskip : s.own.skipped = false)
    (h : s.entry.name ≠ none → s.own.Logs s.io.out.stringVal) (n : ℕ) :
    (s.run n).1 = s.entry.name.map fun _ => s.own.item := by
  rw [s.run_fst]
  cases hname : s.entry.name with
  | none => rfl
  | some name =>
    refine congrArg some ?_
    have hlogs := h (by simp [hname])
    have hown : s.own.params = s.io.params ∧ s.own.paramsValue = s.io.paramsValue ∧
      s.own.entry = s.entry := ⟨rfl, rfl, rfl⟩
    unfold Own.Logs at hlogs
    unfold Own.item
    rw [hown.1, hown.2.1, hown.2.2] at hlogs ⊢
    cases hcmd : s.entry.cmd with
    | none => simp [hcmd] at hlogs
    | some cmd =>
      simp only [hcmd] at hlogs ⊢
      have hexec := s.executed_run hskip
      rw [hcmd] at hexec
      cases hr : cmd.reads s.io.params s.io.paramsValue with
      | some r =>
        simp only [hr] at hlogs ⊢
        exact item_reads hskip hcmd hr hlogs
      | none =>
        cases hm : cmd.makes s.io.params with
        | some m =>
          obtain ⟨size, bytes⟩ := m
          simp only [hr, hm] at hlogs ⊢
          have hmake : BmcAcd.execute (some cmd) (s.io.setOut (s.io.out.setPrintString false)) =
            (s.io.setOut (s.io.out.setPrintString false)).make size bytes := execute_makes hm
          have hsize := congrArg PECICmdOutput.size
            (out_make (s.io.setOut (s.io.out.setPrintString false)) size bytes)
          rw [hexec, hmake, hskip, hsize]
          exact item_make rfl hlogs
        | none =>
          simp only [hr, hm] at hlogs ⊢
          rw [hexec, hskip]
          cases cmd
          case getCPUID => exact item_cpuid rfl rfl rfl hlogs
          case rdGlobalVars => exact item_global _ rfl hlogs.1 rfl
          case saveStrVars => exact congrArg LogItem.string hlogs.1
          all_goals exact absurd hlogs id

/-- The other commands change only `out`; `GetCPUID` makes calls, too. -/
theorem execute_idle (cmd : PeciCmd) (io : CmdInOut) (hr : cmd.reads io.params io.paramsValue = none)
    (hm : cmd.makes io.params = none) :
    ∃ o b, execute (some cmd) io = { io with out := o, bus := b } ∧
      (cmd ≠ .getCPUID → b = io.bus) := by
  cases cmd <;> simp only [PeciCmd.reads, reduceCtorEq] at hr
  case getCPUID =>
    unfold execute getCPUID
    dsimp only
    split_ifs <;> exact ⟨_, _, rfl, fun h => absurd rfl h⟩
  case rdPostEnumBus =>
    unfold execute rdPostEnumBus
    simp only [PeciCmd.makes] at hm
    split_ifs at hm with h
    rcases h with h | h
    · rw [if_pos h]
      exact ⟨_, _, rfl, fun _ => rfl⟩
    · rw [if_pos h, ite_self]
      exact ⟨_, _, rfl, fun _ => rfl⟩
  case rdChaCount =>
    unfold execute rdChaCount
    simp only [PeciCmd.makes] at hm
    split_ifs at hm with h
    rw [if_pos h]
    exact ⟨_, _, rfl, fun _ => rfl⟩
  case rdAndConcatenate =>
    unfold execute rdAndConcatenate
    simp only [PeciCmd.makes] at hm
    split_ifs at hm with h
    rw [if_pos h]
    exact ⟨_, _, rfl, fun _ => rfl⟩
  case rdGlobalVars =>
    unfold execute rdGlobalVars
    dsimp only
    split <;> exact ⟨_, _, rfl, fun _ => rfl⟩
  all_goals exact ⟨_, _, rfl, fun _ => rfl⟩

/-- **What a careful command stores.** -/
theorem run_newVars (hskip : s.own.skipped = false)
    (h : s.io.internalVarName ≠ none → s.own.Stores) (n : ℕ) : s.newVars n = s.own.stored := by
  have hown : s.own.params = s.io.params ∧ s.own.paramsValue = s.io.paramsValue ∧
    s.own.entry = s.entry := ⟨rfl, rfl, rfl⟩
  have hexec := s.executed_run hskip
  unfold Own.Stores at h
  unfold Own.stored
  rw [hown.1, hown.2.1, hown.2.2] at h ⊢
  cases hcmd : s.entry.cmd with
  | none =>
    rw [s.newVars_eq, hexec, hcmd]
    exact List.drop_length
  | some cmd =>
    simp only [hcmd] at h ⊢
    rw [hcmd] at hexec
    cases hr : cmd.reads s.io.params s.io.paramsValue with
    | some r =>
      simp only [hr] at h ⊢
      exact newVars_reads hskip hcmd hr h n
    | none =>
      cases hm : cmd.makes s.io.params with
      | some m =>
        obtain ⟨size, bytes⟩ := m
        have hmake : BmcAcd.execute (some cmd) (s.io.setOut (s.io.out.setPrintString false)) =
          (s.io.setOut (s.io.out.setPrintString false)).make size bytes := execute_makes hm
        rw [s.newVars_eq, hexec, hmake, vars_make (storedWidth_le_of_makes hm)]
        exact List.drop_left
      | none =>
        obtain ⟨o, b, hidle, -⟩ :=
          execute_idle cmd (s.io.setOut (s.io.out.setPrintString false)) hr hm
        rw [s.newVars_eq, hexec, hidle]
        exact List.drop_length

theorem ownNumber_reads {cmd : PeciCmd} {r : ReadCmd} {size : UInt8} (hskip : s.own.skipped = false)
    (hcmd : s.entry.cmd = some cmd) (hr : cmd.reads s.io.params s.io.paramsValue = some r)
    (hsize : size ∈ r.size) (n : ℕ) :
    s.ownNumber n = leNat ((s.own.results r).returned.take size.toNat) := by
  rw [SectionState.ownNumber, made_reads hskip hcmd hr, (s.run_io n).size,
    executed_reads hskip hcmd hr, ReadCmd.size_exec _ _ hsize]

theorem readItem_of_ok {cmd : PeciCmd} {r : ReadCmd} (hskip : s.own.skipped = false)
    (hcmd : s.entry.cmd = some cmd) (hr : cmd.reads s.io.params s.io.paramsValue = some r)
    (h : s.own.LogsRead r) (hok : (s.own.results r).AllOk) (n : ℕ) :
    s.own.readItem r = .plain (s.ownNumber n) := by
  obtain ⟨last, hlast, hissued, hsuccess, -⟩ := h
  obtain ⟨hs, hcc⟩ := hok last (List.mem_of_getLast? hlast)
  obtain ⟨-, size, hsize, hcov⟩ := hsuccess hs
  have hlast' : (s.own.results r).getLast? = some (last.1, last.2) := hlast
  have hgetD : r.size.getD 0 = size := by
    rw [Option.mem_def.mp hsize]
    rfl
  rw [Own.readItem, hlast']
  dsimp only
  rw [if_neg (not_not.mpr hs), if_neg (hcc hissued.2.2), hgetD,
    leNat_take_of_covers hcov (length_returned_le hr hsize) hok,
    ownNumber_reads hskip hcmd hr hsize]

theorem readItem_isError {r : ReadCmd} (h : s.own.LogsRead r) (hok : ¬ (s.own.results r).AllOk) :
    (s.own.readItem r).IsError := by
  obtain ⟨last, hlast, -, -, hall⟩ := h
  have hlast' : (s.own.results r).getLast? = some (last.1, last.2) := hlast
  rw [Own.readItem, hlast']
  dsimp only
  split_ifs with hs hua
  · trivial
  · trivial
  · exact absurd (hall ⟨not_not.mp hs, fun _ => hua⟩) hok

theorem readValue_of_ok {cmd : PeciCmd} {r : ReadCmd} (hskip : s.own.skipped = false)
    (hcmd : s.entry.cmd = some cmd) (hr : cmd.reads s.io.params s.io.paramsValue = some r)
    (h : s.own.StoresRead r) (hk : r.keep ≠ .nothing) (hok : (s.own.results r).AllOk) (n : ℕ) :
    s.own.readValue r = .hex (s.ownNumber n) := by
  have hv : r.keep.StoresValue (s.own.results r) := by
    cases hkeep : r.keep with
    | nothing => exact absurd hkeep hk
    | always => trivial
    | ifSuccess => exact hok.allSuccess
    | ifOk => exact hok
  obtain ⟨-, size, hsize, hcov⟩ := h hv
  have hgetD : r.size.getD 0 = size := by
    rw [Option.mem_def.mp hsize]
    rfl
  rw [Own.readValue, if_pos hv, hgetD, leNat_take_of_covers hcov (length_returned_le hr hsize) hok,
    ownNumber_reads hskip hcmd hr hsize]

/-- The commands that are not calls make none. -/
theorem made_eq_nil (hskip : s.own.skipped = false)
    (h : ∀ cmd, s.entry.cmd = some cmd →
      cmd.reads s.io.params s.io.paramsValue = none ∧ cmd ≠ .getCPUID) (n : ℕ) : s.made n = [] := by
  have hbus : s.executed.bus = s.io.bus := by
    rw [s.executed_run hskip]
    cases hcmd : s.entry.cmd with
    | none => rfl
    | some cmd =>
      obtain ⟨hr, hid⟩ := h cmd hcmd
      cases hm : cmd.makes s.io.params with
      | some m =>
        have hmake : BmcAcd.execute (some cmd) (s.io.setOut (s.io.out.setPrintString false)) =
          (s.io.setOut (s.io.out.setPrintString false)).make m.1 m.2 := execute_makes hm
        rw [hmake, bus_make]
        rfl
      | none =>
        obtain ⟨o, b, hidle, hb⟩ :=
          execute_idle cmd (s.io.setOut (s.io.out.setPrintString false)) hr hm
        rw [hidle]
        exact hb hid
  rw [s.made_eq, hbus, Device.transcript_self]

/-- If `GetCPUID` reaches its read, it makes it. -/
theorem mem_made_cpuid (hskip : s.own.skipped = false) (hcmd : s.entry.cmd = some .getCPUID)
    (h : s.own.CpuidFails) (n : ℕ) : (s.own.cpuidCall, s.own.answers 1) ∈ s.made n := by
  have h1 : (s.io.bus.call (.ping (UInt8.ofInt s.io.paramsValue))).answer = s.own.answers 1 := by
    rw [Device.answer, Device.answers_call, Device.log_call, List.length_append]
    rfl
  have hbus : s.executed.bus =
      (s.io.bus.call (.ping (UInt8.ofInt s.io.paramsValue))).call s.own.cpuidCall := by
    rw [s.executed_run hskip, hcmd]
    exact (getCPUID_fails (s := s.io.setOut (s.io.out.setPrintString false)) rfl rfl h).2.2.2
  rw [s.made_eq, hbus, (Device.extends_call _ _).transcript_trans (Device.extends_call _ _),
    Device.transcript_call, Device.transcript_call, h1]
  simp

/-- A command that is skipped. -/
theorem untainted_of_skipped (hskip : s.own.skipped = true) (h : s.Careful) (n : ℕ) :
    s.Untainted n := by
  have hmade : ∀ {s : SectionState} (n : ℕ), s.own.skipped = true → s.made n = [] := by
    intro s n hskip
    rw [s.made_eq, s.executed_skip hskip, Device.transcript_self]
  have hnew : ∀ {s : SectionState} (n : ℕ), s.own.skipped = true → s.newVars n = [] := by
    intro s n hskip
    rw [s.newVars_eq, s.executed_skip hskip, List.drop_length]
  have hitem : ∀ {s : SectionState} (n : ℕ), s.own.skipped = true → s.Careful →
      (s.run n).1 = s.entry.name.map fun _ => .na := by
    intro s n hskip h
    rw [SectionState.Careful, if_pos hskip] at h
    rw [s.run_fst, s.executed_skip hskip]
    cases hname : s.entry.name with
    | none => rfl
    | some name =>
      have hp := h (by simp [hname])
      rw [hskip, Option.map_some, Option.map_some, loggedItem, if_neg (by simp [hp])]
      rfl
  refine ⟨fun hne => absurd (hmade n hskip) hne, fun hnot => ?_, fun s' n' hown h' => ?_⟩
  · rw [hmade n hskip] at hnot
    exact absurd (List.forall_mem_nil _) hnot
  · have hskip' : s'.own.skipped = true := by rw [hown, hskip]
    have hentry : s'.entry = s.entry := congrArg Own.entry hown
    rw [hitem n' hskip' h', hitem n hskip h, hnew n' hskip', hnew n hskip, hentry]
    exact ⟨rfl, rfl⟩

section Classes

variable (hskip : s.own.skipped = false) (n : ℕ)
  (hitem : (s.run n).1 = s.entry.name.map fun _ => s.own.item) (hnew : s.newVars n = s.own.stored)
  (hsame : ∀ (s' : SectionState) (n' : ℕ), s'.own = s.own → s'.Careful →
    (s'.run n').1 = (s.run n).1 ∧ s'.newVars n' = s.newVars n)

include hskip hitem hnew hsame

/-- A command that is calls. -/
theorem untainted_reads {cmd : PeciCmd} {r : ReadCmd} (hcmd : s.entry.cmd = some cmd)
    (hr : cmd.reads s.io.params s.io.paramsValue = some r)
    (hlogs : s.entry.name ≠ none → s.own.Logs s.io.out.stringVal)
    (hstores : s.io.internalVarName ≠ none → s.own.Stores) : s.Untainted n := by
  have hown : s.own.entry.cmd = some cmd ∧
    cmd.reads s.own.params s.own.paramsValue = some r := ⟨hcmd, hr⟩
  have hitem' : s.own.item = s.own.readItem r := by
    rw [Own.item, hown.1]
    simp only [hown.2]
  have hstored : s.own.stored = if r.keep = .nothing then [] else
      assigned s.io.internalVarName (s.own.readValue r) := by
    rw [Own.stored, hown.1]
    simp only [hown.2]
    rfl
  have hread : s.entry.name ≠ none → s.own.LogsRead r := by
    intro hne
    have := hlogs hne
    rw [Own.Logs, hown.1] at this
    simpa only [hown.2] using this
  have hvar : s.io.internalVarName ≠ none → s.own.StoresRead r := by
    intro hne
    have := hstores hne
    rw [Own.Stores, hown.1] at this
    simpa only [hown.2] using this
  refine ⟨fun _ hok => ⟨?_, ?_⟩, fun hnot => ?_, hsame⟩
  · rw [made_reads hskip hcmd hr] at hok
    intro i hi
    rw [hitem, hitem'] at hi
    obtain ⟨name, hname, rfl⟩ := Option.map_eq_some_iff.mp hi
    exact readItem_of_ok hskip hcmd hr (hread (by simp [hname])) hok n
  · rw [made_reads hskip hcmd hr] at hok
    intro x hx
    rw [hnew, hstored] at hx
    split_ifs at hx with hk
    · simp at hx
    · obtain ⟨name, hname, rfl⟩ := List.mem_map.mp hx
      have hne : s.io.internalVarName ≠ none := by
        intro h
        simp [h] at hname
      exact readValue_of_ok hskip hcmd hr (hvar hne) hk hok n
  · rw [made_reads hskip hcmd hr] at hnot
    intro i hi
    rw [hitem, hitem'] at hi
    obtain ⟨name, hname, rfl⟩ := Option.map_eq_some_iff.mp hi
    exact readItem_isError (hread (by simp [hname])) hnot

/-- `GetCPUID`. -/
theorem untainted_cpuid (hcmd : s.entry.cmd = some .getCPUID)
    (hlogs : s.entry.name ≠ none → s.own.Logs s.io.out.stringVal) : s.Untainted n := by
  have hown : s.own.entry.cmd = some .getCPUID := hcmd
  have hfails : s.entry.name ≠ none → s.own.CpuidFails := by
    intro hne
    have := hlogs hne
    rwa [Own.Logs, hown] at this
  refine ⟨fun _ hok => ⟨?_, ?_⟩, fun _ => ?_, hsame⟩
  · intro i hi
    rw [hitem] at hi
    obtain ⟨name, hname, rfl⟩ := Option.map_eq_some_iff.mp hi
    have hf := hfails (by simp [hname])
    have := (hok _ (mem_made_cpuid hskip hcmd hf n)).1
    exact absurd this hf.2.2
  · intro x hx
    rw [hnew, Own.stored, hown] at hx
    simp [PeciCmd.reads, PeciCmd.makes] at hx
  · intro i hi
    rw [hitem, Own.item, hown] at hi
    obtain ⟨name, hname, rfl⟩ := Option.map_eq_some_iff.mp hi
    trivial

end Classes

/-- **One command.** -/
theorem SectionState.Careful.untainted (h : s.Careful) (n : ℕ) : s.Untainted n := by
  cases hskip : s.own.skipped with
  | true => exact untainted_of_skipped hskip h n
  | false =>
    have hrun : ∀ {s : SectionState} (n : ℕ), s.own.skipped = false → s.Careful →
        (s.run n).1 = s.entry.name.map (fun _ => s.own.item) ∧ s.newVars n = s.own.stored := by
      intro s n hskip h
      rw [SectionState.Careful, if_neg (by simp [hskip])] at h
      exact ⟨run_item hskip h.1 n, run_newVars hskip h.2 n⟩
    obtain ⟨hitem, hnew⟩ := hrun n hskip h
    have hsame : ∀ (s' : SectionState) (n' : ℕ), s'.own = s.own → s'.Careful →
        (s'.run n').1 = (s.run n).1 ∧ s'.newVars n' = s.newVars n := by
      intro s' n' hown h'
      obtain ⟨hitem', hnew'⟩ := hrun n' (by rw [hown, hskip]) h'
      have hentry : s'.entry = s.entry := congrArg Own.entry hown
      rw [hitem', hnew', hitem, hnew, hown, hentry]
      exact ⟨rfl, rfl⟩
    rw [SectionState.Careful, if_neg (by simp [hskip])] at h
    obtain ⟨hlogs, hstores⟩ := h
    by_cases hcalls : ∃ cmd r, s.entry.cmd = some cmd ∧
        cmd.reads s.io.params s.io.paramsValue = some r
    · obtain ⟨cmd, r, hcmd, hr⟩ := hcalls
      exact untainted_reads hskip n hitem hnew hsame hcmd hr hlogs hstores
    by_cases hid : s.entry.cmd = some .getCPUID
    · exact untainted_cpuid hskip n hitem hnew hsame hid hlogs
    · have hmade : s.made n = [] := by
        refine made_eq_nil hskip (fun cmd hcmd => ⟨?_, ?_⟩) n
        · cases hr : cmd.reads s.io.params s.io.paramsValue with
          | none => rfl
          | some r => exact absurd ⟨cmd, r, hcmd, hr⟩ hcalls
        · rintro rfl
          exact hid hcmd
      refine ⟨fun hne => absurd hmade hne, fun hnot => ?_, hsame⟩
      rw [hmade] at hnot
      exact absurd (List.forall_mem_nil _) hnot

end Careful

/-! ## Runs -/

/-- The commands of a run are careful. -/
def CarefulStep (s : SectionState) : SectionEvent → Prop
  | .run _ => s.Careful
  | _ => True

/-- The values of a run are the commands' own. -/
def UntaintedStep (s : SectionState) : SectionEvent → Prop
  | .run n => s.Untainted n
  | _ => True

/-- **No stale data.** In every run of a section, from any state, whose commands are all careful, every
value that is logged or stored is the command's own. -/
theorem untainted_of_careful (s : SectionState) (es : List SectionEvent)
    (h : AllSteps sectionStep CarefulStep s es) : AllSteps sectionStep UntaintedStep s es := by
  refine h.imp_inv (I := fun _ => True) (fun s e _ he => ⟨?_, trivial⟩) trivial
  cases e with
  | run n => exact SectionState.Careful.untainted he n
  | _ => trivial

/-- A CPU with one core. -/
def oneCore : CPUInfo := ⟨0x30, 1, 0, 0, 0, 0, .invalid, .invalid, .invalid⟩

/-- `out` with the bytes of an earlier command. -/
def usedOut : PECICmdOutput := ⟨.success, peciDevCcSuccess, fun _ => 0xAA, none, false, 4, 0, 0⟩

/-- A section at its start, with the answers of the CPU. -/
def newSection (answers : ℕ → PeciAnswer) : SectionState where
  io := ⟨[], 0, usedOut, [], none, oneCore, ⟨answers, []⟩⟩
  entry := ⟨none, 0, [], none, none, none, none⟩
  ctx := ⟨0, 0, 0⟩
  nameSize := 0
  skipFlag := false
  skipOnFail := false
  maxGlobalRunTimeReached := false
  maxSectionRunTimeReached := false
  globalMaxPrint := true
  sectionMaxPrint := true
  clock := ⟨fun _ => (false, false), []⟩
  log := []

/-- A section with one command. -/
def oneCommand (e : CmdEntry) : List SectionEvent :=
  fillNewSection oneCore ⟨0, 0, 0⟩ usedOut ⟨[], [e], false, false, false, false⟩

/-- A read of four bytes, which is logged and stored. -/
def pkgEntry : CmdEntry where
  cmd := some .rdPkgConfig
  paramsValue := 0
  params := [.str "Target", .number 0, .number 0, .number 4]
  name := some "reg"
  outputSize := none
  repeats := none
  internalVar := some "V"

theorem untainted_pkg : AllSteps sectionStep UntaintedStep
    (newSection fun _ => ⟨true, true, 0x40, fun i => UInt8.ofNat i⟩) (oneCommand pkgEntry) := by
  refine untainted_of_careful _ _ ⟨trivial, trivial, trivial, ?_, trivial, trivial⟩
  rw [CarefulStep, SectionState.Careful, if_neg (by decide)]
  refine ⟨fun _ => ⟨_, rfl, by decide, fun _ => ⟨by decide, 4, rfl, by decide, ?_⟩, fun _ => by decide⟩,
    fun _ _ => ⟨by decide, 4, rfl, by decide, ?_⟩⟩
  · decide +kernel
  · decide +kernel

/-- A read of eight bytes, which is made of two calls. -/
def pciEntry : CmdEntry where
  cmd := some .rdPCIConfigLocal
  paramsValue := 0
  params := [.str "Target", .number 0, .number 0, .number 0, .number 0, .number 8]
  name := some "reg"
  outputSize := none
  repeats := none
  internalVar := none

/-- The first of the two calls fails, and the value is logged as if it had not. -/
theorem not_untainted_pci : ¬ AllSteps sectionStep UntaintedStep
    (newSection fun k => ⟨true, k ≠ 0, 0x40, fun i => UInt8.ofNat i⟩) (oneCommand pciEntry) := by
  rintro ⟨-, -, -, h, -⟩
  have h : SectionState.Untainted _ 1 := h
  exact h.error (by decide) _ rfl

end BmcAcd
