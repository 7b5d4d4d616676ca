import Mathlib
import Bmc.Acd.BigCore
import Bmc.Acd.Reads

/-!
# Discovery of the CPUs

`crashdump.cpp`: the PECI addresses are pinged and the CPUs that answer are entered in a list. Their core masks and their CHA
counts are read, and the input file of each is loaded.

* `CpuEntry`: an entry of the list; `getClientAddrs`: the addresses;
* `MaskData`, `getMasks`: the loop that `getCoreMasks` and `getCHACounts` share, with the calls that it makes for each CPU;
* `loadInputFiles`: the input files;
* `RecordsResponders`, `QueriesNotValid`, `ReportsFailure`: the specification;
* **`discovery_iff`**: for which addresses, CPUs and files it is met.
-/

namespace BmcAcd

open BmcLib

/-! ## Data -/

/-- `COREMaskRead` and `CHACountRead`. -/
structure MaskRead where
  cc : UInt8
  ret : EPECIStatus
  valid : Bool
  source : CpuidState
  deriving DecidableEq, Repr

/-- An input file, with the text of its `DefaultState`. -/
structure InputFile where
  defaultState : Option String
  deriving DecidableEq, Repr

/-- `JSONInfo`. -/
structure JSONInfo where
  filename : Option String
  buffer : Option InputFile
  deriving DecidableEq, Repr

/-- `CPUInfo`, as far as the discovery fills it in. -/
structure CpuEntry where
  clientAddr : UInt8
  model : Model
  coreMask : UInt64
  chaCount : ℕ
  inputFile : JSONInfo
  chaCountRead : MaskRead
  coreMaskRead : MaskRead
  deriving DecidableEq, Repr

/-- The entry that `emplace_back` makes. -/
def CpuEntry.new : CpuEntry := ⟨0, .icx, 0, 0, ⟨none, none⟩, ⟨0, .success, false, .event⟩, ⟨0, .success, false, .event⟩⟩

/-! ## Addresses -/

/-- `MAX_CPUS` -/
abbrev maxCpus : ℕ := 8

/-- The address at a position of the loop. -/
def clientAddrAt (cpu : ℕ) : UInt8 := minClientAddr + UInt8.ofNat cpu

/-- `cpuInfo[cpu].clientAddr = addr`, if that is one of the entries. -/
def setClientAddr (v : List CpuEntry) (cpu : ℕ) (addr : UInt8) : Option (List CpuEntry) :=
  if cpu < v.length then some (v.modify cpu fun c => { c with clientAddr := addr }) else none

/-- One round of the loop. -/
def pingStep (responds : UInt8 → Bool) (v : List CpuEntry) (cpu : ℕ) : Option (List CpuEntry) :=
  if responds (clientAddrAt cpu) = true then setClientAddr (v ++ [.new]) cpu (clientAddrAt cpu) else some v

/-- `getClientAddrs`: `none` if it indexes past the entries. -/
def getClientAddrs (responds : UInt8 → Bool) (v : List CpuEntry) : Option (List CpuEntry) :=
  (List.range' 0 maxCpus).foldlM (pingStep responds) v

/-- The addresses that respond. -/
def responders (responds : UInt8 → Bool) : List UInt8 := ((List.range' 0 maxCpus).map clientAddrAt).filter responds

/-- **The responding addresses** are recorded, each in its own entry, and no other entry is touched. -/
def RecordsResponders (responds : UInt8 → Bool) : Prop :=
  ∃ v, getClientAddrs responds [] = some v ∧ v.map (·.clientAddr) = responders responds

/-- No address responds behind one that does not. -/
def NoGap (responds : UInt8 → Bool) : Prop :=
  ∀ j < maxCpus, responds (clientAddrAt j) = true → ∀ i < j, responds (clientAddrAt i) = true

section Addresses

variable {responds : UInt8 → Bool}

theorem setClientAddr_of_lt {v : List CpuEntry} {cpu : ℕ} (addr : UInt8) (h : v.length < cpu) :
    setClientAddr (v ++ [.new]) cpu addr = none :=
  if_neg (by rw [List.length_append, List.length_singleton]; omega)

theorem modify_length (f : CpuEntry → CpuEntry) (c : CpuEntry) (v : List CpuEntry) :
    (v ++ [c]).modify v.length f = v ++ [f c] := by
  induction v with
  | nil => rfl
  | cons x v ih => rw [List.cons_append, List.length_cons, List.modify_succ_cons, ih, List.cons_append]

theorem setClientAddr_length (v : List CpuEntry) (addr : UInt8) :
    setClientAddr (v ++ [.new]) v.length addr = some (v ++ [{ CpuEntry.new with clientAddr := addr }]) := by
  have hlt : v.length < (v ++ [CpuEntry.new]).length := by simp
  rw [setClientAddr, if_pos hlt, modify_length]

/-- The rounds from a position on. The entry that a round writes is the new one only as long as every address before had one
too. -/
theorem foldlM_pingStep (responds : UInt8 → Bool) (n : ℕ) : ∀ (k : ℕ) (v : List CpuEntry), v.length ≤ k →
    ((∃ v', (List.range' k n).foldlM (pingStep responds) v = some v' ∧
        v'.map (·.clientAddr) = v.map (·.clientAddr) ++ ((List.range' k n).map clientAddrAt).filter responds) ↔
      ∀ j, k ≤ j → j < k + n → responds (clientAddrAt j) = true →
        v.length = k ∧ ∀ i, k ≤ i → i < j → responds (clientAddrAt i) = true) := by
  induction n with
  | zero =>
    intro k v _
    exact iff_of_true ⟨v, rfl, (List.append_nil _).symm⟩ fun j h h' => absurd h' (by omega)
  | succ n ih =>
    intro k v hv
    rw [List.range'_succ, List.foldlM_cons, pingStep, List.map_cons]
    by_cases hr : responds (clientAddrAt k) = true
    · rw [if_pos hr, List.filter_cons_of_pos hr]
      rcases Nat.lt_or_eq_of_le hv with hlt | rfl
      · rw [setClientAddr_of_lt _ hlt]
        refine iff_of_false (fun ⟨_, h, _⟩ => nomatch h) fun h => ?_
        have := (h k le_rfl (by omega) hr).1
        omega
      · rw [setClientAddr_length, Option.bind_eq_bind, Option.bind_some]
        have hnext := ih (v.length + 1) (v ++ [{ CpuEntry.new with clientAddr := clientAddrAt v.length }]) (by simp)
        rw [List.map_append, List.append_assoc] at hnext
        refine hnext.trans ⟨fun h j hj hj' hrj => ⟨rfl, fun i hi hij => ?_⟩,
          fun h j hj hj' hrj => ⟨by simp, fun i hi hij => ?_⟩⟩
        · rcases Nat.eq_or_lt_of_le hi with rfl | hi
          · exact hr
          · exact (h j (by omega) (by omega) hrj).2 i hi hij
        · exact (h j (by omega) (by omega) hrj).2 i (by omega) hij
    · rw [if_neg hr, List.filter_cons_of_neg hr, Option.bind_eq_bind, Option.bind_some]
      refine (ih (k + 1) v (by omega)).trans ⟨fun h j hj hj' hrj => ?_, fun h j hj hj' hrj => ?_⟩
      · have hkj : k + 1 ≤ j := by
          rcases Nat.eq_or_lt_of_le hj with rfl | hj
          · exact absurd hrj hr
          · exact hj
        have := (h j hkj (by omega) hrj).1
        omega
      · exact absurd ((h j (by omega) (by omega) hrj).2 k le_rfl (by omega)) hr

/-- The responding addresses are recorded exactly if there is no gap between them. -/
theorem recordsResponders_iff : RecordsResponders responds ↔ NoGap responds := by
  have h := foldlM_pingStep responds maxCpus 0 [] le_rfl
  rw [List.map_nil, List.nil_append] at h
  refine h.trans ⟨fun h j hj hrj i hij => (h j (by omega) (by omega) hrj).2 i (by omega) hij, fun h j _ hj hrj => ?_⟩
  exact ⟨rfl, fun i _ hij => h j (by omega) hrj i hij⟩

end Addresses

/-! ## Core masks and CHA counts -/

/-- What the loops over the CPUs keep besides: `cc`, and the PECI device. -/
structure PeciState where
  cc : UInt8
  bus : Device PeciCall PeciAnswer

namespace PeciState

/-- What the next call returns, if it is `c`. -/
def ret (s : PeciState) (c : PeciCall) : EPECIStatus := c.status s.bus.answer

/-- The 32 bits that it leaves in a mask of 0. -/
def mask (s : PeciState) (c : PeciCall) : UInt32 :=
  if s.ret c = .success then UInt32.ofNat (leNat (slice s.bus.answer.data 0 4)) else 0

/-- The state behind it. -/
def call (s : PeciState) (c : PeciCall) : PeciState :=
  ⟨if c.Issued s.bus.answer then s.bus.answer.cc else s.cc, s.bus.call c⟩

end PeciState

/-- The reads of one CPU: the status of the last one, the two masks, the calls and the state behind them. -/
structure MaskPair where
  ret : EPECIStatus
  mask0 : UInt32
  mask1 : UInt32
  calls : List PeciCall
  state : PeciState

/-- The reads of the two registers, up to the first that fails. -/
def readMasks (s : PeciState) (regs : PeciCall × PeciCall) : MaskPair :=
  let s' := s.call regs.1
  if s.ret regs.1 ≠ .success then ⟨s.ret regs.1, 0, 0, [regs.1], s'⟩
  else ⟨s'.ret regs.2, s.mask regs.1, s'.mask regs.2, [regs.1, regs.2], s'.call regs.2⟩

/-- What is read from every CPU: where its status is, the registers of each model, and how it is kept. -/
structure MaskData where
  status : CpuEntry → MaskRead
  regs : Model → UInt8 → Option (PeciCall × PeciCall)
  keep : CpuEntry → MaskRead → UInt32 → UInt32 → CpuEntry

/-- The core masks: RESOLVED_CORES. -/
def coreMasks : MaskData where
  status := (·.coreMaskRead)
  regs
    | .icx, addr | .icx2, addr | .icxd, addr =>
      some (.rdPCIConfigLocal addr 14 30 3 0xD0 4, .rdPCIConfigLocal addr 14 30 3 0xD4 4)
    | .spr, addr =>
      some (.rdEndPointConfigPciLocal addr 0 31 30 6 0x80 4, .rdEndPointConfigPciLocal addr 0 31 30 6 0x84 4)
    | .sprhbm, _ => none
  keep c r mask0 mask1 := { c with coreMask := mask1.toUInt64 <<< 32 ||| mask0.toUInt64, coreMaskRead := r }

/-- The CHA counts: LLC_SLICE_EN. -/
def chaCounts : MaskData where
  status := (·.chaCountRead)
  regs
    | .icx, addr | .icx2, addr | .icxd, addr =>
      some (.rdPCIConfigLocal addr 14 30 3 0x9C 4, .rdPCIConfigLocal addr 14 30 3 0xA0 4)
    | .spr, addr =>
      some (.rdEndPointConfigPciLocal addr 0 31 30 3 0x9C 4, .rdEndPointConfigPciLocal addr 0 31 30 3 0xA0 4)
    | .sprhbm, _ => none
  keep c r mask0 mask1 :=
    { c with chaCount := if r.valid = true then popcount mask0.toNat + popcount mask1.toNat else 0, chaCountRead := r }

/-- The CPUs behind a loop, the calls that it made for each of them, the state and what it returns. -/
structure MaskLoop where
  cpus : List CpuEntry
  made : List (List PeciCall)
  state : PeciState
  ok : Bool

section Loops

variable (d : MaskData) (cpuState : CpuidState)

/-- The loop of `getCoreMasks` and `getCHACounts`. It stops at a CPU that is valid, and fails at a model that it does not
know. -/
def getMasks : List CpuEntry → PeciState → MaskLoop
  | [], s => ⟨[], [], s, true⟩
  | c :: cpus, s =>
    if (d.status c).valid = true then ⟨c :: cpus, (c :: cpus).map fun _ => [], s, true⟩
    else match d.regs c.model c.clientAddr with
      | none => ⟨c :: cpus, (c :: cpus).map fun _ => [], s, false⟩
      | some regs =>
        let m := readMasks s regs
        let read : MaskRead := ⟨m.state.cc, m.ret, decide (m.ret = .success), cpuState⟩
        let rest := getMasks cpus m.state
        ⟨d.keep c read m.mask0 m.mask1 :: rest.cpus, m.calls :: rest.made, rest.state, rest.ok⟩

/-- `getCoreMasks` -/
def getCoreMasks : List CpuEntry → PeciState → MaskLoop := getMasks coreMasks cpuState

/-- `getCHACounts` -/
def getCHACounts : List CpuEntry → PeciState → MaskLoop := getMasks chaCounts cpuState

/-- The calls for a CPU read its first register. -/
def Queried (c : CpuEntry) (calls : List PeciCall) : Prop := ∃ regs ∈ d.regs c.model c.clientAddr, regs.1 ∈ calls

/-- **Every CPU** that is not valid is queried. -/
def QueriesNotValid (cpus : List CpuEntry) (s : PeciState) : Prop :=
  List.Forall₂ (fun c calls => (d.status c).valid = false → Queried d c calls) cpus (getMasks d cpuState cpus s).made

/-- The CPUs that are not valid are of models that have the registers, and none of them is behind a valid one. -/
def NotValidFirst (cpus : List CpuEntry) : Prop :=
  (∀ c ∈ cpus, (d.status c).valid = false → (d.regs c.model c.clientAddr).isSome = true) ∧
    cpus.Pairwise fun a b => (d.status b).valid = false → (d.status a).valid = false

end Loops

section Queries

variable {d : MaskData} {cpuState : CpuidState}

theorem mem_calls_readMasks (s : PeciState) (regs : PeciCall × PeciCall) : regs.1 ∈ (readMasks s regs).calls := by
  unfold readMasks
  split_ifs <;> exact List.mem_cons_self

theorem forall₂_none {cpus : List CpuEntry} :
    List.Forall₂ (fun c calls => (d.status c).valid = false → Queried d c calls) cpus (cpus.map fun _ => []) ↔
      ∀ c ∈ cpus, (d.status c).valid = true := by
  rw [List.forall₂_map_right_iff, List.forall₂_same]
  refine forall₂_congr fun c _ => ⟨fun h => ?_, fun h h' => absurd (h.symm.trans h') Bool.noConfusion⟩
  by_contra hc
  obtain ⟨_, _, hmem⟩ := h (Bool.eq_false_of_not_eq_true hc)
  exact List.not_mem_nil hmem

/-- **Queries.** A loop reaches every CPU that is not valid exactly if those are the first ones. -/
theorem queriesNotValid_iff (cpus : List CpuEntry) : ∀ s : PeciState,
    QueriesNotValid d cpuState cpus s ↔ NotValidFirst d cpus := by
  induction cpus with
  | nil => exact fun s => iff_of_true .nil ⟨fun c hc => absurd hc List.not_mem_nil, .nil⟩
  | cons c cpus ih =>
    intro s
    rw [QueriesNotValid, NotValidFirst, getMasks, List.forall_mem_cons, List.pairwise_cons]
    by_cases hc : (d.status c).valid = true
    · rw [if_pos hc, forall₂_none, List.forall_mem_cons]
      constructor
      · rintro ⟨-, h⟩
        have hno : ∀ b ∈ cpus, (d.status b).valid ≠ false := fun b hb hf => absurd ((h b hb).symm.trans hf) Bool.noConfusion
        refine ⟨⟨fun hf => absurd (hc.symm.trans hf) Bool.noConfusion, fun b hb hf => absurd hf (hno b hb)⟩,
          fun b hb hf => absurd hf (hno b hb), List.pairwise_of_forall_mem_list fun a _ b hb hf => absurd hf (hno b hb)⟩
      · rintro ⟨-, h, -⟩
        refine ⟨hc, fun b hb => ?_⟩
        by_contra hb'
        exact absurd (hc.symm.trans (h b hb (Bool.eq_false_of_not_eq_true hb'))) Bool.noConfusion
    · have hf := Bool.eq_false_of_not_eq_true hc
      rw [if_neg hc]
      cases hregs : d.regs c.model c.clientAddr with
      | none =>
        dsimp only
        rw [List.map_cons, List.forall₂_cons]
        refine iff_of_false (fun h => ?_) fun h => Bool.noConfusion (h.1.1 hf)
        obtain ⟨_, _, hmem⟩ := h.1 hf
        exact List.not_mem_nil hmem
      | some regs =>
        dsimp only
        rw [List.forall₂_cons]
        refine (and_congr_right' (ih (readMasks s regs).state)).trans ?_
        refine ⟨fun h => ⟨⟨fun _ => rfl, h.2.1⟩, fun b _ _ => hf, h.2.2⟩, fun h => ⟨fun _ => ?_, h.1.2, h.2.2⟩⟩
        exact ⟨regs, hregs, mem_calls_readMasks s regs⟩

end Queries

/-! ## Input files -/

/-- `acdStatus`, as far as `loadInputFiles` returns it. -/
inductive LoadStatus where
  | success
  | inputFileError
  deriving DecidableEq, Repr

/-- `InputFileInfo` -/
structure InputFileInfo where
  unique : Bool
  filenames : Model → Option String
  buffers : Model → Option InputFile

/-- The files: which names are there, and what `readInputFile` makes of a name. -/
structure Disk where
  access : String → Bool
  readInputFile : String → Option InputFile

section Files

variable (disk : Disk) (isTelemetry : Bool)

/-- The letters of the CPU in the name of its input file. -/
def cpuStr : Model → Option String
  | .icx | .icx2 | .icxd => some "icx"
  | .spr => some "spr"
  | .sprhbm => none

/-- `OVERRIDE_TELEMETRY_FILE` and `OVERRIDE_INPUT_FILE` -/
def overrideFile (cpu : String) : String :=
  (if isTelemetry = true then "/tmp/crashdump/input/telemetry_input_" else "/conf/crashdump/input/crashdump_input_") ++
    cpu ++ ".json"

/-- `DEFAULT_TELEMETRY_FILE` and `DEFAULT_INPUT_FILE` -/
def defaultFile (cpu : String) : String :=
  (if isTelemetry = true then "/usr/share/crashdump/input/telemetry_input_" else "/conf/crashdump/input/crashdump_input_") ++
    cpu ++ ".json"

/-- `selectAndReadInputFile`: the name of the file, if the model has one, and its content. -/
def selectAndReadInputFile (m : Model) : Option String × Option InputFile :=
  match cpuStr m with
  | none => (none, none)
  | some cpu =>
    let name := if disk.access (overrideFile isTelemetry cpu) = true then overrideFile isTelemetry cpu
      else defaultFile isTelemetry cpu
    (some name, disk.readInputFile name)

/-- What `DefaultState` says: any text but `Disable` is accepted. -/
def defaultStateStatus (f : Option InputFile) : LoadStatus :=
  match f.bind (·.defaultState) with
  | none => .success
  | some t =>
    if "Enable".toList.isPrefixOf t.toList = true then .success
    else if "Disable".toList.isPrefixOf t.toList = true then .inputFileError
    else .success

/-- What the loop over the CPUs keeps. -/
structure LoadState where
  info : InputFileInfo
  uniqueCount : ℕ
  status : LoadStatus

/-- The file of a model is read if it is not there yet. -/
def LoadState.readBuffer (s : LoadState) (m : Model) : LoadState :=
  if (s.info.buffers m).isSome = true then s
  else
    let (name, file) := selectAndReadInputFile disk isTelemetry m
    { s with
      info := ⟨s.info.unique, Function.update s.info.filenames m (name.or (s.info.filenames m)),
        Function.update s.info.buffers m file⟩
      uniqueCount := if file.isSome = true then s.uniqueCount + 1 else s.uniqueCount }

/-- One round: the file of the CPU, and the status of the call so far. -/
def loadStep (s : LoadState) (c : CpuEntry) : LoadState :=
  let s' := s.readBuffer disk isTelemetry c.model
  ⟨{ s'.info with unique := decide (s'.uniqueCount ≤ 1) }, s'.uniqueCount, defaultStateStatus (s'.info.buffers c.model)⟩

/-- The rounds, with the CPUs behind them. -/
def loadRounds : List CpuEntry → LoadState → List CpuEntry × LoadState
  | [], s => ([], s)
  | c :: cpus, s =>
    let s' := loadStep disk isTelemetry s c
    let rest := loadRounds cpus s'
    ({ c with inputFile := ⟨s'.info.filenames c.model, s'.info.buffers c.model⟩ } :: rest.1, rest.2)

/-- `loadInputFiles`: the status, the CPUs and the files behind it. -/
def loadInputFiles (cpus : List CpuEntry) (info : InputFileInfo) : LoadStatus × List CpuEntry × InputFileInfo :=
  let r := loadRounds disk isTelemetry cpus ⟨info, 0, .success⟩
  (r.2.status, r.1, r.2.info)

/-- The input file of a CPU: the one that is there, or else the one that its model selects. -/
def InputFileInfo.file (info : InputFileInfo) (c : CpuEntry) : Option InputFile :=
  (info.buffers c.model).or (selectAndReadInputFile disk isTelemetry c.model).2

/-- The input file of a CPU says `Disable`. -/
def Disabled (f : Option InputFile) : Prop := defaultStateStatus f = .inputFileError

instance (f : Option InputFile) : Decidable (Disabled f) := inferInstanceAs (Decidable (_ = _))

/-- There is no input file for a CPU, or it says `Disable`. -/
def NotLoaded (f : Option InputFile) : Prop := f = none ∨ Disabled f

/-- **A failure** is reported if there is one for any CPU. -/
def ReportsFailure (fails : Option InputFile → Prop) (cpus : List CpuEntry) (info : InputFileInfo) : Prop :=
  (∃ c ∈ cpus, fails (info.file disk isTelemetry c)) → (loadInputFiles disk isTelemetry cpus info).1 ≠ .success

/-- There is no failure, or the file of the last CPU says `Disable`. -/
def LastDisabled (fails : Option InputFile → Prop) (cpus : List CpuEntry) (info : InputFileInfo) : Prop :=
  (∀ c ∈ cpus, ¬ fails (info.file disk isTelemetry c)) ∨ ∃ c ∈ cpus.getLast?, Disabled (info.file disk isTelemetry c)

end Files

section Loading

variable {disk : Disk} {isTelemetry : Bool}

theorem buffers_loadStep (s : LoadState) (c : CpuEntry) :
    (loadStep disk isTelemetry s c).info.buffers c.model = s.info.file disk isTelemetry c := by
  rw [loadStep, LoadState.readBuffer, InputFileInfo.file]
  cases h : s.info.buffers c.model with
  | none =>
    rw [if_neg (by simp), Option.none_or]
    exact Function.update_self ..
  | some f =>
    rw [if_pos (by simp), Option.some_or]
    exact h

theorem status_loadStep (s : LoadState) (c : CpuEntry) :
    (loadStep disk isTelemetry s c).status = defaultStateStatus (s.info.file disk isTelemetry c) := by
  rw [← buffers_loadStep]
  rfl

/-- A round does not change which file a CPU has. -/
theorem file_loadStep (s : LoadState) (c x : CpuEntry) :
    (loadStep disk isTelemetry s c).info.file disk isTelemetry x = s.info.file disk isTelemetry x := by
  rw [InputFileInfo.file, InputFileInfo.file]
  by_cases hm : x.model = c.model
  · rw [hm, buffers_loadStep, InputFileInfo.file]
    cases s.info.buffers c.model with
    | none => cases (selectAndReadInputFile disk isTelemetry c.model).2 <;> rfl
    | some f => rfl
  · rw [loadStep, LoadState.readBuffer]
    split_ifs
    · rfl
    · exact congrArg (fun f : Option InputFile => f.or _) (Function.update_of_ne hm _ _)

/-- **The status** is the one of the last CPU. -/
theorem status_loadRounds (cpus : List CpuEntry) : ∀ s : LoadState,
    (loadRounds disk isTelemetry cpus s).2.status =
      (cpus.getLast?.map fun c => defaultStateStatus (s.info.file disk isTelemetry c)).getD s.status := by
  induction cpus with
  | nil => exact fun s => rfl
  | cons c cpus ih =>
    intro s
    rw [loadRounds, ih, status_loadStep, List.getLast?_cons]
    cases cpus.getLast? with
    | none => rfl
    | some x => exact congrArg defaultStateStatus (file_loadStep s c x)

theorem loadInputFiles_ne_success (cpus : List CpuEntry) (info : InputFileInfo) :
    (loadInputFiles disk isTelemetry cpus info).1 ≠ .success ↔
      ∃ c ∈ cpus.getLast?, Disabled (info.file disk isTelemetry c) := by
  rw [loadInputFiles, status_loadRounds]
  cases cpus.getLast? with
  | none => simp
  | some c =>
    simp only [Option.map_some, Option.getD_some, Option.mem_def, Option.some.injEq, exists_eq_left', Disabled]
    cases defaultStateStatus (info.file disk isTelemetry c) <;> simp

theorem reportsFailure_iff (fails : Option InputFile → Prop) (cpus : List CpuEntry) (info : InputFileInfo) :
    ReportsFailure disk isTelemetry fails cpus info ↔ LastDisabled disk isTelemetry fails cpus info := by
  rw [ReportsFailure, LastDisabled, loadInputFiles_ne_success, imp_iff_not_or]
  push Not
  rfl

end Loading

/-! ## The discovery -/

/-- **Discovery.** The responding addresses are recorded exactly if there is no gap between them. Every CPU whose core mask or
CHA count is not valid is queried exactly if none of them is behind a valid one or of a model that has no such registers. A
failure is reported exactly if there is none, or the file of the last CPU says `Disable`. -/
theorem discovery_iff (responds : UInt8 → Bool) (cpus : List CpuEntry) (cpuState : CpuidState) (s : PeciState) (disk : Disk)
    (isTelemetry : Bool) (info : InputFileInfo) :
    (RecordsResponders responds ↔ NoGap responds) ∧
      (QueriesNotValid coreMasks cpuState cpus s ↔ NotValidFirst coreMasks cpus) ∧
      (QueriesNotValid chaCounts cpuState cpus s ↔ NotValidFirst chaCounts cpus) ∧
      (ReportsFailure disk isTelemetry NotLoaded cpus info ↔ LastDisabled disk isTelemetry NotLoaded cpus info) ∧
      (ReportsFailure disk isTelemetry Disabled cpus info ↔ LastDisabled disk isTelemetry Disabled cpus info) :=
  ⟨recordsResponders_iff, queriesNotValid_iff cpus s, queriesNotValid_iff cpus s, reportsFailure_iff _ cpus info,
    reportsFailure_iff _ cpus info⟩

/-- A CPU whose core mask is valid or not. -/
def cpuWith (addr : UInt8) (model : Model) (valid : Bool) : CpuEntry :=
  { CpuEntry.new with clientAddr := addr, model, coreMaskRead := ⟨0x40, .success, valid, .startup⟩ }

/-- The file of the first model says `Disable`. -/
def firstDisabled : Disk where
  access _ := true
  readInputFile name := some ⟨some (if name = overrideFile false "icx" then "Disable" else "Enable")⟩

/-- With the second socket empty the third CPU is written behind the entries; behind a CPU with a valid core mask no other is
queried; and a disabled file is not reported if the next CPU has another one. -/
theorem second_socket_empty :
    ¬ RecordsResponders (fun addr => addr = 0x30 ∨ addr = 0x32) ∧
      ¬ QueriesNotValid coreMasks .event [cpuWith 0x30 .spr true, cpuWith 0x31 .spr false]
        ⟨0, ⟨fun _ => ⟨true, true, 0x40, 0⟩, []⟩⟩ ∧
      ¬ ReportsFailure firstDisabled false Disabled [cpuWith 0x30 .icx true, cpuWith 0x31 .spr true]
        ⟨true, fun _ => none, fun _ => none⟩ := by
  refine ⟨fun h => ?_, fun h => ?_, fun h => ?_⟩
  · exact absurd (recordsResponders_iff.1 h 2 (by decide) (by decide) 1 (by decide)) (by decide)
  · exact absurd ((queriesNotValid_iff _ _).1 h).2 (by decide)
  · rcases (reportsFailure_iff _ _ _).1 h with h | ⟨c, hc, h⟩
    · exact h _ List.mem_cons_self (by decide)
    · cases hc
      exact absurd h (by decide)

end BmcAcd
