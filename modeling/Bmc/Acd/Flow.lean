import Bmc.Acd.CmdProcessor

/-!
# Sections

The commands of a section run one after the other, in all its loops, on one `CmdInOut`: `flow.c`, with
`UpdateParams` of `inputparser.c` and the logger of `logger.c`.

* `CmdEntry`: a command of the input file; `SectionState`: the state of a section;
* `updateParams`: the parameters are bound; `logValue`: an entry of the log;
* `SectionState.start`, `SectionState.run`: a command is set up, and one repetition of it;
* `SectionEvent`, `sectionStep`: the run of a section; `processPECICmds`, `fillNewSection`.
-/

namespace BmcAcd

open BmcLib

/-! ## The input file -/

/-- An element of the list behind a command's name. `repeats` is `Repeat`, `name` and `outputSize` are
`Name` and `Size` of `Output`, and `internalVar` is `InternalVar`. -/
structure CmdEntry where
  cmd : Option PeciCmd
  paramsValue : ℤ
  params : Params
  name : Option String
  outputSize : Option ℤ
  repeats : Option ℤ
  internalVar : Option String
  deriving DecidableEq, Repr

/-- The indices of `ContextLogger` that stand for placeholders. -/
structure Context where
  core : UInt8
  thread : UInt8
  cha : UInt8
  deriving DecidableEq, Repr

/-- `strtoull` on a string of hexadecimal digits. -/
def strtoull (digits : List Char) : ℕ :=
  min (2 ^ 64 - 1) (digits.foldl (fun n c =>
    16 * n + if c.isDigit then c.toNat - '0'.toNat else c.toLower.toNat - 'a'.toNat + 10) 0)

/-- The conversion of an `unsigned long long` to a `double`: to 53 bits, and to the even one of two. -/
def toDouble (n : ℕ) : ℕ :=
  if n < 2 ^ 53 then n
  else
    let u := 2 ^ (n.log2 - 52)
    let q := n / u
    if 2 * (n % u) < u ∨ 2 * (n % u) = u ∧ q % 2 = 0 then q * u else (q + 1) * u

/-- `IsValidHexString`, with the digits. -/
def hexDigits (s : String) : Option (List Char) :=
  match s.toList with
  | '0' :: 'x' :: digits =>
    if digits ≠ [] ∧ digits.all fun c => c.isDigit ∨ 'a' ≤ c.toLower ∧ c.toLower ≤ 'f' then
      some digits
    else none
  | _ => none

/-- `UpdateParams` on one parameter. -/
def updateParam (info : CPUInfo) (vars : List (String × VarValue)) (ctx : Context) : Param → Param
  | .number n => .number n
  | .str t =>
    let starts := fun v : String => v.toList.isPrefixOf t.toList
    match vars.lookup t with
    | some v => .number (toDouble v.strtoull)
    | none =>
      if starts "Target" then .number info.clientAddr
      else if starts "CHA" then .number ctx.cha.toNat
      else if starts "(CORE*2)+THREAD" then .number (ctx.core.toNat * 2 + ctx.thread.toNat)
      else if starts "Core" then .number ctx.core.toNat
      else
        match hexDigits t with
        | some digits => .number (toDouble (strtoull digits))
        | none => .str t

/-- The string that a parameter leaves in `out.stringVal`. -/
def Param.string : Param → Option String
  | .number _ => none
  | .str t => some t

/-- The last string among the parameters. -/
def lastString (params : Params) : Option String := (params.filterMap Param.string).getLast?

/-! ## The state of a section -/

/-- What the logger writes as the value of a register. -/
inductive LogItem where
  | string (s : Option String)
  | na
  | failed (cc : UInt8) (ret : EPECIStatus)
  | warned (val : ℕ) (cc : UInt8) (ret : EPECIStatus)
  | plain (val : ℕ)
  deriving DecidableEq, Repr

/-- A line of the log: the register with its repetition and context, or the note of a time-out. -/
inductive LogLine where
  | value (name : String) (ctx : Context) (n : ℕ) (item : LogItem)
  | globalTimeout
  | sectionTimeout
  deriving DecidableEq, Repr

/-- The state of a section: `CmdInOut`, the fields of `LoggerStruct` and `RunTimeInfo` that decide what
is logged, and the log. The answers of `clock` say whether the time of the section and the whole time
are over. -/
structure SectionState where
  io : CmdInOut
  entry : CmdEntry
  ctx : Context
  nameSize : UInt8
  skipFlag : Bool
  skipOnFail : Bool
  maxGlobalRunTimeReached : Bool
  maxSectionRunTimeReached : Bool
  globalMaxPrint : Bool
  sectionMaxPrint : Bool
  clock : Device Unit (Bool × Bool)
  log : List LogLine

namespace SectionState

def setIo (s : SectionState) (io : CmdInOut) : SectionState := { s with io := io }

def setNameSize (s : SectionState) (size : UInt8) : SectionState := { s with nameSize := size }

def setSkipFlag (s : SectionState) (b : Bool) : SectionState := { s with skipFlag := b }

def addLine (s : SectionState) (l : LogLine) : SectionState := { s with log := s.log ++ [l] }

/-- `ProcessPECICmds`, before the repetitions of a command: `ParseNameSection` and `UpdateParams`. -/
def start (s : SectionState) (e : CmdEntry) : SectionState :=
  let params := e.params.map (updateParam s.io.cpuInfo s.io.internalVarsTracker s.ctx)
  let o := s.io.out.setStatus .invalidReq s.io.out.cc
  let o := match lastString params with
    | some t => o.setStringVal (some t)
    | none => o
  let size := match e.name, e.outputSize with
    | some _, some n => UInt8.ofInt n
    | _, _ => s.nameSize
  { s with
    entry := e
    nameSize := size
    io := { s.io with
      params := params, paramsValue := e.paramsValue, internalVarName := e.internalVar, out := o } }

end SectionState

/-! ## The log -/

/-- `LogValue`: the bytes of the union that are cleared before it is printed. -/
def maskVal (size : UInt8) (val : ℕ → UInt8) : ℕ → UInt8 :=
  let keep := fun n i => if n ≤ i ∧ i < 8 then 0 else val i
  if size = 1 then keep 1
  else if size = 2 then keep 2
  else if size = 4 then keep 4
  else val

/-- `LogValue`: the notes of the time-outs. -/
def SectionState.logTimeouts (s : SectionState) : SectionState :=
  let s := if s.maxGlobalRunTimeReached ∧ s.globalMaxPrint then
    { s.addLine .globalTimeout with globalMaxPrint := false } else s
  if s.maxSectionRunTimeReached ∧ s.sectionMaxPrint then
    { s.addLine .sectionTimeout with sectionMaxPrint := false } else s

/-- `LogValue`: the value of the register. -/
def logItem (skipFlag : Bool) (o : PECICmdOutput) : LogItem :=
  if skipFlag then .na
  else if o.ret ≠ .success then .failed o.cc o.ret
  else if peciCcUA o.cc then .warned o.u64 o.cc o.ret
  else .plain o.u64

/-- `LogValue`. -/
def SectionState.logValue (s : SectionState) : LogItem × SectionState :=
  if s.io.out.printString then
    (.string s.io.out.stringVal, s.setIo (s.io.setOut (s.io.out.setPrintString false)))
  else
    let s := s.setIo (s.io.setOut (s.io.out.setVal (maskVal s.nameSize s.io.out.val)))
    (logItem s.skipFlag s.io.out, if s.skipFlag then s.logTimeouts else s)

/-- `Logger`: the size of the register is `Size`, or the size of the output. -/
def SectionState.logger (s : SectionState) (n : ℕ) : Option LogItem × SectionState :=
  match s.entry.name with
  | none => (none, s)
  | some name =>
    let s := match s.entry.outputSize with
      | some _ => s
      | none => s.setNameSize s.io.out.size
    let r := s.logValue
    (some r.1, r.2.addLine (.value name s.ctx n r.1))

/-! ## The run of a section -/

/-- `ProcessPECICmds`: the time is checked. -/
def SectionState.checkTime (s : SectionState) : SectionState :=
  let expired := s.clock.answer
  { s with
    skipFlag := s.skipFlag ∨ expired.1 ∨ expired.2
    maxGlobalRunTimeReached := s.maxGlobalRunTimeReached ∨ expired.2
    maxSectionRunTimeReached := s.maxSectionRunTimeReached ∨ expired.1
    clock := s.clock.call () }

/-- `ProcessPECICmds`: the command is run, unless the section is skipped. -/
def SectionState.execute (s : SectionState) : SectionState :=
  if s.skipFlag then s
  else s.setIo (BmcAcd.execute s.entry.cmd (s.io.setOut (s.io.out.setPrintString false)))

/-- `ProcessPECICmds`: the repetition `n` of a command, with what is logged for its register. -/
def SectionState.run (s : SectionState) (n : ℕ) : Option LogItem × SectionState :=
  let r := s.checkTime.execute.logger n
  let o := r.2.io.out
  if (o.ret ≠ .success ∨ peciCcUA o.cc) ∧ r.2.skipOnFail then (r.1, r.2.setSkipFlag true) else r

/-- What happens in a section: a command is set up, a repetition of it, the next turn of a loop, a new
turn in which nothing is skipped yet, and the `CmdInOut` of the section itself, with whatever is in
it. -/
inductive SectionEvent where
  | start (e : CmdEntry)
  | run (n : ℕ)
  | loop (ctx : Context)
  | unskip
  | newCmdInOut (out : PECICmdOutput)

/-- The state behind an event. -/
def sectionStep (s : SectionState) : SectionEvent → SectionState
  | .start e => s.start e
  | .run n => (s.run n).2
  | .loop ctx => { s with ctx := ctx }
  | .unskip => s.setSkipFlag false
  | .newCmdInOut out => s.setIo (s.io.setOut out)

/-- `ProcessPECICmds`. -/
def processPECICmds (entries : List CmdEntry) : List SectionEvent :=
  entries.flatMap fun e =>
    .start e :: (List.range (e.repeats.getD 1).toNat).map fun n => .run (n + 1)

/-- The parts of a section that decide which commands run, and in which loops. -/
structure SectionInput where
  preReq : List CmdEntry
  peciCmds : List CmdEntry
  loopOnCHA : Bool
  loopOnCore : Bool
  loopOnThread : Bool
  skipCrashCores : Bool

/-- The cores that a section visits. -/
def sectionCores (info : CPUInfo) (sec : SectionInput) : List ℕ :=
  (List.range 64).filter fun core => info.coreMask.toNat.testBit core ∧
    ¬ (sec.skipCrashCores ∧ info.crashedCoreMask.toNat.testBit core)

/-- `fillNewSection`: the commands of `PreReq` have a `CmdInOut` of their own, the others share one,
which starts with the contents `out`. -/
def fillNewSection (info : CPUInfo) (ctx : Context) (out : PECICmdOutput) (sec : SectionInput) :
    List SectionEvent :=
  let cmds := processPECICmds sec.peciCmds
  let loops :=
    if sec.loopOnCHA then
      (List.range info.chaCount).flatMap fun cha =>
        .loop { ctx with cha := UInt8.ofNat cha } :: cmds ++ [.unskip]
    else if sec.loopOnCore then
      (sectionCores info sec).flatMap fun core =>
        ((List.range (if sec.loopOnThread then 2 else 1)).flatMap fun thread =>
          .loop { ctx with core := UInt8.ofNat core, thread := UInt8.ofNat thread } :: cmds) ++
            [.unskip]
    else cmds ++ [.unskip]
  .unskip :: processPECICmds sec.preReq ++ .newCmdInOut out :: loops

end BmcAcd
