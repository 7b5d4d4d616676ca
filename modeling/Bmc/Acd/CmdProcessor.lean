import Bmc.Acd.Peci

/-!
# The commands of a section

The commands of `cmdprocessor.c`. All of them work on one `CmdInOut`, and leave in its `out` what the
logger reads.

* `Param`, `CPUInfo`, `PECICmdOutput`, `CmdInOut`: the data of a command;
* `CmdInOut.peci`: a call of the PECI library on `out`;
* `oneCall`, `oneOrTwoCalls`: the commands that are one message, or one or two; the other commands;
  `execute`.
-/

namespace BmcAcd

open BmcLib

/-! ## Parameters and variables -/

/-- An element of `Params`: a number, without its fraction, or a string. -/
inductive Param where
  | number (n : ℤ)
  | str (s : String)
  deriving DecidableEq, Repr

/-- `valueint`. -/
def Param.valueint : Param → ℤ
  | number n => max (-2147483648) (min 2147483647 n)
  | str _ => 0

/-- `(uint32_t)valuedouble`. -/
def Param.valueU32 : Param → UInt32
  | number n => UInt32.ofInt n
  | str _ => 0

/-- The list `Params`. -/
abbrev Params := List Param

namespace Params

/-- The parameter at a position; without one the field of the message stays 0. -/
def arg (ps : Params) (i : ℕ) : ℤ :=
  match ps[i]? with
  | some p => p.valueint
  | none => 0

def arg8 (ps : Params) (i : ℕ) : UInt8 := UInt8.ofInt (ps.arg i)

def arg16 (ps : Params) (i : ℕ) : UInt16 := UInt16.ofInt (ps.arg i)

def arg32 (ps : Params) (i : ℕ) : UInt32 := UInt32.ofInt (ps.arg i)

def argU32 (ps : Params) (i : ℕ) : UInt32 :=
  match ps[i]? with
  | some p => p.valueU32
  | none => 0

end Params

/-- The value of an internal variable, which is kept as a string. -/
inductive VarValue where
  | hex (n : ℕ)
  | error
  deriving DecidableEq, Repr

/-- The string of a variable. -/
def VarValue.text : VarValue → String
  | hex n => "0x" ++ String.ofList (Nat.toDigits 16 n)
  | error => "PECI_RETURN_ERROR"

/-- `strtoull` on the string of a variable. -/
def VarValue.strtoull : VarValue → ℕ
  | hex n => n
  | error => 0

/-- `cpuidState`. -/
inductive CpuidState where
  | startup
  | event
  | invalid
  | overwritten
  deriving DecidableEq, Repr

/-- `decodeState`. -/
def decodeState : CpuidState → String
  | .startup => "STARTUP"
  | .event => "EVENT"
  | .overwritten => "OVERWRITTEN"
  | .invalid => "INVALID"

/-- The fields of `CPUInfo` that the commands read. -/
structure CPUInfo where
  clientAddr : ℤ
  coreMask : UInt64
  crashedCoreMask : UInt64
  chaCount : ℕ
  cpuModel : UInt32
  stepping : UInt8
  cpuidSource : CpuidState
  coreMaskSource : CpuidState
  chaCountSource : CpuidState

/-! ## The data of a command -/

/-- `PECICmdOutput`. The bytes of `val` from 8 on are what lies behind the union; `stringVal` is `none`
when it does not point to a string. -/
structure PECICmdOutput where
  ret : EPECIStatus
  cc : UInt8
  val : ℕ → UInt8
  stringVal : Option String
  printString : Bool
  size : UInt8
  cpuModel : UInt32
  stepping : UInt8

namespace PECICmdOutput

/-- `val.u64`. -/
def u64 (o : PECICmdOutput) : ℕ := leNat (slice o.val 0 8)

/-- `val.u32[0]`. -/
def u32 (o : PECICmdOutput) : ℕ := leNat (slice o.val 0 4)

def setStatus (o : PECICmdOutput) (ret : EPECIStatus) (cc : UInt8) : PECICmdOutput :=
  { o with ret := ret, cc := cc }

def setVal (o : PECICmdOutput) (val : ℕ → UInt8) : PECICmdOutput := { o with val := val }

def setSize (o : PECICmdOutput) (size : UInt8) : PECICmdOutput := { o with size := size }

def setPrintString (o : PECICmdOutput) (b : Bool) : PECICmdOutput := { o with printString := b }

def setStringVal (o : PECICmdOutput) (s : Option String) : PECICmdOutput :=
  { o with stringVal := s }

def setCpuID (o : PECICmdOutput) (cpuid : ℕ) : PECICmdOutput :=
  { o with cpuModel := UInt32.ofNat (cpuid / 16 * 16), stepping := UInt8.ofNat (cpuid % 16) }

/-- `out` behind a call whose data go to the byte `pos` of the union. More than the union can hold runs
over the pointer behind it. -/
def receive (o : PECICmdOutput) (c : PeciCall) (a : PeciAnswer) (pos : ℕ) : PECICmdOutput :=
  { o with
    ret := c.status a
    cc := if c.Issued a then a.cc else o.cc
    val := if c.status a = .success then store o.val pos (slice a.data 0 c.readLen) else o.val
    stringVal := if c.status a = .success ∧ 8 < pos + c.readLen then none else o.stringVal }

end PECICmdOutput

/-- `CmdInOut`. `paramsValue` is the `valueint` of the item `Params` itself. -/
structure CmdInOut where
  params : Params
  paramsValue : ℤ
  out : PECICmdOutput
  internalVarsTracker : List (String × VarValue)
  internalVarName : Option String
  cpuInfo : CPUInfo
  bus : Device PeciCall PeciAnswer

namespace CmdInOut

def setOut (s : CmdInOut) (o : PECICmdOutput) : CmdInOut := { s with out := o }

/-- The read length at a position is also `out.size`, if it is there. -/
def takeSize (s : CmdInOut) (i : ℕ) : CmdInOut :=
  if i < s.params.length then s.setOut (s.out.setSize (s.params.arg8 i)) else s

/-- A call whose status, completion code and data go to `out`. -/
def peci (s : CmdInOut) (c : PeciCall) (pos : ℕ) : CmdInOut :=
  { s with out := s.out.receive c s.bus.answer pos, bus := s.bus.call c }

/-- `cJSON_AddItemToObject` on `internalVarsTracker`. -/
def addVar (s : CmdInOut) (v : VarValue) : CmdInOut :=
  match s.internalVarName with
  | none => s
  | some name => { s with internalVarsTracker := s.internalVarsTracker ++ [(name, v)] }

/-- `UpdateInternalVar`. -/
def updateInternalVar (s : CmdInOut) : CmdInOut :=
  s.addVar (.hex (if s.out.size = 8 then s.out.u64 else s.out.u32))

end CmdInOut

/-! ## The messages of the commands -/

namespace Params

variable (ps : Params)

/-- The message of `CrashDump_Discovery`. -/
def crashDumpDiscovery (rxLen : UInt8) : PeciCall :=
  .crashDumpDiscovery (ps.arg8 0) (ps.arg8 1) (ps.arg8 2) (ps.arg16 3) (ps.arg8 4) rxLen

/-- The message of `CrashDump_GetFrame`, by way of a `peci_crashdump_disc_msg`. -/
def crashDumpGetFrame (rxLen : UInt8) : PeciCall :=
  .crashDumpGetFrame (ps.arg8 0) (ps.arg8 1).toUInt16 (ps.arg16 2) (ps.arg8 3).toUInt16 rxLen

/-- The message of `RdIAMSR`. -/
def rdIAMSR : PeciCall := .rdIAMSR (ps.arg8 0) (ps.arg8 1) (ps.arg16 2)

/-- The message of `RdPkgConfig`. -/
def rdPkgConfig (rxLen : UInt8) : PeciCall :=
  .rdPkgConfig (ps.arg8 0) (ps.arg8 1) (ps.arg16 2) rxLen

/-- The message of `RdPkgConfigCore`. -/
def rdPkgConfigCore (rxLen : UInt8) : PeciCall :=
  .rdPkgConfig (ps.arg8 0) (ps.arg8 1) ((ps.arg8 2).toUInt16 <<< 8 ||| ps.arg16 3) rxLen

/-- The message of `RdPCIConfigLocal`, or of one of its halves. -/
def rdPCIConfigLocal (dword : ℕ) (rxLen : UInt8) : PeciCall :=
  .rdPCIConfigLocal (ps.arg8 0) (ps.arg8 1) (ps.arg8 2) (ps.arg8 3)
    (ps.arg16 4 + UInt16.ofNat (dword * 4)) rxLen

/-- The message of `RdEndPointConfigPciLocal`, or of one of its halves. -/
def rdEndPointConfigPciLocal (dword : ℕ) (rxLen : UInt8) : PeciCall :=
  .rdEndPointConfigPciLocal (ps.arg8 0) (ps.arg8 1) (ps.arg8 2) (ps.arg8 3) (ps.arg8 4)
    (ps.arg16 5 + UInt16.ofNat (dword * 4)) rxLen

/-- The message of `WrEndPointConfigPciLocal`. -/
def wrEndPointConfigPciLocal (txLen : UInt8) : PeciCall :=
  .wrEndPointPCIConfigLocal (ps.arg8 0) (ps.arg8 1) (ps.arg8 2) (ps.arg8 3) (ps.arg8 4) (ps.arg16 5)
    txLen (ps.arg32 7)

/-- The message of `RdEndPointConfigMmio`. -/
def rdEndPointConfigMmio (rxLen : UInt8) : PeciCall :=
  .rdEndPointConfigMmio (ps.arg8 0) (ps.arg8 1) (ps.arg8 2) (ps.arg8 3) (ps.arg8 4) (ps.arg8 5)
    (ps.arg8 6) (UInt64.ofInt (ps.arg 7)) rxLen

/-- The message of `Telemetry_Discovery`. -/
def telemetryDiscovery (rxLen : UInt8) : PeciCall :=
  .telemetryDiscovery (ps.arg8 0) (ps.arg8 1) (ps.arg8 2) (ps.arg16 3) (ps.arg8 4) rxLen

end Params

/-! ## The commands -/

section Commands

variable (s : CmdInOut)

/-- A command that is one message, whose length is the parameter at `pos`, with at most `n`
parameters. -/
def oneCall (n pos : ℕ) (call : UInt8 → PeciCall) : CmdInOut :=
  let s := s.takeSize pos
  if s.params.length > n then s
  else (s.peci (call (s.params.arg8 pos)) 0).updateInternalVar

/-- A command that reads up to four bytes with one message, and eight bytes with two. -/
def oneOrTwoCalls (n pos : ℕ) (call : ℕ → UInt8 → PeciCall) : CmdInOut :=
  let s := s.takeSize pos
  if s.params.length > n then s
  else
    let rxLen := s.params.arg8 pos
    let s :=
      if rxLen = 1 ∨ rxLen = 2 ∨ rxLen = 4 then s.peci (call 0 rxLen) 0
      else if rxLen = 8 then (s.peci (call 0 4) 0).peci (call 1 4) 4
      else s
    s.updateInternalVar

/-- `CrashDump_Discovery`. -/
def crashDumpDiscovery : CmdInOut :=
  let s := s.takeSize 5
  if s.params.length > 6 then s
  else
    let s := s.peci (s.params.crashDumpDiscovery (s.params.arg8 5)) 0
    if s.out.ret ≠ .success then s.addVar .error else s.updateInternalVar

/-- `CrashDump_GetFrame`. -/
def crashDumpGetFrame : CmdInOut := oneCall s 5 4 s.params.crashDumpGetFrame

/-- `Ping`. -/
def pingCommand : CmdInOut := s.peci (.ping (UInt8.ofInt s.paramsValue)) 0

/-- `GetCPUID`, with `peci_GetCPUID`: a ping, and a read into a variable of its own. -/
def getCPUID : CmdInOut :=
  let target := UInt8.ofInt s.paramsValue
  let a := s.bus.answer
  let bus := s.bus.call (.ping target)
  if (PeciCall.ping target).status a ≠ .success then
    { s with out := (s.out.setStatus .cpuNotPresent s.out.cc), bus := bus }
  else
    let c := PeciCall.rdPkgConfig target 0 0 4
    let a := bus.answer
    let cpuid := if c.status a = .success then leNat (slice a.data 0 4) else 0
    { s with
      out := (s.out.setStatus (c.status a) (if c.Issued a then a.cc else s.out.cc)).setCpuID cpuid
      bus := bus.call c }

/-- `RdIAMSR`. -/
def rdIAMSR : CmdInOut :=
  if s.params.length > 3 then s
  else
    let s := s.setOut (s.out.setSize 8)
    (s.peci s.params.rdIAMSR 0).updateInternalVar

/-- `RdPkgConfig`. -/
def rdPkgConfig : CmdInOut := oneCall s 4 3 s.params.rdPkgConfig

/-- `RdPkgConfigCore`. -/
def rdPkgConfigCore : CmdInOut := oneCall s 5 4 s.params.rdPkgConfigCore

/-- `RdPCIConfigLocal`. -/
def rdPCIConfigLocal : CmdInOut := oneOrTwoCalls s 6 5 s.params.rdPCIConfigLocal

/-- `RdEndPointConfigPciLocal`. -/
def rdEndPointConfigPciLocal : CmdInOut := oneOrTwoCalls s 7 6 s.params.rdEndPointConfigPciLocal

/-- `WrEndPointConfigPciLocal`. -/
def wrEndPointConfigPciLocal : CmdInOut := oneCall s 8 6 s.params.wrEndPointConfigPciLocal

/-- `RdEndPointConfigMmio`. -/
def rdEndPointConfigMmio : CmdInOut := oneCall s 9 8 s.params.rdEndPointConfigMmio

/-- `CHECK_BIT`, for a 32-bit word. -/
def checkBit (v : UInt32) (bit : ℤ) : Prop := v.toNat.testBit (UInt64.ofInt bit).toNat

instance (v : UInt32) (bit : ℤ) : Decidable (checkBit v bit) :=
  inferInstanceAs (Decidable (_ = true))

/-- A value that a command makes from its parameters, in `val.u32[0]`. -/
def CmdInOut.giveU32 (s : CmdInOut) (n : ℕ) : CmdInOut :=
  let s := s.setOut ((s.out.setSize 1).setVal (store s.out.val 0 (leBytes 4 n)))
  let s := s.updateInternalVar
  s.setOut (s.out.setStatus .success peciDevCcSuccess)

/-- `RdPostEnumBus`. -/
def rdPostEnumBus : CmdInOut :=
  if s.params.length > 4 then s
  else if ¬ checkBit (s.params.argU32 0) (s.params.arg 2) then s
  else s.giveU32 (((s.params.argU32 1).toNat >>> (s.params.arg8 3).toNat) % 256)

/-- `__builtin_popcountll`. -/
def popcount (n : ℕ) : ℕ := (List.range 64).countP n.testBit

/-- `RdChaCount`. -/
def rdChaCount : CmdInOut :=
  if s.params.length > 2 then s
  else s.giveU32 (popcount (s.params.argU32 0).toNat + popcount (s.params.argU32 1).toNat)

/-- `Telemetry_Discovery`. -/
def telemetryDiscovery : CmdInOut :=
  let s := s.takeSize 5
  if s.params.length > 6 then s
  else
    let s := s.peci (s.params.telemetryDiscovery (s.params.arg8 5)) 0
    if s.out.ret ≠ .success ∨ peciCcUA s.out.cc then s.addVar .error else s.updateInternalVar

/-- `RdAndConcatenate`. -/
def rdAndConcatenate : CmdInOut :=
  if s.params.length > 2 then s
  else
    let val := store (store s.out.val 4 (leBytes 4 (s.params.argU32 1).toNat)) 0
      (leBytes 4 (s.params.argU32 0).toNat)
    let s := s.setOut ((s.out.setSize 8).setVal val)
    let s := s.updateInternalVar
    s.setOut (s.out.setStatus .success peciDevCcSuccess)

/-- The value of a global variable. -/
inductive GlobalVar where
  | number (size : UInt8) (n : ℕ)
  | string (s : String)

/-- `RdGlobalVars`: the value of the first name that the string starts with, in the order of the
comparisons. -/
def globalVar (i : CPUInfo) (name : String) : Option GlobalVar :=
  let starts := fun v : String => v.toList.isPrefixOf name.toList
  if starts "peci_addr" then some (.number 1 (UInt64.ofInt i.clientAddr).toNat)
  else if starts "cpuid" then some (.number 4 (i.cpuModel ||| i.stepping.toUInt32).toNat)
  else if starts "cpuid_source" then some (.string (decodeState i.cpuidSource))
  else if starts "coremask_source" then some (.string (decodeState i.coreMaskSource))
  else if starts "chacount_source" then some (.string (decodeState i.chaCountSource))
  else if starts "coremask" then some (.number 8 i.coreMask.toNat)
  else if starts "chacount" then some (.number 1 i.chaCount)
  else if starts "corecount" then some (.number 1 (popcount i.coreMask.toNat))
  else if starts "crashcorecount" then some (.number 1 (popcount i.crashedCoreMask.toNat))
  else if starts "crashcoremask" then some (.number 8 i.crashedCoreMask.toNat)
  else none

/-- `RdGlobalVars`. -/
def rdGlobalVars : CmdInOut :=
  let o := s.out.setStatus .success peciDevCcSuccess
  match o.stringVal.bind (globalVar s.cpuInfo) with
  | some (.number size n) => s.setOut ((o.setSize size).setVal (store o.val 0 (leBytes 8 n)))
  | some (.string v) => s.setOut ((o.setPrintString true).setStringVal (some v))
  | none => s.setOut ((o.setPrintString false).setVal (store o.val 0 (leBytes 8 0)))

/-- `SaveStrVars`. -/
def saveStrVars : CmdInOut :=
  s.setOut ((s.out.setStatus .success peciDevCcSuccess).setPrintString true)

/-- `LogCrashlog`, `LogBigCore` and `LogTor` log sections of their own, and change only the size. -/
def logSection : CmdInOut := s.setOut (s.out.setSize 1)

end Commands

/-- `inputCMDs`. -/
inductive PeciCmd where
  | crashDumpDiscovery
  | crashDumpGetFrame
  | ping
  | getCPUID
  | rdEndPointConfigMmio
  | rdPCIConfigLocal
  | rdEndPointConfigPciLocal
  | wrEndPointConfigPciLocal
  | rdIAMSR
  | rdPkgConfig
  | rdPkgConfigCore
  | rdPostEnumBus
  | rdChaCount
  | telemetryDiscovery
  | logCrashlog
  | logBigCore
  | rdAndConcatenate
  | rdGlobalVars
  | saveStrVars
  | logTor
  deriving DecidableEq, Repr

/-- `Execute`; a name that is not in the table runs nothing. -/
def execute (cmd : Option PeciCmd) (s : CmdInOut) : CmdInOut :=
  match cmd with
  | none => s
  | some .crashDumpDiscovery => crashDumpDiscovery s
  | some .crashDumpGetFrame => crashDumpGetFrame s
  | some .ping => pingCommand s
  | some .getCPUID => getCPUID s
  | some .rdEndPointConfigMmio => rdEndPointConfigMmio s
  | some .rdPCIConfigLocal => rdPCIConfigLocal s
  | some .rdEndPointConfigPciLocal => rdEndPointConfigPciLocal s
  | some .wrEndPointConfigPciLocal => wrEndPointConfigPciLocal s
  | some .rdIAMSR => rdIAMSR s
  | some .rdPkgConfig => rdPkgConfig s
  | some .rdPkgConfigCore => rdPkgConfigCore s
  | some .rdPostEnumBus => rdPostEnumBus s
  | some .rdChaCount => rdChaCount s
  | some .telemetryDiscovery => telemetryDiscovery s
  | some .logCrashlog => logSection s
  | some .logBigCore => logSection s
  | some .rdAndConcatenate => rdAndConcatenate s
  | some .rdGlobalVars => rdGlobalVars s
  | some .saveStrVars => saveStrVars s
  | some .logTor => logSection s

end BmcAcd
