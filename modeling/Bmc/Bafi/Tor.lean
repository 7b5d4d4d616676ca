import Bmc.Lib.Bits
import Bmc.Lib.Indices
import Bmc.Bafi.Text

/-!
# TOR entries

The entries of the table of requests, from the eight texts of an index to the report.

* `TORDataGeneric`: the words of an entry, with the fields of `tor_defs.hpp`;
* `divideTordumps`, `IcxCpu.parseTorData`, `SprCpu.parseTorData`: from texts to words;
* `torVariables`, `details`, `torReport`: from words to the report.
-/

namespace BmcBafi

open BmcLib

/-- The types of CPU whose entries have eight sub-indices. -/
inductive CpuType where
  | icx
  | spr
  | sprHbm
  deriving DecidableEq, Repr

/-- The unions of `TORDataGeneric` for one layout, after the end of their names. -/
inductive TorGroup where
  | icx
  | spr1
  | spr11
  | spr2
  | spr3
  deriving DecidableEq, Repr

/-- The name of a word. -/
structure Tordump where
  dump : Fin 3
  subindex : Fin 8
  group : TorGroup
  deriving DecidableEq, Repr

/-- `TORDataGeneric`, without the words of the other types of CPU. -/
structure TORDataGeneric where
  word : Tordump → UInt32

namespace TORDataGeneric

variable (t : TORDataGeneric)

/-- A bit field of a word. -/
def get (dump : Fin 3) (subindex : Fin 8) (group : TorGroup) (offset width : ℕ) : ℕ :=
  bits (t.word ⟨dump, subindex, group⟩).toNat offset width

/-! ## The fields of ICX -/

abbrev valid1 : ℕ := t.get 0 0 .icx 2 1
abbrev retry1 : ℕ := t.get 0 0 .icx 5 1
abbrev inPipe1 : ℕ := t.get 0 0 .icx 7 1
abbrev address8_6 : ℕ := t.get 1 0 .icx 29 3
abbrev address16_9 : ℕ := t.get 2 0 .icx 0 8
abbrev threadId1 : ℕ := t.get 0 1 .icx 8 3
abbrev address19_17 : ℕ := t.get 1 1 .icx 29 3
abbrev address27_20 : ℕ := t.get 2 1 .icx 0 8
abbrev target1 : ℕ := t.get 0 2 .icx 7 5
abbrev sad1 : ℕ := t.get 0 2 .icx 18 3
abbrev address30_28 : ℕ := t.get 1 2 .icx 29 3
abbrev address38_31 : ℕ := t.get 2 2 .icx 0 8
abbrev coreId1 : ℕ := t.get 0 3 .icx 21 6
abbrev address41_39 : ℕ := t.get 1 3 .icx 29 3
abbrev address49_42 : ℕ := t.get 2 3 .icx 0 8
abbrev requestOpCode1 : ℕ := t.get 0 4 .icx 17 11
abbrev address51_50 : ℕ := t.get 1 4 .icx 29 2
abbrev lcs1 : ℕ := t.get 0 7 .icx 3 4
abbrev fsm1 : ℕ := t.get 1 7 .icx 1 5

/-! ## The fields of SPR -/

abbrev valid2 : ℕ := t.get 0 0 .spr1 0 1
abbrev retry2 : ℕ := t.get 0 0 .spr1 3 1
abbrev inPipe2 : ℕ := t.get 0 0 .spr1 7 1
abbrev threadId2 : ℕ := t.get 0 1 .spr1 9 3
abbrev target2 : ℕ := t.get 0 2 .spr1 7 5
abbrev sad2 : ℕ := t.get 0 2 .spr1 21 3
abbrev coreId2_2_0 : ℕ := t.get 0 3 .spr11 28 3
abbrev coreId2_6_3 : ℕ := t.get 0 4 .spr1 0 4
abbrev origReq1_6_0 : ℕ := t.get 0 4 .spr1 24 7
abbrev origReq1_10_7 : ℕ := t.get 0 5 .spr1 0 4
abbrev lcs2 : ℕ := t.get 0 7 .spr1 3 4
abbrev address6_6Spr1 : ℕ := t.get 1 0 .spr1 31 1
abbrev address17_17Spr1 : ℕ := t.get 1 1 .spr1 31 1
abbrev address28_28Spr1 : ℕ := t.get 1 2 .spr1 31 1
abbrev address39_39Spr1 : ℕ := t.get 1 3 .spr1 31 1
abbrev address50_50Spr1 : ℕ := t.get 1 4 .spr1 31 1
abbrev address16_7Spr1 : ℕ := t.get 2 0 .spr1 0 10
abbrev address27_18Spr1 : ℕ := t.get 2 1 .spr1 0 10
abbrev address38_29Spr1 : ℕ := t.get 2 2 .spr1 0 10
abbrev address49_40Spr1 : ℕ := t.get 2 3 .spr1 0 10
abbrev address51_51Spr1 : ℕ := t.get 2 4 .spr1 0 1
abbrev target3 : ℕ := t.get 0 2 .spr2 7 5
abbrev sad3 : ℕ := t.get 0 2 .spr2 22 3
abbrev coreId3 : ℕ := t.get 0 4 .spr2 0 7
abbrev origReq2_3_0 : ℕ := t.get 0 4 .spr2 27 4
abbrev origReq2_10_4 : ℕ := t.get 0 5 .spr2 0 7
abbrev fsm2_3_0 : ℕ := t.get 1 6 .spr2 4 4
abbrev lcs3 : ℕ := t.get 0 7 .spr2 6 4
abbrev fsm2_4_4 : ℕ := t.get 0 7 .spr2 31 1
abbrev threadId3 : ℕ := t.get 0 1 .spr3 8 3
abbrev target4 : ℕ := t.get 0 2 .spr3 5 6
abbrev sad4 : ℕ := t.get 0 2 .spr3 21 3
abbrev coreId4 : ℕ := t.get 0 4 .spr3 3 7
abbrev origReq3_1_0 : ℕ := t.get 0 4 .spr3 30 2
abbrev origReq3_10_2 : ℕ := t.get 0 5 .spr3 0 9
abbrev fsm3_3_0 : ℕ := t.get 1 6 .spr3 5 4
abbrev fsm3_4_4 : ℕ := t.get 1 7 .spr3 0 1
abbrev address16_6Spr3 : ℕ := t.get 2 0 .spr3 0 11
abbrev address27_17Spr3 : ℕ := t.get 2 1 .spr3 0 11
abbrev address38_28Spr3 : ℕ := t.get 2 2 .spr3 0 11
abbrev address49_39Spr3 : ℕ := t.get 2 3 .spr3 0 11
abbrev address51_50Spr3 : ℕ := t.get 2 4 .spr3 0 2

/-! ## Words -/

/-- The words of a sub-index are set. -/
def assign (group : TorGroup) (k : Fin 8) (w : Fin 3 → UInt32) : TORDataGeneric where
  word n := if n.subindex = k ∧ n.group = group then w n.dump else t.word n

/-- A word of another layout of SPR is set from the one that was read. -/
def copy (n : Tordump) : TORDataGeneric where
  word n' := if n' = n then t.word ⟨n.dump, n.subindex, .spr1⟩ else t.word n'

end TORDataGeneric

/-! ## From texts to words -/

/-- Zeros behind the first two characters, up to 26 characters. -/
def padTordump (input : List Char) : List Char :=
  input.take 2 ++ (List.replicate (26 - input.length) '0' ++ input.drop 2)

/-- Eight characters, from the end of the text. -/
def tordump (input : List Char) (d : Fin 3) : List Char :=
  (input.drop (input.length - 8 * (d.val + 1))).take 8

/-- `divideTordumps`: `none` for its exception. `old` is what `tordumpParsed0` and the others hold before. -/
def divideTordumps (old : Fin 3 → UInt32) (input : List Char) : Option (Fin 3 → UInt32) :=
  if input.length < 2 then none
  else
    let parsed := fun d => str2uint (tordump (padTordump input) d) (old d)
    some (if ∀ d, (parsed d).1 = true then fun d => (parsed d).2 else fun _ => 0)

/-- The texts of an index. -/
abbrev TorIndex := Fin 8 → Option (List Char)

/-- The sub-indices are read one after the other. One that is missing ends the program. -/
def readSubindices (group : TorGroup) (old : Fin 8 → Fin 3 → UInt32) (index : TorIndex)
    (ks : List (Fin 8)) (t : TORDataGeneric) : Option TORDataGeneric :=
  ks.foldlM (fun t k => (index k).bind fun s => (divideTordumps (old k) s).map (t.assign group k)) t

/-- `parseTorData` of `IcxCpu`; the inner `none` is an entry that is left out. `stack` is what the entry
holds before. -/
def IcxCpu.parseTorData (stack : TORDataGeneric) (old : Fin 8 → Fin 3 → UInt32) (index : TorIndex) :
    Option (Option TORDataGeneric) :=
  if (index 0).all checkInproperValue then some none
  else
    (readSubindices .icx old index [0] stack).bind fun tor =>
      if tor.valid1 = 0 then some none
      else (readSubindices .icx old index [1, 2, 3, 4, 7] tor).map some

/-- The CPU with the first layout of SPR. -/
abbrev spr806f0 : List Char := ['0', 'x', '8', '0', '6', 'f', '0']

/-- The CPU with the second layout of SPR. -/
abbrev spr806f1 : List Char := ['0', 'x', '8', '0', '6', 'f', '1']

/-- The words that `parseTorData` of `SprCpu` copies. -/
def sprCopies (id : List Char) : List Tordump :=
  if id = spr806f0 then [⟨0, 3, .spr11⟩]
  else if id = spr806f1 then
    [⟨0, 2, .spr2⟩, ⟨0, 4, .spr2⟩, ⟨0, 7, .spr2⟩, ⟨0, 5, .spr2⟩, ⟨1, 6, .spr2⟩]
  else
    [⟨0, 1, .spr3⟩, ⟨0, 2, .spr3⟩, ⟨0, 4, .spr3⟩, ⟨2, 0, .spr3⟩, ⟨2, 1, .spr3⟩, ⟨2, 2, .spr3⟩,
      ⟨2, 3, .spr3⟩, ⟨2, 4, .spr3⟩, ⟨0, 7, .spr2⟩, ⟨0, 5, .spr3⟩, ⟨1, 6, .spr3⟩, ⟨1, 7, .spr3⟩]

/-- `parseTorData` of `SprCpu`. -/
def SprCpu.parseTorData (id : List Char) (stack : TORDataGeneric) (old : Fin 8 → Fin 3 → UInt32)
    (index : TorIndex) : Option (Option TORDataGeneric) :=
  if (index 0).all checkInproperValue then some none
  else
    (readSubindices .spr1 old index [0] stack).bind fun tor =>
      if tor.valid2 = 0 then some none
      else
        (readSubindices .spr1 old index [1, 2, 3, 4, 5, 6, 7] tor).map fun tor =>
          some ((sprCopies id).foldl TORDataGeneric.copy tor)

/-! ## From words to the report -/

/-- The reported fields of an entry. -/
inductive TorField where
  | core
  | thread
  | opcode
  | address
  | inPipe
  | retry
  | fsm
  | lcs
  | target
  | sad
  deriving DecidableEq, Repr

namespace TORDataGeneric

variable (t : TORDataGeneric)

/-- The variables of `createJSONReport` and the result of `getAddress` for ICX. -/
def icxVariables : TorField → ℕ
  | .core => t.coreId1
  | .thread => t.threadId1
  | .opcode => t.requestOpCode1
  | .inPipe => t.inPipe1
  | .retry => t.retry1
  | .fsm => t.fsm1
  | .lcs => t.lcs1
  | .target => t.target1
  | .sad => t.sad1
  | .address => t.address8_6 <<< 6 ||| t.address16_9 <<< 9 ||| t.address19_17 <<< 17 |||
      t.address27_20 <<< 20 ||| t.address30_28 <<< 28 ||| t.address38_31 <<< 31 |||
      t.address41_39 <<< 39 ||| t.address49_42 <<< 42 ||| t.address51_50 <<< 50

/-- `getAddress` for the first two layouts of SPR. -/
def addressSpr1 : ℕ :=
  t.address6_6Spr1 <<< 6 ||| t.address16_7Spr1 <<< 7 ||| t.address17_17Spr1 <<< 17 |||
    t.address27_18Spr1 <<< 18 ||| t.address28_28Spr1 <<< 28 ||| t.address38_29Spr1 <<< 29 |||
    t.address39_39Spr1 <<< 39 ||| t.address49_40Spr1 <<< 40 ||| t.address50_50Spr1 <<< 50 |||
    t.address51_51Spr1 <<< 51

/-- The same for the first layout of SPR. -/
def spr1Variables : TorField → ℕ
  | .core => t.coreId2_2_0 ||| t.coreId2_6_3 <<< 3
  | .thread => t.threadId2
  | .opcode => t.origReq1_6_0 ||| t.origReq1_10_7 <<< 7
  | .inPipe => t.inPipe2
  | .retry => t.retry2
  | .fsm => t.fsm2_3_0 ||| t.fsm2_4_4 <<< 4
  | .lcs => t.lcs2
  | .target => t.target2
  | .sad => t.sad2
  | .address => t.addressSpr1

/-- The same for the second layout of SPR. -/
def spr2Variables : TorField → ℕ
  | .core => t.coreId3
  | .thread => t.threadId2
  | .opcode => t.origReq2_3_0 ||| t.origReq2_10_4 <<< 4
  | .inPipe => t.inPipe2
  | .retry => t.retry2
  | .fsm => t.fsm2_3_0 ||| t.fsm2_4_4 <<< 4
  | .lcs => t.lcs3
  | .target => t.target3
  | .sad => t.sad3
  | .address => t.addressSpr1

/-- The same for the other layout of SPR. -/
def spr3Variables : TorField → ℕ
  | .core => t.coreId4
  | .thread => t.threadId3
  | .opcode => t.origReq3_1_0 ||| t.origReq3_10_2 <<< 2
  | .inPipe => t.inPipe2
  | .retry => t.retry2
  | .fsm => t.fsm3_3_0 ||| t.fsm3_4_4 <<< 4
  | .lcs => t.lcs3
  | .target => t.target4
  | .sad => t.sad4
  | .address => t.address16_6Spr3 <<< 6 ||| t.address27_17Spr3 <<< 17 ||| t.address38_28Spr3 <<< 28 |||
      t.address49_39Spr3 <<< 39 ||| t.address51_50Spr3 <<< 50

end TORDataGeneric

/-- The variables for a type of CPU and the identifier in the report. -/
def torVariables (cpu : CpuType) (id : List Char) (t : TORDataGeneric) : TorField → ℕ :=
  match cpu with
  | .icx => t.icxVariables
  | _ =>
    if id = spr806f0 then t.spr1Variables
    else if id = spr806f1 then t.spr2Variables
    else t.spr3Variables

/-- A region of memory, with its first and last address. -/
structure MemoryRegion where
  name : List Char
  first : ℕ
  last : ℕ

/-- `mapToMemory`. -/
def mapToMemory (memoryMap : List MemoryRegion) (address : ℕ) : Option (List Char) :=
  (memoryMap.find? fun r => r.first ≤ address ∧ address ≤ r.last).map MemoryRegion.name

/-- The text of a field. The width is the number of bytes of its variable. -/
def fieldText (memoryMap : List MemoryRegion) : TorField → ℕ → List Char
  | .address, n => intToHex 8 n ++
      ((mapToMemory memoryMap n).elim [] fun name => ' ' :: '(' :: (name ++ [')']))
  | .opcode, n => intToHex 2 n
  | _, n => intToHex 1 n

/-- The key of a field. -/
def TorField.key : TorField → String
  | core => "CoreId"
  | thread => "ThreadId"
  | opcode => "Request"
  | address => "Address"
  | inPipe => "InPipe"
  | retry => "Retry"
  | fsm => "TorFSMState"
  | lcs => "LLC"
  | target => "Target"
  | sad => "SAD"

/-- `Details` of an entry. -/
def details (memoryMap : List MemoryRegion) (x : TorField → ℕ) : List (String × List Char) :=
  [.core, .thread, .opcode, .address, .inPipe, .retry, .fsm, .lcs, .target, .sad].map fun f =>
    (f.key, fieldText memoryMap f (x f))

/-- What `prepareReport` gives to the report as identifier: only for SPR the one of the CPU. -/
def reportId (cpu : CpuType) (cpuId : Option (List Char)) : List Char :=
  if cpu = .spr then cpuId.getD [] else []

/-- `parseTorData` of the CPU that `createInstance` of `CpuFactory` makes. -/
def parseTorData (cpu : CpuType) (cpuId : Option (List Char)) (stack : TORDataGeneric)
    (old : Fin 8 → Fin 3 → UInt32) (index : TorIndex) : Option (Option TORDataGeneric) :=
  match cpu with
  | .icx => IcxCpu.parseTorData stack old index
  | _ => SprCpu.parseTorData (cpuId.getD []) stack old index

/-- An entry from its texts to its `Details`, as `prepareReport` makes them. -/
def torReport (cpu : CpuType) (cpuId : Option (List Char)) (memoryMap : List MemoryRegion)
    (stack : TORDataGeneric) (old : Fin 8 → Fin 3 → UInt32) (index : TorIndex) :
    Option (Option (List (String × List Char))) :=
  (parseTorData cpu cpuId stack old index).map fun entry =>
    entry.map fun tor => details memoryMap (torVariables cpu (reportId cpu cpuId) tor)

end BmcBafi
