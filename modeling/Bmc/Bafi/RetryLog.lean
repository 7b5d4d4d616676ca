import Bmc.Lib.Bits
import Bmc.Bafi.Text

/-!
# Memory errors

The logs of the memory controllers about reads that were tried again. Each one has two more registers, with
the address of the error.

* `RetryLayout`, `MemoryError`: the bit fields of the registers, and what is reported of them;
* `RetryScan`: the variables of the loops over the registers;
* `decodeRetryLogWhitley`, `decodeRetryLogEaglestream`, `decodeRetryLogPurley`: the loops;
* `LogRegister`, `Decoded`: a log with its own registers, and what the report should say.
-/

namespace BmcBafi

open BmcLib

/-! ## Sections -/

/-- The registers of a section with their texts: the `uncore` section of a CPU, for Purley the section of a
socket in `uncore_status_regs`. -/
structure UncoreSection where
  items : List (List Char × List Char)
  nodup : (items.map Prod.fst).Nodup

namespace UncoreSection

variable (x : UncoreSection)

def find (reg : List Char) : Option (List Char) := x.items.lookup reg

/-- The text of a register that is there. -/
def text (reg : List Char) : List Char := (x.find reg).getD []

/-- The number in a register. -/
def number (reg : List Char) : Option ℕ := (x.find reg).bind (stoull 16)

/-- The number, in 32 bits. -/
def value (reg : List Char) : ℕ := (x.number reg).getD 0 % 2 ^ 32

end UncoreSection

/-- `str2uint` for a variable of 64 bits. -/
def str2uint64 (s : List Char) (output : UInt64) : Bool × UInt64 :=
  match stoull 16 s with
  | some n => (true, UInt64.ofNat n)
  | none => (checkInproperValue s, output)

/-- `std::string::replace`. -/
def replace (s : List Char) (pos n : ℕ) (t : List Char) : List Char :=
  s.take pos ++ t ++ s.drop (pos + n)

/-! ## Bit fields -/

structure BitField where
  offset : ℕ
  width : ℕ

def BitField.of (f : BitField) (x : ℕ) : ℕ := bits x f.offset f.width

/-- The fields `valid`, `uc` and `mode` of a log, and `chip_select` of an address. -/
def logValid : BitField := ⟨0, 1⟩
def logUc : BitField := ⟨1, 1⟩
def logMode : BitField := ⟨3, 4⟩
def chipSelect : BitField := ⟨6, 3⟩

/-- The fields whose places depend on the type of CPU. -/
structure RetryLayout where
  cbit : BitField
  bank : BitField
  column : BitField
  row : BitField

def whitleyLayout : RetryLayout := ⟨⟨9, 4⟩, ⟨13, 6⟩, ⟨19, 10⟩, ⟨0, 18⟩⟩
def eaglestreamLayout : RetryLayout := ⟨⟨9, 5⟩, ⟨14, 6⟩, ⟨20, 10⟩, ⟨0, 18⟩⟩
def purleyLayout : RetryLayout := ⟨⟨9, 3⟩, ⟨12, 4⟩, ⟨16, 12⟩, ⟨0, 21⟩⟩

/-- The names in `Mode`, `ModeSpr` and `ModePurley`. -/
def modeNames : List (List Char) :=
  ["sddc 2LM", "sddc 1LM", "sddc +1 2LM", "sddc +1 1LM", "adddc 2LM", "adddc 1LM", "adddc +1 2LM",
    "adddc +1 1LM", "read is from ddrt dimm", "x8 sddc", "x8 sddc +1", "not a valid ecc mode"].map
    String.toList

/-! ## What is reported -/

/-- A channel of a memory controller. -/
structure ImcChannel where
  imc : Char
  channel : Char
  deriving DecidableEq

/-- The names in `ImcChannel`, `ImcChannelSpr` and `ImcChannelPurley`. -/
def ImcChannel.text (c : ImcChannel) : List Char :=
  "IMC ".toList ++ c.imc :: ", Channel ".toList ++ [c.channel]

/-- A slot in `MemoryLocationPcb`. -/
structure SilkscreenSlot where
  socket : ℕ
  imc : ℕ
  channel : ℕ
  slot : ℕ
  slotName : List Char

/-- The names of the slots at a place. -/
def slotNames (slots : List SilkscreenSlot) (socket : ℕ) (c : ImcChannel) (dimm : ℕ) :
    List (List Char) :=
  (slots.filter fun s => s.socket = socket ∧ c.imc.toNat = '0'.toNat + s.imc ∧
    c.channel.toNat = '0'.toNat + s.channel ∧ s.slot = dimm).map SilkscreenSlot.slotName

/-- What is reported of the first register of an address. -/
structure MemoryLocation where
  slotNames : List (List Char)
  bankAddress : ℕ
  bankGroup : ℕ
  rank : ℕ
  subRank : ℕ
  subChannel : Option ℕ
  mode : List Char
  column : ℕ

/-- An entry of the report; a part is missing where its register is not read. -/
structure MemoryError where
  location : Option MemoryLocation := none
  row : Option ℕ := none
  address : Option ℕ := none

/-- A name and a number. -/
def numberText (name : String) (n : ℕ) : List Char := name.toList ++ Nat.toDigits 10 n

def MemoryLocation.text (l : MemoryLocation) : List Char :=
  l.slotNames.flatMap (· ++ ", ".toList) ++ numberText "Bank: " l.bankAddress ++
    numberText ", Bank group: " l.bankGroup ++ numberText ", Rank: " l.rank ++
    numberText ", Sub-Rank: " l.subRank ++ (l.subChannel.elim [] (numberText ", Sub-Channel: ")) ++
    ", Mode: ".toList ++ l.mode ++ numberText ", Column: " l.column

/-- The text in the report. -/
def MemoryError.text (e : MemoryError) : List Char :=
  e.location.elim [] MemoryLocation.text ++ e.row.elim [] (numberText ", Row: ") ++
    e.address.elim [] fun a => " System address for last entry: ".toList ++ intToHex 8 a

/-- The slot of a DIMM in its channel. -/
def dimm (a : ℕ) : ℕ := (chipSelect.of a >>> 2 &&& 1) % 2 ^ 8

/-- The key of an entry. -/
def errorKey (c : ImcChannel) (dimm : ℕ) : List Char := c.text ++ numberText ", SLOT: " dimm

/-- What is reported of an address. -/
def RetryLayout.location (L : RetryLayout) (names : List (List Char)) (subChannel : Bool)
    (mode : List Char) (a : ℕ) : MemoryLocation where
  slotNames := names
  bankAddress := ((L.bank.of a &&& 0xc) % 2 ^ 8) >>> 2
  bankGroup := (L.bank.of a &&& 0x3) % 2 ^ 8
  rank := (chipSelect.of a &&& 0x3) % 2 ^ 8
  subRank := L.cbit.of a % 2 ^ 8
  subChannel := if subChannel then some (chipSelect.of a % 2 ^ 8) else none
  mode := mode
  column := (L.column.of a >>> 3) % 2 ^ 8

/-! ## Variables -/

/-- The variables of a loop. An entry of the report is given by its class, `true` for `Uncorrectable`, and
its key. -/
structure RetryScan where
  errLog : UInt32 := 0
  address1 : UInt32 := 0
  address2 : UInt32 := 0
  address3 : UInt64 := 0
  ssKey : List Char := []
  ssValue : MemoryError := {}
  memoryErrors : Bool × List Char → Option MemoryError := fun _ => none

namespace RetryScan

variable (x : UncoreSection)

/-- The start of a pass. -/
def next (st : RetryScan) : RetryScan := { st with ssKey := [], ssValue := {} }

def valid (st : RetryScan) : Bool := decide (logValid.of st.errLog.toNat ≠ 0)

def uc (st : RetryScan) : Bool := decide (logUc.of st.errLog.toNat ≠ 0)

def mode (st : RetryScan) : Option (List Char) := modeNames[logMode.of st.errLog.toNat]?

def readLog (text : List Char) (st : RetryScan) : Bool × RetryScan :=
  let r := str2uint text st.errLog
  (r.1, { st with errLog := r.2 })

/-- The first register of an address. -/
def readAddress1 (text : List Char) (key : ℕ → List Char) (location : ℕ → MemoryLocation)
    (st : RetryScan) : RetryScan :=
  let r := str2uint text st.address1
  if r.1 then
    { st with
      address1 := r.2, ssKey := key r.2.toNat
      ssValue := { st.ssValue with location := some (location r.2.toNat) } }
  else { st with address1 := r.2 }

/-- The second one. -/
def readRow (L : RetryLayout) (text : List Char) (st : RetryScan) : RetryScan :=
  let r := str2uint text st.address2
  if r.1 then
    { st with
      address2 := r.2
      ssValue := { st.ssValue with row := some (L.row.of r.2.toNat % 2 ^ 16) } }
  else { st with address2 := r.2 }

/-- The system address that goes with a log, where the log has one. -/
def readSystemAddress (valid : BitField) (text : List Char) (address : Option (List Char))
    (st : RetryScan) : RetryScan :=
  let r := st.readLog text
  match r.1 && decide (valid.of r.2.errLog.toNat ≠ 0), address with
  | true, some address =>
    let a := str2uint64 address r.2.address3
    if a.1 && r.2.ssValue.address.isNone then
      { r.2 with
        address3 := a.2
        ssValue := { r.2.ssValue with address := some (a.2.toNat % 2 ^ 52) } }
    else { r.2 with address3 := a.2 }
  | _, _ => r.2

/-- An entry of the report. A former one with the same key is lost. -/
def report (uncorrectable : Bool) (st : RetryScan) : RetryScan :=
  { st with
    memoryErrors := Function.update st.memoryErrors (uncorrectable, st.ssKey) (some st.ssValue) }

end RetryScan

/-- The place of a system address: the first of two names that is in the name of the log tells how to
replace its end. -/
def systemAddress (reg from₁ to₁ from₂ to₂ : List Char) : List Char :=
  if from₁ <:+: reg then replace reg 13 5 to₁
  else if from₂ <:+: reg then replace reg 13 5 to₂ else reg

/-! ## Loops -/

section Loops

variable (x : UncoreSection) (slots : List SilkscreenSlot) (socket : ℕ)

/-- `imcChannels` and `imcChannelsSpr`, with the numbers of the controllers. -/
def imcChannels : List (List Char × Char) :=
  [("B30_D26_F0_".toList, '0'), ("B30_D27_F0_".toList, '1'), ("B30_D28_F0_".toList, '2'),
    ("B30_D29_F0_".toList, '3')]

/-- A table of the registers of each channel. -/
def imcChannelTable (offsets : List (List Char × Char)) : List (List Char × ImcChannel) :=
  imcChannels.flatMap fun c => offsets.map fun o => (c.1 ++ o.1, ⟨c.2, o.2⟩)

/-- `offsets`. -/
def offsetsWhitley : List (List Char) := ["0x22C60", "0x22E54", "0x26C60", "0x26E54"].map String.toList

/-- `ImcChannel`. -/
def imcChannelWhitley : List (List Char × ImcChannel) :=
  imcChannelTable [("0x22C60".toList, '0'), ("0x22E54".toList, '0'), ("0x22C58".toList, '0'),
    ("0x22E58".toList, '0'), ("0x26C60".toList, '1'), ("0x26E54".toList, '1'), ("0x26C58".toList, '1'),
    ("0x26E58".toList, '1')]

/-- A pass of `decodeRetryLogWhitley`. -/
def RetryScan.whitley (st : RetryScan) (reg : List Char) : RetryScan :=
  let st := st.next
  match x.find reg with
  | none => st
  | some text =>
    let r := st.readLog text
    let st := r.2
    if !r.1 || !st.valid then st
    else
      match imcChannelWhitley.lookup reg, st.mode with
      | some c, some mode =>
        let reg1 := if "C60".toList <:+: reg then replace reg 15 3 "C58".toList
          else if "E54".toList <:+: reg then replace reg 15 3 "E58".toList else reg
        let st := match x.find reg1 with
          | none => st
          | some text1 =>
            let st := if "C58".toList <:+: reg1 ∨ "E58".toList <:+: reg1 then
                st.readAddress1 text1 (fun a => errorKey c (dimm a)) fun a =>
                  whitleyLayout.location (slotNames slots socket c (dimm a)) false mode a
              else st
            let st := st.readRow whitleyLayout (x.text (replace reg1 15 3 "E5C".toList))
            -- both logs are read into the variable that holds the log of this pass
            let logC60 := replace reg1 15 3 "C60".toList
            let st := st.readSystemAddress ⟨22, 1⟩ (x.text logC60) (x.find (systemAddress logC60
              "22C60".toList "20ED8".toList "26C60".toList "24ED8".toList))
            let logE54 := replace reg 15 3 "E54".toList
            st.readSystemAddress ⟨22, 1⟩ (x.text logE54) (x.find (systemAddress logE54
              "22E54".toList "20EE0".toList "26E54".toList "24EE0".toList))
        st.report st.uc
      | _, _ => st

/-- `decodeRetryLogWhitley`. -/
def decodeRetryLogWhitley : RetryScan :=
  imcChannels.foldl (fun st c => offsetsWhitley.foldl (fun st offset =>
    st.whitley x slots socket (c.1 ++ offset)) st) {}

/-- `offsetsSpr`. -/
def offsetsSpr : List (List Char) := ["0x22c60", "0x22e54", "0x2ac60", "0x2ae54"].map String.toList

/-- `ImcChannelSpr`. -/
def imcChannelSpr : List (List Char × ImcChannel) :=
  imcChannelTable [("0x22c60".toList, '0'), ("0x22e54".toList, '0'), ("0x22c58".toList, '0'),
    ("0x22e58".toList, '0'), ("0x2ac60".toList, '1'), ("0x2ae54".toList, '1'), ("0x2ac58".toList, '1'),
    ("0x2ae58".toList, '1')]

/-- A pass of `decodeRetryLogEaglestream`. -/
def RetryScan.eaglestream (st : RetryScan) (reg : List Char) : RetryScan :=
  let st := st.next
  match x.find reg with
  | none => st
  | some text =>
    let r := st.readLog text
    let st := r.2
    if !r.1 || !st.valid then st
    else
      match imcChannelSpr.lookup reg, st.mode with
      | some c, some mode =>
        let uncorErr := st.uc
        let regC58 := replace reg 15 3 "c58".toList
        let regE58 := replace regC58 15 3 "e58".toList
        -- the first of the addresses that is not 0
        let reg1 := if x.text regC58 = "0x0".toList then
            if x.text regE58 = "0x0".toList then replace regE58 15 3 "d58".toList else regE58
          else regC58
        let st := match x.find reg1 with
          | none => st
          | some text1 =>
            let st := if "c58".toList <:+: reg1 ∨ "e58".toList <:+: reg1 ∨ "d58".toList <:+: reg1 then
                st.readAddress1 text1 (fun a => errorKey c (dimm a)) fun a =>
                  eaglestreamLayout.location (slotNames slots socket c (dimm a)) true mode a
              else st
            let st := st.readRow eaglestreamLayout (x.text (replace reg1 15 3 "e5c".toList))
            let logC60 := replace reg1 15 3 "c60".toList
            let st := st.readSystemAddress ⟨23, 1⟩ (x.text logC60) (x.find (systemAddress logC60
              "22c60".toList "20ed8".toList "2ac60".toList "28ed8".toList))
            let logE54 := replace reg 15 3 "e54".toList
            let st := st.readSystemAddress ⟨23, 1⟩ (x.text logE54) (x.find (systemAddress logE54
              "22e54".toList "20ee0".toList "2ae54".toList "28ee0".toList))
            let logC70 := replace reg 15 3 "c70".toList
            st.readSystemAddress ⟨23, 1⟩ (x.text logC70) (x.find (systemAddress logC70
              "22c70".toList "20f10".toList "2ac70".toList "28f10".toList))
        st.report uncorErr
      | _, _ => st

/-- `decodeRetryLogEaglestream`. -/
def decodeRetryLogEaglestream : RetryScan :=
  imcChannels.foldl (fun st c => offsetsSpr.foldl (fun st offset =>
    st.eaglestream x slots socket (c.1 ++ offset)) st) {}

/-- `ImcChannelPurley`, in the order of `imcChannelsPurley`. -/
def imcChannelPurley : List (List Char × ImcChannel) :=
  [("B02_D0a_F3_0x154".toList, ⟨'0', '0'⟩), ("B02_D0a_F7_0x154".toList, ⟨'0', '1'⟩),
    ("B02_D0b_F3_0x154".toList, ⟨'0', '2'⟩), ("B02_D0c_F3_0x154".toList, ⟨'1', '0'⟩),
    ("B02_D0c_F7_0x154".toList, ⟨'1', '1'⟩), ("B02_D0d_F3_0x154".toList, ⟨'1', '2'⟩)]

def imcChannelsPurley : List (List Char) :=
  ["B02_D0a_F3_", "B02_D0a_F7_", "B02_D0b_F3_", "B02_D0c_F3_", "B02_D0c_F7_", "B02_D0d_F3_"].map
    String.toList

/-- A pass of `decodeBdfRegisters`. -/
def RetryScan.bdf (st : RetryScan) (reg : List Char) : RetryScan :=
  let st := st.next
  match x.find reg with
  | none => st
  | some text =>
    let r := st.readLog text
    let st := r.2
    if !r.1 || !st.valid then st
    else
      match imcChannelPurley.lookup reg, st.mode with
      | some c, some mode =>
        let uncorErr := st.uc
        let reg1 := replace reg 13 3 "15C".toList
        let st := match x.find reg1 with
          | none => st
          | some text1 =>
            let st := if "15C".toList <:+: reg1 then
                st.readAddress1 text1 (fun a => errorKey c (dimm a)) fun a =>
                  purleyLayout.location (slotNames slots socket c (dimm a)) true mode a
              else st
            st.readRow purleyLayout (x.text (replace reg1 13 3 "114".toList))
        st.report uncorErr
      | _, _ => st

/-- `decodeBdfRegisters`. -/
def decodeBdfRegisters (st : RetryScan) : RetryScan :=
  imcChannelsPurley.foldl (fun st channel => st.bdf x slots socket (channel ++ "0x154".toList)) st

/-- What `.` does not match. -/
def isLineTerminator (c : Char) : Bool := c = '\n' ∨ c = '\r'

/-- `retryRdErrLogRegex`. -/
def retryRdErrLogRegex (entry : List Char) : Option ImcChannel :=
  match entry with
  | 'i' :: 'm' :: 'c' :: imc :: '_' :: 'c' :: channel :: rest =>
    if rest = "_retry_rd_err_log".toList ∧ ¬ isLineTerminator imc ∧ ¬ isLineTerminator channel then
      some ⟨imc, channel⟩
    else none
  | _ => none

/-- A pass of `decodeImcRegisters`. -/
def RetryScan.imc (st : RetryScan) (item : List Char × List Char) : RetryScan :=
  let st := st.next
  match retryRdErrLogRegex item.1 with
  | none => st
  | some c =>
    let r := st.readLog item.2
    let st := r.2
    if !r.1 || !st.valid then st
    else
      match st.mode with
      | none => st
      | some mode =>
        let uncorErr := st.uc
        -- here the first slot that fits is enough
        let st := st.readAddress1 (x.text (item.1 ++ "_address1".toList))
          (fun a => errorKey c (dimm a)) fun a =>
            purleyLayout.location ((slotNames slots socket c (dimm a)).take 1) true mode a
        let st := st.readRow purleyLayout (x.text (item.1 ++ "_address2".toList))
        st.report uncorErr

/-- `decodeImcRegisters`. -/
def decodeImcRegisters (st : RetryScan) : RetryScan :=
  x.items.foldl (fun st item => st.imc x slots socket item) st

/-- `decodeRetryLogPurley`. Each of the two functions has variables of its own. -/
def decodeRetryLogPurley : RetryScan :=
  decodeImcRegisters x slots socket
    { memoryErrors := (decodeBdfRegisters x slots socket {}).memoryErrors }

end Loops

end BmcBafi
