import Bmc.Lib.Bits
import Bmc.Lib.Table
import Bmc.Bafi.Text

/-!
# First errors among the TOR entries

The report marks the entries of the CHA that the logging registers name as the source of the first error.

* `SocketCtx`, `CpuName.analyze`: the logging registers; `getFirstErrorCha`: the CHA of an identifier;
* `marks`, `torMarks`: the marks of an entry, as `createJSONReport` makes them;
* `MarkedRight`: the marks are those of the complete identifiers; `Whole`: nothing was cut off;
* **`markedRight_iff`**: which entries are marked right.
-/

namespace BmcBafi

open BmcLib

/-! ## Identifiers -/

/-- The types of CPU, by the name that `getCpuType` gives. -/
inductive CpuName where
  | icx
  | cpx
  | clx
  | skx
  | spr
  | sprHbm
  deriving DecidableEq, Repr

/-- `Cpu == "SPR" || Cpu == "SPR-HBM"`. -/
def CpuName.isSpr (cpu : CpuName) : Bool := cpu = .spr || cpu = .sprHbm

/-- A table of the CHAs from 0 on, whose identifiers begin with `first`. -/
def chaTable (first : UInt8) (count : ℕ) : List (UInt8 × UInt8) :=
  (List.range count).map fun n => (first + UInt8.ofNat n, UInt8.ofNat n)

/-- `IcxfirstErrorCha`. -/
def icxfirstErrorCha : List (UInt8 × UInt8) := chaTable 0x40 38

/-- `CpxfirstErrorCha`. -/
def cpxfirstErrorCha : List (UInt8 × UInt8) := chaTable 0xc0 64

/-- `SkxfirstErrorCha`. -/
def skxfirstErrorCha : List (UInt8 × UInt8) := chaTable 0xc0 64

/-- `SprfirstErrorCha`. -/
def sprfirstErrorCha : List (UInt8 × UInt8) := chaTable 0x80 72

/-- `FirstErrorCha`. -/
def CpuName.firstErrorCha : CpuName → List (UInt8 × UInt8)
  | icx => icxfirstErrorCha
  | cpx | clx => cpxfirstErrorCha
  | skx => skxfirstErrorCha
  | spr | sprHbm => sprfirstErrorCha

/-- `getFirstErrorCha`. The key of the table has eight bits, and `find` takes the identifier as such. -/
def getFirstErrorCha (decodingTable : List (UInt8 × UInt8)) (toDecode : ℕ) : Option UInt8 :=
  decodingTable.lookup (UInt8.ofNat toDecode)

/-! ## Logging registers -/

/-- `firstIerrSrcIdCha` or `firstMcerrSrcIdCha` of a register whose identifiers have `width` bits. -/
def firstSrcId (width : ℕ) (value : UInt32) : ℕ := bits value.toNat 0 width

/-- `firstIerrValid` or `firstMcerrValid`. -/
def firstValid (width : ℕ) (value : UInt32) : Bool := bits value.toNat width 1 ≠ 0

/-- `SocketCtx`, without the registers of the error sources. -/
structure SocketCtx where
  ierr : UInt32
  ierrSpr : UInt32
  mcerr : UInt32
  mcerrSpr : UInt32
  rMcerrErr : UInt32

/-- The value of a register in the context: zero if it is not there or no number. -/
def registerValue : Option (List Char) → UInt32
  | none => 0
  | some s => if (str2uint s 0).1 then (str2uint s 0).2 else 0

/-- `analyze`: the context from the texts of the registers. -/
def CpuName.analyze (cpu : CpuName) (ierr mcerr rmca : Option (List Char)) : SocketCtx :=
  if cpu.isSpr then
    { ierr := 0, ierrSpr := registerValue ierr, mcerr := 0, mcerrSpr := registerValue mcerr,
      rMcerrErr := registerValue rmca }
  else
    { ierr := registerValue ierr, ierrSpr := 0, mcerr := registerValue mcerr, mcerrSpr := 0,
      rMcerrErr := 0 }

/-! ## Entries -/

/-- An entry that `parseTorData` has accepted, with the key of its CHA, the variable `sad` and what `tor->cha`
held before. -/
structure TorItem where
  chaItemKey : List Char
  sad : UInt8
  stack : UInt32

/-- What the keys of CHAs begin with. -/
def CpuName.chaPrefix (cpu : CpuName) : List Char :=
  if cpu = .skx then ['C', 'H', 'A'] else ['c', 'h', 'a']

/-- `tor->cha` of an entry that `getTorsData` takes. -/
def TorItem.cha (cpu : CpuName) (item : TorItem) : Option UInt32 :=
  if cpu.chaPrefix.isPrefixOf item.chaItemKey then
    match stoull 10 (item.chaItemKey.drop 3) with
    | some n => some (UInt32.ofNat n)
    | none => if checkInproperValue (item.chaItemKey.drop 3) then some item.stack else none
  else none

/-! ## Marks -/

/-- `SadValues::CFG`, `SadValues::MMIOPartialRead` and `SadValues::IO`: the entries with something in
`Decoded`. -/
def sadTimeout (sad : UInt8) : Bool := sad = 2 || sad = 3 || sad = 4

/-- `chaNotPresentInMce`. `mce` are the keys of the first part of the summary, and `errorsPerSocket` is the text
of `createSummaryString`. -/
def chaNotPresentInMce (chaNum : UInt8) (mce : List (List Char)) (errorsPerSocket : List Char) : Bool :=
  let chaBank := "bank CHA".toList ++ Nat.toDigits 10 chaNum.toNat
  let firstMcerr := "FirstMCERR = CHA".toList ++ Nat.toDigits 10 chaNum.toNat ++ [',']
  mce.any fun key => decide (chaBank <:+: key) && decide (¬ firstMcerr <:+: errorsPerSocket)

/-- What the summary of a socket has when the entries are reported. -/
structure SocketSummary where
  mce : List (List Char)
  errorsPerSocket : List Char

/-- The marks of an entry. -/
structure Marks where
  firstMcerr : Bool
  firstIerr : Bool
  deriving DecidableEq, Repr

/-- The entry is taken for a false first error, if it is not one. -/
def falseMcerr (summary : SocketSummary) (sad : UInt8) (cha : UInt32) : Bool :=
  sadTimeout sad && chaNotPresentInMce cha.toUInt8 summary.mce summary.errorsPerSocket

/-- `First_MCERR`. -/
def firstMcerr (cpu : CpuName) (ctxSocket : SocketCtx) (summary : SocketSummary) (cha : UInt32)
    (sad : UInt8) : Bool :=
  let firstMcerrCha := getFirstErrorCha cpu.firstErrorCha
    (if cpu.isSpr then firstSrcId 10 ctxSocket.mcerrSpr else firstSrcId 8 ctxSocket.mcerr)
  let firstRmcaMcerrCha := getFirstErrorCha cpu.firstErrorCha (firstSrcId 10 ctxSocket.rMcerrErr)
  if firstMcerrCha = some cha.toUInt8 ∧
      (firstValid 8 ctxSocket.mcerr || firstValid 10 ctxSocket.mcerrSpr) then true
  else if falseMcerr summary sad cha then false
  else if cpu.isSpr then
    decide (firstRmcaMcerrCha = some cha.toUInt8) && firstValid 10 ctxSocket.rMcerrErr
  else false

/-- `First_IERR`. -/
def firstIerr (cpu : CpuName) (ctxSocket : SocketCtx) (cha : UInt32) : Bool :=
  let firstIerrCha := getFirstErrorCha cpu.firstErrorCha
    (if cpu.isSpr then firstSrcId 10 ctxSocket.ierrSpr else firstSrcId 8 ctxSocket.ierr)
  decide (firstIerrCha = some cha.toUInt8) &&
    (firstValid 8 ctxSocket.ierr || firstValid 10 ctxSocket.ierrSpr)

/-- The marks of an entry, if it is in the report. -/
def torMarks (cpu : CpuName) (ierr mcerr rmca : Option (List Char)) (summary : SocketSummary)
    (item : TorItem) : Option Marks :=
  (item.cha cpu).map fun cha =>
    ⟨firstMcerr cpu (cpu.analyze ierr mcerr rmca) summary cha item.sad,
      firstIerr cpu (cpu.analyze ierr mcerr rmca) cha⟩

/-! ## What is expected -/

/-- The number of the CHA in the key of an entry. -/
def TorItem.number (item : TorItem) : Option ℕ := stoull 10 (item.chaItemKey.drop 3)

/-- The number of bits of the identifiers. -/
def CpuName.idWidth (cpu : CpuName) : ℕ := if cpu.isSpr then 10 else 8

/-- An identifier denotes a CHA. -/
def CpuName.Denotes (cpu : CpuName) (id n : ℕ) : Prop :=
  ∃ e ∈ cpu.firstErrorCha, e.1.toNat = id ∧ e.2.toNat = n

/-- A logging register is valid and its complete identifier denotes the CHA of the entry. -/
def Points (cpu : CpuName) (register : Option (List Char)) (item : TorItem) : Prop :=
  firstValid cpu.idWidth (registerValue register) = true ∧
    ∃ n ∈ item.number, cpu.Denotes (firstSrcId cpu.idWidth (registerValue register)) n

/-- **The marks are right**: those of the complete identifiers in the logging registers. SPR has two of
MCERR. -/
def MarkedRight (cpu : CpuName) (ierr mcerr rmca : Option (List Char)) (summary : SocketSummary)
    (item : TorItem) : Prop :=
  ∀ m ∈ torMarks cpu ierr mcerr rmca summary item,
    (m.firstMcerr = true ↔ Points cpu mcerr item ∨ cpu.isSpr = true ∧ Points cpu rmca item) ∧
      (m.firstIerr = true ↔ Points cpu ierr item)

/-- A logging register is valid and the low byte of its identifier denotes the CHA with the low byte of the
number `cha`. -/
def LowByte (cpu : CpuName) (register : Option (List Char)) (cha : UInt32) : Prop :=
  firstValid cpu.idWidth (registerValue register) = true ∧
    cpu.Denotes (firstSrcId cpu.idWidth (registerValue register) % 256) (cha.toNat % 256)

/-- The identifier and the number of the CHA are in their low bytes. -/
def Whole (cpu : CpuName) (register : Option (List Char)) (item : TorItem) : Prop :=
  firstSrcId cpu.idWidth (registerValue register) < 256 ∧ ∃ n ∈ item.number, n < 256

/-- **What it takes**: where a low byte denotes the CHA, nothing was cut off, or the other register of MCERR
denotes the CHA as well. An entry that only the second register of SPR denotes is not one that is taken for
a false first error. -/
structure Legible (cpu : CpuName) (ierr mcerr rmca : Option (List Char)) (summary : SocketSummary)
    (item : TorItem) (cha : UInt32) : Prop where
  ofIerr : LowByte cpu ierr cha → Whole cpu ierr item
  ofMcerr : LowByte cpu mcerr cha →
    Whole cpu mcerr item ∨ cpu.isSpr = true ∧ LowByte cpu rmca cha ∧ Whole cpu rmca item
  ofRmca : cpu.isSpr = true → ¬ LowByte cpu mcerr cha → LowByte cpu rmca cha →
    (Whole cpu rmca item ↔ falseMcerr summary item.sad cha = false)

/-! ## Proofs -/

variable {cpu : CpuName} {ierr mcerr rmca register : Option (List Char)} {summary : SocketSummary}
  {item : TorItem} {cha : UInt32}

theorem nodup_firstErrorCha (cpu : CpuName) : (cpu.firstErrorCha.map Prod.fst).Nodup := by
  cases cpu <;> decide +kernel

/-- The table is searched for the low byte. -/
theorem getFirstErrorCha_eq_some_iff {id : ℕ} : getFirstErrorCha cpu.firstErrorCha id = some cha.toUInt8 ↔
    cpu.Denotes (id % 256) (cha.toNat % 256) := by
  rw [getFirstErrorCha, lookup_eq_some_iff_mem (nodup_firstErrorCha cpu)]
  constructor
  · exact fun h => ⟨_, h, UInt8.toNat_ofNat', UInt32.toNat_toUInt8 cha⟩
  · rintro ⟨⟨key, value⟩, h, hkey, hvalue⟩
    obtain rfl : key = UInt8.ofNat id := UInt8.toNat_inj.1 (hkey.trans UInt8.toNat_ofNat'.symm)
    obtain rfl : value = cha.toUInt8 := UInt8.toNat_inj.1 (hvalue.trans (UInt32.toNat_toUInt8 cha).symm)
    exact h

theorem CpuName.Denotes.lt {id n : ℕ} (h : cpu.Denotes id n) : id < 256 ∧ n < 256 := by
  obtain ⟨e, -, rfl, rfl⟩ := h
  exact ⟨e.1.toNat_lt, e.2.toNat_lt⟩

theorem firstValid_zero (width : ℕ) : firstValid width 0 = false := by
  rw [firstValid, UInt32.toNat_zero, bits_zero]
  rfl

/-- `First_IERR` is that of the low byte. -/
theorem firstIerr_iff : firstIerr cpu (cpu.analyze ierr mcerr rmca) cha = true ↔ LowByte cpu ierr cha := by
  rw [firstIerr, Bool.and_eq_true, decide_eq_true_iff, LowByte, and_comm]
  cases hspr : cpu.isSpr with
  | true => simp [CpuName.analyze, CpuName.idWidth, hspr, firstValid_zero, getFirstErrorCha_eq_some_iff]
  | false => simp [CpuName.analyze, CpuName.idWidth, hspr, firstValid_zero, getFirstErrorCha_eq_some_iff]

/-- So is `First_MCERR`, and SPR has a second register for entries that are not taken for false ones. -/
theorem firstMcerr_iff : firstMcerr cpu (cpu.analyze ierr mcerr rmca) summary cha item.sad = true ↔
    LowByte cpu mcerr cha ∨
      cpu.isSpr = true ∧ falseMcerr summary item.sad cha = false ∧ LowByte cpu rmca cha := by
  have hmcerr : (getFirstErrorCha cpu.firstErrorCha
      (if cpu.isSpr then firstSrcId 10 (cpu.analyze ierr mcerr rmca).mcerrSpr
        else firstSrcId 8 (cpu.analyze ierr mcerr rmca).mcerr) = some cha.toUInt8 ∧
      (firstValid 8 (cpu.analyze ierr mcerr rmca).mcerr ||
        firstValid 10 (cpu.analyze ierr mcerr rmca).mcerrSpr) = true) ↔ LowByte cpu mcerr cha := by
    rw [LowByte, and_comm]
    cases hspr : cpu.isSpr with
    | true => simp [CpuName.analyze, CpuName.idWidth, hspr, firstValid_zero, getFirstErrorCha_eq_some_iff]
    | false => simp [CpuName.analyze, CpuName.idWidth, hspr, firstValid_zero, getFirstErrorCha_eq_some_iff]
  rw [firstMcerr]
  by_cases hlow : LowByte cpu mcerr cha
  · exact iff_of_true (if_pos (hmcerr.2 hlow)) (.inl hlow)
  rw [or_iff_right hlow, if_neg fun hc => hlow (hmcerr.1 hc)]
  cases hfalse : falseMcerr summary item.sad cha with
  | true => simp
  | false =>
    rw [if_neg Bool.false_ne_true]
    cases hspr : cpu.isSpr with
    | true =>
      rw [if_pos rfl, LowByte, Bool.and_eq_true, decide_eq_true_iff]
      simp [CpuName.analyze, CpuName.idWidth, hspr, getFirstErrorCha_eq_some_iff, and_comm]
    | false => simp

/-- The variable is the number of the CHA. -/
theorem TorItem.cha_of_number {n : ℕ} (h : item.cha cpu = some cha) (hn : item.number = some n) :
    cha = UInt32.ofNat n := by
  rw [TorItem.number] at hn
  rw [TorItem.cha, hn] at h
  by_cases hprefix : cpu.chaPrefix.isPrefixOf item.chaItemKey = true
  · rw [if_pos hprefix] at h
    exact (Option.some_inj.1 h).symm
  · rw [if_neg hprefix] at h
    exact absurd h (Option.some_ne_none cha).symm

/-- A register points at the entry when its low byte does and nothing is cut off. -/
theorem points_iff (h : item.cha cpu = some cha) :
    Points cpu register item ↔ LowByte cpu register cha ∧ Whole cpu register item := by
  have hcha : ∀ n ∈ item.number, n < 256 → cha.toNat % 256 = n := by
    intro n hn hlt
    rw [TorItem.cha_of_number h hn, UInt32.toNat_ofNat', Nat.mod_eq_of_lt (by omega : n < 2 ^ 32),
      Nat.mod_eq_of_lt hlt]
  constructor
  · rintro ⟨hvalid, n, hn, hdenotes⟩
    obtain ⟨hid, hlt⟩ := hdenotes.lt
    refine ⟨⟨hvalid, ?_⟩, hid, n, hn, hlt⟩
    rwa [hcha n hn hlt, Nat.mod_eq_of_lt hid]
  · rintro ⟨⟨hvalid, hdenotes⟩, hid, n, hn, hlt⟩
    rw [hcha n hn hlt, Nat.mod_eq_of_lt hid] at hdenotes
    exact ⟨hvalid, n, hn, hdenotes⟩

/-- **Entries that are marked right.** The marks of an entry are those of the complete identifiers exactly when
nothing that counts was cut off. -/
theorem markedRight_iff (cpu : CpuName) (ierr mcerr rmca : Option (List Char)) (summary : SocketSummary)
    (item : TorItem) : MarkedRight cpu ierr mcerr rmca summary item ↔
      ∀ cha ∈ item.cha cpu, Legible cpu ierr mcerr rmca summary item cha := by
  rw [MarkedRight, torMarks]
  cases h : item.cha cpu with
  | none => exact iff_of_true (fun m hm => absurd hm (by simp)) fun cha hcha => absurd hcha (by simp)
  | some cha =>
    simp only [Option.map_some, Option.mem_some_iff, forall_eq']
    rw [firstIerr_iff, firstMcerr_iff, points_iff h, points_iff h, points_iff h]
    constructor
    · rintro ⟨hm, hi⟩
      refine ⟨fun hlow => (hi.1 hlow).2, fun hlow => ?_, fun hspr hnot hlow => ?_⟩
      · rcases hm.1 (.inl hlow) with hpoints | ⟨hspr, hpoints⟩
        · exact .inl hpoints.2
        · exact .inr ⟨hspr, hpoints⟩
      · rw [or_iff_right hnot, or_iff_right fun hc => hnot hc.1, and_iff_right hspr, and_iff_right hspr,
          and_iff_left hlow, and_iff_right hlow] at hm
        exact hm.symm
    · rintro ⟨hi, hm, hr⟩
      refine ⟨?_, fun hlow => ⟨hlow, hi hlow⟩, And.left⟩
      by_cases hlow : LowByte cpu mcerr cha
      · refine iff_of_true (.inl hlow) ?_
        rcases hm hlow with hwhole | hother
        · exact .inl ⟨hlow, hwhole⟩
        · exact .inr hother
      · rw [or_iff_right hlow, or_iff_right fun hc => hlow hc.1]
        refine and_congr_right fun hspr => ?_
        constructor
        · exact fun hc => ⟨hc.2, (hr hspr hlow hc.2).2 hc.1⟩
        · exact fun hc => ⟨(hr hspr hlow hc.1).1 hc.2, hc.1⟩

/-- PUNIT is the source of the first MCERR, and an entry of CHA 5 is marked. -/
theorem not_markedRight_punit : ¬ MarkedRight .spr none (some "0x585".toList) none ⟨[], []⟩
    ⟨"cha5".toList, 0, 0⟩ := by
  intro h
  have hmark : torMarks .spr none (some "0x585".toList) none ⟨[], []⟩ ⟨"cha5".toList, 0, 0⟩ =
      some ⟨true, false⟩ := by decide +kernel
  rcases (h _ hmark).1.1 rfl with ⟨-, n, -, hdenotes⟩ | ⟨-, hvalid, -⟩
  · exact absurd hdenotes.lt.1 (by decide +kernel)
  · exact absurd hvalid (by decide +kernel)

end BmcBafi
