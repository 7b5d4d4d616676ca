import Bmc.Lib.Table
import Bmc.Bafi.RetryLog

/-!
# Logs and their addresses

What the report of memory errors should say, and when a loop that writes it does so.

* `LogRegister`, `MemoryError.Describes`, `Decoded`: the logs of a section, each with an entry of its own;
* `str2uint_text`, `readSystemAddress_eq`: reading registers that are numbers;
* `describes_iff`: when an entry describes its address;
* **`decoded_iff_of_written`**: each log is decoded iff it writes its own entry and no other log has the same.
-/

namespace BmcBafi

open BmcLib

/-- A log with the two registers of its address. -/
structure LogRegister where
  location : ImcChannel
  log : List Char
  address1 : List Char
  address2 : List Char
  deriving DecidableEq

namespace LogRegister

variable (x : UncoreSection) (r : LogRegister)

def Valid : Prop := logValid.of (x.value r.log) ≠ 0

instance : Decidable (r.Valid x) := by unfold Valid; infer_instance

def uncorrectable : Bool := decide (logUc.of (x.value r.log) ≠ 0)

def mode : ℕ := logMode.of (x.value r.log)

/-- The entry of the log: its class and its key, with the slot that its own address has. -/
def entry : Bool × List Char := (r.uncorrectable x, errorKey r.location (bits (x.value r.address1) 8 1))

end LogRegister

/-- An entry has the bit fields of the address `a` and the row of the register `row`. -/
structure MemoryError.Describes (L : RetryLayout) (a row : ℕ) (e : MemoryError) : Prop where
  location : ∃ l, e.location = some l ∧ l.bankAddress = bits a (L.bank.offset + 2) 2 ∧
    l.bankGroup = bits a L.bank.offset 2 ∧ l.rank = bits a 6 2 ∧
    l.column = bits a (L.column.offset + 3) (L.column.width - 3)
  row : e.row = some (L.row.of row)

/-- Each valid log has an entry of its own, which describes it. -/
structure Decoded (L : RetryLayout) (x : UncoreSection) (registers : List LogRegister)
    (memoryErrors : Bool × List Char → Option MemoryError) : Prop where
  entry : ∀ r ∈ registers, r.Valid x → ∃ e, memoryErrors (r.entry x) = some e ∧
    e.Describes L (x.value r.address1) (x.value r.address2)
  distinct : ∀ r ∈ registers, ∀ r' ∈ registers, r.Valid x → r'.Valid x → r.entry x = r'.entry x → r = r'

/-! ## Reading -/

section Reading

variable {x : UncoreSection} {reg : List Char}

theorem find_of_number (h : (x.number reg).isSome = true) : x.find reg = some (x.text reg) := by
  unfold UncoreSection.number at h
  unfold UncoreSection.text
  cases hfind : x.find reg with
  | none => rw [hfind] at h; exact absurd h (by decide)
  | some s => rfl

theorem toNat_value (reg : List Char) : (UInt32.ofNat (x.value reg)).toNat = x.value reg :=
  UInt32.toNat_ofNat_of_lt (Nat.mod_lt _ (by decide))

theorem str2uint_text (h : (x.number reg).isSome = true) (out : UInt32) :
    str2uint (x.text reg) out = (true, UInt32.ofNat (x.value reg)) := by
  have hfind := find_of_number h
  obtain ⟨n, hn⟩ := Option.isSome_iff_exists.1 h
  have hstoull : stoull 16 (x.text reg) = some n := by
    rwa [UncoreSection.number, hfind] at hn
  rw [str2uint, hstoull, UncoreSection.value, hn]
  refine congrArg (true, ·) (UInt32.toNat_inj.1 ?_)
  show n % 2 ^ 32 = n % 2 ^ 32 % 2 ^ 32
  rw [Nat.mod_mod]

/-- A log that is not there is not valid. -/
theorem number_isSome_of_valid {r : LogRegister} (h : r.Valid x) : (x.number r.log).isSome = true := by
  by_contra hnone
  rw [Option.not_isSome_iff_eq_none] at hnone
  refine h ?_
  rw [UncoreSection.value, hnone]
  exact bits_zero 0 1

namespace RetryScan

variable (st : RetryScan)

theorem readLog_eq (h : (x.number reg).isSome = true) :
    st.readLog (x.text reg) = (true, { st with errLog := UInt32.ofNat (x.value reg) }) := by
  rw [readLog, str2uint_text h]

theorem readAddress1_eq (h : (x.number reg).isSome = true) (key : ℕ → List Char)
    (location : ℕ → MemoryLocation) : st.readAddress1 (x.text reg) key location =
      { st with
        address1 := UInt32.ofNat (x.value reg)
        ssKey := key (x.value reg)
        ssValue := { st.ssValue with location := some (location (x.value reg)) } } := by
  rw [readAddress1, str2uint_text h]
  simp only [if_true, toNat_value]

theorem readRow_eq (h : (x.number reg).isSome = true) (L : RetryLayout) :
    st.readRow L (x.text reg) =
      { st with
        address2 := UInt32.ofNat (x.value reg)
        ssValue := { st.ssValue with row := some (L.row.of (x.value reg) % 2 ^ 16) } } := by
  rw [readRow, str2uint_text h]
  simp only [if_true, toNat_value]

/-- Reading a system address changes the log and nothing else but addresses. -/
theorem readSystemAddress_eq (h : (x.number reg).isSome = true) (valid : BitField)
    (address : Option (List Char)) : ∃ a b, st.readSystemAddress valid (x.text reg) address =
      { st with
        errLog := UInt32.ofNat (x.value reg)
        address3 := a
        ssValue := { st.ssValue with address := b } } := by
  unfold readSystemAddress
  simp only [readLog_eq st h]
  split
  · split_ifs
    · exact ⟨_, _, rfl⟩
    · exact ⟨_, _, rfl⟩
  · exact ⟨_, _, rfl⟩

theorem memoryErrors_report (uncorrectable : Bool) : (st.report uncorrectable).memoryErrors =
    Function.update st.memoryErrors (uncorrectable, st.ssKey) (some st.ssValue) := rfl

section SystemAddress

variable (h : (x.number reg).isSome = true) (valid : BitField) (address : Option (List Char))

include h

theorem errLog_readSystemAddress :
    (st.readSystemAddress valid (x.text reg) address).errLog = UInt32.ofNat (x.value reg) := by
  obtain ⟨a, b, heq⟩ := st.readSystemAddress_eq h valid address
  rw [heq]

theorem ssKey_readSystemAddress :
    (st.readSystemAddress valid (x.text reg) address).ssKey = st.ssKey := by
  obtain ⟨a, b, heq⟩ := st.readSystemAddress_eq h valid address
  rw [heq]

theorem location_readSystemAddress :
    (st.readSystemAddress valid (x.text reg) address).ssValue.location = st.ssValue.location := by
  obtain ⟨a, b, heq⟩ := st.readSystemAddress_eq h valid address
  rw [heq]

theorem row_readSystemAddress :
    (st.readSystemAddress valid (x.text reg) address).ssValue.row = st.ssValue.row := by
  obtain ⟨a, b, heq⟩ := st.readSystemAddress_eq h valid address
  rw [heq]

theorem memoryErrors_readSystemAddress :
    (st.readSystemAddress valid (x.text reg) address).memoryErrors = st.memoryErrors := by
  obtain ⟨a, b, heq⟩ := st.readSystemAddress_eq h valid address
  rw [heq]

end SystemAddress

end RetryScan

end Reading

theorem replace_append {base s t : List Char} {n k : ℕ} (hbase : base.length = n) (hs : s.length = k) :
    replace (base ++ s) n k t = base ++ t := by
  rw [replace, List.take_left' hbase, List.drop_eq_nil_of_le, List.append_nil]
  rw [List.length_append, hbase, hs]

/-! ## What is reported -/

theorem dimm_eq (a : ℕ) : dimm a = bits a 8 1 := by
  have h : chipSelect.of a >>> 2 &&& 1 = bits a 8 1 := by
    rw [Nat.and_one_is_mod, Nat.shiftRight_eq_div_pow]
    exact bits_bits a 6 3 2 1 (by decide)
  rw [dimm, h]
  exact Nat.mod_eq_of_lt ((bits_lt a 8 1).trans (by decide))

/-- Two addresses have the same fields in a report, the slot among them, where the first one is
cut off to the size of a column. -/
structure SameAddress (L : RetryLayout) (a a' : ℕ) : Prop where
  slot : bits a 8 1 = bits a' 8 1
  bankAddress : bits a (L.bank.offset + 2) 2 = bits a' (L.bank.offset + 2) 2
  bankGroup : bits a L.bank.offset 2 = bits a' L.bank.offset 2
  rank : bits a 6 2 = bits a' 6 2
  column : bits a (L.column.offset + 3) (L.column.width - 3) % 2 ^ 8 =
    bits a' (L.column.offset + 3) (L.column.width - 3)

/-- The unions have room for what is reported. -/
structure RetryLayout.Wide (L : RetryLayout) : Prop where
  bank : 4 ≤ L.bank.width
  column : 3 ≤ L.column.width

theorem wide_whitleyLayout : whitleyLayout.Wide := ⟨by decide, by decide⟩
theorem wide_eaglestreamLayout : eaglestreamLayout.Wide := ⟨by decide, by decide⟩
theorem wide_purleyLayout : purleyLayout.Wide := ⟨by decide, by decide⟩

section Location

variable {L : RetryLayout} (hL : L.Wide) (names : List (List Char)) (sub : Bool) (mode : List Char)
  (a : ℕ)

theorem and_mod_eq {n k m : ℕ} (h : k < m) : (n &&& k) % m = n &&& k :=
  Nat.mod_eq_of_lt (Nat.and_le_right.trans_lt h)

theorem location_rank : (L.location names sub mode a).rank = bits a 6 2 := by
  show (chipSelect.of a &&& 0x3) % 2 ^ 8 = _
  rw [and_mod_eq (by decide)]
  exact (Nat.and_two_pow_sub_one_eq_mod _ 2).trans ((bits_bits a 6 3 0 2 (by decide)) ▸ by
    rw [bits, pow_zero, Nat.div_one]; rfl)

include hL

theorem location_bankGroup : (L.location names sub mode a).bankGroup = bits a L.bank.offset 2 := by
  show (L.bank.of a &&& 0x3) % 2 ^ 8 = _
  rw [and_mod_eq (by decide), ← Nat.add_zero L.bank.offset,
    ← bits_bits a L.bank.offset L.bank.width 0 2 (by have := hL.bank; omega)]
  refine (Nat.and_two_pow_sub_one_eq_mod _ 2).trans ?_
  rw [bits, pow_zero, Nat.div_one]
  rfl

theorem location_bankAddress :
    (L.location names sub mode a).bankAddress = bits a (L.bank.offset + 2) 2 := by
  show ((L.bank.of a &&& 0xc) % 2 ^ 8) >>> 2 = _
  rw [and_mod_eq (by decide), Nat.shiftRight_and_distrib,
    ← bits_bits a L.bank.offset L.bank.width 2 2 (by have := hL.bank; omega)]
  refine (Nat.and_two_pow_sub_one_eq_mod _ 2).trans ?_
  rw [Nat.shiftRight_eq_div_pow]
  rfl

theorem location_column : (L.location names sub mode a).column =
    bits a (L.column.offset + 3) (L.column.width - 3) % 2 ^ 8 := by
  show (L.column.of a >>> 3) % 2 ^ 8 = _
  have hw := hL.column
  have hbits := bits_bits a L.column.offset L.column.width 3 (L.column.width - 3) (by omega)
  have hlt : L.column.of a / 2 ^ 3 < 2 ^ (L.column.width - 3) := by
    refine Nat.div_lt_of_lt_mul ?_
    rw [← pow_add, Nat.add_sub_cancel' hw]
    exact bits_lt _ _ _
  rw [← hbits, Nat.shiftRight_eq_div_pow]
  exact congrArg (· % 2 ^ 8) (Nat.mod_eq_of_lt hlt).symm

end Location

/-- What a pass writes, of the address `a` and the register `row`. -/
def Reports (L : RetryLayout) (a row : ℕ) (e : MemoryError) : Prop :=
  (∃ names sub mode, e.location = some (L.location names sub mode a)) ∧
    e.row = some (L.row.of row % 2 ^ 16)

/-- **Addresses.** What is written of one address describes another one. -/
theorem describes_iff {L : RetryLayout} (hL : L.Wide) {a a' row row' : ℕ} {e : MemoryError}
    (h : Reports L a row e) (hslot : bits a 8 1 = bits a' 8 1) :
    e.Describes L a' row' ↔ SameAddress L a a' ∧ L.row.of row % 2 ^ 16 = L.row.of row' := by
  obtain ⟨⟨names, sub, mode, hlocation⟩, hrow⟩ := h
  constructor
  · rintro ⟨⟨l, hl, hbank, hgroup, hrank, hcolumn⟩, hrow'⟩
    obtain rfl := Option.some_inj.1 (hlocation.symm.trans hl)
    rw [location_bankAddress hL] at hbank
    rw [location_bankGroup hL] at hgroup
    rw [location_rank] at hrank
    rw [location_column hL] at hcolumn
    exact ⟨⟨hslot, hbank, hgroup, hrank, hcolumn⟩, Option.some_inj.1 (hrow.symm.trans hrow')⟩
  · rintro ⟨hsame, hrow'⟩
    refine ⟨⟨_, hlocation, ?_, ?_, ?_, ?_⟩, hrow' ▸ hrow⟩
    · rw [location_bankAddress hL, hsame.bankAddress]
    · rw [location_bankGroup hL, hsame.bankGroup]
    · rw [location_rank, hsame.rank]
    · rw [location_column hL, hsame.column]

/-! ## Loops over logs -/

/-- **Decoded logs.** If a log can only write the entry of another one where the two have the same or where
it does not get its own, then all logs are decoded iff each one writes its own entry, which describes it, and no
two have the same. -/
theorem decoded_iff_of_written {L : RetryLayout} {x : UncoreSection} {registers : List LogRegister}
    {memoryErrors : Bool × List Char → Option MemoryError}
    {place : LogRegister → Option (Bool × List Char)} {Fits : LogRegister → MemoryError → Prop}
    (Right : LogRegister → Prop) (hwritten : Written place Fits registers (fun _ => none) memoryErrors)
    (hvalid : ∀ r ∈ registers, place r ≠ none → r.Valid x)
    (hplace : ∀ r ∈ registers, ∀ r' ∈ registers, place r' = some (r.entry x) → r' ≠ r →
      r'.entry x = r.entry x ∨ ∀ b ∈ registers, place b ≠ some (r'.entry x))
    (hfits : ∀ r ∈ registers, place r = some (r.entry x) → ∀ e, Fits r e →
      (e.Describes L (x.value r.address1) (x.value r.address2) ↔ Right r)) :
    Decoded L x registers memoryErrors ↔
      (∀ r ∈ registers, r.Valid x → place r = some (r.entry x) ∧ Right r) ∧
        ∀ r ∈ registers, ∀ r' ∈ registers, r.Valid x → r'.Valid x → r.entry x = r'.entry x → r = r' := by
  have hwriter : ∀ k e, memoryErrors k = some e → ∃ r ∈ registers, place r = some k := by
    intro k e hk
    by_contra hno
    rw [hwritten.of_forall_ne k fun r hr hrk => hno ⟨r, hr, hrk⟩] at hk
    exact absurd hk (Option.some_ne_none e).symm
  constructor
  · intro h
    refine ⟨fun r hr hrv => ?_, h.distinct⟩
    -- the writer of an entry is the log that the entry belongs to
    have hown : ∀ b ∈ registers, place b = some (r.entry x) → b = r := by
      intro b hb hbplace
      by_contra hne
      have hbv := hvalid b hb (by rw [hbplace]; exact Option.some_ne_none _)
      rcases hplace r hr b hb hbplace hne with hentry | hnone
      · exact hne (h.distinct b hb r hr hbv hrv hentry)
      · obtain ⟨e, he, -⟩ := h.entry b hb hbv
        obtain ⟨b', hb', hplace'⟩ := hwriter _ e he
        exact hnone b' hb' hplace'
    obtain ⟨e, he, hdescribes⟩ := h.entry r hr hrv
    obtain ⟨b, hb, hbplace⟩ := hwriter _ e he
    obtain rfl := hown b hb hbplace
    obtain ⟨e', hfits', he'⟩ := hwritten.of_unique _ b hr hbplace hown
    obtain rfl := Option.some_inj.1 (he.symm.trans he')
    exact ⟨hbplace, (hfits b hr hbplace e hfits').1 hdescribes⟩
  · rintro ⟨hall, hdistinct⟩
    refine ⟨fun r hr hrv => ?_, hdistinct⟩
    obtain ⟨hrplace, hright⟩ := hall r hr hrv
    have hown : ∀ b ∈ registers, place b = some (r.entry x) → b = r := by
      intro b hb hbplace
      have hbv := hvalid b hb (by rw [hbplace]; exact Option.some_ne_none _)
      exact hdistinct b hb r hr hbv hrv (Option.some_inj.1 ((hall b hb hbv).1.symm.trans hbplace))
    obtain ⟨e, hfits', he⟩ := hwritten.of_unique _ r hr hrplace hown
    exact ⟨e, he, (hfits r hr hrplace e hfits').2 hright⟩

end BmcBafi
