import Mathlib.Data.Nat.Size
import Bmc.Vnc.HuffmanTables

/-!
# The data units of the video decoder

`process_Huffman_data_unit` of `decode.c` reads the 64 coefficients of a block.

* `huffmanSymbol`, `acLoop`, `processHuffmanDataUnit`: the function; `decompress`: the units of a tile;
* `symbolText`, `acText`, `unitText`, `tileText`: the bits that stand for the coefficients;
* `acLoop_text`: the loop reads the runs of zeros and the values; `unit_text`: a unit;
* `packWords`: bits in a buffer;
* **`decompress_text`**: a tile that is written so is read back, in both modes.
-/

namespace BmcVnc

open BmcLib Function

/-! ## The function -/

/-- `dezigzag`: the place of a coefficient in its block. The last entries "let corrupt input sample past end". -/
def dezigzag : List ℕ := [
  0, 1, 8, 16, 9, 2, 3, 10, 17, 24, 32, 25, 18, 11, 4, 5, 12, 19, 26, 33, 40, 48, 41, 34, 27, 20, 13, 6, 7, 14, 21, 28,
  35, 42, 49, 56, 57, 50, 43, 36, 29, 22, 15, 23, 30, 37, 44, 51, 58, 59, 52, 45, 38, 31, 39, 46, 53, 60, 61, 54, 47, 55,
  62, 63, 63, 63, 63, 63, 63, 63, 63, 63, 63, 63, 63, 63, 63, 63, 63]

section Reader

variable (Buffer : List UInt32)

/-- A symbol: the look-ahead word tells the length of the code, and the code its place among the values. The shift is the one
of `lookKbits`. -/
def huffmanSymbol (ht : HuffmanTable) (s : ReadState) : Option (UInt8 × ReadState) := do
  let k := ht.len (s.codebuf >>> 16).toUInt16.toNat
  let tmpHcode ← lookKbits k s
  let s' ← skipKbits Buffer k s
  return (ht.v (wordHiLo k (tmpHcode - ht.minorCode k.toNat).toUInt8).toNat, s')

/-- The loop over the AC coefficients, for at most `rounds` rounds. -/
def acLoop (ht : HuffmanTable) (position : ℕ) :
    ℕ → UInt8 → (ℕ → Int16) → ReadState → Option ((ℕ → Int16) × ReadState)
  | 0, _, _, _ => none
  | rounds + 1, nr, coeff, s => do
    let (byteTemp, s₁) ← huffmanSymbol Buffer ht s
    let sizeVal := byteTemp &&& 0xF
    let count0 := byteTemp >>> 4
    if sizeVal = 0 then
      if count0 ≠ 0xF then return (coeff, s₁)
      else if nr + 16 < 64 then acLoop ht position rounds (nr + 16) coeff s₁
      else return (coeff, s₁)
    else
      let (value, s₂) ← getKbits Buffer sizeVal s₁
      let place ← dezigzag[(nr + count0).toNat]?
      let coeff' := update coeff (position + place) value
      if nr + count0 + 1 < 64 then acLoop ht position rounds (nr + count0 + 1) coeff' s₂
      else return (coeff', s₂)

/-- The DC part of `process_Huffman_data_unit`: the value before, or a difference to it. -/
def dcCoefficient (dc : HuffmanTable) (previousDC : Int16) (s : ReadState) : Option (Int16 × ReadState) := do
  let (sizeVal, s₁) ← huffmanSymbol Buffer dc s
  if sizeVal = 0 then return (previousDC, s₁)
  else
    let (diff, s₂) ← getKbits Buffer sizeVal s₁
    return (previousDC + diff, s₂)

/-- `process_Huffman_data_unit`: the DC value, the coefficients and the reader behind the unit. -/
def processHuffmanDataUnit (dc ac : HuffmanTable) (previousDC : Int16) (position : ℕ) (coeff : ℕ → Int16)
    (s : ReadState) : Option (Int16 × (ℕ → Int16) × ReadState) := do
  let (value, s₁) ← dcCoefficient Buffer dc previousDC s
  let (coeff', s₂) ← acLoop Buffer ac position 63 1 (update coeff position value) s₁
  return (value, coeff', s₂)

/-- The colour components, of which each has its DC value. -/
inductive Component where
  | y | cb | cr
  deriving DecidableEq, Repr

/-- `HTDC[YDC_nr]`, `HTDC[CbDC_nr]` and `HTDC[CrDC_nr]`. -/
def Component.dcTable : Component → HuffmanTable
  | y => htDc0
  | cb | cr => htDc1

/-- `HTAC[YAC_nr]`, `HTAC[CbAC_nr]` and `HTAC[CrAC_nr]`. -/
def Component.acTable : Component → HuffmanTable
  | y => htAc0
  | cb | cr => htAc1

/-- The units of a tile, as `Decompress` reads them. -/
def tileUnits (mode420 : UInt8) : List (Component × ℕ) :=
  if mode420 = 1 then [(.y, 0), (.y, 64), (.y, 128), (.y, 192), (.cb, 256), (.cr, 320)]
  else [(.y, 0), (.cb, 64), (.cr, 128)]

/-- The units one after the other. -/
def processUnits : List (Component × ℕ) → (Component → Int16) × (ℕ → Int16) × ReadState →
    Option ((Component → Int16) × (ℕ → Int16) × ReadState)
  | [], st => some st
  | (c, position) :: units, (dc, coeff, s) => do
    let (value, coeff', s') ← processHuffmanDataUnit Buffer c.dcTable c.acTable (dc c) position coeff s
    processUnits units (update dc c value, coeff', s')

/-- The Huffman part of `Decompress`: `DCT_coeff` is cleared and the units are read. -/
def decompress (mode420 : UInt8) (dc : Component → Int16) (s : ReadState) :
    Option ((Component → Int16) × (ℕ → Int16) × ReadState) :=
  processUnits Buffer (tileUnits mode420) (dc, fun _ => 0, s)

/-- The Huffman part of `Decompress_Paas2`, which reads three units in either mode. -/
def decompressPaas2 (dc : Component → Int16) (s : ReadState) :
    Option ((Component → Int16) × (ℕ → Int16) × ReadState) :=
  processUnits Buffer (tileUnits 0) (dc, fun _ => 0, s)

end Reader

/-! ## The text of a unit -/

/-- The number of bits of a coefficient. -/
def category (v : ℤ) : ℕ := v.natAbs.size

/-- The bits of a coefficient, as a number: a negative one is counted from the smallest of its category on. -/
def fieldOf (v : ℤ) : ℕ := if v < 0 then (v + 2 ^ category v - 1).toNat else v.toNat

/-- The symbols of a table with their codes. -/
abbrev Codes := List (UInt8 × ℕ × ℕ)

/-- The code of a symbol. -/
def symbolText (codes : Codes) (sym : UInt8) : List Bool :=
  match codes.find? fun e => e.1 = sym with
  | some e => fieldBits e.2.1 e.2.2
  | none => []

/-- The symbol of a coefficient behind `run` zeros. -/
def runSymbol (run size : ℕ) : UInt8 := UInt8.ofNat (16 * run + size)

/-- The bits of the AC coefficients `vs` behind `run` zeros. Sixteen zeros in front of a value have a symbol of their own, and the
zeros at the end have one. -/
def acText (codes : Codes) : ℕ → List ℤ → List Bool
  | run, [] => if run = 0 then [] else symbolText codes 0
  | run, v :: vs =>
    if v = 0 then acText codes (run + 1) vs
    else (List.replicate (run / 16) (symbolText codes 0xF0)).flatten ++ symbolText codes (runSymbol (run % 16) (category v)) ++
      fieldBits (category v) (fieldOf v) ++ acText codes 0 vs

/-- The bits of a DC coefficient: its difference to the one before. -/
def dcText (codes : Codes) (diff : ℤ) : List Bool :=
  symbolText codes (UInt8.ofNat (category diff)) ++ fieldBits (category diff) (fieldOf diff)

/-- The bits of a unit: the coefficients in the order of their frequencies. -/
def unitText (dcCodes acCodes : Codes) (previousDC dc : ℤ) (ac : List ℤ) : List Bool :=
  dcText dcCodes (dc - previousDC) ++ acText acCodes 0 ac

/-! ## Fields -/

section Fields

variable {Buffer : List UInt32} {p k v : ℕ}

theorem nextBits_div (k j : ℕ) : nextBits Buffer p (k + j) / 2 ^ j = nextBits Buffer p k := by
  induction j with
  | zero => rw [pow_zero, Nat.div_one, Nat.add_zero]
  | succ j ih =>
    rw [← Nat.add_assoc, nextBits, Nat.pow_succ', ← Nat.div_div_eq_div_mul, ← Nat.div2_val, Nat.div2_bit]
    exact ih

/-- The number that a field in the stream is. -/
theorem nextBits_of_carries (hv : v < 2 ^ k) (h : Carries (streamBit Buffer) p (fieldBits k v)) : nextBits Buffer p k = v := by
  refine Nat.eq_of_testBit_eq fun i => ?_
  rw [testBit_nextBits]
  rcases Nat.lt_or_ge i k with hi | hi
  · rw [decide_eq_true hi, Bool.true_and, carries_fieldBits_iff.1 h _ (by omega)]
    congr 1
    omega
  · rw [decide_eq_false (Nat.not_lt.2 hi), Bool.false_and]
    exact (Nat.testBit_lt_two_pow (hv.trans_le (Nat.pow_le_pow_right (by norm_num) hi))).symm

theorem category_pos {v : ℤ} (hv : v ≠ 0) : 1 ≤ category v := Nat.size_pos.2 (Int.natAbs_pos.2 hv)

theorem category_le {v : ℤ} {n : ℕ} (hv : |v| < 2 ^ n) : category v ≤ n := by
  refine Nat.size_le.2 ?_
  rw [Int.abs_eq_natAbs] at hv
  exact_mod_cast hv

/-- The bounds of a category. -/
theorem natAbs_bounds {v : ℤ} (hv : v ≠ 0) : 2 ^ (category v - 1) ≤ v.natAbs ∧ v.natAbs < 2 ^ category v :=
  ⟨Nat.lt_size.1 (Nat.sub_lt (category_pos hv) one_pos), Nat.lt_size_self _⟩

theorem two_pow_category {v : ℤ} (hv : v ≠ 0) : 2 ^ category v = 2 * 2 ^ (category v - 1) := by
  rw [← Nat.pow_succ', Nat.succ_eq_add_one, Nat.sub_add_cancel (category_pos hv)]

theorem fieldOf_lt (v : ℤ) : fieldOf v < 2 ^ category v := by
  have hlt : v.natAbs < 2 ^ category v := Nat.lt_size_self _
  have hcast : ((2 : ℤ) ^ category v) = ((2 ^ category v : ℕ) : ℤ) := by push_cast; rfl
  rw [fieldOf, hcast]
  split_ifs <;> omega

/-- A coefficient is the value of its bits. -/
theorem extend_fieldOf {v : ℤ} (hv : v ≠ 0) : extend (category v) (fieldOf v) = v := by
  obtain ⟨hge, hlt⟩ := natAbs_bounds hv
  have htwo := two_pow_category hv
  have hcast : ((2 : ℤ) ^ category v) = ((2 ^ category v : ℕ) : ℤ) := by push_cast; rfl
  rw [extend, fieldOf, hcast]
  split_ifs <;> omega

end Fields

/-! ## Reading a symbol -/

section Symbols

variable {Buffer : List UInt32} {p : ℕ} {s : ReadState} {ht : HuffmanTable} {codes : Codes} {sym : UInt8}

/-- The symbol has a code. -/
def HasCode (codes : Codes) (sym : UInt8) : Prop := ∃ e ∈ codes, e.1 = sym

instance (codes : Codes) (sym : UInt8) : Decidable (HasCode codes sym) :=
  inferInstanceAs (Decidable (∃ e ∈ codes, e.1 = sym))

theorem exists_code (h : HasCode codes sym) : ∃ k c, (sym, k, c) ∈ codes ∧ symbolText codes sym = fieldBits k c := by
  obtain ⟨e, he, hsym⟩ := h
  have hsome : (codes.find? fun e => e.1 = sym).isSome := List.find?_isSome.2 ⟨e, he, decide_eq_true hsym⟩
  obtain ⟨e', hfind⟩ := Option.isSome_iff_exists.1 hsome
  have heq : e'.1 = sym := by simpa using List.find?_some hfind
  refine ⟨e'.2.1, e'.2.2, ?_, by rw [symbolText, hfind]⟩
  rw [← heq]
  exact List.mem_of_find?_eq_some hfind

/-- **A symbol** that the stream carries is read, and its code is skipped. -/
theorem Window.huffmanSymbol (hs : Window Buffer p s) (hht : ht.Coded codes) (hcode : HasCode codes sym)
    (hc : Carries (streamBit Buffer) p (symbolText codes sym))
    (hin : (p + (symbolText codes sym).length) / 32 + 2 ≤ Buffer.length) :
    ∃ s', huffmanSymbol Buffer ht s = some (sym, s') ∧ Window Buffer (p + (symbolText codes sym).length) s' := by
  obtain ⟨k, c, hmem, htext⟩ := exists_code hcode
  obtain ⟨hk1, hk16, hlen, hv⟩ := hht sym k c hmem
  rw [htext] at hc hin ⊢
  rw [length_fieldBits] at hin ⊢
  -- the look-ahead word starts with the code
  have hsplit : nextBits Buffer p 16 / 2 ^ (16 - k) = nextBits Buffer p k := by
    have := @nextBits_div Buffer p k (16 - k)
    rwa [Nat.add_sub_cancel' hk16] at this
  have hc' : nextBits Buffer p k = c := by
    have hbound : c < 2 ^ k := by
      by_contra hge
      have hbig : 65536 ≤ c * 2 ^ (16 - k) := by
        calc 65536 = 2 ^ k * 2 ^ (16 - k) := by rw [← pow_add, Nat.add_sub_cancel' hk16]; rfl
          _ ≤ c * 2 ^ (16 - k) := Nat.mul_le_mul_right _ (Nat.not_lt.1 hge)
      have := (hlen (c * 2 ^ (16 - k)) (Nat.mul_div_cancel _ (Nat.two_pow_pos _))).1
      omega
    exact nextBits_of_carries hbound hc
  have hword : (s.codebuf >>> 16).toUInt16.toNat = nextBits Buffer p 16 := by
    rw [← hs.toNat_codebuf (k := 16) (by norm_num), UInt32.toNat_toUInt16, UInt32.toNat_shiftRight]
    exact Nat.mod_eq_of_lt (by have := s.codebuf.toNat_lt; change s.codebuf.toNat >>> 16 < 65536; omega)
  have hk : (ht.len (s.codebuf >>> 16).toUInt16.toNat).toNat = k := by
    rw [hword]
    exact (hlen _ (hsplit.trans hc')).2
  have hk8 : UInt8.ofNat k = ht.len (s.codebuf >>> 16).toUInt16.toNat := by rw [← hk, UInt8.ofNat_toNat]
  obtain ⟨w, hw, hwc⟩ := hs.lookKbits (k := ht.len (s.codebuf >>> 16).toUInt16.toNat) (by rwa [hk]) (by rwa [hk])
  obtain ⟨s', hskip, hs'⟩ := hs.advance hk1 (by omega) hin
  refine ⟨s', ?_, hs'⟩
  have hw16 : w = UInt16.ofNat c := by rw [← hc', ← hk, ← hwc, UInt16.ofNat_toNat]
  rw [BmcVnc.huffmanSymbol, hw, Option.bind_eq_bind, Option.bind_some, skipKbits, hk, hskip, hw16, ← hk8, hv]
  rfl

/-- **A coefficient** that the stream carries is read, and its bits are skipped. -/
theorem Window.coefficient (hs : Window Buffer p s) {v : ℤ} (hv : v ≠ 0) (hsize : category v ≤ 15)
    (hc : Carries (streamBit Buffer) p (fieldBits (category v) (fieldOf v)))
    (hin : (p + category v) / 32 + 2 ≤ Buffer.length) :
    ∃ s', BmcVnc.getKbits Buffer (UInt8.ofNat (category v)) s = some (Int16.ofInt v, s') ∧ Window Buffer (p + category v) s' := by
  have hk : (UInt8.ofNat (category v)).toNat = category v :=
    UInt8.toNat_ofNat_of_lt' (hsize.trans_lt (by decide))
  have hpos := category_pos hv
  obtain ⟨s', hget, hskip⟩ := hs.getKbits (k := UInt8.ofNat (category v)) (by omega) (by omega) (by rwa [hk])
  obtain ⟨s'', hadv, hs''⟩ := hs.advance hpos (by omega) hin
  rw [skipKbits, hk, hadv] at hskip
  obtain rfl := Option.some.inj hskip
  rw [hk, nextBits_of_carries (fieldOf_lt v) hc, extend_fieldOf hv] at hget
  exact ⟨s'', hget, hs''⟩

end Symbols

/-! ## The AC coefficients -/

/-- The AC codes that a unit needs: sixteen zeros, the end, and up to fifteen zeros in front of a value of up to ten bits. -/
def AcComplete (codes : Codes) : Prop :=
  HasCode codes 0 ∧ HasCode codes 0xF0 ∧ ∀ run < 16, ∀ size < 11, 1 ≤ size → HasCode codes (runSymbol run size)

instance (codes : Codes) : Decidable (AcComplete codes) := by unfold AcComplete; infer_instance

/-- The halves of a symbol. -/
theorem runSymbol_halves : ∀ run < 16, ∀ size < 16,
    runSymbol run size &&& 0xF = UInt8.ofNat size ∧ runSymbol run size >>> 4 = UInt8.ofNat run := by
  decide

/-- The coefficients of the list at the places of the frequencies from `n` on. Zeros are not stored. -/
def place (position : ℕ) : ℕ → List ℤ → (ℕ → Int16) → ℕ → Int16
  | _, [], coeff => coeff
  | n, v :: vs, coeff =>
    place position (n + 1) vs (if v = 0 then coeff else update coeff (position + dezigzag.getD n 0) (Int16.ofInt v))

section Loop

variable {Buffer : List UInt32} {p : ℕ} {s : ReadState} {ht : HuffmanTable} {codes : Codes} {position : ℕ}
  {coeff : ℕ → Int16}

section Round

variable {rounds : ℕ} {nr byteTemp : UInt8} {s₁ s₂ : ReadState} {value : Int16} {n : ℕ}

/-- A round that ends the unit. -/
theorem acLoop_end (h : huffmanSymbol Buffer ht s = some (byteTemp, s₁)) (hsize : byteTemp &&& 0xF = 0)
    (hcount : byteTemp >>> 4 ≠ 0xF) : acLoop Buffer ht position (rounds + 1) nr coeff s = some (coeff, s₁) := by
  simp only [acLoop, h, Option.bind_eq_bind, Option.bind_some, if_pos hsize, if_pos hcount, Option.pure_def]

/-- A round of sixteen zeros. -/
theorem acLoop_sixteen (h : huffmanSymbol Buffer ht s = some (byteTemp, s₁)) (hsize : byteTemp &&& 0xF = 0)
    (hcount : byteTemp >>> 4 = 0xF) : acLoop Buffer ht position (rounds + 1) nr coeff s =
      if nr + 16 < 64 then acLoop Buffer ht position rounds (nr + 16) coeff s₁ else some (coeff, s₁) := by
  simp only [acLoop, h, Option.bind_eq_bind, Option.bind_some, if_pos hsize, if_neg (not_not.2 hcount), Option.pure_def]

/-- A round with a value. -/
theorem acLoop_value (h : huffmanSymbol Buffer ht s = some (byteTemp, s₁)) (hsize : byteTemp &&& 0xF ≠ 0)
    (hget : getKbits Buffer (byteTemp &&& 0xF) s₁ = some (value, s₂))
    (hplace : dezigzag[(nr + (byteTemp >>> 4)).toNat]? = some n) :
    acLoop Buffer ht position (rounds + 1) nr coeff s =
      if nr + (byteTemp >>> 4) + 1 < 64 then
        acLoop Buffer ht position rounds (nr + (byteTemp >>> 4) + 1) (update coeff (position + n) value) s₂
      else some (update coeff (position + n) value, s₂) := by
  simp only [acLoop, h, Option.bind_eq_bind, Option.bind_some, if_neg hsize, hget, hplace, Option.pure_def]

end Round

/-- Runs of sixteen zeros. -/
theorem acLoop_zeros (coeff : ℕ → Int16) (hht : ht.Coded codes) (hcodes : AcComplete codes) (q rounds : ℕ) (nr : UInt8)
    (hnr : nr.toNat + 16 * q < 64) (hs : Window Buffer p s)
    (hc : Carries (streamBit Buffer) p (List.replicate q (symbolText codes 0xF0)).flatten)
    (hin : (p + (List.replicate q (symbolText codes 0xF0)).flatten.length) / 32 + 2 ≤ Buffer.length) :
    ∃ s' nr', acLoop Buffer ht position (rounds + q) nr coeff s = acLoop Buffer ht position rounds nr' coeff s' ∧
      nr'.toNat = nr.toNat + 16 * q ∧
      Window Buffer (p + (List.replicate q (symbolText codes 0xF0)).flatten.length) s' := by
  induction q generalizing nr p s with
  | zero => exact ⟨s, nr, rfl, rfl, hs⟩
  | succ q ih =>
    rw [List.replicate_succ, List.flatten_cons, List.length_append] at hin ⊢
    rw [List.replicate_succ, List.flatten_cons, carries_append] at hc
    obtain ⟨s₁, hsym, hs₁⟩ := hs.huffmanSymbol hht hcodes.2.1 hc.1 (by omega)
    have hnr' : (nr + 16).toNat = nr.toNat + 16 := by
      rw [UInt8.toNat_add]
      exact Nat.mod_eq_of_lt (by change nr.toNat + 16 < 256; omega)
    obtain ⟨s', nr', hloop, hn, hs'⟩ := ih (nr + 16) (by omega) hs₁ hc.2 (by rwa [Nat.add_assoc])
    refine ⟨s', nr', ?_, by omega, by rwa [← Nat.add_assoc]⟩
    rw [← Nat.add_assoc, acLoop_sixteen hsym (by decide) (by decide),
      if_pos (UInt8.lt_iff_toNat_lt.2 (by rw [hnr']; change _ < 64; omega))]
    exact hloop

/-- **The loop.** The bits of the coefficients `vs` behind `run` zeros are read, each coefficient goes to its place, and the
reader is behind them. -/
theorem acLoop_text (hht : ht.Coded codes) (hcodes : AcComplete codes) {vs : List ℤ}
    (position run rounds : ℕ) (nr : UInt8) (coeff : ℕ → Int16)
    (hlen : nr.toNat + run + vs.length = 64) (hnr : nr.toNat < 64) (hrounds : 64 ≤ rounds + nr.toNat)
    (hvs : ∀ v ∈ vs, |v| < 2 ^ 10) (hs : Window Buffer p s) (hc : Carries (streamBit Buffer) p (acText codes run vs))
    (hin : (p + (acText codes run vs).length) / 32 + 2 ≤ Buffer.length) :
    ∃ s', acLoop Buffer ht position rounds nr coeff s = some (place position (nr.toNat + run) vs coeff, s') ∧
      Window Buffer (p + (acText codes run vs).length) s' := by
  induction vs generalizing run rounds nr p s coeff with
  | nil =>
    have hrun : run ≠ 0 := by
      rw [List.length_nil] at hlen
      omega
    rw [acText, if_neg hrun] at hc hin ⊢
    obtain ⟨s', hsym, hs'⟩ := hs.huffmanSymbol hht hcodes.1 hc hin
    refine ⟨s', ?_, hs'⟩
    obtain ⟨rounds, rfl⟩ := Nat.exists_eq_succ_of_ne_zero (by omega : rounds ≠ 0)
    rw [acLoop_end hsym (by decide) (by decide), place]
  | cons v vs ih =>
    rw [List.length_cons] at hlen
    by_cases hv : v = 0
    · -- one more zero in front of the next value
      rw [acText, if_pos hv] at hc hin ⊢
      obtain ⟨s', hloop, hs'⟩ := ih (run + 1) rounds nr coeff (by omega) hnr hrounds
        (fun w hw => hvs w (List.mem_cons_of_mem _ hw)) hs hc hin
      refine ⟨s', ?_, hs'⟩
      rw [hloop, place, if_pos hv, Nat.add_assoc]
    · rw [acText, if_neg hv] at hc hin ⊢
      rw [carries_append, carries_append, carries_append] at hc
      obtain ⟨⟨⟨hczeros, hcsym⟩, hcfield⟩, hcrest⟩ := hc
      simp only [List.length_append, length_fieldBits, ← Nat.add_assoc] at hcsym hcfield hcrest hin ⊢
      have hcat := category_pos hv
      have hcat' : category v ≤ 10 := category_le (hvs v List.mem_cons_self)
      -- the zeros in front of the value
      obtain ⟨rest, rfl⟩ : ∃ rest, rounds = rest + 1 + run / 16 := ⟨rounds - 1 - run / 16, by omega⟩
      obtain ⟨s₁, nr₁, hzeros, hnr₁, hs₁⟩ := acLoop_zeros coeff hht hcodes (run / 16) (rest + 1) nr
        (by omega) hs hczeros (by omega)
      -- its symbol and its bits
      obtain ⟨s₂, hsym, hs₂⟩ := hs₁.huffmanSymbol hht (hcodes.2.2 (run % 16) (Nat.mod_lt _ (by decide)) (category v)
        (by omega) hcat) hcsym (by omega)
      obtain ⟨s₃, hget, hs₃⟩ := hs₂.coefficient hv (by omega) hcfield (by omega)
      obtain ⟨hsize, hcount⟩ := runSymbol_halves (run % 16) (Nat.mod_lt _ (by decide)) (category v) (by omega)
      have hsize0 : UInt8.ofNat (category v) ≠ 0 := fun h => by
        have := congrArg UInt8.toNat h
        rw [UInt8.toNat_ofNat_of_lt' (by change category v < 256; omega)] at this
        exact absurd this (by change category v ≠ 0; omega)
      have hnr₂ : (nr₁ + UInt8.ofNat (run % 16)).toNat = nr.toNat + run := by
        rw [UInt8.toNat_add, UInt8.toNat_ofNat_of_lt' (by change run % 16 < 256; omega), hnr₁]
        exact (Nat.mod_eq_of_lt (by change _ < 256; omega)).trans (by omega)
      have hnr₃ : (nr₁ + UInt8.ofNat (run % 16) + 1).toNat = nr.toNat + run + 1 := by
        rw [UInt8.toNat_add, hnr₂]
        exact Nat.mod_eq_of_lt (show nr.toNat + run + 1 < 256 by omega)
      have hplace : dezigzag[nr.toNat + run]? = some (dezigzag.getD (nr.toNat + run) 0) := by
        have hbound : nr.toNat + run < dezigzag.length := by change _ < 79; omega
        rw [List.getD_eq_getElem?_getD, List.getElem?_eq_getElem hbound, Option.getD_some]
      rw [hzeros, acLoop_value hsym (by rwa [hsize]) (by rw [hsize]; exact hget) (by rw [hcount, hnr₂]; exact hplace), hcount,
        place, if_neg hv]
      by_cases hmore : nr.toNat + run + 1 < 64
      · rw [if_pos (UInt8.lt_iff_toNat_lt.2 (by rwa [hnr₃]))]
        obtain ⟨s', hloop, hs'⟩ := ih 0 rest (nr₁ + UInt8.ofNat (run % 16) + 1)
          (update coeff (position + dezigzag.getD (nr.toNat + run) 0) (Int16.ofInt v)) (by omega) (by omega)
          (by omega) (fun w hw => hvs w (List.mem_cons_of_mem _ hw)) hs₃ hcrest (by omega)
        rw [hnr₃, Nat.add_zero] at hloop
        exact ⟨s', hloop, hs'⟩
      · -- the last coefficient of the block: no symbol for the end follows
        obtain rfl : vs = [] := List.eq_nil_of_length_eq_zero (by omega)
        rw [if_neg (fun h => hmore (by rw [← hnr₃]; exact UInt8.lt_iff_toNat_lt.1 h))]
        exact ⟨s₃, rfl, hs₃⟩

end Loop

/-! ## A unit -/

/-- The DC codes that a unit needs. -/
def DcComplete (codes : Codes) : Prop := ∀ size < 12, HasCode codes (UInt8.ofNat size)

instance (codes : Codes) : Decidable (DcComplete codes) := inferInstanceAs (Decidable (∀ size < 12, HasCode codes (UInt8.ofNat size)))

/-- The 64 coefficients of a block in the order of their frequencies, as far as the codes reach. -/
structure CodedUnit where
  dc : ℤ
  ac : List ℤ
  ac_length : ac.length = 63
  dc_ge : -2 ^ 15 ≤ dc
  dc_lt : dc < 2 ^ 15
  ac_lt : ∀ v ∈ ac, |v| < 2 ^ 10

/-- The coefficient of frequency `n`. -/
def CodedUnit.coeff (b : CodedUnit) (n : ℕ) : ℤ := (b.dc :: b.ac).getD n 0

/-- A coefficient is a `short`. -/
theorem CodedUnit.toInt_coeff (b : CodedUnit) (n : ℕ) : (Int16.ofInt (b.coeff n)).toInt = b.coeff n := by
  have hrange : -2 ^ 15 ≤ b.coeff n ∧ b.coeff n < 2 ^ 15 := by
    rw [CodedUnit.coeff, List.getD_eq_getElem?_getD]
    rcases hget : (b.dc :: b.ac)[n]? with - | v
    · norm_num
    · rcases List.mem_cons.1 (List.mem_of_getElem? hget) with rfl | hv
      · exact ⟨b.dc_ge, b.dc_lt⟩
      · have := abs_lt.1 (b.ac_lt v hv)
        rw [Option.getD_some]
        omega
  exact Int16.toInt_ofInt_of_le hrange.1 hrange.2

section Unit

variable {Buffer : List UInt32} {p : ℕ} {s : ReadState} {dcTable acTable : HuffmanTable} {dcCodes acCodes : Codes}
  {position : ℕ} {coeff : ℕ → Int16}

/-- The DC value: no bits follow the symbol when it is the one before. -/
theorem dcCoefficient_text (hdc : dcTable.Coded dcCodes) (hdcAll : DcComplete dcCodes) {value previousDC : ℤ}
    (hstep : |value - previousDC| < 2 ^ 11) (hs : Window Buffer p s)
    (hc : Carries (streamBit Buffer) p (dcText dcCodes (value - previousDC)))
    (hin : (p + (dcText dcCodes (value - previousDC)).length) / 32 + 2 ≤ Buffer.length) :
    ∃ s', dcCoefficient Buffer dcTable (Int16.ofInt previousDC) s = some (Int16.ofInt value, s') ∧
      Window Buffer (p + (dcText dcCodes (value - previousDC)).length) s' := by
  rw [dcText, carries_append] at hc
  simp only [dcText, List.length_append, length_fieldBits, ← Nat.add_assoc] at hin ⊢
  have hcat : category (value - previousDC) ≤ 11 := category_le hstep
  obtain ⟨s₁, hsym, hs₁⟩ := hs.huffmanSymbol hdc (hdcAll _ (by omega)) hc.1 (by omega)
  by_cases hzero : value - previousDC = 0
  · rw [hzero] at hs₁ hsym ⊢
    refine ⟨s₁, ?_, hs₁⟩
    simp only [dcCoefficient, hsym, Option.bind_eq_bind, Option.bind_some, Option.pure_def]
    rw [if_pos (by decide), ← sub_eq_zero.1 hzero]
  · have hpos := category_pos hzero
    have hne : UInt8.ofNat (category (value - previousDC)) ≠ 0 := fun h => by
      have := congrArg UInt8.toNat h
      rw [UInt8.toNat_ofNat_of_lt' (show category (value - previousDC) < 256 by omega)] at this
      exact absurd this (show category (value - previousDC) ≠ 0 by omega)
    obtain ⟨s₂, hget, hs₂⟩ := hs₁.coefficient hzero (by omega) hc.2 hin
    refine ⟨s₂, ?_, hs₂⟩
    simp only [dcCoefficient, hsym, hget, if_neg hne, Option.bind_eq_bind, Option.bind_some, Option.pure_def]
    rw [← Int16.ofInt_add, add_sub_cancel]

/-- **A unit** that the stream carries is read. -/
theorem unit_text (hdc : dcTable.Coded dcCodes) (hac : acTable.Coded acCodes) (hdcAll : DcComplete dcCodes)
    (hacAll : AcComplete acCodes) (b : CodedUnit) (position : ℕ) (coeff : ℕ → Int16) {previousDC : ℤ}
    (hstep : |b.dc - previousDC| < 2 ^ 11)
    (hs : Window Buffer p s) (hc : Carries (streamBit Buffer) p (unitText dcCodes acCodes previousDC b.dc b.ac))
    (hin : (p + (unitText dcCodes acCodes previousDC b.dc b.ac).length) / 32 + 2 ≤ Buffer.length) :
    ∃ s', processHuffmanDataUnit Buffer dcTable acTable (Int16.ofInt previousDC) position coeff s =
        some (Int16.ofInt b.dc, place position 1 b.ac (update coeff position (Int16.ofInt b.dc)), s') ∧
      Window Buffer (p + (unitText dcCodes acCodes previousDC b.dc b.ac).length) s' := by
  rw [unitText, carries_append] at hc
  simp only [unitText, List.length_append, ← Nat.add_assoc] at hin ⊢
  obtain ⟨s₁, hvalue, hs₁⟩ := dcCoefficient_text hdc hdcAll hstep hs hc.1 (by omega)
  obtain ⟨s₂, hloop, hs₂⟩ := acLoop_text hac hacAll position 0 63 1
    (update coeff position (Int16.ofInt b.dc)) (by rw [b.ac_length]; rfl) (by decide) (by decide) b.ac_lt hs₁ hc.2 hin
  refine ⟨s₂, ?_, hs₂⟩
  simp only [processHuffmanDataUnit, hvalue, hloop, Option.bind_eq_bind, Option.bind_some, Option.pure_def]
  rfl

/-! ## The places of the coefficients -/

/-- The frequencies of a block have places of their own, within the block. -/
theorem dezigzag_inj : ∀ m < 64, ∀ n < 64, dezigzag.getD m 0 = dezigzag.getD n 0 → m = n := by decide +kernel

theorem dezigzag_lt : ∀ n < 64, dezigzag.getD n 0 < 64 := by decide

/-- Other places are left alone. -/
theorem place_of_ne {n : ℕ} {vs : List ℤ} {a : ℕ} (h : ∀ m, n ≤ m → m < n + vs.length → a ≠ position + dezigzag.getD m 0) :
    place position n vs coeff a = coeff a := by
  induction vs generalizing n coeff with
  | nil => rfl
  | cons v vs ih =>
    rw [List.length_cons] at h
    rw [place, ih fun m hm hlt => h m (by omega) (by omega)]
    split_ifs
    · rfl
    · exact update_of_ne (h n le_rfl (by omega)) _ _

/-- Every coefficient is at its place. -/
theorem place_at {n : ℕ} {vs : List ℤ} (hn : n + vs.length ≤ 64)
    (hzero : ∀ m, n ≤ m → m < 64 → coeff (position + dezigzag.getD m 0) = 0) {i : ℕ} (hi : i < vs.length) :
    place position n vs coeff (position + dezigzag.getD (n + i) 0) = Int16.ofInt (vs.getD i 0) := by
  induction vs generalizing n coeff i with
  | nil => exact absurd hi (Nat.not_lt_zero i)
  | cons v vs ih =>
    rw [List.length_cons] at hn hi
    have hother : ∀ m, n + 1 ≤ m → m < 64 → position + dezigzag.getD m 0 ≠ position + dezigzag.getD n 0 :=
      fun m hm hlt h => absurd (dezigzag_inj m hlt n (by omega) (Nat.add_left_cancel h)) (by omega)
    rw [place]
    cases i with
    | zero =>
      change place position (n + 1) vs _ (position + dezigzag.getD n 0) = Int16.ofInt v
      rw [place_of_ne fun m hm hlt => (hother m hm (by omega)).symm]
      split_ifs with hv
      · rw [hzero n le_rfl (by omega), hv]
        rfl
      · exact update_self ..
    | succ i =>
      rw [List.getD_cons_succ, ← Nat.add_assoc, Nat.add_right_comm]
      refine ih (by omega) (fun m hm hlt => ?_) (by omega)
      split_ifs
      · exact hzero m (by omega) hlt
      · rw [update_of_ne (hother m hm hlt)]
        exact hzero m (by omega) hlt

/-- **The coefficients of a unit** are at their places, in an array that was cleared. -/
theorem unit_coeff (b : CodedUnit) (hzero : ∀ a, position ≤ a → a < position + 64 → coeff a = 0) {n : ℕ} (hn : n < 64) :
    place position 1 b.ac (update coeff position (Int16.ofInt b.dc)) (position + dezigzag.getD n 0) =
      Int16.ofInt (b.coeff n) := by
  have hother : ∀ m, 1 ≤ m → m < 64 → position + dezigzag.getD m 0 ≠ position := fun m hm hlt h =>
    absurd (dezigzag_inj m hlt 0 (by decide) (Nat.add_left_cancel (h.trans (Nat.add_zero position).symm))) (by omega)
  cases n with
  | zero =>
    change place position 1 b.ac _ position = _
    rw [place_of_ne fun m hm hlt => (hother m hm (by rw [b.ac_length] at hlt; omega)).symm]
    exact update_self ..
  | succ n =>
    rw [Nat.add_comm n 1, place_at (by rw [b.ac_length]) (fun m hm hlt => ?_) (by rw [b.ac_length]; omega), Nat.add_comm 1 n]
    · rfl
    · rw [update_of_ne (hother m hm hlt)]
      exact hzero _ (Nat.le_add_right _ _) (Nat.add_lt_add_left (dezigzag_lt m hlt) _)

/-- A unit stores within its 64 places. -/
theorem unit_frame (b : CodedUnit) {a : ℕ} (ha : a < position ∨ position + 64 ≤ a) :
    place position 1 b.ac (update coeff position (Int16.ofInt b.dc)) a = coeff a := by
  rw [place_of_ne fun m hm hlt => ?_, update_of_ne (by omega)]
  have := dezigzag_lt m (by rw [b.ac_length] at hlt; omega)
  omega

end Unit

/-! ## Bits in words -/

/-- Bits in words, from the highest bit of the first one on, with two words behind them. -/
def packWords (bits : List Bool) : List UInt32 :=
  (List.range (bits.length / 32 + 3)).map fun j =>
    UInt32.ofNat (Nat.ofBits fun i : Fin 32 => bits.getD (32 * j + (31 - i)) false)

section Pack

variable (bits : List Bool)

theorem length_packWords : (packWords bits).length = bits.length / 32 + 3 := by
  rw [packWords, List.length_map, List.length_range]

/-- The stream of the words is the bits, and zeros behind them. -/
theorem streamBit_packWords {i : ℕ} (hi : i < bits.length) : streamBit (packWords bits) i = bits.getD i false := by
  have hword : (packWords bits)[i / 32]? = some (UInt32.ofNat (Nat.ofBits fun k : Fin 32 =>
      bits.getD (32 * (i / 32) + (31 - k)) false)) := by
    rw [packWords, List.getElem?_map, List.getElem?_range (by omega), Option.map_some]
  rw [streamBit_word hword (i := 31 - i % 32) (by omega) (by omega), wordBit,
    UInt32.toNat_ofNat_of_lt' (Nat.ofBits_lt_two_pow _), Nat.testBit_ofBits_lt _ _ (by omega)]
  congr 1
  dsimp only
  omega

/-- The words carry the bits. -/
theorem carries_packWords : Carries (streamBit (packWords bits)) 0 bits := by
  intro i hi
  rw [Nat.zero_add, streamBit_packWords bits hi, List.getD_eq_getElem?_getD, List.getElem?_eq_getElem hi, Option.getD_some]
  rfl

/-- There are two words behind every bit. -/
theorem bits_in_packWords {p : ℕ} (hp : p ≤ bits.length) : p / 32 + 2 ≤ (packWords bits).length := by
  rw [length_packWords]
  omega

/-- The reader starts. -/
theorem start_packWords : ∃ s, ReadState.start (packWords bits) = some s ∧ Window (packWords bits) 0 s := by
  have hlen := length_packWords bits
  obtain ⟨s, hs⟩ : ∃ s, ReadState.start (packWords bits) = some s := by
    rw [ReadState.start, List.getElem?_eq_getElem (show 0 < (packWords bits).length by omega),
      List.getElem?_eq_getElem (show 1 < (packWords bits).length by omega)]
    exact ⟨_, rfl⟩
  exact ⟨s, hs, Window.start hs⟩

end Pack

/-! ## A tile -/

/-- The DC codes of a component. -/
def Component.dcCodes : Component → Codes
  | y => huffmanCodes stdDcLuminanceNrcodes stdDcLuminanceValues
  | cb | cr => huffmanCodes stdDcChrominanceNrcodes stdDcChrominanceValues

/-- The AC codes of a component. -/
def Component.acCodes : Component → Codes
  | y => huffmanCodes stdAcLuminanceNrcodes stdAcLuminanceValues
  | cb | cr => huffmanCodes stdAcChrominanceNrcodes stdAcChrominanceValues

/-- The tables of a component decode its codes. -/
theorem Component.coded (c : Component) : c.dcTable.Coded c.dcCodes ∧ c.acTable.Coded c.acCodes := by
  cases c with
  | y => exact ⟨coded_dcLuminance, coded_acLuminance⟩
  | cb | cr => exact ⟨coded_dcChrominance, coded_acChrominance⟩

theorem complete_luminance : DcComplete Component.y.dcCodes ∧ AcComplete Component.y.acCodes := by decide +kernel

theorem complete_chrominance : DcComplete Component.cb.dcCodes ∧ AcComplete Component.cb.acCodes := by decide +kernel

/-- The codes of a component are enough for every unit. -/
theorem Component.complete (c : Component) : DcComplete c.dcCodes ∧ AcComplete c.acCodes := by
  cases c with
  | y => exact complete_luminance
  | cb | cr => exact complete_chrominance

/-- The bits of the units of a tile, behind the DC values `dc`. -/
def unitsText : List (Component × ℕ) → (Component → ℤ) → List CodedUnit → List Bool
  | [], _, _ => []
  | _ :: _, _, [] => []
  | (c, _) :: units, dc, b :: bs =>
    unitText c.dcCodes c.acCodes (dc c) b.dc b.ac ++ unitsText units (update dc c b.dc) bs

/-- The DC values behind the units. -/
def dcAfter : List (Component × ℕ) → (Component → ℤ) → List CodedUnit → Component → ℤ
  | [], dc, _ => dc
  | _ :: _, dc, [] => dc
  | (c, _) :: units, dc, b :: bs => dcAfter units (update dc c b.dc) bs

/-- The DC values go in steps that have a code. -/
def DcSteps : List (Component × ℕ) → (Component → ℤ) → List CodedUnit → Prop
  | [], _, _ => True
  | _ :: _, _, [] => True
  | (c, _) :: units, dc, b :: bs => |b.dc - dc c| < 2 ^ 11 ∧ DcSteps units (update dc c b.dc) bs

section Tile

variable {Buffer : List UInt32} {p : ℕ} {s : ReadState}

/-- **Units** that the stream carries are read one after the other, each into its part of the array. -/
theorem units_text {units : List (Component × ℕ)} (hapart : units.Pairwise fun u v => u.2 + 64 ≤ v.2) {bs : List CodedUnit}
    (hlen : bs.length = units.length) {dc : Component → ℤ} (hsteps : DcSteps units dc bs) (coeff : ℕ → Int16)
    (hzero : ∀ u ∈ units, ∀ a, u.2 ≤ a → a < u.2 + 64 → coeff a = 0) (hs : Window Buffer p s)
    (hc : Carries (streamBit Buffer) p (unitsText units dc bs))
    (hin : (p + (unitsText units dc bs).length) / 32 + 2 ≤ Buffer.length) :
    ∃ coeff' s', processUnits Buffer units (fun c => Int16.ofInt (dc c), coeff, s) =
        some (fun c => Int16.ofInt (dcAfter units dc bs c), coeff', s') ∧
      Window Buffer (p + (unitsText units dc bs).length) s' ∧
      (∀ e ∈ units.zip bs, ∀ n < 64, coeff' (e.1.2 + dezigzag.getD n 0) = Int16.ofInt (e.2.coeff n)) ∧
      ∀ a, (∀ u ∈ units, a < u.2 ∨ u.2 + 64 ≤ a) → coeff' a = coeff a := by
  induction units generalizing bs dc coeff p s with
  | nil =>
    obtain rfl : bs = [] := List.eq_nil_of_length_eq_zero hlen
    exact ⟨coeff, s, rfl, hs, fun e he => absurd he List.not_mem_nil, fun a _ => rfl⟩
  | cons u units ih =>
    obtain ⟨c, position⟩ := u
    obtain - | ⟨b, bs⟩ := bs
    · exact absurd hlen (Nat.zero_ne_add_one _)
    rw [List.pairwise_cons] at hapart
    rw [unitsText, carries_append] at hc
    rw [unitsText, List.length_append] at hin ⊢
    obtain ⟨s₁, hunit, hs₁⟩ := unit_text c.coded.1 c.coded.2 c.complete.1 c.complete.2 b position
      coeff hsteps.1 hs hc.1 (by omega)
    have hbehind : ∀ u ∈ units, ∀ a, u.2 ≤ a → a < position ∨ position + 64 ≤ a := fun u hu a ha =>
      .inr ((hapart.1 u hu).trans ha)
    obtain ⟨coeff', s', hrest, hs', hat, hframe⟩ := ih hapart.2 (Nat.succ.inj hlen) hsteps.2
      (place position 1 b.ac (update coeff position (Int16.ofInt b.dc)))
      (fun u hu a ha hlt => (unit_frame b (hbehind u hu a ha)).trans (hzero u (List.mem_cons_of_mem _ hu) a ha hlt))
      hs₁ hc.2 (by rwa [Nat.add_assoc])
    refine ⟨coeff', s', ?_, by rwa [← Nat.add_assoc], fun e he n hn => ?_, fun a ha => ?_⟩
    · have hdc : update (fun k => Int16.ofInt (dc k)) c (Int16.ofInt b.dc) = fun k => Int16.ofInt (update dc c b.dc k) := by
        funext k
        exact (apply_update (fun _ => Int16.ofInt) dc c b.dc k).symm
      simp only [processUnits, hunit, Option.bind_eq_bind, Option.bind_some, hdc]
      exact hrest
    · rw [List.zip_cons_cons, List.mem_cons] at he
      rcases he with rfl | he
      · -- the units behind this one store elsewhere
        rw [hframe _ fun u hu => .inl (lt_of_lt_of_le (Nat.add_lt_add_left (dezigzag_lt n hn) _) (hapart.1 u hu))]
        exact unit_coeff b (hzero _ List.mem_cons_self) hn
      · exact hat e he n hn
    · rw [hframe a fun u hu => ha u (List.mem_cons_of_mem _ hu)]
      exact unit_frame b (ha _ List.mem_cons_self)

theorem tileUnits_apart (mode420 : UInt8) : (tileUnits mode420).Pairwise fun u v => u.2 + 64 ≤ v.2 := by
  rw [tileUnits]
  split_ifs <;> decide

/-- The bits of a tile. -/
def tileText (mode420 : UInt8) (dc : Component → ℤ) (bs : List CodedUnit) : List Bool := unitsText (tileUnits mode420) dc bs

/-- **A tile.** In both modes the units of a tile that the stream carries are read back: every coefficient is at its place, the DC
values are the last ones of their components, and the reader is behind the tile. -/
theorem decompress_text {mode420 : UInt8} {dc : Component → ℤ} {bs : List CodedUnit}
    (hlen : bs.length = (tileUnits mode420).length) (hsteps : DcSteps (tileUnits mode420) dc bs) (hs : Window Buffer p s)
    (hc : Carries (streamBit Buffer) p (tileText mode420 dc bs))
    (hin : (p + (tileText mode420 dc bs).length) / 32 + 2 ≤ Buffer.length) :
    ∃ coeff s', decompress Buffer mode420 (fun c => Int16.ofInt (dc c)) s =
        some (fun c => Int16.ofInt (dcAfter (tileUnits mode420) dc bs c), coeff, s') ∧
      Window Buffer (p + (tileText mode420 dc bs).length) s' ∧
      ∀ e ∈ (tileUnits mode420).zip bs, ∀ n < 64, (coeff (e.1.2 + dezigzag.getD n 0)).toInt = e.2.coeff n := by
  obtain ⟨coeff, s', htile, hs', hat, -⟩ := units_text (tileUnits_apart mode420) hlen hsteps (fun _ => 0)
    (fun _ _ _ _ _ => rfl) hs hc hin
  exact ⟨coeff, s', htile, hs', fun e he n hn => by rw [hat e he n hn, e.2.toInt_coeff]⟩

/-- A unit with a DC value and one negative value behind two zeros. -/
def sampleUnit : CodedUnit where
  dc := 5
  ac := [0, 0, -1] ++ List.replicate 60 0
  ac_length := rfl
  dc_ge := by norm_num
  dc_lt := by norm_num
  ac_lt := by decide

/-- A unit of zeros. -/
def zeroUnit : CodedUnit where
  dc := 0
  ac := List.replicate 63 0
  ac_length := rfl
  dc_ge := by norm_num
  dc_lt := by norm_num
  ac_lt := by decide

theorem dcSteps_sample : DcSteps (tileUnits 0) (fun _ => 0) [sampleUnit, zeroUnit, zeroUnit] :=
  ⟨by decide, by decide, by decide, trivial⟩

/-- A tile of three units, at the start of a buffer. -/
theorem decompress_text_sample : ∃ s coeff s',
    decompress (packWords (tileText 0 (fun _ => 0) [sampleUnit, zeroUnit, zeroUnit])) 0 (fun _ => 0) s =
      some (fun c => Int16.ofInt (dcAfter (tileUnits 0) (fun _ => 0) [sampleUnit, zeroUnit, zeroUnit] c), coeff, s') ∧
    (coeff 0).toInt = 5 ∧ (coeff 16).toInt = -1 ∧ (coeff 64).toInt = 0 := by
  obtain ⟨s, -, hs⟩ := start_packWords (tileText 0 (fun _ => 0) [sampleUnit, zeroUnit, zeroUnit])
  obtain ⟨coeff, s', htile, -, hat⟩ := @decompress_text _ 0 s 0 (fun _ => 0)
    [sampleUnit, zeroUnit, zeroUnit] rfl dcSteps_sample hs (carries_packWords _) (bits_in_packWords _ (by rw [Nat.zero_add]))
  exact ⟨s, coeff, s', htile, hat ((.y, 0), sampleUnit) List.mem_cons_self 0 (by norm_num),
    hat ((.y, 0), sampleUnit) List.mem_cons_self 3 (by norm_num),
    hat ((.cb, 64), zeroUnit) (List.mem_cons_of_mem _ List.mem_cons_self) 0 (by norm_num)⟩

end Tile

end BmcVnc
