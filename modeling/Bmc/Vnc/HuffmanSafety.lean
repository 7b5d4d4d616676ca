import Bmc.Vnc.Huffman

/-!
# The data units of a corrupt stream

What `process_Huffman_data_unit` does with bits that no encoder wrote.

* `Bounded`: the lengths and the values of a table; `bounded_load`: those of a table that is loaded;
* `Window.huffmanSymbol_any`: a symbol is read from every look-ahead word but 0xFFFF;
* `acLoop_any`, `unit_any`: the loop ends within 63 rounds, stores in its block only and consumes a bounded number of bits;
* **`decompress_reads`**: a tile of any bits without sixteen ones in a row is read, within the coefficients of a tile.
-/

namespace BmcVnc

open BmcLib Function

/-! ## The tables -/

/-- Every look-ahead word but 0xFFFF has a length of 1 to 16 bits, 0xFFFF has none, and no value has more than `size` bits. -/
structure HuffmanTable.Bounded (ht : HuffmanTable) (size : UInt8 → Prop) : Prop where
  len_pos : ∀ w < 65535, 1 ≤ (ht.len w).toNat
  len_le : ∀ w < 65535, (ht.len w).toNat ≤ 16
  len_ones : ht.len 65535 = 0
  value : ∀ x, size (ht.v x)

section Tables

variable {huffCode : List UInt16} {nrcode value : List UInt8}

/-- Every word has a region. -/
theorem Ascending.exists_region (h : Ascending huffCode) {c : ℕ} (hc : c < 65535) : ∃ r, InRegion huffCode r c := by
  obtain ⟨heven, hlen, -, h0, -, hmax, -⟩ := h
  have hlast : c < (huffCode.getD (2 * (huffCode.length / 2 - 1)) 0).toNat := by
    rw [show 2 * (huffCode.length / 2 - 1) = huffCode.length - 2 by omega, hmax]
    exact hc
  -- the first threshold that the word does not reach
  have hex : ∃ r, c < (huffCode.getD (2 * r) 0).toNat := ⟨_, hlast⟩
  have hpos : Nat.find hex ≠ 0 := fun hzero => by
    have := Nat.find_spec hex
    rw [hzero, Nat.mul_zero, h0] at this
    exact absurd this (Nat.not_lt_zero c)
  refine ⟨Nat.find hex, Nat.one_le_iff_ne_zero.2 hpos, ?_, ?_, Nat.find_spec hex⟩
  · have := Nat.find_min' hex hlast
    omega
  · exact Nat.not_lt.1 (Nat.find_min hex (Nat.sub_lt (Nat.pos_of_ne_zero hpos) one_pos))

/-- A value of the list, or the zero of a place that was not written. -/
theorem loadValues_range {size : UInt8 → Prop} (hvalue : ∀ v ∈ value, size v) (hzero : size 0) {v : ℕ → UInt8}
    (hv : ∀ x, size (v x)) (x : ℕ) : size ((loadValues nrcode value v).2 x) := by
  have hget : ∀ i, size (value.getD i 0) := fun i => by
    rw [List.getD_eq_getElem?_getD]
    rcases hi : value[i]? with - | w
    · exact hzero
    · exact hvalue w (List.mem_of_getElem? hi)
  have hinner : ∀ (k : ℕ) (js : List ℕ) (st : UInt8 × (ℕ → UInt8)), (∀ x, size (st.2 x)) → ∀ x,
      size ((js.foldl (fun st j => (st.1 + 1, update st.2 (wordHiLo (UInt8.ofNat k) (UInt8.ofNat j)).toNat
        (value.getD st.1.toNat 0))) st).2 x) := by
    intro k js
    induction js with
    | nil => exact fun st hst => hst
    | cons j js ih =>
      refine fun st hst => ih _ fun x => ?_
      change size (update st.2 _ _ x)
      rw [update_apply]
      split_ifs
      · exact hget _
      · exact hst x
  have houter : ∀ (ks : List ℕ) (st : UInt8 × (ℕ → UInt8)), (∀ x, size (st.2 x)) → ∀ x,
      size ((ks.foldl (fun st k => (List.range (nrcode.getD k 0).toNat).foldl (fun st j =>
        (st.1 + 1, update st.2 (wordHiLo (UInt8.ofNat k) (UInt8.ofNat j)).toNat (value.getD st.1.toNat 0))) st) st).2 x) := by
    intro ks
    induction ks with
    | nil => exact fun st hst => hst
    | cons k ks ih => exact fun st hst => ih _ (hinner k _ st hst)
  exact houter _ _ hv x

/-- The lengths of the regions are 1 to 16. -/
def LengthsFit (huffCode : List UInt16) : Prop :=
  ∀ r < huffCode.length / 2, 1 ≤ r →
    1 ≤ (huffCode.getD (2 * r + 1) 0).toUInt8.toNat ∧ (huffCode.getD (2 * r + 1) 0).toUInt8.toNat ≤ 16

instance (huffCode : List UInt16) : Decidable (LengthsFit huffCode) := by unfold LengthsFit; infer_instance

theorem bounded_load {size : UInt8 → Prop} (hasc : Ascending huffCode) (hfit : LengthsFit huffCode)
    (hvalue : ∀ v ∈ value, size v) (hzero : size 0) : (loadHuffmanTable nrcode value huffCode .zero).Bounded size := by
  have hlen : ∀ w < 65535, 1 ≤ ((loadLen huffCode (HuffmanTable.zero).len).2 w).toNat ∧
      ((loadLen huffCode (HuffmanTable.zero).len).2 w).toNat ≤ 16 := fun w hw => by
    obtain ⟨r, hr⟩ := hasc.exists_region hw
    rw [hasc.loadLen _ hw hr]
    exact hfit r (by have := hr.2.1; have := hasc.1; omega) hr.1
  refine ⟨fun w hw => ?_, fun w hw => ?_, ?_, fun x => ?_⟩
  · rw [loadHuffmanTable_len]
    exact (hlen w hw).1
  · rw [loadHuffmanTable_len]
    exact (hlen w hw).2
  · rw [loadHuffmanTable_len, loadLen_last]
    rfl
  · exact loadValues_range hvalue hzero (fun _ => hzero) x

/-- A DC value is a category of up to eleven bits. -/
theorem Component.bounded_dc (c : Component) : c.dcTable.Bounded fun v => v.toNat ≤ 11 := by
  cases c with
  | y => exact bounded_load (by decide +kernel) (by decide +kernel) (by decide +kernel) (by decide)
  | cb | cr => exact bounded_load (by decide +kernel) (by decide +kernel) (by decide +kernel) (by decide)

/-- An AC value is a run and a category of up to ten bits. -/
theorem Component.bounded_ac (c : Component) : c.acTable.Bounded fun v => (v &&& 0xF).toNat ≤ 10 := by
  cases c with
  | y => exact bounded_load (by decide +kernel) (by decide +kernel) (by decide +kernel) (by decide)
  | cb | cr => exact bounded_load (by decide +kernel) (by decide +kernel) (by decide +kernel) (by decide)

end Tables

/-! ## Symbols and values -/

section Runs

variable {Buffer : List UInt32} {p : ℕ} {s : ReadState} {ht : HuffmanTable} {size : UInt8 → Prop}

/-- The look-ahead word of 16 bits. -/
theorem Window.toNat_word (hs : Window Buffer p s) : (s.codebuf >>> 16).toUInt16.toNat = nextBits Buffer p 16 := by
  rw [← hs.toNat_codebuf (k := 16) (by norm_num), UInt32.toNat_toUInt16, UInt32.toNat_shiftRight]
  exact Nat.mod_eq_of_lt (by have := s.codebuf.toNat_lt; change s.codebuf.toNat >>> 16 < 65536; omega)

/-- **A symbol** is read from every look-ahead word but 0xFFFF. -/
theorem Window.huffmanSymbol_any (hs : Window Buffer p s) (hht : ht.Bounded size) (hword : nextBits Buffer p 16 ≠ 65535)
    (hin : (p + 16) / 32 + 2 ≤ Buffer.length) :
    ∃ sym s' k, BmcVnc.huffmanSymbol Buffer ht s = some (sym, s') ∧ size sym ∧ 1 ≤ k ∧ k ≤ 16 ∧ Window Buffer (p + k) s' := by
  have hlt : nextBits Buffer p 16 < 65535 := lt_of_le_of_ne (Nat.le_of_lt_succ (nextBits_lt p 16)) hword
  have hk1 := hht.len_pos _ hlt
  have hk16 := hht.len_le _ hlt
  rw [← hs.toNat_word] at hk1 hk16
  obtain ⟨w, hw, -⟩ := hs.lookKbits hk1 hk16
  obtain ⟨s', hskip, hs'⟩ := hs.advance hk1 (by omega) (by omega)
  let k := ht.len (s.codebuf >>> 16).toUInt16.toNat
  refine ⟨ht.v (wordHiLo k (w - ht.minorCode k.toNat).toUInt8).toNat, s', k.toNat, ?_, hht.value _, hk1, hk16, hs'⟩
  simp only [BmcVnc.huffmanSymbol, hw, skipKbits, hskip, Option.bind_eq_bind, Option.bind_some, Option.pure_def]
  rfl

/-- A value of up to 16 bits is read. -/
theorem Window.getKbits_any (hs : Window Buffer p s) {k : UInt8} (hk : k ≠ 0) (hk' : k.toNat ≤ 16)
    (hin : (p + k.toNat) / 32 + 2 ≤ Buffer.length) :
    ∃ value s', BmcVnc.getKbits Buffer k s = some (value, s') ∧ Window Buffer (p + k.toNat) s' := by
  have hpos : 1 ≤ k.toNat := Nat.one_le_iff_ne_zero.2 fun h => hk (UInt8.toNat_inj.1 h)
  obtain ⟨s', hget, hskip⟩ := hs.getKbits hpos hk' hin
  obtain ⟨s'', hadv, hs''⟩ := hs.advance hpos (by omega) hin
  rw [skipKbits, hadv] at hskip
  obtain rfl := Option.some.inj hskip
  exact ⟨_, s'', hget, hs''⟩

/-! ## A unit -/

/-- The bits from `p` to `q` do not show sixteen ones to a look-ahead. -/
def NoOnes (Buffer : List UInt32) (p q : ℕ) : Prop := ∀ i, p ≤ i → i < q → nextBits Buffer i 16 ≠ 65535

theorem NoOnes.mono {p' q q' : ℕ} (h : NoOnes Buffer p q) (hp : p ≤ p') (hq : q' ≤ q) : NoOnes Buffer p' q' :=
  fun i hi hlt => h i (hp.trans hi) (hlt.trans_le hq)

/-- **The loop** ends, stores in its block only, and consumes at most 26 bits for each coefficient that is left. -/
theorem acLoop_any (hht : ht.Bounded fun v => (v &&& 0xF).toNat ≤ 10) (position rounds : ℕ) (nr : UInt8) (coeff : ℕ → Int16)
    (hnr : nr.toNat < 64) (hrounds : 64 ≤ rounds + nr.toNat) (hs : Window Buffer p s)
    (hones : NoOnes Buffer p (p + 26 * (64 - nr.toNat))) (hin : (p + 26 * (64 - nr.toNat)) / 32 + 2 ≤ Buffer.length) :
    ∃ coeff' s' p', acLoop Buffer ht position rounds nr coeff s = some (coeff', s') ∧ Window Buffer p' s' ∧ p < p' ∧
      p' ≤ p + 26 * (64 - nr.toNat) ∧ ∀ a, a < position ∨ position + 64 ≤ a → coeff' a = coeff a := by
  induction rounds generalizing p s nr coeff with
  | zero => omega
  | succ rounds ih =>
    obtain ⟨sym, s₁, k, hsym, hsize, hk1, hk16, hs₁⟩ :=
      hs.huffmanSymbol_any hht (hones p le_rfl (by omega)) (by omega)
    have hcount : (sym >>> 4).toNat ≤ 15 := by
      have := sym.toNat_lt
      rw [UInt8.toNat_shiftRight]
      change sym.toNat >>> 4 ≤ 15
      rw [Nat.shiftRight_eq_div_pow]
      omega
    by_cases hzero : sym &&& 0xF = 0
    · by_cases hend : sym >>> 4 = 0xF
      · have hadd : (nr + 16).toNat = nr.toNat + 16 := by
          rw [UInt8.toNat_add]
          exact Nat.mod_eq_of_lt (show nr.toNat + 16 < 256 by omega)
        rw [acLoop_sixteen hsym hzero hend]
        by_cases hmore : nr + 16 < 64
        · have hlt : nr.toNat + 16 < 64 := hadd ▸ UInt8.lt_iff_toNat_lt.1 hmore
          obtain ⟨coeff', s', p', hloop, hs', hp, hp', hframe⟩ := ih (nr + 16) coeff (by omega) (by omega) hs₁
            (hones.mono (by omega) (by omega)) (by omega)
          rw [if_pos hmore]
          exact ⟨coeff', s', p', hloop, hs', by omega, by omega, hframe⟩
        · rw [if_neg hmore]
          exact ⟨coeff, s₁, p + k, rfl, hs₁, by omega, by omega, fun _ _ => rfl⟩
      · rw [acLoop_end hsym hzero hend]
        exact ⟨coeff, s₁, p + k, rfl, hs₁, by omega, by omega, fun _ _ => rfl⟩
    · obtain ⟨value, s₂, hget, hs₂⟩ := hs₁.getKbits_any hzero (hsize.trans (by norm_num)) (by omega)
      have hadd : (nr + (sym >>> 4)).toNat = nr.toNat + (sym >>> 4).toNat := by
        rw [UInt8.toNat_add]
        exact Nat.mod_eq_of_lt (show nr.toNat + (sym >>> 4).toNat < 256 by omega)
      have hadd' : (nr + (sym >>> 4) + 1).toNat = nr.toNat + (sym >>> 4).toNat + 1 := by
        rw [UInt8.toNat_add, hadd]
        exact Nat.mod_eq_of_lt (show nr.toNat + (sym >>> 4).toNat + 1 < 256 by omega)
      -- the list is long enough for fifteen zeros in front of the last frequency
      have hplace : ∃ n, dezigzag[(nr + (sym >>> 4)).toNat]? = some n ∧ n < 64 := by
        have hbound : ∀ i < 79, ∃ n, dezigzag[i]? = some n ∧ n < 64 := by decide
        rw [hadd]
        exact hbound _ (by omega)
      obtain ⟨n, hplace, hn⟩ := hplace
      have hframe₁ : ∀ a, a < position ∨ position + 64 ≤ a → update coeff (position + n) value a = coeff a :=
        fun a ha => update_of_ne (by omega) _ _
      rw [acLoop_value hsym hzero hget hplace]
      by_cases hmore : nr + (sym >>> 4) + 1 < 64
      · have hlt : nr.toNat + (sym >>> 4).toNat + 1 < 64 := hadd' ▸ UInt8.lt_iff_toNat_lt.1 hmore
        obtain ⟨coeff', s', p', hloop, hs', hp, hp', hframe⟩ := ih (nr + (sym >>> 4) + 1)
          (update coeff (position + n) value) (by omega) (by omega) hs₂ (hones.mono (by omega) (by omega)) (by omega)
        rw [if_pos hmore]
        exact ⟨coeff', s', p', hloop, hs', by omega, by omega, fun a ha => (hframe a ha).trans (hframe₁ a ha)⟩
      · rw [if_neg hmore]
        exact ⟨_, s₂, _, rfl, hs₂, by omega, by omega, hframe₁⟩

/-- The bits that a unit consumes at most. -/
def unitBits : ℕ := 16 + 11 + 26 * 63

/-- **A unit** of any bits is read. -/
theorem unit_any {dc ac : HuffmanTable} (position : ℕ) (hdc : dc.Bounded fun v => v.toNat ≤ 11)
    (hac : ac.Bounded fun v => (v &&& 0xF).toNat ≤ 10) (previousDC : Int16) (coeff : ℕ → Int16) (hs : Window Buffer p s)
    (hones : NoOnes Buffer p (p + unitBits)) (hin : (p + unitBits) / 32 + 2 ≤ Buffer.length) :
    ∃ value coeff' s' p', processHuffmanDataUnit Buffer dc ac previousDC position coeff s = some (value, coeff', s') ∧
      Window Buffer p' s' ∧ p < p' ∧ p' ≤ p + unitBits ∧ ∀ a, a < position ∨ position + 64 ≤ a → coeff' a = coeff a := by
  rw [unitBits] at hones hin ⊢
  obtain ⟨sym, s₁, k, hsym, hsize, hk1, hk16, hs₁⟩ := hs.huffmanSymbol_any hdc (hones p le_rfl (by omega)) (by omega)
  have hvalue : ∃ value s₂ p₂, dcCoefficient Buffer dc previousDC s = some (value, s₂) ∧ Window Buffer p₂ s₂ ∧ p < p₂ ∧
      p₂ ≤ p + 27 := by
    by_cases hzero : sym = 0
    · refine ⟨previousDC, s₁, p + k, ?_, hs₁, by omega, by omega⟩
      simp only [dcCoefficient, hsym, if_pos hzero, Option.bind_eq_bind, Option.bind_some, Option.pure_def]
    · obtain ⟨diff, s₂, hget, hs₂⟩ := hs₁.getKbits_any hzero (by omega) (by omega)
      refine ⟨previousDC + diff, s₂, p + k + sym.toNat, ?_, hs₂, by omega, by omega⟩
      simp only [dcCoefficient, hsym, hget, if_neg hzero, Option.bind_eq_bind, Option.bind_some, Option.pure_def]
  obtain ⟨value, s₂, p₂, hdcValue, hs₂, hp₂, hp₂'⟩ := hvalue
  have hleft : 64 - (1 : UInt8).toNat = 63 := rfl
  obtain ⟨coeff', s', p', hloop, hs', hp, hp', hframe⟩ := acLoop_any hac position 63 1
    (update coeff position value) (by decide) (by decide) hs₂
    (hones.mono (by omega) (by rw [hleft]; omega)) (by rw [hleft]; omega)
  rw [hleft] at hp'
  refine ⟨value, coeff', s', p', ?_, hs', by omega, by omega, fun a ha => ?_⟩
  · simp only [processHuffmanDataUnit, hdcValue, hloop, Option.bind_eq_bind, Option.bind_some, Option.pure_def]
  · rw [hframe a ha, update_of_ne (by omega)]

/-! ## A tile -/

theorem units_any (units : List (Component × ℕ)) (dc : Component → Int16) (coeff : ℕ → Int16) (hs : Window Buffer p s)
    (hones : NoOnes Buffer p (p + unitBits * units.length)) (hin : (p + unitBits * units.length) / 32 + 2 ≤ Buffer.length) :
    ∃ dc' coeff' s' p', processUnits Buffer units (dc, coeff, s) = some (dc', coeff', s') ∧ Window Buffer p' s' ∧
      p + units.length ≤ p' ∧ p' ≤ p + unitBits * units.length ∧
      ∀ a, (∀ u ∈ units, a < u.2 ∨ u.2 + 64 ≤ a) → coeff' a = coeff a := by
  induction units generalizing p s dc coeff with
  | nil => exact ⟨dc, coeff, s, p, rfl, hs, le_rfl, le_rfl, fun _ _ => rfl⟩
  | cons u units ih =>
    obtain ⟨c, position⟩ := u
    rw [List.length_cons, Nat.mul_succ] at hones hin ⊢
    obtain ⟨value, coeff₁, s₁, p₁, hunit, hs₁, hp₁, hp₁', hframe₁⟩ := unit_any position c.bounded_dc c.bounded_ac
      (dc c) coeff hs (hones.mono le_rfl (by omega)) (by omega)
    obtain ⟨dc', coeff', s', p', hrest, hs', hp, hp', hframe⟩ := ih (update dc c value) coeff₁ hs₁
      (hones.mono (by omega) (by omega)) (by omega)
    refine ⟨dc', coeff', s', p', ?_, hs', by omega, by omega, fun a ha => ?_⟩
    · simp only [processUnits, hunit, Option.bind_eq_bind, Option.bind_some]
      exact hrest
    · rw [hframe a fun u hu => ha u (List.mem_cons_of_mem _ hu)]
      exact hframe₁ a (ha _ List.mem_cons_self)

/-- The bits that a tile consumes at most. -/
def tileBits : ℕ := 6 * unitBits

theorem length_tileUnits (mode420 : UInt8) : 3 ≤ (tileUnits mode420).length ∧ (tileUnits mode420).length ≤ 6 := by
  rw [tileUnits]
  split_ifs <;> decide

theorem tileUnits_lt (mode420 : UInt8) : ∀ u ∈ tileUnits mode420, u.2 + 64 ≤ 384 := by
  rw [tileUnits]
  split_ifs <;> decide

/-- A tile is read. -/
theorem decompress_reads (mode420 : UInt8) (dc : Component → Int16) (hs : Window Buffer p s)
    (hones : NoOnes Buffer p (p + tileBits)) (hin : (p + tileBits) / 32 + 2 ≤ Buffer.length) :
    ∃ dc' coeff s' p', decompress Buffer mode420 dc s = some (dc', coeff, s') ∧ Window Buffer p' s' ∧ p < p' ∧
      p' ≤ p + tileBits ∧ ∀ a, 384 ≤ a → coeff a = 0 := by
  obtain ⟨hlen3, hlen6⟩ := length_tileUnits mode420
  have hbits : unitBits * (tileUnits mode420).length ≤ tileBits := by
    rw [tileBits, Nat.mul_comm]
    exact Nat.mul_le_mul_right _ hlen6
  obtain ⟨dc', coeff, s', p', htile, hs', hp, hp', hframe⟩ := units_any (tileUnits mode420) dc
    (fun _ => 0) hs (hones.mono le_rfl (by omega)) (by omega)
  exact ⟨dc', coeff, s', p', htile, hs', by omega, by omega,
    fun a ha => hframe a fun u hu => .inr ((tileUnits_lt mode420 u hu).trans ha)⟩

end Runs

end BmcVnc
