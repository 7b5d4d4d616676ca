import Bmc.Vnc.BitReader
import Bmc.Lib.BitFields

/-!
# The Huffman tables of the video decoder

`load_Huffman_table` of `decode.c` fills a table from the lists of `jtables.c`.

* `HuffmanTable`: the table; `loadValues`, `loadCodes`, `loadLen`: the three loops;
* `lenLoop_spec`: which length a look-ahead word has, from the thresholds;
* `Coded`: a table decodes the codes of a canonical prefix code;
* **`coded_dcLuminance`** and the three others: the lists of `jtables.c` agree with each other.
-/

namespace BmcVnc

open BmcLib Function

/-! ## The lists of `jtables.c` -/

/-- `std_dc_luminance_nrcodes`. -/
def stdDcLuminanceNrcodes : List UInt8 := [0, 0, 1, 5, 1, 1, 1, 1, 1, 1, 0, 0, 0, 0, 0, 0, 0]

/-- `std_dc_luminance_values`. -/
def stdDcLuminanceValues : List UInt8 := [0, 1, 2, 3, 4, 5, 6, 7, 8, 9, 10, 11]

/-- `std_dc_chrominance_nrcodes`. -/
def stdDcChrominanceNrcodes : List UInt8 := [0, 0, 3, 1, 1, 1, 1, 1, 1, 1, 1, 1, 0, 0, 0, 0, 0]

/-- `std_dc_chrominance_values`. -/
def stdDcChrominanceValues : List UInt8 := [0, 1, 2, 3, 4, 5, 6, 7, 8, 9, 10, 11]

/-- `std_ac_luminance_nrcodes`. -/
def stdAcLuminanceNrcodes : List UInt8 := [0, 0, 2, 1, 3, 3, 2, 4, 3, 5, 5, 4, 4, 0, 0, 1, 0x7d]

/-- `std_ac_luminance_values`. -/
def stdAcLuminanceValues : List UInt8 := [
  0x01, 0x02, 0x03, 0x00, 0x04, 0x11, 0x05, 0x12, 0x21, 0x31, 0x41, 0x06, 0x13, 0x51, 0x61, 0x07,
  0x22, 0x71, 0x14, 0x32, 0x81, 0x91, 0xa1, 0x08, 0x23, 0x42, 0xb1, 0xc1, 0x15, 0x52, 0xd1, 0xf0,
  0x24, 0x33, 0x62, 0x72, 0x82, 0x09, 0x0a, 0x16, 0x17, 0x18, 0x19, 0x1a, 0x25, 0x26, 0x27, 0x28,
  0x29, 0x2a, 0x34, 0x35, 0x36, 0x37, 0x38, 0x39, 0x3a, 0x43, 0x44, 0x45, 0x46, 0x47, 0x48, 0x49,
  0x4a, 0x53, 0x54, 0x55, 0x56, 0x57, 0x58, 0x59, 0x5a, 0x63, 0x64, 0x65, 0x66, 0x67, 0x68, 0x69,
  0x6a, 0x73, 0x74, 0x75, 0x76, 0x77, 0x78, 0x79, 0x7a, 0x83, 0x84, 0x85, 0x86, 0x87, 0x88, 0x89,
  0x8a, 0x92, 0x93, 0x94, 0x95, 0x96, 0x97, 0x98, 0x99, 0x9a, 0xa2, 0xa3, 0xa4, 0xa5, 0xa6, 0xa7,
  0xa8, 0xa9, 0xaa, 0xb2, 0xb3, 0xb4, 0xb5, 0xb6, 0xb7, 0xb8, 0xb9, 0xba, 0xc2, 0xc3, 0xc4, 0xc5,
  0xc6, 0xc7, 0xc8, 0xc9, 0xca, 0xd2, 0xd3, 0xd4, 0xd5, 0xd6, 0xd7, 0xd8, 0xd9, 0xda, 0xe1, 0xe2,
  0xe3, 0xe4, 0xe5, 0xe6, 0xe7, 0xe8, 0xe9, 0xea, 0xf1, 0xf2, 0xf3, 0xf4, 0xf5, 0xf6, 0xf7, 0xf8,
  0xf9, 0xfa]

/-- `std_ac_chrominance_nrcodes`. -/
def stdAcChrominanceNrcodes : List UInt8 := [0, 0, 2, 1, 2, 4, 4, 3, 4, 7, 5, 4, 4, 0, 1, 2, 0x77]

/-- `std_ac_chrominance_values`. -/
def stdAcChrominanceValues : List UInt8 := [
  0x00, 0x01, 0x02, 0x03, 0x11, 0x04, 0x05, 0x21, 0x31, 0x06, 0x12, 0x41, 0x51, 0x07, 0x61, 0x71,
  0x13, 0x22, 0x32, 0x81, 0x08, 0x14, 0x42, 0x91, 0xa1, 0xb1, 0xc1, 0x09, 0x23, 0x33, 0x52, 0xf0,
  0x15, 0x62, 0x72, 0xd1, 0x0a, 0x16, 0x24, 0x34, 0xe1, 0x25, 0xf1, 0x17, 0x18, 0x19, 0x1a, 0x26,
  0x27, 0x28, 0x29, 0x2a, 0x35, 0x36, 0x37, 0x38, 0x39, 0x3a, 0x43, 0x44, 0x45, 0x46, 0x47, 0x48,
  0x49, 0x4a, 0x53, 0x54, 0x55, 0x56, 0x57, 0x58, 0x59, 0x5a, 0x63, 0x64, 0x65, 0x66, 0x67, 0x68,
  0x69, 0x6a, 0x73, 0x74, 0x75, 0x76, 0x77, 0x78, 0x79, 0x7a, 0x82, 0x83, 0x84, 0x85, 0x86, 0x87,
  0x88, 0x89, 0x8a, 0x92, 0x93, 0x94, 0x95, 0x96, 0x97, 0x98, 0x99, 0x9a, 0xa2, 0xa3, 0xa4, 0xa5,
  0xa6, 0xa7, 0xa8, 0xa9, 0xaa, 0xb2, 0xb3, 0xb4, 0xb5, 0xb6, 0xb7, 0xb8, 0xb9, 0xba, 0xc2, 0xc3,
  0xc4, 0xc5, 0xc6, 0xc7, 0xc8, 0xc9, 0xca, 0xd2, 0xd3, 0xd4, 0xd5, 0xd6, 0xd7, 0xd8, 0xd9, 0xda,
  0xe2, 0xe3, 0xe4, 0xe5, 0xe6, 0xe7, 0xe8, 0xe9, 0xea, 0xf2, 0xf3, 0xf4, 0xf5, 0xf6, 0xf7, 0xf8,
  0xf9, 0xfa]

/-- `DC_LUMINANCE_HUFFMANCODE`: thresholds of the look-ahead word, each with the length of the codes below it. -/
def dcLuminanceHuffmancode : List UInt16 := [
  0x0000, 0, 0x4000, 2, 0x6000, 3, 0x8000, 3, 0xA000, 3, 0xC000, 3, 0xE000, 3, 0xF000, 4, 0xF800, 5, 0xFC00, 6,
  0xFE00, 7, 0xFF00, 8, 0xFFFF, 9]

/-- `DC_CHROMINANCE_HUFFMANCODE`. -/
def dcChrominanceHuffmancode : List UInt16 := [
  0x0000, 0, 0x4000, 2, 0x8000, 2, 0xC000, 2, 0xE000, 3, 0xF000, 4, 0xF800, 5, 0xFC00, 6, 0xFE00, 7, 0xFF00, 8,
  0xFF80, 9, 0xFFC0, 10, 0xFFFF, 11]

/-- `AC_LUMINANCE_HUFFMANCODE`. -/
def acLuminanceHuffmancode : List UInt16 := [
  0x0000, 0, 0x4000, 2, 0x8000, 2, 0xA000, 3, 0xB000, 4, 0xC000, 4, 0xD000, 4, 0xD800, 5, 0xE000, 5, 0xE800, 5,
  0xEC00, 6, 0xF000, 6, 0xF200, 7, 0xF400, 7, 0xF600, 7, 0xF800, 7, 0xF900, 8, 0xFA00, 8, 0xFB00, 8, 0xFB80, 9,
  0xFC00, 9, 0xFC80, 9, 0xFD00, 9, 0xFD80, 9, 0xFDC0, 10, 0xFE00, 10, 0xFE40, 10, 0xFE80, 10, 0xFEC0, 10,
  0xFEE0, 11, 0xFF00, 11, 0xFF20, 11, 0xFF40, 11, 0xFF50, 12, 0xFF60, 12, 0xFF70, 12, 0xFF80, 12, 0xFF82, 15,
  0xFFFF, 16]

/-- `AC_CHROMINANCE_HUFFMANCODE`. -/
def acChrominanceHuffmancode : List UInt16 := [
  0x0000, 0, 0x4000, 2, 0x8000, 2, 0xA000, 3, 0xB000, 4, 0xC000, 4, 0xC800, 5, 0xD000, 5, 0xD800, 5, 0xE000, 5,
  0xE400, 6, 0xE800, 6, 0xEC00, 6, 0xF000, 6, 0xF200, 7, 0xF400, 7, 0xF600, 7, 0xF700, 8, 0xF800, 8, 0xF900, 8,
  0xFA00, 8, 0xFA80, 9, 0xFB00, 9, 0xFB80, 9, 0xFC00, 9, 0xFC80, 9, 0xFD00, 9, 0xFD80, 9, 0xFDC0, 10, 0xFE00, 10,
  0xFE40, 10, 0xFE80, 10, 0xFEC0, 10, 0xFEE0, 11, 0xFF00, 11, 0xFF20, 11, 0xFF40, 11, 0xFF50, 12, 0xFF60, 12,
  0xFF70, 12, 0xFF80, 12, 0xFF84, 14, 0xFF86, 15, 0xFF88, 15, 0xFFFF, 16]

/-! ## `load_Huffman_table` -/

/-- `WORD_hi_lo`. -/
def wordHiLo (byteHigh byteLow : UInt8) : UInt16 := byteHigh.toUInt16 <<< 8 ||| byteLow.toUInt16

/-- `Huffman_table`: for each length the number of codes, the smallest and the greatest; the values, at the length and the
position of the code; and the length that a look-ahead word starts with. -/
structure HuffmanTable where
  length : ℕ → UInt8
  minorCode : ℕ → UInt16
  majorCode : ℕ → UInt16
  v : ℕ → UInt8
  len : ℕ → UInt8

/-- The table before it is loaded: a global of zeros. -/
def HuffmanTable.zero : HuffmanTable := ⟨fun _ => 0, fun _ => 0, fun _ => 0, fun _ => 0, fun _ => 0⟩

/-- The first two loops: the numbers of codes, and the values in their order. The counter `i` is a byte. -/
def loadValues (nrcode value : List UInt8) (v : ℕ → UInt8) : UInt8 × (ℕ → UInt8) :=
  (List.range' 1 16).foldl (fun st k => (List.range (nrcode.getD k 0).toNat).foldl (fun st j =>
    (st.1 + 1, update st.2 (wordHiLo (UInt8.ofNat k) (UInt8.ofNat j)).toNat (value.getD st.1.toNat 0))) st) (0, v)

/-- The third loop: the smallest and the greatest code of each length. -/
def loadCodes (length : ℕ → UInt8) (minor major : ℕ → UInt16) : UInt32 × (ℕ → UInt16) × (ℕ → UInt16) :=
  (List.range' 1 16).foldl (fun st k =>
    let last := st.1 + (length k).toUInt32
    if length k = 0 then (last * 2, update st.2.1 k 0xFFFF, update st.2.2 k 0)
    else (last * 2, update st.2.1 k st.1.toUInt16, update st.2.2 k (last - 1).toUInt16)) (0, minor, major)

/-- A round of the last loop: `i` is at the threshold that the words have not reached. -/
def lenRound (huffCode : List UInt16) (st : UInt8 × (ℕ → UInt8)) (codeIndex : ℕ) : UInt8 × (ℕ → UInt8) :=
  let i := if codeIndex < (huffCode.getD st.1.toNat 0).toNat then st.1 else st.1 + 2
  (i, update st.2 codeIndex (huffCode.getD (i + 1).toNat 0).toUInt8)

/-- The last loop. -/
def loadLen (huffCode : List UInt16) (len : ℕ → UInt8) : UInt8 × (ℕ → UInt8) :=
  (List.range' 1 65534).foldl (lenRound huffCode) (2, update len 0 2)

/-- `load_Huffman_table`. -/
def loadHuffmanTable (nrcode value : List UInt8) (huffCode : List UInt16) (ht : HuffmanTable) : HuffmanTable :=
  let length := fun j => if 1 ≤ j ∧ j ≤ 16 then nrcode.getD j 0 else ht.length j
  let codes := loadCodes length ht.minorCode ht.majorCode
  ⟨length, codes.2.1, codes.2.2, (loadValues nrcode value ht.v).2, (loadLen huffCode ht.len).2⟩

/-- `HTDC[0]`, as `init_jpg_table` loads it. -/
def htDc0 : HuffmanTable := loadHuffmanTable stdDcLuminanceNrcodes stdDcLuminanceValues dcLuminanceHuffmancode .zero

/-- `HTAC[0]`. -/
def htAc0 : HuffmanTable := loadHuffmanTable stdAcLuminanceNrcodes stdAcLuminanceValues acLuminanceHuffmancode .zero

/-- `HTDC[1]`. -/
def htDc1 : HuffmanTable :=
  loadHuffmanTable stdDcChrominanceNrcodes stdDcChrominanceValues dcChrominanceHuffmancode .zero

/-- `HTAC[1]`. -/
def htAc1 : HuffmanTable :=
  loadHuffmanTable stdAcChrominanceNrcodes stdAcChrominanceValues acChrominanceHuffmancode .zero

/-! ## The lengths -/

/-- A list of thresholds that the last loop can go through: they grow from 0 to 0xFFFF, the first length is 2, and a byte counts
the entries. -/
def Ascending (huffCode : List UInt16) : Prop :=
  huffCode.length % 2 = 0 ∧ 4 ≤ huffCode.length ∧ huffCode.length ≤ 256 ∧ huffCode.getD 0 0 = 0 ∧ huffCode.getD 3 0 = 2 ∧
    huffCode.getD (huffCode.length - 2) 0 = 0xFFFF ∧
    ∀ r < huffCode.length / 2 - 1, (huffCode.getD (2 * r) 0).toNat < (huffCode.getD (2 * r + 2) 0).toNat

instance (huffCode : List UInt16) : Decidable (Ascending huffCode) := by unfold Ascending; infer_instance

/-- The words of region `r`: they are below threshold `r` and not below the one before. -/
def InRegion (huffCode : List UInt16) (r c : ℕ) : Prop :=
  1 ≤ r ∧ 2 * r < huffCode.length ∧ (huffCode.getD (2 * (r - 1)) 0).toNat ≤ c ∧ c < (huffCode.getD (2 * r) 0).toNat

section Lengths

variable {huffCode : List UInt16}

/-- Thresholds in their order. -/
theorem Ascending.mono (h : Ascending huffCode) {s t : ℕ} (hst : s ≤ t) (ht : 2 * t < huffCode.length) :
    (huffCode.getD (2 * s) 0).toNat ≤ (huffCode.getD (2 * t) 0).toNat := by
  induction t, hst using Nat.le_induction with
  | base => exact le_rfl
  | succ t hst ih =>
    obtain ⟨heven, -, -, -, -, -, hlt⟩ := h
    exact (ih (by omega)).trans (hlt t (by omega)).le

/-- A word is in one region. -/
theorem Ascending.region_unique (h : Ascending huffCode) {r s c : ℕ} (hr : InRegion huffCode r c)
    (hs : InRegion huffCode s c) : r = s := by
  obtain ⟨hr1, hrlen, hrlow, hrup⟩ := hr
  obtain ⟨hs1, hslen, hslow, hsup⟩ := hs
  rcases Nat.lt_trichotomy r s with hlt | heq | hgt
  · have := h.mono (s := r) (t := s - 1) (by omega) (by omega)
    omega
  · exact heq
  · have := h.mono (s := s) (t := r - 1) (by omega) (by omega)
    omega

/-- The state of the last loop when it has done the words up to `n`. -/
def LenDone (huffCode : List UInt16) (n : ℕ) (st : UInt8 × (ℕ → UInt8)) : Prop :=
  ∃ r, InRegion huffCode r n ∧ st.1.toNat = 2 * r ∧
    ∀ c ≤ n, ∀ s, InRegion huffCode s c → st.2 c = (huffCode.getD (2 * s + 1) 0).toUInt8

theorem Ascending.lenDone_zero (h : Ascending huffCode) (len : ℕ → UInt8) : LenDone huffCode 0 (2, update len 0 2) := by
  have hzero : InRegion huffCode 1 0 := by
    obtain ⟨-, hlen, -, h0, -, -, hlt⟩ := h
    have := hlt 0 (by omega)
    rw [Nat.mul_zero, h0] at this
    exact ⟨le_rfl, by omega, by rw [Nat.sub_self, Nat.mul_zero, h0]; exact le_rfl, this⟩
  refine ⟨1, hzero, rfl, fun c hc s hs => ?_⟩
  obtain rfl := Nat.le_zero.1 hc
  obtain rfl := h.region_unique hzero hs
  obtain ⟨-, -, -, -, h3, -, -⟩ := h
  change update len 0 2 0 = _
  rw [update_self]
  exact congrArg UInt16.toUInt8 h3.symm

/-- A round keeps that. -/
theorem Ascending.lenRound (h : Ascending huffCode) {n : ℕ} (hn : n < 65534) {st : UInt8 × (ℕ → UInt8)}
    (hst : LenDone huffCode n st) : LenDone huffCode (n + 1) (lenRound huffCode st (n + 1)) := by
  obtain ⟨r, ⟨hr1, hrlen, hrlow, hrup⟩, hi, hdone⟩ := hst
  have heven := h.1
  have hsize := h.2.2.1
  -- the region of the next word, and the counter that the round takes
  have hnext : ∃ r', InRegion huffCode r' (n + 1) ∧ (BmcVnc.lenRound huffCode st (n + 1)).1.toNat = 2 * r' := by
    by_cases hlt : n + 1 < (huffCode.getD st.1.toNat 0).toNat
    · refine ⟨r, ⟨hr1, hrlen, by omega, hi ▸ hlt⟩, ?_⟩
      rw [BmcVnc.lenRound, if_pos hlt, hi]
    · have hlast : 2 * r + 2 < huffCode.length := by
        by_contra hge
        obtain ⟨-, -, -, -, -, hmax, -⟩ := h
        rw [show huffCode.length - 2 = 2 * r by omega] at hmax
        rw [hi, hmax] at hlt
        exact hlt (show n + 1 < 65535 by omega)
      obtain ⟨-, -, -, -, -, -, hgrow⟩ := h
      have := hgrow r (by omega)
      rw [hi] at hlt
      refine ⟨r + 1, ⟨by omega, by omega, by rw [Nat.add_sub_cancel]; omega, ?_⟩, ?_⟩
      · change n + 1 < (huffCode.getD (2 * r + 2) 0).toNat
        omega
      rw [BmcVnc.lenRound, if_neg (by rwa [hi]), UInt8.toNat_add, hi, Nat.mod_eq_of_lt (by change 2 * r + 2 < 256; omega)]
      rfl
  obtain ⟨r', hr', hi'⟩ := hnext
  refine ⟨r', hr', hi', fun c hc s hs => ?_⟩
  rcases Nat.lt_or_ge n c with hlt | hge
  · obtain rfl : c = n + 1 := by omega
    obtain rfl := h.region_unique hr' hs
    have hlen' := hr'.2.1
    change update st.2 (n + 1) (huffCode.getD ((BmcVnc.lenRound huffCode st (n + 1)).1 + 1).toNat 0).toUInt8 (n + 1) = _
    rw [update_self, UInt8.toNat_add, hi', Nat.mod_eq_of_lt (by change 2 * r' + 1 < 256; omega)]
    rfl
  · change update st.2 (n + 1) _ c = _
    rw [update_of_ne (by omega)]
    exact hdone c hge s hs

/-- **The lengths.** Below 0xFFFF a word has the length of its region. -/
theorem Ascending.loadLen (h : Ascending huffCode) (len : ℕ → UInt8) {r c : ℕ} (hc : c < 65535)
    (hr : InRegion huffCode r c) : (loadLen huffCode len).2 c = (huffCode.getD (2 * r + 1) 0).toUInt8 := by
  have hdone : ∀ n ≤ 65534, LenDone huffCode n ((List.range' 1 n).foldl (BmcVnc.lenRound huffCode) (2, update len 0 2)) := by
    intro n hn
    induction n with
    | zero => exact h.lenDone_zero len
    | succ n ih =>
      rw [List.range'_1_concat, List.foldl_append, Nat.add_comm 1 n]
      exact h.lenRound hn (ih (by omega))
  obtain ⟨-, -, -, hlen⟩ := hdone 65534 le_rfl
  rw [BmcVnc.loadLen]
  exact hlen c (Nat.le_of_lt_succ hc) r hr

/-- The word 0xFFFF keeps the length it had. -/
theorem loadLen_last (len : ℕ → UInt8) : (loadLen huffCode len).2 65535 = len 65535 := by
  have hkeep : ∀ n ≤ 65534, ∀ st : UInt8 × (ℕ → UInt8),
      ((List.range' 1 n).foldl (lenRound huffCode) st).2 65535 = st.2 65535 := by
    intro n hn st
    induction n with
    | zero => rfl
    | succ n ih =>
      rw [List.range'_1_concat, List.foldl_append]
      exact (update_of_ne (by omega) _ _).trans (ih (by omega))
  rw [loadLen, hkeep 65534 le_rfl]
  exact update_of_ne (show 65535 ≠ 0 by decide) 2 len

end Lengths

/-! ## The codes of a table -/

/-- The symbols in the order of the canonical code, each with the length and the number of its code. -/
def huffmanCodes (nrcode value : List UInt8) : List (UInt8 × ℕ × ℕ) :=
  value.zip (canonicalCodes 1 0 (nrcode.tail.map UInt8.toNat))

/-- The table decodes the codes: a word that starts with one has its length, is not 0xFFFF, and its value is the symbol. -/
def HuffmanTable.Coded (ht : HuffmanTable) (codes : List (UInt8 × ℕ × ℕ)) : Prop :=
  ∀ sym k c, (sym, k, c) ∈ codes → 1 ≤ k ∧ k ≤ 16 ∧ (∀ w, w / 2 ^ (16 - k) = c → w < 65535 ∧ (ht.len w).toNat = k) ∧
    ht.v (wordHiLo (UInt8.ofNat k) (UInt16.ofNat c - ht.minorCode k).toUInt8).toNat = sym

/-- The words that start with a code lie in one region, which has the length of the code. -/
def CodeFits (huffCode : List UInt16) (k c : ℕ) : Prop :=
  ∃ r < huffCode.length / 2, 1 ≤ r ∧ (huffCode.getD (2 * (r - 1)) 0).toNat ≤ c * 2 ^ (16 - k) ∧
    (c + 1) * 2 ^ (16 - k) ≤ (huffCode.getD (2 * r) 0).toNat ∧ (huffCode.getD (2 * r + 1) 0).toUInt8.toNat = k

instance (huffCode : List UInt16) (k c : ℕ) : Decidable (CodeFits huffCode k c) := by unfold CodeFits; infer_instance

theorem Ascending.len_of_fits {huffCode : List UInt16} (h : Ascending huffCode) (len : ℕ → UInt8) {k c w : ℕ}
    (hfits : CodeFits huffCode k c) (hw : w / 2 ^ (16 - k) = c) :
    w < 65535 ∧ ((BmcVnc.loadLen huffCode len).2 w).toNat = k := by
  obtain ⟨r, hrlen, hr1, hlow, hup, hk⟩ := hfits
  have hpos : 0 < 2 ^ (16 - k) := Nat.two_pow_pos _
  have hge : c * 2 ^ (16 - k) ≤ w := (Nat.le_div_iff_mul_le hpos).1 hw.ge
  have hlt : w < (c + 1) * 2 ^ (16 - k) := (Nat.div_lt_iff_lt_mul hpos).1 (Nat.lt_succ_of_le hw.le)
  have hregion : InRegion huffCode r w := ⟨hr1, by omega, by omega, by omega⟩
  have hmax := (huffCode.getD (2 * r) 0).toNat_lt
  have hword : w < 65535 := by omega
  exact ⟨hword, by rw [h.loadLen len hword hregion, hk]⟩

theorem loadHuffmanTable_len (nrcode value : List UInt8) (huffCode : List UInt16) (ht : HuffmanTable) :
    (loadHuffmanTable nrcode value huffCode ht).len = (BmcVnc.loadLen huffCode ht.len).2 := by
  rw [loadHuffmanTable]

/-- A loaded table decodes its codes when the thresholds fit them and the values are where they point. -/
theorem coded_load {nrcode value : List UInt8} {huffCode : List UInt16} {ht : HuffmanTable} (hasc : Ascending huffCode)
    (hcodes : ∀ e ∈ huffmanCodes nrcode value, 1 ≤ e.2.1 ∧ e.2.1 ≤ 16 ∧ CodeFits huffCode e.2.1 e.2.2 ∧
      (loadHuffmanTable nrcode value huffCode ht).v (wordHiLo (UInt8.ofNat e.2.1)
        (UInt16.ofNat e.2.2 - (loadHuffmanTable nrcode value huffCode ht).minorCode e.2.1).toUInt8).toNat = e.1) :
    (loadHuffmanTable nrcode value huffCode ht).Coded (huffmanCodes nrcode value) := by
  intro sym k c hmem
  obtain ⟨hk1, hk16, hfits, hv⟩ := hcodes _ hmem
  refine ⟨hk1, hk16, fun w hw => ?_, hv⟩
  rw [loadHuffmanTable_len]
  exact hasc.len_of_fits ht.len hfits hw

/-- **The luminance DC table.** -/
theorem coded_dcLuminance : htDc0.Coded (huffmanCodes stdDcLuminanceNrcodes stdDcLuminanceValues) :=
  coded_load (by decide +kernel) (by decide +kernel)

/-- **The chrominance DC table.** -/
theorem coded_dcChrominance : htDc1.Coded (huffmanCodes stdDcChrominanceNrcodes stdDcChrominanceValues) :=
  coded_load (by decide +kernel) (by decide +kernel)

/-- **The luminance AC table.** -/
theorem coded_acLuminance : htAc0.Coded (huffmanCodes stdAcLuminanceNrcodes stdAcLuminanceValues) :=
  coded_load (by decide +kernel) (by decide +kernel)

/-- **The chrominance AC table.** -/
theorem coded_acChrominance : htAc1.Coded (huffmanCodes stdAcChrominanceNrcodes stdAcChrominanceValues) :=
  coded_load (by decide +kernel) (by decide +kernel)

end BmcVnc
