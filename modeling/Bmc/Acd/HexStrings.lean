import Bmc.Lib.HexBytes
import Bmc.Acd.BigCore

/-!
# The strings of payloads

`TorDump.c` and `BigCore.c` print the bytes of a payload from the highest one down, without the zero bytes in front.

* `hexLoop`: the loop; `torDumpString`, `jsonDataString`: its two places, with their limits;
* `hexLoop_holds`: the text, when every limit leaves room for a byte;
* `WritesNumber`: the specification; **`hexStrings_bytes`**: the strings of payloads and registers.
-/

namespace BmcAcd

open BmcLib

/-! ## The loop -/

/-- The variables of the loop: `leading`, `ptr` and the string. -/
structure HexState where
  leading : Bool
  ptr : ℕ
  buf : CBuffer

/-- One byte. `limit` is the limit of `cd_snprintf_s` at a place of the string. -/
def hexStep (limit : ℕ → ℕ) (s : HexState) (c : UInt8) : HexState :=
  if s.leading ∧ c = 0 then s else ⟨false, s.ptr + 2, s.buf.snprintf s.ptr (limit s.ptr) (hexByte c)⟩

/-- The loop, behind the `0x0` that the string starts as. -/
def hexLoop (limit : ℕ → ℕ) (buf : CBuffer) (data : List UInt8) : CBuffer :=
  (data.reverse.foldl (hexStep limit) ⟨true, 2, buf⟩).buf

/-- `TD_JSON_STRING_LEN` -/
abbrev tdJsonStringLen : ℕ := 66

/-- `torDumpJsonICXSPR`: the string of a payload that was read. `mem` is what the stack held. -/
def torDumpString (mem : ℕ → Char) (data : List UInt8) : CBuffer :=
  hexLoop (fun _ => data.length) ((⟨mem, 0⟩ : CBuffer).snprintf 0 tdJsonStringLen "0x0".toList) data

/-- `getJsonDataString`, with the string; `none` is the result -1. -/
def CrashDump.jsonDataString (d : CrashDump) (mem : ℕ → Char) (index numBytes : ℕ) : Option CBuffer :=
  let buf : CBuffer := ⟨mem, 0⟩
  if d.size < index + numBytes then none
  else if cdJsonStringLen < numBytes * 2 + sizeOf0x0 then
    some (buf.snprintf 0 cdJsonStringLen "String buffer too small".toList)
  else
    some (hexLoop (fun p => cdJsonStringLen - p) (buf.snprintf 0 cdJsonStringLen "0x0".toList)
      (slice d.data index numBytes))

/-! ## Specification -/

/-- The string is `0x` and the digits `digits`, and nothing is written outside of its `size` characters. -/
def WritesNumber (b : CBuffer) (size : ℕ) (digits : List Char) : Prop := b.Holds ("0x".toList ++ digits) ∧ b.reach ≤ size

/-! ## The text -/

section Text

variable {limit : ℕ → ℕ} {s : HexState} {data : List UInt8} {t : List Char}

/-- Zero bytes in front are skipped. -/
theorem foldl_hexStep_dropWhile (h : s.leading = true) (l : List UInt8) :
    l.foldl (hexStep limit) s = (l.dropWhile (· == 0)).foldl (hexStep limit) s := by
  induction l with
  | nil => rfl
  | cons c l ih =>
    by_cases hc : c = 0
    · subst hc
      rw [List.foldl_cons, hexStep, if_pos ⟨h, rfl⟩, ih]
      rfl
    · rw [List.dropWhile_cons_of_neg (by simpa using hc)]

/-- One byte is printed behind the text `t`. -/
theorem hexStep_holds {c : UInt8} (h : ¬ (s.leading = true ∧ c = 0)) (ht : nul ∉ t) (hptr : s.ptr = t.length)
    (hbuf : slice s.buf.cells 0 t.length = t) (hreach : s.buf.reach ≤ t.length + 3) (hlimit : 2 < limit t.length) :
    (hexStep limit s c).leading = false ∧ (hexStep limit s c).ptr = (t ++ hexByte c).length ∧
      (hexStep limit s c).buf.Holds (t ++ hexByte c) ∧ (hexStep limit s c).buf.reach ≤ (t ++ hexByte c).length + 1 := by
  have hnul : nul ∉ hexByte c := by simpa using nul_notMem_flatMap_hexByte [c]
  have hlen : (hexByte c).length < limit t.length := hlimit
  rw [hexStep, if_neg h, hptr]
  refine ⟨rfl, by rw [List.length_append]; rfl, CBuffer.holds_snprintf_append hbuf ht hlen hnul, ?_⟩
  rw [CBuffer.snprintf_of_lt hlen, List.length_append]
  show max s.buf.reach (t.length + 2 + 1) ≤ t.length + 2 + 1
  omega

/-- **The bytes behind the first one**, each printed where the text ends. -/
theorem foldl_hexStep (l : List UInt8) (h : s.leading = false) (ht : nul ∉ t) (hptr : s.ptr = t.length)
    (hbuf : s.buf.Holds t) (hreach : s.buf.reach ≤ t.length + 1)
    (hlimit : ∀ i < l.length, 2 < limit (t.length + 2 * i)) :
    (l.foldl (hexStep limit) s).buf.Holds (t ++ l.flatMap hexByte) ∧
      (l.foldl (hexStep limit) s).buf.reach ≤ t.length + 2 * l.length + 1 := by
  induction l generalizing s t with
  | nil => exact ⟨by simpa using hbuf, hreach⟩
  | cons c l ih =>
    have hne : ¬ (s.leading = true ∧ c = 0) := by simp [h]
    obtain ⟨h1, h2, h3, h4⟩ := hexStep_holds hne ht hptr hbuf.1 (by omega) (hlimit 0 (Nat.succ_pos _))
    have hlen : (t ++ hexByte c).length = t.length + 2 := by
      rw [List.length_append]
      rfl
    obtain ⟨h5, h6⟩ := ih h1 h3.2.2 h2 h3 h4 fun i hi => by
      have := hlimit (i + 1) (Nat.succ_lt_succ hi)
      rwa [hlen, show t.length + 2 + 2 * i = t.length + 2 * (i + 1) by omega]
    refine ⟨by rwa [List.flatMap_cons, ← List.append_assoc], ?_⟩
    rw [List.foldl_cons, List.length_cons]
    omega

/-- The string that the loop starts with. -/
theorem holds_start (mem : ℕ → Char) {n : ℕ} (hn : 3 < n) :
    ((⟨mem, 0⟩ : CBuffer).snprintf 0 n "0x0".toList).Holds "0x0".toList ∧
      ((⟨mem, 0⟩ : CBuffer).snprintf 0 n "0x0".toList).reach = 4 := by
  have hlen : "0x0".toList.length < n := hn
  refine ⟨CBuffer.holds_snprintf hlen (by decide), ?_⟩
  rw [CBuffer.snprintf_of_lt hlen]
  rfl

/-- The bytes that are printed: those from the highest one that is not zero down. -/
def printed (data : List UInt8) : List UInt8 := data.reverse.dropWhile (· == 0)

theorem leNat_printed (data : List UInt8) : leNat (printed data).reverse = leNat data := by
  have hzeros : ∀ l : List UInt8, leNat (l.dropWhile (· == 0)).reverse = leNat l.reverse := by
    intro l
    induction l with
    | nil => rfl
    | cons c l ih =>
      by_cases hc : c = 0
      · subst hc
        have hdrop : ((0 : UInt8) :: l).dropWhile (· == 0) = l.dropWhile (· == 0) := rfl
        rw [hdrop, ih, List.reverse_cons, leNat_append]
        simp
      · rw [List.dropWhile_cons_of_neg (by simpa using hc)]
  rw [printed, hzeros, List.reverse_reverse]

theorem printed_eq_nil_or (data : List UInt8) : printed data = [] ∨ ∃ c l, c ≠ 0 ∧ printed data = c :: l := by
  cases h : printed data with
  | nil => exact .inl rfl
  | cons c l =>
    have hc := List.head?_dropWhile_not (p := (· == 0)) data.reverse
    rw [show data.reverse.dropWhile (· == 0) = c :: l from h] at hc
    exact .inr ⟨c, l, by simpa using hc, rfl⟩

theorem length_printed_le (data : List UInt8) : (printed data).length ≤ data.length := by
  have hlen : data.reverse.length = data.length := List.length_reverse
  rw [printed, ← hlen]
  exact (List.dropWhile_suffix _).length_le

/-- The number of bytes that are printed. -/
theorem length_printed_le_of_lt {n : ℕ} (h : leNat data < 256 ^ n) : (printed data).length ≤ n := by
  rw [← leNat_printed] at h
  rcases printed_eq_nil_or data with hp | ⟨c, l, hc, hp⟩
  · rw [hp]
    exact Nat.zero_le n
  · rw [hp] at h ⊢
    have hpos : 0 < c.toNat := Nat.pos_of_ne_zero fun h0 => hc (UInt8.toNat_inj.1 h0)
    have hle : 256 ^ l.length ≤ leNat (c :: l).reverse := by
      rw [List.reverse_cons, leNat_append, List.length_reverse]
      calc 256 ^ l.length ≤ 256 ^ l.length * leNat [c] := Nat.le_mul_of_pos_right _ (by simpa using hpos)
        _ ≤ leNat l.reverse + 256 ^ l.length * leNat [c] := Nat.le_add_left _ _
    exact Nat.pow_lt_pow_iff_right (by decide) |>.1 (lt_of_le_of_lt hle h)

/-- **The string of the loop.** -/
theorem hexLoop_writes (mem : ℕ → Char) {n : ℕ} (hn : 3 < n) (data : List UInt8)
    (hlimit : ∀ i < (printed data).length, 2 < limit (2 + 2 * i)) (hsize : 2 * (printed data).length + 3 ≤ n) :
    WritesNumber (hexLoop limit ((⟨mem, 0⟩ : CBuffer).snprintf 0 n "0x0".toList) data) n (byteDigits (leNat data)) := by
  obtain ⟨hstart, hreach⟩ := holds_start mem hn
  generalize (⟨mem, 0⟩ : CBuffer).snprintf 0 n "0x0".toList = buf at hstart hreach ⊢
  have hvalue := leNat_printed data
  have hloop : hexLoop limit buf data = ((printed data).foldl (hexStep limit) ⟨true, 2, buf⟩).buf :=
    congrArg HexState.buf (foldl_hexStep_dropWhile rfl data.reverse)
  rw [hloop]
  rcases printed_eq_nil_or data with h | ⟨c, l, hc, h⟩
  · have hzero : leNat data = 0 := by rw [← hvalue, h]; rfl
    rw [h, hzero]
    exact ⟨hstart, by show buf.reach ≤ n; omega⟩
  · rw [h] at hvalue hlimit hsize ⊢
    have htext : slice buf.cells 0 "0x".toList.length = "0x".toList := by
      have htake := take_slice buf.cells 0 "0x0".toList.length 2
      rw [hstart.1] at htake
      exact htake.symm
    have hne : ¬ ((⟨true, 2, buf⟩ : HexState).leading = true ∧ c = 0) := fun h => hc h.2
    obtain ⟨h1, h2, h3, h4⟩ := hexStep_holds (s := ⟨true, 2, buf⟩) (t := "0x".toList) hne (by decide) rfl htext
      (by show buf.reach ≤ 5; omega) (hlimit 0 (Nat.succ_pos _))
    have hlen : ("0x".toList ++ hexByte c).length = 4 := rfl
    obtain ⟨h5, h6⟩ := foldl_hexStep l h1 h3.2.2 h2 h3 h4 fun i hi => by
      have := hlimit (i + 1) (Nat.succ_lt_succ hi)
      rwa [hlen, show 4 + 2 * i = 2 + 2 * (i + 1) by omega]
    rw [← hvalue, ← flatMap_hexByte hc, List.flatMap_cons, WritesNumber, ← List.append_assoc]
    refine ⟨h5, h6.trans ?_⟩
    rw [hlen]
    rw [List.length_cons] at hsize
    omega

end Text

/-! ## Payloads and registers -/

/-- **The strings of payloads and registers.** A payload of at least three bytes, whose number has at most 31 bytes, and a
register of at most 126 bytes that lies in the dump are logged as `0x` and the digits of the number, two for each byte from
the highest one that is not zero down. -/
theorem hexStrings_bytes (mem : ℕ → Char) (data : List UInt8) (d : CrashDump) (index numBytes : ℕ)
    (hlen : 3 ≤ data.length) (hvalue : leNat data < 256 ^ 31) (hindex : index + numBytes ≤ d.size)
    (hsize : numBytes ≤ 126) :
    WritesNumber (torDumpString mem data) tdJsonStringLen (byteDigits (leNat data)) ∧
      ∃ b, d.jsonDataString mem index numBytes = some b ∧
        WritesNumber b CrashDump.cdJsonStringLen (byteDigits (leNat (slice d.data index numBytes))) := by
  have hshort := length_printed_le (slice d.data index numBytes)
  rw [length_slice] at hshort
  constructor
  · have hbytes := length_printed_le_of_lt hvalue
    exact hexLoop_writes mem (by decide) data (fun _ _ => hlen) (by show 2 * _ + 3 ≤ 66; omega)
  · refine ⟨_, (if_neg (not_lt.2 hindex)).trans (if_neg ?_), ?_⟩
    · show ¬ 256 < numBytes * 2 + 3
      omega
    · refine hexLoop_writes mem (by decide) _ (fun i hi => ?_) ?_
      · show 2 < 256 - (2 + 2 * i)
        omega
      · show 2 * _ + 3 ≤ 256
        omega

/-- A payload of four bytes, and a register of four bytes. -/
theorem hexStrings_small :
    WritesNumber (torDumpString (fun _ => 'x') [5, 0, 1, 0]) tdJsonStringLen (byteDigits (leNat [5, 0, 1, 0])) ∧
      ∃ b, CrashDump.jsonDataString ⟨8, fun _ => 7, 8, 0x40, .success⟩ (fun _ => 'x') 4 4 = some b ∧
        WritesNumber b CrashDump.cdJsonStringLen (byteDigits (leNat (slice (fun _ => (7 : UInt8)) 4 4))) :=
  hexStrings_bytes (fun _ => 'x') [5, 0, 1, 0] ⟨8, fun _ => 7, 8, 0x40, .success⟩ 4 4 (by decide) (by decide) (by decide)
    (by decide)

/-- **Bytes, not digits.** The number 5 in a payload of four bytes is logged as `0x05`. -/
theorem leading_digit :
    ¬ WritesNumber (torDumpString (fun _ => 'x') [5, 0, 0, 0]) tdJsonStringLen (Nat.toDigits 16 (leNat [5, 0, 0, 0])) := by
  intro h
  have hbytes : WritesNumber (torDumpString (fun _ => 'x') [5, 0, 0, 0]) tdJsonStringLen
      (byteDigits (leNat [5, 0, 0, 0])) :=
    hexLoop_writes (fun _ => 'x') (by decide) [5, 0, 0, 0] (fun _ _ => by decide) (by decide)
  exact absurd (h.1.unique hbytes.1) (by decide)

end BmcAcd
