import Bmc.Lib.Base64
import Bmc.Lib.ByteBuffer

/-!
# Base64 with a buffer size

`CyoEncode.c` and `CyoDecode.c`, with the functions of `Encode.c` that call them.

* `base64Groups`, `encode64nChar`: the encoder, and its test of the size; `base64Groups_eq`: it is the encoding of the
  library;
* `decodeGroups64`, `decode64Binary`: the decoder; `decodeGroups64_eq`: it inverts the encoding;
* **`roundTrips64_iff`**: when the text is complete and decoded again.
-/

namespace BmcEncoding

open BmcLib

/-! ## The encoder -/

/-- A character as a byte. -/
def charByte (c : Char) : UInt8 := UInt8.ofNat c.toNat

/-- `BASE64_TABLE` of `CyoEncode.c`. -/
def base64EncodeTable : List Char :=
  ['A', 'B', 'C', 'D', 'E', 'F', 'G', 'H', 'I', 'J', 'K', 'L', 'M',
    'N', 'O', 'P', 'Q', 'R', 'S', 'T', 'U', 'V', 'W', 'X', 'Y', 'Z',
    'a', 'b', 'c', 'd', 'e', 'f', 'g', 'h', 'i', 'j', 'k', 'l', 'm',
    'n', 'o', 'p', 'q', 'r', 's', 't', 'u', 'v', 'w', 'x', 'y', 'z',
    '0', '1', '2', '3', '4', '5', '6', '7', '8', '9', '+', '/', '=']

/-- `BASE64_TABLE[n]`. -/
def base64Char (n : UInt8) : UInt8 := charByte (base64EncodeTable.getD n.toNat (Char.ofNat 0))

/-- The four outputs for a block. -/
def base64Group (n1 n2 n3 n4 : UInt8) : List UInt8 := [base64Char n1, base64Char n2, base64Char n3, base64Char n4]

/-- The outputs of `cyoBase64Encode`. The value 64 is the padding. -/
def base64Groups : List UInt8 → List UInt8
  | [] => []
  | [p0] => base64Group ((p0 &&& 0xfc) >>> 2) ((0 : UInt8) ||| (p0 &&& 0x03) <<< 4) 64 64
  | [p0, p1] =>
    base64Group ((p0 &&& 0xfc) >>> 2) ((p1 &&& 0xf0) >>> 4 ||| (p0 &&& 0x03) <<< 4) ((0 : UInt8) ||| (p1 &&& 0x0f) <<< 2) 64
  | p0 :: p1 :: p2 :: src =>
    base64Group ((p0 &&& 0xfc) >>> 2) ((p1 &&& 0xf0) >>> 4 ||| (p0 &&& 0x03) <<< 4)
      ((p2 &&& 0xc0) >>> 6 ||| (p1 &&& 0x0f) <<< 2) (p2 &&& 0x3f) ++ base64Groups src

/-- `cyoBase64Encode`: the number of characters without the terminator, and the buffer. -/
def cyoBase64Encode (dest : ByteBuffer) (src : List UInt8) : ℕ × ByteBuffer :=
  ((base64Groups src).length, dest.write 0 (base64Groups src ++ [0]))

/-- A result of `int`. -/
def int32 (x : ℤ) : ℤ := x.bmod (2 ^ 32)

/-- The size that `Encode64nChar` asks for: `4*((inlen+2)/3)`. -/
def encode64Length (inlen : ℤ) : ℤ := int32 (4 * (int32 (inlen + 2)).tdiv 3)

/-- `Encode64nChar` with the first `inlen` bytes of the string. An index before the start of the buffer is far behind it. -/
def encode64nChar (outbuf : ByteBuffer) (string : List UInt8) (outlen : ℤ) : ByteBuffer :=
  if outlen = 0 then outbuf
  else if string = [] then outbuf.write 0 [0]
  else if encode64Length string.length ≤ outlen then
    (cyoBase64Encode outbuf string).2.write ((outlen - 1) % 2 ^ 32).toNat [0]
  else outbuf

/-! ## The decoder -/

/-- `BASE64_TABLE` of `CyoDecode.c`. -/
def base64DecodeTable : List UInt8 :=
  [0xFF, 0xFF, 0xFF, 0xFF, 0xFF, 0xFF, 0xFF, 0xFF, 0xFF, 0xFF, 0xFF, 0xFF, 0xFF, 0xFF, 0xFF, 0xFF,
    0xFF, 0xFF, 0xFF, 0xFF, 0xFF, 0xFF, 0xFF, 0xFF, 0xFF, 0xFF, 0xFF, 0xFF, 0xFF, 0xFF, 0xFF, 0xFF,
    0xFF, 0xFF, 0xFF, 0xFF, 0xFF, 0xFF, 0xFF, 0xFF, 0xFF, 0xFF, 0xFF, 0x3e, 0xFF, 0xFF, 0xFF, 0x3f,
    0x34, 0x35, 0x36, 0x37, 0x38, 0x39, 0x3a, 0x3b, 0x3c, 0x3d, 0xFF, 0xFF, 0xFF, 0x40, 0xFF, 0xFF,
    0xFF, 0x00, 0x01, 0x02, 0x03, 0x04, 0x05, 0x06, 0x07, 0x08, 0x09, 0x0a, 0x0b, 0x0c, 0x0d, 0x0e,
    0x0f, 0x10, 0x11, 0x12, 0x13, 0x14, 0x15, 0x16, 0x17, 0x18, 0x19, 0xFF, 0xFF, 0xFF, 0xFF, 0xFF,
    0xFF, 0x1a, 0x1b, 0x1c, 0x1d, 0x1e, 0x1f, 0x20, 0x21, 0x22, 0x23, 0x24, 0x25, 0x26, 0x27, 0x28,
    0x29, 0x2a, 0x2b, 0x2c, 0x2d, 0x2e, 0x2f, 0x30, 0x31, 0x32, 0x33, 0xFF, 0xFF, 0xFF, 0xFF, 0xFF]

/-- `BASE64_TABLE[in]`. -/
def base64Value (c : UInt8) : UInt8 := base64DecodeTable.getD c.toNat 0xFF

/-- The loop of `cyoBase64DecodeBinary`, with `dwDestSize` and what has been written: the value that is returned, and the
bytes from `dest` on. -/
def decodeGroups64 : List UInt8 → ℕ → List UInt8 → ℕ × List UInt8
  | c1 :: c2 :: c3 :: c4 :: src, dwDestSize, dest =>
    if 0x80 ≤ c1 ∨ 0x80 ≤ c2 ∨ 0x80 ≤ c3 ∨ 0x80 ≤ c4 then (0, dest)
    else
      let in1 := base64Value c1
      let in2 := base64Value c2
      let in3 := base64Value c3
      let in4 := base64Value c4
      if 63 < in1 ∨ 63 < in2 then (0, dest)
      -- the following can be padding
      else if 64 < in3 ∨ 64 < in4 then (0, dest)
      else
        let dest := dest ++ [(in1 &&& 0x3f) <<< 2 ||| (in2 &&& 0x30) >>> 4]
        let dest := if in2 ≠ 64 ∧ in3 ≠ 64 then dest ++ [(in2 &&& 0x0f) <<< 4 ||| (in3 &&& 0x3c) >>> 2] else dest
        let dest := if in4 ≠ 64 ∧ in3 ≠ 64 then dest ++ [(in3 &&& 0x03) <<< 6 ||| (in4 &&& 0x3f)] else dest
        let dwDestSize := dwDestSize + 3
        let dwDestSize := if in4 = 64 then (if in3 = 64 then dwDestSize - 2 else dwDestSize - 1) else dwDestSize
        decodeGroups64 src dwDestSize dest
  | _, dwDestSize, dest => (dwDestSize, dest)

attribute [local grind =] base64Groups decodeGroups64

/-- `cyoBase64DecodeBinary`. -/
def cyoBase64DecodeBinary (src : List UInt8) : ℕ × List UInt8 :=
  if src.length % 4 = 0 then decodeGroups64 src 0 [] else (0, [])

/-- `Decode64Binary`. The size of the output is not looked at. -/
def decode64Binary (outbuf : ByteBuffer) (string : List UInt8) : ℕ × ByteBuffer :=
  if string = [] then (0, outbuf.write 0 [0])
  else ((cyoBase64DecodeBinary string).1, outbuf.write 0 (cyoBase64DecodeBinary string).2)

/-! ## What is to hold -/

/-- `Encode64nChar` encodes a string into a buffer of this size. -/
def Accepts64 (string : List UInt8) (outlen : ℤ) : Prop := outlen ≠ 0 ∧ encode64Length string.length ≤ outlen

/-- **The round trip.** The encoder writes inside of `outlen` bytes a complete base64 text with its terminator, from which
the decoder gets the string. -/
def RoundTrips64 (string : List UInt8) (outlen : ℤ) : Prop :=
  ∀ cells cells' : ℕ → UInt8,
    let outbuf := encode64nChar ⟨cells, 0⟩ string outlen
    let r := decode64Binary ⟨cells', 0⟩ outbuf.text
    (outbuf.reach : ℤ) ≤ outlen ∧
      slice outbuf.cells 0 ((encode64 string).length + 1) = (encode64 string).map charByte ++ [0] ∧
      r.1 = string.length ∧ slice r.2.cells 0 string.length = string

/-! ## The encoder gives the encoding -/

theorem base64EncodeTable_eq : base64EncodeTable = alphabet64 ++ ['='] := by
  rw [alphabet64_eq]
  rfl

theorem base64Char_of_toNat {n : UInt8} {k : ℕ} (h : n.toNat = k) (hk : k ≤ 64) :
    base64Char n = charByte (char64 k) := by
  have hlen := length_alphabet64
  rw [base64Char, h, base64EncodeTable_eq, List.getD_eq_getElem?_getD]
  rcases Nat.lt_or_ge k 64 with hlt | hge
  · rw [List.getElem?_append_left (by omega), List.getElem?_eq_getElem (by omega), Option.getD_some,
      char64_eq_getElem (by omega)]
  · obtain rfl : k = 64 := by omega
    rw [List.getElem?_append_right (by omega), hlen, char64_of_le le_rfl]
    rfl

theorem base64Char_padding : base64Char 64 = charByte '=' := by
  rw [base64Char_of_toNat (k := 64) rfl le_rfl, char64_of_le le_rfl]

/-- **The encoder gives the encoding.** -/
theorem base64Groups_eq (src : List UInt8) : base64Groups src = (encode64 src).map charByte := by
  induction src using base64Groups.induct with
  | case1 => rfl
  | case2 x =>
    have hx := x.toNat_lt
    have hsecond : ((0 : UInt8) ||| (x &&& 0x03) <<< 4).toNat = x.toNat % 4 * 16 := by
      rw [UInt8.or_comm, sextet_second_last]
    rw [base64Groups, base64Group, base64Char_of_toNat (sextet_high x) (by omega),
      base64Char_of_toNat hsecond (by omega), base64Char_padding]
    rfl
  | case3 x y =>
    have hx := x.toNat_lt
    have hy := y.toNat_lt
    have hsecond : ((y &&& 0xf0) >>> 4 ||| (x &&& 0x03) <<< 4).toNat = x.toNat % 4 * 16 + y.toNat / 16 := by
      rw [UInt8.or_comm, sextet_second]
    have hthird : ((0 : UInt8) ||| (y &&& 0x0f) <<< 2).toNat = y.toNat % 16 * 4 := by
      rw [UInt8.or_comm, sextet_third_last]
    rw [base64Groups, base64Group, base64Char_of_toNat (sextet_high x) (by omega),
      base64Char_of_toNat hsecond (by omega), base64Char_of_toNat hthird (by omega), base64Char_padding]
    rfl
  | case4 x y z src ih =>
    have hx := x.toNat_lt
    have hy := y.toNat_lt
    have hz := z.toNat_lt
    have hsecond : ((y &&& 0xf0) >>> 4 ||| (x &&& 0x03) <<< 4).toNat = x.toNat % 4 * 16 + y.toNat / 16 := by
      rw [UInt8.or_comm, sextet_second]
    have hthird : ((z &&& 0xc0) >>> 6 ||| (y &&& 0x0f) <<< 2).toNat = y.toNat % 16 * 4 + z.toNat / 64 := by
      rw [UInt8.or_comm, sextet_third]
    rw [base64Groups, base64Group, base64Char_of_toNat (sextet_high x) (by omega),
      base64Char_of_toNat hsecond (by omega), base64Char_of_toNat hthird (by omega),
      base64Char_of_toNat (sextet_low z) (by omega), ih]
    rfl

/-! ## The decoder inverts the encoding -/

theorem base64Value_alphabet : (alphabet64.map fun c => base64Value (charByte c)) = (List.range 64).map UInt8.ofNat := by
  rw [alphabet64_eq]
  rfl

theorem base64Value_char {n : ℕ} (hn : n < 64) : base64Value (charByte (char64 n)) = UInt8.ofNat n := by
  have hlen : n < alphabet64.length := length_alphabet64 ▸ hn
  have h := congrArg (·[n]?) base64Value_alphabet
  simp only [List.getElem?_map, List.getElem?_eq_getElem hlen, List.getElem?_range hn, Option.map_some,
    Option.some.injEq] at h
  rw [char64_eq_getElem hlen, h]

theorem toNat_base64Value {n : ℕ} (hn : n < 64) : (base64Value (charByte (char64 n))).toNat = n := by
  rw [base64Value_char hn, UInt8.toNat_ofNat', Nat.mod_eq_of_lt (by omega)]

theorem base64Value_padding : base64Value (charByte '=') = 64 := rfl

theorem all_ascii : (alphabet64.all fun c => charByte c < 0x80) = true := by
  rw [alphabet64_eq]
  rfl

theorem charByte_lt {n : ℕ} (hn : n < 64) : ¬ 0x80 ≤ charByte (char64 n) := by
  have h := List.all_eq_true.1 all_ascii _ (char64_mem hn)
  exact UInt8.not_le.2 (of_decide_eq_true h)

theorem base64Value_le {n : ℕ} (hn : n < 64) : ¬ 63 < base64Value (charByte (char64 n)) := by
  rw [UInt8.lt_iff_toNat_lt, toNat_base64Value hn]
  exact fun h => absurd hn (Nat.not_lt.2 h)

theorem base64Value_ne {n : ℕ} (hn : n < 64) : base64Value (charByte (char64 n)) ≠ 64 := by
  rw [Ne, ← UInt8.toNat_inj, toNat_base64Value hn]
  exact fun h => absurd hn (Nat.not_lt.2 h.ge)

section Bytes

variable (a b : UInt8)

theorem toNat_first : ((a &&& 0x3f) <<< 2 ||| (b &&& 0x30) >>> 4).toNat = a.toNat % 64 * 4 + b.toNat / 16 % 4 := by
  have ha : ((a &&& 0x3f) <<< 2).toNat = 2 ^ 2 * (a.toNat % 2 ^ 6) := toNat_low_shiftLeft a rfl rfl (by decide)
  have hb : ((b &&& 0x30) >>> 4).toNat = b.toNat / 2 ^ 4 % 2 ^ 2 := toNat_and_high b rfl rfl
  rw [toNat_or_of_parts ha hb (Nat.mod_lt _ (by decide))]
  omega

theorem toNat_second : ((a &&& 0x0f) <<< 4 ||| (b &&& 0x3c) >>> 2).toNat = a.toNat % 16 * 16 + b.toNat / 4 % 16 := by
  have ha : ((a &&& 0x0f) <<< 4).toNat = 2 ^ 4 * (a.toNat % 2 ^ 4) := toNat_low_shiftLeft a rfl rfl (by decide)
  have hb : ((b &&& 0x3c) >>> 2).toNat = b.toNat / 2 ^ 2 % 2 ^ 4 := toNat_and_high b rfl rfl
  rw [toNat_or_of_parts ha hb (Nat.mod_lt _ (by decide))]
  omega

theorem toNat_third : ((a &&& 0x03) <<< 6 ||| (b &&& 0x3f)).toNat = a.toNat % 4 * 64 + b.toNat % 64 := by
  have ha : ((a &&& 0x03) <<< 6).toNat = 2 ^ 6 * (a.toNat % 2 ^ 2) := toNat_low_shiftLeft a rfl rfl (by decide)
  have hb : (b &&& 0x3f).toNat = b.toNat % 2 ^ 6 := toNat_and_low b rfl
  rw [toNat_or_of_parts ha hb (Nat.mod_lt _ (by decide))]
  omega

end Bytes

section Groups

variable {v1 v2 v3 v4 : ℕ}

theorem firstByte_eq (h1 : v1 < 64) (h2 : v2 < 64) : (base64Value (charByte (char64 v1)) &&& 0x3f) <<< 2 |||
    (base64Value (charByte (char64 v2)) &&& 0x30) >>> 4 = UInt8.ofNat (v1 * 4 + v2 / 16) := by
  rw [← UInt8.toNat_inj, toNat_first, toNat_base64Value h1, toNat_base64Value h2, UInt8.toNat_ofNat']
  omega

theorem secondByte_eq (h2 : v2 < 64) (h3 : v3 < 64) : (base64Value (charByte (char64 v2)) &&& 0x0f) <<< 4 |||
    (base64Value (charByte (char64 v3)) &&& 0x3c) >>> 2 = UInt8.ofNat (v2 % 16 * 16 + v3 / 4) := by
  rw [← UInt8.toNat_inj, toNat_second, toNat_base64Value h2, toNat_base64Value h3, UInt8.toNat_ofNat']
  omega

theorem thirdByte_eq (h3 : v3 < 64) (h4 : v4 < 64) : (base64Value (charByte (char64 v3)) &&& 0x03) <<< 6 |||
    (base64Value (charByte (char64 v4)) &&& 0x3f) = UInt8.ofNat (v3 % 4 * 64 + v4) := by
  rw [← UInt8.toNat_inj, toNat_third, toNat_base64Value h3, toNat_base64Value h4, UInt8.toNat_ofNat']
  omega

theorem base64Value_le' {n : ℕ} (hn : n < 64) : ¬ 64 < base64Value (charByte (char64 n)) :=
  fun h => base64Value_le hn (UInt8.lt_trans (show (63 : UInt8) < 64 by decide) h)

theorem padding_lt : ¬ 0x80 ≤ charByte '=' := by decide

variable (h1 : v1 < 64) (h2 : v2 < 64) (src dest : List UInt8) (size : ℕ)

include h1 h2

/-- A group without padding. -/
theorem decodeGroups64_full (h3 : v3 < 64) (h4 : v4 < 64) :
    decodeGroups64 (charByte (char64 v1) :: charByte (char64 v2) :: charByte (char64 v3) :: charByte (char64 v4) :: src)
      size dest =
    decodeGroups64 src (size + 3)
      (dest ++ [UInt8.ofNat (v1 * 4 + v2 / 16), UInt8.ofNat (v2 % 16 * 16 + v3 / 4), UInt8.ofNat (v3 % 4 * 64 + v4)]) := by
  simp only [decodeGroups64, charByte_lt h1, charByte_lt h2, charByte_lt h3, charByte_lt h4, base64Value_le h1,
    base64Value_le h2, base64Value_le' h3, base64Value_le' h4, or_self, if_false, ne_eq, base64Value_ne h2,
    base64Value_ne h3, base64Value_ne h4, not_false_eq_true, and_self, if_true, firstByte_eq h1 h2, secondByte_eq h2 h3,
    thirdByte_eq h3 h4, List.append_assoc, List.cons_append, List.nil_append]

/-- A group with one character of padding. -/
theorem decodeGroups64_one (h3 : v3 < 64) :
    decodeGroups64 (charByte (char64 v1) :: charByte (char64 v2) :: charByte (char64 v3) :: charByte '=' :: src) size dest =
    decodeGroups64 src (size + 2)
      (dest ++ [UInt8.ofNat (v1 * 4 + v2 / 16), UInt8.ofNat (v2 % 16 * 16 + v3 / 4)]) := by
  simp only [decodeGroups64, charByte_lt h1, charByte_lt h2, charByte_lt h3, padding_lt, base64Value_le h1,
    base64Value_le h2, base64Value_le' h3, base64Value_padding, or_self, if_false, ne_eq, base64Value_ne h2,
    base64Value_ne h3, not_false_eq_true, not_true, false_and, and_self, if_true, firstByte_eq h1 h2, secondByte_eq h2 h3,
    List.append_assoc, List.cons_append, List.nil_append]
  rfl

/-- A group with two characters of padding. -/
theorem decodeGroups64_two :
    decodeGroups64 (charByte (char64 v1) :: charByte (char64 v2) :: charByte '=' :: charByte '=' :: src) size dest =
    decodeGroups64 src (size + 1) (dest ++ [UInt8.ofNat (v1 * 4 + v2 / 16)]) := by
  simp only [decodeGroups64, charByte_lt h1, charByte_lt h2, padding_lt, base64Value_le h1, base64Value_le h2,
    base64Value_padding, or_self, if_false, ne_eq, not_true, and_false, and_self, if_true,
    firstByte_eq h1 h2]
  rfl

end Groups

/-- **The decoder inverts the encoding.** -/
theorem decodeGroups64_eq (l dest : List UInt8) (size : ℕ) :
    decodeGroups64 ((encode64 l).map charByte) size dest = (size + l.length, dest ++ l) := by
  have hbyte (x : UInt8) (n : ℕ) (h : n = x.toNat) : UInt8.ofNat n = x := by
    rw [h, UInt8.ofNat_toNat]
  induction l using encode64.induct generalizing size dest with
  | case1 => simp [encode64, decodeGroups64]
  | case2 x =>
    have hx := x.toNat_lt
    simp only [encode64, List.map_cons, List.map_nil]
    rw [decodeGroups64_two (by omega) (by omega), hbyte x _ (by omega), decodeGroups64]
    · rfl
    · rintro c1 c2 c3 c4 src ⟨⟩
  | case3 x y =>
    have hx := x.toNat_lt
    have hy := y.toNat_lt
    simp only [encode64, List.map_cons, List.map_nil]
    rw [decodeGroups64_one (by omega) (by omega) _ _ _ (by omega), hbyte x _ (by omega), hbyte y _ (by omega),
      decodeGroups64]
    · rfl
    · rintro c1 c2 c3 c4 src ⟨⟩
  | case4 x y z l ih =>
    have hx := x.toNat_lt
    have hy := y.toNat_lt
    have hz := z.toNat_lt
    simp only [encode64, List.map_cons]
    rw [decodeGroups64_full (by omega) (by omega) _ _ _ (by omega) (by omega), hbyte x _ (by omega),
      hbyte y _ (by omega), hbyte z _ (by omega), ih]
    refine Prod.ext ?_ (by simp)
    show size + 3 + l.length = size + (l.length + 1 + 1 + 1)
    omega

/-! ## The wrappers -/

variable {string : List UInt8} {outlen : ℤ}

theorem zero_notMem_encode64 (l : List UInt8) : (0 : UInt8) ∉ (encode64 l).map charByte := by
  have hchar : ∀ n, charByte (char64 n) ≠ 0 := by
    intro n
    rcases Nat.lt_or_ge n 64 with h | h
    · intro h0
      have hall : (alphabet64.all fun c => charByte c ≠ 0) = true := by
        rw [alphabet64_eq]
        rfl
      exact of_decide_eq_true (List.all_eq_true.1 hall _ (char64_mem h)) h0
    · rw [char64_of_le h]
      decide
  have hpadding : charByte '=' ≠ 0 := by decide
  induction l using encode64.induct with
  | case1 => exact List.not_mem_nil
  | case2 x => simp [encode64, (hchar _).symm, hpadding.symm]
  | case3 x y => simp [encode64, (hchar _).symm, hpadding.symm]
  | case4 x y z l ih => simp [encode64, (hchar _).symm, ih]

theorem encode64_ne_nil (h : string ≠ []) : encode64 string ≠ [] := by
  have hlen := length_encode64 string
  have hpos := List.length_pos_of_ne_nil h
  exact fun h0 => by
    rw [h0, List.length_nil] at hlen
    omega

/-- The text of a string with its terminator, of which nothing is zero but the end. -/
theorem decode64Binary_encode (h : string ≠ []) (cells : ℕ → UInt8) :
    decode64Binary ⟨cells, 0⟩ ((encode64 string).map charByte) = (string.length, ByteBuffer.write ⟨cells, 0⟩ 0 string) := by
  have hne : (encode64 string).map charByte ≠ [] := fun h0 => encode64_ne_nil h (List.map_eq_nil_iff.1 h0)
  have hmod : ((encode64 string).map charByte).length % 4 = 0 := by
    rw [List.length_map, length_encode64, Nat.mul_mod_right]
  rw [decode64Binary, if_neg hne, cyoBase64DecodeBinary, if_pos hmod, decodeGroups64_eq, Nat.zero_add, List.nil_append]

theorem encode64nChar_of_accepts (h : string ≠ []) (hacc : Accepts64 string outlen) (b : ByteBuffer) :
    encode64nChar b string outlen =
      (b.write 0 ((encode64 string).map charByte ++ [0])).write ((outlen - 1) % 2 ^ 32).toNat [0] := by
  rw [encode64nChar, if_neg hacc.1, if_neg h, if_pos hacc.2, cyoBase64Encode, base64Groups_eq]

/-- The encoder writes the text and its terminator, whatever the size. -/
theorem length_le_reach (h : string ≠ []) (hacc : Accepts64 string outlen) (cells : ℕ → UInt8) :
    4 * ((string.length + 2) / 3) + 1 ≤ (encode64nChar ⟨cells, 0⟩ string outlen).reach := by
  rw [encode64nChar_of_accepts h hacc, ByteBuffer.reach_write (by simp), ByteBuffer.reach_write (by simp),
    List.length_append, List.length_map, length_encode64]
  simp only [List.length_singleton]
  omega

/-- **When the wrappers agree.** The buffer must have room for the terminator behind the text. -/
theorem roundTrips64_iff (string : List UInt8) (outlen : ℤ) (h : 1 ≤ string.length) (hint : outlen < 2 ^ 31)
    (hacc : Accepts64 string outlen) :
    RoundTrips64 string outlen ↔ 4 * (((string.length : ℤ) + 2) / 3) < outlen := by
  have hne : string ≠ [] := List.ne_nil_of_length_pos h
  have hlen := length_encode64 string
  constructor
  · intro htrip
    have hreach := (htrip (fun _ => 0) (fun _ => 0)).1
    have hle := length_le_reach hne hacc (fun _ => 0)
    omega
  · intro hlt cells cells'
    have hlast : ((outlen - 1) % 2 ^ 32).toNat = outlen.toNat - 1 := by omega
    have hroom : (encode64 string).length < outlen.toNat := by omega
    have htext := ByteBuffer.slice_write_terminator ⟨cells, 0⟩ ((encode64 string).map charByte)
      (show ((encode64 string).map charByte).length ≤ outlen.toNat - 1 by rw [List.length_map]; omega)
    rw [List.length_map] at htext
    dsimp only
    rw [encode64nChar_of_accepts hne hacc, hlast]
    have hreach : (((ByteBuffer.write ⟨cells, 0⟩ 0 ((encode64 string).map charByte ++ [0])).write (outlen.toNat - 1)
        [0]).reach) = outlen.toNat := by
      rw [ByteBuffer.reach_write (by simp), ByteBuffer.reach_write (by simp), List.length_append, List.length_map]
      simp only [List.length_singleton]
      omega
    have hstring := ByteBuffer.text_of_slice (b := (ByteBuffer.write ⟨cells, 0⟩ 0
      ((encode64 string).map charByte ++ [0])).write (outlen.toNat - 1) [0]) (l := (encode64 string).map charByte)
      (by rw [List.length_map]; exact htext) (zero_notMem_encode64 string) (by rw [hreach, List.length_map]; exact hroom)
    rw [hstring, decode64Binary_encode hne, hreach]
    exact ⟨by omega, htext, rfl, ByteBuffer.slice_write⟩

/-- One byte in a buffer of five. -/
theorem roundTrips64_iff_one : RoundTrips64 [0x61] 5 ↔ 4 * ((([(0x61 : UInt8)].length : ℤ) + 2) / 3) < 5 :=
  roundTrips64_iff [0x61] 5 (by decide) (by decide) ⟨by decide, by decide⟩

/-- In a buffer of four the last character is overwritten, and the terminator lies outside. -/
theorem not_roundTrips64 : ¬ ∀ (string : List UInt8) (outlen : ℤ), 1 ≤ string.length → outlen < 2 ^ 31 →
    Accepts64 string outlen → RoundTrips64 string outlen := by
  intro h
  have hacc : Accepts64 [0x61] 4 := ⟨by decide, by decide⟩
  have hreach := (h [0x61] 4 (by decide) (by decide) hacc (fun _ => 0) (fun _ => 0)).1
  have hle := length_le_reach (List.cons_ne_nil _ _) hacc (fun _ => 0)
  have hfive : 4 * (([(0x61 : UInt8)].length + 2) / 3) + 1 = 5 := rfl
  omega

end BmcEncoding
