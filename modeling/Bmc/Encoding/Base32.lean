import Bmc.Encoding.Base64

/-!
# Base32 with a temporary buffer

`CyoEncode.c` and `CyoDecode.c`, with the functions of `Encode.c` that call them.

* `base32Groups`, `encode32`: the encoder, and the terminator that cuts off the padding;
* `decodeGroups32`, `decode32`: the decoder, and the temporary buffer in which the padding is put back;
* `values32`: the values of the characters; `base32Groups_eq`, `decodeGroups32_eq`: they are written and read;
* **`roundTrips32_iff`**: when a string is decoded again.
-/

namespace BmcEncoding

open BmcLib

/-! ## The encoder -/

/-- `BASE32_TABLE` of `CyoEncode.c`. -/
def base32EncodeTable : List Char :=
  ['A', 'B', 'C', 'D', 'E', 'F', 'G', 'H', 'I', 'J', 'K', 'L', 'M',
    'N', 'O', 'P', 'Q', 'R', 'S', 'T', 'U', 'V', 'W', 'X', 'Y', 'Z',
    '2', '3', '4', '5', '6', '7', '=']

/-- `BASE32_TABLE[n]`. -/
def base32Char (n : ℕ) : UInt8 := charByte (base32EncodeTable.getD n (Char.ofNat 0))

/-- The eight outputs for a block. -/
def base32Group (n1 n2 n3 n4 n5 n6 n7 n8 : UInt8) : List UInt8 :=
  [base32Char n1.toNat, base32Char n2.toNat, base32Char n3.toNat, base32Char n4.toNat,
    base32Char n5.toNat, base32Char n6.toNat, base32Char n7.toNat, base32Char n8.toNat]

/-- The outputs of `cyoBase32Encode`. The value 32 is the padding. -/
def base32Groups : List UInt8 → List UInt8
  | [] => []
  | [p0] => base32Group ((p0 &&& 0xf8) >>> 3) ((0 : UInt8) ||| (p0 &&& 0x07) <<< 2) 32 32 32 32 32 32
  | [p0, p1] =>
    base32Group ((p0 &&& 0xf8) >>> 3) ((p1 &&& 0xc0) >>> 6 ||| (p0 &&& 0x07) <<< 2) ((p1 &&& 0x3e) >>> 1)
      ((0 : UInt8) ||| (p1 &&& 0x01) <<< 4) 32 32 32 32
  | [p0, p1, p2] =>
    base32Group ((p0 &&& 0xf8) >>> 3) ((p1 &&& 0xc0) >>> 6 ||| (p0 &&& 0x07) <<< 2) ((p1 &&& 0x3e) >>> 1)
      ((p2 &&& 0xf0) >>> 4 ||| (p1 &&& 0x01) <<< 4) ((0 : UInt8) ||| (p2 &&& 0x0f) <<< 1) 32 32 32
  | [p0, p1, p2, p3] =>
    base32Group ((p0 &&& 0xf8) >>> 3) ((p1 &&& 0xc0) >>> 6 ||| (p0 &&& 0x07) <<< 2) ((p1 &&& 0x3e) >>> 1)
      ((p2 &&& 0xf0) >>> 4 ||| (p1 &&& 0x01) <<< 4) ((p3 &&& 0x80) >>> 7 ||| (p2 &&& 0x0f) <<< 1)
      ((p3 &&& 0x7c) >>> 2) ((0 : UInt8) ||| (p3 &&& 0x03) <<< 3) 32
  | p0 :: p1 :: p2 :: p3 :: p4 :: src =>
    base32Group ((p0 &&& 0xf8) >>> 3) ((p1 &&& 0xc0) >>> 6 ||| (p0 &&& 0x07) <<< 2) ((p1 &&& 0x3e) >>> 1)
      ((p2 &&& 0xf0) >>> 4 ||| (p1 &&& 0x01) <<< 4) ((p3 &&& 0x80) >>> 7 ||| (p2 &&& 0x0f) <<< 1)
      ((p3 &&& 0x7c) >>> 2) ((p4 &&& 0xe0) >>> 5 ||| (p3 &&& 0x03) <<< 3) (p4 &&& 0x1f) ++ base32Groups src

/-- `GetEncode32Length`. -/
def getEncode32Length (bytes : ℤ) : ℕ :=
  let bits := int32 (bytes * 8)
  let length := bits.tdiv 5
  ((if 0 < bits.tmod 5 then length + 1 else length) % 2 ^ 32).toNat

/-- `Encode32`: the value that is returned, and the buffer. -/
def encode32 (out : ByteBuffer) (input : List UInt8) : ℤ × ByteBuffer :=
  if input = [] then (0, out.write 0 [0])
  else
    (int32 (base32Groups input).length,
      (out.write 0 (base32Groups input ++ [0])).write (getEncode32Length input.length) [0])

/-! ## The decoder -/

/-- `BASE32_TABLE` of `CyoDecode.c`. -/
def base32DecodeTable : List UInt8 :=
  [0xFF, 0xFF, 0xFF, 0xFF, 0xFF, 0xFF, 0xFF, 0xFF, 0xFF, 0xFF, 0xFF, 0xFF, 0xFF, 0xFF, 0xFF, 0xFF,
    0xFF, 0xFF, 0xFF, 0xFF, 0xFF, 0xFF, 0xFF, 0xFF, 0xFF, 0xFF, 0xFF, 0xFF, 0xFF, 0xFF, 0xFF, 0xFF,
    0xFF, 0xFF, 0xFF, 0xFF, 0xFF, 0xFF, 0xFF, 0xFF, 0xFF, 0xFF, 0xFF, 0xFF, 0xFF, 0xFF, 0xFF, 0xFF,
    0xFF, 0xFF, 0x1a, 0x1b, 0x1c, 0x1d, 0x1e, 0x1f, 0xFF, 0xFF, 0xFF, 0xFF, 0xFF, 0x20, 0xFF, 0xFF,
    0xFF, 0x00, 0x01, 0x02, 0x03, 0x04, 0x05, 0x06, 0x07, 0x08, 0x09, 0x0a, 0x0b, 0x0c, 0x0d, 0x0e,
    0x0f, 0x10, 0x11, 0x12, 0x13, 0x14, 0x15, 0x16, 0x17, 0x18, 0x19, 0xFF, 0xFF, 0xFF, 0xFF, 0xFF,
    0xFF, 0x00, 0x01, 0x02, 0x03, 0x04, 0x05, 0x06, 0x07, 0x08, 0x09, 0x0a, 0x0b, 0x0c, 0x0d, 0x0e,
    0x0f, 0x10, 0x11, 0x12, 0x13, 0x14, 0x15, 0x16, 0x17, 0x18, 0x19, 0xFF, 0xFF, 0xFF, 0xFF, 0xFF]

/-- `BASE32_TABLE[in]`. -/
def base32Value (c : UInt8) : UInt8 := base32DecodeTable.getD c.toNat 0xFF

/-- The loop of `cyoBase32Decode`, with `dwDestSize` and what has been written: the value that is returned, and the bytes
from `dest` on. When an assertion fails there is none. -/
def decodeGroups32 : List UInt8 → ℕ → List UInt8 → Option (ℕ × List UInt8)
  | c1 :: c2 :: c3 :: c4 :: c5 :: c6 :: c7 :: c8 :: src, dwDestSize, dest =>
    if 0x80 ≤ c1 ∨ 0x80 ≤ c2 ∨ 0x80 ≤ c3 ∨ 0x80 ≤ c4 ∨ 0x80 ≤ c5 ∨ 0x80 ≤ c6 ∨ 0x80 ≤ c7 ∨ 0x80 ≤ c8 then some (0, dest)
    else
      let in1 := base32Value c1
      let in2 := base32Value c2
      let in3 := base32Value c3
      let in4 := base32Value c4
      let in5 := base32Value c5
      let in6 := base32Value c6
      let in7 := base32Value c7
      let in8 := base32Value c8
      if 31 < in1 ∨ 31 < in2 then some (0, dest)
      -- the following can be padding
      else if 32 < in3 ∨ 32 < in4 ∨ 32 < in5 ∨ 32 < in6 ∨ 32 < in7 ∨ 32 < in8 then some (0, dest)
      else
        let dest := dest ++
          [(in1 &&& 0x1f) <<< 3 ||| (in2 &&& 0x1c) >>> 2,
            (in2 &&& 0x03) <<< 6 ||| (in3 &&& 0x1f) <<< 1 ||| (in4 &&& 0x10) >>> 4,
            (in4 &&& 0x0f) <<< 4 ||| (in5 &&& 0x1e) >>> 1,
            (in5 &&& 0x01) <<< 7 ||| (in6 &&& 0x1f) <<< 2 ||| (in7 &&& 0x18) >>> 3,
            (in7 &&& 0x07) <<< 5 ||| (in8 &&& 0x1f)]
        if in8 ≠ 32 then decodeGroups32 src (dwDestSize + 5) dest
        else if ¬ (in7 = 32 ∧ in6 = 32 ∨ in7 ≠ 32) then none
        else if in6 ≠ 32 then decodeGroups32 src (dwDestSize + 4) dest
        else if in5 ≠ 32 then decodeGroups32 src (dwDestSize + 3) dest
        else if ¬ (in4 = 32 ∧ in3 = 32 ∨ in4 ≠ 32) then none
        else if in3 ≠ 32 then decodeGroups32 src (dwDestSize + 2) dest
        else decodeGroups32 src (dwDestSize + 1) dest
  | _, dwDestSize, dest => some (dwDestSize, dest ++ [0])

attribute [local grind =] base32Groups decodeGroups32

/-- `MAX_BUF_SIZE`. -/
abbrev maxBufSize : ℕ := 256

/-- `REQ_TEMP_BUFF_SIZE`. -/
def reqTempBuffSize (n : ℕ) : ℕ := if n % 8 ≠ 0 then n + (8 - n % 8) else n

/-- What `Decode32` does: the value that it returns, its temporary buffer, and the output. -/
structure Decoded32 where
  code : ℕ
  temp : ByteBuffer
  out : ByteBuffer

/-- `temp_in` when it is decoded. -/
def tempIn (input : List UInt8) : ByteBuffer :=
  let tempLen := reqTempBuffSize input.length
  ((ByteBuffer.write ⟨fun _ => 0, 0⟩ 0 (List.replicate tempLen 0)).write 0 input).write input.length
    (List.replicate (tempLen - input.length) (charByte '='))

/-- `Decode32`. -/
def decode32 (out : ByteBuffer) (input : List UInt8) : Option Decoded32 :=
  if input = [] then some ⟨1, ⟨fun _ => 0, 0⟩, out.write 0 [0]⟩
  else
    let temp := tempIn input
    (decodeGroups32 (slice temp.cells 0 (reqTempBuffSize input.length)) 0 []).map fun r =>
      ⟨r.1, temp, out.write 0 r.2⟩

/-! ## What is to hold -/

/-- **The round trip.** The decoder gets a string from its text without padding, and nothing is written outside of the
outputs and of the temporary buffer. -/
def RoundTrips32 (x : List UInt8) : Prop :=
  ∀ cells cells' : ℕ → UInt8,
    let out := (encode32 ⟨cells, 0⟩ x).2
    out.reach ≤ 8 * ((x.length + 4) / 5) + 1 ∧
      ∃ d, decode32 ⟨cells', 0⟩ out.text = some d ∧ d.code = x.length ∧ slice d.out.cells 0 x.length = x ∧
        d.temp.reach ≤ maxBufSize ∧ d.out.reach ≤ 5 * ((out.text.length + 7) / 8) + 1

/-! ## The values of the characters -/

/-- The values of the characters for five bytes. -/
def group32 (a b c d e : UInt8) : List ℕ :=
  [a.toNat / 8, a.toNat % 8 * 4 + b.toNat / 64, b.toNat / 2 % 32, b.toNat % 2 * 16 + c.toNat / 16,
    c.toNat % 16 * 2 + d.toNat / 128, d.toNat / 4 % 32, d.toNat % 4 * 8 + e.toNat / 32, e.toNat % 32]

/-- The values of the characters for a list of bytes: five bits each, and 32 for the padding. -/
def values32 : List UInt8 → List ℕ
  | [] => []
  | [a] => [a.toNat / 8, a.toNat % 8 * 4, 32, 32, 32, 32, 32, 32]
  | [a, b] => [a.toNat / 8, a.toNat % 8 * 4 + b.toNat / 64, b.toNat / 2 % 32, b.toNat % 2 * 16, 32, 32, 32, 32]
  | [a, b, c] =>
    [a.toNat / 8, a.toNat % 8 * 4 + b.toNat / 64, b.toNat / 2 % 32, b.toNat % 2 * 16 + c.toNat / 16,
      c.toNat % 16 * 2, 32, 32, 32]
  | [a, b, c, d] =>
    [a.toNat / 8, a.toNat % 8 * 4 + b.toNat / 64, b.toNat / 2 % 32, b.toNat % 2 * 16 + c.toNat / 16,
      c.toNat % 16 * 2 + d.toNat / 128, d.toNat / 4 % 32, d.toNat % 4 * 8, 32]
  | a :: b :: c :: d :: e :: l => group32 a b c d e ++ values32 l

theorem length_group32 (a b c d e : UInt8) : (group32 a b c d e).length = 8 := rfl

section Quintets

variable (x y : UInt8)

theorem quintet_first : ((x &&& 0xf8) >>> 3).toNat = x.toNat / 8 := by
  have h : ((x &&& 0xf8) >>> 3).toNat = x.toNat / 2 ^ 3 % 2 ^ 5 := toNat_and_high x rfl rfl
  have hlt := x.toNat_lt
  omega

theorem quintet_second : ((y &&& 0xc0) >>> 6 ||| (x &&& 0x07) <<< 2).toNat = x.toNat % 8 * 4 + y.toNat / 64 := by
  have hx : ((x &&& 0x07) <<< 2).toNat = 2 ^ 2 * (x.toNat % 2 ^ 3) := toNat_low_shiftLeft x rfl rfl (by decide)
  have hy : ((y &&& 0xc0) >>> 6).toNat = y.toNat / 2 ^ 6 % 2 ^ 2 := toNat_and_high y rfl rfl
  have hlt := y.toNat_lt
  rw [UInt8.or_comm, toNat_or_of_parts hx hy (Nat.mod_lt _ (by decide))]
  omega

theorem quintet_third : ((y &&& 0x3e) >>> 1).toNat = y.toNat / 2 % 32 := toNat_and_high y (i := 1) (j := 5) rfl rfl

theorem quintet_fourth : ((y &&& 0xf0) >>> 4 ||| (x &&& 0x01) <<< 4).toNat = x.toNat % 2 * 16 + y.toNat / 16 := by
  have hx : ((x &&& 0x01) <<< 4).toNat = 2 ^ 4 * (x.toNat % 2 ^ 1) := toNat_low_shiftLeft x rfl rfl (by decide)
  have hy : ((y &&& 0xf0) >>> 4).toNat = y.toNat / 2 ^ 4 % 2 ^ 4 := toNat_and_high y rfl rfl
  have hlt := y.toNat_lt
  rw [UInt8.or_comm, toNat_or_of_parts hx hy (Nat.mod_lt _ (by decide))]
  omega

theorem quintet_fifth : ((y &&& 0x80) >>> 7 ||| (x &&& 0x0f) <<< 1).toNat = x.toNat % 16 * 2 + y.toNat / 128 := by
  have hx : ((x &&& 0x0f) <<< 1).toNat = 2 ^ 1 * (x.toNat % 2 ^ 4) := toNat_low_shiftLeft x rfl rfl (by decide)
  have hy : ((y &&& 0x80) >>> 7).toNat = y.toNat / 2 ^ 7 % 2 ^ 1 := toNat_and_high y rfl rfl
  have hlt := y.toNat_lt
  rw [UInt8.or_comm, toNat_or_of_parts hx hy (Nat.mod_lt _ (by decide))]
  omega

theorem quintet_sixth : ((y &&& 0x7c) >>> 2).toNat = y.toNat / 4 % 32 := toNat_and_high y (i := 2) (j := 5) rfl rfl

theorem quintet_seventh : ((y &&& 0xe0) >>> 5 ||| (x &&& 0x03) <<< 3).toNat = x.toNat % 4 * 8 + y.toNat / 32 := by
  have hx : ((x &&& 0x03) <<< 3).toNat = 2 ^ 3 * (x.toNat % 2 ^ 2) := toNat_low_shiftLeft x rfl rfl (by decide)
  have hy : ((y &&& 0xe0) >>> 5).toNat = y.toNat / 2 ^ 5 % 2 ^ 3 := toNat_and_high y rfl rfl
  have hlt := y.toNat_lt
  rw [UInt8.or_comm, toNat_or_of_parts hx hy (Nat.mod_lt _ (by decide))]
  omega

theorem quintet_eighth : (y &&& 0x1f).toNat = y.toNat % 32 := toNat_and_low y (i := 5) rfl

/-- The last value of a block with fewer bytes: nothing is put below its bits. -/
theorem quintet_last {m k : UInt8} {i j : ℕ} (hm : m.toNat = 2 ^ i - 1) (hk : k.toNat % 8 = j) (hij : i + j ≤ 8) :
    ((0 : UInt8) ||| (x &&& m) <<< k).toNat = x.toNat % 2 ^ i * 2 ^ j := by
  rw [UInt8.zero_or, toNat_low_shiftLeft x hm hk hij, Nat.mul_comm]

end Quintets

/-- **The encoder writes the characters of the values.** -/
theorem base32Groups_eq (src : List UInt8) : base32Groups src = (values32 src).map base32Char := by
  induction src using base32Groups.induct with
  | case1 => rfl
  | case2 a =>
    simp only [base32Groups, base32Group, values32, quintet_first]
    rw [quintet_last a (i := 3) (j := 2) rfl rfl (by decide)]
    rfl
  | case3 a b =>
    simp only [base32Groups, base32Group, values32, quintet_first, quintet_second, quintet_third]
    rw [quintet_last b (i := 1) (j := 4) rfl rfl (by decide)]
    rfl
  | case4 a b c =>
    simp only [base32Groups, base32Group, values32, quintet_first, quintet_second, quintet_third, quintet_fourth]
    rw [quintet_last c (i := 4) (j := 1) rfl rfl (by decide)]
    rfl
  | case5 a b c d =>
    simp only [base32Groups, base32Group, values32, quintet_first, quintet_second, quintet_third, quintet_fourth,
      quintet_fifth, quintet_sixth]
    rw [quintet_last d (i := 2) (j := 3) rfl rfl (by decide)]
    rfl
  | case6 a b c d e src ih =>
    simp only [base32Groups, base32Group, values32, quintet_first, quintet_second, quintet_third, quintet_fourth,
      quintet_fifth, quintet_sixth, quintet_seventh, quintet_eighth, ih, List.map_append]
    rfl

/-- The number of characters, with the padding. -/
theorem length_values32 (l : List UInt8) : (values32 l).length = 8 * ((l.length + 4) / 5) := by
  induction l using values32.induct with
  | case6 a b c d e l ih =>
    simp only [values32, List.length_append, length_group32, ih, List.length_cons]
    omega
  | _ => simp [values32]

/-- **The padding** begins behind the number of characters that the bits need. -/
theorem values32_padding (l : List UInt8) : values32 l =
    (values32 l).take ((8 * l.length + 4) / 5) ++
      List.replicate (8 * ((l.length + 4) / 5) - (8 * l.length + 4) / 5) 32 := by
  induction l using values32.induct with
  | case6 a b c d e l ih =>
    have htake : (8 * (a :: b :: c :: d :: e :: l).length + 4) / 5 = 8 + (8 * l.length + 4) / 5 := by
      simp only [List.length_cons]
      omega
    have hrest : 8 * (((a :: b :: c :: d :: e :: l).length + 4) / 5) - (8 + (8 * l.length + 4) / 5) =
        8 * ((l.length + 4) / 5) - (8 * l.length + 4) / 5 := by
      simp only [List.length_cons]
      omega
    rw [htake, hrest, values32, List.take_append, List.append_assoc, List.take_of_length_le (by rw [length_group32]; omega),
      length_group32, Nat.add_sub_cancel_left, ← ih]
  | _ => simp [values32]

/-! ## The decoder reads the values -/

theorem base32Value_table : (base32EncodeTable.map fun c => base32Value (charByte c)) = (List.range 33).map UInt8.ofNat :=
  rfl

theorem base32Value_char {n : ℕ} (hn : n ≤ 32) : base32Value (base32Char n) = UInt8.ofNat n := by
  have hlen : n < base32EncodeTable.length := Nat.lt_succ_of_le hn
  have h := congrArg (·[n]?) base32Value_table
  simp only [List.getElem?_map, List.getElem?_eq_getElem hlen, List.getElem?_range (Nat.lt_succ_of_le hn), Option.map_some,
    Option.some.injEq] at h
  rw [base32Char, List.getD_eq_getElem?_getD, List.getElem?_eq_getElem hlen, Option.getD_some, h]

theorem toNat_base32Value {n : ℕ} (hn : n ≤ 32) : (base32Value (base32Char n)).toNat = n := by
  rw [base32Value_char hn, UInt8.toNat_ofNat', Nat.mod_eq_of_lt (by omega)]

theorem base32_ascii : (base32EncodeTable.all fun c => charByte c < 0x80 ∧ charByte c ≠ 0) = true := rfl

theorem base32Char_lt {n : ℕ} (hn : n ≤ 32) : ¬ 0x80 ≤ base32Char n ∧ base32Char n ≠ 0 := by
  have hlen : n < base32EncodeTable.length := Nat.lt_succ_of_le hn
  have h := of_decide_eq_true (List.all_eq_true.1 base32_ascii _ (List.getElem_mem hlen))
  rw [base32Char, List.getD_eq_getElem?_getD, List.getElem?_eq_getElem hlen, Option.getD_some]
  exact ⟨UInt8.not_le.2 h.1, h.2⟩

/-- The bytes that the decoder makes of eight values. -/
def bytes32 (v1 v2 v3 v4 v5 v6 v7 v8 : ℕ) : List UInt8 :=
  [UInt8.ofNat (v1 * 8 + v2 / 4), UInt8.ofNat (v2 % 4 * 64 + v3 % 32 * 2 + v4 / 16 % 2),
    UInt8.ofNat (v4 % 16 * 16 + v5 / 2 % 16), UInt8.ofNat (v5 % 2 * 128 + v6 % 32 * 4 + v7 / 8 % 4),
    UInt8.ofNat (v7 % 8 * 32 + v8 % 32)]

section Bytes32

variable (a b c : UInt8)

theorem toNat_byte1 : ((a &&& 0x1f) <<< 3 ||| (b &&& 0x1c) >>> 2).toNat = a.toNat % 32 * 8 + b.toNat / 4 % 8 := by
  have ha : ((a &&& 0x1f) <<< 3).toNat = 2 ^ 3 * (a.toNat % 2 ^ 5) := toNat_low_shiftLeft a rfl rfl (by decide)
  have hb : ((b &&& 0x1c) >>> 2).toNat = b.toNat / 2 ^ 2 % 2 ^ 3 := toNat_and_high b rfl rfl
  rw [toNat_or_of_parts ha hb (Nat.mod_lt _ (by decide))]
  omega

theorem toNat_byte2 : ((a &&& 0x03) <<< 6 ||| (b &&& 0x1f) <<< 1 ||| (c &&& 0x10) >>> 4).toNat =
    a.toNat % 4 * 64 + b.toNat % 32 * 2 + c.toNat / 16 % 2 := by
  have ha : ((a &&& 0x03) <<< 6).toNat = 2 ^ 6 * (a.toNat % 2 ^ 2) := toNat_low_shiftLeft a rfl rfl (by decide)
  have hb : ((b &&& 0x1f) <<< 1).toNat = 2 ^ 1 * (b.toNat % 2 ^ 5) := toNat_low_shiftLeft b rfl rfl (by decide)
  have hc : ((c &&& 0x10) >>> 4).toNat = c.toNat / 2 ^ 4 % 2 ^ 1 := toNat_and_high c rfl rfl
  have hab : ((a &&& 0x03) <<< 6 ||| (b &&& 0x1f) <<< 1).toNat = 2 ^ 1 * (a.toNat % 4 * 32 + b.toNat % 32) := by
    rw [toNat_or_of_parts ha hb (by omega)]
    omega
  rw [toNat_or_of_parts hab hc (Nat.mod_lt _ (by decide))]
  omega

theorem toNat_byte3 : ((a &&& 0x0f) <<< 4 ||| (b &&& 0x1e) >>> 1).toNat = a.toNat % 16 * 16 + b.toNat / 2 % 16 := by
  have ha : ((a &&& 0x0f) <<< 4).toNat = 2 ^ 4 * (a.toNat % 2 ^ 4) := toNat_low_shiftLeft a rfl rfl (by decide)
  have hb : ((b &&& 0x1e) >>> 1).toNat = b.toNat / 2 ^ 1 % 2 ^ 4 := toNat_and_high b rfl rfl
  rw [toNat_or_of_parts ha hb (Nat.mod_lt _ (by decide))]
  omega

theorem toNat_byte4 : ((a &&& 0x01) <<< 7 ||| (b &&& 0x1f) <<< 2 ||| (c &&& 0x18) >>> 3).toNat =
    a.toNat % 2 * 128 + b.toNat % 32 * 4 + c.toNat / 8 % 4 := by
  have ha : ((a &&& 0x01) <<< 7).toNat = 2 ^ 7 * (a.toNat % 2 ^ 1) := toNat_low_shiftLeft a rfl rfl (by decide)
  have hb : ((b &&& 0x1f) <<< 2).toNat = 2 ^ 2 * (b.toNat % 2 ^ 5) := toNat_low_shiftLeft b rfl rfl (by decide)
  have hc : ((c &&& 0x18) >>> 3).toNat = c.toNat / 2 ^ 3 % 2 ^ 2 := toNat_and_high c rfl rfl
  have hab : ((a &&& 0x01) <<< 7 ||| (b &&& 0x1f) <<< 2).toNat = 2 ^ 2 * (a.toNat % 2 * 32 + b.toNat % 32) := by
    rw [toNat_or_of_parts ha hb (by omega)]
    omega
  rw [toNat_or_of_parts hab hc (Nat.mod_lt _ (by decide))]
  omega

theorem toNat_byte5 : ((a &&& 0x07) <<< 5 ||| (b &&& 0x1f)).toNat = a.toNat % 8 * 32 + b.toNat % 32 := by
  have ha : ((a &&& 0x07) <<< 5).toNat = 2 ^ 5 * (a.toNat % 2 ^ 3) := toNat_low_shiftLeft a rfl rfl (by decide)
  have hb : (b &&& 0x1f).toNat = b.toNat % 2 ^ 5 := toNat_and_low b rfl
  rw [toNat_or_of_parts ha hb (Nat.mod_lt _ (by decide))]
  omega

end Bytes32

section Groups32

variable {v1 v2 v3 v4 v5 v6 v7 v8 : ℕ}

/-- The number of bytes that eight values stand for. -/
def count32 (v3 v5 v6 v8 : ℕ) : ℕ :=
  if v8 ≠ 32 then 5 else if v6 ≠ 32 then 4 else if v5 ≠ 32 then 3 else if v3 ≠ 32 then 2 else 1

theorem base32Value_eq_iff {n : ℕ} (hn : n ≤ 32) : base32Value (base32Char n) = 32 ↔ n = 32 := by
  rw [← UInt8.toNat_inj, toNat_base32Value hn]
  rfl

theorem base32Value_le {n : ℕ} (hn : n ≤ 32) : ¬ 32 < base32Value (base32Char n) := by
  rw [UInt8.lt_iff_toNat_lt, toNat_base32Value hn]
  exact Nat.not_lt.2 hn

theorem base32Value_lt {n : ℕ} (hn : n < 32) : ¬ 31 < base32Value (base32Char n) := by
  rw [UInt8.lt_iff_toNat_lt, toNat_base32Value hn.le]
  exact Nat.not_lt.2 (Nat.le_of_lt_succ hn)

theorem bytes32_eq (h1 : v1 < 32) (h2 : v2 < 32) (h3 : v3 ≤ 32) (h4 : v4 ≤ 32) (h5 : v5 ≤ 32) (h6 : v6 ≤ 32)
    (h7 : v7 ≤ 32) (h8 : v8 ≤ 32) :
    [(base32Value (base32Char v1) &&& 0x1f) <<< 3 ||| (base32Value (base32Char v2) &&& 0x1c) >>> 2,
      (base32Value (base32Char v2) &&& 0x03) <<< 6 ||| (base32Value (base32Char v3) &&& 0x1f) <<< 1 |||
        (base32Value (base32Char v4) &&& 0x10) >>> 4,
      (base32Value (base32Char v4) &&& 0x0f) <<< 4 ||| (base32Value (base32Char v5) &&& 0x1e) >>> 1,
      (base32Value (base32Char v5) &&& 0x01) <<< 7 ||| (base32Value (base32Char v6) &&& 0x1f) <<< 2 |||
        (base32Value (base32Char v7) &&& 0x18) >>> 3,
      (base32Value (base32Char v7) &&& 0x07) <<< 5 ||| (base32Value (base32Char v8) &&& 0x1f)] =
    bytes32 v1 v2 v3 v4 v5 v6 v7 v8 := by
  have hof : ∀ {x : UInt8} {n : ℕ}, x.toNat = n → x = UInt8.ofNat n := by
    rintro x n rfl
    exact (UInt8.ofNat_toNat).symm
  rw [hof (toNat_byte1 _ _), hof (toNat_byte2 _ _ _), hof (toNat_byte3 _ _), hof (toNat_byte4 _ _ _),
    hof (toNat_byte5 _ _), toNat_base32Value h1.le, toNat_base32Value h2.le, toNat_base32Value h3, toNat_base32Value h4,
    toNat_base32Value h5, toNat_base32Value h6, toNat_base32Value h7, toNat_base32Value h8, bytes32,
    Nat.mod_eq_of_lt h1, Nat.mod_eq_of_lt (show v2 / 4 < 8 by omega)]

/-- **A group of characters.** The values of the padding are together at the end. -/
theorem decodeGroups32_group (h1 : v1 < 32) (h2 : v2 < 32) (h3 : v3 ≤ 32) (h4 : v4 ≤ 32) (h5 : v5 ≤ 32) (h6 : v6 ≤ 32)
    (h7 : v7 ≤ 32) (h8 : v8 ≤ 32) (h67 : v8 = 32 → v7 = 32 → v6 = 32) (h34 : v6 = 32 → v5 = 32 → v4 = 32 → v3 = 32)
    (src dest : List UInt8) (size : ℕ) :
    decodeGroups32 ([v1, v2, v3, v4, v5, v6, v7, v8].map base32Char ++ src) size dest =
      decodeGroups32 src (size + count32 v3 v5 v6 v8) (dest ++ bytes32 v1 v2 v3 v4 v5 v6 v7 v8) := by
  simp only [List.map_cons, List.map_nil, List.cons_append, List.nil_append, decodeGroups32, (base32Char_lt h1.le).1,
    (base32Char_lt h2.le).1, (base32Char_lt h3).1, (base32Char_lt h4).1, (base32Char_lt h5).1, (base32Char_lt h6).1,
    (base32Char_lt h7).1, (base32Char_lt h8).1, base32Value_lt h1, base32Value_lt h2, base32Value_le h3,
    base32Value_le h4, base32Value_le h5, base32Value_le h6, base32Value_le h7, base32Value_le h8, or_self, if_false,
    bytes32_eq h1 h2 h3 h4 h5 h6 h7 h8, ne_eq, base32Value_eq_iff h3, base32Value_eq_iff h4, base32Value_eq_iff h5,
    base32Value_eq_iff h6, base32Value_eq_iff h7, base32Value_eq_iff h8, count32]
  split_ifs <;> first | rfl | omega

end Groups32

theorem decodeGroups32_nil (dest : List UInt8) (size : ℕ) : decodeGroups32 [] size dest = some (size, dest ++ [0]) := rfl

/-- The group of a block that is shorter. -/
theorem decodeGroups32_last {l : List UInt8} {v1 v2 v3 v4 v5 v6 v7 v8 : ℕ} (hl : l.length < 5)
    (hv : values32 l = [v1, v2, v3, v4, v5, v6, v7, v8]) (h1 : v1 < 32) (h2 : v2 < 32) (h3 : v3 ≤ 32) (h4 : v4 ≤ 32)
    (h5 : v5 ≤ 32) (h6 : v6 ≤ 32) (h7 : v7 ≤ 32) (h8 : v8 ≤ 32) (h67 : v8 = 32 → v7 = 32 → v6 = 32)
    (h34 : v6 = 32 → v5 = 32 → v4 = 32 → v3 = 32) (hcount : count32 v3 v5 v6 v8 = l.length)
    (hbytes : bytes32 v1 v2 v3 v4 v5 v6 v7 v8 = l ++ List.replicate (5 - l.length) 0) (dest : List UInt8) (size : ℕ) :
    decodeGroups32 ((values32 l).map base32Char) size dest =
      some (size + l.length, dest ++ (l ++ List.replicate (5 * ((l.length + 4) / 5) - l.length + 1) 0)) := by
  have hpos : 1 ≤ l.length := by
    rw [← hcount, count32]
    split_ifs <;> omega
  have hgroup : 5 * ((l.length + 4) / 5) = 5 := by omega
  rw [hv, ← List.append_nil (List.map _ _), decodeGroups32_group h1 h2 h3 h4 h5 h6 h7 h8 h67 h34, decodeGroups32_nil, hcount,
    hbytes, hgroup, List.replicate_succ', List.append_assoc, List.append_assoc]

/-- **The decoder inverts the encoding.** It writes whole groups, with zeros behind the bytes, and a terminator. -/
theorem decodeGroups32_eq (l dest : List UInt8) (size : ℕ) :
    decodeGroups32 ((values32 l).map base32Char) size dest =
      some (size + l.length, dest ++ (l ++ List.replicate (5 * ((l.length + 4) / 5) - l.length + 1) 0)) := by
  have hbyte : ∀ (x : UInt8) (n : ℕ), n = x.toNat → UInt8.ofNat n = x := by
    rintro x n rfl
    exact UInt8.ofNat_toNat
  have hzero : ∀ n, n = 0 → UInt8.ofNat n = 0 := by
    rintro n rfl
    rfl
  induction l using values32.induct generalizing size dest with
  | case1 => rfl
  | case2 a =>
    have ha := a.toNat_lt
    refine decodeGroups32_last (by simp) rfl (by omega) (by omega) le_rfl le_rfl le_rfl le_rfl le_rfl le_rfl (by omega)
      (by omega) rfl ?_ dest size
    rw [bytes32, hbyte a _ (by omega), hzero _ (by omega)]
    rfl
  | case3 a b =>
    have ha := a.toNat_lt
    have hb := b.toNat_lt
    refine decodeGroups32_last (by simp) rfl (by omega) (by omega) (by omega) (by omega) le_rfl le_rfl le_rfl le_rfl
      (by omega) (by omega) ?_ ?_ dest size
    · rw [count32, if_neg (by decide), if_neg (by decide), if_neg (by decide), if_pos (by omega)]
      rfl
    · rw [bytes32, hbyte a _ (by omega), hbyte b _ (by omega), hzero _ (by omega)]
      rfl
  | case4 a b c =>
    have ha := a.toNat_lt
    have hb := b.toNat_lt
    have hc := c.toNat_lt
    refine decodeGroups32_last (by simp) rfl (by omega) (by omega) (by omega) (by omega) (by omega) le_rfl le_rfl le_rfl
      (by omega) (by omega) ?_ ?_ dest size
    · rw [count32, if_neg (by decide), if_neg (by decide), if_pos (by omega)]
      rfl
    · rw [bytes32, hbyte a _ (by omega), hbyte b _ (by omega), hbyte c _ (by omega), hzero _ (by omega)]
      rfl
  | case5 a b c d =>
    have ha := a.toNat_lt
    have hb := b.toNat_lt
    have hc := c.toNat_lt
    have hd := d.toNat_lt
    refine decodeGroups32_last (by simp) rfl (by omega) (by omega) (by omega) (by omega) (by omega) (by omega) (by omega)
      le_rfl (by omega) (by omega) ?_ ?_ dest size
    · rw [count32, if_neg (by decide), if_pos (by omega)]
      rfl
    · rw [bytes32, hbyte a _ (by omega), hbyte b _ (by omega), hbyte c _ (by omega), hbyte d _ (by omega),
        hzero _ (by omega)]
      rfl
  | case6 a b c d e l ih =>
    have ha := a.toNat_lt
    have hb := b.toNat_lt
    have hc := c.toNat_lt
    have hd := d.toNat_lt
    have he := e.toNat_lt
    have hcount : ∀ v3 v5 v6, count32 v3 v5 v6 (e.toNat % 32) = 5 := by
      intro v3 v5 v6
      rw [count32, if_pos (by omega)]
    have hlen : 5 * (((a :: b :: c :: d :: e :: l).length + 4) / 5) - (a :: b :: c :: d :: e :: l).length =
        5 * ((l.length + 4) / 5) - l.length := by
      simp only [List.length_cons]
      omega
    rw [values32, List.map_append, group32, decodeGroups32_group (by omega) (by omega) (by omega) (by omega) (by omega)
      (by omega) (by omega) (by omega) (by omega) (by omega), ih, hcount, bytes32, hbyte a _ (by omega),
      hbyte b _ (by omega), hbyte c _ (by omega), hbyte d _ (by omega), hbyte e _ (by omega), hlen]
    simp only [List.length_cons, List.append_assoc, List.cons_append, List.nil_append, Option.some.injEq, Prod.mk.injEq,
      and_true]
    omega

/-- Eight characters give five bytes at most. -/
theorem decodeGroups32_le {src dest : List UInt8} {size : ℕ} {r : ℕ × List UInt8}
    (h : decodeGroups32 src size dest = some r) : r.1 ≤ size + 5 * (src.length / 8) := by
  have hgroup : ∀ n, 5 * ((n + 1 + 1 + 1 + 1 + 1 + 1 + 1 + 1) / 8) = 5 + 5 * (n / 8) := by omega
  fun_induction decodeGroups32 src size dest with
  | case1 | case2 | case3 =>
    rw [Option.some.injEq] at h
    exact h ▸ Nat.zero_le _
  | case5 | case8 => cases h
  | case11 src size dest =>
    rw [Option.some.injEq] at h
    exact h ▸ Nat.le_add_right _ _
  -- a group adds five bytes at most
  | _ =>
    rename_i ih
    have hrest := ih h
    simp only [List.length_cons, hgroup]
    omega

/-! ## The wrappers -/

variable {x : List UInt8}

/-- The number of characters for a number of bits. -/
theorem length_of_bits (n : ℕ) :
    (if 0 < ((n * 8 : ℕ) : ℤ).tmod 5 then ((n * 8 : ℕ) : ℤ).tdiv 5 + 1 else ((n * 8 : ℕ) : ℤ).tdiv 5) =
      ((8 * n + 4) / 5 : ℕ) := by
  rw [Int.tdiv_eq_ediv_of_nonneg (Int.natCast_nonneg _), Int.tmod_eq_emod_of_nonneg (Int.natCast_nonneg _)]
  split_ifs with h
  · omega
  · omega

theorem getEncode32Length_eq {n : ℕ} (hn : n ≤ 160) : getEncode32Length n = (8 * n + 4) / 5 := by
  have hbits : int32 ((n : ℤ) * 8) = (n * 8 : ℕ) := by
    rw [int32, Int.bmod_eq_of_le (by omega) (by omega)]
    push_cast
    rfl
  have hlt : (8 * n + 4) / 5 < 2 ^ 32 := by omega
  rw [getEncode32Length, hbits, length_of_bits]
  exact_mod_cast Nat.mod_eq_of_lt hlt

/-- The text without its padding. -/
def text32 (x : List UInt8) : List UInt8 := ((values32 x).map base32Char).take ((8 * x.length + 4) / 5)

theorem length_text32 (x : List UInt8) : (text32 x).length = (8 * x.length + 4) / 5 := by
  rw [text32, List.length_take, List.length_map, length_values32]
  omega

theorem text32_padding (x : List UInt8) : (values32 x).map base32Char =
    text32 x ++ List.replicate (8 * ((x.length + 4) / 5) - (8 * x.length + 4) / 5) (charByte '=') := by
  have h := congrArg (List.map base32Char) (values32_padding x)
  rw [List.map_append, List.map_take, List.map_replicate] at h
  exact h

theorem values32_le (x : List UInt8) : ∀ v ∈ values32 x, v ≤ 32 := by
  induction x using values32.induct with
  | case1 => exact fun v hv => absurd hv List.not_mem_nil
  | case2 a =>
    have := a.toNat_lt
    simp only [values32, List.forall_mem_cons]
    refine ⟨?_, ?_, le_rfl, le_rfl, le_rfl, le_rfl, le_rfl, le_rfl, List.forall_mem_nil _⟩ <;> omega
  | case3 a b =>
    have := a.toNat_lt
    have := b.toNat_lt
    simp only [values32, List.forall_mem_cons]
    refine ⟨?_, ?_, ?_, ?_, le_rfl, le_rfl, le_rfl, le_rfl, List.forall_mem_nil _⟩ <;> omega
  | case4 a b c =>
    have := a.toNat_lt
    have := b.toNat_lt
    have := c.toNat_lt
    simp only [values32, List.forall_mem_cons]
    refine ⟨?_, ?_, ?_, ?_, ?_, le_rfl, le_rfl, le_rfl, List.forall_mem_nil _⟩ <;> omega
  | case5 a b c d =>
    have := a.toNat_lt
    have := b.toNat_lt
    have := c.toNat_lt
    have := d.toNat_lt
    simp only [values32, List.forall_mem_cons]
    refine ⟨?_, ?_, ?_, ?_, ?_, ?_, ?_, le_rfl, List.forall_mem_nil _⟩ <;> omega
  | case6 a b c d e l ih =>
    have := a.toNat_lt
    have := b.toNat_lt
    have := c.toNat_lt
    have := d.toNat_lt
    have := e.toNat_lt
    simp only [values32, group32, List.cons_append, List.nil_append, List.forall_mem_cons]
    refine ⟨?_, ?_, ?_, ?_, ?_, ?_, ?_, ?_, ih⟩ <;> omega

theorem zero_notMem_text32 (x : List UInt8) : 0 ∉ text32 x := by
  intro h
  obtain ⟨v, hv, h0⟩ := List.mem_map.1 (List.mem_of_mem_take h)
  exact (base32Char_lt (values32_le x v hv)).2 h0

/-- What is in the temporary buffer. -/
theorem slice_tempIn {input : List UInt8} (h : input.length ≤ reqTempBuffSize input.length) :
    slice (tempIn input).cells 0 (reqTempBuffSize input.length) =
      input ++ List.replicate (reqTempBuffSize input.length - input.length) (charByte '=') := by
  have hpad := slice_append_store ((ByteBuffer.write ⟨fun _ => 0, 0⟩ 0
    (List.replicate (reqTempBuffSize input.length) 0)).write 0 input).cells input.length
    (List.replicate (reqTempBuffSize input.length - input.length) (charByte '='))
  rw [List.length_replicate, Nat.add_sub_cancel' h] at hpad
  exact hpad.trans (congrArg (· ++ _) (slice_store_same _ 0 input))

theorem le_reqTempBuffSize (n : ℕ) : n ≤ reqTempBuffSize n := by
  rw [reqTempBuffSize]
  split_ifs <;> omega

theorem reach_tempIn {input : List UInt8} (h : input ≠ []) : (tempIn input).reach = reqTempBuffSize input.length := by
  have hle := le_reqTempBuffSize input.length
  have hpos := List.length_pos_of_ne_nil h
  rw [tempIn]
  have hne : List.replicate (reqTempBuffSize input.length) (0 : UInt8) ≠ [] := by
    rw [Ne, List.replicate_eq_nil_iff]
    omega
  have hfirst : ((ByteBuffer.write ⟨fun _ => 0, 0⟩ 0 (List.replicate (reqTempBuffSize input.length) 0)).write 0
      input).reach = reqTempBuffSize input.length := by
    rw [ByteBuffer.reach_write h, ByteBuffer.reach_write hne, List.length_replicate]
    show max (max 0 (0 + reqTempBuffSize input.length)) (0 + input.length) = reqTempBuffSize input.length
    omega
  rcases Nat.eq_zero_or_pos (reqTempBuffSize input.length - input.length) with h0 | hpos'
  · rw [h0]
    exact hfirst
  · rw [ByteBuffer.reach_write (by rw [Ne, List.replicate_eq_nil_iff]; omega), hfirst, List.length_replicate]
    omega

theorem encode32_of_ne_nil (h : x ≠ []) (hn : x.length ≤ 160) (b : ByteBuffer) :
    (encode32 b x).2 = (b.write 0 (text32 x ++ (List.replicate (8 * ((x.length + 4) / 5) - (8 * x.length + 4) / 5)
      (charByte '=') ++ [0]))).write (text32 x).length [0] := by
  rw [encode32, if_neg h]
  dsimp only
  rw [getEncode32Length_eq hn, base32Groups_eq, length_text32, ← List.append_assoc, ← text32_padding]

/-- **The encoder** leaves the text without its padding. -/
theorem encode32_spec (h : x ≠ []) (hn : x.length ≤ 160) (cells : ℕ → UInt8) :
    (encode32 ⟨cells, 0⟩ x).2.reach = 8 * ((x.length + 4) / 5) + 1 ∧ (encode32 ⟨cells, 0⟩ x).2.text = text32 x := by
  have hlen := length_text32 x
  have hreach : (encode32 ⟨cells, 0⟩ x).2.reach = 8 * ((x.length + 4) / 5) + 1 := by
    rw [encode32_of_ne_nil h hn, ByteBuffer.reach_write (by simp), ByteBuffer.reach_write (by simp)]
    simp only [List.length_append, List.length_replicate, List.length_singleton, hlen]
    omega
  refine ⟨hreach, ByteBuffer.text_of_slice ?_ (zero_notMem_text32 x) ?_⟩
  · rw [encode32_of_ne_nil h hn]
    exact ByteBuffer.slice_write_cut _ _ _
  · rw [hreach, hlen]
    omega

theorem reqTempBuffSize_text (x : List UInt8) : reqTempBuffSize (text32 x).length = 8 * ((x.length + 4) / 5) := by
  rw [length_text32, reqTempBuffSize]
  split_ifs <;> omega

/-- **The decoder** puts the padding back. -/
theorem decode32_text (h : x ≠ []) (b : ByteBuffer) : decode32 b (text32 x) =
    some ⟨x.length, tempIn (text32 x), b.write 0 (x ++ List.replicate (5 * ((x.length + 4) / 5) - x.length + 1) 0)⟩ := by
  have hlen := length_text32 x
  have hpos := List.length_pos_of_ne_nil h
  have hne : text32 x ≠ [] := List.ne_nil_of_length_pos (by omega)
  rw [decode32, if_neg hne]
  dsimp only
  rw [slice_tempIn (le_reqTempBuffSize _), reqTempBuffSize_text, hlen, ← text32_padding, decodeGroups32_eq, Nat.zero_add,
    List.nil_append]
  rfl

/-- **When a string is decoded again.** Its text must fit into the temporary buffer, and it must not be empty. -/
theorem roundTrips32_iff (x : List UInt8) : RoundTrips32 x ↔ 1 ≤ x.length ∧ x.length ≤ 160 := by
  constructor
  · intro htrip
    obtain ⟨-, d, hd, hcode, -, htemp, -⟩ := htrip (fun _ => 0) fun _ => 0
    by_cases htext : (encode32 ⟨fun _ => 0, 0⟩ x).2.text = []
    · -- an empty text gives 1
      rw [htext, decode32, if_pos rfl, Option.some.injEq] at hd
      subst hd
      have hone : x.length = 1 := hcode.symm
      omega
    · rw [decode32, if_neg htext, Option.map_eq_some_iff] at hd
      obtain ⟨r, hr, rfl⟩ := hd
      have hle := decodeGroups32_le hr
      rw [length_slice, Nat.zero_add] at hle
      have hroom : reqTempBuffSize (encode32 ⟨fun _ => 0, 0⟩ x).2.text.length ≤ 256 := reach_tempIn htext ▸ htemp
      have hcode' : r.1 = x.length := hcode
      have hpos : x ≠ [] := by
        rintro rfl
        exact htext (ByteBuffer.text_of_slice (l := []) rfl List.not_mem_nil Nat.one_pos)
      have := List.length_pos_of_ne_nil hpos
      omega
  · rintro ⟨hpos, hn⟩ cells cells'
    have hne : x ≠ [] := List.ne_nil_of_length_pos hpos
    obtain ⟨hreach, htext⟩ := encode32_spec hne hn cells
    have hlen := length_text32 x
    dsimp only
    rw [hreach, htext]
    refine ⟨le_rfl, _, decode32_text hne _, rfl, ?_, ?_, ?_⟩
    · show slice (store cells' 0 (x ++ _)) 0 x.length = x
      rw [slice_store_zero (by simp), List.take_left]
    · show (tempIn (text32 x)).reach ≤ 256
      rw [reach_tempIn (List.ne_nil_of_length_pos (by omega)), reqTempBuffSize_text]
      omega
    · rw [ByteBuffer.reach_write (by simp), List.length_append, List.length_replicate, hlen]
      show max 0 _ ≤ _
      omega

/-- The empty string is decoded as one byte. -/
theorem not_roundTrips32 : ¬ ∀ x : List UInt8, RoundTrips32 x := by
  intro h
  obtain ⟨-, d, hd, hcode, -⟩ := h [] (fun _ => 0) fun _ => 0
  have htext : (encode32 ⟨fun _ => 0, 0⟩ []).2.text = [] :=
    ByteBuffer.text_of_slice (l := []) rfl List.not_mem_nil Nat.one_pos
  rw [htext, decode32, if_pos rfl, Option.some.injEq] at hd
  subst hd
  exact absurd hcode Nat.one_ne_zero

end BmcEncoding
