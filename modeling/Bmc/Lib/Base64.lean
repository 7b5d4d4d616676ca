import Bmc.Lib.ByteBits

/-!
# Base64

Three bytes are four characters of six bits each; a group with fewer bytes is filled up with `=`.

* `encode64`, `decode64`: the encoding and its inverse, which accepts only what the encoding gives;
* `length_encode64`; **`decode64_encode64`**: the round trip;
* `sextet_high` and the lemmas behind it: the values of a group, computed with masks and shifts.
-/

namespace BmcLib

/-- The characters of the values from 0 to 63. -/
def alphabet64 : List Char :=
  "ABCDEFGHIJKLMNOPQRSTUVWXYZabcdefghijklmnopqrstuvwxyz0123456789+/".toList

/-- The character of a value; from 64 on, the filling. -/
def char64 (n : ℕ) : Char := alphabet64.getD n '='

/-- The value of a character. -/
def value64 (c : Char) : Option ℕ := alphabet64.idxOf? c

/-- The encoding of a list of bytes. -/
def encode64 : List UInt8 → List Char
  | [] => []
  | [x] => [char64 (x.toNat / 4), char64 (x.toNat % 4 * 16), '=', '=']
  | [x, y] =>
    [char64 (x.toNat / 4), char64 (x.toNat % 4 * 16 + y.toNat / 16), char64 (y.toNat % 16 * 4), '=']
  | x :: y :: z :: l =>
    char64 (x.toNat / 4) :: char64 (x.toNat % 4 * 16 + y.toNat / 16) ::
      char64 (y.toNat % 16 * 4 + z.toNat / 64) :: char64 (z.toNat % 64) :: encode64 l

/-- The bytes that a text stands for. Bits that the filling leaves open must be 0. -/
def decode64 : List Char → Option (List UInt8)
  | [] => some []
  | a :: b :: c :: d :: l => do
    let va ← value64 a
    let vb ← value64 b
    let x := UInt8.ofNat (va * 4 + vb / 16)
    if c = '=' then
      if d = '=' ∧ l = [] ∧ vb % 16 = 0 then some [x] else none
    else do
      let vc ← value64 c
      let y := UInt8.ofNat (vb % 16 * 16 + vc / 4)
      if d = '=' then
        if l = [] ∧ vc % 4 = 0 then some [x, y] else none
      else do
        let vd ← value64 d
        let r ← decode64 l
        some (x :: y :: UInt8.ofNat (vc % 4 * 64 + vd) :: r)
  | _ => none

theorem alphabet64_eq : alphabet64 =
    ['A', 'B', 'C', 'D', 'E', 'F', 'G', 'H', 'I', 'J', 'K', 'L', 'M',
      'N', 'O', 'P', 'Q', 'R', 'S', 'T', 'U', 'V', 'W', 'X', 'Y', 'Z',
      'a', 'b', 'c', 'd', 'e', 'f', 'g', 'h', 'i', 'j', 'k', 'l', 'm',
      'n', 'o', 'p', 'q', 'r', 's', 't', 'u', 'v', 'w', 'x', 'y', 'z',
      '0', '1', '2', '3', '4', '5', '6', '7', '8', '9', '+', '/'] :=
  String.toList_ofList

theorem length_alphabet64 : alphabet64.length = 64 := by
  rw [alphabet64_eq]
  rfl

/-- No two characters are the same: the place of each one is a function of it. -/
theorem nodup_alphabet64 : alphabet64.Nodup := by
  have hplaces : (alphabet64.map fun c =>
      if c.isUpper then c.toNat - 65 else if c.isLower then c.toNat - 71
      else if c.isDigit then c.toNat + 4 else if c = '+' then 62 else 63) = List.range 64 := by
    rw [alphabet64_eq]
    rfl
  exact List.Nodup.of_map _ (hplaces ▸ List.nodup_range)

theorem char64_eq_getElem {n : ℕ} (hn : n < alphabet64.length) : char64 n = alphabet64[n] := by
  rw [char64, List.getD_eq_getElem?_getD, List.getElem?_eq_getElem hn, Option.getD_some]

theorem value64_char64 (n : ℕ) (hn : n < 64) : value64 (char64 n) = some n := by
  have hlen : n < alphabet64.length := length_alphabet64 ▸ hn
  rw [value64, char64_eq_getElem hlen, List.idxOf?_eq_some_iff]
  refine ⟨hlen, rfl, fun j hj heq => ?_⟩
  exact hj.ne (nodup_alphabet64.getElem_inj_iff.1 heq)

theorem char64_mem {n : ℕ} (hn : n < 64) : char64 n ∈ alphabet64 := by
  rw [char64_eq_getElem (length_alphabet64 ▸ hn)]
  exact List.getElem_mem _

theorem char64_ne (n : ℕ) (hn : n < 64) : char64 n ≠ '=' := by
  have hno : '=' ∉ alphabet64 := by
    rw [alphabet64_eq]
    decide
  exact fun h => hno (h ▸ char64_mem hn)

theorem char64_of_le {n : ℕ} (hn : 64 ≤ n) : char64 n = '=' := by
  rw [char64, List.getD_eq_getElem?_getD, List.getElem?_eq_none (length_alphabet64 ▸ hn), Option.getD_none]

theorem length_encode64 (l : List UInt8) : (encode64 l).length = 4 * ((l.length + 2) / 3) := by
  induction l using encode64.induct with
  | case1 => rfl
  | case2 x => simp [encode64]
  | case3 x y => simp [encode64]
  | case4 x y z l ih =>
    simp only [encode64, List.length_cons, ih]
    omega

/-- No filling and no value is the end of a string. -/
theorem nul_notMem_encode64 (l : List UInt8) : '\x00' ∉ encode64 l := by
  have hchar : ∀ n, char64 n ≠ '\x00' := by
    intro n
    have hno : '\x00' ∉ alphabet64 := by
      rw [alphabet64_eq]
      decide
    rcases Nat.lt_or_ge n 64 with h | h
    · exact fun hnul => hno (hnul ▸ char64_mem h)
    · rw [char64_of_le h]
      decide
  induction l using encode64.induct with
  | case1 => exact List.not_mem_nil
  | case2 x => simp [encode64, (hchar _).symm]
  | case3 x y => simp [encode64, (hchar _).symm]
  | case4 x y z l ih => simp [encode64, (hchar _).symm, ih]

/-- **Round trip.** -/
theorem decode64_encode64 (l : List UInt8) : decode64 (encode64 l) = some l := by
  have hbyte (x : UInt8) (n : ℕ) (h : n = x.toNat) : UInt8.ofNat n = x := by
    rw [h, UInt8.ofNat_toNat]
  induction l using encode64.induct with
  | case1 => rfl
  | case2 x =>
    have hx := x.toNat_lt
    rw [encode64, decode64, value64_char64 _ (by omega), value64_char64 _ (by omega)]
    simp only [Option.bind_eq_bind, Option.bind_some, if_true]
    rw [if_pos ⟨trivial, trivial, by omega⟩, hbyte x _ (by omega)]
  | case3 x y =>
    have hx := x.toNat_lt
    have hy := y.toNat_lt
    rw [encode64, decode64, value64_char64 _ (by omega), value64_char64 _ (by omega),
      value64_char64 _ (by omega)]
    simp only [Option.bind_eq_bind, Option.bind_some, if_true]
    rw [if_neg (char64_ne _ (by omega)), if_pos ⟨trivial, by omega⟩, hbyte x _ (by omega),
      hbyte y _ (by omega)]
  | case4 x y z l ih =>
    have hx := x.toNat_lt
    have hy := y.toNat_lt
    have hz := z.toNat_lt
    rw [encode64, decode64, value64_char64 _ (by omega), value64_char64 _ (by omega),
      value64_char64 _ (by omega), value64_char64 _ (by omega), ih]
    simp only [Option.bind_eq_bind, Option.bind_some]
    rw [if_neg (char64_ne _ (by omega)), if_neg (char64_ne _ (by omega)), hbyte x _ (by omega),
      hbyte y _ (by omega), hbyte z _ (by omega)]

/-! ## Groups with masks and shifts -/

section Sextets

variable (x y : UInt8)

theorem sextet_high : ((x &&& 0xfc) >>> 2).toNat = x.toNat / 4 := by
  have hlt := x.toNat_lt
  rw [toNat_and_high x (i := 2) (j := 6) rfl rfl]
  omega

theorem sextet_low : (x &&& 0x3f).toNat = x.toNat % 64 := toNat_and_low x (i := 6) rfl

theorem sextet_second : ((x &&& 0x03) <<< 4 ||| (y &&& 0xf0) >>> 4).toNat =
    x.toNat % 4 * 16 + y.toNat / 16 := by
  have hx : ((x &&& 0x03) <<< 4).toNat = 2 ^ 4 * (x.toNat % 2 ^ 2) := toNat_low_shiftLeft x rfl rfl (by decide)
  have hy : ((y &&& 0xf0) >>> 4).toNat = y.toNat / 2 ^ 4 % 2 ^ 4 := toNat_and_high y rfl rfl
  have hlt := y.toNat_lt
  rw [toNat_or_of_parts hx hy (Nat.mod_lt _ (by decide))]
  omega

theorem sextet_third : ((x &&& 0x0f) <<< 2 ||| (y &&& 0xc0) >>> 6).toNat =
    x.toNat % 16 * 4 + y.toNat / 64 := by
  have hx : ((x &&& 0x0f) <<< 2).toNat = 2 ^ 2 * (x.toNat % 2 ^ 4) := toNat_low_shiftLeft x rfl rfl (by decide)
  have hy : ((y &&& 0xc0) >>> 6).toNat = y.toNat / 2 ^ 6 % 2 ^ 2 := toNat_and_high y rfl rfl
  have hlt := y.toNat_lt
  rw [toNat_or_of_parts hx hy (Nat.mod_lt _ (by decide))]
  omega

theorem sextet_second_last : ((x &&& 0x03) <<< 4 ||| 0x00).toNat = x.toNat % 4 * 16 := by
  rw [UInt8.or_zero, toNat_low_shiftLeft x (i := 2) (j := 4) rfl rfl (by decide)]
  omega

theorem sextet_third_last : ((x &&& 0x0f) <<< 2 ||| 0x00).toNat = x.toNat % 16 * 4 := by
  rw [UInt8.or_zero, toNat_low_shiftLeft x (i := 4) (j := 2) rfl rfl (by decide)]
  omega

end Sextets

end BmcLib
