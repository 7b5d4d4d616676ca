import Mathlib.Tactic

/-!
# Digits

* `isHexDigit`, `hexValue`, `ofHex`: the number that a text of digits stands for;
* `ofHex_append`, `ofHex_zeros`, `ofHex_lt`: its digits one after the other;
* **`ofHex_toDigits`**: the digits of a number are read back;
* `toDigits_ten_injective`: decimal digits tell numbers apart.
-/

namespace BmcLib

/-- A hexadecimal digit, in small or capital letters. -/
def isHexDigit (c : Char) : Bool := c.isDigit || decide ('a' ≤ c.toLower ∧ c.toLower ≤ 'f')

/-- The value of a digit. -/
def hexValue (c : Char) : ℕ :=
  if c.isDigit then c.toNat - '0'.toNat else c.toLower.toNat - 'a'.toNat + 10

/-- The number that digits stand for. -/
def ofHex (l : List Char) : ℕ := l.foldl (fun n c => 16 * n + hexValue c) 0

theorem hexValue_lt {c : Char} (h : isHexDigit c = true) : hexValue c < 16 := by
  rw [isHexDigit, Bool.or_eq_true, decide_eq_true_iff] at h
  unfold hexValue
  split_ifs with hd
  · have h9 : c.toNat ≤ 57 := by
      rw [Char.isDigit, Bool.and_eq_true, decide_eq_true_iff, decide_eq_true_iff] at hd
      exact hd.2
    show c.toNat - 48 < 16
    omega
  · have hf : c.toLower.toNat ≤ 102 := (h.resolve_left hd).2
    show c.toLower.toNat - 97 + 10 < 16
    omega

theorem foldl_hex (n : ℕ) (l : List Char) :
    l.foldl (fun n c => 16 * n + hexValue c) n = n * 16 ^ l.length + ofHex l := by
  induction l generalizing n with
  | nil => simp [ofHex]
  | cons c l ih =>
    have hcons : ofHex (c :: l) = (16 * 0 + hexValue c) * 16 ^ l.length + ofHex l := ih _
    rw [List.foldl_cons, ih, hcons, List.length_cons, pow_succ]
    ring

theorem ofHex_append (l l' : List Char) : ofHex (l ++ l') = ofHex l * 16 ^ l'.length + ofHex l' := by
  rw [ofHex, List.foldl_append, foldl_hex]
  rfl

theorem ofHex_zeros (n : ℕ) : ofHex (List.replicate n '0') = 0 := by
  induction n with
  | zero => rfl
  | succ n ih =>
    rw [List.replicate_succ', ofHex_append, ih, Nat.zero_mul]
    rfl

theorem ofHex_zeros_append (n : ℕ) (l : List Char) : ofHex (List.replicate n '0' ++ l) = ofHex l := by
  rw [ofHex_append, ofHex_zeros, Nat.zero_mul, Nat.zero_add]

theorem ofHex_lt {l : List Char} (h : l.all isHexDigit = true) : ofHex l < 16 ^ l.length := by
  induction l using List.reverseRecOn with
  | nil => exact Nat.one_pos
  | append_singleton l c ih =>
    rw [List.all_append, Bool.and_eq_true] at h
    have hc : hexValue c < 16 := hexValue_lt (by simpa using h.2)
    have hl := ih h.1
    rw [ofHex_append, List.length_append, pow_add]
    change ofHex l * 16 + (16 * 0 + hexValue c) < 16 ^ l.length * 16
    omega

/-- Digits inside of a number. -/
theorem ofHex_middle (a : List Char) {q b : List Char} (hq : q.all isHexDigit = true)
    (hb : b.all isHexDigit = true) :
    ofHex (a ++ (q ++ b)) / 16 ^ b.length % 16 ^ q.length = ofHex q := by
  have hpos : 0 < 16 ^ b.length := Nat.pow_pos (by decide)
  rw [ofHex_append, ofHex_append, List.length_append, pow_add, ← Nat.mul_assoc, ← Nat.add_assoc,
    ← Nat.add_mul, Nat.add_comm, Nat.add_mul_div_right _ _ hpos, Nat.div_eq_of_lt (ofHex_lt hb),
    Nat.zero_add, Nat.add_comm, Nat.add_mul_mod_self_right, Nat.mod_eq_of_lt (ofHex_lt hq)]

theorem hexValue_digitChar : ∀ n < 16, isHexDigit (Nat.digitChar n) = true ∧
    hexValue (Nat.digitChar n) = n := by decide +kernel

/-- **Round trip.** -/
theorem ofHex_toDigits (n : ℕ) :
    (Nat.toDigits 16 n).all isHexDigit = true ∧ ofHex (Nat.toDigits 16 n) = n := by
  induction n using Nat.strongRecOn with
  | ind n ih =>
    by_cases hn : n < 16
    · obtain ⟨hd, hv⟩ := hexValue_digitChar n hn
      rw [Nat.toDigits_of_lt_base hn]
      refine ⟨by simpa using hd, ?_⟩
      change 16 * 0 + hexValue (Nat.digitChar n) = n
      omega
    · obtain ⟨hd, hv⟩ := hexValue_digitChar (n % 16) (Nat.mod_lt n (by decide))
      obtain ⟨hall, hval⟩ := ih (n / 16) (by omega)
      rw [Nat.toDigits_of_base_le (by decide) (not_lt.1 hn)]
      refine ⟨by rw [List.all_append, hall]; simpa using hd, ?_⟩
      rw [ofHex_append, hval]
      change n / 16 * 16 + (16 * 0 + hexValue (Nat.digitChar (n % 16))) = n
      omega

theorem toDigits_ten_injective : Function.Injective (Nat.toDigits 10) := by
  intro m n h
  calc
    m = Nat.ofDigitChars 10 (Nat.toDigits 10 m) 0 := Nat.ofDigitChars_ten_toDigits.symm
    _ = Nat.ofDigitChars 10 (Nat.toDigits 10 n) 0 := by rw [h]
    _ = n := Nat.ofDigitChars_ten_toDigits

end BmcLib
