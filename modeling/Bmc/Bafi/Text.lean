import Bmc.Lib.Hex

/-!
# The texts of a crashdump

The helpers of `utils.hpp`, with the functions of the standard library that they use.

* `checkInproperValue`, `stoull`, `str2uint`: how the value of a register is read;
* `intToHex`: how a number is reported;
* `stoull_hex`: hexadecimal texts are read;
* **`hexText_intToHex`**: a reported number can be read off the text.
-/

namespace BmcBafi

open BmcLib

/-- The value of a register that was not read. -/
def checkInproperValue (input : List Char) : Bool :=
  ['U', 'A'].isPrefixOf input || ['N', '/', 'A'].isPrefixOf input || input.isEmpty

/-- `isspace`. -/
def isSpace (c : Char) : Bool := c ∈ [' ', '\t', '\n', '\x0b', '\x0c', '\r']

/-- A digit of a base up to 16. -/
def isBaseDigit (base : ℕ) (c : Char) : Bool := isHexDigit c && decide (hexValue c < base)

/-- The text behind the prefix of a base. -/
def dropPrefix (base : ℕ) (s : List Char) : List Char :=
  match s with
  | '0' :: x :: c :: l => if base = 16 ∧ (x = 'x' ∨ x = 'X') ∧ isHexDigit c then c :: l else s
  | _ => s

/-- `std::stoull` on a text without blanks in front and without a sign. -/
def stoullUnsigned (base : ℕ) (s : List Char) : Option ℕ :=
  let digits := (dropPrefix base s).takeWhile (isBaseDigit base)
  let value := digits.foldl (fun n c => base * n + hexValue c) 0
  if digits = [] ∨ 2 ^ 64 ≤ value then none else some value

/-- `std::stoull`: the number at the start of a text. -/
def stoull (base : ℕ) (s : List Char) : Option ℕ :=
  match s.dropWhile isSpace with
  | '-' :: l => (stoullUnsigned base l).map fun n => (2 ^ 64 - n) % 2 ^ 64
  | '+' :: l => stoullUnsigned base l
  | l => stoullUnsigned base l

/-- `str2uint` for a variable of 32 bits. It succeeds on a value that was not read, and then leaves the
variable as it is. -/
def str2uint (s : List Char) (output : UInt32) : Bool × UInt32 :=
  match stoull 16 s with
  | some n => (true, UInt32.ofNat n)
  | none => (checkInproperValue s, output)

/-- `int_to_hex`. -/
def intToHex (width n : ℕ) : List Char :=
  '0' :: 'x' :: (List.replicate (width - (Nat.toDigits 16 n).length) '0' ++ Nat.toDigits 16 n)

/-- The number at the start of a reported text. -/
def hexText (s : List Char) : ℕ := ofHex ((s.drop 2).takeWhile isHexDigit)

/-! ## Reading -/

theorem ne_of_isHexDigit {c x : Char} (h : isHexDigit c = true) (hx : isHexDigit x = false) : c ≠ x := by
  rintro rfl
  exact absurd (h.symm.trans hx) (by decide)

theorem takeWhile_isBaseDigit {l : List Char} (h : l.all isHexDigit = true) :
    l.takeWhile (isBaseDigit 16) = l := by
  have hall : ∀ c ∈ l, isBaseDigit 16 c = true := by
    intro c hc
    have hdigit := List.all_eq_true.1 h c hc
    rw [isBaseDigit, hdigit, Bool.true_and, decide_eq_true_iff]
    exact hexValue_lt hdigit
  have htake : (l ++ []).takeWhile (isBaseDigit 16) = l ++ [].takeWhile (isBaseDigit 16) :=
    List.takeWhile_append_of_pos hall
  rwa [List.append_nil, List.takeWhile_nil, List.append_nil] at htake

theorem dropPrefix_hex {l : List Char} (hall : l.all isHexDigit = true) : dropPrefix 16 l = l := by
  unfold dropPrefix
  split
  · rename_i x c r
    have hx : isHexDigit x = true := List.all_eq_true.1 hall x (by simp)
    refine if_neg fun h => ?_
    rcases h.2.1 with rfl | rfl
    · exact absurd hx (by decide)
    · exact absurd hx (by decide)
  · rfl

theorem stoullUnsigned_hex {s l : List Char} (hs : dropPrefix 16 s = l) (hne : l ≠ [])
    (hall : l.all isHexDigit = true) (hlt : ofHex l < 2 ^ 64) :
    stoullUnsigned 16 s = some (ofHex l) := by
  simp only [stoullUnsigned, hs, takeWhile_isBaseDigit hall]
  exact if_neg (not_or.2 ⟨hne, not_le.2 hlt⟩)

theorem dropWhile_isSpace {c : Char} (h : isHexDigit c = true) (l : List Char) :
    (c :: l).dropWhile isSpace = c :: l := by
  have hc : isSpace c = false := by
    have hspaces : [' ', '\t', '\n', '\x0b', '\x0c', '\r'].all (!isHexDigit ·) = true := by decide
    rw [isSpace, decide_eq_false_iff_not]
    exact fun hmem => ne_of_isHexDigit h (by simpa using List.all_eq_true.1 hspaces c hmem) rfl
  rw [List.dropWhile_cons_of_neg (by simp [hc])]

/-- A text that begins with a digit has no sign. -/
theorem stoull_digit {c : Char} (h : isHexDigit c = true) (base : ℕ) (l : List Char) :
    stoull base (c :: l) = stoullUnsigned base (c :: l) := by
  rw [stoull, dropWhile_isSpace h]
  split
  · rename_i heq
    exact absurd (List.cons_eq_cons.1 heq).1 (ne_of_isHexDigit h (by decide))
  · rename_i heq
    exact absurd (List.cons_eq_cons.1 heq).1 (ne_of_isHexDigit h (by decide))
  · rfl

/-- **Digits** are read as their number. -/
theorem stoull_hex {l : List Char} (hne : l ≠ []) (hall : l.all isHexDigit = true)
    (hlt : ofHex l < 2 ^ 64) : stoull 16 l = some (ofHex l) := by
  obtain ⟨c, r, rfl⟩ := List.exists_cons_of_ne_nil hne
  rw [stoull_digit (List.all_eq_true.1 hall c List.mem_cons_self)]
  exact stoullUnsigned_hex (dropPrefix_hex hall) hne hall hlt

/-! ## Reporting -/

/-- **Reported numbers** can be read off the text. -/
theorem hexText_intToHex (width n : ℕ) (rest : List Char)
    (hrest : ∀ c ∈ rest.head?, isHexDigit c = false) : hexText (intToHex width n ++ rest) = n := by
  obtain ⟨hall, hval⟩ := ofHex_toDigits n
  have hzeros : ∀ k, (List.replicate k '0').all isHexDigit = true := by
    intro k
    rw [List.all_eq_true]
    intro c hc
    rw [List.eq_of_mem_replicate hc]
    rfl
  have hrest' : rest.takeWhile isHexDigit = [] := by
    cases rest with
    | nil => rfl
    | cons c r => exact List.takeWhile_cons_of_neg (by simpa using hrest c rfl)
  rw [hexText, intToHex, List.cons_append, List.cons_append]
  show ofHex (List.takeWhile isHexDigit ((_ ++ _) ++ rest)) = n
  rw [List.takeWhile_append_of_pos, hrest', List.append_nil, ofHex_zeros_append, hval]
  rw [← List.all_eq_true, List.all_append, hzeros, hall]
  rfl

end BmcBafi
