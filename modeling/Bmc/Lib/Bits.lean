import Mathlib.Tactic

/-!
# Bit fields

A layout says which bits of which words the fields of a record are made of.

* `bits`: some bits of a number; `Slice`: some bits of a field in some word;
* `join`: a field put together from its slices; `Packed`: words that hold the fields of a record;
* **`join_of_packed`**: packed fields are read back;
* `read_eq_zero`: what is read back from other words has only bits of the fields.
-/

namespace BmcLib

/-- Some bits of a number, from `offset` on. -/
def bits (x offset width : ℕ) : ℕ := x / 2 ^ offset % 2 ^ width

theorem testBit_bits (x o w i : ℕ) : (bits x o w).testBit i = (decide (i < w) && x.testBit (o + i)) := by
  rw [bits, Nat.testBit_mod_two_pow, Nat.testBit_div_two_pow, Nat.add_comm]

theorem bits_lt (x o w : ℕ) : bits x o w < 2 ^ w := Nat.mod_lt _ (Nat.two_pow_pos w)

theorem bits_zero (o w : ℕ) : bits 0 o w = 0 := by rw [bits, Nat.zero_div, Nat.zero_mod]

/-- Bits of bits. -/
theorem bits_bits (x o n o' w : ℕ) (h : o' + w ≤ n) : bits (bits x o n) o' w = bits x (o + o') w := by
  refine Nat.eq_of_testBit_eq fun i => ?_
  rw [testBit_bits, testBit_bits, testBit_bits, Nat.add_assoc, ← Bool.and_assoc]
  by_cases hi : i < w
  · rw [decide_eq_true hi, decide_eq_true (by omega : o' + i < n)]
    rfl
  · rw [decide_eq_false hi]
    rfl

/-- Bits of the lower part of a number. -/
theorem bits_add_lower (x y n o w : ℕ) (h : o + w ≤ n) : bits (x + 2 ^ n * y) o w = bits x o w := by
  have hn : 2 ^ n = 2 ^ o * (2 ^ w * 2 ^ (n - o - w)) := by
    rw [← pow_add, ← pow_add]
    congr 1
    omega
  rw [bits, bits, hn, mul_assoc, Nat.add_mul_div_left _ _ (Nat.two_pow_pos o), mul_assoc,
    Nat.add_mul_mod_self_left]

/-- Bits of the upper part of a number. -/
theorem bits_add_upper {x n : ℕ} (hx : x < 2 ^ n) (y o w : ℕ) :
    bits (x + 2 ^ n * y) (n + o) w = bits y o w := by
  rw [bits, bits, pow_add, ← Nat.div_div_eq_div_mul, Nat.add_mul_div_left _ _ (Nat.two_pow_pos n),
    Nat.div_eq_of_lt hx, zero_add]

/-- `width` bits of a field from `shift` on, in a word from `offset` on. -/
structure Slice (κ ι : Type*) where
  field : κ
  word : ι
  offset : ℕ
  width : ℕ
  shift : ℕ

variable {κ ι : Type*}

/-- What the words hold of a slice. -/
def Slice.read (s : Slice κ ι) (v : ι → ℕ) : ℕ := bits (v s.word) s.offset s.width

/-- The words hold the fields. -/
def Packed (L : List (Slice κ ι)) (f : κ → ℕ) (v : ι → ℕ) : Prop :=
  ∀ s ∈ L, s.read v = bits (f s.field) s.shift s.width

/-- The fields have only bits that the layout has. -/
def Within (L : List (Slice κ ι)) (f : κ → ℕ) : Prop :=
  ∀ k i, (f k).testBit i = true → ∃ s ∈ L, s.field = k ∧ s.shift ≤ i ∧ i < s.shift + s.width

variable {L : List (Slice κ ι)} {f : κ → ℕ} {v : ι → ℕ}

theorem testBit_read {s : Slice κ ι} (hp : Packed L f v) (hs : s ∈ L) (i : ℕ) :
    (s.read v).testBit i = (decide (i < s.width) && (f s.field).testBit (s.shift + i)) := by
  rw [hp s hs, testBit_bits]

variable [DecidableEq κ]

/-- A field from its slices. -/
def join (L : List (Slice κ ι)) (k : κ) (v : ι → ℕ) : ℕ :=
  (L.filter (·.field = k)).foldr (fun s x => s.read v <<< s.shift ||| x) 0

theorem testBit_join {k : κ} {i : ℕ} : (join L k v).testBit i = true ↔
    ∃ s ∈ L, s.field = k ∧ s.shift ≤ i ∧ (s.read v).testBit (i - s.shift) = true := by
  unfold join
  induction L with
  | nil => simp
  | cons s L ih =>
    by_cases hs : s.field = k
    · rw [List.filter_cons_of_pos (by simpa using hs), List.foldr_cons, Nat.testBit_or, Bool.or_eq_true,
        ih, Nat.testBit_shiftLeft, Bool.and_eq_true, decide_eq_true_iff, List.exists_mem_cons_iff]
      exact or_congr (and_iff_right hs).symm Iff.rfl
    · rw [List.filter_cons_of_neg (by simpa using hs), ih, List.exists_mem_cons_iff]
      exact (or_iff_right fun h => hs h.1).symm

/-- **Reading back.** The slices of a packed field give the field. -/
theorem join_of_packed (hp : Packed L f v) (hf : Within L f) (k : κ) : join L k v = f k := by
  refine Nat.eq_of_testBit_eq fun i => Bool.eq_iff_iff.2 ?_
  rw [testBit_join]
  constructor
  · rintro ⟨s, hs, rfl, hle, hbit⟩
    rw [testBit_read hp hs, Bool.and_eq_true] at hbit
    rw [← Nat.add_sub_cancel' hle]
    exact hbit.2
  · intro hbit
    obtain ⟨s, hs, rfl, hle, hlt⟩ := hf k i hbit
    refine ⟨s, hs, rfl, hle, ?_⟩
    rw [testBit_read hp hs, Nat.add_sub_cancel' hle, hbit, Bool.and_true, decide_eq_true_iff]
    omega

/-- If other words give the same field, then they hold nothing where the first ones hold nothing. -/
theorem read_eq_zero {s : Slice κ ι} (hp : Packed L f v) (hs : s ∈ L) {v' : ι → ℕ}
    (hj : join L s.field v' = f s.field) (h0 : s.read v = 0) : s.read v' = 0 := by
  refine Nat.eq_of_testBit_eq fun i => ?_
  rw [Nat.zero_testBit, Bool.eq_false_iff]
  intro hbit
  have hi : i < s.width := by
    rw [Slice.read, testBit_bits, Bool.and_eq_true] at hbit
    exact of_decide_eq_true hbit.1
  have hjoin : (join L s.field v').testBit (s.shift + i) = true :=
    testBit_join.2 ⟨s, hs, rfl, Nat.le_add_right _ _, by rwa [Nat.add_sub_cancel_left]⟩
  have hread := testBit_read hp hs i
  rw [h0, ← hj, hjoin, Nat.zero_testBit, Bool.and_true, decide_eq_true hi] at hread
  exact absurd hread (by decide)

end BmcLib
