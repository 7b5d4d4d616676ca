import Mathlib.Tactic

/-!
# Fields of a stream of bits

A number is written into a stream of bits from its highest bit on.

* `fieldBits`: the bits of a field; `Carries`: a stream has some bits from a position on;
* `carries_append`, `carries_fieldBits_iff`: pieces of a text, and the bits of one field;
* `canonicalCodes`: the codes of a canonical prefix code, from the number of codes of each length.
-/

namespace BmcLib

/-- The number `v` as a field of `k` bits, the highest bit first. -/
def fieldBits (k v : ℕ) : List Bool := (List.range k).map fun i => v.testBit (k - 1 - i)

@[simp] theorem length_fieldBits (k v : ℕ) : (fieldBits k v).length = k := by
  rw [fieldBits, List.length_map, List.length_range]

/-- The stream has the bits `bits` from position `p` on. -/
def Carries (stream : ℕ → Bool) (p : ℕ) (bits : List Bool) : Prop :=
  ∀ i (h : i < bits.length), stream (p + i) = bits.get ⟨i, h⟩

section Carries

variable {stream : ℕ → Bool} {p : ℕ} {a b : List Bool}

/-- A text in two pieces. -/
theorem carries_append : Carries stream p (a ++ b) ↔ Carries stream p a ∧ Carries stream (p + a.length) b := by
  constructor
  · intro h
    refine ⟨fun i hi => ?_, fun i hi => ?_⟩
    · rw [h i (by rw [List.length_append]; omega)]
      exact List.getElem_append_left hi
    · rw [Nat.add_assoc, h (a.length + i) (by rw [List.length_append]; omega)]
      exact (List.getElem_append_right (Nat.le_add_right _ _)).trans (by simp only [Nat.add_sub_cancel_left]; rfl)
  · rintro ⟨ha, hb⟩ i hi
    rw [List.length_append] at hi
    rcases Nat.lt_or_ge i a.length with hlt | hge
    · rw [ha i hlt]
      exact (List.getElem_append_left hlt).symm
    · have := hb (i - a.length) (by omega)
      rw [show p + a.length + (i - a.length) = p + i by omega] at this
      rw [this]
      exact (List.getElem_append_right hge).symm

/-- A field, bit by bit. -/
theorem carries_fieldBits_iff {k v : ℕ} :
    Carries stream p (fieldBits k v) ↔ ∀ i < k, stream (p + i) = v.testBit (k - 1 - i) := by
  refine ⟨fun h i hi => ?_, fun h i hi => ?_⟩
  · rw [h i (by rwa [length_fieldBits])]
    simp [fieldBits]
  · rw [length_fieldBits] at hi
    rw [h i hi]
    simp [fieldBits]

end Carries

/-! ## Canonical codes -/

/-- The codes of a canonical prefix code, each with its length: `counts` tells how many there are of `k` bits, of `k + 1` bits and
so on, and `c` is the first one of `k` bits. -/
def canonicalCodes : ℕ → ℕ → List ℕ → List (ℕ × ℕ)
  | _, _, [] => []
  | k, c, n :: counts => ((List.range n).map fun j => (k, c + j)) ++ canonicalCodes (k + 1) (2 * (c + n)) counts

end BmcLib
