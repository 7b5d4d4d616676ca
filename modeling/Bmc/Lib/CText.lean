import Bmc.Lib.Memory

/-!
# Texts in buffers of characters

A text in a buffer ends with a zero character, and is printed with a limit.

* `CBuffer`: a buffer, and how far it has been written; `CBuffer.snprintf`: a text is printed;
* `CBuffer.Holds`: the text in a buffer; **`CBuffer.Holds.unique`**: there is only one;
* `CBuffer.holds_snprintf`, `CBuffer.Holds.append`: what is printed into an empty place, and behind a text.
-/

namespace BmcLib

/-- The character that ends a text. -/
def nul : Char := Char.ofNat 0

/-- A buffer. All the characters that were written lie before `reach`. -/
structure CBuffer where
  cells : ℕ → Char
  reach : ℕ

namespace CBuffer

variable {b : CBuffer} {p n : ℕ} {l l' : List Char}

/-- `snprintf`: at most `n` characters are written at `p`, the one that ends the text included. -/
def snprintf (b : CBuffer) (p n : ℕ) (l : List Char) : CBuffer :=
  if n = 0 then b
  else ⟨store b.cells p (l.take (n - 1) ++ [nul]), max b.reach (p + (l.take (n - 1)).length + 1)⟩

/-- The text in a buffer. -/
def Holds (b : CBuffer) (l : List Char) : Prop := slice b.cells 0 l.length = l ∧ b.cells l.length = nul ∧ nul ∉ l

theorem Holds.length_le (h : b.Holds l) (h' : b.Holds l') : l'.length ≤ l.length := by
  by_contra hlt
  have hcell : (slice b.cells 0 l'.length)[l.length]? = some nul := by
    rw [List.getElem?_eq_getElem (by rw [length_slice]; omega), getElem_slice, Nat.zero_add, h.2.1]
  rw [h'.1] at hcell
  exact h'.2.2 (List.mem_of_getElem? hcell)

/-- **A buffer holds one text.** -/
theorem Holds.unique (h : b.Holds l) (h' : b.Holds l') : l = l' := by
  have hlen : l.length = l'.length := le_antisymm (h'.length_le h) (h.length_le h')
  rw [← h.1, ← h'.1, hlen]

theorem snprintf_of_lt (h : l.length < n) :
    b.snprintf p n l = ⟨store b.cells p (l ++ [nul]), max b.reach (p + l.length + 1)⟩ := by
  rw [snprintf, if_neg (by omega), List.take_of_length_le (by omega)]

/-- A text printed at the start. -/
theorem holds_snprintf (h : l.length < n) (hl : nul ∉ l) : (b.snprintf 0 n l).Holds l := by
  rw [snprintf_of_lt h]
  refine ⟨?_, ?_, hl⟩
  · show slice (store b.cells 0 (l ++ [nul])) 0 l.length = l
    rw [slice_store_zero (by simp), List.take_left]
  · show store b.cells 0 (l ++ [nul]) l.length = nul
    rw [store_zero_apply, List.getElem?_append_right (le_refl _), Nat.sub_self]
    rfl

/-- A text printed where the one before it ends. -/
theorem holds_snprintf_append (hb : slice b.cells 0 l.length = l) (hl : nul ∉ l) (h : l'.length < n) (hl' : nul ∉ l') :
    (b.snprintf l.length n l').Holds (l ++ l') := by
  rw [snprintf_of_lt h]
  refine ⟨?_, ?_, by simp [hl, hl']⟩
  · show slice (store b.cells l.length (l' ++ [nul])) 0 (l ++ l').length = l ++ l'
    have hstart : slice (store b.cells l.length (l' ++ [nul])) 0 l.length = l := by
      rw [slice_store_disjoint (.inl (by omega)), hb]
    have hend : slice (store b.cells l.length (l' ++ [nul])) l.length (l' ++ [nul]).length = l' ++ [nul] :=
      slice_store_same _ _ _
    have htake := take_slice (store b.cells l.length (l' ++ [nul])) l.length (l' ++ [nul]).length l'.length
    rw [hend, List.take_left, Nat.min_eq_left (by simp)] at htake
    rw [List.length_append, slice_add, hstart, Nat.zero_add, ← htake]
  · show store b.cells l.length (l' ++ [nul]) (l ++ l').length = nul
    rw [List.length_append, store_apply_add (by simp), List.getElem_append_right (le_refl _)]
    simp

end CBuffer

end BmcLib
