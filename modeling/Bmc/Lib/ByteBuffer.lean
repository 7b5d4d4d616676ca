import Bmc.Lib.Memory

/-!
# Buffers of bytes

A function of C that writes to a buffer gets the address only.

* `ByteBuffer`: the bytes, and how far they have been written; `ByteBuffer.write`;
* `ByteBuffer.text`: the string in a buffer, up to its terminator; **`ByteBuffer.text_of_slice`**;
* `ByteBuffer.slice_write`, `ByteBuffer.slice_write_terminator`: reading back, and a terminator written once more.
-/

namespace BmcLib

/-- A buffer. All bytes that were written lie before `reach`. -/
structure ByteBuffer where
  cells : ℕ → UInt8
  reach : ℕ

namespace ByteBuffer

variable {b : ByteBuffer} {i : ℕ} {l : List UInt8}

/-- Bytes are written from `i` on. -/
def write (b : ByteBuffer) (i : ℕ) (l : List UInt8) : ByteBuffer :=
  ⟨store b.cells i l, if l = [] then b.reach else max b.reach (i + l.length)⟩

/-- The string in a buffer: the bytes before the first zero among those that may have been written. -/
def text (b : ByteBuffer) : List UInt8 := (slice b.cells 0 b.reach).takeWhile (· ≠ 0)

theorem reach_write (h : l ≠ []) : (b.write i l).reach = max b.reach (i + l.length) := if_neg h

/-- **What is written is read back.** -/
theorem slice_write : slice (b.write i l).cells i l.length = l := slice_store_same _ _ _

/-- **The string of a buffer** ends with its terminator, where that was written. -/
theorem text_of_slice (h : slice b.cells 0 (l.length + 1) = l ++ [0]) (hl : 0 ∉ l) (hr : l.length < b.reach) :
    b.text = l := by
  obtain ⟨k, hk⟩ := Nat.exists_eq_add_of_lt hr
  have hall : ∀ x ∈ l, decide (x ≠ 0) = true := fun x hx => decide_eq_true fun h => hl (h ▸ hx)
  rw [text, hk, show l.length + k + 1 = l.length + 1 + k by omega, slice_add, h, List.append_assoc,
    List.takeWhile_append_of_pos hall]
  simp

/-- A zero that is written behind a string, or onto its terminator, leaves both. -/
theorem slice_write_terminator (b : ByteBuffer) (l : List UInt8) (h : l.length ≤ i) :
    slice ((b.write 0 (l ++ [0])).write i [0]).cells 0 (l.length + 1) = l ++ [0] := by
  have hlen : (l ++ [(0 : UInt8)]).length = l.length + 1 := by simp
  refine Eq.trans (slice_congr fun j _ hj => ?_) (hlen ▸ slice_store_same b.cells 0 (l ++ [0]))
  show store (store b.cells 0 (l ++ [0])) i [0] j = store b.cells 0 (l ++ [0]) j
  rcases Nat.lt_or_ge j i with hlt | hge
  · exact store_apply_lt hlt
  · obtain rfl : i = j := by omega
    obtain rfl : l.length = i := by omega
    have hzero : store b.cells 0 (l ++ [0]) l.length = 0 := by
      rw [store_zero_apply, List.getElem?_append_right le_rfl, Nat.sub_self]
      rfl
    have hstore : store (store b.cells 0 (l ++ [0])) l.length [0] (l.length + 0) = 0 := store_apply_add (by decide)
    rw [Nat.add_zero] at hstore
    rw [hstore, hzero]

/-- A terminator that is written into a string cuts it off. -/
theorem slice_write_cut (b : ByteBuffer) (l l' : List UInt8) :
    slice ((b.write 0 (l ++ l')).write l.length [0]).cells 0 (l.length + 1) = l ++ [0] := by
  show slice (store (store b.cells 0 (l ++ l')) l.length [0]) 0 (l.length + 1) = l ++ [0]
  have hend := slice_append_store (store b.cells 0 (l ++ l')) l.length [0]
  rw [slice_store_zero (by simp), List.take_left] at hend
  exact hend

end ByteBuffer

end BmcLib
