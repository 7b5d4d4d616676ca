import Mathlib.Data.UInt
import Mathlib.Tactic

/-!
# Key streams

A generator steps through its states and gives a byte at each step, and a text is combined with the bytes.

* `crypt`: the text and the state behind it; `cryptAll`: texts one after the other;
* `crypt_append`: a text in two pieces; `cryptAll_flatten`: in any number of them;
* **`crypt_crypt`**: the same bytes restore the text.
-/

namespace BmcLib

section KeyStream

variable {σ : Type*} (next : σ → σ × UInt8)

/-- A text under the key stream from a state on. -/
def crypt : σ → List UInt8 → List UInt8 × σ
  | s, [] => ([], s)
  | s, d :: data => let r := crypt (next s).1 data; ((d ^^^ (next s).2) :: r.1, r.2)

/-- Texts one after the other. -/
def cryptAll : σ → List (List UInt8) → List (List UInt8) × σ
  | s, [] => ([], s)
  | s, d :: ds => let r := crypt next s d; let rs := cryptAll r.2 ds; (r.1 :: rs.1, rs.2)

theorem crypt_append (s : σ) (a b : List UInt8) :
    crypt next s (a ++ b) = ((crypt next s a).1 ++ (crypt next (crypt next s a).2 b).1, (crypt next (crypt next s a).2 b).2) := by
  induction a generalizing s with
  | nil => rfl
  | cons d a ih => simp only [List.cons_append, crypt, ih]

/-- The pieces of a text do not matter. -/
theorem cryptAll_flatten (s : σ) (ds : List (List UInt8)) :
    (cryptAll next s ds).1.flatten = (crypt next s ds.flatten).1 ∧ (cryptAll next s ds).2 = (crypt next s ds.flatten).2 := by
  induction ds generalizing s with
  | nil => exact ⟨rfl, rfl⟩
  | cons d ds ih =>
    obtain ⟨htext, hstate⟩ := ih (crypt next s d).2
    rw [List.flatten_cons, crypt_append, cryptAll, List.flatten_cons]
    exact ⟨congrArg _ htext, hstate⟩

/-- **The same bytes restore the text**, and leave the same state. -/
theorem crypt_crypt (s : σ) (data : List UInt8) : crypt next s (crypt next s data).1 = (data, (crypt next s data).2) := by
  induction data generalizing s with
  | nil => rfl
  | cons d data ih => simp only [crypt, ih, UInt8.xor_assoc, UInt8.xor_self, UInt8.xor_zero]

/-- What the steps of the generator keep. -/
theorem crypt_inv {P : σ → Prop} (hstep : ∀ s, P s → P (next s).1) {s : σ} (hs : P s) (data : List UInt8) :
    P (crypt next s data).2 := by
  induction data generalizing s with
  | nil => exact hs
  | cons d data ih => exact ih (hstep s hs)

end KeyStream

end BmcLib
