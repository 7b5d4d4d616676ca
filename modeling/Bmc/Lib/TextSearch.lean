import Mathlib.Tactic

/-!
# Searches in a text

The position of a text in another one, and the part that two such positions enclose.

* `findText`: the first position; `findText_eq_none_iff`: there is none;
* **`findText_append`**: a text is found where it was put, if its beginning does not occur before;
* `infix_append_cons_iff`: texts that a separator divides are searched apart.
-/

namespace BmcLib

variable {α : Type*} [DecidableEq α]

/-- The first position of `pat`. -/
def findText (pat : List α) : List α → Option ℕ
  | [] => if pat = [] then some 0 else none
  | c :: s => if pat <+: c :: s then some 0 else (findText pat s).map (· + 1)

theorem findText_of_prefix {pat s : List α} (h : pat <+: s) : findText pat s = some 0 := by
  cases s with
  | nil => exact if_pos (List.prefix_nil.1 h)
  | cons c s => exact if_pos h

theorem findText_eq_none_iff {pat : List α} : ∀ {s : List α}, findText pat s = none ↔ ¬ pat <:+: s
  | [] => by
    rw [findText, List.infix_nil]
    split_ifs with h
    · exact iff_of_false id (not_not_intro h)
    · exact iff_of_true rfl h
  | c :: s => by
    rw [findText, List.infix_cons_iff, not_or, ← findText_eq_none_iff (s := s)]
    split_ifs with h
    · exact iff_of_false id fun h' => h'.1 h
    · rw [Option.map_eq_none_iff]
      exact (and_iff_right h).symm

/-- **Searches.** A text is found behind `x` if its beginning `q` does not occur from within `x` on. -/
theorem findText_append {q : List α} (v y : List α) : ∀ x : List α, ¬ q <:+: x ++ q.dropLast →
    findText (q ++ v) (x ++ (q ++ v ++ y)) = some x.length
  | [], _ => findText_of_prefix (List.prefix_append _ _)
  | c :: x, hq => by
    have hstep : ¬ q ++ v <+: c :: (x ++ (q ++ v ++ y)) := by
      intro h
      have hwhole : q <+: c :: (x ++ (q ++ v ++ y)) := (List.prefix_append q v).trans h
      have hstart : c :: x ++ q.dropLast <+: c :: (x ++ (q ++ v ++ y)) := by
        rw [← List.cons_append, List.prefix_append_right_inj, List.append_assoc]
        exact (List.dropLast_prefix q).trans (List.prefix_append _ _)
      have hlen : q.length ≤ (c :: x ++ q.dropLast).length := by
        rw [List.length_append, List.length_dropLast, List.length_cons]
        omega
      exact hq (List.prefix_of_prefix_length_le hwhole hstart hlen).isInfix
    have hrest : ¬ q <:+: x ++ q.dropLast := fun h => hq (List.infix_cons h)
    rw [List.cons_append, findText, if_neg hstep, findText_append v y x hrest]
    rfl

omit [DecidableEq α] in
theorem prefix_of_prefix_append_cons {q u w : List α} {c : α} (hc : c ∉ q) (h : q <+: u ++ c :: w) : q <+: u := by
  rcases Nat.le_total q.length u.length with hlen | hlen
  · exact List.prefix_of_prefix_length_le h (List.prefix_append u _) hlen
  · rcases Nat.eq_or_lt_of_le hlen with heq | hlt
    · exact List.prefix_of_prefix_length_le h (List.prefix_append u _) heq.ge
    · have hu : u ++ [c] <+: u ++ c :: w := ⟨w, by rw [List.append_assoc, List.singleton_append]⟩
      have hlen' : (u ++ [c]).length ≤ q.length := by
        rw [List.length_append, List.length_singleton]
        omega
      have hq : u ++ [c] <+: q := List.prefix_of_prefix_length_le hu h hlen'
      exact absurd (hq.subset (List.mem_append_right u (List.mem_singleton_self c))) hc

omit [DecidableEq α] in
/-- **Separators.** What does not contain the separator is in a divided text only if it is in one of the parts. -/
theorem infix_append_cons_iff {q : List α} {c : α} (hc : c ∉ q) {w : List α} : ∀ {u : List α},
    q <:+: u ++ c :: w ↔ q <:+: u ∨ q <:+: w
  | [] => by
    rw [List.nil_append, List.infix_cons_iff, List.infix_nil]
    refine or_congr_left ⟨fun h => ?_, fun h => h ▸ List.nil_prefix⟩
    exact List.prefix_nil.1 (prefix_of_prefix_append_cons (u := []) hc h)
  | a :: u => by
    rw [List.cons_append, List.infix_cons_iff, infix_append_cons_iff hc, List.infix_cons_iff, or_assoc]
    refine or_congr_left ⟨fun h => prefix_of_prefix_append_cons (u := a :: u) hc h, fun h => ?_⟩
    exact h.trans (List.prefix_append (a :: u) (c :: w))

omit [DecidableEq α] in
/-- A list in which no two neighbours are as in `q` does not contain `q`. -/
theorem not_infix_of_isChain {R : α → α → Prop} {q l : List α} (hl : l.IsChain R) (hq : ¬ q.IsChain R) : ¬ q <:+: l :=
  fun h => hq ( hl.infix h)

end BmcLib
