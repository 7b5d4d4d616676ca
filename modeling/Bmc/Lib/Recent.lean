import Mathlib.Tactic

/-!
# The most recent entries

A log of fixed size that replaces its smallest entry holds the last of the entries that came, when they came in order.

* `recent`: the last `m` entries of a history, with a filler where there are none;
* **`set_perm_recent`**: replacing a smallest entry;
* `all_recent_iff`: all of them satisfy an upward closed condition when enough of the history does.
-/

namespace BmcLib

variable {α : Type*} {m : ℕ} {z : α} {ts r : List α}

/-- The last `m` entries of the history `ts`, with `z` where there are none. -/
def recent (m : ℕ) (z : α) (ts : List α) : List α := (List.replicate m z ++ ts).drop ts.length

theorem recent_nil (m : ℕ) (z : α) : recent m z [] = List.replicate m z := by
  rw [recent, List.length_nil, List.drop_zero, List.append_nil]

theorem length_recent (m : ℕ) (z : α) (ts : List α) : (recent m z ts).length = m := by
  rw [recent, List.length_drop, List.length_append, List.length_replicate, Nat.add_sub_cancel]

/-- One more entry comes: the first of the last ones goes. -/
theorem recent_append (hm : 0 < m) (z t : α) (ts : List α) : recent m z (ts ++ [t]) = (recent m z ts).tail ++ [t] := by
  have hle : ts.length + 1 ≤ (List.replicate m z ++ ts).length := by
    rw [List.length_append, List.length_replicate]
    omega
  rw [recent, recent, ← List.append_assoc, List.length_append, List.length_singleton, List.drop_append_of_le_length hle,
    List.tail_drop]

variable [LinearOrder α]

theorem sorted_fill (hz : ∀ t ∈ ts, z ≤ t) (hs : ts.Pairwise (· ≤ ·)) : (List.replicate m z ++ ts).Pairwise (· ≤ ·) := by
  refine List.pairwise_append.2 ⟨List.pairwise_replicate.2 (.inr (le_refl z)), hs, fun a ha b hb => ?_⟩
  rw [List.eq_of_mem_replicate ha]
  exact hz b hb

theorem sorted_recent (hz : ∀ t ∈ ts, z ≤ t) (hs : ts.Pairwise (· ≤ ·)) : (recent m z ts).Pairwise (· ≤ ·) :=
  (sorted_fill hz hs).drop

/-- **Replacing a smallest entry.** The log still holds the last entries. -/
theorem set_perm_recent (hm : 0 < m) (hz : ∀ t ∈ ts, z ≤ t) (hs : ts.Pairwise (· ≤ ·)) (hr : r.Perm (recent m z ts))
    {i : ℕ} (hi : i < r.length) (hmin : ∀ a ∈ r, r[i] ≤ a) (t : α) : (r.set i t).Perm (recent m z (ts ++ [t])) := by
  have hsorted := sorted_recent (m := m) hz hs
  have hlen := length_recent m z ts
  rw [recent_append hm]
  rcases hrecent : recent m z ts with - | ⟨a, rest⟩
  · rw [hrecent, List.length_nil] at hlen
    omega
  rw [hrecent] at hr hsorted
  -- the entry that goes is the first of the last ones
  have hfirst : r[i] = a := by
    refine le_antisymm (hmin a (hr.mem_iff.2 List.mem_cons_self)) ?_
    rcases List.mem_cons.1 (hr.mem_iff.1 (List.getElem_mem hi)) with heq | hmem
    · exact heq.symm.le
    · exact (List.pairwise_cons.1 hsorted).1 _ hmem
  have hrest : (r.eraseIdx i).Perm rest := by
    refine List.Perm.cons_inv (a := a) ?_
    have herase := List.getElem_cons_eraseIdx_perm hi
    rw [hfirst] at herase
    exact herase.trans hr
  calc (r.set i t).Perm (t :: r.eraseIdx i) := List.set_perm_cons_eraseIdx hi t
    _ |>.Perm (t :: rest) := hrest.cons t
    _ |>.Perm (rest ++ [t]) := (List.perm_append_singleton t rest).symm

/-- **Enough entries.** All of the last `m` entries satisfy a condition that later entries satisfy too, exactly when `m` entries
do, fillers included. -/
theorem all_recent_iff (hz : ∀ t ∈ ts, z ≤ t) (hs : ts.Pairwise (· ≤ ·)) {p : α → Bool}
    (hp : ∀ a b, a ≤ b → p a = true → p b = true) :
    (∀ a ∈ recent m z ts, p a = true) ↔ m ≤ (List.replicate m z ++ ts).countP p := by
  have hsplit := List.take_append_drop ts.length (List.replicate m z ++ ts)
  have hsorted := sorted_fill (m := m) hz hs
  rw [← hsplit] at hsorted
  have hcount := congrArg (List.countP p) hsplit
  rw [List.countP_append] at hcount
  have hlen := length_recent m z ts
  change ((List.replicate m z ++ ts).take ts.length).countP p + (recent m z ts).countP p = _ at hcount
  constructor
  · intro hall
    rw [← hcount, List.countP_eq_length.2 hall, hlen]
    exact Nat.le_add_left _ _
  · intro hle a ha
    by_contra hnot
    -- then no entry before the last ones satisfies the condition either
    have hbefore : ((List.replicate m z ++ ts).take ts.length).countP p = 0 := by
      refine List.countP_eq_zero.2 fun b hb hpb => hnot (hp b a ?_ hpb)
      exact (List.pairwise_append.1 hsorted).2.2 b hb a ha
    have hfew : (recent m z ts).countP p < (recent m z ts).length :=
      lt_of_le_of_ne List.countP_le_length fun heq => hnot (List.countP_eq_length.1 heq a ha)
    omega

end BmcLib
