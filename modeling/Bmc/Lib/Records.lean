import Mathlib.Tactic
import Bmc.Lib.Loop

/-!
# Records in a row

A buffer that is filled with records, one behind the other, and the walk from record to record.

* `recordPos`: where a record begins;
* `FirstFrom`: the first of some positions that has a property, or the end;
* `walk`: a walk whose reads may fail and that gives up when it runs out of rounds, with `whileN_of_walk`;
* **`walk_records`**: a walk over records ends at the first one it looks for.
-/

namespace BmcLib

/-! ## Positions -/

section Positions

variable {κ : Type*} {size : κ → ℕ} {ks : List κ} {p q : ℕ}

/-- Where the record `p` begins. -/
def recordPos (size : κ → ℕ) (ks : List κ) (p : ℕ) : ℕ := ((ks.take p).map size).sum

theorem recordPos_succ (h : p < ks.length) : recordPos size ks (p + 1) = recordPos size ks p + size ks[p] := by
  rw [recordPos, List.take_succ_eq_append_getElem h, List.map_append, List.sum_append, List.map_singleton, List.sum_singleton]
  rfl

theorem recordPos_append (size : κ → ℕ) (ks ks' : List κ) (h : p ≤ ks.length) :
    recordPos size (ks ++ ks') p = recordPos size ks p := by
  rw [recordPos, List.take_append_of_le_length h]
  rfl

/-- Later records begin later. -/
theorem recordPos_lt (hpos : ∀ k, 0 < size k) (hpq : p < q) (hq : q ≤ ks.length) :
    recordPos size ks p < recordPos size ks q := by
  induction q with
  | zero => exact absurd hpq (Nat.not_lt_zero p)
  | succ q ih =>
    rw [recordPos_succ hq]
    rcases Nat.lt_succ_iff_lt_or_eq.1 hpq with hpq | rfl
    · exact (ih hpq (Nat.le_of_succ_le hq)).trans_le (Nat.le_add_right _ _)
    · exact Nat.lt_add_of_pos_right (hpos _)

theorem recordPos_le (hpos : ∀ k, 0 < size k) (hpq : p ≤ q) (hq : q ≤ ks.length) :
    recordPos size ks p ≤ recordPos size ks q := by
  rcases hpq.eq_or_lt with rfl | hpq
  · exact le_refl _
  · exact (recordPos_lt hpos hpq hq).le

/-- Different records begin at different places. -/
theorem recordPos_inj (hpos : ∀ k, 0 < size k) (hp : p ≤ ks.length) (hq : q ≤ ks.length)
    (h : recordPos size ks p = recordPos size ks q) : p = q := by
  rcases lt_trichotomy p q with hpq | heq | hqp
  · exact absurd h (recordPos_lt hpos hpq hq).ne
  · exact heq
  · exact absurd h (recordPos_lt hpos hqp hp).ne'

end Positions

/-! ## The first one -/

/-- `p` is the first position from `q` on that has the property, or `n` when there is none before `n`. -/
structure FirstFrom (P : ℕ → Prop) (n q p : ℕ) : Prop where
  le : q ≤ p
  le_end : p ≤ n
  before : ∀ x, q ≤ x → x < p → ¬ P x
  found : p < n → P p

section FirstFrom

variable {P : ℕ → Prop} {n p p' q : ℕ}

theorem exists_firstFrom (P : ℕ → Prop) [DecidablePred P] (hq : q ≤ n) : ∃ p, FirstFrom P n q p := by
  induction hk : n - q generalizing q with
  | zero =>
    obtain rfl : q = n := by omega
    exact ⟨q, le_refl q, le_refl q, fun x hqx hxq => absurd hxq (not_lt.2 hqx), fun h => absurd h (lt_irrefl q)⟩
  | succ k ih =>
    by_cases hP : P q
    · exact ⟨q, le_refl q, hq, fun x hqx hxq => absurd hxq (not_lt.2 hqx), fun _ => hP⟩
    · obtain ⟨p, hp⟩ := ih (q := q + 1) (by omega) (by omega)
      refine ⟨p, Nat.le_of_succ_le hp.le, hp.le_end, fun x hqx hxp => ?_, hp.found⟩
      rcases hqx.eq_or_lt with rfl | hqx
      · exact hP
      · exact hp.before x hqx hxp

theorem FirstFrom.unique (h : FirstFrom P n q p) (h' : FirstFrom P n q p') : p = p' := by
  rcases lt_trichotomy p p' with hlt | heq | hlt
  · exact absurd (h.found (hlt.trans_le h'.le_end)) (h'.before p h.le hlt)
  · exact heq
  · exact absurd (h'.found (hlt.trans_le h.le_end)) (h.before p' h'.le hlt)

/-- The first one is not behind one that has the property. -/
theorem FirstFrom.le_of (h : FirstFrom P n q p) {x : ℕ} (hqx : q ≤ x) (hx : P x) : p ≤ x :=
  not_lt.1 fun hlt => h.before x hqx hlt hx

end FirstFrom

/-! ## The walk -/

/-- Walk from place to place until `stop`, or to the end of the buffer. A read may fail; so does a walk of more than `n`
rounds. -/
def walk (stop : ℕ → Option Bool) (next : ℕ → Option ℕ) (bound : ℕ) : ℕ → ℕ → Option ℕ
  | 0, i => if i < bound then none else some i
  | n + 1, i =>
    if i < bound then (stop i).bind fun b => if b then some i else (next i).bind (walk stop next bound n)
    else some i

section Walk

variable {stop : ℕ → Option Bool} {next : ℕ → Option ℕ} {bound : ℕ}

/-- A walk that succeeds is the loop with the same reads. -/
theorem whileN_of_walk {stop' : ℕ → Bool} {next' : ℕ → ℕ} (hstop : ∀ i b, stop i = some b → stop' i = b)
    (hnext : ∀ i j, next i = some j → next' i = j) {n i r : ℕ} (h : walk stop next bound n i = some r) :
    whileN (fun i => i < bound && !stop' i) next' n i = r := by
  induction n generalizing i with
  | zero =>
    rw [walk] at h
    split_ifs at h
    exact Option.some.inj h
  | succ n ih =>
    rw [walk] at h
    split_ifs at h with hi
    · obtain ⟨b, hb, h⟩ := Option.bind_eq_some_iff.1 h
      split_ifs at h with hbt
      · rw [whileN_of_exit, Option.some.inj h]
        rw [hstop i b hb, hbt, Bool.not_true, Bool.and_false]
      · obtain ⟨j, hj, h⟩ := Option.bind_eq_some_iff.1 h
        rw [whileN_succ_pos, hnext i j hj, ih h]
        rw [hstop i b hb, Bool.eq_false_of_not_eq_true hbt, Bool.not_false, Bool.and_true, decide_eq_true hi]
    · rw [whileN_of_exit, Option.some.inj h]
      rw [decide_eq_false hi, Bool.false_and]

/-- **A walk over records** ends at the first one it looks for. -/
theorem walk_records {κ : Type*} {size : κ → ℕ} {ks : List κ} (hpos : ∀ k, 0 < size k)
    (hend : recordPos size ks ks.length = bound)
    {b : ℕ → Bool} (hstop : ∀ p < ks.length, stop (recordPos size ks p) = some (b p))
    (hnext : ∀ p < ks.length, next (recordPos size ks p) = some (recordPos size ks (p + 1)))
    {q p : ℕ} (h : FirstFrom (fun x => b x = true) ks.length q p) {n : ℕ} (hn : bound ≤ n + recordPos size ks q) :
    walk stop next bound n (recordPos size ks q) = some (recordPos size ks p) := by
  induction n generalizing q with
  | zero =>
    have hq : q = ks.length := by
      by_contra hne
      have hlt := recordPos_lt hpos (lt_of_le_of_ne (h.le.trans h.le_end) hne) (le_refl _)
      omega
    obtain rfl : q = p := le_antisymm h.le (h.le_end.trans_eq hq.symm)
    rw [walk, if_neg]
    omega
  | succ n ih =>
    rw [walk]
    by_cases hq : q < ks.length
    · have hlt : recordPos size ks q < bound := hend ▸ recordPos_lt hpos hq (le_refl _)
      rw [if_pos hlt, hstop q hq, Option.bind_some]
      by_cases hb : b q = true
      · have hqp : p = q := le_antisymm (h.le_of (le_refl q) hb) h.le
        rw [if_pos hb, hqp]
      · have hqp : q ≠ p := by
          rintro rfl
          exact hb (h.found hq)
        rw [if_neg hb, hnext q hq, Option.bind_some]
        refine ih ⟨lt_of_le_of_ne h.le hqp, h.le_end, fun x hx => h.before x (Nat.le_of_succ_le hx), h.found⟩ ?_
        have hsucc := recordPos_lt hpos (Nat.lt_add_one q) hq
        omega
    · have hq : q = ks.length := le_antisymm (h.le.trans h.le_end) (not_lt.1 hq)
      obtain rfl : q = p := le_antisymm h.le (h.le_end.trans_eq hq.symm)
      rw [if_neg]
      rw [hq, hend]
      exact lt_irrefl _

end Walk

end BmcLib
