import Bmc.Lib.Device
import Bmc.Asd.JtagHandler

/-!
# The TAP controller

The state graph of a test access port, and the table of the driver that leads from each of its states to each other.

* `TapState.next`: the graph; `tapAfter`, `clocked`: the state after some cycles, and the cycles that a state has seen;
* `tmsCycleLookup`: the table, with **`walk_tmsCycle`**: each entry leads from its row to its column;
* `clocked_stay`: cycles that stay in a state.
-/

namespace BmcAsd

open BmcLib

/-! ## The graph -/

/-- The next state, for a level of `TMS` at the rising edge of `TCK`. -/
def TapState.next : TapState → Bool → TapState
  | .tlr, tms => if tms then .tlr else .rti
  | .rti, tms => if tms then .selDr else .rti
  | .selDr, tms => if tms then .selIr else .capDr
  | .capDr, tms => if tms then .ex1Dr else .shfDr
  | .shfDr, tms => if tms then .ex1Dr else .shfDr
  | .ex1Dr, tms => if tms then .updDr else .pauDr
  | .pauDr, tms => if tms then .ex2Dr else .pauDr
  | .ex2Dr, tms => if tms then .updDr else .shfDr
  | .updDr, tms => if tms then .selDr else .rti
  | .selIr, tms => if tms then .tlr else .capIr
  | .capIr, tms => if tms then .ex1Ir else .shfIr
  | .shfIr, tms => if tms then .ex1Ir else .shfIr
  | .ex1Ir, tms => if tms then .updIr else .pauIr
  | .pauIr, tms => if tms then .ex2Ir else .pauIr
  | .ex2Ir, tms => if tms then .updIr else .shfIr
  | .updIr, tms => if tms then .selDr else .rti

/-- A cycle of `TCK`, with the levels of `TMS` and `TDI`. -/
structure TckCycle where
  tms : Bool
  tdi : Bool
  deriving DecidableEq

/-- Cycles, each with the level of `TDO`. -/
abbrev Trace := List (TckCycle × Bool)

/-- The state after some cycles. -/
def tapAfter (s : TapState) (t : Trace) : TapState := t.foldl (fun s p => s.next p.1.tms) s

/-- The cycles that come while the controller is in the state `r`. -/
def clocked (r : TapState) : TapState → Trace → Trace
  | _, [] => []
  | s, p :: t => if s = r then p :: clocked r (s.next p.1.tms) t else clocked r (s.next p.1.tms) t

attribute [local grind =] clocked

section Trace

variable {r s : TapState} {t t' : Trace}

theorem tapAfter_append (s : TapState) (t t' : Trace) : tapAfter s (t ++ t') = tapAfter (tapAfter s t) t' :=
  List.foldl_append

theorem clocked_append (r s : TapState) (t t' : Trace) :
    clocked r s (t ++ t') = clocked r s t ++ clocked r (tapAfter s t) t' := by
  induction t generalizing s with
  | nil => rfl
  | cons p t ih =>
    rw [List.cons_append, clocked, clocked, ih]
    split_ifs <;> rfl

/-- **Cycles that stay** in a state are all seen by it. -/
theorem clocked_stay (hs : s.next false = s) (ht : ∀ p ∈ t, p.1.tms = false) : clocked s s t = t ∧ tapAfter s t = s := by
  induction t with
  | nil => exact ⟨rfl, rfl⟩
  | cons p t ih =>
    obtain ⟨hp, ht⟩ := List.forall_mem_cons.1 ht
    obtain ⟨hclocked, hafter⟩ := ih ht
    rw [clocked, if_pos rfl, hp, hs, hclocked]
    refine ⟨rfl, ?_⟩
    rw [tapAfter, List.foldl_cons, hp, hs]
    exact hafter

theorem clocked_subset : ∀ p ∈ clocked r s t, p ∈ t := by
  induction t generalizing s with
  | nil => exact fun p hp => hp
  | cons q t ih =>
    intro p hp
    rw [clocked] at hp
    split_ifs at hp with hs
    · rcases List.mem_cons.1 hp with rfl | hp
      · exact List.mem_cons_self
      · exact List.mem_cons_of_mem _ (ih p hp)
    · exact List.mem_cons_of_mem _ (ih p hp)

theorem length_clocked_le (r s : TapState) (t : Trace) : (clocked r s t).length ≤ t.length := by
  induction t generalizing s with
  | nil => exact le_refl _
  | cons q t ih =>
    rw [clocked, List.length_cons]
    split_ifs
    · exact Nat.succ_le_succ (ih _)
    · exact (ih _).trans (Nat.le_succ _)

/-- A state that sees all cycles sees the first. -/
theorem eq_of_length_clocked (ht : t ≠ []) (h : (clocked r s t).length = t.length) : s = r := by
  cases t with
  | nil => exact absurd rfl ht
  | cons p t =>
    by_contra hs
    have hle := length_clocked_le r (s.next p.1.tms) t
    rw [clocked, if_neg hs, List.length_cons] at h
    omega

end Trace

/-- The state after some levels of `TMS`. -/
def TapState.walk (s : TapState) (levels : List Bool) : TapState := levels.foldl TapState.next s

/-- The levels of `TMS` of some cycles. -/
def Trace.levels (t : Trace) : List Bool := t.map fun p => p.1.tms

theorem tapAfter_eq_walk (s : TapState) (t : Trace) : tapAfter s t = s.walk t.levels := by
  rw [tapAfter, TapState.walk, Trace.levels, List.foldl_map]

/-- A state sees nothing when it is not visited before the end. -/
theorem clocked_eq_nil_iff {r s : TapState} {t : Trace} :
    clocked r s t = [] ↔ ∀ k < t.levels.length, s.walk (t.levels.take k) ≠ r := by
  induction t generalizing s with
  | nil => exact ⟨fun _ k hk => absurd hk (Nat.not_lt_zero k), fun _ => rfl⟩
  | cons p t ih =>
    have hlevels : Trace.levels (p :: t) = p.1.tms :: Trace.levels t := rfl
    rw [clocked, hlevels, List.length_cons, Nat.forall_lt_succ_left]
    by_cases hs : s = r
    · rw [if_pos hs]
      exact iff_of_false (List.cons_ne_nil _ _) fun h => h.1 hs
    · rw [if_neg hs, ih]
      exact ⟨fun h => ⟨hs, h⟩, fun h => h.2⟩

/-! ## The table -/

/-- `struct tms_cycle` -/
structure TmsCycle where
  tmsbits : UInt8
  count : ℕ

/-- The number of a state. -/
def TapState.toNat : TapState → ℕ
  | .tlr => 0 | .rti => 1 | .selDr => 2 | .capDr => 3 | .shfDr => 4 | .ex1Dr => 5 | .pauDr => 6 | .ex2Dr => 7
  | .updDr => 8 | .selIr => 9 | .capIr => 10 | .shfIr => 11 | .ex1Ir => 12 | .pauIr => 13 | .ex2Ir => 14 | .updIr => 15

/-- A row of `_tms_cycle_lookup`. -/
def tmsCycleRow : TapState → List TmsCycle
  | .tlr => [⟨0x00, 0⟩, ⟨0x00, 1⟩, ⟨0x02, 2⟩, ⟨0x02, 3⟩, ⟨0x02, 4⟩, ⟨0x0a, 4⟩, ⟨0x0a, 5⟩, ⟨0x2a, 6⟩,
      ⟨0x1a, 5⟩, ⟨0x06, 3⟩, ⟨0x06, 4⟩, ⟨0x06, 5⟩, ⟨0x16, 5⟩, ⟨0x16, 6⟩, ⟨0x56, 7⟩, ⟨0x36, 6⟩]
  | .rti => [⟨0x07, 3⟩, ⟨0x00, 0⟩, ⟨0x01, 1⟩, ⟨0x01, 2⟩, ⟨0x01, 3⟩, ⟨0x05, 3⟩, ⟨0x05, 4⟩, ⟨0x15, 5⟩,
      ⟨0x0d, 4⟩, ⟨0x03, 2⟩, ⟨0x03, 3⟩, ⟨0x03, 4⟩, ⟨0x0b, 4⟩, ⟨0x0b, 5⟩, ⟨0x2b, 6⟩, ⟨0x1b, 5⟩]
  | .selDr => [⟨0x03, 2⟩, ⟨0x03, 3⟩, ⟨0x00, 0⟩, ⟨0x00, 1⟩, ⟨0x00, 2⟩, ⟨0x02, 2⟩, ⟨0x02, 3⟩, ⟨0x0a, 4⟩,
      ⟨0x06, 3⟩, ⟨0x01, 1⟩, ⟨0x01, 2⟩, ⟨0x01, 3⟩, ⟨0x05, 3⟩, ⟨0x05, 4⟩, ⟨0x15, 5⟩, ⟨0x0d, 4⟩]
  | .capDr => [⟨0x1f, 5⟩, ⟨0x03, 3⟩, ⟨0x07, 3⟩, ⟨0x00, 0⟩, ⟨0x00, 1⟩, ⟨0x01, 1⟩, ⟨0x01, 2⟩, ⟨0x05, 3⟩,
      ⟨0x03, 2⟩, ⟨0x0f, 4⟩, ⟨0x0f, 5⟩, ⟨0x0f, 6⟩, ⟨0x2f, 6⟩, ⟨0x2f, 7⟩, ⟨0xaf, 8⟩, ⟨0x6f, 7⟩]
  | .shfDr => [⟨0x1f, 5⟩, ⟨0x03, 3⟩, ⟨0x07, 3⟩, ⟨0x07, 4⟩, ⟨0x00, 0⟩, ⟨0x01, 1⟩, ⟨0x01, 2⟩, ⟨0x05, 3⟩,
      ⟨0x03, 2⟩, ⟨0x0f, 4⟩, ⟨0x0f, 5⟩, ⟨0x0f, 6⟩, ⟨0x2f, 6⟩, ⟨0x2f, 7⟩, ⟨0xaf, 8⟩, ⟨0x6f, 7⟩]
  | .ex1Dr => [⟨0x0f, 4⟩, ⟨0x01, 2⟩, ⟨0x03, 2⟩, ⟨0x03, 3⟩, ⟨0x02, 3⟩, ⟨0x00, 0⟩, ⟨0x00, 1⟩, ⟨0x02, 2⟩,
      ⟨0x01, 1⟩, ⟨0x07, 3⟩, ⟨0x07, 4⟩, ⟨0x07, 5⟩, ⟨0x17, 5⟩, ⟨0x17, 6⟩, ⟨0x57, 7⟩, ⟨0x37, 6⟩]
  | .pauDr => [⟨0x1f, 5⟩, ⟨0x03, 3⟩, ⟨0x07, 3⟩, ⟨0x07, 4⟩, ⟨0x01, 2⟩, ⟨0x05, 3⟩, ⟨0x00, 0⟩, ⟨0x01, 1⟩,
      ⟨0x03, 2⟩, ⟨0x0f, 4⟩, ⟨0x0f, 5⟩, ⟨0x0f, 6⟩, ⟨0x2f, 6⟩, ⟨0x2f, 7⟩, ⟨0xaf, 8⟩, ⟨0x6f, 7⟩]
  | .ex2Dr => [⟨0x0f, 4⟩, ⟨0x01, 2⟩, ⟨0x03, 2⟩, ⟨0x03, 3⟩, ⟨0x00, 1⟩, ⟨0x02, 2⟩, ⟨0x02, 3⟩, ⟨0x00, 0⟩,
      ⟨0x01, 1⟩, ⟨0x07, 3⟩, ⟨0x07, 4⟩, ⟨0x07, 5⟩, ⟨0x17, 5⟩, ⟨0x17, 6⟩, ⟨0x57, 7⟩, ⟨0x37, 6⟩]
  | .updDr => [⟨0x07, 3⟩, ⟨0x00, 1⟩, ⟨0x01, 1⟩, ⟨0x01, 2⟩, ⟨0x01, 3⟩, ⟨0x05, 3⟩, ⟨0x05, 4⟩, ⟨0x15, 5⟩,
      ⟨0x00, 0⟩, ⟨0x03, 2⟩, ⟨0x03, 3⟩, ⟨0x03, 4⟩, ⟨0x0b, 4⟩, ⟨0x0b, 5⟩, ⟨0x2b, 6⟩, ⟨0x1b, 5⟩]
  | .selIr => [⟨0x01, 1⟩, ⟨0x01, 2⟩, ⟨0x05, 3⟩, ⟨0x05, 4⟩, ⟨0x05, 5⟩, ⟨0x15, 5⟩, ⟨0x15, 6⟩, ⟨0x55, 7⟩,
      ⟨0x35, 6⟩, ⟨0x00, 0⟩, ⟨0x00, 1⟩, ⟨0x00, 2⟩, ⟨0x02, 2⟩, ⟨0x02, 3⟩, ⟨0x0a, 4⟩, ⟨0x06, 3⟩]
  | .capIr => [⟨0x1f, 5⟩, ⟨0x03, 3⟩, ⟨0x07, 3⟩, ⟨0x07, 4⟩, ⟨0x07, 5⟩, ⟨0x17, 5⟩, ⟨0x17, 6⟩, ⟨0x57, 7⟩,
      ⟨0x37, 6⟩, ⟨0x0f, 4⟩, ⟨0x00, 0⟩, ⟨0x00, 1⟩, ⟨0x01, 1⟩, ⟨0x01, 2⟩, ⟨0x05, 3⟩, ⟨0x03, 2⟩]
  | .shfIr => [⟨0x1f, 5⟩, ⟨0x03, 3⟩, ⟨0x07, 3⟩, ⟨0x07, 4⟩, ⟨0x07, 5⟩, ⟨0x17, 5⟩, ⟨0x17, 6⟩, ⟨0x57, 7⟩,
      ⟨0x37, 6⟩, ⟨0x0f, 4⟩, ⟨0x0f, 5⟩, ⟨0x00, 0⟩, ⟨0x01, 1⟩, ⟨0x01, 2⟩, ⟨0x05, 3⟩, ⟨0x03, 2⟩]
  | .ex1Ir => [⟨0x0f, 4⟩, ⟨0x01, 2⟩, ⟨0x03, 2⟩, ⟨0x03, 3⟩, ⟨0x03, 4⟩, ⟨0x0b, 4⟩, ⟨0x0b, 5⟩, ⟨0x2b, 6⟩,
      ⟨0x1b, 5⟩, ⟨0x07, 3⟩, ⟨0x07, 4⟩, ⟨0x02, 3⟩, ⟨0x00, 0⟩, ⟨0x00, 1⟩, ⟨0x02, 2⟩, ⟨0x01, 1⟩]
  | .pauIr => [⟨0x1f, 5⟩, ⟨0x03, 3⟩, ⟨0x07, 3⟩, ⟨0x07, 4⟩, ⟨0x07, 5⟩, ⟨0x17, 5⟩, ⟨0x17, 6⟩, ⟨0x57, 7⟩,
      ⟨0x37, 6⟩, ⟨0x0f, 4⟩, ⟨0x0f, 5⟩, ⟨0x01, 2⟩, ⟨0x05, 3⟩, ⟨0x00, 0⟩, ⟨0x01, 1⟩, ⟨0x03, 2⟩]
  | .ex2Ir => [⟨0x0f, 4⟩, ⟨0x01, 2⟩, ⟨0x03, 2⟩, ⟨0x03, 3⟩, ⟨0x03, 4⟩, ⟨0x0b, 4⟩, ⟨0x0b, 5⟩, ⟨0x2b, 6⟩,
      ⟨0x1b, 5⟩, ⟨0x07, 3⟩, ⟨0x07, 4⟩, ⟨0x00, 1⟩, ⟨0x02, 2⟩, ⟨0x02, 3⟩, ⟨0x00, 0⟩, ⟨0x01, 1⟩]
  | .updIr => [⟨0x07, 3⟩, ⟨0x00, 1⟩, ⟨0x01, 1⟩, ⟨0x01, 2⟩, ⟨0x01, 3⟩, ⟨0x05, 3⟩, ⟨0x05, 4⟩, ⟨0x15, 5⟩,
      ⟨0x0d, 4⟩, ⟨0x03, 2⟩, ⟨0x03, 3⟩, ⟨0x03, 4⟩, ⟨0x0b, 4⟩, ⟨0x0b, 5⟩, ⟨0x2b, 6⟩, ⟨0x00, 0⟩]

/-- `_tms_cycle_lookup[src][dst]` -/
def tmsCycleLookup (src dst : TapState) : TmsCycle := (tmsCycleRow src).getD dst.toNat ⟨0, 0⟩

/-- The levels of `TMS` of an entry. -/
def TmsCycle.levels (c : TmsCycle) : List Bool := (List.range c.count).map fun i => c.tmsbits >>> UInt8.ofNat i &&& 1 = 1

/-- **The table is right.** Each entry leads from its row to its column. -/
theorem walk_tmsCycle (src dst : TapState) : src.walk (tmsCycleLookup src dst).levels = dst := by
  cases src <;> cases dst <;> decide +kernel

/-- On the way to a shift state, and from the state behind it to another one, the table does not pass through it. -/
theorem walk_tmsCycle_take {r e : TapState} (hr : r = .shfDr ∧ e = .ex1Dr ∨ r = .shfIr ∧ e = .ex1Ir) (s : TapState) :
    (∀ k < (tmsCycleLookup s r).levels.length, s.walk ((tmsCycleLookup s r).levels.take k) ≠ r) ∧
      (s ≠ r → ∀ k < (tmsCycleLookup e s).levels.length, e.walk ((tmsCycleLookup e s).levels.take k) ≠ r) := by
  rcases hr with ⟨rfl, rfl⟩ | ⟨rfl, rfl⟩ <;> cases s <;> decide +kernel

end BmcAsd
