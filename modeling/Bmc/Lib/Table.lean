import Mathlib.Tactic

/-!
# Tables written by a loop

A loop writes entries of a table; what it writes may depend on the state, where it writes does not.

* `Written`: what a loop makes of a table;
* `WritesAt`, **`Written.foldl`**: a loop each of whose passes writes at most one entry;
* `Written.append`, `Written.filterMap`: one loop after another, and items that write nothing;
* `lookup_eq_some_iff_mem`, `map_modify_of_eq`: tables that are lists of entries;
* `findIdx_split`: the first entry that passes a test.
-/

namespace BmcLib

variable {σ α β κ ν : Type*}

/-- The items of a loop write entries of the table `t`, each at its place, if it has one. The table `t'` keeps
the entries that none writes, and holds what is written where there is one writer only. -/
structure Written (place : α → Option κ) (Fits : α → ν → Prop) (l : List α) (t t' : κ → Option ν) :
    Prop where
  of_forall_ne : ∀ k, (∀ a ∈ l, place a ≠ some k) → t' k = t k
  of_unique : ∀ k, ∀ a ∈ l, place a = some k → (∀ b ∈ l, place b = some k → b = a) →
    ∃ v, Fits a v ∧ t' k = some v

namespace Written

variable {place : α → Option κ} {Fits : α → ν → Prop} {l l' : List α} {t t' t'' : κ → Option ν}

theorem nil (t : κ → Option ν) : Written place Fits [] t t where
  of_forall_ne _ _ := rfl
  of_unique _ _ ha := absurd ha List.not_mem_nil

/-- Two loops, one after the other. -/
theorem append (h : Written place Fits l t t') (h' : Written place Fits l' t' t'') :
    Written place Fits (l ++ l') t t'' where
  of_forall_ne k hk := by
    rw [h'.of_forall_ne k fun a ha => hk a (List.mem_append_right l ha)]
    exact h.of_forall_ne k fun a ha => hk a (List.mem_append_left l' ha)
  of_unique k a ha hk hother := by
    by_cases hlast : ∃ b ∈ l', place b = some k
    · obtain ⟨b, hb, hbk⟩ := hlast
      obtain rfl := hother b (List.mem_append_right l hb) hbk
      exact h'.of_unique k b hb hbk fun c hc => hother c (List.mem_append_right l hc)
    · have hno : ∀ b ∈ l', place b ≠ some k := fun b hb hbk => hlast ⟨b, hb, hbk⟩
      rw [h'.of_forall_ne k hno]
      rcases List.mem_append.1 ha with ha | ha
      · exact h.of_unique k a ha hk fun c hc => hother c (List.mem_append_left l' hc)
      · exact absurd hk (hno a ha)

/-- Only some of the items write, each as what it stands for. -/
theorem filterMap {f : β → Option α} {l : List β}
    (hf : ∀ b ∈ l, ∀ c ∈ l, ∀ a, f b = some a → f c = some a → c = b)
    (h : Written (fun b => (f b).bind place) (fun b v => ∃ a, f b = some a ∧ Fits a v) l t t') :
    Written place Fits (l.filterMap f) t t' where
  of_forall_ne k hk := by
    refine h.of_forall_ne k fun b hb hbk => ?_
    obtain ⟨a, ha, hak⟩ := Option.bind_eq_some_iff.1 hbk
    exact hk a (List.mem_filterMap.2 ⟨b, hb, ha⟩) hak
  of_unique k a ha hk hother := by
    obtain ⟨b, hb, hba⟩ := List.mem_filterMap.1 ha
    have hbk : (f b).bind place = some k := Option.bind_eq_some_iff.2 ⟨a, hba, hk⟩
    obtain ⟨v, ⟨a', ha', hv⟩, ht⟩ := h.of_unique k b hb hbk fun c hc hck => by
      obtain ⟨a', ha', hak⟩ := Option.bind_eq_some_iff.1 hck
      obtain rfl := hother a' (List.mem_filterMap.2 ⟨c, hc, ha'⟩) hak
      exact hf b hb c hc a' hba ha'
    obtain rfl := Option.some_inj.1 (hba.symm.trans ha')
    exact ⟨v, hv, ht⟩

end Written

/-! ## Lists of entries -/

section Lookup

variable [BEq κ] [LawfulBEq κ]

/-- The keys are different, so that an entry is found. -/
theorem lookup_of_mem {l : List (κ × ν)} (hnodup : (l.map Prod.fst).Nodup) {e : κ × ν} (h : e ∈ l) :
    l.lookup e.1 = some e.2 := by
  obtain ⟨s, t, hst⟩ := List.append_of_mem h
  refine List.lookup_eq_some_iff.2 ⟨s, t, hst, fun p hp => ?_⟩
  rw [hst, List.map_append, List.map_cons] at hnodup
  have hne : e.1 ≠ p.1 := fun heq =>
    (List.nodup_append.1 hnodup).2.2 p.1 (List.mem_map_of_mem hp) e.1 List.mem_cons_self heq.symm
  simpa using hne

theorem lookup_eq_some_iff_mem {l : List (κ × ν)} (hnodup : (l.map Prod.fst).Nodup) {k : κ} {v : ν} :
    l.lookup k = some v ↔ (k, v) ∈ l := by
  constructor
  · intro h
    obtain ⟨s, t, hst, -⟩ := List.lookup_eq_some_iff.1 h
    rw [hst]
    exact List.mem_append_right s List.mem_cons_self
  · exact lookup_of_mem hnodup

end Lookup

/-- A change of one entry keeps what it does not touch. -/
theorem map_modify_of_eq {f : α → β} {g : α → α} (l : List α) {i : ℕ}
    (h : ∀ a, f (g a) = f a) : (l.modify i g).map f = l.map f := by
  refine List.ext_getElem? fun j => ?_
  rw [List.getElem?_map, List.getElem?_map, List.getElem?_modify]
  cases l[j]? with
  | none => rfl
  | some a =>
    change some (f (if i = j then g a else a)) = some (f a)
    split_ifs
    · rw [h]
    · rfl

/-- The first entry that passes a test, with those ahead of it. -/
theorem findIdx_split {p : α → Bool} {l : List α} (h : ∃ a ∈ l, p a = true) :
    ∃ s a t, l = s ++ a :: t ∧ p a = true ∧ (∀ b ∈ s, p b = false) ∧ l.findIdx p = s.length := by
  induction l with
  | nil => obtain ⟨a, ha, -⟩ := h; cases ha
  | cons a l ih =>
    cases hp : p a with
    | true => exact ⟨[], a, l, rfl, hp, fun b hb => absurd hb List.not_mem_nil, by simp [List.findIdx_cons, hp]⟩
    | false =>
      have hrest : ∃ b ∈ l, p b = true := by
        obtain ⟨b, hb, hpb⟩ := h
        rcases List.mem_cons.1 hb with rfl | hb
        · exact absurd hpb (by rw [hp]; decide)
        · exact ⟨b, hb, hpb⟩
      obtain ⟨s, b, t, rfl, hpb, hs, hidx⟩ := ih hrest
      refine ⟨a :: s, b, t, rfl, hpb, fun c hc => ?_, by simp [List.findIdx_cons, hp, hidx]⟩
      rcases List.mem_cons.1 hc with rfl | hc
      · exact hp
      · exact hs c hc

theorem modify_length_append (s : List α) (a : α) (t : List α) (f : α → α) :
    (s ++ a :: t).modify s.length f = s ++ f a :: t := by
  induction s with
  | nil => rfl
  | cons b s ih => exact congrArg (b :: ·) ih

theorem eraseIdx_length_append (s : List α) (a : α) (t : List α) : (s ++ a :: t).eraseIdx s.length = s ++ t := by
  induction s with
  | nil => rfl
  | cons b s ih => exact congrArg (b :: ·) ih

/-! ## Loops -/

variable [DecidableEq κ]

/-- A pass for the item `a` writes the entry `place a`, if any, with a value that fits the item. -/
def WritesAt (table : σ → κ → Option ν) (place : α → Option κ) (Fits : α → ν → Prop)
    (step : σ → α → σ) (a : α) : Prop :=
  ∀ s, match place a with
    | none => table (step s a) = table s
    | some k => ∃ v, Fits a v ∧ table (step s a) = Function.update (table s) k (some v)

variable {table : σ → κ → Option ν} {place : α → Option κ} {Fits : α → ν → Prop} {step : σ → α → σ}

theorem WritesAt.written {a : α} (h : WritesAt table place Fits step a) (s : σ) :
    Written place Fits [a] (table s) (table (step s a)) := by
  have hs := h s
  cases hplace : place a with
  | none =>
    rw [hplace] at hs
    refine ⟨fun k _ => by rw [hs], fun k b hb hk _ => ?_⟩
    rw [List.mem_singleton.1 hb, hplace] at hk
    exact absurd hk (Option.some_ne_none k).symm
  | some k' =>
    rw [hplace] at hs
    obtain ⟨v, hfits, hv⟩ := hs
    refine ⟨fun k hk => ?_, fun k b hb hk _ => ?_⟩
    · rw [hv, Function.update_of_ne]
      rintro rfl
      exact hk a (List.mem_singleton.2 rfl) hplace
    · obtain rfl := List.mem_singleton.1 hb
      obtain rfl := Option.some_inj.1 (hplace.symm.trans hk)
      exact ⟨v, hfits, by rw [hv, Function.update_self]⟩

variable (table) in
/-- **Loops.** -/
theorem Written.foldl {l : List α} (h : ∀ a ∈ l, WritesAt table place Fits step a) (s : σ) :
    Written place Fits l (table s) (table (l.foldl step s)) := by
  induction l generalizing s with
  | nil => exact Written.nil _
  | cons a l ih =>
    exact ((h a List.mem_cons_self).written s).append
      (ih (fun b hb => h b (List.mem_cons_of_mem a hb)) (step s a))

end BmcLib
