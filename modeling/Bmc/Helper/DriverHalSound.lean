import Mathlib
import Bmc.Lib.Table
import Bmc.Helper.DriverHal

/-!
# The numbers of hardware modules

* `Sound`: no number is given to two modules; `Sound.resolved`: then they are found by their numbers;
* `FirstGap`: the gap that a registration takes; `firstGap_findGap`: the search finds it;
* `sound_listAdd_iff`: the new module gets numbers of its own exactly when the gap is free;
* **`alwaysSound_iff`**: no number is ever given to two modules exactly when every registration takes a free gap.
-/

namespace BmcHelper

open BmcLib

variable {l : List HwHalList} {h k nh : HwHalList} {s : Hal} {t : EhalDevType} {i : ℕ}

namespace HwHalList

/-- The first minor number of a module. -/
def first (h : HwHalList) : ℕ := h.minorNum.toNat

/-- The first number behind those of a module. -/
def after (h : HwHalList) : ℕ := h.minorNum.toNat + h.hwHal.numInstances.toNat

/-- The minor numbers of a module. -/
def minors (h : HwHalList) : Set ℕ := Set.Ico h.first h.after

theorem holds_iff {minor : UInt8} : h.Holds minor ↔ minor.toNat ∈ h.minors := Iff.rfl

/-- What the numbers of a module depend on. -/
def numbers (h : HwHalList) : ℤ × UInt8 × UInt8 := (h.devId, h.minorNum, h.hwHal.numInstances)

end HwHalList

open HwHalList

/-! ## Numbers of one module only -/

/-- The modules of a device type have their numbers for themselves. -/
structure Sound (l : List HwHalList) : Prop where
  disjoint : l.Pairwise fun h k => Disjoint h.minors k.minors
  below : ∀ h ∈ l, h.after ≤ maxDevInstances
  devIds : (l.map devId).Nodup

/-- The modules of the type `t` are found by their numbers. -/
structure Resolved (s : Hal) (t : EhalDevType) (l : List HwHalList) : Prop where
  opened : ∀ i h minor, l[i]? = some h → h.Holds minor →
    hwOpen t minor true s =
      (some (h.opencount.getD (minor.toNat - h.first) 0 + 1,
          { instNum := ((minor.toNat - h.first : ℕ) : ℤ), pdrvData := h.pdrvData }),
        Function.update s t (some (l.modify i (count · (minor.toNat - h.first) (· + 1)))))
  closed : ∀ i h minor, l[i]? = some h → h.Holds minor →
    hwClose t minor s =
      (some (h.opencount.getD (minor.toNat - h.first) 0 - 1),
        Function.update s t (some (l.modify i (count · (minor.toNat - h.first) (· - 1)))))
  intr : ∀ (i : ℕ) (h : HwHalList), l[i]? = some h → hwIntr t h.devId s = some h.pdrvData
  unheld : ∀ minor get, (∀ h ∈ l, ¬ h.Holds minor) →
    hwOpen t minor get s = (none, s) ∧ hwClose t minor s = (none, s)
  unnamed : ∀ devId, (∀ h ∈ l, h.devId ≠ devId) → hwIntr t devId s = none

/-- An entry is the first one that passes a test when no other one does. -/
theorem findIdx?_eq_of_unique {α : Type*} {p : α → Bool} {l : List α} {i : ℕ} {a : α} (ha : l[i]? = some a)
    (hp : p a = true) (hother : ∀ j b, l[j]? = some b → p b = true → j = i) : l.findIdx? p = some i := by
  obtain ⟨hi, rfl⟩ := List.getElem?_eq_some_iff.1 ha
  refine List.findIdx?_eq_some_iff_getElem.2 ⟨hi, hp, fun j hj hpj => ?_⟩
  exact hj.ne (hother j l[j] (List.getElem?_eq_getElem _) hpj)

namespace Sound

/-- Two modules that have a minor number in common are one. -/
theorem place_eq (hl : Sound l) {i j n : ℕ} (hi : l[i]? = some h) (hj : l[j]? = some k)
    (hn : n ∈ h.minors) (hn' : n ∈ k.minors) : j = i := by
  by_contra hne
  obtain ⟨hi', rfl⟩ := List.getElem?_eq_some_iff.1 hi
  obtain ⟨hj', rfl⟩ := List.getElem?_eq_some_iff.1 hj
  have hdisj : Disjoint (l[j]).minors (l[i]).minors := by
    rcases lt_or_gt_of_ne hne with hlt | hlt
    · exact List.pairwise_iff_getElem.1 hl.disjoint j i hj' hi' hlt
    · exact (List.pairwise_iff_getElem.1 hl.disjoint i j hi' hj' hlt).symm
  exact Set.disjoint_left.1 hdisj hn' hn

theorem ofMinor_eq (hl : Sound l) {minor : UInt8} (hi : l[i]? = some h) (hh : h.Holds minor) :
    ofMinor l minor = some i :=
  findIdx?_eq_of_unique hi (decide_eq_true hh) fun _ _ hj hk =>
    hl.place_eq hi hj (holds_iff.1 hh) (holds_iff.1 (of_decide_eq_true hk))

theorem ofDevId_eq (hl : Sound l) (hi : l[i]? = some h) : ofDevId l h.devId = some i := by
  refine findIdx?_eq_of_unique hi (decide_eq_true rfl) fun j k hj hk => ?_
  obtain ⟨hi', rfl⟩ := List.getElem?_eq_some_iff.1 hi
  obtain ⟨hj', rfl⟩ := List.getElem?_eq_some_iff.1 hj
  have hlen : (l.map devId).length = l.length := List.length_map devId
  have hids : (l.map devId)[j] = (l.map devId)[i] := by
    rw [List.getElem_map, List.getElem_map]
    exact of_decide_eq_true hk
  exact hl.devIds.getElem_inj_iff.1 hids

/-- **The modules are found by their numbers.** -/
theorem resolved (hl : Sound l) (hs : s t = some l) : Resolved s t l where
  opened i h minor hi hh := by
    rw [hwOpen, hs]
    simp only [hl.ofMinor_eq hi hh, hi]
    rfl
  closed i h minor hi hh := by
    rw [hwClose, hs]
    simp only [hl.ofMinor_eq hi hh, hi]
    rfl
  intr i h hi := by
    rw [hwIntr, hs, Option.bind_some, hl.ofDevId_eq hi, Option.bind_some, hi]
    rfl
  unheld minor get hno := by
    have hnone : ofMinor l minor = none := List.findIdx?_eq_none_iff.2 fun h hh =>
      decide_eq_false (hno h hh)
    rw [hwOpen, hwClose, hs]
    simp only [hnone, and_self]
  unnamed devId hno := by
    have hnone : ofDevId l devId = none := List.findIdx?_eq_none_iff.2 fun h hh =>
      decide_eq_false (hno h hh)
    rw [hwIntr, hs, Option.bind_some, hnone]
    rfl

end Sound

/-! ## The gap that is taken -/

/-- The first number behind the last of the entries, `last` when there is none. -/
def endOf (last : ℕ) : List HwHalList → ℕ
  | [] => last
  | h :: hs => endOf h.after hs

/-- The first gap in the order of the list: the entries `post` begin `num` numbers or more behind the entries
`pre`, and no entry of `pre` begins so far behind the entries ahead of it. -/
structure FirstGap (num last : ℕ) (l pre post : List HwHalList) : Prop where
  append : pre ++ post = l
  passed : ∀ p h q, pre = p ++ h :: q → h.first < endOf last p + num
  room : ∀ h ∈ post.head?, endOf last pre + num ≤ h.first

theorem firstGap_cons_of_lt {num last : ℕ} {pre post : List HwHalList} (hlt : h.first < last + num) :
    FirstGap num last (h :: l) (h :: pre) post ↔ FirstGap num h.after l pre post := by
  constructor
  · intro hgap
    refine ⟨List.cons_injective hgap.append, fun p k q hpre => ?_, hgap.room⟩
    exact hgap.passed (h :: p) k q (congrArg (h :: ·) hpre)
  · intro hgap
    refine ⟨congrArg (h :: ·) hgap.append, fun p k q hpre => ?_, hgap.room⟩
    cases p with
    | nil =>
      obtain ⟨rfl, -⟩ := List.cons.inj hpre
      exact hlt
    | cons h' p =>
      obtain ⟨rfl, htail⟩ := List.cons.inj hpre
      exact hgap.passed p k q htail

/-- There is one first gap only. -/
theorem FirstGap.eq {num last : ℕ} {pre post pre' post' : List HwHalList} (hgap : FirstGap num last l pre post)
    (hgap' : FirstGap num last l pre' post') : pre' = pre := by
  induction l generalizing last pre pre' with
  | nil =>
    rw [(List.append_eq_nil_iff.1 hgap.append).1, (List.append_eq_nil_iff.1 hgap'.append).1]
  | cons h l ih =>
    by_cases hlt : h.first < last + num
    · have hhead : ∀ {pre post}, FirstGap num last (h :: l) pre post → ∃ rest, pre = h :: rest := by
        intro pre post hgap
        cases pre with
        | nil =>
          have hpost : post = h :: l := hgap.append
          exact absurd (hgap.room h (hpost ▸ rfl)) (not_le.2 hlt)
        | cons h' rest => exact ⟨rest, by rw [(List.cons.inj hgap.append).1]⟩
      obtain ⟨rest, rfl⟩ := hhead hgap
      obtain ⟨rest', rfl⟩ := hhead hgap'
      rw [ih ((firstGap_cons_of_lt hlt).1 hgap) ((firstGap_cons_of_lt hlt).1 hgap')]
    · have hnil : ∀ {pre post}, FirstGap num last (h :: l) pre post → pre = [] := by
        intro pre post hgap
        cases pre with
        | nil => rfl
        | cons h' rest =>
          obtain rfl := (List.cons.inj hgap.append).1
          exact absurd (hgap.passed [] h' rest rfl) hlt
      rw [hnil hgap, hnil hgap']

/-- **The search finds the first gap.** -/
theorem firstGap_findGap (num last : UInt8) (hl : ∀ h ∈ l, h.after ≤ maxDevInstances) :
    ∃ pre post, FirstGap num.toNat last.toNat l pre post ∧
      (findGap num last l).1.toNat = endOf last.toNat pre ∧ ∀ i, (findGap num last l).2 = some i → i < l.length := by
  induction l generalizing last with
  | nil => exact ⟨[], [], ⟨rfl, by simp, by simp⟩, rfl, fun i hi => absurd hi (Option.some_ne_none i).symm⟩
  | cons h l ih =>
    rw [findGap]
    by_cases hroom : (num.toNat : ℤ) ≤ (h.minorNum.toNat : ℤ) - last.toNat
    · rw [if_pos hroom]
      refine ⟨[], h :: l, ⟨rfl, by simp, fun k hk => ?_⟩, rfl, fun i hi => ?_⟩
      · obtain rfl := Option.some_inj.1 hk
        change last.toNat + num.toNat ≤ h.minorNum.toNat
        omega
      · obtain rfl := Option.some_inj.1 hi
        exact Nat.succ_pos _
    · rw [if_neg hroom]
      have hafter : (h.minorNum + h.hwHal.numInstances).toNat = h.after := by
        have hle : h.minorNum.toNat + h.hwHal.numInstances.toNat ≤ 255 := hl h List.mem_cons_self
        rw [UInt8.toNat_add, HwHalList.after]
        omega
      obtain ⟨pre, post, hgap, hlast, hplace⟩ :=
        ih (h.minorNum + h.hwHal.numInstances) fun k hk => hl k (List.mem_cons_of_mem h hk)
      rw [hafter] at hgap hlast
      have hlt : h.first < last.toNat + num.toNat := by
        change h.minorNum.toNat < _
        omega
      refine ⟨h :: pre, post, (firstGap_cons_of_lt hlt).2 hgap, hlast, fun i hi => ?_⟩
      obtain ⟨j, hj, rfl⟩ := Option.map_eq_some_iff.1 hi
      exact Nat.succ_lt_succ (hplace j hj)

/-! ## One registration -/

theorem listAdd_perm (nh : HwHalList) {pos : Option ℕ} (hpos : ∀ i, pos = some i → i < l.length) :
    (listAdd nh l pos).Perm (nh :: l) := by
  cases pos with
  | none => exact List.Perm.refl _
  | some i => exact List.perm_insertIdx nh l (hpos i rfl)

theorem mem_listAdd {pos : Option ℕ} (hh : h ∈ listAdd nh l pos) : h = nh ∨ h ∈ l := by
  cases pos with
  | none => exact List.mem_cons.1 hh
  | some i => exact List.eq_or_mem_of_mem_insertIdx hh

theorem Sound.perm {l' : List HwHalList} (hperm : l.Perm l') (hl : Sound l) : Sound l' where
  disjoint := hperm.pairwise hl.disjoint fun hdisj => hdisj.symm
  below h hh := hl.below h (hperm.mem_iff.2 hh)
  devIds := (hperm.map devId).nodup_iff.1 hl.devIds

/-- **A new module has its numbers for itself.** -/
theorem sound_listAdd_iff (nh : HwHalList) {pos : Option ℕ} (hl : Sound l) (hpos : ∀ i, pos = some i → i < l.length)
    (hbelow : nh.after ≤ maxDevInstances) :
    Sound (listAdd nh l pos) ↔ ∀ h ∈ l, Disjoint nh.minors h.minors ∧ h.devId ≠ nh.devId := by
  have hperm := listAdd_perm nh hpos
  constructor
  · intro hsound h hh
    have hcons : Sound (nh :: l) := hsound.perm hperm
    refine ⟨(List.pairwise_cons.1 hcons.disjoint).1 h hh, fun heq => ?_⟩
    exact (List.nodup_cons.1 hcons.devIds).1 (heq ▸ List.mem_map_of_mem hh)
  · intro hfree
    refine Sound.perm hperm.symm ⟨?_, ?_, ?_⟩
    · exact List.pairwise_cons.2 ⟨fun h hh => (hfree h hh).1, hl.disjoint⟩
    · intro h hh
      rcases List.mem_cons.1 hh with rfl | hh
      · exact hbelow
      · exact hl.below h hh
    · refine List.nodup_cons.2 ⟨fun hmem => ?_, hl.devIds⟩
      obtain ⟨h, hh, heq⟩ := List.mem_map.1 hmem
      exact (hfree h hh).2 heq

/-- What the calls answer lets a module register. -/
def RegisterAnswers.Grants (a : RegisterAnswers) : Prop :=
  a.allocNode = true ∧ a.allocOpencount = true ∧ 0 ≤ a.registerHalModule ∧ a.tryModuleGet = true

/-- The module that a registration adds. -/
def newModule (hw : HwHal) (a : RegisterAnswers) (last : UInt8) : HwHalList :=
  { devId := last.toNat, minorNum := last, hwHal := hw, pdrvData := a.pdrvData,
    opencount := List.replicate hw.numInstances.toNat 0 }

/-- What `register_hw_hal_module` does: it adds a module, or nothing. -/
theorem registerHwHalModule_cases (hw : HwHal) (a : RegisterAnswers) (s : Hal) :
    (∃ l, s hw.devType = some l ∧ a.Grants ∧
      (findGap hw.numInstances 0 l).1.toNat + hw.numInstances.toNat ≤ maxDevInstances ∧
      (registerHwHalModule hw a s).2 = Function.update s hw.devType
        (some (listAdd (newModule hw a (findGap hw.numInstances 0 l).1) l (findGap hw.numInstances 0 l).2))) ∨
    (registerHwHalModule hw a s).2 = s ∧ ∀ l, s hw.devType = some l → a.Grants →
      maxDevInstances < (findGap hw.numInstances 0 l).1.toNat + hw.numInstances.toNat := by
  rw [registerHwHalModule]
  by_cases hnode : a.allocNode = false
  · rw [if_pos hnode]
    exact .inr ⟨rfl, fun l _ ha => absurd ha.1 (by simp [hnode])⟩
  rw [if_neg hnode]
  cases hs : s hw.devType with
  | none => exact .inr ⟨rfl, fun l hl => absurd hl (Option.some_ne_none l).symm⟩
  | some l =>
    dsimp only
    by_cases hcount : a.allocOpencount = false
    · rw [if_pos hcount]
      exact .inr ⟨rfl, fun l _ ha => absurd ha.2.1 (by simp [hcount])⟩
    rw [if_neg hcount]
    by_cases hbelow : maxDevInstances < (findGap hw.numInstances 0 l).1.toNat + hw.numInstances.toNat
    · rw [if_pos hbelow]
      refine .inr ⟨rfl, fun l' hl' _ => ?_⟩
      obtain rfl := Option.some_inj.1 hl'
      exact hbelow
    rw [if_neg hbelow]
    by_cases hret : a.registerHalModule < 0
    · rw [if_pos hret]
      exact .inr ⟨rfl, fun l _ ha => absurd ha.2.2.1 (not_le.2 hret)⟩
    rw [if_neg hret]
    by_cases hget : a.tryModuleGet = false
    · rw [if_pos hget]
      exact .inr ⟨rfl, fun l _ ha => absurd ha.2.2.2 (by simp [hget])⟩
    rw [if_neg hget]
    refine .inl ⟨l, rfl, ⟨?_, ?_, not_lt.1 hret, ?_⟩, not_lt.1 hbelow, rfl⟩
    · exact Bool.eq_true_of_not_eq_false hnode
    · exact Bool.eq_true_of_not_eq_false hcount
    · exact Bool.eq_true_of_not_eq_false hget

/-! ## Runs -/

/-- No number of the HAL is given to two modules, and the modules are found by their numbers. -/
def Hal.Sound (s : Hal) : Prop := ∀ t l, s t = some l → BmcHelper.Sound l ∧ Resolved s t l

/-- A registration that can go through takes a gap in which no module has a number, and at whose beginning
none begins. -/
def TakesFreeGap (s : Hal) : Call → Prop
  | .registerHw hw a => ∀ l pre post, s hw.devType = some l → a.Grants →
      FirstGap hw.numInstances.toNat 0 l pre post →
      endOf 0 pre + hw.numInstances.toNat ≤ maxDevInstances →
      ∀ h ∈ l, Disjoint (Set.Ico (endOf 0 pre) (endOf 0 pre + hw.numInstances.toNat)) h.minors ∧
        h.first ≠ endOf 0 pre
  | _ => True

/-- The `dev_id` of a module is its first minor number. -/
def Hal.Numbered (s : Hal) : Prop := ∀ t l, s t = some l → ∀ h ∈ l, h.devId = h.first

/-- A condition on the lists of all types, after the list of one type has changed. -/
theorem forall_update_iff {P : List HwHalList → Prop} {o : Option (List HwHalList)}
    (hs : ∀ t l, s t = some l → P l) :
    (∀ t' l, Function.update s t o t' = some l → P l) ↔ ∀ l, o = some l → P l := by
  constructor
  · intro h l hl
    exact h t l (by rw [Function.update_self, hl])
  · intro h t' l hl
    by_cases ht : t' = t
    · subst ht
      rw [Function.update_self] at hl
      exact h l hl
    · rw [Function.update_of_ne ht] at hl
      exact hs t' l hl

theorem hal_sound_iff : s.Sound ↔ ∀ t l, s t = some l → BmcHelper.Sound l :=
  ⟨fun h t l hl => (h t l hl).1, fun h t l hl => ⟨h t l hl, (h t l hl).resolved hl⟩⟩

theorem Sound.sublist {l' : List HwHalList} (hsub : l'.Sublist l) (hl : Sound l) : Sound l' where
  disjoint := hl.disjoint.sublist hsub
  below h hh := hl.below h (hsub.mem hh)
  devIds := hl.devIds.sublist (hsub.map devId)

/-- The open counts do not matter. -/
theorem Sound.of_numbers {l' : List HwHalList} (hmap : l'.map numbers = l.map numbers) (hl : Sound l) :
    Sound l' where
  disjoint := by
    have hpair : (l.map numbers).Pairwise fun a b => Disjoint
        (Set.Ico a.2.1.toNat (a.2.1.toNat + a.2.2.toNat)) (Set.Ico b.2.1.toNat (b.2.1.toNat + b.2.2.toNat)) :=
      List.pairwise_map.2 hl.disjoint
    rw [← hmap, List.pairwise_map] at hpair
    exact hpair
  below := by
    have hall : ∀ a ∈ l.map numbers, a.2.1.toNat + a.2.2.toNat ≤ maxDevInstances :=
      List.forall_mem_map.2 hl.below
    rw [← hmap] at hall
    exact List.forall_mem_map.1 hall
  devIds := by
    have heq : (l'.map numbers).map Prod.fst = (l.map numbers).map Prod.fst := by rw [hmap]
    rw [List.map_map, List.map_map] at heq
    exact (congrArg List.Nodup heq).mpr hl.devIds

theorem numbered_of_numbers {l' : List HwHalList} (hmap : l'.map numbers = l.map numbers)
    (hl : ∀ h ∈ l, h.devId = h.first) : ∀ h ∈ l', h.devId = h.first := by
  have hall : ∀ a ∈ l.map numbers, a.1 = (a.2.1.toNat : ℤ) := List.forall_mem_map.2 hl
  rw [← hmap] at hall
  exact List.forall_mem_map.1 hall

/-- What a call other than a registration does to the list of a type: it keeps or removes modules, or changes an
open count. -/
theorem step_cases (s : Hal) {c : Call} (hc : ∀ hw a, c ≠ .registerHw hw a) :
    ∃ t o, s.step c = Function.update s t o ∧ ∀ l', o = some l' → l' = [] ∨ ∃ l, s t = some l ∧
      (l'.Sublist l ∨ l'.map numbers = l.map numbers) := by
  have hsame : ∀ t, ∃ t' o, s = Function.update s t' o ∧ ∀ l', o = some l' → l' = [] ∨ ∃ l, s t' = some l ∧
      (l'.Sublist l ∨ l'.map numbers = l.map numbers) := fun t =>
    ⟨t, s t, (Function.update_eq_self t s).symm, fun l' hl' => .inr ⟨l', hl', .inl (List.Sublist.refl l')⟩⟩
  cases c with
  | registerHw hw a => exact absurd rfl (hc hw a)
  | registerCore t alloc =>
    rw [Hal.step, registerCoreHalModule]
    cases s t with
    | some l => exact hsame t
    | none =>
      cases alloc with
      | false => exact hsame t
      | true => exact ⟨t, some [], rfl, fun l' hl' => .inl (Option.some_inj.1 hl').symm⟩
  | unregisterCore t =>
    rw [Hal.step, unregisterCoreHalModule]
    split
    · exact ⟨t, none, rfl, fun l' hl' => absurd hl' (Option.some_ne_none l').symm⟩
    · exact hsame t
  | unregisterHw t devId =>
    rw [Hal.step, unregisterHwHalModule]
    cases hs : s t with
    | none => exact hsame t
    | some l =>
      dsimp only
      split_ifs
      · refine ⟨t, _, rfl, fun l' hl' => .inr ⟨l, hs, .inl ?_⟩⟩
        obtain rfl := Option.some_inj.1 hl'
        exact List.eraseP_sublist
      · exact hsame t
  | openMinor t minor get =>
    rw [Hal.step, hwOpen]
    cases hs : s t with
    | none => exact hsame t
    | some l =>
      dsimp only
      split
      · exact hsame t
      split
      · exact hsame t
      split_ifs
      · exact hsame t
      refine ⟨t, _, rfl, fun l' hl' => .inr ⟨l, hs, .inr ?_⟩⟩
      obtain rfl := Option.some_inj.1 hl'
      exact map_modify_of_eq l fun _ => rfl
  | closeMinor t minor =>
    rw [Hal.step, hwClose]
    cases hs : s t with
    | none => exact hsame t
    | some l =>
      dsimp only
      split
      · exact hsame t
      split
      · exact hsame t
      refine ⟨t, _, rfl, fun l' hl' => .inr ⟨l, hs, .inr ?_⟩⟩
      obtain rfl := Option.some_inj.1 hl'
      exact map_modify_of_eq l fun _ => rfl

theorem numbered_registerHw (hs : s.Numbered) (hw : HwHal) (a : RegisterAnswers) :
    (s.step (.registerHw hw a)).Numbered := by
  rcases registerHwHalModule_cases hw a s with ⟨l, hl, -, -, heq⟩ | ⟨heq, -⟩
  · rw [Hal.step, heq]
    refine (forall_update_iff hs).2 fun l' hl' h hh => ?_
    obtain rfl := Option.some_inj.1 hl'
    rcases mem_listAdd hh with rfl | hmem
    · rfl
    · exact hs hw.devType l hl h hmem
  · rwa [Hal.step, heq]

theorem numbered_step (hs : s.Numbered) (c : Call) : (s.step c).Numbered := by
  by_cases hc : ∀ hw a, c ≠ .registerHw hw a
  · obtain ⟨t, o, heq, ho⟩ := step_cases s hc
    rw [heq]
    refine (forall_update_iff hs).2 fun l' hl' => ?_
    rcases ho l' hl' with rfl | ⟨l, hl, hsub | hmap⟩
    · exact fun h hh => absurd hh List.not_mem_nil
    · exact fun h hh => hs t l hl h (hsub.mem hh)
    · exact numbered_of_numbers hmap (hs t l hl)
  · simp only [not_forall, not_not] at hc
    obtain ⟨hw, a, rfl⟩ := hc
    exact numbered_registerHw hs hw a

/-- **A registration.** -/
theorem sound_registerHw_iff (hnum : s.Numbered) (hs : s.Sound) (hw : HwHal) (a : RegisterAnswers) :
    (s.step (.registerHw hw a)).Sound ↔ TakesFreeGap s (.registerHw hw a) := by
  have hsound : ∀ t l, s t = some l → Sound l := hal_sound_iff.1 hs
  rw [hal_sound_iff, Hal.step]
  rcases registerHwHalModule_cases hw a s with ⟨l, hl, ha, hbelow, heq⟩ | ⟨heq, hno⟩
  · obtain ⟨pre, post, hgap, hlast, hplace⟩ :=
      firstGap_findGap hw.numInstances 0 (hsound hw.devType l hl).below
    have hafter : (newModule hw a (findGap hw.numInstances 0 l).1).minors =
        Set.Ico (endOf 0 pre) (endOf 0 pre + hw.numInstances.toNat) := by
      change Set.Ico (findGap hw.numInstances 0 l).1.toNat
        ((findGap hw.numInstances 0 l).1.toNat + hw.numInstances.toNat) = _
      rw [hlast]
      rfl
    have hfirst : ∀ h ∈ l, (h.devId ≠ (newModule hw a (findGap hw.numInstances 0 l).1).devId ↔
        h.first ≠ endOf 0 pre) := fun h hh => by
      rw [hnum hw.devType l hl h hh]
      change ((h.first : ℤ) ≠ ((findGap hw.numInstances 0 l).1.toNat : ℤ) ↔ _)
      rw [hlast]
      exact Nat.cast_injective.ne_iff
    rw [heq, forall_update_iff hsound]
    have hadd := sound_listAdd_iff (newModule hw a (findGap hw.numInstances 0 l).1)
      (hsound hw.devType l hl) hplace hbelow
    rw [hafter] at hadd
    constructor
    · intro h l' pre' post' hl' _ hgap' _ k hk
      obtain rfl := Option.some_inj.1 (hl.symm.trans hl')
      obtain rfl := hgap.eq hgap'
      obtain ⟨hdisj, hid⟩ := hadd.1 (h _ rfl) k hk
      exact ⟨hdisj, (hfirst k hk).1 hid⟩
    · intro h l' hl'
      obtain rfl := Option.some_inj.1 hl'
      refine hadd.2 fun k hk => ?_
      have hle : endOf 0 pre + hw.numInstances.toNat ≤ maxDevInstances := by
        rw [hlast] at hbelow
        exact hbelow
      obtain ⟨hdisj, hne⟩ := h l pre post hl ha hgap hle k hk
      exact ⟨hdisj, (hfirst k hk).2 hne⟩
  · rw [heq]
    refine iff_of_true hsound fun l pre post hl ha hgap hle => absurd (hno l hl ha) (not_lt.2 ?_)
    obtain ⟨pre', post', hgap', hlast, -⟩ :=
      firstGap_findGap hw.numInstances 0 (hsound hw.devType l hl).below
    obtain rfl := hgap.eq hgap'
    rw [hlast]
    exact hle

/-- **One step.** -/
theorem sound_step_iff (hnum : s.Numbered) (hs : s.Sound) (c : Call) :
    (s.step c).Sound ↔ TakesFreeGap s c := by
  by_cases hc : ∀ hw a, c ≠ .registerHw hw a
  · have hfree : TakesFreeGap s c := by
      cases c with
      | registerHw hw a => exact absurd rfl (hc hw a)
      | _ => trivial
    refine iff_of_true (hal_sound_iff.2 ?_) hfree
    obtain ⟨t, o, heq, ho⟩ := step_cases s hc
    rw [heq]
    refine (forall_update_iff (hal_sound_iff.1 hs)).2 fun l' hl' => ?_
    rcases ho l' hl' with rfl | ⟨l, hl, hsub | hmap⟩
    · exact ⟨List.Pairwise.nil, fun h hh => absurd hh List.not_mem_nil, List.nodup_nil⟩
    · exact (hs t l hl).1.sublist hsub
    · exact (hs t l hl).1.of_numbers hmap
  · simp only [not_forall, not_not] at hc
    obtain ⟨hw, a, rfl⟩ := hc
    exact sound_registerHw_iff hnum hs hw a

/-- **No number is ever given to two modules exactly when every registration takes a free gap.** -/
theorem alwaysSound_iff (calls : List Call) :
    Always Hal.step Hal.Sound Hal.start calls ↔ AllSteps Hal.step TakesFreeGap Hal.start calls :=
  always_iff_allSteps (fun (s : Hal) c (hs : s.Numbered) => numbered_step hs c)
    (fun _ c hnum hs => sound_step_iff hnum hs c) (fun _ l hl => absurd hl (Option.some_ne_none l).symm)
    (fun _ l hl => absurd hl (Option.some_ne_none l).symm) calls

/-- A module of one instance registers, and all calls answer well. -/
def registerOne (t : EhalDevType) : Call :=
  .registerHw { devType := t, numInstances := 1 }
    { allocNode := true, allocOpencount := true, registerHalModule := 0, pdrvData := 0, tryModuleGet := true }

/-- **The third module of one instance gets the number of the first.** -/
theorem not_alwaysSound_three : ¬ Always Hal.step Hal.Sound Hal.start
    [.registerCore .i2c true, registerOne .i2c, registerOne .i2c, registerOne .i2c] := by
  intro h
  have hlast := h.foldl
  have hlist : ([.registerCore .i2c true, registerOne .i2c, registerOne .i2c, registerOne .i2c].foldl
      Hal.step Hal.start .i2c).map (List.map devId) = some [1, 0, 0] := by decide
  obtain ⟨l, hl, hids⟩ := Option.map_eq_some_iff.1 hlist
  have hnodup := (hlast .i2c l hl).1.devIds
  rw [hids] at hnodup
  exact absurd hnodup (by decide)

end BmcHelper
