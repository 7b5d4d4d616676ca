import Mathlib.Data.List.TakeWhile
import Bmc.Lib.Search
import Bmc.Lib.TextSearch
import Bmc.Bafi.Tor

/-!
# The memory map

`getMemoryMap` of the Whitley CPUs: the regions of memory are taken from the registers of the first CPU that has an address
map, and the addresses of the report are labelled with them.

* `AddressMap`: the registers; `recordItems`, `getMemoryMap`: the map, and the CPU that it was made from;
* `label`: the region of an address;
* `LabelsRight`: the specification; `AddressMap.half`: the base or the limit of a region;
* **`labelsRight_iff`**: for which crashdumps it is met.
-/

namespace BmcBafi

open BmcLib

/-! ## The map -/

/-- A value in a crashdump: a text, a truth value or something else. -/
inductive JsonValue where
  | text (s : List Char)
  | bool (b : Bool)
  | other
  deriving DecidableEq, Repr

/-- The number of a register that was read. -/
def JsonValue.number : JsonValue → Option ℕ
  | .text s => if checkInproperValue s = true then none else stoull 16 s
  | _ => none

/-- `address_map`, in the order in which its items are visited. -/
abbrev AddressMap := List (List Char × JsonValue)

/-- The two entries of the array of a region. -/
inductive Half where
  | base
  | limit
  deriving DecidableEq, Repr

/-- The region that a register belongs to, by its name. -/
def regionHalf (name : List Char) : Option (List Char × Half) :=
  match findText "_BASE".toList name with
  | some n => some (name.take n, .base)
  | none => (findText "_LIMIT".toList name).map fun n => (name.take n, .limit)

/-- `memoryMap` -/
abbrev MemoryMap := Std.TreeMap (List Char) (ℕ × ℕ)

/-- An entry of the array of a region. -/
def setHalf (n : ℕ) (limits : ℕ × ℕ) : Half → ℕ × ℕ
  | .base => (n, limits.2)
  | .limit => (limits.1, n)

/-- The number of a register in the map. A region that is not there yet has zeros. -/
def MemoryMap.record (map : MemoryMap) (name : List Char) (n : ℕ) : MemoryMap :=
  match regionHalf name with
  | none => map
  | some (region, half) => map.alter region fun limits => some (setHalf n (limits.getD (0, 0)) half)

/-- The item of a map that is not enabled. -/
def disabledItem : List Char × JsonValue := ("_record_enable".toList, .bool false)

/-- The value of an item in the map, if it is a number: `none` if it is no text, which is an exception. -/
def MemoryMap.recordValue (map : MemoryMap) (name : List Char) : JsonValue → Option MemoryMap
  | .text s => some (((JsonValue.text s).number.map (map.record name)).getD map)
  | _ => none

/-- The loop over the items. -/
def recordItems (map : MemoryMap) : AddressMap → Option MemoryMap
  | [] => some map
  | (name, value) :: items =>
    if (name, value) = disabledItem then some map
    else if name = "_version".toList then recordItems map items
    else (map.recordValue name value).bind fun map => recordItems map items

/-- The loop over the CPUs from the number `i` on. `mapCreated` is the CPU that the map was made from. -/
def getMemoryMapFrom (mapCreated : Option ℕ) (map : MemoryMap) :
    ℕ → List (Option AddressMap) → Option (Option ℕ × MemoryMap)
  | _, [] => some (mapCreated, map)
  | i, cpuSection :: cpuSections =>
    if mapCreated.isSome = true then some (mapCreated, map)
    else match cpuSection with
      | none => getMemoryMapFrom mapCreated map (i + 1) cpuSections
      | some items => (recordItems map items).bind fun map => getMemoryMapFrom (some i) map (i + 1) cpuSections

/-- `getMemoryMap`, from the address maps of the CPUs that have one. -/
def getMemoryMap (cpuSections : List (Option AddressMap)) : Option (Option ℕ × MemoryMap) :=
  getMemoryMapFrom none ∅ 0 cpuSections

/-- The regions in the order of the map. -/
def MemoryMap.regions (map : MemoryMap) : List MemoryRegion := map.toList.map fun x => ⟨x.1, x.2.1, x.2.2⟩

/-- The label of an address in the report. -/
def label (cpuSections : List (Option AddressMap)) (address : ℕ) : Option (List Char) :=
  (getMemoryMap cpuSections).bind fun r => mapToMemory r.2.regions address

/-! ## Specification -/

namespace AddressMap

/-- The map is enabled. -/
def Enabled (m : AddressMap) : Prop := disabledItem ∉ m

instance (m : AddressMap) : Decidable m.Enabled := inferInstanceAs (Decidable (¬ _))

/-- The number that an item gives for one half of a region. -/
def numberOf (region : List Char) (half : Half) (item : List Char × JsonValue) : Option ℕ :=
  if regionHalf item.1 = some (region, half) then item.2.number else none

/-- The base or the limit of a region: the last one, if there are several. -/
def half (m : AddressMap) (region : List Char) (half : Half) : Option ℕ := (m.filterMap (numberOf region half)).getLast?

/-- An address lies between the two halves of a region, with 0 for one that is missing. -/
def Contains (m : AddressMap) (region : List Char) (address : ℕ) : Prop :=
  ((m.half region .base).isSome = true ∨ (m.half region .limit).isSome = true) ∧
    (m.half region .base).getD 0 ≤ address ∧ address ≤ (m.half region .limit).getD 0

instance (m : AddressMap) (region : List Char) (address : ℕ) : Decidable (m.Contains region address) :=
  inferInstanceAs (Decidable ((_ ∨ _) ∧ _ ∧ _))

/-- The items that are visited. -/
def visible (m : AddressMap) : AddressMap := m.takeWhile fun item => item ≠ disabledItem

/-- The values are texts. -/
def Readable (m : AddressMap) : Prop := ∀ item ∈ m, item.1 = "_version".toList ∨ ∃ s, item.2 = .text s

/-- The addresses of a region that lacks one half are in a region before it. -/
def Covered (m : AddressMap) : Prop :=
  ∀ region, (m.half region .base).isSome ≠ (m.half region .limit).isSome → ∀ address, m.Contains region address →
    ∃ region', compare region' region = .lt ∧ m.Contains region' address

end AddressMap

/-- The first CPU with a map that is as `P` says. -/
def IsFirstMap (P : AddressMap → Prop) (cpuSections : List (Option AddressMap)) (i : ℕ) (m : AddressMap) : Prop :=
  cpuSections[i]? = some (some m) ∧ P m ∧ ∀ j < i, ∀ m', cpuSections[j]? = some (some m') → ¬ P m'

/-- **The labels are right**: they come from an enabled map and lie between the base and the limit that it gives, and the
regions used are those of the first enabled map. -/
structure LabelsRight (cpuSections : List (Option AddressMap)) : Prop where
  sound : ∀ address region, label cpuSections address = some region → ∃ i m map,
    getMemoryMap cpuSections = some (some i, map) ∧ cpuSections[i]? = some (some m) ∧ m.Enabled ∧
      ∃ base ∈ m.half region .base, ∃ limit ∈ m.half region .limit, base ≤ address ∧ address ≤ limit
  first : ∀ i m, IsFirstMap AddressMap.Enabled cpuSections i m → ∃ map, getMemoryMap cpuSections = some (some i, map) ∧
    ∀ region, ∀ base ∈ m.half region .base, ∀ limit ∈ m.half region .limit, map[region]? = some (base, limit)

/-- What it takes: the first map is enabled, its values are texts, and the regions that lack a half are covered; or no map is
enabled, and what is visited of the first one gives no region with an address. -/
def MapsFit (cpuSections : List (Option AddressMap)) : Prop :=
  ∀ i m, IsFirstMap (fun _ => True) cpuSections i m →
    m.Enabled ∧ m.Readable ∧ m.Covered ∨
      (∀ (j : ℕ) (m' : AddressMap), cpuSections[j]? = some (some m') → ¬ m'.Enabled) ∧
        (m.visible.Readable → ∀ region address, ¬ m.visible.Contains region address)

/-! ## Items -/

/-- An item in the map, if it has a number. -/
def recordItem (map : MemoryMap) (item : List Char × JsonValue) : MemoryMap :=
  (item.2.number.map (map.record item.1)).getD map

theorem recordItem_version (map : MemoryMap) (value : JsonValue) : recordItem map ("_version".toList, value) = map := by
  have hhalf : regionHalf "_version".toList = none := by decide
  rw [recordItem]
  cases value.number with
  | none => rfl
  | some n => simp only [Option.map_some, Option.getD_some, MemoryMap.record, hhalf]

/-- The loop records the items that it visits, if their values are texts. -/
theorem recordItems_eq (m : AddressMap) : ∀ map : MemoryMap,
    (m.visible.Readable → recordItems map m = some (m.visible.foldl recordItem map)) ∧
      (¬ m.visible.Readable → recordItems map m = none) := by
  induction m with
  | nil => exact fun map => ⟨fun _ => rfl, fun h => absurd (fun _ h' => absurd h' List.not_mem_nil) h⟩
  | cons item items ih =>
    obtain ⟨name, value⟩ := item
    intro map
    rw [recordItems]
    split_ifs with hend hversion
    · have hnil : AddressMap.visible ((name, value) :: items) = [] := List.takeWhile_cons_of_neg (by simp [hend])
      rw [hnil]
      exact ⟨fun _ => rfl, fun h => absurd (fun _ h' => absurd h' List.not_mem_nil) h⟩
    · have hcons : AddressMap.visible ((name, value) :: items) = (name, value) :: AddressMap.visible items :=
        List.takeWhile_cons_of_pos (by simp [hend])
      rw [hcons, AddressMap.Readable, List.forall_mem_cons, List.foldl_cons, hversion, recordItem_version]
      exact ⟨fun h => (ih map).1 h.2, fun h => (ih map).2 fun h' => h ⟨.inl rfl, h'⟩⟩
    · have hcons : AddressMap.visible ((name, value) :: items) = (name, value) :: AddressMap.visible items :=
        List.takeWhile_cons_of_pos (by simp [hend])
      rw [hcons, AddressMap.Readable, List.forall_mem_cons]
      cases value with
      | text s => exact ⟨fun h => (ih _).1 h.2, fun h => (ih _).2 fun h' => h ⟨.inr ⟨s, rfl⟩, h'⟩⟩
      | bool b | other =>
        refine ⟨fun h => ?_, fun _ => rfl⟩
        rcases h.1 with h | ⟨_, h⟩
        · exact absurd h hversion
        · cases h

/-! ## Regions -/

namespace AddressMap

theorem half_append_singleton (m : AddressMap) (item : List Char × JsonValue) (region : List Char) (h : Half) :
    AddressMap.half (m ++ [item]) region h = (numberOf region h item).or (m.half region h) := by
  rw [half, List.filterMap_append, List.getLast?_append, half]
  cases hn : numberOf region h item with
  | none => rw [List.filterMap_cons_none hn]; rfl
  | some n => rw [List.filterMap_cons_some hn]; rfl

/-- The entry of a region, if it has a half. -/
def limits (m : AddressMap) (region : List Char) : Option (ℕ × ℕ) :=
  if (m.half region .base).isSome = true ∨ (m.half region .limit).isSome = true then
    some ((m.half region .base).getD 0, (m.half region .limit).getD 0)
  else none

theorem limits_getD (m : AddressMap) (region : List Char) :
    (m.limits region).getD (0, 0) = ((m.half region .base).getD 0, (m.half region .limit).getD 0) := by
  unfold limits
  cases m.half region .base <;> cases m.half region .limit <;> rfl

theorem limits_of_number {m : AddressMap} {item : List Char × JsonValue} {region : List Char} {h : Half} {n : ℕ}
    (hn : item.2.number = some n) (hname : regionHalf item.1 = some (region, h)) :
    AddressMap.limits (m ++ [item]) region = some (setHalf n ((m.limits region).getD (0, 0)) h) := by
  have hnumber : ∀ h', numberOf region h' item = if h = h' then some n else none := by
    intro h'
    simp only [numberOf, hname, hn, Option.some.injEq, Prod.mk.injEq, true_and]
  rw [limits_getD, limits, half_append_singleton, half_append_singleton, hnumber, hnumber]
  cases h <;> simp [setHalf]

theorem limits_of_not_number {m : AddressMap} {item : List Char × JsonValue} {region : List Char}
    (h : ∀ h', numberOf region h' item = none) : AddressMap.limits (m ++ [item]) region = m.limits region := by
  rw [limits, half_append_singleton, half_append_singleton, h, h]
  rfl

theorem contains_iff {m : AddressMap} {region : List Char} {address : ℕ} :
    m.Contains region address ↔ ∃ l, m.limits region = some l ∧ l.1 ≤ address ∧ address ≤ l.2 := by
  unfold Contains limits
  split_ifs with h
  · simp [h]
  · simp [h]

end AddressMap

/-- **The map** has the entries that the items give. -/
theorem getElem?_foldl_recordItem (m : AddressMap) (region : List Char) :
    (m.foldl recordItem (∅ : MemoryMap))[region]? = m.limits region := by
  induction m using List.reverseRecOn with
  | nil => rfl
  | append_singleton m item ih =>
    rw [List.foldl_append, List.foldl_cons, List.foldl_nil, recordItem]
    cases hn : item.2.number with
    | none =>
      have hnone : ∀ h, AddressMap.numberOf region h item = none := by
        intro h
        rw [AddressMap.numberOf, hn, ite_self]
      rw [AddressMap.limits_of_not_number hnone]
      exact ih
    | some n =>
      rw [Option.map_some, Option.getD_some, MemoryMap.record]
      cases hname : regionHalf item.1 with
      | none =>
        have hnone : ∀ h, AddressMap.numberOf region h item = none := fun h => if_neg (by simp [hname])
        rw [AddressMap.limits_of_not_number hnone]
        exact ih
      | some x =>
        obtain ⟨region', h⟩ := x
        dsimp only
        rw [Std.TreeMap.getElem?_alter]
        by_cases heq : region' = region
        · subst heq
          rw [if_pos Std.ReflCmp.compare_self, ih, AddressMap.limits_of_number hn hname]
        · have hnone : ∀ h', AddressMap.numberOf region h' item = none := by
            intro h'
            exact if_neg fun h'' => heq (Prod.mk.inj (Option.some.inj (hname.symm.trans h''))).1
          rw [if_neg fun h => heq (Std.LawfulEqCmp.eq_of_compare h), AddressMap.limits_of_not_number hnone]
          exact ih

/-- The label is the first region that contains the address. -/
theorem mapToMemory_foldl (m : AddressMap) (address : ℕ) (region : List Char) :
    mapToMemory (m.foldl recordItem ∅).regions address = some region ↔
      m.Contains region address ∧ ∀ region', compare region' region = .lt → ¬ m.Contains region' address := by
  have hasymm : ∀ a b : List Char × ℕ × ℕ, compare a.1 b.1 = .lt → ¬ compare b.1 a.1 = .lt :=
    fun a b h h' => absurd (Std.OrientedCmp.gt_of_lt h) (by rw [h']; exact Ordering.noConfusion)
  have hmem : ∀ region l, (region, l) ∈ (m.foldl recordItem (∅ : MemoryMap)).toList ↔ m.limits region = some l := by
    intro region l
    rw [Std.TreeMap.mem_toList_iff_getElem?_eq_some, getElem?_foldl_recordItem]
  rw [mapToMemory, MemoryMap.regions, List.find?_map, Option.map_map, Option.map_eq_some_iff]
  simp only [find?_eq_some_iff_least hasymm Std.TreeMap.ordered_keys_toList, AddressMap.contains_iff]
  constructor
  · rintro ⟨⟨r, l⟩, ⟨hl, hin, hleast⟩, rfl⟩
    refine ⟨⟨l, (hmem r l).1 hl, by simpa using hin⟩, ?_⟩
    rintro r' hr' ⟨l', hl', hin'⟩
    have := hleast (r', l') ((hmem r' l').2 hl') hr'
    simp only [Function.comp_apply, decide_eq_false_iff_not] at this
    exact this hin'
  · rintro ⟨⟨l, hl, hin⟩, hleast⟩
    refine ⟨(region, l), ⟨(hmem region l).2 hl, by simpa using hin, ?_⟩, rfl⟩
    rintro ⟨r', l'⟩ hl' hr'
    simp only [Function.comp_apply, decide_eq_false_iff_not]
    exact fun hin' => hleast r' hr' ⟨l', (hmem r' l').1 hl', hin'⟩

/-- A region that contains an address is named by an item. -/
theorem AddressMap.Contains.exists_item {m : AddressMap} {region : List Char} {address : ℕ} (h : m.Contains region address) :
    ∃ item ∈ m, ∃ half, regionHalf item.1 = some (region, half) := by
  have hitem : ∀ half, (m.half region half).isSome = true → ∃ item ∈ m, ∃ half, regionHalf item.1 = some (region, half) := by
    intro half hhalf
    obtain ⟨n, hn⟩ := Option.isSome_iff_exists.1 hhalf
    obtain ⟨item, hmem, hnumber⟩ := List.mem_filterMap.1 (List.mem_of_getLast? hn)
    refine ⟨item, hmem, half, ?_⟩
    by_contra hname
    rw [numberOf, if_neg hname] at hnumber
    cases hnumber
  rcases h.1 with h | h
  · exact hitem .base h
  · exact hitem .limit h

/-! ## The first map -/

theorem getMemoryMapFrom_created (i j : ℕ) (map : MemoryMap) : ∀ cpuSections : List (Option AddressMap),
    getMemoryMapFrom (some i) map j cpuSections = some (some i, map)
  | [] => rfl
  | _ :: _ => rfl

/-- The loop takes the first map that is there, enabled or not. -/
theorem getMemoryMapFrom_cases (cpuSections : List (Option AddressMap)) : ∀ i : ℕ,
    (∀ (j : ℕ) (m : AddressMap), cpuSections[j]? ≠ some (some m)) ∧
        getMemoryMapFrom none ∅ i cpuSections = some (none, ∅) ∨
      ∃ k m, IsFirstMap (fun _ => True) cpuSections k m ∧
        getMemoryMapFrom none ∅ i cpuSections = (recordItems ∅ m).map fun map => (some (i + k), map) := by
  induction cpuSections with
  | nil => exact fun i => .inl ⟨fun j m => by simp, rfl⟩
  | cons cpuSection cpuSections ih =>
    intro i
    cases cpuSection with
    | some m =>
      refine .inr ⟨0, m, ⟨rfl, trivial, fun j hj => absurd hj (by omega)⟩, ?_⟩
      rw [getMemoryMapFrom, if_neg (by simp)]
      show (recordItems ∅ m).bind _ = _
      simp only [getMemoryMapFrom_created, Nat.add_zero]
      cases recordItems ∅ m <;> rfl
    | none =>
      have hskip : getMemoryMapFrom none ∅ i (none :: cpuSections) = getMemoryMapFrom none ∅ (i + 1) cpuSections := rfl
      rw [hskip]
      rcases ih (i + 1) with ⟨hnone, h⟩ | ⟨k, m, ⟨hk, _, hfirst⟩, h⟩
      · refine .inl ⟨fun j m => ?_, h⟩
        cases j with
        | zero => exact fun h => nomatch h
        | succ j => exact hnone j m
      · refine .inr ⟨k + 1, m, ⟨hk, trivial, fun j hj m' hj' => ?_⟩, ?_⟩
        · cases j with
          | zero => exact nomatch hj'
          | succ j => exact hfirst j (by omega) m' hj'
        · rw [h, Nat.add_assoc, Nat.add_comm 1]

theorem IsFirstMap.unique {P : AddressMap → Prop} {cpuSections : List (Option AddressMap)} {i j : ℕ} {m m' : AddressMap}
    (h : IsFirstMap P cpuSections i m) (h' : IsFirstMap P cpuSections j m') : i = j ∧ m = m' := by
  obtain ⟨hi, hP, hfirst⟩ := h
  obtain ⟨hj, hP', hfirst'⟩ := h'
  rcases Nat.lt_trichotomy i j with hij | rfl | hij
  · exact absurd hP (hfirst' i hij m hi)
  · exact ⟨rfl, Option.some.inj (Option.some.inj (hi.symm.trans hj))⟩
  · exact absurd hP' (hfirst j hij m' hj)

theorem exists_isFirstMap {P : AddressMap → Prop} {cpuSections : List (Option AddressMap)} {j : ℕ} {m : AddressMap}
    (hj : cpuSections[j]? = some (some m)) (hP : P m) : ∃ i m', IsFirstMap P cpuSections i m' := by
  classical
  have hex : ∃ i, ∃ m', cpuSections[i]? = some (some m') ∧ P m' := ⟨j, m, hj, hP⟩
  obtain ⟨m', hi, hP'⟩ := Nat.find_spec hex
  exact ⟨Nat.find hex, m', hi, hP', fun i hi m'' hm'' hP'' => Nat.find_min hex hi ⟨m'', hm'', hP''⟩⟩

theorem visible_of_enabled {m : AddressMap} (h : m.Enabled) : m.visible = m := by
  refine List.takeWhile_eq_self_iff.2 fun item hitem => decide_eq_true ?_
  rintro rfl
  exact h hitem

/-- An address that only a region with one half contains gets a wrong label, and there is no other wrong one. -/
theorem covered_iff (m : AddressMap) : m.Covered ↔
    ∀ address region, m.Contains region address → (∀ region', compare region' region = .lt → ¬ m.Contains region' address) →
      ∃ base ∈ m.half region .base, ∃ limit ∈ m.half region .limit, base ≤ address ∧ address ≤ limit := by
  constructor
  · intro h address region hin hleast
    by_cases hhalf : (m.half region .base).isSome = (m.half region .limit).isSome
    · obtain ⟨hor, hin⟩ := hin
      cases hbase : m.half region .base with
      | none =>
        have hlimit : (m.half region .limit).isSome = false := by
          rw [← hhalf, hbase]
          rfl
        simp [hbase, hlimit] at hor
      | some base =>
        cases hlimit : m.half region .limit with
        | none => simp [hbase, hlimit] at hhalf
        | some limit =>
          rw [hbase, hlimit] at hin
          exact ⟨base, rfl, limit, rfl, hin⟩
    · obtain ⟨region', hlt, hin'⟩ := h region hhalf address hin
      exact absurd hin' (hleast region' hlt)
  · intro h region hhalf address hin
    by_contra hno
    push Not at hno
    obtain ⟨base, hbase, limit, hlimit, -⟩ := h address region hin hno
    rw [Option.mem_def] at hbase hlimit
    exact hhalf (by rw [hbase, hlimit]; rfl)

theorem exists_mapToMemory {m : AddressMap} {region : List Char} {address : ℕ} (h : m.Contains region address) :
    ∃ region', mapToMemory (m.foldl recordItem ∅).regions address = some region' := by
  obtain ⟨l, hl, hin⟩ := AddressMap.contains_iff.1 h
  rw [← getElem?_foldl_recordItem, ← Std.TreeMap.mem_toList_iff_getElem?_eq_some] at hl
  rw [← Option.isSome_iff_exists, mapToMemory, Option.isSome_map, List.find?_isSome]
  exact ⟨_, List.mem_map_of_mem hl, decide_eq_true hin⟩

/-! ## Labels -/

section Labels

variable {cpuSections : List (Option AddressMap)} {k : ℕ} {m : AddressMap}

theorem getMemoryMap_of_readable (hget : getMemoryMap cpuSections = (recordItems ∅ m).map fun map => (some k, map))
    (h : m.visible.Readable) : getMemoryMap cpuSections = some (some k, m.visible.foldl recordItem ∅) := by
  rw [hget, (recordItems_eq m ∅).1 h]
  rfl

theorem getMemoryMap_of_not_readable (hget : getMemoryMap cpuSections = (recordItems ∅ m).map fun map => (some k, map))
    (h : ¬ m.visible.Readable) : getMemoryMap cpuSections = none := by
  rw [hget, (recordItems_eq m ∅).2 h]
  rfl

/-- The first map is enabled. -/
theorem labelsRight_iff_of_enabled (hk : IsFirstMap (fun _ => True) cpuSections k m) (henabled : m.Enabled)
    (hget : getMemoryMap cpuSections = (recordItems ∅ m).map fun map => (some k, map)) :
    LabelsRight cpuSections ↔ m.Readable ∧ m.Covered := by
  have hfirst : IsFirstMap AddressMap.Enabled cpuSections k m :=
    ⟨hk.1, henabled, fun j hj m' hm' _ => hk.2.2 j hj m' hm' trivial⟩
  by_cases hread : m.visible.Readable
  · have hmap := getMemoryMap_of_readable hget hread
    rw [visible_of_enabled henabled] at hread hmap
    rw [and_iff_right hread, covered_iff]
    constructor
    · intro h address region hin hleast
      have hlabel : label cpuSections address = some region := by
        rw [label, hmap]
        exact (mapToMemory_foldl m address region).2 ⟨hin, hleast⟩
      obtain ⟨i, m', map, hi, hm', -, hhalves⟩ := h.sound address region hlabel
      obtain rfl : k = i := Option.some.inj (Prod.mk.inj (Option.some.inj (hmap.symm.trans hi))).1
      obtain rfl : m = m' := Option.some.inj (Option.some.inj (hk.1.symm.trans hm'))
      exact hhalves
    · intro h
      refine ⟨fun address region hlabel => ?_, fun i m' hi => ?_⟩
      · rw [label, hmap] at hlabel
        obtain ⟨hin, hleast⟩ := (mapToMemory_foldl m address region).1 hlabel
        exact ⟨k, m, _, hmap, hk.1, henabled, h address region hin hleast⟩
      · obtain ⟨rfl, rfl⟩ := hfirst.unique hi
        refine ⟨_, hmap, fun region base hbase limit hlimit => ?_⟩
        rw [Option.mem_def] at hbase hlimit
        rw [getElem?_foldl_recordItem, AddressMap.limits, hbase, hlimit]
        rfl
  · refine iff_of_false (fun h => ?_) fun h => hread ((visible_of_enabled henabled).symm ▸ h.1)
    obtain ⟨map, hmap, -⟩ := h.first k m hfirst
    rw [getMemoryMap_of_not_readable hget hread] at hmap
    cases hmap

/-- The first map is not enabled. -/
theorem labelsRight_iff_of_not_enabled (hk : IsFirstMap (fun _ => True) cpuSections k m) (hdisabled : ¬ m.Enabled)
    (hget : getMemoryMap cpuSections = (recordItems ∅ m).map fun map => (some k, map)) :
    LabelsRight cpuSections ↔ (∀ (j : ℕ) (m' : AddressMap), cpuSections[j]? = some (some m') → ¬ m'.Enabled) ∧
      (m.visible.Readable → ∀ region address, ¬ m.visible.Contains region address) := by
  constructor
  · intro h
    refine ⟨fun j m' hm' henabled => ?_, fun hread region address hin => ?_⟩
    · obtain ⟨i, m'', hi⟩ := exists_isFirstMap hm' henabled
      obtain ⟨map, hmap, -⟩ := h.first i m'' hi
      rw [hget, Option.map_eq_some_iff] at hmap
      obtain ⟨_, -, heq⟩ := hmap
      obtain rfl : k = i := Option.some.inj (Prod.mk.inj heq).1
      obtain rfl : m = m'' := Option.some.inj (Option.some.inj (hk.1.symm.trans hi.1))
      exact hdisabled hi.2.1
    · have hmap := getMemoryMap_of_readable hget hread
      obtain ⟨region', hlabel⟩ := exists_mapToMemory hin
      have hlabel' : label cpuSections address = some region' := by
        rw [label, hmap]
        exact hlabel
      obtain ⟨i, m', map, hi, hm', henabled, -⟩ := h.sound address region' hlabel'
      obtain rfl : k = i := Option.some.inj (Prod.mk.inj (Option.some.inj (hmap.symm.trans hi))).1
      obtain rfl : m = m' := Option.some.inj (Option.some.inj (hk.1.symm.trans hm'))
      exact hdisabled henabled
  · rintro ⟨hno, hempty⟩
    refine ⟨fun address region hlabel => ?_, fun i m' hi => absurd hi.2.1 (hno i m' hi.1)⟩
    by_cases hread : m.visible.Readable
    · rw [label, getMemoryMap_of_readable hget hread] at hlabel
      exact absurd ((mapToMemory_foldl _ address region).1 hlabel).1 (hempty hread region address)
    · rw [label, getMemoryMap_of_not_readable hget hread] at hlabel
      cases hlabel

end Labels

/-- **Memory map.** The labels are right exactly if the first map is enabled, its values are texts, and what a region without
base or limit contains is also in a region before it; or if no map is enabled, and what is visited of the first one gives no
region with an address. -/
theorem labelsRight_iff (cpuSections : List (Option AddressMap)) : LabelsRight cpuSections ↔ MapsFit cpuSections := by
  rcases getMemoryMapFrom_cases cpuSections 0 with ⟨hnone, hget⟩ | ⟨k, m, hk, hget⟩
  · refine iff_of_true ⟨fun address region hlabel => ?_, fun i m hi => absurd hi.1 (hnone i m)⟩
      fun i m hi => absurd hi.1 (hnone i m)
    rw [label, getMemoryMap, hget] at hlabel
    cases hlabel
  · rw [Nat.zero_add] at hget
    have hfit : MapsFit cpuSections ↔ (m.Enabled ∧ m.Readable ∧ m.Covered ∨
        (∀ (j : ℕ) (m' : AddressMap), cpuSections[j]? = some (some m') → ¬ m'.Enabled) ∧
          (m.visible.Readable → ∀ region address, ¬ m.visible.Contains region address)) := by
      refine ⟨fun h => h k m hk, fun h i m' hi => ?_⟩
      obtain ⟨rfl, rfl⟩ := hk.unique hi
      exact h
    rw [hfit]
    by_cases henabled : m.Enabled
    · rw [labelsRight_iff_of_enabled hk henabled hget, and_iff_right henabled]
      exact (or_iff_left fun h => h.1 k m hk.1 henabled).symm
    · rw [labelsRight_iff_of_not_enabled hk henabled hget]
      exact (or_iff_right fun h => henabled h.1).symm

/-- A map whose base was not read. -/
def halfMap : AddressMap := [("MMIO_BASE".toList, .text "UA:0x90".toList), ("MMIO_LIMIT".toList, .text "0x1fff".toList)]

/-- A map that is not enabled, and holds a region all the same. -/
def disabledMap : AddressMap :=
  [("MMIO_BASE".toList, .text "0x1000".toList), ("MMIO_LIMIT".toList, .text "0x1fff".toList), disabledItem]

/-- The map of a single CPU. -/
theorem getMemoryMap_singleton (m : AddressMap) :
    getMemoryMap [some m] = (recordItems ∅ m).map fun map => (some 0, map) := by
  rw [Option.map_eq_bind]
  rfl

theorem isFirstMap_singleton (m : AddressMap) : IsFirstMap (fun _ => True) [some m] 0 m :=
  ⟨rfl, trivial, fun _ hj => absurd hj (Nat.not_lt_zero _)⟩

/-- A region without base begins at 0; and the name of the item that disables a map comes behind those of its registers. -/
theorem halfMap_used : ¬ LabelsRight [some halfMap] ∧ ¬ LabelsRight [some disabledMap] := by
  refine ⟨fun h => ?_, fun h => ?_⟩
  · have hcovered := ((labelsRight_iff_of_enabled (isFirstMap_singleton _) (by decide) (getMemoryMap_singleton _)).1 h).2
    obtain ⟨region', hlt, hin⟩ := hcovered "MMIO".toList (by decide) 0 (by decide)
    obtain ⟨item, hitem, half, hname⟩ := hin.exists_item
    have hregion : region' = "MMIO".toList := by
      rcases List.mem_cons.1 hitem with rfl | hitem
      · exact (Prod.mk.inj (Option.some.inj (hname.symm.trans (by decide : _ = some ("MMIO".toList, Half.base))))).1
      · obtain rfl := List.mem_singleton.1 hitem
        exact (Prod.mk.inj (Option.some.inj (hname.symm.trans (by decide : _ = some ("MMIO".toList, Half.limit))))).1
    rw [hregion] at hlt
    exact absurd hlt (by decide)
  · have hempty :=
      ((labelsRight_iff_of_not_enabled (isFirstMap_singleton _) (by decide) (getMemoryMap_singleton disabledMap)).1 h).2
    refine hempty (fun item hitem => .inr ?_) "MMIO".toList 0x1000 (by decide)
    have hvisible : disabledMap.visible =
        [("MMIO_BASE".toList, .text "0x1000".toList), ("MMIO_LIMIT".toList, .text "0x1fff".toList)] := by decide
    rw [hvisible] at hitem
    rcases List.mem_cons.1 hitem with rfl | hitem
    · exact ⟨_, rfl⟩
    · rw [List.mem_singleton.1 hitem]
      exact ⟨_, rfl⟩

end BmcBafi
