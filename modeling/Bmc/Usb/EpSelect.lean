import Bmc.Usb.Device

/-!
# Selecting a hardware endpoint

`select_suitable_endpoint` of `descriptors.c`: the scan over the endpoints of the hardware for one of the right direction and
type, of exactly the maximum packet size or of the largest one.

* `EpTable`, `EpSlot`: `ep_config`; `EpRequest`: what an endpoint is needed for;
* `scanEndpoints`, with **`scanEndpoints_spec`**: the endpoint that is found;
* `SelectsRight`, with **`selectsRight_iff`**: a selection is right exactly when it finds an endpoint, or there is nothing to
  spoil;
* `givenOut`, with **`nodup_givenOut`**: an endpoint that was given out is not given out again.
-/

namespace BmcUsb

/-! ## The table -/

/-- `ep_config_t` -/
structure EpSlot where
  epNum : UInt8
  epDir : UInt8
  epSize : UInt16
  epType : UInt8
  isEpUsed : Bool
  deriving DecidableEq

/-- `USB_DEV_EP_INFO`: the endpoints of the hardware. Their numbers are neither 0, which is the control endpoint, nor 0xFF. -/
structure EpTable where
  epConfig : ℕ → EpSlot
  numEps : UInt8
  epNum_ne : ∀ i < numEps.toNat, (epConfig i).epNum ≠ 0 ∧ (epConfig i).epNum ≠ 0xFF

/-- The arguments of `select_suitable_endpoint`. -/
structure EpRequest where
  dir : UInt8
  type : UInt8
  minPktSize : UInt16
  maxPktSize : UInt16

/-- The endpoint is free, has the direction and the type, and is large enough. -/
def EpSlot.Suitable (e : EpSlot) (r : EpRequest) : Prop :=
  e.isEpUsed = false ∧ (r.dir = e.epDir ∨ e.epDir = configurable) ∧ (r.type = e.epType ∨ e.epType = configurable) ∧
    r.minPktSize ≤ e.epSize

instance (e : EpSlot) (r : EpRequest) : Decidable (e.Suitable r) := inferInstanceAs (Decidable (_ ∧ _))

/-- The variables `ep`, `ep_size` and `index` of the scan. -/
structure EpChoice where
  ep : UInt8
  epSize : UInt16
  index : ℕ

/-- The loop of `select_suitable_endpoint`, from the entry `i` on, with `n` entries left. -/
def scanEndpoints (t : EpTable) (r : EpRequest) : ℕ → ℕ → EpChoice → EpChoice
  | 0, _, c => c
  | n + 1, i, c =>
    let e := t.epConfig i
    if e.Suitable r then
      if e.epSize = r.maxPktSize then { c with ep := e.epNum, index := i }
      else if c.epSize ≥ e.epSize then scanEndpoints t r n (i + 1) c
      else scanEndpoints t r n (i + 1) ⟨e.epNum, e.epSize, i⟩
    else scanEndpoints t r n (i + 1) c

/-- What the scan ends with. -/
def EpTable.choice (t : EpTable) (r : EpRequest) : EpChoice := scanEndpoints t r t.numEps.toNat 0 ⟨0, 0, 0⟩

/-- The entry of an endpoint that is used. -/
def EpSlot.use (e : EpSlot) (r : EpRequest) : EpSlot :=
  { e with isEpUsed := true, epDir := if e.epDir = configurable then r.dir else e.epDir }

/-- Mark an entry as used. -/
def EpTable.use (t : EpTable) (r : EpRequest) (i : ℕ) : EpTable where
  epConfig := Function.update t.epConfig i ((t.epConfig i).use r)
  numEps := t.numEps
  epNum_ne j hj := by
    rcases eq_or_ne j i with rfl | hne
    · rw [Function.update_self]
      exact t.epNum_ne j hj
    · rw [Function.update_of_ne hne]
      exact t.epNum_ne j hj

/-- No endpoint is used, as `AddCfgDesc` leaves it. -/
def EpTable.freeAll (t : EpTable) : EpTable where
  epConfig i := if i < t.numEps.toNat then { t.epConfig i with isEpUsed := false } else t.epConfig i
  numEps := t.numEps
  epNum_ne i hi := by
    rw [if_pos hi]
    exact t.epNum_ne i hi

/-- `select_suitable_endpoint`: the number of the endpoint, or 0xFF, the size of its buffer, and the table it leaves. -/
def selectSuitableEndpoint (t : EpTable) (r : EpRequest) : UInt8 × UInt16 × EpTable :=
  let c := t.choice r
  (if c.ep = 0 then 0xFF else c.ep, (t.epConfig c.index).epSize, t.use r c.index)

/-! ## Specification -/

/-- The entry `i` is the right one: suitable, and of exactly the maximum size if there is such an entry, else of largest size. -/
structure EpTable.Best (t : EpTable) (r : EpRequest) (i : ℕ) : Prop where
  lt : i < t.numEps.toNat
  suitable : (t.epConfig i).Suitable r
  exact : (∃ j < t.numEps.toNat, (t.epConfig j).Suitable r ∧ (t.epConfig j).epSize = r.maxPktSize) →
    (t.epConfig i).epSize = r.maxPktSize
  largest : (¬ ∃ j < t.numEps.toNat, (t.epConfig j).Suitable r ∧ (t.epConfig j).epSize = r.maxPktSize) →
    ∀ j < t.numEps.toNat, (t.epConfig j).Suitable r → (t.epConfig j).epSize ≤ (t.epConfig i).epSize

/-- **A selection is right**: when it succeeds it marks the right entry and no other one, and when it fails it changes no
entry. -/
def SelectsRight (t : EpTable) (r : EpRequest) : Prop :=
  let s := selectSuitableEndpoint t r
  (s.1 ≠ 0xFF → ∃ i, t.Best r i ∧ s.1 = (t.epConfig i).epNum ∧ s.2.2.epConfig i = (t.epConfig i).use r ∧
    ∀ j, j ≠ i → s.2.2.epConfig j = t.epConfig j) ∧
  (s.1 = 0xFF → ∀ j < t.numEps.toNat, s.2.2.epConfig j = t.epConfig j)

/-- There is an endpoint to select: a suitable one of exactly the maximum size, or of any size but 0. -/
def EpTable.CanSelect (t : EpTable) (r : EpRequest) : Prop :=
  ∃ j < t.numEps.toNat, (t.epConfig j).Suitable r ∧ ((t.epConfig j).epSize = r.maxPktSize ∨ (t.epConfig j).epSize ≠ 0)

/-- The first entry is used already, with its direction, so that marking it changes nothing. -/
def EpTable.FirstUsed (t : EpTable) (r : EpRequest) : Prop :=
  (t.epConfig 0).isEpUsed = true ∧ ((t.epConfig 0).epDir = configurable → r.dir = configurable)

/-! ## The scan -/

section Scan

variable {t : EpTable} {r : EpRequest}

/-- What the entries before `i` leave: nothing yet, or the first of the largest ones, and none of exactly the maximum size. -/
structure ScanInv (t : EpTable) (r : EpRequest) (i : ℕ) (c : EpChoice) : Prop where
  none : c.ep = 0 → c.epSize = 0 ∧ c.index = 0
  some : c.ep ≠ 0 → c.index < i ∧ (t.epConfig c.index).Suitable r ∧ c.ep = (t.epConfig c.index).epNum ∧
    c.epSize = (t.epConfig c.index).epSize ∧ c.epSize ≠ 0
  largest : ∀ j < i, (t.epConfig j).Suitable r → (t.epConfig j).epSize ≠ r.maxPktSize ∧ (t.epConfig j).epSize ≤ c.epSize

/-- **The scan** finds the right entry when there is one to select, and nothing otherwise. -/
theorem scanEndpoints_spec {n i : ℕ} (hn : i + n = t.numEps.toNat) {c : EpChoice} (hc : ScanInv t r i c) :
    let c' := scanEndpoints t r n i c
    (c'.ep ≠ 0 → t.Best r c'.index ∧ c'.ep = (t.epConfig c'.index).epNum ∧ t.CanSelect r) ∧
      (c'.ep = 0 → c'.index = 0 ∧ ¬ t.CanSelect r) := by
  induction n generalizing i c with
  | zero =>
    have hi : t.numEps.toNat = i := hn.symm
    rw [scanEndpoints]
    refine ⟨fun hep => ?_, fun hep => ⟨(hc.none hep).2, ?_⟩⟩
    · obtain ⟨hlt, hsuitable, hnum, hsize, hne⟩ := hc.some hep
      refine ⟨⟨hi ▸ hlt, hsuitable, ?_, fun _ j hj hsuit => ?_⟩, hnum, _, hi ▸ hlt, hsuitable, .inr (hsize ▸ hne)⟩
      · rintro ⟨j, hj, hsuit, hmax⟩
        exact absurd hmax (hc.largest j (hi ▸ hj) hsuit).1
      · rw [← hsize]
        exact (hc.largest j (hi ▸ hj) hsuit).2
    · rintro ⟨j, hj, hsuit, hsize⟩
      obtain ⟨hmax, hle⟩ := hc.largest j (hi ▸ hj) hsuit
      rw [(hc.none hep).1] at hle
      exact hsize.elim hmax fun hne => hne (UInt16.le_zero_iff.1 hle)
  | succ n ih =>
    have hlt : i < t.numEps.toNat := by omega
    have hn' : i + 1 + n = t.numEps.toNat := by omega
    -- the entries before `i + 1`, once the entry `i` is dealt with
    have hnext : ∀ {P : ℕ → Prop}, (∀ j < i, P j) → P i → ∀ j < i + 1, P j := fun hP hi j hj =>
      (Nat.lt_succ_iff_lt_or_eq.1 hj).elim (hP j) fun heq => heq ▸ hi
    rw [scanEndpoints]
    by_cases hsuitable : (t.epConfig i).Suitable r
    · rw [if_pos hsuitable]
      by_cases hmax : (t.epConfig i).epSize = r.maxPktSize
      · rw [if_pos hmax]
        refine ⟨fun _ => ⟨⟨hlt, hsuitable, fun _ => hmax, fun hnone => ?_⟩, rfl, i, hlt, hsuitable, .inl hmax⟩,
          fun hep => ?_⟩
        · exact absurd ⟨i, hlt, hsuitable, hmax⟩ hnone
        · exact absurd hep (t.epNum_ne i hlt).1
      rw [if_neg hmax]
      by_cases hsize : c.epSize ≥ (t.epConfig i).epSize
      · rw [if_pos hsize]
        exact ih hn' ⟨hc.none, fun hep => ⟨(hc.some hep).1.trans i.lt_succ_self, (hc.some hep).2⟩,
          hnext hc.largest fun _ => ⟨hmax, hsize⟩⟩
      · rw [if_neg hsize]
        have hlarger : c.epSize < (t.epConfig i).epSize := UInt16.not_le.1 hsize
        refine ih hn' ⟨fun hep => absurd hep (t.epNum_ne i hlt).1, fun _ => ⟨i.lt_succ_self, hsuitable, rfl, rfl, ?_⟩,
          hnext (fun j hj hsuit => ?_) fun _ => ⟨hmax, UInt16.le_refl _⟩⟩
        · intro hzero
          have hzero : (t.epConfig i).epSize = 0 := hzero
          rw [hzero] at hlarger
          exact absurd hlarger UInt16.not_lt_zero
        · exact ⟨(hc.largest j hj hsuit).1, UInt16.le_trans (hc.largest j hj hsuit).2 (UInt16.le_of_lt hlarger)⟩
    · rw [if_neg hsuitable]
      exact ih hn' ⟨hc.none, fun hep => ⟨(hc.some hep).1.trans i.lt_succ_self, (hc.some hep).2⟩,
        hnext hc.largest fun hsuit => absurd hsuit hsuitable⟩

theorem choice_spec (t : EpTable) (r : EpRequest) :
    ((t.choice r).ep ≠ 0 → t.Best r (t.choice r).index ∧ (t.choice r).ep = (t.epConfig (t.choice r).index).epNum ∧
        t.CanSelect r) ∧
      ((t.choice r).ep = 0 → (t.choice r).index = 0 ∧ ¬ t.CanSelect r) :=
  scanEndpoints_spec (Nat.zero_add _)
    ⟨fun _ => ⟨rfl, rfl⟩, fun hep => absurd rfl hep, fun j hj => absurd hj (Nat.not_lt_zero j)⟩

/-- The scan finds an endpoint exactly when there is one to select. -/
theorem choice_ep_ne_zero_iff : (t.choice r).ep ≠ 0 ↔ t.CanSelect r :=
  ⟨fun hep => ((choice_spec t r).1 hep).2.2, fun hcan hep => ((choice_spec t r).2 hep).2 hcan⟩

end Scan

/-! ## The selection -/

section Select

variable {t : EpTable} {r : EpRequest}

/-- The selection succeeds exactly when the scan finds an endpoint. -/
theorem select_ne_iff : (selectSuitableEndpoint t r).1 ≠ 0xFF ↔ (t.choice r).ep ≠ 0 := by
  rw [selectSuitableEndpoint]
  dsimp only
  by_cases hep : (t.choice r).ep = 0
  · rw [if_pos hep]
    exact iff_of_false (fun h => h rfl) fun h => h hep
  · rw [if_neg hep]
    obtain ⟨hbest, hnum, -⟩ := (choice_spec t r).1 hep
    refine iff_of_true ?_ hep
    rw [hnum]
    exact (t.epNum_ne _ hbest.lt).2

theorem use_of_ne {i j : ℕ} (h : j ≠ i) : (t.use r i).epConfig j = t.epConfig j := Function.update_of_ne h _ _

theorem use_self (t : EpTable) (r : EpRequest) (i : ℕ) : (t.use r i).epConfig i = (t.epConfig i).use r :=
  Function.update_self _ _ _

/-- Marking an entry changes nothing exactly when it is used, with its direction. -/
theorem use_eq_iff (e : EpSlot) (r : EpRequest) :
    e.use r = e ↔ e.isEpUsed = true ∧ (e.epDir = configurable → r.dir = configurable) := by
  constructor
  · intro h
    refine ⟨(congrArg EpSlot.isEpUsed h).symm, fun hdir => ?_⟩
    have hdir' : (if e.epDir = configurable then r.dir else e.epDir) = e.epDir := congrArg EpSlot.epDir h
    rwa [if_pos hdir, hdir] at hdir'
  · rintro ⟨hused, hdir⟩
    have hdir' : (if e.epDir = configurable then r.dir else e.epDir) = e.epDir := by
      split_ifs with hconf
      · rw [hdir hconf, hconf]
      · rfl
    rw [EpSlot.use, hdir', ← hused]

/-- **A selection is right** exactly when it finds an endpoint, the table is empty, or the first entry is used already. -/
theorem selectsRight_iff : SelectsRight t r ↔ t.CanSelect r ∨ t.numEps = 0 ∨ t.FirstUsed r := by
  rw [SelectsRight]
  by_cases hcan : t.CanSelect r
  · have hep := choice_ep_ne_zero_iff.2 hcan
    obtain ⟨hbest, hnum, -⟩ := (choice_spec t r).1 hep
    refine iff_of_true ⟨fun _ => ⟨_, hbest, ?_, use_self t r _, fun j hj => use_of_ne hj⟩, fun h => ?_⟩ (.inl hcan)
    · rw [selectSuitableEndpoint, ← hnum]
      exact if_neg hep
    · exact absurd h (select_ne_iff.2 hep)
  · have hep : (t.choice r).ep = 0 := not_not.1 fun hep => hcan (choice_ep_ne_zero_iff.1 hep)
    have hfail : (selectSuitableEndpoint t r).1 = 0xFF := not_not.1 fun h => select_ne_iff.1 h hep
    have htable : (selectSuitableEndpoint t r).2.2 = t.use r 0 := by
      rw [selectSuitableEndpoint, ((choice_spec t r).2 hep).1]
    rw [htable, or_iff_right hcan, EpTable.FirstUsed, ← use_eq_iff, ← use_self]
    constructor
    · rintro ⟨-, hsame⟩
      rcases Nat.eq_zero_or_pos t.numEps.toNat with hzero | hpos
      · exact .inl (UInt8.toNat_inj.1 hzero)
      · exact .inr (hsame hfail 0 hpos)
    · refine fun h => ⟨fun hne => absurd hfail hne, fun _ j hj => ?_⟩
      rcases h with hzero | hfirst
      · rw [hzero] at hj
        exact absurd hj (Nat.not_lt_zero j)
      · rcases eq_or_ne j 0 with rfl | hne
        · exact hfirst
        · exact use_of_ne hne

/-! ## Many selections -/

/-- The table after some selections. -/
def EpTable.after (t : EpTable) (r : EpRequest) : EpTable := (selectSuitableEndpoint t r).2.2

/-- The entries that successful selections give out, one after the other. -/
def givenOut : EpTable → List EpRequest → List ℕ
  | _, [] => []
  | t, r :: rs => (if (selectSuitableEndpoint t r).1 = 0xFF then [] else [(t.choice r).index]) ++ givenOut (t.after r) rs

/-- An entry that is free after a selection was free before it, and is not the one that was selected. -/
theorem free_of_after {i : ℕ} (h : ((t.after r).epConfig i).isEpUsed = false) :
    (t.epConfig i).isEpUsed = false ∧ i ≠ (t.choice r).index := by
  have hne : i ≠ (t.choice r).index := by
    rintro rfl
    have hused : ((t.use r (t.choice r).index).epConfig (t.choice r).index).isEpUsed = true := by
      rw [use_self]
      rfl
    exact Bool.false_ne_true (h.symm.trans hused)
  refine ⟨?_, hne⟩
  rw [← h]
  exact congrArg EpSlot.isEpUsed (use_of_ne hne).symm

/-- Only free entries are given out. -/
theorem free_of_mem_givenOut {i : ℕ} {rs : List EpRequest} (h : i ∈ givenOut t rs) : (t.epConfig i).isEpUsed = false := by
  induction rs generalizing t with
  | nil => exact absurd h List.not_mem_nil
  | cons r rs ih =>
    rw [givenOut, List.mem_append] at h
    rcases h with h | h
    · split_ifs at h with hfail
      · exact absurd h List.not_mem_nil
      · rw [List.mem_singleton.1 h]
        exact ((choice_spec t r).1 (select_ne_iff.1 hfail)).1.suitable.1
    · exact (free_of_after (ih h)).1

/-- **No endpoint is given out twice.** -/
theorem nodup_givenOut (t : EpTable) (rs : List EpRequest) : (givenOut t rs).Nodup := by
  induction rs generalizing t with
  | nil => exact List.nodup_nil
  | cons r rs ih =>
    rw [givenOut, List.nodup_append]
    refine ⟨?_, ih _, fun i hi j hj heq => ?_⟩
    · split_ifs
      · exact List.nodup_nil
      · exact List.nodup_singleton _
    · split_ifs at hi
      · exact absurd hi List.not_mem_nil
      · exact (free_of_after (free_of_mem_givenOut hj)).2 (heq ▸ List.mem_singleton.1 hi)

end Select

end BmcUsb
