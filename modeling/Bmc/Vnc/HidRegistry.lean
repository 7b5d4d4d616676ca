import Bmc.Lib.Run
import Bmc.Vnc.HidResource

/-!
# The registry of the HID devices

`hid_vnc.c`: every process has its own table of the processes, which it reads from the file when it registers one.

* `HidRegistry.save`, `HidRegistry.unload`: `save_hid_resource` and `unload_hid_resource`;
* `Right`: the file lists what is registered, and no access was out of bounds;
* `Allowed`: what a call takes; `Inv`: what holds while the calls are allowed;
* `inv_save`, `inv_unload`, `allowed_of_right`: one call; **`always_right_iff`**: all calls.
-/

namespace BmcVnc

open BmcLib

variable {Proc : Type*}

/-! ## Calls -/

/-- The file, the table of each process, and what is registered. `outOfBounds` is set by an access outside the
table; the memory around the table is not modelled. -/
structure HidRegistry (Proc : Type*) where
  file : Option (List Char)
  list : Proc → List (List Char)
  registered : Finset (List Char)
  outOfBounds : Bool

/-- Nothing is registered, and the tables are empty. -/
def HidRegistry.start : HidRegistry Proc := ⟨none, fun _ => List.replicate maxSupportProcess [], ∅, false⟩

/-- A call of a process. -/
inductive HidCall (Proc : Type*) where
  | save (caller : Proc) (regProcess : List Char)
  | unload (caller : Proc) (regProcess : List Char)

namespace HidRegistry

/-- The number in the file. -/
def resource (s : HidRegistry Proc) : UInt8 := (s.file.map fun text => getHidResource text 0).getD 0

/-- The names fit into the table. -/
def FitsList (names : List (List Char)) : Prop :=
  names.length ≤ maxSupportProcess ∧ ∀ name ∈ names, name.length < rowSize

instance : DecidablePred FitsList := fun _ => inferInstanceAs (Decidable (_ ∧ _))

/-- The table after names have been read into it. -/
def loadList (list names : List (List Char)) : List (List Char) :=
  names.take maxSupportProcess ++ list.drop names.length

/-- `save_hid_resource`. -/
def save [DecidableEq Proc] (s : HidRegistry Proc) (caller : Proc) (regProcess : List Char) : HidRegistry Proc :=
  if maxSupportProcess < s.resource.toNat then s
  else match s.file with
    | none => { s with
        file := some (hidResourceFile [regProcess] (s.resource + 1))
        registered := insert regProcess s.registered }
    | some text =>
      let list := loadList (s.list caller) (handleList text)
      let rows := list.take s.resource.toNat
      { file := some (hidResourceFile (rows.filter (· ≠ regProcess) ++ [regProcess])
          (if regProcess ∈ rows then s.resource else s.resource + 1))
        list := Function.update s.list caller list
        registered := insert regProcess s.registered
        outOfBounds := s.outOfBounds || !decide (FitsList (handleList text)) }

/-- `unload_hid_resource`. The table is not read from the file, and the name is blanked in it. -/
def unload [DecidableEq Proc] (s : HidRegistry Proc) (caller : Proc) (regProcess : List Char) : HidRegistry Proc :=
  let rows := ((s.list caller).take s.resource.toNat).map fun row => if row = regProcess then [] else row
  let left := if 0 < s.resource then s.resource - 1 else s.resource
  { file := if left = 0 then none else some (hidResourceFile (rows.filter (· ≠ [])) left)
    list := Function.update s.list caller (rows ++ (s.list caller).drop s.resource.toNat)
    registered := s.registered.erase regProcess
    outOfBounds := s.outOfBounds || decide (maxSupportProcess < s.resource.toNat) }

def step [DecidableEq Proc] (s : HidRegistry Proc) : HidCall Proc → HidRegistry Proc
  | .save caller regProcess => s.save caller regProcess
  | .unload caller regProcess => s.unload caller regProcess

/-! ## What is claimed, and what it takes -/

/-- The file lists the processes, each once, with their number. There is no file without processes. -/
def Lists : Option (List Char) → Finset (List Char) → Prop
  | none, registered => registered = ∅
  | some text, registered => (handleList text).Nodup ∧ (handleList text).toFinset = registered ∧
      (getHidResource text 0).toNat = registered.card

/-- **The registry is right**: the file lists what is registered, and no access was out of bounds. -/
structure Right (s : HidRegistry Proc) : Prop where
  lists : Lists s.file s.registered
  inBounds : s.outOfBounds = false

/-- The names in the first rows of a table, apart from one. -/
def others (list : List (List Char)) (n : ℕ) (regProcess : List Char) : List (List Char) :=
  (list.take n).filter fun row => row ≠ regProcess ∧ row ≠ []

/-- **What a call takes.** A name that is registered is readable, and those that are registered already fit into the
rows, unless the call is refused. A name that is removed is registered, by a process whose table has the others, and
the processes are not more than the rows, unless there is no other one. -/
def Allowed (s : HidRegistry Proc) : HidCall Proc → Prop
  | .save _ regProcess => maxSupportProcess < s.registered.card ∨
      (∀ name ∈ s.registered, name.length < rowSize) ∧ Readable regProcess
  | .unload caller regProcess => s.registered ⊆ {regProcess} ∨
      regProcess ∈ s.registered ∧ s.registered.card ≤ maxSupportProcess ∧
        (others (s.list caller) s.registered.card regProcess).Nodup ∧
        (others (s.list caller) s.registered.card regProcess).toFinset = s.registered.erase regProcess

/-! ## What holds while the calls are allowed -/

variable {s : HidRegistry Proc} {caller : Proc} {regProcess : List Char} {names : List (List Char)}

/-- **What holds** while the calls are allowed. -/
structure Inv (s : HidRegistry Proc) : Prop where
  right : Right s
  file : s.registered = ∅ → s.file = none
  card : s.registered.card ≤ 4
  readable : ∀ name ∈ s.registered, Readable name
  length : ∀ caller, (s.list caller).length = maxSupportProcess
  rows : ∀ caller, ∀ row ∈ s.list caller, row = [] ∨ Readable row

theorem inv_start : Inv (start : HidRegistry Proc) where
  right := ⟨rfl, rfl⟩
  file _ := rfl
  card := Nat.zero_le 4
  readable name hname := absurd hname (Finset.notMem_empty name)
  length _ := rfl
  rows _ _ hrow := .inl (List.eq_of_mem_replicate hrow)

/-- The names that the file lists. -/
def fileNames (s : HidRegistry Proc) : List (List Char) := (s.file.map handleList).getD []

theorem Inv.listed (h : Inv s) :
    (fileNames s).Nodup ∧ (fileNames s).toFinset = s.registered ∧ s.resource.toNat = s.registered.card := by
  have hlists := h.right.lists
  unfold fileNames resource
  cases hfile : s.file with
  | none =>
    rw [hfile] at hlists
    have hnone : s.registered = ∅ := hlists
    rw [hnone]
    exact ⟨List.nodup_nil, rfl, rfl⟩
  | some text =>
    rw [hfile] at hlists
    exact hlists

theorem Inv.length_listed (h : Inv s) : (fileNames s).length = s.registered.card := by
  rw [← List.toFinset_card_of_nodup h.listed.1, h.listed.2.1]

theorem Inv.readable_listed (h : Inv s) : ∀ name ∈ fileNames s, Readable name := fun name hname =>
  h.readable name (h.listed.2.1 ▸ List.mem_toFinset.2 hname)

/-- A file that is written with readable names and their number. -/
theorem lists_file {resource : UInt8} (hnodup : names.Nodup) (h : ∀ name ∈ names, Readable name)
    (hlen : resource.toNat = names.length) (hle : names.length ≤ 4) :
    Lists (some (hidResourceFile names resource)) names.toFinset := by
  refine ⟨?_, ?_, ?_⟩
  · rwa [handleList_file h (hlen ▸ hle)]
  · rw [handleList_file h (hlen ▸ hle)]
  · rw [getHidResource_file h (hlen ▸ hle), hlen, List.toFinset_card_of_nodup hnodup]

/-! ## Registrations -/

/-- The names that are written for a registration. -/
def saved (s : HidRegistry Proc) (regProcess : List Char) : List (List Char) :=
  (fileNames s).filter (· ≠ regProcess) ++ [regProcess]

theorem Inv.nodup_saved (h : Inv s) : (saved s regProcess).Nodup := by
  have hnot : regProcess ∉ (fileNames s).filter (· ≠ regProcess) := fun hc => by
    simpa using (List.mem_filter.1 hc).2
  rw [saved, ← List.concat_eq_append]
  exact (h.listed.1.filter _).concat hnot

theorem Inv.toFinset_saved (h : Inv s) : (saved s regProcess).toFinset = insert regProcess s.registered := by
  ext name
  rw [saved, List.mem_toFinset, List.mem_append, List.mem_filter, List.mem_singleton, Finset.mem_insert,
    ← h.listed.2.1, List.mem_toFinset, decide_eq_true_iff]
  tauto

/-- The number after a registration. -/
theorem Inv.toNat_saved (h : Inv s) (hcard : s.registered.card ≤ maxSupportProcess) :
    (if regProcess ∈ s.registered then s.resource else s.resource + 1).toNat =
      (insert regProcess s.registered).card := by
  have hresource := h.listed.2.2
  unfold maxSupportProcess at hcard
  split_ifs with hmem
  · rw [Finset.insert_eq_of_mem hmem, hresource]
  · rw [Finset.card_insert_of_notMem hmem, UInt8.toNat_add, hresource]
    exact Nat.mod_eq_of_lt (by change _ + 1 < 256; omega)

variable [DecidableEq Proc]

/-- **A registration** that is not refused: the process is put behind the others. -/
theorem Inv.save_eq (h : Inv s) (caller : Proc) (regProcess : List Char)
    (hcard : s.registered.card ≤ maxSupportProcess) :
    ∃ list, s.save caller regProcess =
      { file := some (hidResourceFile (saved s regProcess)
          (if regProcess ∈ s.registered then s.resource else s.resource + 1))
        list := list
        registered := insert regProcess s.registered
        outOfBounds := !decide (FitsList (fileNames s)) } ∧
      ∀ caller, (list caller).length = maxSupportProcess ∧ ∀ row ∈ list caller, row = [] ∨ Readable row := by
  obtain ⟨-, hset, hresource⟩ := h.listed
  have hlen := h.length_listed
  have hmem : regProcess ∈ s.registered ↔ regProcess ∈ fileNames s := by rw [← hset, List.mem_toFinset]
  have hnames : ∀ row ∈ fileNames s, row = [] ∨ Readable row := fun row hrow => .inr (h.readable_listed row hrow)
  have hbounds := h.right.inBounds
  rw [save, if_neg (by omega), saved]
  unfold fileNames at hlen hmem hnames ⊢
  cases hfile : s.file with
  | none =>
    rw [hfile] at hmem
    have hnot : regProcess ∉ s.registered := fun hc => absurd (hmem.1 hc) List.not_mem_nil
    refine ⟨s.list, ?_, fun caller => ⟨h.length caller, h.rows caller⟩⟩
    rw [if_neg hnot, hbounds]
    rfl
  | some text =>
    rw [hfile] at hlen hmem hnames
    change (handleList text).length = s.registered.card at hlen
    change regProcess ∈ s.registered ↔ regProcess ∈ handleList text at hmem
    have htake : (handleList text).take maxSupportProcess = handleList text := List.take_of_length_le (by omega)
    have hrows : (loadList (s.list caller) (handleList text)).take s.resource.toNat = handleList text := by
      rw [loadList, htake, hresource, ← hlen, List.take_left]
    refine ⟨Function.update s.list caller (loadList (s.list caller) (handleList text)), ?_, fun other => ?_⟩
    · dsimp only
      rw [hrows, hbounds, if_congr hmem rfl rfl]
      rfl
    · by_cases hother : other = caller
      · subst hother
        rw [Function.update_self, loadList, htake, List.length_append, List.length_drop, h.length]
        refine ⟨by omega, fun row hrow => ?_⟩
        rcases List.mem_append.1 hrow with hrow | hrow
        · exact hnames row hrow
        · exact h.rows _ row (List.mem_of_mem_drop hrow)
      · rw [Function.update_of_ne hother]
        exact ⟨h.length other, h.rows other⟩

theorem Inv.refused (h : Inv s) (hcard : maxSupportProcess < s.registered.card) :
    s.save caller regProcess = s := by
  rw [save, if_pos (h.listed.2.2 ▸ hcard)]

theorem inv_save (h : Inv s) (ha : Allowed s (.save caller regProcess)) : Inv (s.save caller regProcess) := by
  rcases Nat.lt_or_ge maxSupportProcess s.registered.card with hfull | hcard
  · rwa [h.refused hfull]
  obtain ⟨hshort, hreadable⟩ := ha.resolve_left (Nat.not_lt.2 hcard)
  obtain ⟨list, hsave, hlist⟩ := h.save_eq caller regProcess hcard
  have hsaved : ∀ name ∈ saved s regProcess, Readable name := by
    intro name hname
    rcases List.mem_append.1 hname with hname | hname
    · exact h.readable_listed name (List.mem_of_mem_filter hname)
    · exact List.mem_singleton.1 hname ▸ hreadable
  have hcardInsert := Finset.card_insert_le regProcess s.registered
  have hlen : (saved s regProcess).length = (insert regProcess s.registered).card := by
    rw [← h.toFinset_saved, List.toFinset_card_of_nodup h.nodup_saved]
  have hlists := lists_file h.nodup_saved hsaved ((h.toNat_saved hcard).trans hlen.symm)
    (by unfold maxSupportProcess at hcard; omega)
  rw [h.toFinset_saved] at hlists
  have hfits : FitsList (fileNames s) := by
    refine ⟨h.length_listed.trans_le hcard, fun name hname => hshort name ?_⟩
    exact h.listed.2.1 ▸ List.mem_toFinset.2 hname
  rw [hsave]
  refine ⟨⟨hlists, by simpa using hfits⟩, fun hnone => absurd hnone (Finset.insert_ne_empty _ _), ?_, ?_,
    fun caller => (hlist caller).1, fun caller => (hlist caller).2⟩
  · unfold maxSupportProcess at hcard
    exact hcardInsert.trans (by omega)
  · intro name hname
    rcases Finset.mem_insert.1 hname with rfl | hname
    · exact hreadable
    · exact h.readable name hname

theorem allowed_save (h : Inv s) (hright : Right (s.save caller regProcess)) :
    Allowed s (.save caller regProcess) := by
  rcases Nat.lt_or_ge maxSupportProcess s.registered.card with hfull | hcard
  · exact .inl hfull
  obtain ⟨list, hsave, -⟩ := h.save_eq caller regProcess hcard
  rw [hsave] at hright
  have hfits : FitsList (fileNames s) := by simpa using hright.inBounds
  refine .inr ⟨fun name hname => hfits.2 name ?_, ?_⟩
  · rwa [← List.mem_toFinset, h.listed.2.1]
  by_contra hno
  have hkept : ∀ name ∈ (fileNames s).filter (· ≠ regProcess), Readable name := fun name hname =>
    h.readable_listed name (List.mem_of_mem_filter hname)
  refine not_readBack hkept hno hright.lists.1 ?_
  refine hright.lists.2.1.trans ?_
  rw [← h.toFinset_saved, saved, List.toFinset_append, List.toFinset_cons, List.toFinset_nil, Finset.union_comm]
  rfl

/-! ## Removals -/

omit [DecidableEq Proc] in
/-- The rows that are written for a removal. -/
theorem filter_blanked (list : List (List Char)) (n : ℕ) :
    ((list.take n).map fun row => if row = regProcess then [] else row).filter (· ≠ []) =
      others list n regProcess := by
  rw [others]
  induction list.take n with
  | nil => rfl
  | cons row rows ih =>
    rw [List.map_cons, List.filter_cons, List.filter_cons, ih]
    by_cases hrow : row = regProcess
    · simp [hrow]
    · simp [hrow]

omit [DecidableEq Proc] in
/-- The number after a removal. -/
theorem Inv.toNat_left (h : Inv s) :
    (if 0 < s.resource then s.resource - 1 else s.resource).toNat = s.registered.card - 1 := by
  have hresource := h.listed.2.2
  split_ifs with hpos
  · have hle : (1 : UInt8) ≤ s.resource := UInt8.le_iff_toNat_le.2 (UInt8.lt_iff_toNat_lt.1 hpos)
    rw [UInt8.toNat_sub_of_le _ _ hle, hresource]
    rfl
  · have hzero : ¬ 0 < s.resource.toNat := fun hc => hpos (UInt8.lt_iff_toNat_lt.2 hc)
    omega

/-- **A removal**: the other names of the table of the caller are written, with a number that is one less. -/
theorem Inv.unload_eq (h : Inv s) (caller : Proc) (regProcess : List Char) : ∃ left list, left.toNat = s.registered.card - 1 ∧
    s.unload caller regProcess =
      { file := if left = 0 then none
          else some (hidResourceFile (others (s.list caller) s.registered.card regProcess) left)
        list := list
        registered := s.registered.erase regProcess
        outOfBounds := decide (maxSupportProcess < s.registered.card) } ∧
    ∀ caller, (list caller).length = maxSupportProcess ∧ ∀ row ∈ list caller, row = [] ∨ Readable row := by
  have hresource := h.listed.2.2
  refine ⟨_, (s.unload caller regProcess).list, h.toNat_left, ?_, fun other => ?_⟩
  · rw [unload, hresource, filter_blanked, h.right.inBounds, Bool.false_or]
  · dsimp only [unload]
    by_cases hother : other = caller
    · subst hother
      rw [Function.update_self, List.length_append, List.length_map, List.length_take, List.length_drop, h.length]
      refine ⟨by omega, fun row hrow => ?_⟩
      rcases List.mem_append.1 hrow with hrow | hrow
      · obtain ⟨row', hrow', rfl⟩ := List.mem_map.1 hrow
        split_ifs
        · exact .inl rfl
        · exact h.rows _ row' (List.mem_of_mem_take hrow')
      · exact h.rows _ row (List.mem_of_mem_drop hrow)
    · rw [Function.update_of_ne hother]
      exact ⟨h.length other, h.rows other⟩

omit [DecidableEq Proc] in
theorem Inv.readable_others (h : Inv s) {n : ℕ} :
    ∀ name ∈ others (s.list caller) n regProcess, Readable name := by
  intro name hname
  obtain ⟨hrow, hne⟩ := List.mem_filter.1 hname
  exact (h.rows caller name (List.mem_of_mem_take hrow)).resolve_left (of_decide_eq_true hne).2

omit [DecidableEq Proc] in
theorem erase_eq_empty_iff : s.registered.erase regProcess = ∅ ↔ s.registered ⊆ {regProcess} := by
  rw [Finset.erase_eq_empty_iff, Finset.subset_singleton_iff]

omit [DecidableEq Proc] in
/-- The number after a removal is zero when at most one process was registered. -/
theorem left_eq_zero_iff {left : UInt8} (hleft : left.toNat = s.registered.card - 1) :
    left = 0 ↔ s.registered.card ≤ 1 := by
  rw [← UInt8.toNat_inj, hleft, UInt8.toNat_zero]
  omega

theorem inv_unload (h : Inv s) (ha : Allowed s (.unload caller regProcess)) : Inv (s.unload caller regProcess) := by
  obtain ⟨left, list, hleft, hunload, hlist⟩ := h.unload_eq caller regProcess
  have hzero := left_eq_zero_iff hleft
  have hcardErase := Finset.card_erase_le (s := s.registered) (a := regProcess)
  have hempty : s.registered ⊆ {regProcess} → s.registered.card ≤ 1 := fun hsub =>
    (Finset.card_le_card hsub).trans (Finset.card_singleton regProcess).le
  rw [hunload]
  refine ⟨⟨?_, ?_⟩, fun hnone => ?_, hcardErase.trans h.card,
    fun name hname => h.readable name (Finset.mem_of_mem_erase hname), fun caller => (hlist caller).1,
    fun caller => (hlist caller).2⟩
  · dsimp only
    rcases ha with hsub | ⟨hmem, -, hnodup, hset⟩
    · rw [if_pos (hzero.2 (hempty hsub))]
      exact erase_eq_empty_iff.2 hsub
    have hcard : (s.registered.erase regProcess).card = s.registered.card - 1 := Finset.card_erase_of_mem hmem
    split_ifs with hnone
    · refine Finset.card_eq_zero.1 ?_
      have := hzero.1 hnone
      omega
    · have hlen : (others (s.list caller) s.registered.card regProcess).length =
          (s.registered.erase regProcess).card := by
        rw [← hset, List.toFinset_card_of_nodup hnodup]
      have hlists := lists_file hnodup h.readable_others (hleft.trans (hcard.symm.trans hlen.symm))
        (hlen ▸ hcardErase.trans h.card)
      rwa [hset] at hlists
  · have hle : s.registered.card ≤ maxSupportProcess := by
      rcases ha with hsub | ⟨-, hle, -⟩
      · exact (hempty hsub).trans (by decide)
      · exact hle
    exact decide_eq_false (Nat.not_lt.2 hle)
  · exact if_pos (hzero.2 (hempty (erase_eq_empty_iff.1 hnone)))

theorem allowed_unload (h : Inv s) (hright : Right (s.unload caller regProcess)) :
    Allowed s (.unload caller regProcess) := by
  obtain ⟨left, list, hleft, hunload, -⟩ := h.unload_eq caller regProcess
  have hzero := left_eq_zero_iff hleft
  rw [hunload] at hright
  have hle : s.registered.card ≤ maxSupportProcess := Nat.not_lt.1 (of_decide_eq_false hright.inBounds)
  have hlists := hright.lists
  dsimp only at hlists
  split_ifs at hlists with hnone
  · exact .inl (erase_eq_empty_iff.1 hlists)
  obtain ⟨hnodup, hset, hnumber⟩ := hlists
  have hfour : left.toNat ≤ 4 := by
    have := h.card
    omega
  rw [handleList_file h.readable_others hfour] at hnodup hset
  rw [getHidResource_file h.readable_others hfour, hleft] at hnumber
  refine .inr ⟨?_, hle, hnodup, hset⟩
  by_contra hmem
  rw [Finset.erase_eq_of_notMem hmem] at hnumber
  have := mt hzero.2 hnone
  omega

/-! ## All calls -/

/-- **One call.** -/
theorem inv_step (h : Inv s) (call : HidCall Proc) (ha : Allowed s call) : Inv (s.step call) := by
  cases call with
  | save caller regProcess => exact inv_save h ha
  | unload caller regProcess => exact inv_unload h ha

theorem allowed_of_right (h : Inv s) (call : HidCall Proc) (hright : Right (s.step call)) : Allowed s call := by
  cases call with
  | save caller regProcess => exact allowed_save h hright
  | unload caller regProcess => exact allowed_unload h hright

/-- **All calls.** The file lists what is registered, and the table is only accessed inside its bounds, exactly when
every call is allowed. -/
theorem always_right_iff (calls : List (HidCall Proc)) :
    Always step Right (start : HidRegistry Proc) calls ↔ AllSteps step Allowed (start : HidRegistry Proc) calls := by
  have hgood : ∀ s : HidRegistry Proc, Inv s → Right s := fun _ h => h.right
  have hok : ∀ (s : HidRegistry Proc) call, Inv s → Allowed s call → Inv (step s call) := fun _ call h ha =>
    inv_step h call ha
  have hbad : ∀ (s : HidRegistry Proc) call, Inv s → ¬ Allowed s call → ¬ Right (step s call) :=
    fun _ call h ha hright => ha (allowed_of_right h call hright)
  exact always_iff_of_inv hgood hok hbad inv_start calls

end HidRegistry

/-- Two processes are registered, and the first one is removed: its table, which it has never read, is empty, so that
the file lists no process any more. -/
theorem first_unload_loses_second : ¬ ∀ calls : List (HidCall Bool),
    Always HidRegistry.step HidRegistry.Right (HidRegistry.start : HidRegistry Bool) calls := by
  intro h
  have hrun := h [.save true ['v', 'n', 'c'], .save false ['k', 'v', 'm'], .unload true ['v', 'n', 'c']]
  have hset := hrun.2.2.2.lists.2.1
  exact absurd hset (by decide +kernel)

end BmcVnc
