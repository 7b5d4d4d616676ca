import Bmc.Acd.BigCoreReads

/-!
# The lines of a big-core dump

Which parts of the dump the log lines are made from, and which of them carry an error.

* `CrashDump.places`: the places of items that follow each other, as far as the dump goes;
* `registerDump_places`, `registerDump_marked_iff`: the registers;
* `foldl_logSqData`, `foldl_logSqDataRaw`: the SQ data;
* **`withinDump_iff`**: when all accesses to a dump lie within it.
-/

namespace BmcAcd

open BmcLib

/-- The byte behind the item. -/
def DumpLine.stop (l : DumpLine) : ℕ := l.index + l.numBytes

/-- The place of the item. -/
def DumpLine.place (l : DumpLine) : ℕ × ℕ := (l.index, l.numBytes)

namespace CrashDump

variable (d : CrashDump)

/-! ## One line -/

/-- The string of a part of the dump. -/
def dataText (index numBytes : ℕ) : DumpText :=
  if cdJsonStringLen < numBytes * 2 + sizeOf0x0 then .tooSmall
  else .value (slice d.data index numBytes)

/-- An item that ends at `stop` is logged with an error. -/
def Marked (stop : ℕ) : Prop := d.numReads < stop ∧ (d.ret ≠ .success ∨ peciCcUA d.cc)

instance (stop : ℕ) : Decidable (d.Marked stop) := inferInstanceAs (Decidable (_ ∧ (_ ∨ _)))

variable {d}

theorem getJsonDataString_of_lt {index n : ℕ} (h : d.size < index + n) :
    d.getJsonDataString index n = none := if_pos h

theorem getJsonDataString_of_le {index n : ℕ} (h : index + n ≤ d.size) :
    d.getJsonDataString index n = some (d.dataText index n) := by
  unfold getJsonDataString dataText
  rw [if_neg (by omega)]
  split_ifs <;> rfl

theorem Marked.mono {m n : ℕ} (h : d.Marked m) (hmn : m ≤ n) : d.Marked n :=
  ⟨lt_of_lt_of_le h.1 hmn, h.2⟩

theorem withStatus_of_not_marked {stop : ℕ} (h : ¬ d.Marked stop) (t : DumpText) :
    d.withStatus stop t = t := by
  unfold Marked at h
  push Not at h
  unfold withStatus
  split_ifs with h₁ h₂ h₃
  · exact absurd (h h₁).1 h₂
  · exact absurd h₃ (h h₁).2
  · rfl
  · rfl

variable (d) in
/-- The line of a register or an SQ entry. -/
def statusLine (name : DumpName) (index n : ℕ) : DumpLine :=
  ⟨name, index, n, d.withStatus (index + n) (d.dataText index n)⟩

/-! ## Registers -/

/-- The places of items with these sizes, from the byte `index` on, that lie in `size` bytes. -/
def places (size : ℕ) : ℕ → List ℕ → List (ℕ × ℕ)
  | _, [] => []
  | index, n :: ns => if size < index + n then [] else (index, n) :: places size (index + n) ns

/-- The sizes of registers. -/
def sizes (regs : List SCrashdumpRegICX1) : List ℕ := regs.map fun r => r.size.toNat

variable {index : ℕ} {reg : SCrashdumpRegICX1} {regs : List SCrashdumpRegICX1}

theorem registerDump_of_lt (h : d.size < index + reg.size.toNat) :
    d.registerDump index (reg :: regs) = ([], d.size) := by
  rw [registerDump, getJsonDataString_of_lt h]

theorem registerDump_of_marked (h : index + reg.size.toNat ≤ d.size)
    (hM : d.Marked (index + reg.size.toNat)) :
    d.registerDump index (reg :: regs) =
      ([d.statusLine (.register reg.name) index reg.size.toNat], d.size) := by
  rw [registerDump, getJsonDataString_of_le h]
  exact if_pos hM

theorem registerDump_of_not_marked (h : index + reg.size.toNat ≤ d.size)
    (hM : ¬ d.Marked (index + reg.size.toNat)) :
    d.registerDump index (reg :: regs) =
      (d.statusLine (.register reg.name) index reg.size.toNat ::
        (d.registerDump (index + reg.size.toNat) regs).1,
        (d.registerDump (index + reg.size.toNat) regs).2) := by
  rw [registerDump, getJsonDataString_of_le h]
  exact if_neg hM

/-- What `registerDump` logs, and where it stops. -/
structure RegisterLines (d : CrashDump) (index : ℕ) (r : List DumpLine × ℕ) : Prop where
  le : index ≤ r.2
  le_size : r.2 ≤ d.size
  lines : ∀ l ∈ r.1, index ≤ l.index ∧ l.stop ≤ r.2 ∧
    ∃ name, l = d.statusLine (.register name) l.index l.numBytes
  sorted : r.1.Pairwise fun l l' => l.stop ≤ l'.stop

theorem registerDump_lines (regs : List SCrashdumpRegICX1) (h : index ≤ d.size) :
    d.RegisterLines index (d.registerDump index regs) := by
  induction regs generalizing index with
  | nil => exact ⟨le_rfl, h, by simp [registerDump], .nil⟩
  | cons reg regs ih =>
    rcases Nat.lt_or_ge d.size (index + reg.size.toNat) with hlt | hle
    · rw [registerDump_of_lt hlt]
      exact ⟨h, le_rfl, by simp, .nil⟩
    by_cases hM : d.Marked (index + reg.size.toNat)
    · rw [registerDump_of_marked hle hM]
      refine ⟨h, le_rfl, fun l hl => ?_, List.pairwise_singleton _ _⟩
      obtain rfl := List.mem_singleton.1 hl
      exact ⟨le_rfl, hle, _, rfl⟩
    · rw [registerDump_of_not_marked hle hM]
      obtain ⟨h₁, h₂, h₃, h₄⟩ := ih hle
      refine ⟨by dsimp only; omega, h₂, fun l hl => ?_, List.pairwise_cons.2 ⟨fun l hl => ?_, h₄⟩⟩
      · rcases List.mem_cons.1 hl with rfl | hl
        · exact ⟨le_rfl, h₁, _, rfl⟩
        · obtain ⟨hi, hs⟩ := h₃ l hl
          exact ⟨by omega, hs⟩
      · have hi := (h₃ l hl).1
        show index + reg.size.toNat ≤ l.index + l.numBytes
        omega

/-- **Registers and errors.** That all registers with `P` carry an error may be asked of the registers of
the list, together with what follows them, instead of those that are logged. -/
theorem registerDump_marked_iff (P : ℕ × ℕ → Prop) {extra : List ℕ} (hpos : ∀ n ∈ extra, 0 < n) :
    ((∀ l ∈ (d.registerDump index regs).1, P l.place → d.Marked l.stop) ∧
      ((d.registerDump index regs).2 < d.size →
        ∀ p ∈ places d.size (index + (sizes regs).sum) extra, P p → d.Marked (p.1 + p.2))) ↔
      ∀ p ∈ places d.size index (sizes regs ++ extra), P p → d.Marked (p.1 + p.2) := by
  induction regs generalizing index with
  | nil =>
    simp only [registerDump, List.not_mem_nil, false_implies, implies_true, true_and, sizes, List.map_nil,
      List.sum_nil, Nat.add_zero, List.nil_append]
    refine ⟨fun h p hp => h ?_ p hp, fun h _ => h⟩
    -- nothing fits behind the end
    by_contra hlt
    cases extra with
    | nil => simp [places] at hp
    | cons n ns =>
      have := hpos n List.mem_cons_self
      rw [places, if_pos (by omega)] at hp
      simp at hp
  | cons reg regs ih =>
    have hcons : sizes (reg :: regs) ++ extra = reg.size.toNat :: (sizes regs ++ extra) := rfl
    have hsum : index + (sizes (reg :: regs)).sum = index + reg.size.toNat + (sizes regs).sum := by
      simp [sizes, Nat.add_assoc]
    rw [hcons, hsum, places]
    rcases Nat.lt_or_ge d.size (index + reg.size.toNat) with hlt | hle
    · rw [registerDump_of_lt hlt, if_pos hlt]
      simp
    rw [if_neg (by omega)]
    by_cases hM : d.Marked (index + reg.size.toNat)
    · rw [registerDump_of_marked hle hM]
      have hlater : ∀ (ns : List ℕ) (i : ℕ), index + reg.size.toNat ≤ i →
          ∀ p ∈ places d.size i ns, d.Marked (p.1 + p.2) := by
        intro ns
        induction ns with
        | nil => simp [places]
        | cons n ns ihn =>
          intro i hi p hp
          rw [places] at hp
          split_ifs at hp with hn
          · simp at hp
          rcases List.mem_cons.1 hp with rfl | hp
          · exact hM.mono (by dsimp only; omega)
          · exact ihn (i + n) (by omega) p hp
      refine ⟨fun _ p hp _ => ?_, fun _ => ⟨fun l hl _ => ?_, fun h => absurd h (lt_irrefl _)⟩⟩
      · rcases List.mem_cons.1 hp with rfl | hp
        · exact hM
        · exact hlater _ _ le_rfl p hp
      · obtain rfl := List.mem_singleton.1 hl
        exact hM
    · rw [registerDump_of_not_marked hle hM]
      simp only [List.forall_mem_cons, and_assoc]
      exact and_congr Iff.rfl ih

/-- Without errors, the registers are logged as far as the dump goes. -/
theorem registerDump_places (hM : ∀ stop, ¬ d.Marked stop) (index : ℕ)
    (regs : List SCrashdumpRegICX1) :
    (d.registerDump index regs).1.map DumpLine.place = places d.size index (sizes regs) ∧
      (d.registerDump index regs).2 =
        if (places d.size index (sizes regs)).length = regs.length then index + (sizes regs).sum
        else d.size := by
  induction regs generalizing index with
  | nil => exact ⟨rfl, rfl⟩
  | cons reg regs ih =>
    have hcons : sizes (reg :: regs) = reg.size.toNat :: sizes regs := rfl
    rw [hcons, places]
    rcases Nat.lt_or_ge d.size (index + reg.size.toNat) with hlt | hle
    · rw [registerDump_of_lt hlt, if_pos hlt]
      simp
    · rw [registerDump_of_not_marked hle (hM _), if_neg (by omega)]
      obtain ⟨h₁, h₂⟩ := ih (index + reg.size.toNat)
      refine ⟨by rw [List.map_cons, h₁]; rfl, ?_⟩
      simp only [h₂, List.length_cons, Nat.add_right_cancel_iff, List.sum_cons, Nat.add_assoc]

/-! ## SQ data -/

variable (d) in
/-- The lines of SQ entries. -/
def entryLines : ℕ → List (SqObject × ℕ) → List DumpLine
  | _, [] => []
  | index, e :: es =>
    d.statusLine (.entry e.1 e.2) index cdJsonSqEntrySize ::
      entryLines (index + cdJsonSqEntrySize) es

variable (d) in
/-- The lines of SQ data of an unexpected size. -/
def rawLines (object : SqObject) : ℕ → List ℕ → List DumpLine
  | _, [] => []
  | index, i :: is =>
    if d.size < index + cdJsonSqEntrySize then []
    else ⟨.sqRaw object i, index, cdJsonSqEntrySize, d.dataText index cdJsonSqEntrySize⟩ ::
      rawLines object (index + cdJsonSqEntrySize) is

theorem sqItem_of_lt {line : ℕ → DumpText → DumpLine} {s : ℕ × List DumpLine}
    (h : d.size < s.1 + cdJsonSqEntrySize) : d.sqItem line s = s := by
  rw [sqItem, getJsonDataString_of_lt h]

theorem sqItem_of_le {line : ℕ → DumpText → DumpLine} {s : ℕ × List DumpLine}
    (h : s.1 + cdJsonSqEntrySize ≤ d.size) :
    d.sqItem line s =
      (s.1 + cdJsonSqEntrySize, s.2 ++ [line s.1 (d.dataText s.1 cdJsonSqEntrySize)]) := by
  rw [sqItem, getJsonDataString_of_le h]

theorem foldl_logSqData_of_lt (object : SqObject) (is : List ℕ) {s : ℕ × List DumpLine}
    (h : d.size < s.1 + cdJsonSqEntrySize) : is.foldl (d.logSqData object) s = s := by
  induction is with
  | nil => rfl
  | cons i is ih => rw [List.foldl_cons, logSqData, sqItem_of_lt h, ih]

theorem foldl_logSqData (object : SqObject) (is : List ℕ) {s : ℕ × List DumpLine}
    (h : s.1 + is.length * cdJsonSqEntrySize ≤ d.size) :
    is.foldl (d.logSqData object) s = (s.1 + is.length * cdJsonSqEntrySize,
      s.2 ++ d.entryLines s.1 (is.map (object, ·))) := by
  induction is generalizing s with
  | nil => simp [entryLines]
  | cons i is ih =>
    rw [List.length_cons, Nat.succ_mul] at h
    rw [List.foldl_cons, logSqData, sqItem_of_le (by omega), ih (by dsimp only; omega)]
    simp only [List.length_cons, List.map_cons, entryLines, List.append_assoc, List.singleton_append]
    exact Prod.ext (by dsimp only; rw [Nat.succ_mul]; omega) rfl

theorem foldl_logSqDataRaw (object : SqObject) (is : List ℕ) (s : ℕ × List DumpLine) :
    (is.foldl (d.logSqDataRaw object) s).2 = s.2 ++ d.rawLines object s.1 is := by
  induction is generalizing s with
  | nil => simp [rawLines]
  | cons i is ih =>
    rw [List.foldl_cons, logSqDataRaw, rawLines]
    rcases Nat.lt_or_ge d.size (s.1 + cdJsonSqEntrySize) with hlt | hle
    · rw [sqItem_of_lt hlt, ih, if_pos hlt]
      cases is with
      | nil => rfl
      | cons j js => rw [rawLines, if_pos hlt]
    · rw [sqItem_of_le hle, ih, if_neg (by omega)]
      simp

theorem entryLines_append (index : ℕ) (es es' : List (SqObject × ℕ)) :
    d.entryLines index (es ++ es') =
      d.entryLines index es ++ d.entryLines (index + es.length * cdJsonSqEntrySize) es' := by
  induction es generalizing index with
  | nil => simp [entryLines]
  | cons e es ih =>
    rw [List.cons_append, entryLines, entryLines, ih, List.cons_append, List.length_cons, Nat.succ_mul]
    congr 3
    omega

variable (d) in
/-- A dump with its registers `r` and SQ entries `es`. -/
def withSq (object : SqObject) (es : List (SqObject × ℕ)) (r : List DumpLine × ℕ) : List DumpLine :=
  if d.size ≤ r.2 then r.1
  else if es.length * cdJsonSqEntrySize = d.size - r.2 then r.1 ++ d.entryLines r.2 es
  else r.1 ++ ⟨.unexpectedSize object, r.2, 0, .size (d.size - r.2)⟩ ::
    d.rawLines object r.2 (List.range (d.size - r.2))

/-- The SQ entries of ICX. -/
def icxEntries : List (SqObject × ℕ) := (List.range cdJsonNumSqEntries).map (.sq, ·)

/-- The SQ entries of SPR. -/
def sprEntries : List (SqObject × ℕ) :=
  (List.range cdJsonNumSprSqdEntries).map (.sqd, ·) ++ (List.range cdJsonNumSprSqsEntries).map (.sqs, ·)

theorem sqRaw_eq (object : SqObject) (s : ℕ × List DumpLine) :
    (d.sqRaw object s).2 = s.2 ++ ⟨.unexpectedSize object, s.1, 0, .size (d.size - s.1)⟩ ::
      d.rawLines object s.1 (List.range (d.size - s.1)) := by
  rw [sqRaw, foldl_logSqDataRaw]
  simp

theorem crashdumpJsonICX_eq (regs : Option (List SCrashdumpRegICX1)) :
    d.crashdumpJsonICX regs = d.withSq .sq icxEntries (d.registers regs) := by
  unfold crashdumpJsonICX withSq
  dsimp only
  generalize d.registers regs = r
  split_ifs with h₁ h₂ h₃ h₃
  · rfl
  · -- the rounds behind the last entry find no data
    have hs : r.2 + 512 = d.size := by
      have h : 64 * 8 = d.size - r.2 := h₂
      omega
    have hfold : (List.range 64).foldl (d.logSqData .sq) (r.2, r.1) =
        (r.2 + 512, r.1 ++ d.entryLines r.2 icxEntries) :=
      foldl_logSqData .sq _ (by rw [List.length_range]; exact hs.le)
    have hsplit : List.range (d.size - r.2) = List.range 64 ++ (List.range 448).map (64 + ·) := by
      rw [← List.range_add, show d.size - r.2 = 64 + 448 by omega]
    rw [hsplit, List.foldl_append, hfold,
      foldl_logSqData_of_lt _ _ (by show d.size < r.2 + 512 + 8; omega)]
  · exact absurd (by simpa [icxEntries] using h₂) h₃
  · exact absurd (by simpa [icxEntries] using h₃) h₂
  · exact sqRaw_eq _ _

theorem crashdumpJsonSPR_eq (regs : Option (List SCrashdumpRegICX1)) :
    d.crashdumpJsonSPR regs = d.withSq .sqd sprEntries (d.registers regs) := by
  unfold crashdumpJsonSPR withSq
  dsimp only
  generalize d.registers regs = r
  split_ifs with h₁ h₂ h₃ h₃
  · rfl
  · have hs : r.2 + 768 = d.size := by
      have h : (48 + 48) * 8 = d.size - r.2 := h₂
      omega
    have hsqd : (List.range 48).foldl (d.logSqData .sqd) (r.2, r.1) =
        (r.2 + 384, r.1 ++ d.entryLines r.2 ((List.range 48).map (.sqd, ·))) :=
      foldl_logSqData .sqd _ (by rw [List.length_range]; show r.2 + 384 ≤ d.size; omega)
    rw [hsqd, foldl_logSqData _ _ (by rw [List.length_range]; show r.2 + 384 + 384 ≤ d.size; omega),
      sprEntries, entryLines_append, List.append_assoc, List.length_map, List.length_range]
    rfl
  · exact absurd (by simpa [sprEntries] using h₂) h₃
  · exact absurd (by simpa [sprEntries] using h₃) h₂
  · exact sqRaw_eq _ _

/-! ## Bounds -/

theorem entryLines_lines {index : ℕ} {es : List (SqObject × ℕ)} {l : DumpLine}
    (hl : l ∈ d.entryLines index es) :
    index ≤ l.index ∧ l.stop ≤ index + es.length * cdJsonSqEntrySize ∧
      ∃ object i, l = d.statusLine (.entry object i) l.index l.numBytes := by
  induction es generalizing index with
  | nil => simp [entryLines] at hl
  | cons e es ih =>
    rw [List.length_cons, Nat.succ_mul]
    rcases List.mem_cons.1 hl with rfl | hl
    · refine ⟨le_rfl, ?_, _, _, rfl⟩
      show index + cdJsonSqEntrySize ≤ _
      omega
    · obtain ⟨h₁, h₂, h₃⟩ := ih hl
      exact ⟨by omega, by omega, h₃⟩

theorem rawLines_stop_le {object : SqObject} {index : ℕ} {is : List ℕ} {l : DumpLine}
    (hl : l ∈ d.rawLines object index is) : l.stop ≤ d.size := by
  induction is generalizing index with
  | nil => simp [rawLines] at hl
  | cons i is ih =>
    rw [rawLines] at hl
    split_ifs at hl with h
    · simp at hl
    rcases List.mem_cons.1 hl with rfl | hl
    · exact Nat.not_lt.1 h
    · exact ih hl

theorem withSq_stop_le {object : SqObject} {es : List (SqObject × ℕ)} {r : List DumpLine × ℕ}
    {l : DumpLine} (hr : d.RegisterLines 0 r) (hl : l ∈ d.withSq object es r) : l.stop ≤ d.size := by
  have hreg : ∀ l ∈ r.1, l.stop ≤ d.size := fun l hl => (hr.lines l hl).2.1.trans hr.le_size
  unfold withSq at hl
  split_ifs at hl with h₁ h₂
  · exact hreg l hl
  · rcases List.mem_append.1 hl with hl | hl
    · exact hreg l hl
    · have := (entryLines_lines hl).2.1
      omega
  · rcases List.mem_append.1 hl with hl | hl
    · exact hreg l hl
    · rcases List.mem_cons.1 hl with rfl | hl
      · exact hr.le_size
      · exact rawLines_stop_le hl

theorem registers_lines (regs : Option (List SCrashdumpRegICX1)) :
    d.RegisterLines 0 (d.registers regs) := by
  cases regs with
  | none => exact ⟨Nat.zero_le _, le_rfl, fun _ h => absurd h List.not_mem_nil, .nil⟩
  | some regs => exact registerDump_lines regs (Nat.zero_le _)

theorem rawdumpJson_stop_le {fuel index : ℕ} {l : DumpLine} (hl : l ∈ d.rawdumpJson fuel index) :
    l.stop ≤ d.size := by
  induction fuel generalizing index with
  | zero => simp [rawdumpJson] at hl
  | succ fuel ih =>
    rw [rawdumpJson] at hl
    split_ifs at hl with h
    · rcases Nat.lt_or_ge d.size (index + 8) with hlt | hle
      · rw [getJsonDataString_of_lt hlt] at hl
        simp at hl
      · rw [getJsonDataString_of_le hle] at hl
        rcases List.mem_cons.1 hl with rfl | hl
        · exact hle
        · exact ih hl
    · simp at hl

end CrashDump

namespace BigCoreQuery

variable {q : BigCoreQuery}

theorem logDump_stop_le {s : FrameLoop} {l : DumpLine} (hl : l ∈ q.logDump s) :
    l.stop ≤ q.crashdumpSize := by
  unfold logDump at hl
  dsimp only at hl
  split_ifs at hl with h
  · cases hm : q.model with
    | sprhbm => simp [hm] at hl
    | spr =>
      rw [hm] at hl
      exact CrashDump.withSq_stop_le (CrashDump.registers_lines _)
        ((CrashDump.crashdumpJsonSPR_eq _).subst hl)
    | icx | icx2 | icxd =>
      rw [hm] at hl
      exact CrashDump.withSq_stop_le (CrashDump.registers_lines _)
        ((CrashDump.crashdumpJsonICX_eq _).subst hl)
  · exact (CrashDump.rawdumpJson_stop_le hl).trans (min_le_left _ _)

/-- The frames are written within the dump, but for the first one in a dump that is shorter. -/
theorem frames_within (h : q.Started) (h8 : 8 ≤ q.crashdumpSize) :
    ∀ a ∈ q.frames.1.accesses, a.1 + a.2 ≤ q.crashdumpSize := by
  intro a ha
  obtain ⟨j, hj, rfl⟩ := (frames_has h).accesses a ha
  have hle := q.framesRead_le
  dsimp only
  omega

theorem finish_within (s : FrameLoop) (hs : ∀ a ∈ s.accesses, a.1 + a.2 ≤ q.crashdumpSize)
    (h32 : 32 ≤ q.crashdumpSize) : ∀ a ∈ (q.finish s).accesses, a.1 + a.2 ≤ q.crashdumpSize := by
  intro a ha
  simp only [finish, List.mem_append, List.mem_singleton] at ha
  rcases ha with ((ha | ha) | rfl) | ha
  · exact hs a ha
  · split_ifs at ha
    · obtain rfl := List.mem_singleton.1 ha
      exact h32
    · simp at ha
  · exact h32
  · obtain ⟨l, hl, rfl⟩ := List.mem_map.1 ha
    exact logDump_stop_le (List.mem_of_mem_filter hl)

end BigCoreQuery

/-- **Accesses to the dump.** When the dump is read at all, its accesses lie within its size iff that is
at least four words, or the reading of the frames is given up for the whole socket: the fourth word is
tested in any case, also when it is not there. -/
theorem withinDump_iff (q : BigCoreQuery) :
    (∀ a ∈ q.queryForCrashDataForThread.accesses, a.1 + a.2 ≤ q.crashdumpSize) ↔
      (q.Started → 32 ≤ q.crashdumpSize ∨ 0 < q.framesRead ∧ q.SkipsSocket q.framesRead) := by
  by_cases hst : q.Started
  · rw [BigCoreQuery.query_of_started hst, ← BigCoreQuery.frames_left_iff hst]
    have hle := q.framesRead_le
    by_cases hleft : q.frames.2 = true
    · have h0 := ((BigCoreQuery.frames_left_iff hst).1 hleft).1
      rw [if_pos hleft]
      exact iff_of_true (BigCoreQuery.frames_within hst (by omega)) fun _ => .inr hleft
    · rw [if_neg hleft]
      refine ⟨fun h _ => .inl ?_, fun h => ?_⟩
      · exact h (cdWhoMiscOffset * 8, 8) (by simp [BigCoreQuery.finish])
      · have h32 := (h hst).resolve_right hleft
        exact BigCoreQuery.finish_within _ (BigCoreQuery.frames_within hst (by omega)) h32
  · obtain ⟨status, h⟩ := BigCoreQuery.query_of_not_started hst
    rw [h]
    exact iff_of_true (fun a ha => absurd ha List.not_mem_nil) fun h => absurd h hst

/-- A first frame with sizes 0. -/
def emptyDump : BigCoreQuery where
  clientAddr := 0x30
  model := .spr
  input := ⟨true, none⟩
  crashedCoreMask := 0
  coreNum := 0
  threads := 1
  waitForCoreCrashdump := false
  execStatus := .allRegisters
  granted := true
  heap _ := 0
  bus := ⟨fun _ => ⟨true, true, peciDevCcSuccess, fun _ => 0⟩, []⟩
  clock := ⟨fun _ => false, []⟩

/-- The first frame is written to a dump without bytes. -/
theorem not_withinDump_empty :
    ¬ ∀ q : BigCoreQuery, ∀ a ∈ q.queryForCrashDataForThread.accesses, a.1 + a.2 ≤ q.crashdumpSize := by
  intro h
  have h8 := h emptyDump (0, 8) (by decide +kernel)
  revert h8
  decide +kernel

end BmcAcd
