import Bmc.Acd.BigCoreLines

/-!
# What a big-core dump says about its reads

Whether the log shows which bytes of the dump were read from the CPU.

* `BigCoreQuery.Honest`: values only where all bytes were read, an error where the first are missing,
  and all bytes in order when nothing is missing;
* `BigCoreQuery.Careful`: how the ends of the items have to lie to the frames;
* **`honest_iff_careful`**, and the dump of `shortDump`, whose last frame fails.
-/

namespace BmcAcd

open BmcLib

/-! ## Values and errors -/

/-- The bytes that the string shows as a value. -/
def DumpText.bytes : DumpText → List UInt8
  | value bytes => bytes
  | _ => []

/-- A value without an error. -/
def DumpText.IsValue : DumpText → Prop
  | value _ => True
  | _ => False

/-- An error marker. -/
def DumpText.IsError : DumpText → Prop
  | fixedDataCcRc _ _ | dataCcRc _ _ _ => True
  | _ => False

/-- A register or an SQ entry. -/
def DumpName.isItem : DumpName → Bool
  | register _ | entry _ _ => true
  | _ => false

namespace CrashDump

variable {d : CrashDump}

theorem isError_statusLine (name : DumpName) (index n : ℕ) :
    (d.statusLine name index n).text.IsError ↔ d.Marked (index + n) := by
  have hdata : ¬ (d.dataText index n).IsError := by
    unfold dataText
    split_ifs <;> exact id
  by_cases hM : d.Marked (index + n)
  · refine iff_of_true ?_ hM
    show (d.withStatus (index + n) (d.dataText index n)).IsError
    rw [withStatus, if_pos hM.1]
    split_ifs with h₁ h₂
    · exact trivial
    · exact trivial
    · exact absurd hM.2 (not_or.2 ⟨h₁, h₂⟩)
  · refine iff_of_false ?_ hM
    rw [statusLine, withStatus_of_not_marked hM]
    exact hdata

theorem DumpText.not_isValue_of_isError {t : DumpText} (h : t.IsError) : ¬ t.IsValue := by
  cases t <;> first | exact id | exact absurd h id

/-- **Items and errors.** In items with their status, one behind the other, values are complete and the
first incomplete item shows an error iff all incomplete items would show one. -/
theorem items_honest_iff {ls : List DumpLine} (Inc : ℕ × ℕ → Prop)
    (hform : ∀ l ∈ ls, ∃ name, l = d.statusLine name l.index l.numBytes)
    (hsorted : ls.Pairwise fun l l' => l.stop ≤ l'.stop) :
    ((∀ l ∈ ls, l.text.IsValue → ¬ Inc l.place) ∧
      ∀ pre l post, ls = pre ++ l :: post → (∀ l' ∈ pre, ¬ Inc l'.place) → Inc l.place →
        l.text.IsError) ↔
      ∀ l ∈ ls, Inc l.place → d.Marked l.stop := by
  classical
  have hmarked : ∀ l ∈ ls, (l.text.IsError ↔ d.Marked l.stop) := by
    intro l hl
    obtain ⟨name, hname⟩ := hform l hl
    have h := isError_statusLine (d := d) name l.index l.numBytes
    rwa [← hname] at h
  constructor
  · rintro ⟨-, hfirst⟩ l hl hinc
    -- the first incomplete item is `l` or before it
    obtain ⟨l₀, hl₀⟩ := Option.isSome_iff_exists.1
      (List.find?_isSome.2 ⟨l, hl, decide_eq_true hinc⟩ : (ls.find? fun l => Inc l.place).isSome)
    obtain ⟨hinc₀, pre, post, hsplit, hpre⟩ := List.find?_eq_some_iff_append.1 hl₀
    have hpre' : ∀ l' ∈ pre, ¬ Inc l'.place := fun l' hl' => by simpa using hpre l' hl'
    have hM₀ : d.Marked l₀.stop := (hmarked l₀ (by simp [hsplit])).1
      (hfirst pre l₀ post hsplit hpre' (of_decide_eq_true hinc₀))
    rw [hsplit] at hl hsorted
    rcases List.mem_append.1 hl with hl | hl
    · exact absurd hinc (hpre' l hl)
    rcases List.mem_cons.1 hl with rfl | hl
    · exact hM₀
    · have hpost := (List.pairwise_append.1 hsorted).2.1
      exact hM₀.mono ((List.pairwise_cons.1 hpost).1 l hl)
  · intro h
    refine ⟨fun l hl hval hinc => ?_, fun pre l post hsplit _ hinc => ?_⟩
    · exact DumpText.not_isValue_of_isError ((hmarked l hl).2 (h l hl hinc)) hval
    · have hl : l ∈ ls := by simp [hsplit]
      exact (hmarked l hl).2 (h l hl hinc)

/-! ## Places -/

theorem mem_places {size index : ℕ} {ns : List ℕ} {p : ℕ × ℕ} (hp : p ∈ places size index ns) :
    index ≤ p.1 ∧ p.1 + p.2 ≤ size := by
  induction ns generalizing index with
  | nil => simp [places] at hp
  | cons n ns ih =>
    rw [places] at hp
    split_ifs at hp with h
    · simp at hp
    rcases List.mem_cons.1 hp with rfl | hp
    · exact ⟨le_rfl, Nat.not_lt.1 h⟩
    · exact ⟨by have := (ih hp).1; omega, (ih hp).2⟩

/-- A byte that is before the end of a place lies in a place, which does not end behind that one. -/
theorem exists_place {size index b : ℕ} {ns : List ℕ} {p' : ℕ × ℕ} (hp' : p' ∈ places size index ns)
    (hi : index ≤ b) (hb : b < p'.1 + p'.2) :
    ∃ p ∈ places size index ns, p.1 ≤ b ∧ b < p.1 + p.2 ∧ p.1 + p.2 ≤ p'.1 + p'.2 := by
  induction ns generalizing index with
  | nil => simp [places] at hp'
  | cons n ns ih =>
    rw [places] at hp' ⊢
    split_ifs at hp' ⊢ with h
    · simp at hp'
    rcases Nat.lt_or_ge b (index + n) with hlt | hge
    · refine ⟨(index, n), List.mem_cons_self, hi, hlt, ?_⟩
      rcases List.mem_cons.1 hp' with rfl | hp'
      · exact le_rfl
      · exact (mem_places hp').1.trans (Nat.le_add_right _ _)
    · rcases List.mem_cons.1 hp' with rfl | hp'
      · exact absurd hb (Nat.not_lt.2 hge)
      · obtain ⟨p, hp, h⟩ := ih hp' hge
        exact ⟨p, List.mem_cons_of_mem _ hp, h⟩

/-- The number of bytes of the places. -/
def total (ps : List (ℕ × ℕ)) : ℕ := (ps.map Prod.snd).sum

@[simp] theorem total_cons (p : ℕ × ℕ) (ps : List (ℕ × ℕ)) : total (p :: ps) = p.2 + total ps := rfl

theorem total_le {size index : ℕ} (ns : List ℕ) (h : index ≤ size) :
    index + total (places size index ns) ≤ size := by
  induction ns generalizing index with
  | nil => exact h
  | cons n ns ih =>
    rw [places]
    split_ifs with hlt
    · exact h
    · have := ih (Nat.not_lt.1 hlt)
      rw [total_cons]
      omega

/-- All items fit iff as many places as items are there; then the places have all their bytes. -/
theorem total_of_length {size index : ℕ} {ns : List ℕ}
    (h : (places size index ns).length = ns.length) : total (places size index ns) = ns.sum := by
  induction ns generalizing index with
  | nil => rfl
  | cons n ns ih =>
    rw [places] at h ⊢
    split_ifs at h ⊢ with hlt
    simp only [List.length_cons, Nat.add_right_cancel_iff] at h
    rw [total_cons, List.sum_cons, ih h]

/-! ## The items of a dump -/

/-- The sizes of the SQ entries that follow registers with these sizes. -/
def sqSizes (size numEntries : ℕ) (ns : List ℕ) : List ℕ :=
  if ns.sum + numEntries * cdJsonSqEntrySize = size then List.replicate numEntries cdJsonSqEntrySize
  else []

theorem registerDump_snd (index : ℕ) (regs : List SCrashdumpRegICX1) :
    (d.registerDump index regs).2 = d.size ∨
      (d.registerDump index regs).2 = index + (sizes regs).sum := by
  induction regs generalizing index with
  | nil => exact .inr rfl
  | cons reg regs ih =>
    rcases Nat.lt_or_ge d.size (index + reg.size.toNat) with hlt | hle
    · rw [registerDump_of_lt hlt]
      exact .inl rfl
    by_cases hM : d.Marked (index + reg.size.toNat)
    · rw [registerDump_of_marked hle hM]
      exact .inl rfl
    · rw [registerDump_of_not_marked hle hM]
      rcases ih (index + reg.size.toNat) with h | h
      · exact .inl h
      · exact .inr (h.trans (by simp [sizes, Nat.add_assoc]))

theorem entryLines_place (d : CrashDump) (index : ℕ) (es : List (SqObject × ℕ))
    (h : index + es.length * cdJsonSqEntrySize ≤ d.size) :
    (d.entryLines index es).map DumpLine.place =
      places d.size index (List.replicate es.length cdJsonSqEntrySize) := by
  induction es generalizing index with
  | nil => rfl
  | cons e es ih =>
    rw [List.length_cons, Nat.succ_mul] at h
    rw [entryLines, List.map_cons, List.length_cons, List.replicate_succ, places, if_neg (by omega),
      ih (index + cdJsonSqEntrySize) (by omega)]
    rfl

theorem entryLines_sorted {index : ℕ} {es : List (SqObject × ℕ)} :
    (d.entryLines index es).Pairwise fun l l' => l.stop ≤ l'.stop := by
  induction es generalizing index with
  | nil => exact .nil
  | cons e es ih =>
    refine List.pairwise_cons.2 ⟨fun l hl => ?_, ih⟩
    exact (entryLines_lines hl).1.trans (Nat.le_add_right _ _)

/-- The SQ entries that are logged. -/
theorem filter_withSq {object : SqObject} {es : List (SqObject × ℕ)} {r : List DumpLine × ℕ}
    (hr : d.RegisterLines 0 r) :
    (d.withSq object es r).filter (fun l => l.name.isItem) =
      r.1 ++ if r.2 < d.size ∧ es.length * cdJsonSqEntrySize = d.size - r.2 then d.entryLines r.2 es
        else [] := by
  have hreg : r.1.filter (fun l => l.name.isItem) = r.1 := by
    refine List.filter_eq_self.2 fun l hl => ?_
    obtain ⟨-, -, name, h⟩ := hr.lines l hl
    rw [h]
    rfl
  have hentry (index : ℕ) :
      (d.entryLines index es).filter (fun l => l.name.isItem) = d.entryLines index es := by
    refine List.filter_eq_self.2 fun l hl => ?_
    obtain ⟨-, -, object, i, h⟩ := entryLines_lines hl
    rw [h]
    rfl
  have hraw (index : ℕ) (is : List ℕ) :
      (d.rawLines object index is).filter (fun l => l.name.isItem) = [] := by
    induction is generalizing index with
    | nil => rfl
    | cons i is ih =>
      rw [rawLines]
      split_ifs
      · rfl
      · exact ih _
  unfold withSq
  by_cases h₁ : d.size ≤ r.2
  · rw [if_pos h₁, if_neg (by omega), List.append_nil, hreg]
  rw [if_neg h₁]
  by_cases h₂ : es.length * cdJsonSqEntrySize = d.size - r.2
  · rw [if_pos h₂, if_pos ⟨Nat.not_le.1 h₁, h₂⟩, List.filter_append, hreg, hentry]
  · rw [if_neg h₂, if_neg fun h => h₂ h.2, List.filter_append, hreg, List.append_nil]
    exact congrArg (r.1 ++ ·) (hraw _ _) |>.trans (List.append_nil _)

theorem withSq_form {object : SqObject} {es : List (SqObject × ℕ)} {r : List DumpLine × ℕ}
    (hr : d.RegisterLines 0 r) {l : DumpLine}
    (hl : l ∈ (d.withSq object es r).filter fun l => l.name.isItem) :
    ∃ name, l = d.statusLine name l.index l.numBytes := by
  rw [filter_withSq hr] at hl
  rcases List.mem_append.1 hl with hl | hl
  · obtain ⟨-, -, name, h⟩ := hr.lines l hl
    exact ⟨_, h⟩
  · split_ifs at hl
    · obtain ⟨-, -, object, i, h⟩ := entryLines_lines hl
      exact ⟨_, h⟩
    · simp at hl

theorem withSq_sorted {object : SqObject} {es : List (SqObject × ℕ)} {r : List DumpLine × ℕ}
    (hr : d.RegisterLines 0 r) :
    ((d.withSq object es r).filter fun l => l.name.isItem).Pairwise fun l l' => l.stop ≤ l'.stop := by
  rw [filter_withSq hr]
  refine List.pairwise_append.2 ⟨hr.sorted, ?_, fun l hl l' hl' => ?_⟩
  · split_ifs
    · exact entryLines_sorted
    · exact .nil
  · split_ifs at hl'
    · have h₁ := (hr.lines l hl).2.1
      have h₂ := (entryLines_lines hl').1
      exact h₁.trans (h₂.trans (Nat.le_add_right _ _))
    · simp at hl'

/-- **Items and errors.** For errors, the items that are logged may be replaced by all that the dump
has room for. -/
theorem withSq_marked_iff (P : ℕ × ℕ → Prop) {object : SqObject} {es : List (SqObject × ℕ)}
    {regs : List SCrashdumpRegICX1} :
    (∀ l ∈ (d.withSq object es (d.registerDump 0 regs)).filter (fun l => l.name.isItem),
        P l.place → d.Marked l.stop) ↔
      ∀ p ∈ places d.size 0 (sizes regs ++ sqSizes d.size es.length (sizes regs)), P p →
        d.Marked (p.1 + p.2) := by
  have hpos : ∀ n ∈ sqSizes d.size es.length (sizes regs), 0 < n := by
    intro n hn
    unfold sqSizes at hn
    split_ifs at hn
    · rw [List.eq_of_mem_replicate hn]
      decide
    · simp at hn
  rw [filter_withSq (registerDump_lines regs (Nat.zero_le _)), ← registerDump_marked_iff P hpos,
    List.forall_mem_append, Nat.zero_add]
  refine and_congr_right fun _ => ?_
  have hsnd := registerDump_snd (d := d) 0 regs
  rw [Nat.zero_add] at hsnd
  generalize d.registerDump 0 regs = r at hsnd
  by_cases hlt : r.2 < d.size
  · have hr : r.2 = (sizes regs).sum := hsnd.resolve_left (by omega)
    unfold sqSizes
    by_cases hes : es.length * cdJsonSqEntrySize = d.size - r.2
    · have hplaces := entryLines_place d r.2 es (by omega)
      rw [if_pos ⟨hlt, hes⟩, if_pos (by omega), ← hr, ← hplaces]
      simp only [List.forall_mem_map]
      exact ⟨fun h _ => h, fun h => h hlt⟩
    · rw [if_neg fun h => hes h.2, if_neg (by omega)]
      simp [places]
  · rw [if_neg fun h => hlt h.1]
    exact iff_of_true (fun l hl => absurd hl List.not_mem_nil) fun h => absurd h hlt

/-! ## The bytes that are logged -/

/-- The largest register whose value fits in its string. -/
abbrev maxValueBytes : ℕ := 126

variable (d) in
/-- The bytes that a place shows. -/
def placeBytes (p : ℕ × ℕ) : List UInt8 := (d.dataText p.1 p.2).bytes

theorem placeBytes_of_le {p : ℕ × ℕ} (h : p.2 ≤ maxValueBytes) :
    d.placeBytes p = slice d.data p.1 p.2 := by
  have h' : p.2 ≤ 126 := h
  rw [placeBytes, dataText, if_neg (by show ¬ 256 < p.2 * 2 + 3; omega)]
  rfl

theorem placeBytes_of_lt {p : ℕ × ℕ} (h : maxValueBytes < p.2) : d.placeBytes p = [] := by
  have h' : 126 < p.2 := h
  rw [placeBytes, dataText, if_pos (by show 256 < p.2 * 2 + 3; omega)]
  rfl

/-- Places show their bytes in order, if none of them is too large. -/
theorem flatMap_placeBytes {size index : ℕ} {ns : List ℕ}
    (h : ∀ p ∈ places size index ns, p.2 ≤ maxValueBytes) :
    (places size index ns).flatMap d.placeBytes =
      slice d.data index (total (places size index ns)) := by
  induction ns generalizing index with
  | nil => rfl
  | cons n ns ih =>
    rw [places] at h ⊢
    split_ifs at h ⊢ with hlt
    · rfl
    · rw [List.forall_mem_cons] at h
      rw [List.flatMap_cons, placeBytes_of_le h.1, ih h.2, total_cons, slice_add]

theorem length_flatMap_placeBytes (d : CrashDump) (ps : List (ℕ × ℕ)) :
    (ps.flatMap d.placeBytes).length ≤ total ps ∧
      ((ps.flatMap d.placeBytes).length = total ps → ∀ p ∈ ps, p.2 ≤ maxValueBytes) := by
  induction ps with
  | nil => simp [total]
  | cons p ps ih =>
    rw [List.flatMap_cons, List.length_append, total_cons]
    obtain ⟨hle, heq⟩ := ih
    rcases Nat.lt_or_ge maxValueBytes p.2 with hlt | hge
    · rw [placeBytes_of_lt hlt]
      simp only [List.length_nil, Nat.zero_add]
      have h0 : 0 < p.2 := lt_of_le_of_lt (Nat.zero_le _) hlt
      exact ⟨by omega, fun h => by omega⟩
    · rw [placeBytes_of_le hge, length_slice]
      refine ⟨by omega, fun h => List.forall_mem_cons.2 ⟨hge, heq (by omega)⟩⟩

section Unmarked

variable (hM : ∀ stop, ¬ d.Marked stop)

include hM

theorem statusLine_bytes (name : DumpName) (index n : ℕ) :
    (d.statusLine name index n).text.bytes = d.placeBytes (index, n) := by
  rw [statusLine, withStatus_of_not_marked (hM _)]
  rfl

theorem registers_bytes {ls : List DumpLine}
    (hform : ∀ l ∈ ls, ∃ name, l = d.statusLine name l.index l.numBytes) :
    ls.flatMap (fun l => l.text.bytes) = (ls.map DumpLine.place).flatMap d.placeBytes := by
  rw [List.flatMap_map]
  refine List.flatMap_congr fun l hl => ?_
  obtain ⟨name, h⟩ := hform l hl
  rw [h]
  exact statusLine_bytes hM _ _ _

theorem entryLines_bytes (index : ℕ) (es : List (SqObject × ℕ)) :
    (d.entryLines index es).flatMap (fun l => l.text.bytes) =
      slice d.data index (es.length * cdJsonSqEntrySize) := by
  induction es generalizing index with
  | nil => simp [entryLines, slice]
  | cons e es ih =>
    have h8 : d.placeBytes (index, cdJsonSqEntrySize) = slice d.data index cdJsonSqEntrySize :=
      placeBytes_of_le (by decide : 8 ≤ 126)
    rw [entryLines, List.flatMap_cons, statusLine_bytes hM, h8, ih, List.length_cons, Nat.succ_mul,
      Nat.add_comm (es.length * _), slice_add]

end Unmarked

theorem rawLines_bytes (object : SqObject) (index : ℕ) (is : List ℕ) :
    (d.rawLines object index is).flatMap (fun l => l.text.bytes) =
      slice d.data index (min is.length ((d.size - index) / 8) * 8) := by
  induction is generalizing index with
  | nil => simp [rawLines, slice]
  | cons i is ih =>
    rw [rawLines]
    rcases Nat.lt_or_ge d.size (index + cdJsonSqEntrySize) with hlt | hle
    · have h0 : (d.size - index) / 8 = 0 := by
        have : d.size < index + 8 := hlt
        omega
      rw [if_pos hlt, h0, Nat.min_zero]
      rfl
    · have hle' : index + 8 ≤ d.size := hle
      have hlen : min (i :: is).length ((d.size - index) / 8) * 8 =
          8 + min is.length ((d.size - (index + 8)) / 8) * 8 := by
        rw [List.length_cons]
        omega
      rw [if_neg (by omega), List.flatMap_cons, ih, hlen, slice_add]
      exact congrArg (· ++ _) (placeBytes_of_le (p := (index, 8)) (by decide : 8 ≤ 126))

/-- **Bytes of a dump without errors.** The registers that fit, and if they all do, the words of the
rest. -/
theorem withSq_bytes (hM : ∀ stop, ¬ d.Marked stop) {object : SqObject} {es : List (SqObject × ℕ)}
    {regs : List SCrashdumpRegICX1} :
    (d.withSq object es (d.registerDump 0 regs)).flatMap (fun l => l.text.bytes) =
      (places d.size 0 (sizes regs)).flatMap d.placeBytes ++
        if (places d.size 0 (sizes regs)).length = regs.length ∧
            total (places d.size 0 (sizes regs)) < d.size then
          slice d.data (total (places d.size 0 (sizes regs)))
            ((d.size - total (places d.size 0 (sizes regs))) / 8 * 8)
        else [] := by
  obtain ⟨hplaces, hsnd⟩ := registerDump_places hM 0 regs
  have hlines := registerDump_lines regs (Nat.zero_le d.size)
  have hregs : (d.registerDump 0 regs).1.flatMap (fun l => l.text.bytes) =
      (places d.size 0 (sizes regs)).flatMap d.placeBytes := by
    rw [registers_bytes hM fun l hl => ?_, hplaces]
    obtain ⟨-, -, name, h⟩ := hlines.lines l hl
    exact ⟨_, h⟩
  have hlen : (sizes regs).length = regs.length := List.length_map _
  have htotal : (places d.size 0 (sizes regs)).length = regs.length →
      (d.registerDump 0 regs).2 = total (places d.size 0 (sizes regs)) := fun h => by
    rw [hsnd, if_pos h, Nat.zero_add, total_of_length (h.trans hlen.symm)]
  generalize places d.size 0 (sizes regs) = ps at *
  unfold withSq
  by_cases hfit : ps.length = regs.length
  · rw [htotal hfit]
    by_cases hlt : total ps < d.size
    · by_cases hes : es.length * cdJsonSqEntrySize = d.size - total ps
      · have hdiv : (d.size - total ps) / 8 * 8 = d.size - total ps := by
          have : es.length * 8 = d.size - total ps := hes
          omega
        rw [if_neg (Nat.not_le.2 hlt), if_pos hes, if_pos ⟨hfit, hlt⟩, List.flatMap_append, hregs,
          entryLines_bytes hM, hes, hdiv]
      · rw [if_neg (Nat.not_le.2 hlt), if_neg hes, if_pos ⟨hfit, hlt⟩, List.flatMap_append,
          List.flatMap_cons, hregs, rawLines_bytes, List.length_range,
          min_eq_right (Nat.div_le_self _ _)]
        rfl
    · rw [if_pos (Nat.not_lt.1 hlt), if_neg fun h => hlt h.2, hregs, List.append_nil]
  · have hstop : (d.registerDump 0 regs).2 = d.size := by rw [hsnd, if_neg hfit]
    rw [hstop, if_pos le_rfl, if_neg fun h => hfit h.1, hregs, List.append_nil]

/-- The registers for which there is room are small enough for their strings, and they fill the dump, or
are all of them and leave whole words. -/
def Fills (size : ℕ) (regs : List SCrashdumpRegICX1) : Prop :=
  (∀ p ∈ places size 0 (sizes regs), p.2 ≤ maxValueBytes) ∧
    (total (places size 0 (sizes regs)) = size ∨
      (places size 0 (sizes regs)).length = regs.length ∧
        8 ∣ size - total (places size 0 (sizes regs)))

variable {object : SqObject} {es : List (SqObject × ℕ)}

/-- A dump without errors shows all of its bytes in order, if they fit. -/
theorem withSq_eq_slice (hM : ∀ stop, ¬ d.Marked stop) (h : Fills d.size regs) :
    (d.withSq object es (d.registerDump 0 regs)).flatMap (fun l => l.text.bytes) =
      slice d.data 0 d.size := by
  obtain ⟨hsmall, hfill⟩ := h
  have hle := total_le (sizes regs) (Nat.zero_le d.size)
  rw [withSq_bytes hM, flatMap_placeBytes hsmall]
  generalize places d.size 0 (sizes regs) = ps at *
  by_cases hrest : ps.length = regs.length ∧ total ps < d.size
  · have hdvd : 8 ∣ d.size - total ps := by
      rcases hfill with heq | hdvd
      · omega
      · exact hdvd.2
    have hsplit := slice_add d.data 0 (total ps) (d.size - total ps)
    rw [Nat.zero_add, Nat.add_sub_cancel' (le_of_lt hrest.2)] at hsplit
    rw [if_pos hrest, Nat.div_mul_cancel hdvd, hsplit]
  · have heq : total ps = d.size := by
      rcases hfill with heq | hdvd
      · exact heq
      · have := fun hlt => hrest ⟨hdvd.1, hlt⟩
        omega
    rw [if_neg hrest, List.append_nil, heq]

theorem withSq_length_iff (hM : ∀ stop, ¬ d.Marked stop) :
    ((d.withSq object es (d.registerDump 0 regs)).flatMap fun l => l.text.bytes).length = d.size ↔
      Fills d.size regs := by
  refine ⟨fun h => ?_, fun h => by rw [withSq_eq_slice hM h, length_slice]⟩
  have hle := total_le (sizes regs) (Nat.zero_le d.size)
  obtain ⟨hlen, hsmall⟩ := length_flatMap_placeBytes d (places d.size 0 (sizes regs))
  rw [withSq_bytes hM, List.length_append] at h
  unfold Fills
  generalize places d.size 0 (sizes regs) = ps at *
  by_cases hrest : ps.length = regs.length ∧ total ps < d.size
  · rw [if_pos hrest, length_slice] at h
    have hdiv := Nat.div_mul_le_self (d.size - total ps) 8
    exact ⟨hsmall (by omega), .inr ⟨hrest.1, ⟨(d.size - total ps) / 8, by omega⟩⟩⟩
  · rw [if_neg hrest, List.length_nil] at h
    exact ⟨hsmall (by omega), .inl (by omega)⟩

end CrashDump

/-! ## What is promised, and when it is kept -/

namespace BigCoreQuery

variable (q : BigCoreQuery)

/-- The frame `k` is answered well. -/
def Ok (k : ℕ) : Prop := q.getFrame.Ok (q.answer k)

instance (k : ℕ) : Decidable (q.Ok k) := inferInstanceAs (Decidable (PeciCall.Ok _ _))

/-- The dump is read and logged by registers. -/
def Decoded : Prop := q.Started ∧ q.input.isStoreDecoded q.verSize

/-- The number of frames of the dump. -/
def numFrames : ℕ := max 1 (q.crashdumpSize / 8)

/-- The calls of the library, with their answers. -/
def transcript : List (PeciCall × PeciAnswer) := q.bus.transcript q.queryForCrashDataForThread.bus

/-- The frame `j` was read from the CPU. -/
def Read (j : ℕ) : Prop := ∃ c a, q.transcript[j]? = some (c, a) ∧ c.Ok a

/-- Some bytes of the place were not read. -/
def Incomplete (p : ℕ × ℕ) : Prop := ∃ b, p.1 ≤ b ∧ b < p.1 + p.2 ∧ ¬ q.Read (b / 8)

/-- The registers and SQ entries in the log. -/
def items : List DumpLine := q.queryForCrashDataForThread.lines.filter fun l => l.name.isItem

/-- The bytes that the log shows, in order. -/
def loggedBytes : List UInt8 := q.queryForCrashDataForThread.lines.flatMap fun l => l.text.bytes

/-- The log is honest about the reads: an item with a value was read completely, the first one that was
not shows an error, and when the whole dump was read, all of its bytes are in the log. -/
structure Honest : Prop where
  value : ∀ l ∈ q.items, l.text.IsValue → ¬ q.Incomplete l.place
  error : ∀ pre l post, q.items = pre ++ l :: post → (∀ l' ∈ pre, ¬ q.Incomplete l'.place) →
    q.Incomplete l.place → l.text.IsError
  whole : q.Decoded → (∀ j < q.numFrames, q.Read j) →
    q.loggedBytes = (q.transcript.flatMap fun t => slice t.2.data 0 8).take q.crashdumpSize ∧
      q.loggedBytes.length = q.crashdumpSize

/-- The SQ object and entries of a model, if its dumps are logged. -/
def sqFormat : Model → Option (SqObject × List (SqObject × ℕ))
  | .icx | .icx2 | .icxd => some (.sq, CrashDump.icxEntries)
  | .spr => some (.sqd, CrashDump.sprEntries)
  | .sprhbm => none

/-- The registers and SQ entries of the dump, if it can be logged. -/
def itemFormat : Option ((SqObject × List (SqObject × ℕ)) × List SCrashdumpRegICX1) :=
  (sqFormat q.model).bind fun f => (q.input.regList q.verSize.version).map fun regs => (f, regs)

/-- The places of all registers and SQ entries for which the dump has room. -/
def layout : List (ℕ × ℕ) :=
  match q.itemFormat with
  | none => []
  | some (f, regs) => CrashDump.places q.crashdumpSize 0
      (CrashDump.sizes regs ++
        CrashDump.sqSizes q.crashdumpSize f.2.length (CrashDump.sizes regs))

/-- The first frame that is not read. -/
def firstLost : ℕ := (List.range (q.framesRead + 1)).findIdx fun k => ¬ q.Ok k

/-- The items show all bytes of the dump. -/
def Fills : Prop :=
  match q.itemFormat with
  | none => q.crashdumpSize = 0
  | some (_, regs) => CrashDump.Fills q.crashdumpSize regs

/-- The condition on a dump that is logged by registers. An item that ends behind the first lost frame
must end behind the frame that was asked for last, and that one must have failed. A dump that is read
completely must have whole frames, which the items fill. -/
structure Careful : Prop where
  items : ∀ p ∈ q.layout, 8 * q.firstLost < p.1 + p.2 →
    8 * (q.framesRead + 1) < p.1 + p.2 ∧ ¬ q.Ok q.framesRead
  whole : (∀ j < q.numFrames, j ≤ q.framesRead ∧ q.Ok j) →
    (q.crashdumpSize ≤ 8 ∨ 8 ∣ q.crashdumpSize) ∧ q.Fills

/-! ## The reads of a run -/

variable {q}

theorem transcript_has {s : FrameLoop} {k : ℕ} (h : s.Has q k) :
    q.bus.transcript s.bus = (List.range (k + 1)).map fun j => (q.getFrame, q.answer j) := by
  have hnews : q.bus.news s.bus = List.replicate (k + 1) q.getFrame := by
    rw [Device.news, h.log, List.drop_left]
  rw [Device.transcript, hnews]
  exact List.ext_getElem (by simp) fun i _ _ => by simp [answer]

theorem query_of_finished (hst : q.Started) (hleft : ¬ q.frames.2) :
    q.queryForCrashDataForThread = q.finish q.frames.1 := by
  rw [query_of_started hst, if_neg hleft]

theorem transcript_of_started (hst : q.Started) :
    q.transcript = (List.range (q.framesRead + 1)).map fun j => (q.getFrame, q.answer j) := by
  have hbus : q.queryForCrashDataForThread.bus = q.frames.1.bus := by
    rw [query_of_started hst]
    split_ifs <;> rfl
  rw [transcript, hbus, transcript_has (frames_has hst)]

theorem read_iff (hst : q.Started) (j : ℕ) : q.Read j ↔ j ≤ q.framesRead ∧ q.Ok j := by
  unfold Read
  rw [transcript_of_started hst]
  rcases Nat.lt_or_ge j (q.framesRead + 1) with hlt | hge
  · simp [hlt, Nat.lt_succ_iff.1 hlt, Ok]
  · simp [Nat.not_lt.2 hge, Nat.not_le.2 hge]

theorem not_skipsSocket_of_ok {k : ℕ} (h : q.Ok k) : ¬ q.SkipsSocket k := by
  rintro ⟨-, hskip⟩
  have hua : peciCcUA (q.answer k).cc := by
    rcases hskip with hcc | hcc | hcc <;> rw [hcc] <;> decide
  exact h.2 rfl hua

/-- The frames before `firstLost` are read. -/
theorem read_of_lt_firstLost {j : ℕ} (h : j < q.firstLost) : j ≤ q.framesRead ∧ q.Ok j := by
  have hle : q.firstLost ≤ (List.range (q.framesRead + 1)).length := List.findIdx_le_length
  rw [List.length_range] at hle
  refine ⟨by omega, ?_⟩
  have hnot := List.not_of_lt_findIdx h
  simpa using hnot

/-- The frame `firstLost` is not read. -/
theorem not_read_firstLost : ¬ (q.firstLost ≤ q.framesRead ∧ q.Ok q.firstLost) := by
  rintro ⟨hle, hok⟩
  have hlt : q.firstLost < (List.range (q.framesRead + 1)).length := by
    rw [List.length_range]
    omega
  have hnot : ¬ q.Ok (List.range (q.framesRead + 1))[q.firstLost] :=
    of_decide_eq_true (List.findIdx_getElem (w := hlt))
  rw [List.getElem_range] at hnot
  exact hnot hok

/-- The arguments of the functions that log the dump. -/
def dump (q : BigCoreQuery) (s : FrameLoop) : CrashDump :=
  ⟨q.crashdumpSize, s.data, s.numReads * 8 + 8, s.cc, s.ret⟩

theorem dump_marked_iff {s : FrameLoop} {k : ℕ} (h : s.Has q k) (stop : ℕ) :
    (q.dump s).Marked stop ↔ 8 * (k + 1) < stop ∧ ¬ q.Ok k := by
  unfold CrashDump.Marked dump
  dsimp only
  rw [h.numReads, show k * 8 + 8 = 8 * (k + 1) by omega]
  refine and_congr_right fun _ => ?_
  unfold Ok PeciCall.Ok
  rw [h.ret]
  by_cases hs : q.getFrame.status (q.answer k) = .success
  · have hcc : q.getFrame.hasCc := rfl
    rw [h.cc (issued_of_success hs)]
    simp [hs, hcc]
  · simp [hs]

theorem logDump_decoded (s : FrameLoop) (hdec : q.input.isStoreDecoded q.verSize) :
    q.logDump s = match q.itemFormat with
      | none => []
      | some (f, regs) => (q.dump s).withSq f.1 f.2 ((q.dump s).registerDump 0 regs) := by
  have hnone (f : SqObject × List (SqObject × ℕ)) :
      (q.dump s).withSq f.1 f.2 ((q.dump s).registers none) = [] := if_pos le_rfl
  unfold logDump itemFormat
  dsimp only
  rw [if_pos hdec]
  cases q.model with
  | sprhbm => rfl
  | spr =>
    dsimp only [sqFormat, Option.bind_some]
    cases q.input.regList q.verSize.version with
    | none => exact (CrashDump.crashdumpJsonSPR_eq none).trans (hnone (_, _))
    | some regs => exact CrashDump.crashdumpJsonSPR_eq (some regs)
  | icx | icx2 | icxd =>
    dsimp only [sqFormat, Option.bind_some]
    cases q.input.regList q.verSize.version with
    | none => exact (CrashDump.crashdumpJsonICX_eq none).trans (hnone (_, _))
    | some regs => exact CrashDump.crashdumpJsonICX_eq (some regs)

/-- A raw dump has no registers. -/
theorem items_of_not_decoded (h : ¬ q.Decoded) : q.items = [] := by
  unfold items
  by_cases hst : q.Started
  · rw [query_of_started hst]
    split_ifs
    · rfl
    have hdec : ¬ q.input.isStoreDecoded q.verSize := fun hdec => h ⟨hst, hdec⟩
    have hraw (d : CrashDump) (fuel index : ℕ) :
        (d.rawdumpJson fuel index).filter (fun l => l.name.isItem) = [] := by
      induction fuel generalizing index with
      | zero => rfl
      | succ fuel ih =>
        rw [CrashDump.rawdumpJson]
        split_ifs
        · cases d.getJsonDataString index 8 with
          | none => rfl
          | some t => exact ih _
        · rfl
    show (q.logDump q.frames.1).filter (fun l => l.name.isItem) = []
    unfold logDump
    dsimp only
    rw [if_neg hdec]
    exact hraw _ _ _
  · obtain ⟨status, hleave⟩ := query_of_not_started hst
    rw [hleave]
    rfl

theorem items_of_left (hst : q.Started) (hleft : q.frames.2) : q.items = [] := by
  rw [items, query_of_started hst, if_pos hleft]
  rfl

theorem items_of_finished (hst : q.Started) (hleft : ¬ q.frames.2) :
    q.items = (q.logDump q.frames.1).filter fun l => l.name.isItem := by
  rw [items, query_of_finished hst hleft]
  rfl

/-- **Incomplete items.** Whether all incomplete places are marked can be seen from the first frame that
is lost. -/
theorem layout_incomplete_iff (hst : q.Started) :
    (∀ p ∈ q.layout, q.Incomplete p → (q.dump q.frames.1).Marked (p.1 + p.2)) ↔
      ∀ p ∈ q.layout, 8 * q.firstLost < p.1 + p.2 →
        (q.dump q.frames.1).Marked (p.1 + p.2) := by
  constructor
  · intro h p' hp' hlost
    -- the place with the first lost byte is incomplete
    obtain ⟨p, hp, h₁, h₂, hle⟩ : ∃ p ∈ q.layout, p.1 ≤ 8 * q.firstLost ∧
        8 * q.firstLost < p.1 + p.2 ∧ p.1 + p.2 ≤ p'.1 + p'.2 := by
      revert hp'
      unfold layout
      cases q.itemFormat with
      | none => exact fun hp' => absurd hp' List.not_mem_nil
      | some f => exact fun hp' => CrashDump.exists_place hp' (Nat.zero_le _) hlost
    refine (h p hp ⟨8 * q.firstLost, h₁, h₂, ?_⟩).mono hle
    rw [Nat.mul_div_cancel_left _ (by decide), read_iff hst]
    exact not_read_firstLost
  · rintro h p hp ⟨b, -, hb, hnot⟩
    refine h p hp ?_
    rw [read_iff hst] at hnot
    have hge : q.firstLost ≤ b / 8 := Nat.not_lt.1 fun hlt => hnot (read_of_lt_firstLost hlt)
    omega

/-- The first two promises, for a dump that is logged by registers. -/
theorem items_honest_iff (hd : q.Decoded) (hleft : ¬ q.frames.2) :
    ((∀ l ∈ q.items, l.text.IsValue → ¬ q.Incomplete l.place) ∧
      ∀ pre l post, q.items = pre ++ l :: post → (∀ l' ∈ pre, ¬ q.Incomplete l'.place) →
        q.Incomplete l.place → l.text.IsError) ↔
      ∀ p ∈ q.layout, 8 * q.firstLost < p.1 + p.2 →
        8 * (q.framesRead + 1) < p.1 + p.2 ∧ ¬ q.Ok q.framesRead := by
  have hhas := frames_has hd.1
  simp only [← dump_marked_iff hhas]
  rw [← layout_incomplete_iff hd.1, items_of_finished hd.1 hleft, logDump_decoded _ hd.2]
  have hsize : (q.dump q.frames.1).size = q.crashdumpSize := rfl
  unfold layout
  rw [← hsize]
  generalize q.dump q.frames.1 = d
  cases q.itemFormat with
  | none => simp
  | some f =>
    obtain ⟨⟨object, es⟩, regs⟩ := f
    have hlines := CrashDump.registerDump_lines regs (Nat.zero_le d.size)
    rw [CrashDump.items_honest_iff, CrashDump.withSq_marked_iff]
    · intro l hl
      exact CrashDump.withSq_form hlines hl
    · exact CrashDump.withSq_sorted hlines

/-- The frames that were read are the bytes of the dump. -/
theorem flatMap_frames {s : FrameLoop} {k n : ℕ} (h : s.Has q k) (hn : n ≤ k + 1)
    (hok : ∀ j < n, q.Ok j) :
    ((List.range n).flatMap fun j => slice (q.answer j).data 0 8) = slice s.data 0 (8 * n) := by
  induction n with
  | zero => rfl
  | succ n ih =>
    have hframe := h.data n (by omega) (hok n (by omega)).1
    rw [Nat.mul_comm n 8] at hframe
    rw [List.range_succ, List.flatMap_append, ih (by omega) fun j hj => hok j (by omega),
      List.flatMap_singleton, ← hframe, Nat.mul_succ 8 n, slice_add, Nat.zero_add]

/-- The third promise, for a dump that is logged by registers. -/
theorem whole_honest_iff (hd : q.Decoded) (hleft : ¬ q.frames.2) :
    ((∀ j < q.numFrames, q.Read j) →
      q.loggedBytes = (q.transcript.flatMap fun t => slice t.2.data 0 8).take q.crashdumpSize ∧
        q.loggedBytes.length = q.crashdumpSize) ↔
      ((∀ j < q.numFrames, j ≤ q.framesRead ∧ q.Ok j) →
        (q.crashdumpSize ≤ 8 ∨ 8 ∣ q.crashdumpSize) ∧ q.Fills) := by
  simp only [read_iff hd.1]
  refine imp_congr_right fun hall => ?_
  have hhas := frames_has hd.1
  have hle := q.framesRead_le
  have hpos : 0 < q.numFrames := lt_of_lt_of_le Nat.zero_lt_one (le_max_left _ _)
  have hlast := (hall (q.numFrames - 1) (by omega)).1
  have hnum : q.framesRead + 1 = q.numFrames := by
    unfold numFrames at *
    omega
  have hM : ∀ stop, ¬ (q.dump q.frames.1).Marked stop := fun stop h =>
    ((dump_marked_iff hhas stop).1 h).2 (hall q.framesRead (by omega)).2
  have hread : (q.transcript.flatMap fun t => slice t.2.data 0 8) =
      slice q.frames.1.data 0 (8 * q.numFrames) := by
    rw [transcript_of_started hd.1, List.flatMap_map, hnum,
      flatMap_frames hhas (by omega) fun j hj => (hall j hj).2]
  have hwhole : (q.crashdumpSize ≤ 8 ∨ 8 ∣ q.crashdumpSize) ↔
      q.crashdumpSize ≤ 8 * q.numFrames := by
    unfold numFrames
    omega
  have hlogged : q.loggedBytes = (q.logDump q.frames.1).flatMap fun l => l.text.bytes := by
    rw [loggedBytes, query_of_finished hd.1 hleft]
    rfl
  have hfills : q.loggedBytes.length = q.crashdumpSize ↔ q.Fills := by
    rw [hlogged, logDump_decoded _ hd.2]
    unfold Fills
    cases q.itemFormat with
    | none => exact eq_comm
    | some f => exact CrashDump.withSq_length_iff hM
  have hslice : q.Fills → q.loggedBytes = slice q.frames.1.data 0 q.crashdumpSize := by
    rw [hlogged, logDump_decoded _ hd.2]
    unfold Fills
    cases q.itemFormat with
    | none =>
      intro h
      rw [h]
      rfl
    | some f => exact CrashDump.withSq_eq_slice hM
  rw [hread, take_slice, hwhole, hfills]
  refine and_congr_left fun hf => ?_
  rw [hslice hf]
  constructor
  · intro h
    have hlen := congrArg List.length h
    rw [length_slice, length_slice] at hlen
    omega
  · intro h
    rw [min_eq_left h]

end BigCoreQuery

/-- **Honest logs.** The log of a thread is honest exactly if a dump that is logged by registers, and not
given up for the socket, meets `Careful`. -/
theorem honest_iff_careful (q : BigCoreQuery) :
    q.Honest ↔
      (q.Decoded → ¬ (0 < q.framesRead ∧ q.SkipsSocket q.framesRead) → q.Careful) := by
  by_cases hd : q.Decoded
  · by_cases hleft : q.frames.2 = true
    · -- nothing is logged, and the last frame was not read
      have hskip := (BigCoreQuery.frames_left_iff hd.1).1 hleft
      have hitems := BigCoreQuery.items_of_left hd.1 hleft
      refine iff_of_true ⟨?_, ?_, fun _ hall => ?_⟩ fun _ h => absurd hskip h
      · simp [hitems]
      · simp [hitems]
      · have hle := q.framesRead_le
        have hlt : q.framesRead < q.numFrames := by
          unfold BigCoreQuery.numFrames
          omega
        have hok := ((BigCoreQuery.read_iff hd.1 _).1 (hall _ hlt)).2
        exact absurd hskip.2 (BigCoreQuery.not_skipsSocket_of_ok hok)
    · rw [← BigCoreQuery.frames_left_iff hd.1]
      refine ⟨fun h _ _ => ⟨?_, ?_⟩, fun h => ?_⟩
      · exact (BigCoreQuery.items_honest_iff hd hleft).1 ⟨h.value, h.error⟩
      · exact (BigCoreQuery.whole_honest_iff hd hleft).1 (h.whole hd)
      · obtain ⟨hitems, hwhole⟩ := h hd hleft
        obtain ⟨hvalue, herror⟩ := (BigCoreQuery.items_honest_iff hd hleft).2 hitems
        exact ⟨hvalue, herror, fun _ => (BigCoreQuery.whole_honest_iff hd hleft).2 hwhole⟩
  · have hitems := BigCoreQuery.items_of_not_decoded hd
    refine iff_of_true ⟨?_, ?_, fun h => absurd h hd⟩ fun h => absurd h hd
    · simp [hitems]
    · simp [hitems]

/-- Two registers of one frame each, and a second frame that fails. -/
def shortDump : BigCoreQuery where
  clientAddr := 0x30
  model := .spr
  input := ⟨true, some [⟨some ["0x1"], some [⟨"A", 8⟩, ⟨"B", 8⟩], 0⟩]⟩
  crashedCoreMask := 0
  coreNum := 0
  threads := 1
  waitForCoreCrashdump := false
  execStatus := .allRegisters
  granted := true
  heap _ := 0
  bus := ⟨fun k => ⟨true, k = 0, peciDevCcSuccess, block 0 [1, 0, 0, 0, 16, 0, 0, 0]⟩, []⟩
  clock := ⟨fun _ => false, []⟩

/-- The second register has a value, although its frame was not read. -/
theorem not_honest_short : ¬ ∀ q : BigCoreQuery, q.Honest := by
  intro h
  have hstarted : shortDump.Started := by decide +kernel
  have hlost : ¬ shortDump.Read (8 / 8) := by
    rw [BigCoreQuery.read_iff hstarted]
    decide +kernel
  refine (h shortDump).value ⟨.register "B", 8, 8, .value (List.replicate 8 0)⟩ (by decide +kernel)
    trivial ⟨8, ?_, ?_, hlost⟩
  · exact le_rfl
  · show 8 < 8 + 8
    omega

end BmcAcd
