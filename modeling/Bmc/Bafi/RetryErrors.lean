import Bmc.Bafi.RetryDecoded

/-!
# Memory errors are decoded

* `RetryPlatform`, `RetrySection`: the three loops, and the sections that they are made for;
* `WhitleyRight`, `EaglestreamRight`, `PurleyRight`: when the logs of a channel are decoded;
* **`decoded_iff`**: when all logs are.
-/

namespace BmcBafi

open BmcLib

/-! ## Sections -/

/-- The three loops over the logs. -/
inductive RetryPlatform where
  | whitley
  | eaglestream
  | purley

/-- The logs of a channel. The code has no name for the second address register of the first one, which ends
with `own`. -/
def whitleyFirst (own : List Char) (m : MemoryChannel) : LogRegister :=
  m.register "C60" "C58" (m.base ++ own)

def whitleySecond (m : MemoryChannel) : LogRegister := m.register "E54" "E58" (m.reg "E5C")

def eaglestreamFirst (own : List Char) (m : MemoryChannel) : LogRegister :=
  m.register "c60" "c58" (m.base ++ own)

def eaglestreamSecond (m : MemoryChannel) : LogRegister := m.register "e54" "e58" (m.reg "e5c")

def bdfRegister (m : MemoryChannel) : LogRegister := m.register "154" "15C" (m.reg "114")

namespace RetryPlatform

def layout : RetryPlatform → RetryLayout
  | whitley => whitleyLayout
  | eaglestream => eaglestreamLayout
  | purley => purleyLayout

/-- The logs that a section can have. -/
def registers (own : List Char) (x : UncoreSection) : RetryPlatform → List LogRegister
  | whitley => whitleyChannels.flatMap fun m => [whitleyFirst own m, whitleySecond m]
  | eaglestream => eaglestreamChannels.flatMap fun m => [eaglestreamFirst own m, eaglestreamSecond m]
  | purley => purleyChannels.map bdfRegister ++ x.items.filterMap imcRegister

/-- The report of a section. -/
def decodeRetryLog (x : UncoreSection) (slots : List SilkscreenSlot) (socket : ℕ) :
    RetryPlatform → Bool × List Char → Option MemoryError
  | whitley => (decodeRetryLogWhitley x slots socket).memoryErrors
  | eaglestream => (decodeRetryLogEaglestream x slots socket).memoryErrors
  | purley => (decodeRetryLogPurley x slots socket).memoryErrors

/-- The registers are there, as numbers; for Purley those of each log that is there. -/
def Complete (own : List Char) (x : UncoreSection) : RetryPlatform → Prop
  | whitley => ∀ m ∈ whitleyChannels, (x.number (m.base ++ own)).isSome = true ∧
      ∀ s ∈ ["C60", "E54", "C58", "E58", "E5C"], (x.number (m.reg s)).isSome = true
  | eaglestream => ∀ m ∈ eaglestreamChannels, (x.number (m.base ++ own)).isSome = true ∧
      ∀ s ∈ ["c60", "e54", "c58", "e58", "e5c", "d58", "c70"], (x.number (m.reg s)).isSome = true
  | purley => ∀ r ∈ registers own x purley, r.Readable x

end RetryPlatform

/-- A section that a loop is made for. -/
structure RetrySection (p : RetryPlatform) (own : List Char) extends UncoreSection where
  complete : p.Complete own toUncoreSection

/-! ## Conditions -/

namespace LogRegister

variable (x : UncoreSection) (r : LogRegister)

/-- The slot in the address of a log. -/
def slot : ℕ := bits (x.value r.address1) 8 1

def row (L : RetryLayout) : ℕ := L.row.of (x.value r.address2)

end LogRegister

/-- What is asked of the two logs of a channel, for Whitley. -/
structure WhitleyRight (x : UncoreSection) (r r' : LogRegister) : Prop where
  mode : ∀ b ∈ [r, r'], b.Valid x → b.mode x < 12
  uncorrectable : r.Valid x → r.uncorrectable x = r'.uncorrectable x
  row : r.Valid x → r'.row x whitleyLayout % 2 ^ 16 = r.row x whitleyLayout
  row' : r'.Valid x → r'.row x whitleyLayout < 2 ^ 16
  slot : r.Valid x → r'.Valid x → r.slot x ≠ r'.slot x

/-- What is asked of the two logs of a channel, for Eagle Stream. -/
structure EaglestreamRight (x : UncoreSection) (r r' : LogRegister) : Prop where
  mode : ∀ b ∈ [r, r'], b.Valid x → b.mode x < 12
  address : ∀ b ∈ [r, r'], b.Valid x →
    SameAddress eaglestreamLayout (x.value (eaglestreamAddress x b.log)) (x.value b.address1)
  row : r.Valid x → r'.row x eaglestreamLayout % 2 ^ 16 = r.row x eaglestreamLayout
  row' : r'.Valid x → r'.row x eaglestreamLayout < 2 ^ 16
  uncorrectable : r.Valid x → r'.Valid x → r.uncorrectable x ≠ r'.uncorrectable x

/-- What is asked of a log, for Purley. -/
structure PurleyRight (x : UncoreSection) (r : LogRegister) : Prop where
  mode : r.mode x < 12
  column : bits (x.value r.address1) 19 9 < 2 ^ 8
  row : r.row x purleyLayout < 2 ^ 16

namespace RetryPlatform

/-- What is asked of a section. -/
def Right (own : List Char) (x : UncoreSection) : RetryPlatform → Prop
  | whitley => ∀ m ∈ whitleyChannels, WhitleyRight x (whitleyFirst own m) (whitleySecond m)
  | eaglestream => ∀ m ∈ eaglestreamChannels,
      EaglestreamRight x (eaglestreamFirst own m) (eaglestreamSecond m)
  | purley => (∀ r ∈ registers own x purley, r.Valid x → PurleyRight x r) ∧
      ∀ m ∈ purleyChannels, ∀ r ∈ x.items.filterMap imcRegister, (bdfRegister m).Valid x → r.Valid x →
        m.location = r.location → (bdfRegister m).uncorrectable x = r.uncorrectable x →
          (bdfRegister m).slot x ≠ r.slot x

end RetryPlatform

/-! ## Keys -/

theorem errorKey_inj {c c' : ImcChannel} {d d' : ℕ} :
    errorKey c d = errorKey c' d' ↔ c = c' ∧ d = d' := by
  constructor
  · intro h
    have htext : c.text = c'.text := List.append_inj_left h rfl
    have hnumber := List.append_cancel_left (List.append_inj_right h rfl)
    have hhead := List.append_cancel_left (List.append_inj_left htext rfl)
    obtain ⟨himc, -⟩ := List.cons_eq_cons.1 hhead
    obtain ⟨hchannel, -⟩ := List.cons_eq_cons.1 (List.append_inj_right htext rfl)
    obtain ⟨_, _⟩ := c
    obtain ⟨_, _⟩ := c'
    exact ⟨congrArg₂ ImcChannel.mk himc hchannel, toDigits_ten_injective hnumber⟩
  · rintro ⟨rfl, rfl⟩
    rfl

namespace LogRegister

variable {x : UncoreSection} {r r' : LogRegister}

theorem entry_eq_iff : r.entry x = r'.entry x ↔
    r.uncorrectable x = r'.uncorrectable x ∧ r.location = r'.location ∧ r.slot x = r'.slot x := by
  rw [entry, entry, Prod.mk.injEq, errorKey_inj]
  rfl

theorem place_eq_entry_iff {u : Bool} {c : ImcChannel} {a : ℕ} :
    some (u, errorKey c (dimm a)) = some (r.entry x) ↔
      u = r.uncorrectable x ∧ c = r.location ∧ bits a 8 1 = r.slot x := by
  rw [Option.some_inj, entry, Prod.mk.injEq, errorKey_inj, dimm_eq]
  rfl

end LogRegister

/-! ## Whitley -/

theorem foldl_channels {σ : Type*} (f : σ → List Char → σ) (cs : List (List Char × Char))
    (os : List (List Char)) (st : σ) :
    cs.foldl (fun st c => os.foldl (fun st o => f st (c.1 ++ o)) st) st =
      (cs.flatMap fun c => os.map (c.1 ++ ·)).foldl f st := by
  induction cs generalizing st with
  | nil => rfl
  | cons c cs ih => rw [List.foldl_cons, ih, List.flatMap_cons, List.foldl_append, List.foldl_map]

theorem foldl_logs {σ : Type*} (f : σ → List Char → σ) (registers : List LogRegister) (st : σ) :
    (registers.map LogRegister.log).foldl f st = registers.foldl (fun st r => f st r.log) st :=
  List.foldl_map

theorem mem_pairs {cs : List MemoryChannel} {f g : MemoryChannel → LogRegister} {r : LogRegister} :
    r ∈ cs.flatMap (fun m => [f m, g m]) ↔ ∃ m ∈ cs, r = f m ∨ r = g m := by
  rw [List.mem_flatMap]
  refine exists_congr fun m => and_congr_right fun _ => ?_
  rw [List.mem_cons, List.mem_singleton]

theorem same_column {L : RetryLayout} (h : L.column.width - 3 ≤ 8) (a : ℕ) :
    bits a (L.column.offset + 3) (L.column.width - 3) % 2 ^ 8 =
      bits a (L.column.offset + 3) (L.column.width - 3) :=
  Nat.mod_eq_of_lt ((bits_lt _ _ _).trans_le (Nat.pow_le_pow_right (by decide) h))

section Whitley

variable {own : List Char} {x : UncoreSection} {slots : List SilkscreenSlot} {socket : ℕ}

theorem whitleyChannels_location : ∀ m ∈ whitleyChannels, ∀ m' ∈ whitleyChannels,
    m.location = m'.location → m = m' := by
  have hnodup : (whitleyChannels.map MemoryChannel.location).Nodup := by decide
  exact fun _ hm _ hm' => List.inj_on_of_nodup_map hnodup hm hm'

theorem written_whitley (h : RetryPlatform.whitley.Complete own x) :
    Written (whitleyPlace x) (WhitleyFits x) (RetryPlatform.whitley.registers own x) (fun _ => none)
      (RetryPlatform.whitley.decodeRetryLog x slots socket) := by
  have hfold : decodeRetryLogWhitley x slots socket = (RetryPlatform.whitley.registers own x).foldl
      (fun st r => st.whitley x slots socket r.log) {} := by
    rw [decodeRetryLogWhitley, foldl_channels (RetryScan.whitley x slots socket), logs_whitley,
      ← foldl_logs (RetryScan.whitley x slots socket), RetryPlatform.registers, List.map_flatMap]
    rfl
  rw [RetryPlatform.decodeRetryLog, hfold]
  refine Written.foldl RetryScan.memoryErrors (fun r hr => ?_) {}
  obtain ⟨m, hm, rfl | rfl⟩ := mem_pairs.1 hr
  · exact whitley_writes hm (.inl ⟨rfl, rfl⟩) rfl (h m hm).2
  · exact whitley_writes hm (.inr ⟨rfl, rfl⟩) rfl (h m hm).2

/-- A place is that of a log of the same channel. -/
theorem whitleyPlace_eq_iff {r r' : LogRegister} : whitleyPlace x r' = some (r.entry x) ↔
    (r'.Valid x ∧ r'.mode x < 12) ∧
      decide (logUc.of (x.value (replace r'.log 15 3 "E54".toList)) ≠ 0) = r.uncorrectable x ∧
        r'.location = r.location ∧ r'.slot x = r.slot x := by
  unfold whitleyPlace
  split_ifs with h
  · rw [LogRegister.place_eq_entry_iff, and_iff_right h]
    rfl
  · exact iff_of_false id fun h' => h h'.1

variable (own x) in
/-- The class is that of the second log. -/
theorem whitley_class {m : MemoryChannel} (hm : m ∈ whitleyChannels) {r : LogRegister}
    (hr : r = whitleyFirst own m ∨ r = whitleySecond m) :
    decide (logUc.of (x.value (replace r.log 15 3 "E54".toList)) ≠ 0) =
      (whitleySecond m).uncorrectable x ∧ replace r.log 15 3 "E5C".toList = m.reg "E5C" := by
  obtain ⟨hlength, -⟩ := whitleyChannels_spec m hm
  have hreplace : ∀ t : String, replace r.log 15 3 t.toList = m.reg t := by
    rcases hr with rfl | rfl
    · exact fun t => replace_append hlength rfl
    · exact fun t => replace_append hlength rfl
  exact ⟨by rw [hreplace]; rfl, hreplace "E5C"⟩

theorem whitley_ne (m : MemoryChannel) : whitleyFirst own m ≠ whitleySecond m := by
  intro h
  have hlog : m.reg "C60" = m.reg "E54" := congrArg LogRegister.log h
  exact absurd (List.append_cancel_left hlog) (by decide)

theorem decoded_whitley (h : RetryPlatform.whitley.Complete own x) :
    Decoded whitleyLayout x (RetryPlatform.whitley.registers own x)
        (RetryPlatform.whitley.decodeRetryLog x slots socket) ↔
      RetryPlatform.whitley.Right own x := by
  rw [decoded_iff_of_written (fun r => whitleyLayout.row.of
    (x.value (replace r.log 15 3 "E5C".toList)) % 2 ^ 16 = r.row x whitleyLayout) (written_whitley h)]
  · constructor
    · rintro ⟨hall, hdistinct⟩ m hm
      have hfirst : whitleyFirst own m ∈ RetryPlatform.whitley.registers own x :=
        mem_pairs.2 ⟨m, hm, .inl rfl⟩
      have hsecond : whitleySecond m ∈ RetryPlatform.whitley.registers own x :=
        mem_pairs.2 ⟨m, hm, .inr rfl⟩
      have hclass := whitley_class own x hm (.inl (rfl : whitleyFirst own m = _))
      have hclass' := whitley_class own x hm (.inr rfl)
      have huncorrectable : (whitleyFirst own m).Valid x →
          (whitleyFirst own m).uncorrectable x = (whitleySecond m).uncorrectable x := fun hv =>
        (whitleyPlace_eq_iff.1 (hall _ hfirst hv).1).2.1.symm.trans hclass.1
      refine ⟨fun b hb hv => ?_, huncorrectable, fun hv => ?_, fun hv => ?_, fun hv hv' hslot => ?_⟩
      · have hmem : b ∈ RetryPlatform.whitley.registers own x := by
          rcases List.mem_cons.1 hb with rfl | hb
          · exact hfirst
          · exact List.mem_singleton.1 hb ▸ hsecond
        exact (whitleyPlace_eq_iff.1 (hall b hmem hv).1).1.2
      · have hrow := (hall _ hfirst hv).2
        rwa [hclass.2] at hrow
      · have hrow := (hall _ hsecond hv).2
        rw [hclass'.2] at hrow
        exact hrow ▸ Nat.mod_lt _ (by decide)
      · exact whitley_ne m (hdistinct _ hfirst _ hsecond hv hv'
          (LogRegister.entry_eq_iff.2 ⟨huncorrectable hv, rfl, hslot⟩))
    · intro hright
      refine ⟨fun r hr hv => ?_, fun r hr r' hr' hv hv' heq => ?_⟩
      · obtain ⟨m, hm, hrm⟩ := mem_pairs.1 hr
        obtain ⟨hclass, hrow⟩ := whitley_class own x hm hrm
        have hmode := (hright m hm).mode r (by rcases hrm with rfl | rfl <;> simp) hv
        rw [whitleyPlace_eq_iff, hclass, hrow]
        rcases hrm with rfl | rfl
        · exact ⟨⟨⟨hv, hmode⟩, ((hright m hm).uncorrectable hv).symm, rfl, rfl⟩, (hright m hm).row hv⟩
        · exact ⟨⟨⟨hv, hmode⟩, rfl, rfl, rfl⟩, Nat.mod_eq_of_lt ((hright m hm).row' hv)⟩
      · obtain ⟨-, hlocation, hslot⟩ := LogRegister.entry_eq_iff.1 heq
        obtain ⟨m, hm, hrm⟩ := mem_pairs.1 hr
        obtain ⟨m', hm', hrm'⟩ := mem_pairs.1 hr'
        obtain rfl := whitleyChannels_location m hm m' hm' (by
          rcases hrm with rfl | rfl <;> rcases hrm' with rfl | rfl <;> exact hlocation)
        rcases hrm with rfl | rfl <;> rcases hrm' with rfl | rfl
        · rfl
        · exact absurd hslot ((hright m hm).slot hv hv')
        · exact absurd hslot.symm ((hright m hm).slot hv' hv)
        · rfl
  · intro r hr hplace
    unfold whitleyPlace at hplace
    split_ifs at hplace with hv
    · exact hv.1
    · exact absurd rfl hplace
  · intro r hr r' hr' hplace hne
    obtain ⟨hvalid, hclass, hlocation, hslot⟩ := whitleyPlace_eq_iff.1 hplace
    obtain ⟨m, hm, hrm⟩ := mem_pairs.1 hr
    obtain ⟨m', hm', hrm'⟩ := mem_pairs.1 hr'
    obtain rfl := whitleyChannels_location m' hm' m hm (by
      rcases hrm with rfl | rfl <;> rcases hrm' with rfl | rfl <;> exact hlocation)
    by_cases hsame : r'.uncorrectable x = r.uncorrectable x
    · exact .inl (LogRegister.entry_eq_iff.2 ⟨hsame, hlocation, hslot⟩)
    · -- nothing is written under the class of `r'`
      refine .inr fun b hb hbplace => hsame ?_
      obtain ⟨-, hclass', hlocation', -⟩ := whitleyPlace_eq_iff.1 hbplace
      obtain ⟨m'', hm'', hbm⟩ := mem_pairs.1 hb
      obtain rfl := whitleyChannels_location m'' hm'' m' hm' (by
        rcases hbm with rfl | rfl <;> rcases hrm' with rfl | rfl <;> exact hlocation')
      rw [← hclass', (whitley_class own x hm'' hbm).1, ← hclass, (whitley_class own x hm'' hrm').1]
  · intro r hr hplace e he
    rw [describes_iff wide_whitleyLayout he rfl]
    exact and_iff_right ⟨rfl, rfl, rfl, rfl, same_column (by decide) _⟩

end Whitley

/-! ## Eagle Stream -/

section Eaglestream

variable {own : List Char} {x : UncoreSection} {slots : List SilkscreenSlot} {socket : ℕ}

theorem eaglestreamChannels_location : ∀ m ∈ eaglestreamChannels, ∀ m' ∈ eaglestreamChannels,
    m.location = m'.location → m = m' := by
  have hnodup : (eaglestreamChannels.map MemoryChannel.location).Nodup := by decide
  exact fun _ hm _ hm' => List.inj_on_of_nodup_map hnodup hm hm'

theorem written_eaglestream (h : RetryPlatform.eaglestream.Complete own x) :
    Written (eaglestreamPlace x) (EaglestreamFits x) (RetryPlatform.eaglestream.registers own x)
      (fun _ => none) (RetryPlatform.eaglestream.decodeRetryLog x slots socket) := by
  have hfold : decodeRetryLogEaglestream x slots socket = (RetryPlatform.eaglestream.registers own x).foldl
      (fun st r => st.eaglestream x slots socket r.log) {} := by
    rw [decodeRetryLogEaglestream, foldl_channels (RetryScan.eaglestream x slots socket),
      logs_eaglestream, ← foldl_logs (RetryScan.eaglestream x slots socket), RetryPlatform.registers,
      List.map_flatMap]
    rfl
  rw [RetryPlatform.decodeRetryLog, hfold]
  refine Written.foldl RetryScan.memoryErrors (fun r hr => ?_) {}
  obtain ⟨m, hm, rfl | rfl⟩ := mem_pairs.1 hr
  · exact eaglestream_writes hm (.inl rfl) rfl (h m hm).2
  · exact eaglestream_writes hm (.inr rfl) rfl (h m hm).2

theorem eaglestreamPlace_eq_iff {r r' : LogRegister} : eaglestreamPlace x r' = some (r.entry x) ↔
    (r'.Valid x ∧ r'.mode x < 12) ∧ r'.uncorrectable x = r.uncorrectable x ∧
      r'.location = r.location ∧ bits (x.value (eaglestreamAddress x r'.log)) 8 1 = r.slot x := by
  unfold eaglestreamPlace
  split_ifs with h
  · rw [LogRegister.place_eq_entry_iff, and_iff_right h]
  · exact iff_of_false id fun h' => h h'.1

variable (own x) in
/-- Both logs of a channel have the same address. -/
theorem eaglestream_address {m : MemoryChannel} (hm : m ∈ eaglestreamChannels) {r : LogRegister}
    (hr : r = eaglestreamFirst own m ∨ r = eaglestreamSecond m) :
    eaglestreamAddress x r.log = eaglestreamAddress x (m.reg "c60") ∧
      replace r.log 15 3 "e5c".toList = m.reg "e5c" := by
  obtain ⟨hlength, -⟩ := eaglestreamChannels_spec m hm
  have hreplace : ∀ s t : String, s.toList.length = 3 → replace (m.reg s) 15 3 t.toList = m.reg t :=
    fun s t hs => replace_append hlength hs
  rcases hr with rfl | rfl
  · exact ⟨rfl, hreplace "c60" "e5c" rfl⟩
  · refine ⟨?_, hreplace "e54" "e5c" rfl⟩
    show eaglestreamAddress x (m.reg "e54") = _
    unfold eaglestreamAddress
    simp only [hreplace "e54" _ rfl, hreplace "c60" _ rfl]

theorem eaglestream_ne (m : MemoryChannel) : eaglestreamFirst own m ≠ eaglestreamSecond m := by
  intro h
  have hlog : m.reg "c60" = m.reg "e54" := congrArg LogRegister.log h
  exact absurd (List.append_cancel_left hlog) (by decide)

theorem decoded_eaglestream (h : RetryPlatform.eaglestream.Complete own x) :
    Decoded eaglestreamLayout x (RetryPlatform.eaglestream.registers own x)
        (RetryPlatform.eaglestream.decodeRetryLog x slots socket) ↔
      RetryPlatform.eaglestream.Right own x := by
  rw [decoded_iff_of_written (fun r => SameAddress eaglestreamLayout
      (x.value (eaglestreamAddress x r.log)) (x.value r.address1) ∧
    eaglestreamLayout.row.of (x.value (replace r.log 15 3 "e5c".toList)) % 2 ^ 16 =
      r.row x eaglestreamLayout) (written_eaglestream h)]
  · constructor
    · rintro ⟨hall, hdistinct⟩ m hm
      have hfirst : eaglestreamFirst own m ∈ RetryPlatform.eaglestream.registers own x :=
        mem_pairs.2 ⟨m, hm, .inl rfl⟩
      have hsecond : eaglestreamSecond m ∈ RetryPlatform.eaglestream.registers own x :=
        mem_pairs.2 ⟨m, hm, .inr rfl⟩
      have haddress := eaglestream_address own x hm (.inl (rfl : eaglestreamFirst own m = _))
      have haddress' := eaglestream_address own x hm (.inr rfl)
      have hmem : ∀ b ∈ [eaglestreamFirst own m, eaglestreamSecond m],
          b ∈ RetryPlatform.eaglestream.registers own x := by
        intro b hb
        rcases List.mem_cons.1 hb with rfl | hb
        · exact hfirst
        · exact List.mem_singleton.1 hb ▸ hsecond
      refine ⟨fun b hb hv => ?_, fun b hb hv => ?_, fun hv => ?_, fun hv => ?_, fun hv hv' heq => ?_⟩
      · exact (eaglestreamPlace_eq_iff.1 (hall b (hmem b hb) hv).1).1.2
      · exact (hall b (hmem b hb) hv).2.1
      · have hrow := (hall _ hfirst hv).2.2
        rwa [haddress.2] at hrow
      · have hrow := (hall _ hsecond hv).2.2
        rw [haddress'.2] at hrow
        exact hrow ▸ Nat.mod_lt _ (by decide)
      · have hslot := (eaglestreamPlace_eq_iff.1 (hall _ hfirst hv).1).2.2.2
        have hslot' := (eaglestreamPlace_eq_iff.1 (hall _ hsecond hv').1).2.2.2
        rw [haddress.1] at hslot
        rw [haddress'.1] at hslot'
        exact eaglestream_ne m (hdistinct _ hfirst _ hsecond hv hv'
          (LogRegister.entry_eq_iff.2 ⟨heq, rfl, hslot.symm.trans hslot'⟩))
    · intro hright
      refine ⟨fun r hr hv => ?_, fun r hr r' hr' hv hv' heq => ?_⟩
      · obtain ⟨m, hm, hrm⟩ := mem_pairs.1 hr
        obtain ⟨-, hrow⟩ := eaglestream_address own x hm hrm
        have hmem : r ∈ [eaglestreamFirst own m, eaglestreamSecond m] := by
          rcases hrm with rfl | rfl <;> simp
        have hmode := (hright m hm).mode r hmem hv
        have hsame := (hright m hm).address r hmem hv
        rw [eaglestreamPlace_eq_iff, hrow]
        refine ⟨⟨⟨hv, hmode⟩, rfl, rfl, hsame.slot⟩, hsame, ?_⟩
        rcases hrm with rfl | rfl
        · exact (hright m hm).row hv
        · exact Nat.mod_eq_of_lt ((hright m hm).row' hv)
      · obtain ⟨huncorrectable, hlocation, -⟩ := LogRegister.entry_eq_iff.1 heq
        obtain ⟨m, hm, hrm⟩ := mem_pairs.1 hr
        obtain ⟨m', hm', hrm'⟩ := mem_pairs.1 hr'
        obtain rfl := eaglestreamChannels_location m hm m' hm' (by
          rcases hrm with rfl | rfl <;> rcases hrm' with rfl | rfl <;> exact hlocation)
        rcases hrm with rfl | rfl <;> rcases hrm' with rfl | rfl
        · rfl
        · exact absurd huncorrectable ((hright m hm).uncorrectable hv hv')
        · exact absurd huncorrectable.symm ((hright m hm).uncorrectable hv' hv)
        · rfl
  · intro r hr hplace
    unfold eaglestreamPlace at hplace
    split_ifs at hplace with hv
    · exact hv.1
    · exact absurd rfl hplace
  · intro r hr r' hr' hplace hne
    obtain ⟨hvalid, huncorrectable, hlocation, hslot⟩ := eaglestreamPlace_eq_iff.1 hplace
    obtain ⟨m, hm, hrm⟩ := mem_pairs.1 hr
    obtain ⟨m', hm', hrm'⟩ := mem_pairs.1 hr'
    obtain rfl := eaglestreamChannels_location m' hm' m hm (by
      rcases hrm with rfl | rfl <;> rcases hrm' with rfl | rfl <;> exact hlocation)
    by_cases hsame : r'.slot x = r.slot x
    · exact .inl (LogRegister.entry_eq_iff.2 ⟨huncorrectable, hlocation, hsame⟩)
    · -- nothing is written under the slot of `r'`
      refine .inr fun b hb hbplace => hsame ?_
      obtain ⟨-, -, hlocation', hslot'⟩ := eaglestreamPlace_eq_iff.1 hbplace
      obtain ⟨m'', hm'', hbm⟩ := mem_pairs.1 hb
      obtain rfl := eaglestreamChannels_location m'' hm'' m' hm' (by
        rcases hbm with rfl | rfl <;> rcases hrm' with rfl | rfl <;> exact hlocation')
      rw [← hslot', ← hslot, (eaglestream_address own x hm'' hbm).1,
        (eaglestream_address own x hm'' hrm').1]
  · intro r hr hplace e he
    exact describes_iff wide_eaglestreamLayout he (eaglestreamPlace_eq_iff.1 hplace).2.2.2

end Eaglestream

/-! ## Purley -/

section Purley

variable {own : List Char} {x : UncoreSection} {slots : List SilkscreenSlot} {socket : ℕ}

theorem purleyChannels_location : ∀ m ∈ purleyChannels, ∀ m' ∈ purleyChannels,
    m.location = m'.location → m = m' := by
  have hnodup : (purleyChannels.map MemoryChannel.location).Nodup := by decide
  exact fun _ hm _ hm' => List.inj_on_of_nodup_map hnodup hm hm'

theorem retryRdErrLogRegex_eq_some {entry : List Char} {c : ImcChannel}
    (h : retryRdErrLogRegex entry = some c) : entry =
      'i' :: 'm' :: 'c' :: c.imc :: '_' :: 'c' :: c.channel :: "_retry_rd_err_log".toList := by
  unfold retryRdErrLogRegex at h
  split at h
  · split_ifs at h with hrest
    rw [← Option.some_inj.1 h, hrest.1]
  · exact absurd h (Option.some_ne_none c).symm

/-- The log of a channel is found by its name. -/
theorem imcRegister_unique {item item' : List Char × List Char} (hmem : item ∈ x.items)
    (hmem' : item' ∈ x.items) {r r' : LogRegister} (h : imcRegister item = some r)
    (h' : imcRegister item' = some r') (hlocation : r.location = r'.location) : item = item' := by
  obtain ⟨c, hc, rfl⟩ := Option.map_eq_some_iff.1 h
  obtain ⟨c', hc', rfl⟩ := Option.map_eq_some_iff.1 h'
  obtain rfl : c = c' := hlocation
  exact List.inj_on_of_nodup_map x.nodup hmem hmem'
    ((retryRdErrLogRegex_eq_some hc).trans (retryRdErrLogRegex_eq_some hc').symm)

/-- The two ways to name a log do not meet. -/
theorem bdfRegister_ne {m : MemoryChannel} (hm : m ∈ purleyChannels) {r : LogRegister}
    (hr : r ∈ x.items.filterMap imcRegister) : bdfRegister m ≠ r := by
  have hhead : ∀ m ∈ purleyChannels, (m.reg "154").head? = some 'B' := by decide +kernel
  obtain ⟨item, -, hitem⟩ := List.mem_filterMap.1 hr
  obtain ⟨c, hc, rfl⟩ := Option.map_eq_some_iff.1 hitem
  intro h
  have hlog : m.reg "154" = item.1 := congrArg LogRegister.log h
  have hB := hhead m hm
  rw [hlog, retryRdErrLogRegex_eq_some hc] at hB
  exact absurd (Option.some_inj.1 hB) (by decide)

theorem written_purley (h : RetryPlatform.purley.Complete own x) :
    Written (purleyPlace x) (PurleyFits x) (RetryPlatform.purley.registers own x) (fun _ => none)
      (RetryPlatform.purley.decodeRetryLog x slots socket) := by
  have hbdf : decodeBdfRegisters x slots socket {} = (purleyChannels.map bdfRegister).foldl
      (fun st r => st.bdf x slots socket r.log) {} := by
    rw [← foldl_logs (RetryScan.bdf x slots socket), List.map_map]
    show _ = (purleyChannels.map fun m => m.reg "154").foldl (RetryScan.bdf x slots socket) {}
    rw [← logs_purley, List.foldl_map]
    rfl
  have hfirst : Written (purleyPlace x) (PurleyFits x) (purleyChannels.map bdfRegister) (fun _ => none)
      (decodeBdfRegisters x slots socket {}).memoryErrors := by
    rw [hbdf]
    refine Written.foldl RetryScan.memoryErrors (fun r hr => ?_) {}
    obtain ⟨m, hm, rfl⟩ := List.mem_map.1 hr
    exact bdf_writes hm (h _ (List.mem_append_left _ hr))
  refine hfirst.append (Written.filterMap (fun b hb c hc r hbr hcr =>
    imcRegister_unique hc hb hcr hbr rfl) ?_)
  exact Written.foldl RetryScan.memoryErrors (fun item hitem => imc_writes hitem
    fun r hr => h r (List.mem_append_right _ (List.mem_filterMap.2 ⟨item, hitem, hr⟩)))
      { memoryErrors := (decodeBdfRegisters x slots socket {}).memoryErrors }

theorem purleyPlace_eq_iff {r r' : LogRegister} : purleyPlace x r' = some (r.entry x) ↔
    (r'.Valid x ∧ r'.mode x < 12) ∧ r'.entry x = r.entry x := by
  unfold purleyPlace
  split_ifs with h
  · rw [LogRegister.place_eq_entry_iff, and_iff_right h, LogRegister.entry_eq_iff]
    rfl
  · exact iff_of_false id fun h' => h h'.1

theorem decoded_purley (h : RetryPlatform.purley.Complete own x) :
    Decoded purleyLayout x (RetryPlatform.purley.registers own x)
        (RetryPlatform.purley.decodeRetryLog x slots socket) ↔
      RetryPlatform.purley.Right own x := by
  rw [decoded_iff_of_written (fun r => bits (x.value r.address1) 19 9 < 2 ^ 8 ∧
    r.row x purleyLayout < 2 ^ 16) (written_purley h)]
  · refine and_congr ?_ ?_
    · refine forall₂_congr fun r hr => forall_congr' fun hv => ?_
      rw [purleyPlace_eq_iff]
      constructor
      · rintro ⟨⟨⟨-, hmode⟩, -⟩, hcolumn, hrow⟩
        exact ⟨hmode, hcolumn, hrow⟩
      · rintro ⟨hmode, hcolumn, hrow⟩
        exact ⟨⟨⟨hv, hmode⟩, rfl⟩, hcolumn, hrow⟩
    · constructor
      · intro hdistinct m hm r hr hv hv' hlocation huncorrectable hslot
        exact bdfRegister_ne hm hr (hdistinct _ (List.mem_append_left _ (List.mem_map_of_mem hm)) r
          (List.mem_append_right _ hr) hv hv' (LogRegister.entry_eq_iff.2 ⟨huncorrectable, hlocation, hslot⟩))
      · intro hcross r hr r' hr' hv hv' heq
        obtain ⟨huncorrectable, hlocation, hslot⟩ := LogRegister.entry_eq_iff.1 heq
        rcases List.mem_append.1 hr with hbdf | himc
        · obtain ⟨m, hm, rfl⟩ := List.mem_map.1 hbdf
          rcases List.mem_append.1 hr' with hbdf' | himc'
          · obtain ⟨m', hm', rfl⟩ := List.mem_map.1 hbdf'
            rw [purleyChannels_location m hm m' hm' hlocation]
          · exact absurd hslot (hcross m hm r' himc' hv hv' hlocation huncorrectable)
        · rcases List.mem_append.1 hr' with hbdf' | himc'
          · obtain ⟨m', hm', rfl⟩ := List.mem_map.1 hbdf'
            exact absurd hslot.symm
              (hcross m' hm' r himc hv' hv hlocation.symm huncorrectable.symm)
          · obtain ⟨item, hitem, hsome⟩ := List.mem_filterMap.1 himc
            obtain ⟨item', hitem', hsome'⟩ := List.mem_filterMap.1 himc'
            obtain rfl := imcRegister_unique hitem hitem' hsome hsome' hlocation
            exact Option.some_inj.1 (hsome.symm.trans hsome')
  · intro r hr hplace
    unfold purleyPlace at hplace
    split_ifs at hplace with hv
    · exact hv.1
    · exact absurd rfl hplace
  · intro r hr r' hr' hplace hne
    exact .inl (purleyPlace_eq_iff.1 hplace).2
  · intro r hr hplace e he
    rw [describes_iff wide_purleyLayout he rfl]
    refine and_congr ⟨fun h => ?_, fun hlt => ⟨rfl, rfl, rfl, rfl, Nat.mod_eq_of_lt hlt⟩⟩
      (Nat.mod_eq_iff_lt (by decide))
    exact (Nat.mod_eq_iff_lt (by decide)).1 h.column

end Purley

/-! ## All platforms -/

/-- **Memory errors.** Each valid log of a section has an entry of its own, with its class and its address, iff
the logs of the section are as the loop needs them. -/
theorem decoded_iff (p : RetryPlatform) (own : List Char) (x : RetrySection p own)
    (slots : List SilkscreenSlot) (socket : ℕ) :
    Decoded p.layout x.toUncoreSection (p.registers own x.toUncoreSection)
        (p.decodeRetryLog x.toUncoreSection slots socket) ↔
      p.Right own x.toUncoreSection := by
  cases p with
  | whitley => exact decoded_whitley x.complete
  | eaglestream => exact decoded_eaglestream x.complete
  | purley => exact decoded_purley x.complete

/-- A register is there as a number when its name is, and all texts are numbers. -/
theorem number_isSome_of_mem {x : UncoreSection} {reg : List Char} (hreg : reg ∈ x.items.map Prod.fst)
    (hall : ∀ p ∈ x.items, (stoull 16 p.2).isSome = true) : (x.number reg).isSome = true := by
  rw [UncoreSection.number, UncoreSection.find]
  cases hfind : x.items.lookup reg with
  | none =>
    obtain ⟨p, hp, rfl⟩ := List.mem_map.1 hreg
    exact absurd (beq_self_eq_true p.1) (by simpa using List.lookup_eq_none_iff.1 hfind p hp)
  | some text =>
    obtain ⟨l, l', hl, -⟩ := List.lookup_eq_some_iff.1 hfind
    exact hall (reg, text) (hl ▸ List.mem_append_right l List.mem_cons_self)

/-- A section with the registers of each channel, whose texts are numbers. -/
theorem complete_whitley {x : UncoreSection} (text : MemoryChannel → String → List Char)
    (hitems : x.items = whitleyChannels.flatMap fun m =>
      ["C60", "E54", "C58", "E58", "E5C", "C28"].map fun s => (m.reg s, text m s))
    (htext : ∀ m s, (stoull 16 (text m s)).isSome = true) : RetryPlatform.whitley.Complete "C28".toList x := by
  intro m hm
  have hnumber : ∀ s ∈ ["C60", "E54", "C58", "E58", "E5C", "C28"], (x.number (m.reg s)).isSome = true := by
    intro s hs
    apply number_isSome_of_mem
    · rw [hitems]
      exact List.mem_map.2 ⟨_, List.mem_flatMap.2 ⟨m, hm, List.mem_map.2 ⟨s, hs, rfl⟩⟩, rfl⟩
    · intro p hp
      rw [hitems] at hp
      obtain ⟨m, -, hp⟩ := List.mem_flatMap.1 hp
      obtain ⟨s, -, rfl⟩ := List.mem_map.1 hp
      exact htext m s
  exact ⟨hnumber "C28" (by decide), fun s hs => hnumber s (List.mem_append_left ["C28"] hs)⟩

/-- One valid log, the first one of the first channel, of an error that is not correctable. -/
def oneLog : RetrySection .whitley "C28".toList where
  items := whitleyChannels.flatMap fun m => ["C60", "E54", "C58", "E58", "E5C", "C28"].map fun s =>
    (m.reg s, if m.reg s = "B30_D26_F0_0x22C60".toList then "0x3".toList else "0x0".toList)
  nodup := by
    -- as numbers, the names are quick to compare
    apply List.Nodup.of_map (List.foldl (fun n c => 128 * n + c.toNat) 0)
    decide +kernel
  complete := by
    refine complete_whitley (fun m s =>
      if m.reg s = "B30_D26_F0_0x22C60".toList then "0x3".toList else "0x0".toList) rfl fun m s => ?_
    split <;> decide +kernel

/-- It is reported as correctable. -/
theorem not_decoded_uncorrectable : ¬ Decoded RetryPlatform.whitley.layout oneLog.toUncoreSection
    (RetryPlatform.whitley.registers "C28".toList oneLog.toUncoreSection)
    (RetryPlatform.whitley.decodeRetryLog oneLog.toUncoreSection [] 0) := by
  intro h
  have hbase : MemoryChannel.mk ⟨'0', '0'⟩ "B30_D26_F0_0x22".toList ∈ whitleyChannels := by decide +kernel
  obtain ⟨e, he, -⟩ := h.entry (whitleyFirst "C28".toList ⟨⟨'0', '0'⟩, "B30_D26_F0_0x22".toList⟩)
    (mem_pairs.2 ⟨_, hbase, .inl rfl⟩) (by decide +kernel)
  have hnone : (RetryPlatform.whitley.decodeRetryLog oneLog.toUncoreSection [] 0
      ((whitleyFirst "C28".toList ⟨⟨'0', '0'⟩, "B30_D26_F0_0x22".toList⟩).entry
        oneLog.toUncoreSection)).isNone = true := by decide +kernel
  rw [he] at hnone
  exact Bool.false_ne_true hnone

end BmcBafi
