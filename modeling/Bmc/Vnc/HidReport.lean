import Bmc.Vnc.Hid

/-!
# What the keyboard reports show

* `Shows`: a report has the modifiers and the usage codes of the keys that are held;
* `releaseLoop_eq`, `pressLoop_eq`: the loops over the codes;
* `Faithful`: an event does what is expected of it; `Careful`: what it takes;
* `shows_of_careful`, `careful_of_faithful`: one event; **`everyEvent_faithful_iff`**: all events.
-/

namespace BmcVnc

variable {beyond : ℕ → UInt8} {prevkey : UsbKeybdPkt} {held : Finset UInt32} {e : KeyEvent}

/-! ## Modifiers -/

/-- The values of `modifierOf`. -/
def modifiers : List UInt8 := [0x02, 0x20, 0x01, 0x10, 0x04, 0x40, 0x08, 0x80, 0]

theorem modifierOf_mem (key : UInt32) : modifierOf key ∈ modifiers := by
  unfold modifierOf
  split_ifs <;> decide

/-- Two modifiers with a common bit are the same. -/
theorem modifierOf_eq_of_testBit {key key' : UInt32} {i : ℕ}
    (h : (modifierOf key).toNat.testBit i = true) (h' : (modifierOf key').toNat.testBit i = true) :
    modifierOf key = modifierOf key' := by
  have hall : (modifiers.all fun a => modifiers.all fun b => (List.range 8).all fun i =>
      !(a.toNat.testBit i && b.toNat.testBit i) || a == b) = true := by decide
  have hi : i < 8 := by
    by_contra hi
    rw [Nat.testBit_lt_two_pow ((modifierOf key).toNat_lt.trans_le
      (Nat.pow_le_pow_right (by decide) (Nat.not_lt.1 hi)))] at h
    cases h
  have hcheck := List.all_eq_true.1 (List.all_eq_true.1 (List.all_eq_true.1 hall _ (modifierOf_mem key)) _
    (modifierOf_mem key')) i (List.mem_range.2 hi)
  rw [h, h'] at hcheck
  simpa using hcheck

theorem exists_testBit_of_ne_zero {m : UInt8} (h : m ≠ 0) : ∃ i, m.toNat.testBit i = true := by
  by_contra hc
  push Not at hc
  refine h (UInt8.toNat_inj.1 (Nat.eq_of_testBit_eq fun i => ?_))
  rw [Bool.eq_false_iff.2 (hc i), UInt8.toNat_zero, Nat.zero_testBit]

/-- Bits that are cleared. -/
theorem testBit_andNot (a b : UInt8) (i : ℕ) : (a &&& ~~~b).toNat.testBit i = true ↔
    a.toNat.testBit i = true ∧ b.toNat.testBit i = false := by
  change (a &&& ~~~b).toBitVec.getLsbD i = true ↔
    a.toBitVec.getLsbD i = true ∧ b.toBitVec.getLsbD i = false
  rw [UInt8.toBitVec_and, UInt8.toBitVec_not, BitVec.getLsbD_and, BitVec.getLsbD_not, Bool.and_eq_true,
    Bool.and_eq_true, Bool.not_eq_true', decide_eq_true_iff]
  refine and_congr_right fun h => and_iff_right_iff_imp.2 fun _ => ?_
  exact BitVec.lt_of_getLsbD h

/-! ## The loops -/

/-- Six places for codes, of which the first hold `codes` and the others zero. -/
def padded (codes : List UInt8) : List UInt8 := codes ++ List.replicate (6 - codes.length) 0

theorem set_padding {done : List UInt8} {n : ℕ} (hn : 0 < n) (code : UInt8) :
    (done ++ List.replicate n 0).set done.length code =
      (done ++ [code]) ++ List.replicate (n - 1) 0 := by
  obtain ⟨m, rfl⟩ := Nat.exists_eq_succ_of_ne_zero hn.ne'
  rw [List.set_append_right _ _ le_rfl, Nat.sub_self, List.replicate_succ, List.set_cons_zero]
  simp

theorem releaseLoop_eq (usbKey : UInt8) {codes : List UInt8} (done : List UInt8) {n : ℕ}
    (hn : codes.length ≤ n) :
    releaseLoop usbKey codes (done ++ List.replicate n 0) done.length =
      done ++ codes.filter (· ≠ usbKey) ++
        List.replicate (n - (codes.filter (· ≠ usbKey)).length) 0 := by
  induction codes generalizing done n with
  | nil => simp [releaseLoop]
  | cons code codes ih =>
    have hlen : codes.length + 1 ≤ n := hn
    rw [releaseLoop]
    split_ifs with h
    · rw [ih done (by omega), List.filter_cons_of_neg (by simp [h])]
    · have hnext := ih (done ++ [code]) (n := n - 1) (by omega)
      rw [List.length_append, List.length_singleton] at hnext
      rw [set_padding (by omega), hnext, List.filter_cons_of_pos (by simp [h]), List.length_cons]
      simp [Nat.sub_sub, Nat.add_comm 1]

/-- A code that goes up is taken out of the codes. -/
theorem release_padded {usbKey : UInt8} (hkey : usbKey ≠ 0) {codes : List UInt8} (hlen : codes.length ≤ 6) :
    releaseLoop usbKey (padded codes) (List.replicate 6 0) 0 = padded (codes.filter (· ≠ usbKey)) := by
  have hloop := releaseLoop_eq usbKey (n := 6) [] (show (padded codes).length ≤ 6 by simp [padded]; omega)
  have hzeros : (List.replicate (6 - codes.length) (0 : UInt8)).filter (· ≠ usbKey) =
      List.replicate (6 - codes.length) 0 := by
    rw [List.filter_eq_self]
    intro code hcode
    rw [List.eq_of_mem_replicate hcode]
    simpa using hkey.symm
  have hle := List.length_filter_le (· ≠ usbKey) codes
  rw [List.nil_append, List.nil_append, List.length_nil, padded, List.filter_append, hzeros,
    List.length_append, List.length_replicate, List.append_assoc, List.replicate_append_replicate] at hloop
  rw [padded, hloop, padded]
  congr 2
  omega

theorem pressLoop_eq {usbKey : UInt8} (hkey : usbKey ≠ 0) {codes : List UInt8} (done : List UInt8)
    {n k : ℕ} (hcodes : (0 : UInt8) ∉ codes) (hn : codes.length ≤ n) (duplicate : Bool) :
    pressLoop usbKey (codes ++ List.replicate k 0) done.length (done ++ List.replicate n 0) duplicate =
      (done.length + codes.length, done ++ codes ++ List.replicate (n - codes.length) 0,
        duplicate || decide (usbKey ∈ codes)) := by
  induction codes generalizing done n duplicate with
  | nil =>
    cases k with
    | zero => simp [pressLoop]
    | succ k => simp [pressLoop, List.replicate_succ, hkey.symm]
  | cons code codes ih =>
    have hlen : codes.length + 1 ≤ n := hn
    have hcode : code ≠ 0 := fun h => hcodes (h ▸ List.mem_cons_self)
    have hrest : (0 : UInt8) ∉ codes := fun h => hcodes (List.mem_cons_of_mem _ h)
    have hnext := ih (done ++ [code]) (n := n - 1) hrest (by omega)
      (if code = usbKey then true else duplicate)
    rw [List.length_append, List.length_singleton] at hnext
    rw [List.cons_append, pressLoop, if_neg hcode, set_padding (by omega), hnext]
    refine Prod.ext ?_ (Prod.ext ?_ ?_)
    · simp only [List.length_cons]
      omega
    · simp [Nat.sub_sub, Nat.add_comm 1]
    · by_cases h : code = usbKey
      · simp [h]
      · simp [h, Ne.symm h]

/-- A code that goes down is looked for among the codes. -/
theorem press_padded {usbKey : UInt8} (hkey : usbKey ≠ 0) {codes : List UInt8}
    (hcodes : (0 : UInt8) ∉ codes) (hlen : codes.length ≤ 6) :
    pressLoop usbKey (padded codes) 0 (List.replicate 6 0) false =
      (codes.length, padded codes, decide (usbKey ∈ codes)) := by
  have hloop := pressLoop_eq hkey [] (k := 6 - codes.length) hcodes hlen false
  rwa [List.nil_append, List.length_nil, Nat.zero_add, List.nil_append, Bool.false_or] at hloop

theorem set_padded {codes : List UInt8} (hlen : codes.length < 6) (code : UInt8) :
    (padded codes).set codes.length code = padded (codes ++ [code]) := by
  rw [padded, set_padding (by omega), padded, List.length_append, List.length_singleton, Nat.sub_sub]

theorem mem_of_padded {codes codes' : List UInt8} (h : padded codes = padded codes') {code : UInt8}
    (hcode : code ∈ codes) (hne : code ≠ 0) : code ∈ codes' := by
  have hmem : code ∈ padded codes' := h ▸ List.mem_append_left _ hcode
  rcases List.mem_append.1 hmem with hmem | hmem
  · exact hmem
  · exact absurd (List.eq_of_mem_replicate hmem) hne

theorem mem_padded {codes : List UInt8} {code : UInt8} (hcode : code ≠ 0) : code ∈ padded codes ↔ code ∈ codes := by
  rw [padded, List.mem_append, or_iff_left]
  exact fun h => hcode (List.eq_of_mem_replicate h)

/-- Codes that differ are no phantom state. -/
theorem padded_ne_phantom {codes : List UInt8} (hnodup : codes.Nodup) (hlen : codes.length ≤ 6) :
    padded codes ≠ List.replicate 6 1 := by
  intro h
  have hlt : codes.length < 2 := by
    by_contra hge
    have hget := fun i (hi : i < codes.length) => List.getElem_of_eq h (i := i)
      (by rw [padded, List.length_append, List.length_replicate]; omega)
    have hzero := hget 0 (by omega)
    have hone := hget 1 (by omega)
    simp only [padded, List.getElem_append_left (show 0 < codes.length by omega),
      List.getElem_append_left (show 1 < codes.length by omega), List.getElem_replicate] at hzero hone
    exact absurd (hnodup.getElem_inj_iff.1 (hzero.trans hone.symm)) (by decide)
  have hpad : (0 : UInt8) ∈ padded codes :=
    List.mem_append_right _ (List.mem_replicate.2 ⟨by omega, rfl⟩)
  rw [h] at hpad
  exact absurd (List.eq_of_mem_replicate hpad) (by decide)

/-! ## What a report shows -/

/-- The codes of the keys that are held: up to six, each once. -/
structure CodesOf (beyond : ℕ → UInt8) (held : Finset UInt32) (codes : List UInt8) : Prop where
  length : codes.length ≤ 6
  nodup : codes.Nodup
  mem_iff : ∀ code, code ∈ codes ↔ code ≠ 0 ∧ ∃ key ∈ held, usbKeyOf beyond key = code

/-- **A report shows the keys that are held**: the modifier bits, and the codes without a gap. -/
structure Shows (beyond : ℕ → UInt8) (held : Finset UInt32) (report : UsbKeybdPkt) : Prop where
  reserved : report.reserved = 0
  modifier : ∀ i, report.modifier.toNat.testBit i = true ↔
    ∃ key ∈ held, (modifierOf key).toNat.testBit i = true
  keyCode : ∃ codes, CodesOf beyond held codes ∧ report.keyCode = padded codes

/-- The keys that are held after an event. -/
def KeyEvent.heldAfter (e : KeyEvent) (held : Finset UInt32) : Finset UInt32 :=
  if e.down then insert e.key held else held.erase e.key

/-- **An event does what is expected**, when the keys `held` are down: the index is inside its table, the
report and the one remembered show the keys, a key that is down already changes nothing, and without keys
the report is zero. -/
structure Faithful (beyond : ℕ → UInt8) (prevkey : UsbKeybdPkt) (held : Finset UInt32) (e : KeyEvent) :
    Prop where
  inTable : InTable e.key
  sent : Shows beyond (e.heldAfter held) (sendKeyEvent beyond prevkey e).1
  remembered : Shows beyond (e.heldAfter held) (sendKeyEvent beyond prevkey e).2
  repeated : e.down = true → e.key ∈ held → (sendKeyEvent beyond prevkey e).1 = prevkey
  released : e.heldAfter held = ∅ → (sendKeyEvent beyond prevkey e).1 = .zero

/-- The usage codes of the keys that are held. -/
def heldCodes (beyond : ℕ → UInt8) (held : Finset UInt32) : Finset UInt8 :=
  (held.image (usbKeyOf beyond)).erase 0

/-- **What it takes**: the index is inside the table, a key with a usage code goes down while fewer than
six codes are held, and a key goes up while no other key with its usage code or its modifier is held. -/
structure Careful (beyond : ℕ → UInt8) (held : Finset UInt32) (e : KeyEvent) : Prop where
  inTable : InTable e.key
  room : e.down = true → usbKeyOf beyond e.key ≠ 0 → (heldCodes beyond held).card < 6
  alone : e.down = false → ∀ key ∈ held, key ≠ e.key →
    (usbKeyOf beyond key = usbKeyOf beyond e.key → usbKeyOf beyond key = 0) ∧
      (modifierOf key = modifierOf e.key → modifierOf key = 0)

theorem CodesOf.card {codes : List UInt8} (h : CodesOf beyond held codes) :
    (heldCodes beyond held).card = codes.length := by
  have heq : heldCodes beyond held = codes.toFinset := by
    ext code
    rw [heldCodes, Finset.mem_erase, Finset.mem_image, List.mem_toFinset, h.mem_iff]
  rw [heq, List.toFinset_card_of_nodup h.nodup]

theorem CodesOf.zero_notMem {codes : List UInt8} (h : CodesOf beyond held codes) :
    (0 : UInt8) ∉ codes := fun hc => ((h.mem_iff 0).1 hc).1 rfl

/-- The report of no keys. -/
theorem shows_empty : Shows beyond ∅ .zero where
  reserved := rfl
  modifier i := by simp [UsbKeybdPkt.zero]
  keyCode := ⟨[], ⟨by simp, List.nodup_nil, by simp⟩, rfl⟩

theorem eq_zero_of_shows_empty {report : UsbKeybdPkt} (h : Shows beyond ∅ report) : report = .zero := by
  obtain ⟨codes, hcodes, hkeyCode⟩ := h.keyCode
  obtain rfl : codes = [] := by
    refine List.eq_nil_iff_forall_not_mem.2 fun code hcode => ?_
    obtain ⟨-, key, hkey, -⟩ := (hcodes.mem_iff code).1 hcode
    exact absurd hkey (Finset.notMem_empty key)
  have hmodifier : report.modifier = 0 := by
    refine UInt8.toNat_inj.1 (Nat.eq_of_testBit_eq fun i => ?_)
    rw [UInt8.toNat_zero, Nat.zero_testBit, Bool.eq_false_iff]
    intro hc
    obtain ⟨key, hkey, -⟩ := (h.modifier i).1 hc
    exact Finset.notMem_empty key hkey
  have hreserved := h.reserved
  cases report
  dsimp only at hmodifier hreserved hkeyCode
  rw [hmodifier, hreserved, hkeyCode]
  rfl

/-! ## One event -/

/-- The modifiers after an event whose key shares its modifier with no other key that is held. -/
theorem testBit_nextModifier (h : Shows beyond held prevkey)
    (halone : e.down = false → ∀ key ∈ held, key ≠ e.key →
      modifierOf key = modifierOf e.key → modifierOf key = 0) (i : ℕ) :
    (nextModifier prevkey e).toNat.testBit i = true ↔
      ∃ key ∈ e.heldAfter held, (modifierOf key).toNat.testBit i = true := by
  rw [nextModifier, KeyEvent.heldAfter]
  by_cases hdown : e.down = true
  · rw [if_pos hdown, if_pos hdown, UInt8.toNat_or, Nat.testBit_or, Bool.or_eq_true, h.modifier]
    simp only [Finset.mem_insert, exists_eq_or_imp]
  rw [if_neg hdown, if_neg hdown, testBit_andNot, h.modifier]
  have hup := Bool.not_eq_true _ ▸ hdown
  constructor
  · rintro ⟨⟨key, hkey, hbit⟩, hclear⟩
    refine ⟨key, Finset.mem_erase.2 ⟨?_, hkey⟩, hbit⟩
    rintro rfl
    exact absurd hbit (Bool.eq_false_iff.1 hclear)
  · rintro ⟨key, hkey, hbit⟩
    obtain ⟨hne, hheld⟩ := Finset.mem_erase.1 hkey
    refine ⟨⟨key, hheld, hbit⟩, Bool.eq_false_iff.2 fun hc => ?_⟩
    have hzero := halone hup key hheld hne (modifierOf_eq_of_testBit hbit hc)
    rw [hzero, UInt8.toNat_zero, Nat.zero_testBit] at hbit
    cases hbit

/-- The codes after an event. -/
def nextCodes (usbKey : UInt8) (down : Bool) (codes : List UInt8) : List UInt8 :=
  if usbKey = 0 then codes
  else if down = false then codes.filter (· ≠ usbKey)
  else if usbKey ∈ codes then codes
  else codes ++ [usbKey]

/-- **The report of an event** with room for its key. -/
theorem convertRfbToUsbKey_eq {codes : List UInt8} (hreserved : prevkey.reserved = 0)
    (hkeyCode : prevkey.keyCode = padded codes) (hzero : (0 : UInt8) ∉ codes) (hlen : codes.length ≤ 6)
    (hroom : e.down = true → usbKeyOf beyond e.key ≠ 0 → codes.length < 6) :
    ∃ rest, convertRfbToUsbKey beyond prevkey e =
      (⟨nextModifier prevkey e, 0, padded (nextCodes (usbKeyOf beyond e.key) e.down codes)⟩, 0, rest) := by
  rw [convertRfbToUsbKey, nextCodes]
  dsimp only [UsbKeybdPkt.zero]
  rw [hreserved, hkeyCode]
  by_cases hkey : usbKeyOf beyond e.key = 0
  · rw [if_pos hkey, if_pos hkey]
    exact ⟨_, rfl⟩
  rw [if_neg hkey, if_neg hkey]
  by_cases hdown : e.down = false
  · rw [if_pos hdown, if_pos hdown, release_padded hkey hlen]
    exact ⟨_, rfl⟩
  have hlt := hroom (Bool.not_eq_false _ ▸ hdown) hkey
  rw [if_neg hdown, if_neg hdown, press_padded hkey hzero hlen]
  dsimp only
  rw [if_pos hlt.ne, set_padded hlt]
  by_cases hmem : usbKeyOf beyond e.key ∈ codes
  · rw [if_pos (decide_eq_true hmem), if_pos hmem]
    exact ⟨_, rfl⟩
  · rw [if_neg (by simpa using hmem), if_neg hmem]
    exact ⟨_, rfl⟩

theorem sendKeyEvent_eq {codes : List UInt8} (hreserved : prevkey.reserved = 0)
    (hkeyCode : prevkey.keyCode = padded codes) (hzero : (0 : UInt8) ∉ codes) (hlen : codes.length ≤ 6)
    (hroom : e.down = true → usbKeyOf beyond e.key ≠ 0 → codes.length < 6) :
    sendKeyEvent beyond prevkey e =
      (⟨nextModifier prevkey e, 0, padded (nextCodes (usbKeyOf beyond e.key) e.down codes)⟩,
        ⟨nextModifier prevkey e, 0, padded (nextCodes (usbKeyOf beyond e.key) e.down codes)⟩) := by
  obtain ⟨rest, heq⟩ := convertRfbToUsbKey_eq hreserved hkeyCode hzero hlen hroom
  rw [sendKeyEvent, heq]
  rfl

/-- The report of a key for which there is no room. Only the modifiers are remembered. -/
theorem sendKeyEvent_full {codes : List UInt8} (hkeyCode : prevkey.keyCode = padded codes)
    (hzero : (0 : UInt8) ∉ codes) (hlen : codes.length = 6) (hdown : e.down = true)
    (hkey : usbKeyOf beyond e.key ≠ 0) :
    sendKeyEvent beyond prevkey e = (⟨nextModifier prevkey e, 0, List.replicate 6 1⟩,
      { prevkey with modifier := nextModifier prevkey e }) := by
  have hup : ¬ e.down = false := by
    rw [hdown]
    decide
  have hconvert : convertRfbToUsbKey beyond prevkey e = (⟨nextModifier prevkey e, 0, List.replicate 6 1⟩, 1,
      { prevkey with modifier := nextModifier prevkey e }) := by
    rw [convertRfbToUsbKey]
    dsimp only [UsbKeybdPkt.zero]
    rw [hkeyCode, if_neg hkey, if_neg hup, press_padded hkey hzero hlen.le]
    dsimp only
    rw [if_neg (not_not_intro hlen)]
  rw [sendKeyEvent, hconvert]
  rfl

/-- The codes follow the keys that are held. -/
theorem CodesOf.next {codes : List UInt8} (h : CodesOf beyond held codes)
    (hroom : e.down = true → usbKeyOf beyond e.key ≠ 0 → codes.length < 6)
    (halone : e.down = false → ∀ key ∈ held, key ≠ e.key →
      usbKeyOf beyond key = usbKeyOf beyond e.key → usbKeyOf beyond key = 0) :
    CodesOf beyond (e.heldAfter held) (nextCodes (usbKeyOf beyond e.key) e.down codes) := by
  unfold nextCodes KeyEvent.heldAfter
  by_cases hdown : e.down = true
  · have hup : ¬ e.down = false := by
      rw [hdown]
      decide
    rw [if_pos hdown, if_neg hup]
    have hmem : ∀ code, (code ≠ 0 ∧ ∃ key ∈ insert e.key held, usbKeyOf beyond key = code) ↔
        (code ≠ 0 ∧ usbKeyOf beyond e.key = code) ∨ code ∈ codes := by
      intro code
      rw [h.mem_iff, ← and_or_left]
      simp only [Finset.mem_insert, exists_eq_or_imp]
    split_ifs with hkey hin
    · refine ⟨h.length, h.nodup, fun code => ?_⟩
      rw [hmem, or_iff_right]
      rintro ⟨hne, rfl⟩
      exact hne hkey
    · refine ⟨h.length, h.nodup, fun code => ?_⟩
      rw [hmem, iff_or_self]
      rintro ⟨-, rfl⟩
      exact hin
    · refine ⟨?_, ?_, fun code => ?_⟩
      · rw [List.length_append, List.length_singleton]
        exact hroom hdown hkey
      · rw [← List.concat_eq_append]
        exact h.nodup.concat hin
      · rw [hmem, List.mem_append, List.mem_singleton, or_comm]
        refine or_congr_left ⟨?_, fun hc => hc.2.symm⟩
        rintro rfl
        exact ⟨hkey, rfl⟩
  · have hup := Bool.not_eq_true _ ▸ hdown
    rw [if_neg hdown, if_pos hup]
    have hmem : ∀ code, (code ≠ 0 ∧ ∃ key ∈ held.erase e.key, usbKeyOf beyond key = code) ↔
        code ∈ codes ∧ code ≠ usbKeyOf beyond e.key := by
      intro code
      rw [h.mem_iff]
      constructor
      · rintro ⟨hne, key, hkey, rfl⟩
        obtain ⟨hother, hheld⟩ := Finset.mem_erase.1 hkey
        exact ⟨⟨hne, key, hheld, rfl⟩, fun hc => hne (halone hup key hheld hother hc)⟩
      · rintro ⟨⟨hne, key, hheld, rfl⟩, hother⟩
        refine ⟨hne, key, Finset.mem_erase.2 ⟨?_, hheld⟩, rfl⟩
        rintro rfl
        exact hother rfl
    split_ifs with hkey
    · refine ⟨h.length, h.nodup, fun code => ?_⟩
      rw [hmem, hkey]
      exact (and_iff_left_of_imp fun hc => ((h.mem_iff code).1 hc).1).symm
    · refine ⟨(List.length_filter_le _ _).trans h.length, h.nodup.filter _, fun code => ?_⟩
      rw [hmem, List.mem_filter, decide_eq_true_iff]

/-- The keys before a careful event are shown before it, and those after it afterwards. -/
theorem faithful_of_careful (h : Shows beyond held prevkey) (hc : Careful beyond held e) :
    Faithful beyond prevkey held e := by
  obtain ⟨codes, hcodes, hkeyCode⟩ := h.keyCode
  have hroom : e.down = true → usbKeyOf beyond e.key ≠ 0 → codes.length < 6 := by
    intro hdown hkey
    rw [← hcodes.card]
    exact hc.room hdown hkey
  have heq := sendKeyEvent_eq h.reserved hkeyCode hcodes.zero_notMem hcodes.length hroom
  have hnext := hcodes.next hroom fun hdown key hkey hne => (hc.alone hdown key hkey hne).1
  have hshows : Shows beyond (e.heldAfter held)
      ⟨nextModifier prevkey e, 0, padded (nextCodes (usbKeyOf beyond e.key) e.down codes)⟩ :=
    ⟨rfl, testBit_nextModifier h fun hdown key hkey hne => (hc.alone hdown key hkey hne).2,
      _, hnext, rfl⟩
  refine ⟨hc.inTable, heq ▸ hshows, heq ▸ hshows, fun hdown hheld => ?_, fun hempty => ?_⟩
  · have hsame : e.heldAfter held = held := by
      rw [KeyEvent.heldAfter, if_pos hdown, Finset.insert_eq_of_mem hheld]
    have hmodifier : nextModifier prevkey e = prevkey.modifier := by
      refine UInt8.toNat_inj.1 (Nat.eq_of_testBit_eq fun i => Bool.eq_iff_iff.2 ?_)
      rw [hshows.modifier i, hsame, ← h.modifier i]
    have hup : ¬ e.down = false := by
      rw [hdown]
      decide
    have hstay : nextCodes (usbKeyOf beyond e.key) e.down codes = codes := by
      rw [nextCodes, if_neg hup]
      split_ifs with hkey hin
      · rfl
      · rfl
      · exact absurd ((hcodes.mem_iff _).2 ⟨hkey, e.key, hheld, rfl⟩) hin
    rw [heq, hmodifier, hstay, ← hkeyCode, ← h.reserved]
  · rw [hempty] at hshows
    rw [heq]
    exact eq_zero_of_shows_empty hshows

/-- An event is faithful only if it is careful. -/
theorem careful_of_faithful (h : Shows beyond held prevkey) (hf : Faithful beyond prevkey held e) :
    Careful beyond held e := by
  obtain ⟨codes, hcodes, hkeyCode⟩ := h.keyCode
  have hroom : e.down = true → usbKeyOf beyond e.key ≠ 0 → codes.length < 6 := by
    intro hdown hkey
    by_contra hfull
    have hsent := hf.sent
    rw [sendKeyEvent_full hkeyCode hcodes.zero_notMem (hcodes.length.antisymm (Nat.not_lt.1 hfull))
      hdown hkey] at hsent
    -- six ones are not six codes
    obtain ⟨codes', hcodes', hones⟩ := hsent.keyCode
    exact padded_ne_phantom hcodes'.nodup hcodes'.length hones.symm
  refine ⟨hf.inTable, fun hdown hkey => hcodes.card ▸ hroom hdown hkey, ?_⟩
  intro hdown key hheld hne
  have heq := sendKeyEvent_eq h.reserved hkeyCode hcodes.zero_notMem hcodes.length hroom
  have hsent := hf.sent
  rw [heq] at hsent
  have hstill : key ∈ e.heldAfter held := by
    rw [KeyEvent.heldAfter, if_neg (by rw [hdown]; decide)]
    exact Finset.mem_erase.2 ⟨hne, hheld⟩
  constructor
  · intro hsame
    by_contra hkey
    obtain ⟨codes', hcodes', hkeyCode'⟩ := hsent.keyCode
    have hmem : usbKeyOf beyond key ∈ codes' := (hcodes'.mem_iff _).2 ⟨hkey, key, hstill, rfl⟩
    have hmem' := mem_of_padded hkeyCode'.symm hmem hkey
    rw [nextCodes, if_neg (hsame ▸ hkey), if_pos hdown, List.mem_filter, decide_eq_true_iff] at hmem'
    exact hmem'.2 hsame
  · intro hsame
    by_contra hmodifier
    obtain ⟨i, hi⟩ := exists_testBit_of_ne_zero hmodifier
    have hbit := (hsent.modifier i).2 ⟨key, hstill, hi⟩
    dsimp only at hbit
    rw [nextModifier, if_neg (by rw [hdown]; decide), testBit_andNot, ← hsame, hi] at hbit
    exact absurd hbit.2 (by decide)

/-! ## All events -/

/-- A condition on every event, on the report remembered and the keys held before it. -/
def EveryEvent (beyond : ℕ → UInt8) (P : UsbKeybdPkt → Finset UInt32 → KeyEvent → Prop) :
    UsbKeybdPkt → Finset UInt32 → List KeyEvent → Prop
  | _, _, [] => True
  | prevkey, held, e :: es =>
    P prevkey held e ∧ EveryEvent beyond P (sendKeyEvent beyond prevkey e).2 (e.heldAfter held) es

theorem everyEvent_iff_of_shows (h : Shows beyond held prevkey) (events : List KeyEvent) :
    EveryEvent beyond (Faithful beyond) prevkey held events ↔
      EveryEvent beyond (fun _ => Careful beyond) prevkey held events := by
  induction events generalizing prevkey held with
  | nil => rfl
  | cons e es ih =>
    have hiff : Faithful beyond prevkey held e ↔ Careful beyond held e :=
      ⟨careful_of_faithful h, faithful_of_careful h⟩
    rw [EveryEvent, EveryEvent, hiff]
    exact and_congr_right fun hc => ih (faithful_of_careful h hc).remembered

/-- **All events.** From the first report on, every event does what is expected exactly when every event
is careful. -/
theorem everyEvent_faithful_iff (beyond : ℕ → UInt8) (events : List KeyEvent) :
    EveryEvent beyond (Faithful beyond) .zero ∅ events ↔
      EveryEvent beyond (fun _ => Careful beyond) .zero ∅ events :=
  everyEvent_iff_of_shows shows_empty events

/-- The keysym of a letter of the second Latin alphabet is behind the end of `ascii2UsbMap`. -/
theorem not_faithful_aogonek : ¬ ∀ (beyond : ℕ → UInt8) (events : List KeyEvent),
    EveryEvent beyond (Faithful beyond) .zero ∅ events := by
  intro h
  have hin := (h (fun _ => 0) [⟨true, 0x1A1⟩]).1.inTable
  exact absurd hin (by decide)

end BmcVnc
