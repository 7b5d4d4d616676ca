import Mathlib
import Bmc.Bafi.Tor

/-!
# The layouts of TOR entries

* `TorLayout.slices`: where the fields of an entry lie in its eight words of 96 bits; `TorEntry`: an entry
  whose fields are packed in that way, and the texts of its words;
* `divideTordumps_logged`: the text of a word is read;
* `icxVariables_eq`, `spr2Variables_eq`, `spr3Variables_eq`: the report takes the fields from where the
  layout has them, if their words were set;
* **`LayoutsAgree.torVariables_eq`**: it does so for the layout of the CPU.
-/

namespace BmcBafi

open BmcLib

/-! ## Layouts -/

/-- The layouts: of ICX, of the first two steppings of SPR, and of the others. -/
inductive TorLayout where
  | icx
  | spr1
  | spr2
  | spr3
  deriving DecidableEq, Repr

/-- The layout of a CPU, by its type and identifier. -/
def layoutOf (cpu : CpuType) (id : List Char) : TorLayout :=
  match cpu with
  | .icx => .icx
  | _ => if id = spr806f0 then .spr1 else if id = spr806f1 then .spr2 else .spr3

/-- Parts of an address: word, offset, width, and the first bit of the address. -/
def addressSlices (l : List (Fin 8 × ℕ × ℕ × ℕ)) : List (Slice TorField (Fin 8)) :=
  l.map fun ⟨k, offset, width, shift⟩ => ⟨.address, k, offset, width, shift⟩

/-- The address in the first two layouts of SPR. -/
def spr1Address : List (Slice TorField (Fin 8)) :=
  addressSlices [(0, 63, 1, 6), (0, 64, 10, 7), (1, 63, 1, 17), (1, 64, 10, 18), (2, 63, 1, 28),
    (2, 64, 10, 29), (3, 63, 1, 39), (3, 64, 10, 40), (4, 63, 1, 50), (4, 64, 1, 51)]

namespace TorLayout

/-- The slices of the fields. -/
def slices : TorLayout → List (Slice TorField (Fin 8))
  | icx =>
    [⟨.core, 3, 21, 6, 0⟩, ⟨.thread, 1, 8, 3, 0⟩, ⟨.opcode, 4, 17, 11, 0⟩, ⟨.inPipe, 0, 7, 1, 0⟩,
      ⟨.retry, 0, 5, 1, 0⟩, ⟨.fsm, 7, 33, 5, 0⟩, ⟨.lcs, 7, 3, 4, 0⟩, ⟨.target, 2, 7, 5, 0⟩,
      ⟨.sad, 2, 18, 3, 0⟩] ++
    addressSlices [(0, 61, 3, 6), (0, 64, 8, 9), (1, 61, 3, 17), (1, 64, 8, 20), (2, 61, 3, 28),
      (2, 64, 8, 31), (3, 61, 3, 39), (3, 64, 8, 42), (4, 61, 2, 50)]
  | spr1 =>
    [⟨.core, 3, 28, 3, 0⟩, ⟨.core, 4, 0, 4, 3⟩, ⟨.thread, 1, 9, 3, 0⟩, ⟨.opcode, 4, 24, 7, 0⟩,
      ⟨.opcode, 5, 0, 4, 7⟩, ⟨.inPipe, 0, 7, 1, 0⟩, ⟨.retry, 0, 3, 1, 0⟩, ⟨.fsm, 6, 36, 4, 0⟩,
      ⟨.fsm, 7, 31, 1, 4⟩, ⟨.lcs, 7, 3, 4, 0⟩, ⟨.target, 2, 7, 5, 0⟩, ⟨.sad, 2, 21, 3, 0⟩] ++
    spr1Address
  | spr2 =>
    [⟨.core, 4, 0, 7, 0⟩, ⟨.thread, 1, 9, 3, 0⟩, ⟨.opcode, 4, 27, 4, 0⟩, ⟨.opcode, 5, 0, 7, 4⟩,
      ⟨.inPipe, 0, 7, 1, 0⟩, ⟨.retry, 0, 3, 1, 0⟩, ⟨.fsm, 6, 36, 4, 0⟩, ⟨.fsm, 7, 31, 1, 4⟩,
      ⟨.lcs, 7, 6, 4, 0⟩, ⟨.target, 2, 7, 5, 0⟩, ⟨.sad, 2, 22, 3, 0⟩] ++
    spr1Address
  | spr3 =>
    [⟨.core, 4, 3, 7, 0⟩, ⟨.thread, 1, 8, 3, 0⟩, ⟨.opcode, 4, 30, 2, 0⟩, ⟨.opcode, 5, 0, 9, 2⟩,
      ⟨.inPipe, 0, 7, 1, 0⟩, ⟨.retry, 0, 3, 1, 0⟩, ⟨.fsm, 6, 37, 4, 0⟩, ⟨.fsm, 7, 32, 1, 4⟩,
      ⟨.lcs, 7, 6, 4, 0⟩, ⟨.target, 2, 5, 6, 0⟩, ⟨.sad, 2, 21, 3, 0⟩] ++
    addressSlices [(0, 64, 11, 6), (1, 64, 11, 17), (2, 64, 11, 28), (3, 64, 11, 39), (4, 64, 2, 50)]

/-- The number of bits of a field. -/
def width : TorLayout → TorField → ℕ
  | icx, .core => 6
  | _, .core => 7
  | _, .thread => 3
  | _, .opcode => 11
  | _, .address => 52
  | _, .inPipe => 1
  | _, .retry => 1
  | _, .fsm => 5
  | _, .lcs => 4
  | spr3, .target => 6
  | _, .target => 5
  | _, .sad => 3

/-- The bit of the first word that says that an entry is valid. -/
def validBit : TorLayout → ℕ
  | icx => 2
  | _ => 0

end TorLayout

/-- The lowest bit of a field. -/
def TorField.lowest : TorField → ℕ
  | address => 6
  | _ => 0

/-- The slices have all bits of the fields. -/
theorem slices_cover (L : TorLayout) (f : TorField) :
    ∀ i < L.width f, f.lowest ≤ i →
      ∃ s ∈ L.slices, s.field = f ∧ s.shift ≤ i ∧ i < s.shift + s.width := by
  cases L <;> cases f <;> decide +kernel

/-! ## Entries -/

/-- A word of 96 bits, as it is logged. -/
def Logged (s : List Char) (n : ℕ) : Prop :=
  ∃ l : List Char, s = '0' :: 'x' :: l ∧ l.all isHexDigit = true ∧ ofHex l = n

/-- A word that was not read, as it is logged. -/
def Unavailable (s : List Char) : Prop := ['N', '/', 'A'] <+: s ∨ ['U', 'A'] <+: s

/-- A valid entry: its fields, the words in which they are packed, and the texts of the words. A word that
is not available counts as 0. -/
structure TorEntry (L : TorLayout) where
  field : TorField → ℕ
  value : Fin 8 → ℕ
  text : Fin 8 → List Char
  field_lt : ∀ f, field f < 2 ^ L.width f
  lowest_dvd : ∀ f : TorField, 2 ^ f.lowest ∣ field f
  packed : Packed L.slices field value
  value_lt : ∀ k, value k < 2 ^ 96
  texts : ∀ k, Logged (text k) (value k) ∨ Unavailable (text k) ∧ value k = 0
  valid : (value 0).testBit L.validBit = true

variable {L : TorLayout}

theorem TorEntry.within (e : TorEntry L) : Within L.slices e.field := by
  intro f i hbit
  refine slices_cover L f i ?_ ?_
  · by_contra hge
    have hlt : e.field f < 2 ^ i :=
      lt_of_lt_of_le (e.field_lt f) (Nat.pow_le_pow_right (by decide) (not_lt.1 hge))
    rw [Nat.testBit_lt_two_pow hlt] at hbit
    exact absurd hbit (by decide)
  · by_contra hlt
    obtain ⟨m, hm⟩ := e.lowest_dvd f
    rw [hm, Nat.testBit_two_pow_mul, decide_eq_false hlt, Bool.false_and] at hbit
    exact Bool.false_ne_true hbit

/-- The three numbers of a word together. -/
def tordumpNat (w : Fin 3 → UInt32) : ℕ := (w 0).toNat + 2 ^ 32 * ((w 1).toNat + 2 ^ 32 * (w 2).toNat)

theorem bits_tordumpNat (w : Fin 3 → UInt32) (d : Fin 3) :
    bits (tordumpNat w) (32 * d.val) 32 = (w d).toNat := by
  have hself : ∀ x : UInt32, bits x.toNat 0 32 = x.toNat := fun x => by
    rw [bits, pow_zero, Nat.div_one, Nat.mod_eq_of_lt x.toNat_lt]
  have hd : d = 0 ∨ d = 1 ∨ d = 2 := by omega
  rcases hd with rfl | rfl | rfl
  · rw [tordumpNat, bits_add_lower _ _ _ _ _ (by decide)]
    exact hself _
  · change bits _ (32 + 0) 32 = _
    rw [tordumpNat, bits_add_upper (w 0).toNat_lt, bits_add_lower _ _ _ _ _ (by decide), hself]
  · change bits _ (32 + (32 + 0)) 32 = _
    rw [tordumpNat, bits_add_upper (w 0).toNat_lt, bits_add_upper (w 1).toNat_lt]
    exact hself _

/-! ## Reading the texts -/

/-- A number of three words. -/
theorem tordumpNat_bits {n : ℕ} (hn : n < 2 ^ 96) (w : Fin 3 → UInt32)
    (hw : ∀ d : Fin 3, (w d).toNat = bits n (32 * d.val) 32) : tordumpNat w = n := by
  rw [tordumpNat, hw, hw, hw]
  change n / 1 % 2 ^ 32 + 2 ^ 32 * (n / 2 ^ 32 % 2 ^ 32 + 2 ^ 32 * (n / 2 ^ 64 % 2 ^ 32)) = n
  omega

/-- Eight digits, from the end of a number. -/
theorem tordump_digits {p : List Char} (hall : p.all isHexDigit = true) {d : Fin 3}
    (hlen : 8 * (d.val + 1) ≤ p.length) :
    (tordump p d).length = 8 ∧ (tordump p d).all isHexDigit = true ∧
      ofHex (tordump p d) = bits (ofHex p) (32 * d.val) 32 := by
  have hdigits : ∀ l : List Char, l <:+: p → l.all isHexDigit = true := fun l hl =>
    List.all_eq_true.2 fun c hc => List.all_eq_true.1 hall c (hl.subset hc)
  have hlength : (tordump p d).length = 8 := by
    rw [tordump, List.length_take, List.length_drop]
    omega
  have hsub : tordump p d <:+: p :=
    (List.take_prefix _ _).isInfix.trans (List.drop_suffix _ _).isInfix
  refine ⟨hlength, hdigits _ hsub, ?_⟩
  have hp : p = p.take (p.length - 8 * (d.val + 1)) ++
      (tordump p d ++ (p.drop (p.length - 8 * (d.val + 1))).drop 8) := by
    rw [tordump, List.take_append_drop, List.take_append_drop]
  have hrest : ((p.drop (p.length - 8 * (d.val + 1))).drop 8).length = 8 * d.val := by
    rw [List.length_drop, List.length_drop]
    omega
  have hmiddle := ofHex_middle (p.take (p.length - 8 * (d.val + 1))) (hdigits _ hsub)
    (hdigits ((p.drop (p.length - 8 * (d.val + 1))).drop 8)
      ((List.drop_suffix _ _).isInfix.trans (List.drop_suffix _ _).isInfix))
  rw [← hp, hrest, hlength, Nat.pow_mul] at hmiddle
  rw [← hmiddle, bits, Nat.pow_mul]
  norm_num

/-- **Texts of words.** A logged word is read as its three parts. -/
theorem divideTordumps_logged {s : List Char} {n : ℕ} (hs : Logged s n) (hn : n < 2 ^ 96)
    (old : Fin 3 → UInt32) : ∃ w, divideTordumps old s = some w ∧ tordumpNat w = n := by
  obtain ⟨l, rfl, hall, rfl⟩ := hs
  have hpad : padTordump ('0' :: 'x' :: l) =
      '0' :: 'x' :: (List.replicate (24 - l.length) '0' ++ l) := by
    have hlen : 26 - ('0' :: 'x' :: l).length = 24 - l.length := by
      rw [List.length_cons, List.length_cons]
      omega
    rw [padTordump, hlen]
    rfl
  have hzeros : (List.replicate (24 - l.length) '0').all isHexDigit = true := by
    rw [List.all_eq_true]
    intro c hc
    rw [List.eq_of_mem_replicate hc]
    rfl
  generalize hp : List.replicate (24 - l.length) '0' ++ l = p at hpad
  have hallp : p.all isHexDigit = true := by
    rw [← hp, List.all_append, hzeros, hall]
    rfl
  have hvalue : ofHex p = ofHex l := by rw [← hp, ofHex_zeros_append]
  have hlength : 24 ≤ p.length := by
    rw [← hp, List.length_append, List.length_replicate]
    omega
  have hpiece : ∀ d : Fin 3, tordump ('0' :: 'x' :: p) d = tordump p d := by
    intro d
    have hd := d.isLt
    rw [tordump, tordump, List.length_cons, List.length_cons,
      show p.length + 1 + 1 - 8 * (d.val + 1) = p.length - 8 * (d.val + 1) + 1 + 1 by omega,
      List.drop_succ_cons, List.drop_succ_cons]
  have hread : ∀ d : Fin 3, str2uint (tordump (padTordump ('0' :: 'x' :: l)) d) (old d) =
      (true, UInt32.ofNat (bits (ofHex l) (32 * d.val) 32)) := by
    intro d
    have hd := d.isLt
    obtain ⟨h8, hdigits, hval⟩ := tordump_digits hallp (d := d) (by omega)
    rw [hvalue] at hval
    rw [hpad, hpiece, str2uint, stoull_hex (List.ne_nil_of_length_pos (by omega)) hdigits, hval]
    rw [hval]
    exact lt_of_lt_of_le (bits_lt _ _ _) (by decide)
  refine ⟨fun d => UInt32.ofNat (bits (ofHex l) (32 * d.val) 32), ?_, ?_⟩
  · rw [divideTordumps, if_neg (by rw [List.length_cons, List.length_cons]; omega)]
    simp only [hread, implies_true, if_true]
  · refine tordumpNat_bits hn _ fun d => ?_
    exact UInt32.toNat_ofNat_of_lt (bits_lt _ _ _)

theorem length_unavailable {s : List Char} (h : Unavailable s) : 2 ≤ s.length := by
  rcases h with h | h
  · exact le_trans (by decide) h.length_le
  · exact h.length_le

/-- A text that is not too short is read. -/
theorem divideTordumps_isSome {s : List Char} (h : 2 ≤ s.length) (old : Fin 3 → UInt32) :
    ∃ w, divideTordumps old s = some w := by
  rw [divideTordumps, if_neg (not_lt.2 h)]
  exact ⟨_, rfl⟩

/-! ## The words of an entry -/

/-- The words of some sub-indices are set. -/
def TORDataGeneric.assignAll (t : TORDataGeneric) (g : TorGroup) (ks : List (Fin 8))
    (w : Fin 8 → Fin 3 → UInt32) : TORDataGeneric where
  word n := if n.subindex ∈ ks ∧ n.group = g then w n.subindex n.dump else t.word n

theorem readSubindices_eq {g : TorGroup} {old : Fin 8 → Fin 3 → UInt32} {text : Fin 8 → List Char}
    {w : Fin 8 → Fin 3 → UInt32} (h : ∀ k, divideTordumps (old k) (text k) = some (w k))
    (ks : List (Fin 8)) (t : TORDataGeneric) :
    readSubindices g old (fun k => some (text k)) ks t = some (t.assignAll g ks w) := by
  unfold readSubindices
  induction ks generalizing t with
  | nil =>
    refine congrArg some (congrArg TORDataGeneric.mk (funext fun n => ?_))
    exact (if_neg fun h => List.not_mem_nil h.1).symm
  | cons k ks ih =>
    rw [List.foldlM_cons, Option.bind_some, h, Option.map_some]
    refine (ih _).trans (congrArg some (congrArg TORDataGeneric.mk (funext fun n => ?_)))
    show (if n.subindex ∈ ks ∧ n.group = g then w n.subindex n.dump
      else if n.subindex = k ∧ n.group = g then w k n.dump else t.word n) =
      if n.subindex ∈ k :: ks ∧ n.group = g then w n.subindex n.dump else t.word n
    by_cases hks : n.subindex ∈ ks ∧ n.group = g
    · rw [if_pos hks, if_pos ⟨List.mem_cons_of_mem _ hks.1, hks.2⟩]
    · rw [if_neg hks]
      by_cases hk : n.subindex = k ∧ n.group = g
      · rw [if_pos hk, if_pos ⟨List.mem_cons.2 (.inl hk.1), hk.2⟩, hk.1]
      · rw [if_neg hk, if_neg fun h => (List.mem_cons.1 h.1).elim (fun h' => hk ⟨h', h.2⟩)
          fun h' => hks ⟨h', h.2⟩]

/-- Copied words, and the words that stay. -/
theorem foldl_copy (ns : List Tordump) (hns : ∀ n ∈ ns, n.group ≠ .spr1) (t : TORDataGeneric)
    (n : Tordump) : (ns.foldl TORDataGeneric.copy t).word n =
      if n ∈ ns then t.word ⟨n.dump, n.subindex, .spr1⟩ else t.word n := by
  induction ns generalizing t with
  | nil => exact (if_neg List.not_mem_nil).symm
  | cons m ns ih =>
    have hcopy : ∀ n : Tordump, n.group = .spr1 → (t.copy m).word n = t.word n := by
      intro n hn
      refine if_neg fun h => hns m List.mem_cons_self ?_
      rw [← h, hn]
    rw [List.foldl_cons, ih (fun n hn => hns n (List.mem_cons_of_mem _ hn)), hcopy _ rfl]
    by_cases hmem : n ∈ ns
    · rw [if_pos hmem, if_pos (List.mem_cons_of_mem _ hmem)]
    · rw [if_neg hmem]
      by_cases hm : n = m
      · rw [if_pos (List.mem_cons.2 (.inl hm)), hm]
        exact if_pos rfl
      · rw [if_neg fun h => (List.mem_cons.1 h).elim hm hmem]
        exact if_neg hm

theorem sprCopies_group (id : List Char) : ∀ n ∈ sprCopies id, n.group ≠ .spr1 := by
  unfold sprCopies
  split_ifs <;> decide

namespace TORDataGeneric

/-- A word of the entry is the one that was read. -/
def Holds (t : TORDataGeneric) (w : Fin 8 → Fin 3 → UInt32) (n : Tordump) : Prop :=
  t.word n = w n.subindex n.dump

variable {t : TORDataGeneric} {w : Fin 8 → Fin 3 → UInt32}

/-- A field of such a word is a slice. -/
theorem Holds.get_eq {d : Fin 3} {k : Fin 8} {g : TorGroup} (h : t.Holds w ⟨d, k, g⟩) {o n : ℕ}
    (hn : o + n ≤ 32) :
    t.get d k g o n = bits (tordumpNat (w k)) (32 * d.val + o) n := by
  rw [get, show t.word ⟨d, k, g⟩ = w k d from h, ← bits_tordumpNat, bits_bits _ _ _ _ _ hn]

end TORDataGeneric

/-- The report takes the fields from where the layout has them. -/
theorem icxVariables_eq {t : TORDataGeneric} {w : Fin 8 → Fin 3 → UInt32}
    (h : ∀ d, ∀ k ∈ [0, 1, 2, 3, 4, 7], t.Holds w ⟨d, k, .icx⟩) (f : TorField) :
    t.icxVariables f = join TorLayout.icx.slices f fun k => tordumpNat (w k) := by
  have hget : ∀ d k o n, k ∈ [0, 1, 2, 3, 4, 7] → o + n ≤ 32 →
      t.get d k .icx o n = bits (tordumpNat (w k)) (32 * d.val + o) n :=
    fun d k o n hk hn => (h d k hk).get_eq hn
  cases f <;>
    simp (disch := decide) [TORDataGeneric.icxVariables, hget, join, TorLayout.slices,
      addressSlices, Slice.read, Nat.or_assoc]

theorem spr2Variables_eq {t : TORDataGeneric} {w : Fin 8 → Fin 3 → UInt32}
    (h : ∀ n, n ∈ sprCopies spr806f1 ∨ n.group = .spr1 → t.Holds w n) (f : TorField) :
    t.spr2Variables f = join TorLayout.spr2.slices f fun k => tordumpNat (w k) := by
  have hget : ∀ d k g o n, (⟨d, k, g⟩ : Tordump) ∈ sprCopies spr806f1 ∨ g = .spr1 → o + n ≤ 32 →
      t.get d k g o n = bits (tordumpNat (w k)) (32 * d.val + o) n :=
    fun d k g o n hn ho => (h _ hn).get_eq ho
  cases f <;>
    simp (disch := decide) [TORDataGeneric.spr2Variables, TORDataGeneric.addressSpr1, hget, join,
      TorLayout.slices, spr1Address, addressSlices, Slice.read, Nat.or_assoc]

theorem spr3Variables_eq {t : TORDataGeneric} {w : Fin 8 → Fin 3 → UInt32}
    (h : ∀ n, n ∈ sprCopies [] ∨ n.group = .spr1 → t.Holds w n) (f : TorField) :
    t.spr3Variables f = join TorLayout.spr3.slices f fun k => tordumpNat (w k) := by
  have hget : ∀ d k g o n, (⟨d, k, g⟩ : Tordump) ∈ sprCopies [] ∨ g = .spr1 → o + n ≤ 32 →
      t.get d k g o n = bits (tordumpNat (w k)) (32 * d.val + o) n :=
    fun d k g o n hn ho => (h _ hn).get_eq ho
  cases f <;>
    simp (disch := decide) [TORDataGeneric.spr3Variables, hget, join, TorLayout.slices, addressSlices,
      Slice.read, Nat.or_assoc]

/-- The words of an entry once it is parsed, from the words that were read. -/
def parsed (cpu : CpuType) (cpuId : Option (List Char)) (stack : TORDataGeneric)
    (w : Fin 8 → Fin 3 → UInt32) : TORDataGeneric :=
  match cpu with
  | .icx => (stack.assignAll .icx [0] w).assignAll .icx [1, 2, 3, 4, 7] w
  | _ => (sprCopies (cpuId.getD [])).foldl TORDataGeneric.copy
      ((stack.assignAll .spr1 [0] w).assignAll .spr1 [1, 2, 3, 4, 5, 6, 7] w)

theorem holds_parsed_icx (cpuId : Option (List Char)) (stack : TORDataGeneric)
    (w : Fin 8 → Fin 3 → UInt32) (d : Fin 3) : ∀ k ∈ [0, 1, 2, 3, 4, 7],
      (parsed .icx cpuId stack w).Holds w ⟨d, k, .icx⟩ := by
  intro k hk
  show (if k ∈ [1, 2, 3, 4, 7] ∧ TorGroup.icx = .icx then w k d
    else if k ∈ [0] ∧ TorGroup.icx = .icx then w k d else stack.word ⟨d, k, .icx⟩) = w k d
  rcases List.mem_cons.1 hk with h0 | hk
  · rw [if_pos (c := k ∈ [0] ∧ TorGroup.icx = .icx) ⟨List.mem_singleton.2 h0, rfl⟩, ite_self]
  · rw [if_pos ⟨hk, rfl⟩]

/-- Of the words of SPR, those that are read or copied hold what was read, and the others are not set. -/
theorem word_parsed_spr {cpu : CpuType} (hcpu : cpu ≠ .icx) (cpuId : Option (List Char))
    (stack : TORDataGeneric) (w : Fin 8 → Fin 3 → UInt32) (n : Tordump) :
    (parsed cpu cpuId stack w).word n =
      if n ∈ sprCopies (cpuId.getD []) ∨ n.group = .spr1 then w n.subindex n.dump else stack.word n := by
  have hread : ∀ n : Tordump,
      ((stack.assignAll .spr1 [0] w).assignAll .spr1 [1, 2, 3, 4, 5, 6, 7] w).word n =
        if n.group = .spr1 then w n.subindex n.dump else stack.word n := by
    intro n
    show (if n.subindex ∈ [1, 2, 3, 4, 5, 6, 7] ∧ n.group = .spr1 then w n.subindex n.dump
      else if n.subindex ∈ [0] ∧ n.group = .spr1 then w n.subindex n.dump else stack.word n) = _
    by_cases hg : n.group = .spr1
    · have hall : ∀ k : Fin 8, k ∉ [1, 2, 3, 4, 5, 6, 7] → k ∈ [0] := by decide
      rw [if_pos hg]
      by_cases hk : n.subindex ∈ [1, 2, 3, 4, 5, 6, 7]
      · rw [if_pos ⟨hk, hg⟩]
      · rw [if_neg fun h => hk h.1, if_pos ⟨hall _ hk, hg⟩]
    · rw [if_neg fun h => hg h.2, if_neg fun h => hg h.2, if_neg hg]
  have hparsed : parsed cpu cpuId stack w = (sprCopies (cpuId.getD [])).foldl TORDataGeneric.copy
      ((stack.assignAll .spr1 [0] w).assignAll .spr1 [1, 2, 3, 4, 5, 6, 7] w) := by
    cases cpu with
    | icx => exact absurd rfl hcpu
    | spr => rfl
    | sprHbm => rfl
  rw [hparsed, foldl_copy _ (sprCopies_group _), hread, hread, if_pos rfl]
  by_cases hmem : n ∈ sprCopies (cpuId.getD [])
  · rw [if_pos hmem, if_pos (.inl hmem)]
  · rw [if_neg hmem]
    by_cases hg : n.group = .spr1
    · rw [if_pos hg, if_pos (.inr hg)]
    · rw [if_neg hg, if_neg (not_or.2 ⟨hmem, hg⟩)]

/-! ## The report -/

/-- The report uses the layout with which the entry was parsed, and every word that it uses was set. -/
def LayoutsAgree (cpu : CpuType) (cpuId : Option (List Char)) : Prop :=
  cpu = .icx ∨ cpuId ≠ some spr806f0 ∧ (cpu = .sprHbm → cpuId ≠ some spr806f1)

/-- If the layouts agree, then the report has the fields of the layout. -/
theorem LayoutsAgree.torVariables_eq {cpu : CpuType} {cpuId : Option (List Char)}
    (h : LayoutsAgree cpu cpuId) (stack : TORDataGeneric) (w : Fin 8 → Fin 3 → UInt32) (f : TorField) :
    torVariables cpu (reportId cpu cpuId) (parsed cpu cpuId stack w) f =
      join (layoutOf cpu (cpuId.getD [])).slices f fun k => tordumpNat (w k) := by
  by_cases hcpu : cpu = .icx
  · subst hcpu
    exact icxVariables_eq (fun d => holds_parsed_icx cpuId stack w d) f
  obtain ⟨h0, h1⟩ := h.resolve_left hcpu
  have hid0 : cpuId.getD [] ≠ spr806f0 := by
    cases cpuId with
    | none => decide
    | some id => exact fun h => h0 (congrArg some h)
  have hholds : ∀ n, n ∈ sprCopies (cpuId.getD []) ∨ n.group = .spr1 →
      (parsed cpu cpuId stack w).Holds w n := fun n hn => by
    rw [TORDataGeneric.Holds, word_parsed_spr hcpu, if_pos hn]
  have hlayout : layoutOf cpu (cpuId.getD []) =
      if cpuId.getD [] = spr806f1 then .spr2 else .spr3 := by
    cases cpu with
    | icx => exact absurd rfl hcpu
    | spr => exact if_neg hid0
    | sprHbm => exact if_neg hid0
  have hvariables : ∀ id t, id ≠ spr806f0 → torVariables cpu id t =
      if id = spr806f1 then t.spr2Variables else t.spr3Variables := by
    intro id t hid
    cases cpu with
    | icx => exact absurd rfl hcpu
    | spr => exact if_neg hid
    | sprHbm => exact if_neg hid
  have hreport : reportId cpu cpuId ≠ spr806f0 ∧
      (reportId cpu cpuId = spr806f1 ↔ cpuId.getD [] = spr806f1) := by
    cases cpu with
    | icx => exact absurd rfl hcpu
    | spr => exact ⟨hid0, Iff.rfl⟩
    | sprHbm =>
      have hnone : reportId .sprHbm cpuId = [] := rfl
      rw [hnone]
      refine ⟨by decide, iff_of_false (by decide) ?_⟩
      cases cpuId with
      | none => decide
      | some id => exact fun h => h1 rfl (congrArg some h)
  rw [hlayout, hvariables _ _ hreport.1]
  by_cases hid1 : cpuId.getD [] = spr806f1
  · rw [if_pos (hreport.2.2 hid1), if_pos hid1]
    rw [hid1] at hholds
    exact spr2Variables_eq hholds f
  · rw [if_neg (mt hreport.2.1 hid1), if_neg hid1]
    have hcopies : sprCopies (cpuId.getD []) = sprCopies [] := by
      rw [sprCopies, if_neg hid0, if_neg hid1]
      rfl
    rw [hcopies] at hholds
    exact spr3Variables_eq hholds f

end BmcBafi
