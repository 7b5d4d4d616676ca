import Bmc.Lib.WordBits

/-!
# The bit reader of the video decoder

`decode.c` reads the compressed words through a look-ahead word and a word of buffered bits.

* `advance`: the body of `skipKbits` and `updatereadbuf`; `getKbits`: a value of some bits;
* `streamBit`, `nextBits`: the buffer as a stream of bits;
* `Window`: what the two words hold at a position of the stream; `Window.advance`: the step;
* `Window.getKbits`: the value that is read;
* **`reader_window`**: the words stay where they should be in every run within the buffer.
-/

namespace BmcVnc

open BmcLib

/-! ## The functions -/

/-- The shift `x << n`; C leaves other amounts open. -/
def shl (x : UInt32) (n : ℤ) : Option UInt32 :=
  if 0 ≤ n ∧ n < 32 then some (x <<< UInt32.ofNat n.toNat) else none

/-- The shift `x >> n`. -/
def shr (x : UInt32) (n : ℤ) : Option UInt32 :=
  if 0 ≤ n ∧ n < 32 then some (x >>> UInt32.ofNat n.toNat) else none

/-- `codebuf`, `newbuf`, `_index` and `newbits`, with an `unsigned long` of 32 bits. -/
structure ReadState where
  codebuf : UInt32
  newbuf : UInt32
  index : ℕ
  newbits : ℤ
  deriving DecidableEq, Repr

variable (Buffer : List UInt32)

/-- The reader at the start of the buffer. -/
def ReadState.start : Option ReadState := do
  let codebuf ← Buffer[0]?
  let newbuf ← Buffer[1]?
  return ⟨codebuf, newbuf, 2, 32⟩

/-- The body of `skipKbits` and of `updatereadbuf`. There is no result when it reads outside the buffer
or shifts by a word. -/
def advance (k : ℤ) (s : ReadState) : Option ReadState := do
  if s.newbits - k ≤ 0 then
    let readbuf ← Buffer[s.index]?
    let code ← shl s.codebuf k
    let rest ← shr readbuf s.newbits
    let next ← shr (s.newbuf ||| rest) (32 - k)
    let newbuf ← shl readbuf (k - s.newbits)
    return ⟨code ||| next, newbuf, s.index + 1, 32 + s.newbits - k⟩
  else
    let code ← shl s.codebuf k
    let next ← shr s.newbuf (32 - k)
    let newbuf ← shl s.newbuf k
    return ⟨code ||| next, newbuf, s.index, s.newbits - k⟩

/-- `skipKbits`. -/
def skipKbits (k : UInt8) : ReadState → Option ReadState := advance Buffer k.toNat

/-- `updatereadbuf`. -/
def updatereadbuf (walks : ℤ) : ReadState → Option ReadState := advance Buffer walks

/-- `lookKbits`, a `WORD`. -/
def lookKbits (k : UInt8) (s : ReadState) : Option UInt16 := do
  let code ← shr s.codebuf (32 - k.toNat)
  return code.toUInt16

/-- The table `neg_pow2` of 17 shorts. -/
def negPow2 (k : ℕ) : Option Int16 :=
  if k = 0 then some 0 else if k < 17 then some (Int16.ofInt (1 - 2 ^ k)) else none

/-- `getKbits`. The bit that is tested is one of a `long`. -/
def getKbits (k : UInt8) (s : ReadState) : Option (Int16 × ReadState) := do
  let word ← lookKbits k s
  let bit ← shl 1 (k.toNat - 1)
  let value ← if bit &&& word.toInt16.toInt32.toUInt32 = 0 then (word.toInt16 + ·) <$> negPow2 k.toNat
    else some word.toInt16
  let s' ← skipKbits Buffer k s
  return (value, s')

/-- A call of the reader that returns nothing. -/
inductive ReadOp where
  | skipKbits (k : UInt8)
  | updatereadbuf (walks : ℤ)
  deriving DecidableEq, Repr

/-- The bits that a call consumes. -/
def ReadOp.count : ReadOp → ℤ
  | skipKbits k => k.toNat
  | updatereadbuf walks => walks

/-- The effect of a call. -/
def ReadOp.run : ReadOp → ReadState → Option ReadState
  | skipKbits k => BmcVnc.skipKbits Buffer k
  | updatereadbuf walks => BmcVnc.updatereadbuf Buffer walks

/-- The calls, one after the other, from a state on. -/
def runFrom : List ReadOp → ReadState → Option ReadState
  | [], s => some s
  | op :: ops, s => op.run Buffer s >>= runFrom ops

/-- The calls from the start of the buffer. -/
def runReader (ops : List ReadOp) : Option ReadState := ReadState.start Buffer >>= runFrom Buffer ops

/-- The bits that the calls consume. -/
def consumed (ops : List ReadOp) : ℕ := (ops.map fun op => op.count.toNat).sum

/-! ## The stream -/

/-- Bit `p` of the buffer, from the highest bit of its first word on. -/
def streamBit (p : ℕ) : Bool := wordBit (Buffer.getD (p / 32) 0) (31 - p % 32)

/-- The number that `k` bits from `p` on are. -/
def nextBits (p : ℕ) : ℕ → ℕ
  | 0 => 0
  | k + 1 => Nat.bit (streamBit Buffer (p + k)) (nextBits p k)

/-- The value of `k` bits of a JPEG coefficient: those that start with 0 are negative. -/
def extend (k v : ℕ) : ℤ := if v < 2 ^ (k - 1) then v - 2 ^ k + 1 else v

/-- The reader is at position `p`: the look-ahead word holds the next bits, `newbuf` the ones behind them
at its top, and the words from `index` on are not read yet. -/
structure Window (p : ℕ) (s : ReadState) : Prop where
  one_le : 1 ≤ s.newbits
  le_word : s.newbits ≤ 32
  index_eq : 32 * (s.index : ℤ) = p + 32 + s.newbits
  code : ∀ i < 32, wordBit s.codebuf i = streamBit Buffer (p + 31 - i)
  buffered : ∀ i < 32, wordBit s.newbuf i = (decide (32 ≤ i + s.newbits) && streamBit Buffer (p + 63 - i))

/-! ## Shifts -/

variable {Buffer}

theorem shl_eq (x : UInt32) {n : ℤ} (h0 : 0 ≤ n) (h : n < 32) : ∃ y, shl x n = some y ∧
    ∀ i < 32, wordBit y i = (decide (n ≤ i) && wordBit x (i - n.toNat)) := by
  have hn : (UInt32.ofNat n.toNat).toNat = n.toNat := UInt32.toNat_ofNat_of_lt' (by rw [UInt32.size]; omega)
  refine ⟨_, if_pos ⟨h0, h⟩, fun i hi => ?_⟩
  rw [wordBit_shiftLeft _ _ _ (UInt32.lt_iff_toNat_lt.2 (by rw [hn]; exact (by omega : n.toNat < 32))), hn,
    decide_eq_true hi, Bool.true_and]
  exact congrArg (· && _) (decide_eq_decide.2 (by omega))

theorem shr_eq (x : UInt32) {n : ℤ} (h0 : 0 ≤ n) (h : n < 32) : ∃ y, shr x n = some y ∧
    ∀ i, wordBit y i = wordBit x (n.toNat + i) := by
  have hn : (UInt32.ofNat n.toNat).toNat = n.toNat := UInt32.toNat_ofNat_of_lt' (by rw [UInt32.size]; omega)
  refine ⟨_, if_pos ⟨h0, h⟩, fun i => ?_⟩
  rw [wordBit_shiftRight _ _ _ (UInt32.lt_iff_toNat_lt.2 (by rw [hn]; exact (by omega : n.toNat < 32))), hn]

/-! ## One step -/

/-- A bit of a word of the buffer. -/
theorem streamBit_word {j : ℕ} {w : UInt32} (hw : Buffer[j]? = some w) {i p : ℕ} (hi : i < 32)
    (hp : p = 32 * j + (31 - i)) : streamBit Buffer p = wordBit w i := by
  have hdiv : p / 32 = j := by omega
  have hmod : 31 - p % 32 = i := by omega
  rw [streamBit, hdiv, hmod, List.getD_eq_getElem?_getD, hw, Option.getD_some]

theorem Window.start {s : ReadState} (h : ReadState.start Buffer = some s) : Window Buffer 0 s := by
  rw [ReadState.start] at h
  obtain ⟨w0, h0, h⟩ := Option.bind_eq_some_iff.1 h
  obtain ⟨w1, h1, h⟩ := Option.bind_eq_some_iff.1 h
  cases Option.some.inj h
  refine ⟨by norm_num, by norm_num, rfl, fun i hi => ?_, fun i hi => ?_⟩
  · exact (streamBit_word h0 hi (by omega)).symm
  · rw [decide_eq_true (by dsimp only; omega), Bool.true_and]
    exact (streamBit_word h1 hi (by omega)).symm

/-- Bits that leave the buffered word behind. -/
theorem Window.advance_of_lt {p : ℕ} {s : ReadState} (hs : Window Buffer p s) {k : ℕ} (hk : 1 ≤ k)
    (hlt : (k : ℤ) < s.newbits) : ∃ s', advance Buffer k s = some s' ∧ Window Buffer (p + k) s' := by
  have hle := hs.le_word
  obtain ⟨code, hcode, codeBit⟩ := shl_eq s.codebuf (n := k) (by omega) (by omega)
  obtain ⟨next, hnext, nextBit⟩ := shr_eq s.newbuf (n := 32 - k) (by omega) (by omega)
  obtain ⟨newbuf, hnew, newBit⟩ := shl_eq s.newbuf (n := k) (by omega) (by omega)
  refine ⟨⟨code ||| next, newbuf, s.index, s.newbits - k⟩, ?_, by simp only; omega, by simp only; omega,
    by have := hs.index_eq; simp only; omega, fun i hi => ?_, fun i hi => ?_⟩
  · rw [advance, if_neg (by omega), hcode, hnext, hnew]
    rfl
  · rw [wordBit_or, codeBit i hi, nextBit]
    by_cases hki : k ≤ i
    · rw [decide_eq_true (by omega), Bool.true_and, hs.code _ (by omega), wordBit_of_ge _ _ (by omega), Bool.or_false]
      congr 1
      omega
    · rw [decide_eq_false (by omega), Bool.false_and, Bool.false_or, hs.buffered _ (by omega), decide_eq_true (by omega),
        Bool.true_and]
      congr 1
      omega
  · dsimp only
    rw [newBit i hi]
    by_cases hki : k ≤ i
    · rw [decide_eq_true (by omega), Bool.true_and, hs.buffered _ (by omega)]
      congr 1
      · exact decide_eq_decide.2 (by omega)
      · congr 1
        omega
    · rw [decide_eq_false (by omega), decide_eq_false (by omega), Bool.false_and, Bool.false_and]

/-- The next word is fetched: what the buffered word lacks comes from its top. -/
theorem Window.advance_of_ge {p : ℕ} {s : ReadState} (hs : Window Buffer p s) {k : ℕ} (hk : k < 32)
    (hge : s.newbits ≤ k) (hin : s.index < Buffer.length) :
    ∃ s', advance Buffer k s = some s' ∧ Window Buffer (p + k) s' := by
  have hone := hs.one_le
  have hindex := hs.index_eq
  have hword : Buffer[s.index]? = some (Buffer.get ⟨s.index, hin⟩) := List.getElem?_eq_getElem hin
  obtain ⟨code, hcode, codeBit⟩ := shl_eq s.codebuf (n := k) (by omega) (by omega)
  obtain ⟨rest, hrest, restBit⟩ := shr_eq (Buffer.get ⟨s.index, hin⟩) (n := s.newbits) (by omega) (by omega)
  obtain ⟨next, hnext, nextBit⟩ := shr_eq (s.newbuf ||| rest) (n := 32 - k) (by omega) (by omega)
  obtain ⟨newbuf, hnew, newBit⟩ := shl_eq (Buffer.get ⟨s.index, hin⟩) (n := k - s.newbits) (by omega) (by omega)
  refine ⟨⟨code ||| next, newbuf, s.index + 1, 32 + s.newbits - k⟩, ?_, by simp only; omega, by simp only; omega,
    by push_cast; omega, fun i hi => ?_, fun i hi => ?_⟩
  · rw [advance, if_pos (by omega), hword]
    simp only [hcode, hrest, hnext, hnew, Option.bind_eq_bind, Option.bind_some, Option.pure_def]
  · rw [wordBit_or, codeBit i hi, nextBit, wordBit_or, restBit]
    by_cases hki : k ≤ i
    · rw [decide_eq_true (by omega), Bool.true_and, hs.code _ (by omega), wordBit_of_ge _ _ (by omega),
        wordBit_of_ge _ _ (by omega), Bool.or_false, Bool.or_false]
      congr 1
      omega
    · rw [decide_eq_false (by omega), Bool.false_and, Bool.false_or, hs.buffered _ (by omega)]
      -- the bit is in the buffered word, or it is one of the word that is fetched
      by_cases hnew : (32 : ℤ) ≤ ((32 - k : ℤ).toNat + i : ℕ) + s.newbits
      · rw [decide_eq_true hnew, Bool.true_and, wordBit_of_ge _ _ (by omega), Bool.or_false]
        congr 1
        omega
      · rw [decide_eq_false hnew, Bool.false_and, Bool.false_or]
        exact (streamBit_word hword (by omega) (by omega)).symm
  · dsimp only
    rw [newBit i hi]
    by_cases hki : (k : ℤ) - s.newbits ≤ i
    · rw [decide_eq_true hki, decide_eq_true (by omega), Bool.true_and, Bool.true_and]
      exact (streamBit_word hword (by omega) (by omega)).symm
    · rw [decide_eq_false hki, decide_eq_false (by omega), Bool.false_and, Bool.false_and]

/-- **A step.** Fewer than 32 bits are consumed, and what is fetched is in the buffer. -/
theorem Window.advance {p : ℕ} {s : ReadState} (hs : Window Buffer p s) {k : ℕ} (hk : 1 ≤ k) (hk' : k < 32)
    (hin : (p + k) / 32 + 2 ≤ Buffer.length) :
    ∃ s', advance Buffer k s = some s' ∧ Window Buffer (p + k) s' := by
  have hindex := hs.index_eq
  rcases lt_or_ge (k : ℤ) s.newbits with hlt | hge
  · exact hs.advance_of_lt hk hlt
  · exact hs.advance_of_ge hk' hge (by omega)

/-! ## The values -/

theorem testBit_nextBits (p k i : ℕ) :
    (nextBits Buffer p k).testBit i = (decide (i < k) && streamBit Buffer (p + (k - 1 - i))) := by
  induction k generalizing i with
  | zero => rw [nextBits, Nat.zero_testBit, decide_eq_false (Nat.not_lt_zero i), Bool.false_and]
  | succ k ih =>
    rw [nextBits]
    cases i with
    | zero => rw [Nat.testBit_bit_zero, decide_eq_true (Nat.succ_pos k), Bool.true_and, Nat.add_sub_cancel, Nat.sub_zero]
    | succ i =>
      rw [Nat.testBit_bit_succ, ih, decide_eq_decide.2 (Nat.succ_lt_succ_iff (a := i) (b := k)).symm]
      congr 2
      omega

theorem nextBits_lt (p k : ℕ) : nextBits Buffer p k < 2 ^ k :=
  Nat.lt_pow_two_of_testBit _ fun i hi => by
    rw [testBit_nextBits, decide_eq_false (Nat.not_lt.2 hi), Bool.false_and]

/-- The top of the look-ahead word. -/
theorem Window.toNat_codebuf {p : ℕ} {s : ReadState} (hs : Window Buffer p s) {k : ℕ} (hk : k ≤ 32) :
    s.codebuf.toNat >>> (32 - k) = nextBits Buffer p k := by
  refine Nat.eq_of_testBit_eq fun i => ?_
  rw [Nat.testBit_shiftRight, testBit_nextBits]
  change wordBit s.codebuf _ = _
  by_cases hi : i < k
  · rw [hs.code _ (by omega), decide_eq_true hi, Bool.true_and]
    congr 1
    omega
  · rw [wordBit_of_ge _ _ (by omega), decide_eq_false hi, Bool.false_and]

/-- The word that `lookKbits` returns, for at most 16 bits. -/
theorem Window.lookKbits {p : ℕ} {s : ReadState} (hs : Window Buffer p s) {k : UInt8} (hk : 1 ≤ k.toNat)
    (hk' : k.toNat ≤ 16) : ∃ w, BmcVnc.lookKbits k s = some w ∧ w.toNat = nextBits Buffer p k.toNat := by
  obtain ⟨code, hcode, codeBit⟩ := shr_eq s.codebuf (n := 32 - k.toNat) (by omega) (by omega)
  have htop : code.toNat = nextBits Buffer p k.toNat := by
    rw [← hs.toNat_codebuf (by omega : k.toNat ≤ 32)]
    refine Nat.eq_of_testBit_eq fun i => ?_
    rw [Nat.testBit_shiftRight]
    exact (codeBit i).trans (congrArg (wordBit s.codebuf) (by omega))
  refine ⟨code.toUInt16, by rw [BmcVnc.lookKbits, hcode]; rfl, ?_⟩
  rw [UInt32.toNat_toUInt16, htop]
  exact Nat.mod_eq_of_lt (lt_of_lt_of_le (nextBits_lt p _) (Nat.pow_le_pow_right (by norm_num) hk'))

/-- The test of a bit of the sign-extended word. -/
theorem testBit_signed (w : UInt16) {n : ℕ} (hn : n < 16) : ∃ bit, shl 1 n = some bit ∧
    (bit &&& w.toInt16.toInt32.toUInt32 = 0 ↔ w.toNat.testBit n = false) := by
  obtain ⟨bit, hbit, bits⟩ := shl_eq 1 (n := n) (by omega) (by omega)
  have hone : ∀ i < 32, wordBit bit i = decide (i = n) := by
    intro i hi
    rw [bits i hi, wordBit_low (w := 1) _ rfl, ← Bool.decide_and]
    exact decide_eq_decide.2 (by omega)
  have hext : wordBit w.toInt16.toInt32.toUInt32 n = w.toNat.testBit n := by
    rw [wordBit, ← UInt32.toNat_toBitVec, BitVec.testBit_toNat, Int32.toBitVec_toUInt32, Int16.toBitVec_toInt32,
      BitVec.getLsbD_signExtend, decide_eq_true (by omega), Bool.true_and, if_pos hn, UInt16.toBitVec_toInt16,
      ← BitVec.testBit_toNat, UInt16.toNat_toBitVec]
  refine ⟨bit, hbit, fun h => ?_, fun h => eq_of_wordBit fun i hi => ?_⟩
  · have hzero := congrArg (wordBit · n) h
    simp only [wordBit_and, hone n (by omega), decide_true, Bool.true_and, wordBit_zero] at hzero
    rw [← hext, hzero]
  · rw [wordBit_and, hone i hi, wordBit_zero]
    by_cases hin : i = n
    · rw [hin, hext, h, Bool.and_false]
    · rw [decide_eq_false hin, Bool.false_and]

/-- The top bit of `k` bits. -/
theorem testBit_top {k v : ℕ} (hk : 1 ≤ k) (hv : v < 2 ^ k) : v.testBit (k - 1) = false ↔ v < 2 ^ (k - 1) := by
  refine ⟨fun h => ?_, Nat.testBit_lt_two_pow⟩
  by_contra hge
  rw [Nat.testBit_of_two_pow_le_and_two_pow_add_one_gt (Nat.not_lt.1 hge) (by rwa [Nat.sub_add_cancel hk])] at h
  exact absurd h (by decide)

/-- A short of 16 bits. -/
theorem toInt16_eq (w : UInt16) : w.toInt16 = Int16.ofInt w.toNat := by
  rw [Int16.ofInt_eq_ofNat, ← UInt16.toInt16_ofNat', UInt16.ofNat_toNat]

/-- The extended value of at most 15 bits is a `short`. -/
theorem toInt_extend {k v : ℕ} (hk' : k ≤ 15) (hv : v < 2 ^ k) :
    (Int16.ofInt (extend k v)).toInt = extend k v := by
  have hpow : 2 ^ k ≤ 2 ^ 15 := Nat.pow_le_pow_right (by norm_num) hk'
  have hpow' : ((2 : ℤ) ^ k) = ((2 ^ k : ℕ) : ℤ) := by push_cast; rfl
  refine Int16.toInt_ofInt_of_le ?_ ?_
  · rw [extend, hpow']
    split_ifs <;> omega
  · rw [extend, hpow']
    split_ifs <;> omega

/-- **A value.** `getKbits` returns the extended value of the next bits as a `short`, and skips them. -/
theorem Window.getKbits {p : ℕ} {s : ReadState} (hs : Window Buffer p s) {k : UInt8} (hk : 1 ≤ k.toNat)
    (hk' : k.toNat ≤ 16) (hin : (p + k.toNat) / 32 + 2 ≤ Buffer.length) :
    ∃ s', getKbits Buffer k s = some (Int16.ofInt (extend k.toNat (nextBits Buffer p k.toNat)), s') ∧
      skipKbits Buffer k s = some s' := by
  obtain ⟨w, hw, hword⟩ := hs.lookKbits hk hk'
  obtain ⟨bit, hbit, htest⟩ := testBit_signed w (n := k.toNat - 1) (by omega)
  obtain ⟨s', hskip, -⟩ := hs.advance hk (by omega) hin
  have hbit' : shl 1 ((k.toNat : ℤ) - 1) = some bit := by
    rw [← hbit]
    congr 1
    omega
  have hskip' : skipKbits Buffer k s = some s' := hskip
  rw [hword, testBit_top hk (nextBits_lt p _)] at htest
  refine ⟨s', ?_, hskip'⟩
  rw [BmcVnc.getKbits, hw, Option.bind_eq_bind, Option.bind_some, hbit', Option.bind_eq_bind, Option.bind_some, extend]
  by_cases hneg : nextBits Buffer p k.toNat < 2 ^ (k.toNat - 1)
  · rw [if_pos (htest.2 hneg), if_pos hneg, negPow2, if_neg (by omega), if_pos (by omega), hskip', toInt16_eq, hword]
    simp only [Option.map_eq_map, Option.map_some, Option.bind_eq_bind, Option.bind_some, Option.pure_def,
      ← Int16.ofInt_add]
    congr 3
    ring
  · rw [if_neg (mt htest.1 hneg), if_neg hneg, hskip', toInt16_eq, hword]
    rfl

/-! ## Runs -/

theorem consumed_cons (op : ReadOp) (ops : List ReadOp) : consumed (op :: ops) = op.count.toNat + consumed ops := by
  rw [consumed, List.map_cons, List.sum_cons]
  rfl

/-- A call consumes its bits. -/
theorem ReadOp.run_eq (op : ReadOp) (h : 0 ≤ op.count) (s : ReadState) :
    op.run Buffer s = advance Buffer (op.count.toNat : ℕ) s := by
  cases op with
  | skipKbits k => rfl
  | updatereadbuf walks =>
    have hw : ((walks.toNat : ℕ) : ℤ) = walks := Int.toNat_of_nonneg h
    change advance Buffer walks s = advance Buffer (walks.toNat : ℕ) s
    rw [hw]

/-- The calls of a run keep the window. -/
theorem Window.runFrom {ops : List ReadOp} (hk : ∀ op ∈ ops, 1 ≤ op.count ∧ op.count < 32) {p : ℕ} {s : ReadState}
    (hs : Window Buffer p s) (hin : (p + consumed ops) / 32 + 2 ≤ Buffer.length) :
    ∃ s', runFrom Buffer ops s = some s' ∧ Window Buffer (p + consumed ops) s' := by
  induction ops generalizing p s with
  | nil => exact ⟨s, rfl, hs⟩
  | cons op ops ih =>
    obtain ⟨hone, hlt⟩ := hk op List.mem_cons_self
    rw [consumed_cons] at hin
    obtain ⟨s₁, hrun, hs₁⟩ := hs.advance (k := op.count.toNat) (by omega) (by omega) (by omega)
    obtain ⟨s', hrest, hs'⟩ := ih (fun o ho => hk o (List.mem_cons_of_mem _ ho)) hs₁ (by omega)
    refine ⟨s', ?_, ?_⟩
    · rw [BmcVnc.runFrom, op.run_eq (by omega), hrun]
      exact hrest
    · rw [consumed_cons, ← Nat.add_assoc]
      exact hs'

/-- **The reader.** After every sequence of calls within the buffer, each of fewer than 32 bits, the
look-ahead word is the next 32 bits, 1 to 32 bits are buffered, and `getKbits` returns the extended value
of up to 16 bits as a `short`, which for up to 15 bits is that value. -/
theorem reader_window (Buffer : List UInt32) (ops : List ReadOp) (hk : ∀ op ∈ ops, 1 ≤ op.count ∧ op.count < 32)
    (hin : consumed ops / 32 + 2 ≤ Buffer.length) :
    ∃ s, runReader Buffer ops = some s ∧ s.codebuf.toNat = nextBits Buffer (consumed ops) 32 ∧
      1 ≤ s.newbits ∧ s.newbits ≤ 32 ∧
      ∀ k : UInt8, 1 ≤ k.toNat → k.toNat ≤ 16 → (consumed ops + k.toNat) / 32 + 2 ≤ Buffer.length →
        ∃ v s', getKbits Buffer k s = some (v, s') ∧ skipKbits Buffer k s = some s' ∧
          v = Int16.ofInt (extend k.toNat (nextBits Buffer (consumed ops) k.toNat)) ∧
          (k.toNat ≤ 15 → v.toInt = extend k.toNat (nextBits Buffer (consumed ops) k.toNat)) := by
  obtain ⟨s₀, hstart⟩ : ∃ s₀, ReadState.start Buffer = some s₀ := by
    rw [ReadState.start, List.getElem?_eq_getElem (by omega : 0 < Buffer.length),
      List.getElem?_eq_getElem (by omega : 1 < Buffer.length)]
    exact ⟨_, rfl⟩
  obtain ⟨s, hrun, hs⟩ := (Window.start hstart).runFrom hk (by rwa [Nat.zero_add])
  rw [Nat.zero_add] at hs
  refine ⟨s, by rw [runReader, hstart]; exact hrun, hs.toNat_codebuf (k := 32) le_rfl, hs.one_le, hs.le_word,
    fun k hone hle hget => ?_⟩
  obtain ⟨s', hvalue, hskip⟩ := hs.getKbits hone hle hget
  exact ⟨_, s', hvalue, hskip, rfl, fun hle' => toInt_extend hle' (nextBits_lt _ _)⟩

/-- Three words, of which 20 bits are skipped. -/
theorem reader_window_skip : (∀ op ∈ [ReadOp.skipKbits 20], 1 ≤ op.count ∧ op.count < 32) ∧
    consumed [ReadOp.skipKbits 20] / 32 + 2 ≤ [0x12345678, 0x9abcdef0, 0x0f1e2d3c].length ∧
    ∃ s, runReader [0x12345678, 0x9abcdef0, 0x0f1e2d3c] [.skipKbits 20] = some s ∧ s.codebuf.toNat = 0x6789abcd := by
  have hk : ∀ op ∈ [ReadOp.skipKbits 20], 1 ≤ op.count ∧ op.count < 32 := by decide
  have hin : consumed [ReadOp.skipKbits 20] / 32 + 2 ≤ [0x12345678, 0x9abcdef0, 0x0f1e2d3c].length := by decide
  obtain ⟨s, hrun, hcode, -⟩ := reader_window [0x12345678, 0x9abcdef0, 0x0f1e2d3c] [.skipKbits 20] hk hin
  exact ⟨hk, hin, s, hrun, hcode.trans (by decide)⟩

/-- Sixteen bits that are 0 give 1, and their extended value is -65535. -/
theorem getKbits_sixteen : ¬ ∀ (Buffer : List UInt32) (ops : List ReadOp) (s : ReadState) (k : UInt8),
    (∀ op ∈ ops, 1 ≤ op.count ∧ op.count ≤ 20) → runReader Buffer ops = some s → 1 ≤ k.toNat → k.toNat ≤ 20 →
    (consumed ops + k.toNat) / 32 + 2 ≤ Buffer.length →
    ∃ v s', getKbits Buffer k s = some (v, s') ∧
      v.toInt = extend k.toNat (nextBits Buffer (consumed ops) k.toNat) := by
  intro h
  obtain ⟨v, s', hget, hv⟩ := h [0, 0, 0] [] ⟨0, 0, 2, 32⟩ 16 (by decide) rfl (by decide) (by decide) (by decide)
  have hone : getKbits [0, 0, 0] 16 ⟨0, 0, 2, 32⟩ = some (1, ⟨0, 0, 2, 16⟩) := by decide
  rw [hone, Option.some.injEq, Prod.mk.injEq] at hget
  rw [← hget.1] at hv
  exact absurd hv (by decide)

end BmcVnc
