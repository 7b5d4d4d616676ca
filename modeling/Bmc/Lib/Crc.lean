import Mathlib.RingTheory.AdjoinRoot
import Mathlib.Algebra.CharP.Two
import Mathlib.Tactic

/-!
# Cyclic redundancy checks

The bits of a message are the coefficients of a polynomial over the field with two elements. A cyclic redundancy check is what is
left of it after the division by a generator: its class in the ring of the remainders.

* `bitsPoly`: the polynomial of a text of bits; `differing`: the places where two texts differ;
* `crcClass`: the class that a text leads to, from the class before it; `crcClass_append`: a text in pieces;
* **`crcClass_ne_of_burst`**, **`crcClass_ne_of_odd`**, **`crcClass_ne_of_pair`**, `crcClass_ne_of_three`: the changes of a text
  that change the class;
* `Register`: words that hold classes, with shifts, products and powers; `Register.orderOf_root`: how far two places must be
  apart for a pair of changes to stay unseen;
* `reflected`: words with the highest power in the lowest bit.
-/

namespace BmcLib

open Polynomial AdjoinRoot

/-! ## Texts of bits -/

theorem exists_cons_of_length_eq {α : Type*} {x : α} {a b : List α} (h : (x :: a).length = b.length) :
    ∃ y b', b = y :: b' ∧ a.length = b'.length := by
  obtain ⟨y, b, rfl⟩ := List.exists_cons_of_length_pos (show 0 < b.length by rw [← h]; exact Nat.succ_pos _)
  exact ⟨y, b, rfl, Nat.succ.inj h⟩

/-- The polynomial of a text of bits, the first bit at the highest power. -/
noncomputable def bitsPoly : List Bool → (ZMod 2)[X]
  | [] => 0
  | b :: bs => (if b then X ^ bs.length else 0) + bitsPoly bs

theorem bitsPoly_append (a b : List Bool) : bitsPoly (a ++ b) = bitsPoly a * X ^ b.length + bitsPoly b := by
  induction a with
  | nil => rw [List.nil_append, bitsPoly, zero_mul, zero_add]
  | cons x a ih =>
    rw [List.cons_append, bitsPoly, bitsPoly, ih, List.length_append]
    cases x
    · simp only [Bool.false_eq_true, if_false]
      ring
    · simp only [if_true]
      ring

theorem bitsPoly_replicate_false (n : ℕ) : bitsPoly (List.replicate n false) = 0 := by
  induction n with
  | zero => rfl
  | succ n ih => rw [List.replicate_succ, bitsPoly, ih, if_neg Bool.false_ne_true, add_zero]

theorem degree_bitsPoly_lt (bits : List Bool) : (bitsPoly bits).degree < bits.length := by
  rw [← mem_degreeLT]
  induction bits with
  | nil => exact zero_mem _
  | cons b bits ih =>
    refine add_mem ?_ (degreeLT_mono (Nat.le_succ _) ih)
    split_ifs
    · rw [mem_degreeLT, degree_X_pow]
      exact_mod_cast Nat.lt_succ_self _
    · exact zero_mem _

theorem eval_one_bitsPoly (bits : List Bool) : (bitsPoly bits).eval 1 = (bits.count true : ZMod 2) := by
  induction bits with
  | nil => rw [bitsPoly, eval_zero, List.count_nil, Nat.cast_zero]
  | cons b bits ih =>
    cases b
    · rw [bitsPoly, if_neg Bool.false_ne_true, zero_add, ih, List.count_cons_of_ne Bool.false_ne_true]
    · rw [bitsPoly, if_pos rfl, eval_add, ih, eval_pow, eval_X, one_pow, List.count_cons_self, Nat.cast_succ, add_comm]

/-- The places where two texts of one length differ. -/
def differing (a b : List Bool) : Finset ℕ := (Finset.range a.length).filter fun i => a[i]? ≠ b[i]?

/-- The wrong bits lie among `k` successive ones. -/
def IsBurst (k : ℕ) (a b : List Bool) : Prop := ∃ s, ∀ i ∈ differing a b, s ≤ i ∧ i < s + k

theorem differing_nonempty {a b : List Bool} (h : a.length = b.length) (hne : a ≠ b) : (differing a b).Nonempty := by
  rw [Finset.nonempty_iff_ne_empty]
  refine fun hempty => hne (List.ext_getElem? fun i => ?_)
  rcases Nat.lt_or_ge i a.length with hi | hi
  · by_contra hdiffer
    exact Finset.notMem_empty i (hempty ▸ Finset.mem_filter.2 ⟨Finset.mem_range.2 hi, hdiffer⟩)
  · rw [List.getElem?_eq_none hi, List.getElem?_eq_none (h ▸ hi)]

/-- The sum of the polynomials of two texts has the powers of the places where they differ. -/
theorem bitsPoly_add {a b : List Bool} (h : a.length = b.length) :
    bitsPoly a + bitsPoly b = ∑ i ∈ differing a b, X ^ (a.length - 1 - i) := by
  rw [differing, Finset.sum_filter]
  induction a generalizing b with
  | nil => rw [List.eq_nil_of_length_eq_zero h.symm, bitsPoly, add_zero, List.length_nil, Finset.sum_range_zero]
  | cons x a ih =>
    obtain ⟨y, b, rfl, hlen⟩ := exists_cons_of_length_eq h
    have hrest : ∑ i ∈ Finset.range a.length, (if (x :: a)[i + 1]? ≠ (y :: b)[i + 1]? then
        (X : (ZMod 2)[X]) ^ (a.length + 1 - 1 - (i + 1)) else 0) = bitsPoly a + bitsPoly b := by
      rw [ih hlen]
      refine Finset.sum_congr rfl fun i _ => ?_
      rw [List.getElem?_cons_succ, List.getElem?_cons_succ, Nat.add_sub_cancel, Nat.add_comm i 1, ← Nat.sub_sub]
    rw [List.length_cons, Finset.sum_range_succ', hrest, bitsPoly, bitsPoly, ← hlen]
    have htop : (if x then (X : (ZMod 2)[X]) ^ a.length else 0) + (if y then X ^ a.length else 0) =
        if (x :: a)[0]? ≠ (y :: b)[0]? then X ^ (a.length + 1 - 1 - 0) else 0 := by
      have htwo := CharTwo.add_self_eq_zero ((X : (ZMod 2)[X]) ^ a.length)
      cases x <;> cases y <;> simp [htwo]
    rw [← htop]
    ring

/-- Equal texts at equal lengths have the sum zero. -/
theorem bitsPoly_xor {a b : List Bool} (h : a.length = b.length) : bitsPoly (List.zipWith xor a b) = bitsPoly a + bitsPoly b := by
  induction a generalizing b with
  | nil => rw [List.eq_nil_of_length_eq_zero h.symm, bitsPoly, add_zero]; rfl
  | cons x a ih =>
    obtain ⟨y, b, rfl, hlen⟩ := exists_cons_of_length_eq h
    have htwo := CharTwo.add_self_eq_zero ((X : (ZMod 2)[X]) ^ a.length)
    rw [List.zipWith_cons_cons, bitsPoly, bitsPoly, bitsPoly, ih hlen, List.length_zipWith, ← hlen, Nat.min_self]
    cases x <;> cases y <;> simp
    · ring
    · ring
    · linear_combination -htwo

/-! ## The class of a text -/

section CrcClass

variable {P : (ZMod 2)[X]} {c : AdjoinRoot P} {a b : List Bool}

/-- The class that the text leads to from the class `c`. -/
noncomputable def crcClass (P : (ZMod 2)[X]) (c : AdjoinRoot P) (bits : List Bool) : AdjoinRoot P :=
  c * root P ^ bits.length + mk P (bitsPoly bits) * root P ^ P.natDegree

theorem crcClass_nil (c : AdjoinRoot P) : crcClass P c [] = c := by
  rw [crcClass, bitsPoly, map_zero, zero_mul, add_zero, List.length_nil, pow_zero, mul_one]

/-- A text in two pieces. -/
theorem crcClass_append (c : AdjoinRoot P) (a b : List Bool) : crcClass P c (a ++ b) = crcClass P (crcClass P c a) b := by
  simp only [crcClass, bitsPoly_append, List.length_append, map_add, map_mul, map_pow, mk_X]
  ring

/-- Two texts of one length lead to one class if and only if the generator divides the powers of the places where they differ. -/
theorem crcClass_eq_iff (hx : IsUnit (root P)) (h : a.length = b.length) :
    crcClass P c a = crcClass P c b ↔ P ∣ ∑ i ∈ differing a b, X ^ (a.length - 1 - i) := by
  rw [crcClass, crcClass, h, add_right_inj, (hx.pow _).mul_left_inj, mk_eq_mk, CharTwo.sub_eq_add, ← h, bitsPoly_add h]

/-- A power of the unknown has no part in what the generator divides. -/
theorem dvd_pow_mul_iff (hx : IsUnit (root P)) (k : ℕ) (q : (ZMod 2)[X]) : P ∣ X ^ k * q ↔ P ∣ q := by
  rw [← mk_eq_zero, map_mul, map_pow, mk_X, (hx.pow k).mul_right_eq_zero, mk_eq_zero]

/-- **A burst** that is no longer than the generator changes the class. -/
theorem crcClass_ne_of_burst (hP : P.Monic) (hx : IsUnit (root P)) (h : a.length = b.length) (hne : a ≠ b)
    (hburst : IsBurst P.natDegree a b) : crcClass P c a ≠ crcClass P c b := by
  rw [Ne, crcClass_eq_iff hx h]
  obtain ⟨s, hs⟩ := hburst
  obtain ⟨j, hj, hmax⟩ := (differing a b).exists_max_image id (differing_nonempty h hne)
  have hlt : ∀ i ∈ differing a b, i < a.length := fun i hi => Finset.mem_range.1 (Finset.mem_filter.1 hi).1
  -- the last place gives the lowest power, and the quotient by it is shorter than the generator
  have hsum : ∑ i ∈ differing a b, (X : (ZMod 2)[X]) ^ (a.length - 1 - i) =
      X ^ (a.length - 1 - j) * ∑ i ∈ differing a b, X ^ (j - i) := by
    rw [Finset.mul_sum]
    refine Finset.sum_congr rfl fun i hi => ?_
    have hij : i ≤ j := hmax i hi
    have hjn := hlt j hj
    rw [← pow_add]
    congr 1
    omega
  rw [hsum, dvd_pow_mul_iff hx]
  refine hP.not_dvd_of_degree_lt (fun hzero => ?_) ?_
  · have hcoeff := congrArg (fun q => coeff q 0) hzero
    simp only [finsetSum_coeff, coeff_X_pow, coeff_zero] at hcoeff
    rw [Finset.sum_eq_single_of_mem j hj fun i hi hij => if_neg ?_, if_pos (Nat.sub_self j).symm] at hcoeff
    · exact one_ne_zero hcoeff
    · have : i ≤ j := hmax i hi
      omega
  · rw [degree_eq_natDegree hP.ne_zero, ← mem_degreeLT]
    refine sum_mem fun i hi => ?_
    rw [mem_degreeLT, degree_X_pow]
    have := hs i hi
    have := hs j hj
    exact_mod_cast (show j - i < P.natDegree by omega)

/-- **An odd number of changes** changes the class, where the generator has the root one. -/
theorem crcClass_ne_of_odd (hone : P.eval 1 = 0) (hx : IsUnit (root P)) (h : a.length = b.length)
    (hodd : Odd (differing a b).card) : crcClass P c a ≠ crcClass P c b := by
  rw [Ne, crcClass_eq_iff hx h]
  rintro ⟨q, hq⟩
  have heval := congrArg (eval 1) hq
  simp only [eval_mul, hone, zero_mul, eval_finsetSum, eval_pow, eval_X, one_pow, Finset.sum_const, nsmul_eq_mul,
    mul_one] at heval
  exact Nat.not_even_iff_odd.2 hodd ((ZMod.natCast_eq_zero_iff_even).1 heval)

/-- **Two changes** change the class of a text that is no longer than the order of the unknown. -/
theorem crcClass_ne_of_pair (hx : IsUnit (root P)) (h : a.length = b.length) (hpair : (differing a b).card = 2)
    (hlen : a.length ≤ orderOf (root P)) : crcClass P c a ≠ crcClass P c b := by
  rw [Ne, crcClass_eq_iff hx h]
  obtain ⟨i, j, hij, hset⟩ : ∃ i j, i < j ∧ differing a b = {i, j} := by
    obtain ⟨i, j, hne, hset⟩ := Finset.card_eq_two.1 hpair
    rcases Nat.lt_or_gt_of_ne hne with hlt | hlt
    · exact ⟨i, j, hlt, hset⟩
    · exact ⟨j, i, hlt, hset.trans (Finset.pair_comm i j)⟩
  have hmem : j ∈ differing a b := by
    rw [hset]
    exact Finset.mem_insert_of_mem (Finset.mem_singleton_self j)
  have hj : j < a.length := Finset.mem_range.1 (Finset.mem_filter.1 hmem).1
  have hsum : ∑ i ∈ differing a b, (X : (ZMod 2)[X]) ^ (a.length - 1 - i) = X ^ (a.length - 1 - j) * (X ^ (j - i) - 1) := by
    rw [hset, Finset.sum_pair hij.ne, CharTwo.sub_eq_add, mul_add, ← pow_add, mul_one]
    congr 2
    omega
  rw [hsum, dvd_pow_mul_iff hx, ← mk_eq_mk, map_pow, mk_X, map_one]
  intro hpow
  have := Nat.le_of_dvd (by omega) (orderOf_dvd_of_pow_eq_one hpow)
  omega

/-- **One to three changes** change the class of such a text, where the generator has the root one. -/
theorem crcClass_ne_of_three (hone : P.eval 1 = 0) (hx : IsUnit (root P)) (h : a.length = b.length) (hne : a ≠ b)
    (hthree : (differing a b).card ≤ 3) (hlen : a.length ≤ orderOf (root P)) : crcClass P c a ≠ crcClass P c b := by
  have hpos := Finset.card_pos.2 (differing_nonempty h hne)
  by_cases hpair : (differing a b).card = 2
  · exact crcClass_ne_of_pair hx h hpair hlen
  · exact crcClass_ne_of_odd hone hx h (Nat.odd_iff.2 (by omega))

end CrcClass

/-! ## Registers -/

/-- Words of `w` bits that hold the classes of the generator `P`. `bits` are the bits of a word from the highest power on, and
`shift` is the multiplication by the unknown. -/
structure Register (P : (ZMod 2)[X]) (w : ℕ) where
  bits : BitVec w → List Bool
  shift : BitVec w → BitVec w
  monic : P.Monic
  natDegree : P.natDegree = w
  length_bits (c : BitVec w) : (bits c).length = w
  bits_injective : Function.Injective bits
  bits_xor (a b : BitVec w) : bits (a ^^^ b) = List.zipWith xor (bits a) (bits b)
  mk_shift (c : BitVec w) : mk P (bitsPoly (bits (shift c))) = root P * mk P (bitsPoly (bits c))

namespace Register

variable {P : (ZMod 2)[X]} {w : ℕ} (r : Register P w)

/-- The class that a word holds. -/
noncomputable def value (c : BitVec w) : AdjoinRoot P := AdjoinRoot.mk P (bitsPoly (r.bits c))

theorem value_xor (a b : BitVec w) : r.value (a ^^^ b) = r.value a + r.value b := by
  rw [value, r.bits_xor, bitsPoly_xor (by rw [r.length_bits, r.length_bits]), map_add, value, value]

theorem value_zero : r.value 0#w = 0 := by
  have h := r.value_xor 0#w 0#w
  rw [BitVec.xor_self] at h
  exact left_eq_add.1 h

theorem value_shift (c : BitVec w) : r.value (r.shift c) = root P * r.value c := r.mk_shift c

theorem value_shift_iterate (n : ℕ) (c : BitVec w) : r.value (r.shift^[n] c) = root P ^ n * r.value c := by
  induction n with
  | zero => rw [Function.iterate_zero_apply, pow_zero, one_mul]
  | succ n ih => rw [Function.iterate_succ_apply', value_shift, ih, pow_succ]; ring

/-- A text of up to `w` bits is added at the highest powers and shifted in. -/
theorem value_feed {e : BitVec w} {bits : List Bool} {k : ℕ} (he : r.bits e = bits ++ List.replicate k false) (c : BitVec w) :
    r.value (r.shift^[bits.length] (c ^^^ e)) = crcClass P (r.value c) bits := by
  have hk : bits.length + k = P.natDegree := by
    rw [r.natDegree, ← r.length_bits e, he, List.length_append, List.length_replicate]
  have hvalue : r.value e = AdjoinRoot.mk P (bitsPoly bits) * root P ^ k := by
    rw [value, he, bitsPoly_append, bitsPoly_replicate_false, List.length_replicate, add_zero, map_mul, map_pow, mk_X]
  rw [value_shift_iterate, value_xor, hvalue, crcClass, ← hk, pow_add]
  ring

/-- Words are told apart by their classes. -/
theorem value_injective (hx : IsUnit (root P)) : Function.Injective r.value := by
  intro a b h
  by_contra hne
  have hlen : (r.bits a).length = (r.bits b).length := by rw [r.length_bits, r.length_bits]
  have hclass : crcClass P 0 (r.bits a) = crcClass P 0 (r.bits b) := by
    rw [crcClass, crcClass, zero_mul, zero_mul, ← value, ← value, h]
  refine crcClass_ne_of_burst r.monic hx hlen (fun h => hne (r.bits_injective h)) ⟨0, fun i hi => ⟨Nat.zero_le i, ?_⟩⟩ hclass
  rw [Nat.zero_add, r.natDegree, ← r.length_bits a]
  exact Finset.mem_range.1 (Finset.mem_filter.1 hi).1

theorem shift_iterate_injective (hx : IsUnit (root P)) (k : ℕ) : Function.Injective r.shift^[k] := fun a b h => by
  have hvalue := congrArg r.value h
  rw [value_shift_iterate, value_shift_iterate] at hvalue
  exact r.value_injective hx ((hx.pow k).mul_left_cancel hvalue)

/-- The word of the class of a polynomial is its remainder. -/
theorem bitsPoly_bits {c : BitVec w} {q : (ZMod 2)[X]} (h : r.value c = AdjoinRoot.mk P q) : bitsPoly (r.bits c) = q %ₘ P := by
  have hdegree : (bitsPoly (r.bits c)).degree < P.degree := by
    rw [degree_eq_natDegree r.monic.ne_zero, r.natDegree]
    exact (degree_bitsPoly_lt (r.bits c)).trans_le (by rw [r.length_bits])
  rw [← (modByMonic_eq_self_iff r.monic).2 hdegree]
  exact modByMonic_eq_of_dvd_sub r.monic (mk_eq_mk.1 h)

theorem value_one {one : BitVec w} {k : ℕ} (h : r.bits one = List.replicate k false ++ [true]) : r.value one = 1 := by
  rw [value, h, bitsPoly_append, bitsPoly_replicate_false, zero_mul, zero_add, bitsPoly, if_pos rfl, bitsPoly, add_zero,
    List.length_nil, pow_zero, map_one]

/-- The product of two words, from the highest power of the first one on. -/
def mul (a b : BitVec w) : BitVec w :=
  (r.bits a).foldl (fun acc bit => if bit then r.shift acc ^^^ b else r.shift acc) 0#w

theorem value_mul (a b : BitVec w) : r.value (r.mul a b) = r.value a * r.value b := by
  have hfold : ∀ (bits : List Bool) (acc : BitVec w),
      r.value (bits.foldl (fun acc bit => if bit then r.shift acc ^^^ b else r.shift acc) acc) =
        r.value acc * root P ^ bits.length + AdjoinRoot.mk P (bitsPoly bits) * r.value b := fun bits => by
    induction bits with
    | nil => intro acc; rw [List.foldl_nil, bitsPoly, List.length_nil, pow_zero, mul_one, map_zero, zero_mul, add_zero]
    | cons bit bits ih =>
      intro acc
      rw [List.foldl_cons, ih, bitsPoly, List.length_cons]
      cases bit
      · simp only [Bool.false_eq_true, if_false, value_shift, zero_add]
        ring
      · simp only [if_true, value_xor, value_shift, map_add, map_pow, mk_X]
        ring
  rw [mul, hfold, value_zero, zero_mul, zero_add, ← value]

/-- The `n`-th power of the unknown, for an `n` of `k` bits. -/
def powRoot (one : BitVec w) : ℕ → ℕ → BitVec w
  | 0, _ => one
  | k + 1, n =>
    let half := powRoot one k (n / 2)
    if n % 2 = 1 then r.shift (r.mul half half) else r.mul half half

theorem value_powRoot {one : BitVec w} (hone : r.value one = 1) {k n : ℕ} (hn : n < 2 ^ k) :
    r.value (r.powRoot one k n) = root P ^ n := by
  induction k generalizing n with
  | zero => rw [powRoot, hone, show n = 0 by omega, pow_zero]
  | succ k ih =>
    have hhalf := ih (n := n / 2) (by omega)
    simp only [powRoot]
    split_ifs with hodd
    · rw [value_shift, value_mul, hhalf, ← pow_add, ← pow_succ']
      congr 1
      omega
    · rw [value_mul, hhalf, ← pow_add]
      congr 1
      omega

/-- The order of the unknown, from powers that are calculated. -/
theorem orderOf_root {one : BitVec w} (hone : r.value one = 1) {k n : ℕ} (hn : 0 < n) (hk : n < 2 ^ k)
    (hpow : r.powRoot one k n = one) (hprime : ∀ p : ℕ, p.Prime → p ∣ n → r.powRoot one k (n / p) ≠ one) :
    IsUnit (root P) ∧ orderOf (root P) = n := by
  have hroot : root P ^ n = 1 := by rw [← r.value_powRoot hone hk, hpow, hone]
  have hx : IsUnit (root P) := IsUnit.of_pow_eq_one hroot hn.ne'
  refine ⟨hx, orderOf_eq_of_pow_and_pow_div_prime hn hroot fun p hp hdvd h => hprime p hp hdvd (r.value_injective hx ?_)⟩
  rw [r.value_powRoot hone ((Nat.div_le_self n p).trans_lt hk), h, hone]

end Register

/-! ## Words with the highest power in the lowest bit -/

/-- The generator with the powers `low` below the highest one. -/
noncomputable def generator (low : List Bool) : (ZMod 2)[X] := X ^ low.length + bitsPoly low

theorem monic_generator (low : List Bool) : (generator low).Monic := monic_X_pow_add (degree_bitsPoly_lt low)

theorem natDegree_generator (low : List Bool) : (generator low).natDegree = low.length := by
  rw [generator, natDegree_add_eq_left_of_degree_lt (by rw [degree_X_pow]; exact degree_bitsPoly_lt low), natDegree_X_pow]

theorem eval_one_generator (low : List Bool) : (generator low).eval 1 = ((1 + low.count true : ℕ) : ZMod 2) := by
  rw [generator, eval_add, eval_pow, eval_X, one_pow, eval_one_bitsPoly, Nat.cast_add, Nat.cast_one]

/-- A shift by one power, with the generator where the highest one leaves. -/
theorem mk_shifted {low cs : List Bool} (c : Bool) (h : cs.length + 1 = low.length) :
    mk (generator low) (bitsPoly (if c then List.zipWith xor (cs ++ [false]) low else cs ++ [false])) =
      root (generator low) * mk (generator low) (bitsPoly (c :: cs)) := by
  have hlow : root (generator low) ^ low.length = mk (generator low) (bitsPoly low) := by
    rw [← mk_X, ← map_pow, mk_eq_mk, CharTwo.sub_eq_add]
    exact dvd_rfl
  have hcs : bitsPoly (cs ++ [false]) = bitsPoly cs * X := by
    rw [bitsPoly_append, List.length_singleton, pow_one, bitsPoly, bitsPoly, if_neg Bool.false_ne_true, add_zero, add_zero]
  cases c
  · rw [if_neg Bool.false_ne_true, hcs, bitsPoly, if_neg Bool.false_ne_true, zero_add, map_mul, mk_X, mul_comm]
  · rw [if_pos rfl, bitsPoly_xor (by rw [List.length_append, List.length_singleton, h]), hcs, bitsPoly, if_pos rfl]
    simp only [map_add, map_mul, map_pow, mk_X]
    rw [← hlow, ← h, pow_succ]
    ring

section Words

variable {n : ℕ}

/-- The bits of a word from the lowest on. -/
def lsbFirst (c : BitVec n) : List Bool := (List.range n).map c.getLsbD

@[simp] theorem length_lsbFirst (c : BitVec n) : (lsbFirst c).length = n := by rw [lsbFirst, List.length_map, List.length_range]

/-- A wider word has zeros behind. -/
theorem lsbFirst_setWidth (c : BitVec n) (k : ℕ) : lsbFirst (c.setWidth (n + k)) = lsbFirst c ++ List.replicate k false := by
  refine List.ext_getElem (by simp) fun i hi _ => ?_
  rw [length_lsbFirst] at hi
  simp only [lsbFirst, List.getElem_map, List.getElem_range, BitVec.getLsbD_setWidth, hi, decide_true, Bool.true_and,
    List.getElem_append, List.length_map, List.length_range, List.getElem_replicate]
  split_ifs with h
  · rfl
  · exact BitVec.getLsbD_of_ge c i (Nat.le_of_not_lt h)

theorem lsbFirst_xor (a b : BitVec n) : lsbFirst (a ^^^ b) = List.zipWith xor (lsbFirst a) (lsbFirst b) := by
  rw [lsbFirst, lsbFirst, lsbFirst, List.zipWith_map, List.zipWith_self]
  exact List.map_congr_left fun i _ => BitVec.getLsbD_xor

theorem lsbFirst_injective : Function.Injective (lsbFirst (n := n)) := fun _ _ h =>
  BitVec.eq_of_getLsbD_eq fun i hi => List.map_inj_left.1 h i (List.mem_range.2 hi)

/-- The multiplication by the unknown, with the highest power in the lowest bit. -/
def shiftDown (low c : BitVec n) : BitVec n := if c.getLsbD 0 then c >>> 1 ^^^ low else c >>> 1

theorem shiftDown_xor (low a b : BitVec n) : shiftDown low (a ^^^ b) = shiftDown low a ^^^ shiftDown low b := by
  have hshift : (a ^^^ b) >>> 1 = a >>> 1 ^^^ b >>> 1 := BitVec.ushiftRight_xor_distrib a b 1
  have hcancel : a >>> 1 ^^^ low ^^^ (b >>> 1 ^^^ low) = a >>> 1 ^^^ b >>> 1 := by
    rw [show a >>> 1 ^^^ low ^^^ (b >>> 1 ^^^ low) = a >>> 1 ^^^ b >>> 1 ^^^ (low ^^^ low) by ac_rfl, BitVec.xor_self,
      BitVec.xor_zero]
  rw [shiftDown, shiftDown, shiftDown, BitVec.getLsbD_xor, hshift]
  cases a.getLsbD 0 <;> cases b.getLsbD 0 <;> simp only [Bool.xor_false, Bool.xor_true, Bool.not_true, Bool.not_false, if_true,
    Bool.false_eq_true, if_false, hcancel] <;> ac_rfl

theorem shiftDown_iterate_xor (low a b : BitVec n) (k : ℕ) :
    (shiftDown low)^[k] (a ^^^ b) = (shiftDown low)^[k] a ^^^ (shiftDown low)^[k] b := by
  induction k generalizing a b with
  | zero => rfl
  | succ k ih => rw [Function.iterate_succ_apply, Function.iterate_succ_apply, Function.iterate_succ_apply, shiftDown_xor, ih]

/-- Zeros are shifted out. -/
theorem shiftDown_iterate_zeros (low : BitVec n) {c : BitVec n} {k : ℕ} (h : ∀ i < k, c.getLsbD i = false) :
    (shiftDown low)^[k] c = c >>> k := by
  induction k generalizing c with
  | zero => rw [Function.iterate_zero_apply, BitVec.ushiftRight_zero]
  | succ k ih =>
    have hc : shiftDown low c = c >>> 1 := if_neg (by rw [h 0 (Nat.succ_pos k)]; exact Bool.false_ne_true)
    rw [Function.iterate_succ_apply, hc, ih fun i hi => by rw [BitVec.getLsbD_ushiftRight, h (1 + i) (by omega)],
      ← BitVec.shiftRight_add, Nat.add_comm]

/-- The shift of the bits that leave a word, apart from the others. -/
theorem shiftDown_iterate_split (low c : BitVec n) {mask : BitVec n} {k : ℕ}
    (hmask : ∀ i, mask.getLsbD i = decide (i < k ∧ i < n)) :
    (shiftDown low)^[k] c = c >>> k ^^^ (shiftDown low)^[k] (c &&& mask) := by
  have hsplit : c = c &&& ~~~mask ^^^ c &&& mask := BitVec.eq_of_getLsbD_eq fun i hi => by
    simp only [BitVec.getLsbD_xor, BitVec.getLsbD_and, BitVec.getLsbD_not, hmask, hi, and_true, decide_true, Bool.true_and]
    cases c.getLsbD i <;> cases decide (i < k) <;> rfl
  have hhigh : (c &&& ~~~mask) >>> k = c >>> k := BitVec.eq_of_getLsbD_eq fun i hi => by
    rw [BitVec.getLsbD_ushiftRight, BitVec.getLsbD_ushiftRight, BitVec.getLsbD_and, BitVec.getLsbD_not, hmask]
    by_cases hn : k + i < n
    · simp [hn]
    · simp [hn, BitVec.getLsbD_of_ge c (k + i) (by omega)]
  calc (shiftDown low)^[k] c = (shiftDown low)^[k] (c &&& ~~~mask) ^^^ (shiftDown low)^[k] (c &&& mask) := by
        rw [← shiftDown_iterate_xor, ← hsplit]
    _ = c >>> k ^^^ (shiftDown low)^[k] (c &&& mask) := by
        rw [shiftDown_iterate_zeros low fun i hi => ?_, hhigh]
        rw [BitVec.getLsbD_and, BitVec.getLsbD_not, hmask]
        by_cases hn : i < n <;> simp [hi, hn]

/-- Words with the highest power in the lowest bit. -/
def reflected (low : BitVec (n + 1)) : Register (generator (lsbFirst low)) (n + 1) where
  bits := lsbFirst
  shift := shiftDown low
  monic := monic_generator _
  natDegree := by rw [natDegree_generator, length_lsbFirst]
  length_bits := length_lsbFirst
  bits_injective := lsbFirst_injective
  bits_xor := lsbFirst_xor
  mk_shift c := by
    have hcons : lsbFirst c = c.getLsbD 0 :: (List.range n).map fun i => c.getLsbD (i + 1) := by
      rw [lsbFirst, List.range_succ_eq_map, List.map_cons, List.map_map]
      rfl
    have hshift : lsbFirst (c >>> 1) = ((List.range n).map fun i => c.getLsbD (i + 1)) ++ [false] := by
      rw [lsbFirst, List.range_succ, List.map_append, List.map_singleton, BitVec.getLsbD_ushiftRight,
        BitVec.getLsbD_of_ge c _ (Nat.add_comm 1 n).ge]
      congr 1
      exact List.map_congr_left fun i _ => by rw [BitVec.getLsbD_ushiftRight, Nat.add_comm 1 i]
    rw [hcons, ← mk_shifted _ (by rw [List.length_map, List.length_range, length_lsbFirst]), shiftDown, ← hshift, ← lsbFirst_xor]
    split_ifs <;> rfl

end Words

end BmcLib
