import Bmc.Lib.Memory

/-!
# Little-endian numbers

`leNat l` is the number that the bytes `l` form, lowest byte first; `leBytes n x` are the `n` lowest
bytes of `x`.

* `leNat_lt`, `leNat_append`, `leNat_zeros`: the size of the number, and of adjacent blocks;
* **`leNat_leBytes`**, `leBytes_leNat`: the round trips; `leBytes_inj`: equal bytes, equal numbers.
-/

namespace BmcLib

/-- The number that the bytes form. -/
def leNat : List UInt8 → ℕ
  | [] => 0
  | b :: l => b.toNat + 256 * leNat l

/-- The `n` lowest bytes of a number. -/
def leBytes : ℕ → ℕ → List UInt8
  | 0, _ => []
  | n + 1, x => UInt8.ofNat x :: leBytes n (x / 256)

@[simp] theorem leNat_nil : leNat [] = 0 := rfl

@[simp] theorem leNat_cons (b : UInt8) (l : List UInt8) :
    leNat (b :: l) = b.toNat + 256 * leNat l := rfl

@[simp] theorem length_leBytes (n x : ℕ) : (leBytes n x).length = n := by
  induction n generalizing x with
  | zero => rfl
  | succ n ih => rw [leBytes, List.length_cons, ih]

theorem getElem?_leBytes {n i : ℕ} (hi : i < n) (x : ℕ) :
    (leBytes n x)[i]? = some (UInt8.ofNat (x / 256 ^ i)) := by
  induction n generalizing x i with
  | zero => exact absurd hi (Nat.not_lt_zero _)
  | succ n ih =>
    obtain _ | i := i
    · simp [leBytes]
    · rw [leBytes, List.getElem?_cons_succ, ih (Nat.lt_of_succ_lt_succ hi), Nat.div_div_eq_div_mul,
        Nat.pow_succ, Nat.mul_comm]

theorem leNat_lt (l : List UInt8) : leNat l < 256 ^ l.length := by
  induction l with
  | nil => simp
  | cons b l ih =>
    have hb := b.toNat_lt
    rw [leNat_cons, List.length_cons, Nat.pow_succ]
    omega

theorem leNat_append (l l' : List UInt8) : leNat (l ++ l') = leNat l + 256 ^ l.length * leNat l' := by
  induction l with
  | nil => simp
  | cons b l ih =>
    rw [List.cons_append, leNat_cons, ih, leNat_cons, List.length_cons, Nat.pow_succ]
    ring

theorem leNat_zeros (n : ℕ) : leNat (List.replicate n 0) = 0 := by
  induction n with
  | zero => rfl
  | succ n ih =>
    rw [List.replicate_succ, leNat_cons, ih]
    rfl

/-- **Writing and reading a number.** -/
theorem leNat_leBytes (n x : ℕ) : leNat (leBytes n x) = x % 256 ^ n := by
  induction n generalizing x with
  | zero => simp [leBytes, Nat.mod_one]
  | succ n ih =>
    have h256 : (UInt8.ofNat x).toNat = x % 256 := UInt8.toNat_ofNat'
    rw [leBytes, leNat_cons, ih, h256, Nat.pow_succ, Nat.mul_comm (256 ^ n), Nat.mod_mul]

theorem leBytes_leNat (l : List UInt8) : leBytes l.length (leNat l) = l := by
  induction l with
  | nil => rfl
  | cons b l ih =>
    have hb := b.toNat_lt
    have hhead : UInt8.ofNat (leNat (b :: l)) = b := by
      rw [← UInt8.toNat_inj, UInt8.toNat_ofNat', leNat_cons]
      omega
    have htail : leNat (b :: l) / 256 = leNat l := by
      rw [leNat_cons]
      omega
    rw [List.length_cons, leBytes, hhead, htail, ih]

theorem leBytes_inj {n x y : ℕ} (hx : x < 256 ^ n) (hy : y < 256 ^ n)
    (h : leBytes n x = leBytes n y) : x = y := by
  have h' := congrArg leNat h
  rwa [leNat_leBytes, leNat_leBytes, Nat.mod_eq_of_lt hx, Nat.mod_eq_of_lt hy] at h'

end BmcLib
