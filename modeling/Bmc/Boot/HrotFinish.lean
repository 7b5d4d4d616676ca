import Mathlib
import Bmc.Boot.KeyBlock

/-!
# The verdict on the firmware

`hrot_finish` of `021-hw_secure_boot_support.patch` once more, with the memory that it touches: it reads the block of the key,
looks for the entry of the firmware image among the signatures, and verifies the signature, `rsa_get_pub_key_uboot_verify` and
`rsa_verify_key_SHA256`. The flash has been probed, and its reads succeed.

* `BufferAccess`, `FinishRun`: the bytes of the buffers that are touched, and the result; `hrotFinishRun`: the function;
* `entryAt`, `Chain`: the entries that the search comes to; `search_ends_iff`: the search ends when they do not come round;
* `VerdictSound`: what is expected; **`verdictSound_iff`**: the exact condition;
* `hrotFinishRun_zero_iff`: the result 0 is that of `hrotFinish`;
* `not_verdictSound_overflow`: an entry that is longer than its buffer.
-/

namespace BmcBoot

open BmcLib BmcHelper

/-! ## Memory -/

/-- The buffers of the functions. -/
inductive FinishBuffer
  | output
  | linebuf
  | linebuf1
  | identifier
  | hashCopy
  deriving DecidableEq, Repr

/-- The size of a buffer. -/
def FinishBuffer.size : FinishBuffer → ℕ
  | .output => 65
  | .linebuf => 16384
  | .linebuf1 => 1024
  | .identifier => 8
  | .hashCopy => 64

/-- Bytes of a buffer that are read or stored. -/
structure BufferAccess where
  buffer : FinishBuffer
  offset : ℕ
  length : ℕ
  deriving DecidableEq, Repr

/-- The bytes are those of the buffer. -/
def BufferAccess.InBounds (a : BufferAccess) : Prop := a.offset + a.length ≤ a.buffer.size

instance (a : BufferAccess) : Decidable a.InBounds := inferInstanceAs (Decidable (_ ≤ _))

/-- The accesses, each of them once, and what is returned. -/
structure FinishRun where
  accesses : List BufferAccess
  code : Int
  deriving DecidableEq, Repr

/-- A run after other accesses. -/
def FinishRun.after (accesses : List BufferAccess) (r : FinishRun) : FinishRun := { r with accesses := accesses ++ r.accesses }

/-! ## The verification -/

/-- `rsa_public_key`: the length in words, and the numbers as bytes. -/
structure RsaPublicKey where
  len : ℕ
  n0inv : UInt32
  modulus : List UInt8
  rr : List UInt8
  deriving DecidableEq, Repr

/-- The hash, and `pow_mod`, which works in place. Both are external. -/
structure HashAndPower where
  sha256 : List UInt8 → List UInt8
  powMod : RsaPublicKey → List UInt8 → List UInt8
  length_sha256 : ∀ data, (sha256 data).length = 32
  length_powMod : ∀ key sig, (powMod key sig).length = sig.length

/-- `padding_sha256_rsa2048` -/
def paddingSha256Rsa2048 : List UInt8 :=
  [0x00, 0x01] ++ List.replicate 202 0xFF ++
    [0x00, 0x30, 0x31, 0x30, 0x0D, 0x06, 0x09, 0x60, 0x86, 0x48, 0x01, 0x65, 0x03, 0x04, 0x02, 0x01, 0x05, 0x00, 0x04, 0x20]

/-- `pad_len`: `RSA2048_BYTES - SHA256_SUM_LEN`. -/
abbrev padLen : ℕ := 224

abbrev rsaMinKeyBits : ℕ := 2048
abbrev rsaMaxKeyBits : ℕ := 4096
abbrev rsaMaxSigBits : ℕ := 4096

/-- `EIO`, `EACCES`, `EFAULT` and `EINVAL` -/
abbrev eio : Int := 5
abbrev eacces : Int := 13
abbrev efault : Int := 14
abbrev einval : Int := 22

/-- `read_prop`, where a `char` has no sign. -/
def readProp (keyVal : List UInt8) (offset size : ℕ) : ℕ := leNat ((keyVal.drop offset).take size)

/-- The key in the block that begins with `$start$`. -/
def rsaKeyOf (keyVal : List UInt8) : RsaPublicKey where
  len := readProp keyVal 256 2 / 32
  n0inv := UInt32.ofNat (readProp keyVal 100 4)
  modulus := (keyVal.drop 512).take (4 * (readProp keyVal 256 2 / 32))
  rr := (keyVal.drop 1024).take (4 * (readProp keyVal 256 2 / 32))

/-- `n` bytes from the start of the copy of the hash on: the digest, and then what `output` and the memory happen to hold. -/
def hashBytes (digest : List UInt8) (rest : ℕ → UInt8) (n : ℕ) : List UInt8 := digest.take n ++ slice rest 0 (n - digest.length)

section Verify

variable (m : HashAndPower) (rest : ℕ → UInt8)

/-- `rsa_verify_key_SHA256`. The signature is what `linebuf1` holds, or `NULL`. -/
def rsaVerifyKeySHA256 (key : RsaPublicKey) (sig : Option (List UInt8)) (sigLen : ℕ) (digest : List UInt8) : FinishRun :=
  match sig with
  | none => ⟨[], -eio⟩
  | some sig =>
    if sigLen ≠ key.len * 4 then ⟨[], -einval⟩
    else if rsaMaxSigBits / 8 < sigLen then ⟨[], -einval⟩
    else if rsaMaxKeyBits / 32 < key.len then ⟨[⟨.linebuf1, 0, sigLen⟩], -einval⟩
    else
      let buf := m.powMod key sig
      if buf.take padLen ≠ paddingSha256Rsa2048 then ⟨[⟨.linebuf1, 0, sigLen⟩], -einval⟩
      else if buf.drop padLen ≠ hashBytes digest rest (sigLen - padLen) then
        ⟨[⟨.linebuf1, 0, sigLen⟩, ⟨.hashCopy, 0, sigLen - padLen⟩], -eacces⟩
      else ⟨[⟨.linebuf1, 0, sigLen⟩, ⟨.hashCopy, 0, sigLen - padLen⟩], 0⟩

/-- `rsa_get_pub_key_uboot_verify` -/
def rsaGetPubKeyUbootVerify (keyVal : List UInt8) (sig : Option (List UInt8)) (sigLen hashLen : ℕ) (digest : List UInt8) :
    FinishRun :=
  let props : List BufferAccess := [⟨.linebuf, 256, 2⟩, ⟨.linebuf, 100, 4⟩]
  if rsaMaxKeyBits < readProp keyVal 256 2 ∨ readProp keyVal 256 2 < rsaMinKeyBits then ⟨props, -efault⟩
  else
    let key := rsaKeyOf keyVal
    .after (props ++ [⟨.linebuf, 512, 4 * key.len⟩, ⟨.linebuf, 1024, 4 * key.len⟩, ⟨.output, 0, hashLen⟩, ⟨.hashCopy, 0, hashLen⟩])
      (rsaVerifyKeySHA256 m rest key sig sigLen digest)

end Verify

/-! ## The function -/

/-- What a round of the search reads and stores. -/
def SigSearch.accesses : SigSearch → List BufferAccess
  | .found _ sigLength => [⟨.identifier, 0, 8⟩, ⟨.linebuf1, 0, sigLength.toNat⟩]
  | _ => [⟨.identifier, 0, 8⟩]

section Finish

variable (c : BootConfig) (f : Flash) (s : BootState)

/-- What is read to `linebuf`. -/
def BootState.keyData : List UInt8 := f.read (s.keyInfo c) (keyInfoLength.toNat * 4)

/-- `sigaddr`, the start of the signatures. -/
def BootState.sigStart : UInt32 := s.productInfoOffset - prodSigOffset

/-- The loop over the entries, `n` rounds at most. -/
def BootState.search (n : ℕ) : SigSearch :=
  whileN (SigSearch.goesOn s.productInfoOffset) (SigSearch.round f) n (.looking (s.sigStart + 8))

variable (m : HashAndPower) (rest : ℕ → UInt8)

/-- The digest of what has been hashed. -/
def BootState.digest : List UInt8 := m.sha256 (s.hashed.flatMap (HashBlock.bytes f))

/-- The end of `hrot_finish`, after the search. A search that has found nothing leaves `buf1` `NULL`, and `sig_length` does not
matter then. -/
def BootState.verify (searched : SigSearch) : FinishRun :=
  match searched with
  | .failed => ⟨[], -1⟩
  | .looking sigaddr =>
    if s.productInfoOffset < sigaddr then ⟨[], -1⟩
    else rsaGetPubKeyUbootVerify m rest (s.keyData c f) none 0 64 (s.digest f m)
  | .found sigaddr sigLength =>
    if s.productInfoOffset < sigaddr then ⟨[], -1⟩
    else rsaGetPubKeyUbootVerify m rest (s.keyData c f) (some (f.read sigaddr sigLength.toNat)) sigLength.toNat 64 (s.digest f m)

/-- `hrot_finish`, when its loop ends within `n` rounds. -/
def hrotFinishRun (n : ℕ) : Option FinishRun :=
  let start : List BufferAccess := [⟨.output, 0, 32⟩, ⟨.linebuf, 0, 16384⟩, ⟨.identifier, 0, 8⟩]
  if (s.keyData c f).take 7 ≠ startIdentifier then some ⟨start, -1⟩
  else if f.read s.sigStart 8 ≠ startIdentifier ++ [0] then some ⟨start, -1⟩
  else if (s.search f n).goesOn s.productInfoOffset then none
  else some (.after (start ++ (s.search f n).accesses) (s.verify c f m rest (s.search f n)))

end Finish

/-! ## The entries -/

section Entries

variable (f : Flash) (p start : UInt32)

/-- The entry is tagged as the one of the firmware image. -/
def TaggedFirmware (a : UInt32) : Prop := f.read a 8 = fwimgIdentifier ++ [0]

/-- The entry is tagged as one that is skipped. -/
def TaggedEnd (a : UInt32) : Prop := (f.read a 8).take 5 = endIdentifier

/-- `sig_length` of an entry. -/
def entryLength (a : UInt32) : UInt32 := le32 (f.read (a + 8) 4) 0

/-- The entry that the search comes to after `k` others. -/
def entryAt (k : ℕ) : UInt32 := (fun a => a + 8 + (4 + entryLength f a))^[k] start

/-- The first `k` entries are skipped. -/
def Chain (k : ℕ) : Prop := ∀ i < k, entryAt f start i < p ∧ TaggedEnd f (entryAt f start i)

/-- The search comes to this entry of the firmware image. -/
def FirmwareEntry (a : UInt32) : Prop := ∃ k, Chain f p start k ∧ entryAt f start k = a ∧ a < p ∧ TaggedFirmware f a

/-- The entries that are skipped lead back to one of them. -/
def ComesRound : Prop := ∃ j k, j < k ∧ Chain f p start k ∧ entryAt f start j = entryAt f start k

end Entries

section Search

variable {f : Flash} {p start a a' : UInt32} {k n : ℕ}

theorem entryAt_succ (k : ℕ) : entryAt f start (k + 1) = entryAt f start k + 8 + (4 + entryLength f (entryAt f start k)) :=
  Function.iterate_succ_apply' _ _ _

theorem Chain.mono {j : ℕ} (h : Chain f p start k) (hj : j ≤ k) : Chain f p start j := fun i hi => h i (hi.trans_le hj)

theorem Chain.succ (h : Chain f p start k) (hlt : entryAt f start k < p) (htag : TaggedEnd f (entryAt f start k)) :
    Chain f p start (k + 1) := by
  intro i hi
  rcases Nat.lt_succ_iff_lt_or_eq.1 hi with hi | rfl
  · exact h i hi
  · exact ⟨hlt, htag⟩

theorem goesOn_looking : SigSearch.goesOn p (.looking a) = true ↔ a < p := decide_eq_true_iff

theorem not_taggedFirmware_of_end (h : TaggedEnd f a) : ¬ TaggedFirmware f a := by
  intro hfw
  rw [TaggedEnd, hfw] at h
  exact absurd h (by decide)

theorem round_of_taggedFirmware (h : TaggedFirmware f a) :
    SigSearch.round f (.looking a) = .found (a + 8 + 4) (entryLength f a) := by
  have hfw : f.read a 8 = fwimgIdentifier ++ [0] := h
  rw [SigSearch.round, if_neg (not_not.2 hfw)]
  rfl

/-- An entry that is skipped. -/
theorem round_of_taggedEnd (h : TaggedEnd f a) :
    SigSearch.round f (.looking a) = .looking (a + 8 + (4 + entryLength f a)) := by
  have hfw : f.read a 8 ≠ fwimgIdentifier ++ [0] := not_taggedFirmware_of_end h
  have hend : (f.read a 8).take 5 = endIdentifier := h
  rw [SigSearch.round, if_pos hfw, if_neg (not_not.2 hend)]
  rfl

/-- What a round does, by the tag of the entry. -/
theorem round_cases (f : Flash) (a : UInt32) :
    (TaggedFirmware f a ∧ SigSearch.round f (.looking a) = .found (a + 8 + 4) (entryLength f a)) ∨
      (TaggedEnd f a ∧ SigSearch.round f (.looking a) = .looking (a + 8 + (4 + entryLength f a))) ∨
      SigSearch.round f (.looking a) = .failed := by
  by_cases hfw : f.read a 8 = fwimgIdentifier ++ [0]
  · exact .inl ⟨hfw, round_of_taggedFirmware hfw⟩
  · by_cases hend : (f.read a 8).take 5 = endIdentifier
    · exact .inr (.inl ⟨hend, round_of_taggedEnd hend⟩)
    · exact .inr (.inr (by rw [SigSearch.round, if_pos hfw, if_pos hend]))

theorem search_of_chain (h : Chain f p start k) :
    whileN (SigSearch.goesOn p) (SigSearch.round f) k (.looking start) = .looking (entryAt f start k) := by
  induction k with
  | zero => rfl
  | succ k ih =>
    obtain ⟨hlt, htag⟩ := h k k.lt_succ_self
    rw [whileN_succ', ih (h.mono k.le_succ), if_pos (goesOn_looking.2 hlt), round_of_taggedEnd htag, entryAt_succ]

theorem chain_of_goesOn (h : SigSearch.goesOn p (whileN (SigSearch.goesOn p) (SigSearch.round f) k (.looking start)) = true) :
    Chain f p start k ∧ entryAt f start k < p := by
  induction k with
  | zero => exact ⟨fun i hi => absurd hi (Nat.not_lt_zero i), goesOn_looking.1 h⟩
  | succ k ih =>
    obtain ⟨hgo, hsucc⟩ := goesOn_of_succ h
    obtain ⟨hchain, hlt⟩ := ih hgo
    rw [hsucc, search_of_chain hchain] at h
    rcases round_cases f (entryAt f start k) with ⟨-, hr⟩ | ⟨htag, hr⟩ | hr
    · rw [hr] at h
      cases h
    · rw [hr, ← entryAt_succ] at h
      exact ⟨hchain.succ hlt htag, goesOn_looking.1 h⟩
    · rw [hr] at h
      cases h

/-- The address that a search is at. -/
def SigSearch.address : SigSearch → Fin UInt32.size
  | .looking a => a.toFin
  | .found .. | .failed => 0

/-- **The search ends** exactly when the entries do not come round. -/
theorem search_ends_iff (f : Flash) (p start : UInt32) :
    (∃ n, SigSearch.goesOn p (whileN (SigSearch.goesOn p) (SigSearch.round f) n (.looking start)) = false) ↔
      ¬ ComesRound f p start := by
  have hkey : ∀ s t : SigSearch, s.goesOn p = true → t.goesOn p = true →
      s.address = t.address → s = t := by
    intro s t hs ht hst
    cases s with
    | looking a =>
      cases t with
      | looking b => exact congrArg SigSearch.looking (UInt32.toFin_inj.1 hst)
      | found | failed => cases ht
    | found | failed => cases hs
  rw [ends_iff_of_finite _ hkey, not_iff_not]
  constructor
  · rintro ⟨j, k, hjk, hgo, heq⟩
    obtain ⟨hchain, -⟩ := chain_of_goesOn hgo
    rw [search_of_chain hchain, search_of_chain (hchain.mono hjk.le)] at heq
    exact ⟨j, k, hjk, hchain, SigSearch.looking.inj heq⟩
  · rintro ⟨j, k, hjk, hchain, heq⟩
    refine ⟨j, k, hjk, ?_, ?_⟩
    · rw [search_of_chain hchain, ← heq]
      exact goesOn_looking.2 (hchain j hjk).1
    · rw [search_of_chain hchain, search_of_chain (hchain.mono hjk.le), heq]

/-- What a search that has ended has come to. -/
theorem search_ended (h : SigSearch.goesOn p (whileN (SigSearch.goesOn p) (SigSearch.round f) n (.looking start)) = false) :
    (∃ a, whileN (SigSearch.goesOn p) (SigSearch.round f) n (.looking start) = .looking a) ∨
      (∃ a, FirmwareEntry f p start a ∧
        whileN (SigSearch.goesOn p) (SigSearch.round f) n (.looking start) = .found (a + 8 + 4) (entryLength f a)) ∨
      whileN (SigSearch.goesOn p) (SigSearch.round f) n (.looking start) = .failed := by
  induction n with
  | zero => exact .inl ⟨start, rfl⟩
  | succ n ih =>
    cases hgo : SigSearch.goesOn p (whileN (SigSearch.goesOn p) (SigSearch.round f) n (.looking start)) with
    | false =>
      rw [whileN_succ', if_neg (by rw [hgo]; exact Bool.false_ne_true)]
      exact ih hgo
    | true =>
      obtain ⟨hchain, hlt⟩ := chain_of_goesOn hgo
      rw [whileN_succ', if_pos hgo, search_of_chain hchain]
      rcases round_cases f (entryAt f start n) with ⟨htag, hr⟩ | ⟨-, hr⟩ | hr
      · exact .inr (.inl ⟨_, ⟨n, hchain, rfl, hlt, htag⟩, hr⟩)
      · exact .inl ⟨_, hr⟩
      · exact .inr (.inr hr)

/-- The entry of the firmware image is found. -/
theorem FirmwareEntry.search (h : FirmwareEntry f p start a) :
    ∃ n, whileN (SigSearch.goesOn p) (SigSearch.round f) n (.looking start) = .found (a + 8 + 4) (entryLength f a) := by
  obtain ⟨k, hchain, rfl, hlt, htag⟩ := h
  refine ⟨k + 1, ?_⟩
  rw [whileN_succ', search_of_chain hchain, if_pos (goesOn_looking.2 hlt), round_of_taggedFirmware htag]

/-- There is one such entry at most. -/
theorem FirmwareEntry.unique (h : FirmwareEntry f p start a) (h' : FirmwareEntry f p start a') : a = a' := by
  obtain ⟨n, hn⟩ := h.search
  obtain ⟨n', hn'⟩ := h'.search
  have hsame : whileN (SigSearch.goesOn p) (SigSearch.round f) n (.looking start) =
      whileN (SigSearch.goesOn p) (SigSearch.round f) n' (.looking start) :=
    whileN_eq_of_exits (by rw [hn]; rfl) (by rw [hn']; rfl)
  rw [hn, hn'] at hsame
  simpa using (SigSearch.found.inj hsame).1

end Search

/-! ## What is expected -/

/-- The key has a length that is allowed. -/
def KeyAllowed (keyVal : List UInt8) : Prop := rsaMinKeyBits ≤ readProp keyVal 256 2 ∧ readProp keyVal 256 2 ≤ rsaMaxKeyBits

section Expected

variable (c : BootConfig) (f : Flash) (s : BootState) (m : HashAndPower) (rest : ℕ → UInt8)

/-- The signature of an entry, as `pow_mod` leaves it. -/
def BootState.decrypted (a : UInt32) : List UInt8 :=
  m.powMod (rsaKeyOf (s.keyData c f)) (f.read (a + 8 + 4) (entryLength f a).toNat)

/-- The entry lies before the end of the product information, its signature is as long as the key, and it decrypts to the padding
and the digest. -/
structure Authentic (a : UInt32) : Prop where
  before : a.toNat + 12 + (entryLength f a).toNat ≤ s.productInfoOffset.toNat
  length : (entryLength f a).toNat = (rsaKeyOf (s.keyData c f)).len * 4
  decrypted : s.decrypted c f m a = paddingSha256Rsa2048 ++ s.digest f m

/-- A run that touches its buffers only, and returns 0 only for the entry of the firmware image when it is authentic. -/
structure SoundRun (r : FinishRun) : Prop where
  inBounds : ∀ a ∈ r.accesses, a.InBounds
  authentic : r.code = 0 → ∃ a, FirmwareEntry f s.productInfoOffset (s.sigStart + 8) a ∧ Authentic c f s m a

/-- **What is expected of `hrot_finish`**: it ends, with a sound run. -/
def VerdictSound : Prop := ∃ n r, hrotFinishRun c f s m rest n = some r ∧ SoundRun c f s m r

/-- The entry fits into its buffer, and where the verification comes to the hash, the comparison stays within the copy of the
hash and, when it succeeds, is one of 32 bytes for an entry that lies before the end of the product information. -/
structure EntryFits (a : UInt32) : Prop where
  buffer : entryLength f a ≤ 1024
  compared : a + 8 + 4 ≤ s.productInfoOffset →
    KeyAllowed (s.keyData c f) → (entryLength f a).toNat = (rsaKeyOf (s.keyData c f)).len * 4 →
    (s.decrypted c f m a).take padLen = paddingSha256Rsa2048 →
    (entryLength f a).toNat ≤ 288 ∧
      ((s.decrypted c f m a).drop padLen = hashBytes (s.digest f m) rest ((entryLength f a).toNat - padLen) →
        (entryLength f a).toNat = 256 ∧ a.toNat + 12 + 256 ≤ s.productInfoOffset.toNat)

/-- **The condition**, when the two identifiers are there: the entries do not come round, and the one of the firmware image
fits. -/
def VerdictDecidable : Prop :=
  (s.keyData c f).take 7 = startIdentifier → f.read s.sigStart 8 = startIdentifier ++ [0] →
    ¬ ComesRound f s.productInfoOffset (s.sigStart + 8) ∧
      ∀ a, FirmwareEntry f s.productInfoOffset (s.sigStart + 8) a → EntryFits c f s m rest a

end Expected

/-! ## The verification, as a whole -/

section Verification

variable {m : HashAndPower} {rest : ℕ → UInt8} {keyVal sig digest : List UInt8} {hashLen : ℕ}

theorem KeyAllowed.len (h : KeyAllowed keyVal) : 64 ≤ (rsaKeyOf keyVal).len ∧ (rsaKeyOf keyVal).len ≤ 128 := by
  obtain ⟨hmin, hmax⟩ : 2048 ≤ readProp keyVal 256 2 ∧ readProp keyVal 256 2 ≤ 4096 := h
  change 64 ≤ readProp keyVal 256 2 / 32 ∧ readProp keyVal 256 2 / 32 ≤ 128
  omega

theorem inBounds_after {accesses : List BufferAccess} {r : FinishRun} (h : ∀ a ∈ accesses, a.InBounds) :
    (∀ a ∈ (r.after accesses).accesses, a.InBounds) ↔ ∀ a ∈ r.accesses, a.InBounds := by
  rw [FinishRun.after, List.forall_mem_append]
  exact and_iff_right h

/-- What `rsa_verify_key_SHA256` comes to: it fails before the hash, or it compares the hash. -/
theorem rsaVerify_cases (m : HashAndPower) (rest : ℕ → UInt8) (sig digest : List UInt8) (key : RsaPublicKey)
    (hkey : 64 ≤ key.len ∧ key.len ≤ 128) :
    (¬ (sig.length = key.len * 4 ∧ (m.powMod key sig).take padLen = paddingSha256Rsa2048) ∧
      (rsaVerifyKeySHA256 m rest key (some sig) sig.length digest).code ≠ 0 ∧
      ∀ a ∈ (rsaVerifyKeySHA256 m rest key (some sig) sig.length digest).accesses, a.InBounds) ∨
    ((sig.length = key.len * 4 ∧ (m.powMod key sig).take padLen = paddingSha256Rsa2048) ∧
      ((rsaVerifyKeySHA256 m rest key (some sig) sig.length digest).code = 0 ↔
        (m.powMod key sig).drop padLen = hashBytes digest rest (sig.length - padLen)) ∧
      ((∀ a ∈ (rsaVerifyKeySHA256 m rest key (some sig) sig.length digest).accesses, a.InBounds) ↔ sig.length ≤ 288)) := by
  by_cases hlen : sig.length = key.len * 4
  · have hsig : ¬ rsaMaxSigBits / 8 < sig.length := by
      show ¬ 512 < sig.length
      omega
    have hstack : ¬ rsaMaxKeyBits / 32 < key.len := by
      show ¬ 128 < key.len
      omega
    have hbuffer : ∀ a ∈ [(⟨.linebuf1, 0, sig.length⟩ : BufferAccess)], a.InBounds := by
      intro a ha
      rw [List.mem_singleton.1 ha]
      show 0 + sig.length ≤ 1024
      omega
    by_cases hpad : (m.powMod key sig).take padLen = paddingSha256Rsa2048
    · refine .inr ⟨⟨hlen, hpad⟩, ?_⟩
      have hrun : rsaVerifyKeySHA256 m rest key (some sig) sig.length digest =
          ⟨[⟨.linebuf1, 0, sig.length⟩] ++ [⟨.hashCopy, 0, sig.length - padLen⟩],
            if (m.powMod key sig).drop padLen = hashBytes digest rest (sig.length - padLen) then 0 else -eacces⟩ := by
        rw [rsaVerifyKeySHA256]
        dsimp only
        rw [if_neg (not_not.2 hlen), if_neg hsig, if_neg hstack, if_neg (not_not.2 hpad)]
        by_cases hhash : (m.powMod key sig).drop padLen = hashBytes digest rest (sig.length - padLen)
        · rw [if_neg (not_not.2 hhash), if_pos hhash]
          rfl
        · rw [if_pos hhash, if_neg hhash]
          rfl
      rw [hrun]
      constructor
      · dsimp only
        split_ifs with h
        · exact iff_of_true rfl h
        · exact iff_of_false (by decide) h
      · dsimp only
        rw [List.forall_mem_append, and_iff_right hbuffer]
        simp only [List.mem_singleton, forall_eq]
        show 0 + (sig.length - 224) ≤ 64 ↔ sig.length ≤ 288
        omega
    · refine .inl ⟨fun h => hpad h.2, ?_⟩
      have hrun : rsaVerifyKeySHA256 m rest key (some sig) sig.length digest = ⟨[⟨.linebuf1, 0, sig.length⟩], -einval⟩ := by
        rw [rsaVerifyKeySHA256]
        dsimp only
        rw [if_neg (not_not.2 hlen), if_neg hsig, if_neg hstack, if_pos hpad]
      rw [hrun]
      exact ⟨show -einval ≠ 0 by decide, hbuffer⟩
  · refine .inl ⟨fun h => hlen h.1, ?_⟩
    have hrun : rsaVerifyKeySHA256 m rest key (some sig) sig.length digest = ⟨[], -einval⟩ := by
      rw [rsaVerifyKeySHA256]
      dsimp only
      rw [if_pos hlen]
    rw [hrun]
    exact ⟨show -einval ≠ 0 by decide, fun a ha => absurd ha List.not_mem_nil⟩

/-- The key is read from `linebuf`, and the hash is copied. -/
theorem keyAccesses_inBounds (h : KeyAllowed keyVal) :
    ∀ a ∈ ([⟨.linebuf, 256, 2⟩, ⟨.linebuf, 100, 4⟩] ++ [⟨.linebuf, 512, 4 * (rsaKeyOf keyVal).len⟩,
      ⟨.linebuf, 1024, 4 * (rsaKeyOf keyVal).len⟩, ⟨.output, 0, 64⟩, ⟨.hashCopy, 0, 64⟩] : List BufferAccess), a.InBounds := by
  obtain ⟨-, hlen⟩ := h.len
  simp only [List.cons_append, List.nil_append, List.forall_mem_cons]
  refine ⟨by decide, by decide, ?_, ?_, by decide, by decide, fun a ha => absurd ha List.not_mem_nil⟩
  · show 512 + 4 * (rsaKeyOf keyVal).len ≤ 16384
    omega
  · show 1024 + 4 * (rsaKeyOf keyVal).len ≤ 16384
    omega

/-- A key that is allowed, or not. -/
theorem rsaGetPubKey_cases (m : HashAndPower) (rest : ℕ → UInt8) (keyVal : List UInt8) (sig : Option (List UInt8)) (sigLen : ℕ)
    (digest : List UInt8) :
    (¬ KeyAllowed keyVal ∧ (rsaGetPubKeyUbootVerify m rest keyVal sig sigLen 64 digest).code ≠ 0 ∧
      ∀ a ∈ (rsaGetPubKeyUbootVerify m rest keyVal sig sigLen 64 digest).accesses, a.InBounds) ∨
    (KeyAllowed keyVal ∧
      (rsaGetPubKeyUbootVerify m rest keyVal sig sigLen 64 digest).code =
        (rsaVerifyKeySHA256 m rest (rsaKeyOf keyVal) sig sigLen digest).code ∧
      ((∀ a ∈ (rsaGetPubKeyUbootVerify m rest keyVal sig sigLen 64 digest).accesses, a.InBounds) ↔
        ∀ a ∈ (rsaVerifyKeySHA256 m rest (rsaKeyOf keyVal) sig sigLen digest).accesses, a.InBounds)) := by
  by_cases hkey : KeyAllowed keyVal
  · refine .inr ⟨hkey, ?_⟩
    rw [rsaGetPubKeyUbootVerify]
    dsimp only
    rw [if_neg (fun h => h.elim hkey.2.not_gt hkey.1.not_gt)]
    exact ⟨rfl, inBounds_after (keyAccesses_inBounds hkey)⟩
  · refine .inl ⟨hkey, ?_⟩
    rw [rsaGetPubKeyUbootVerify]
    dsimp only
    rw [if_pos (by by_contra h; rw [not_or, Nat.not_lt, Nat.not_lt] at h; exact hkey ⟨h.2, h.1⟩)]
    exact ⟨by decide, by decide⟩

/-- Without a signature it fails. -/
theorem rsaGetPubKey_none (m : HashAndPower) (rest : ℕ → UInt8) (keyVal digest : List UInt8) :
    (rsaGetPubKeyUbootVerify m rest keyVal none 0 64 digest).code ≠ 0 ∧
      ∀ a ∈ (rsaGetPubKeyUbootVerify m rest keyVal none 0 64 digest).accesses, a.InBounds := by
  rcases rsaGetPubKey_cases m rest keyVal none 0 digest with ⟨-, h⟩ | ⟨-, hcode, hbounds⟩
  · exact h
  · rw [hcode, hbounds, rsaVerifyKeySHA256]
    exact ⟨by decide, fun a ha => absurd ha List.not_mem_nil⟩

/-- With a signature: it fails before the hash, or it compares the hash. -/
theorem rsaGetPubKey_some (m : HashAndPower) (rest : ℕ → UInt8) (keyVal sig digest : List UInt8) :
    (¬ (KeyAllowed keyVal ∧ sig.length = (rsaKeyOf keyVal).len * 4 ∧
        (m.powMod (rsaKeyOf keyVal) sig).take padLen = paddingSha256Rsa2048) ∧
      (rsaGetPubKeyUbootVerify m rest keyVal (some sig) sig.length 64 digest).code ≠ 0 ∧
      ∀ a ∈ (rsaGetPubKeyUbootVerify m rest keyVal (some sig) sig.length 64 digest).accesses, a.InBounds) ∨
    ((KeyAllowed keyVal ∧ sig.length = (rsaKeyOf keyVal).len * 4 ∧
        (m.powMod (rsaKeyOf keyVal) sig).take padLen = paddingSha256Rsa2048) ∧
      ((rsaGetPubKeyUbootVerify m rest keyVal (some sig) sig.length 64 digest).code = 0 ↔
        (m.powMod (rsaKeyOf keyVal) sig).drop padLen = hashBytes digest rest (sig.length - padLen)) ∧
      ((∀ a ∈ (rsaGetPubKeyUbootVerify m rest keyVal (some sig) sig.length 64 digest).accesses, a.InBounds) ↔
        sig.length ≤ 288)) := by
  rcases rsaGetPubKey_cases m rest keyVal (some sig) sig.length digest with ⟨hkey, h⟩ | ⟨hkey, hcode, hbounds⟩
  · exact .inl ⟨fun hall => hkey hall.1, h⟩
  · rw [hcode, hbounds]
    rcases rsaVerify_cases m rest sig digest (rsaKeyOf keyVal) hkey.len with
      ⟨hno, h⟩ | ⟨hyes, h⟩
    · exact .inl ⟨fun hall => hno hall.2, h⟩
    · exact .inr ⟨⟨hkey, hyes⟩, h⟩

end Verification

/-! ## The verdict -/

section Verdict

variable {c : BootConfig} {f : Flash} {s : BootState} {m : HashAndPower} {rest : ℕ → UInt8} {a : UInt32} {n : ℕ} {r : FinishRun}

theorem length_read (f : Flash) (a : UInt32) (n : ℕ) : (f.read a n).length = n := length_slice _ _ _

/-- 32 bytes of the hash are the digest. -/
theorem hashBytes_digest (f : Flash) (s : BootState) (m : HashAndPower) (rest : ℕ → UInt8) :
    hashBytes (s.digest f m) rest 32 = s.digest f m := by
  have hlength : (s.digest f m).length = 32 := m.length_sha256 _
  rw [hashBytes, hlength, List.take_of_length_le hlength.le, Nat.sub_self, slice_zero, List.append_nil]

/-- A comparison that succeeds is one of the digest exactly when it is one of 32 bytes. -/
theorem authentic_iff (hlength : (entryLength f a).toNat = (rsaKeyOf (s.keyData c f)).len * 4)
    (hpad : (s.decrypted c f m a).take padLen = paddingSha256Rsa2048)
    (hhash : (s.decrypted c f m a).drop padLen = hashBytes (s.digest f m) rest ((entryLength f a).toNat - padLen)) :
    Authentic c f s m a ↔ (entryLength f a).toNat = 256 ∧ a.toNat + 12 + 256 ≤ s.productInfoOffset.toNat := by
  have hsplit : s.decrypted c f m a =
      paddingSha256Rsa2048 ++ hashBytes (s.digest f m) rest ((entryLength f a).toNat - padLen) := by
    rw [← hpad, ← hhash, List.take_append_drop]
  have hdecrypted : (s.decrypted c f m a).length = (entryLength f a).toNat := by
    rw [BootState.decrypted, m.length_powMod, length_read]
  constructor
  · intro h
    have hpadding : paddingSha256Rsa2048.length = 224 := by
      rw [paddingSha256Rsa2048, List.length_append, List.length_append, List.length_replicate]
      rfl
    have hdigest : (s.digest f m).length = 32 := m.length_sha256 _
    have h256 : (entryLength f a).toNat = 256 := by
      rw [← hdecrypted, h.decrypted, List.length_append, hpadding, hdigest]
    have hbefore := h.before
    rw [h256] at hbefore
    exact ⟨h256, hbefore⟩
  · rintro ⟨h256, hbefore⟩
    refine ⟨by rw [h256]; exact hbefore, hlength, ?_⟩
    rw [hsplit, h256, show 256 - padLen = 32 from rfl, hashBytes_digest]

/-- **The verification of an entry that is found** is sound exactly when the comparison of the hash fits. -/
theorem verify_found_iff : ((∀ x ∈ (s.verify c f m rest (.found (a + 8 + 4) (entryLength f a))).accesses, x.InBounds) ∧
      ((s.verify c f m rest (.found (a + 8 + 4) (entryLength f a))).code = 0 → Authentic c f s m a)) ↔
    (a + 8 + 4 ≤ s.productInfoOffset → KeyAllowed (s.keyData c f) →
      (entryLength f a).toNat = (rsaKeyOf (s.keyData c f)).len * 4 →
      (s.decrypted c f m a).take padLen = paddingSha256Rsa2048 →
      (entryLength f a).toNat ≤ 288 ∧
        ((s.decrypted c f m a).drop padLen = hashBytes (s.digest f m) rest ((entryLength f a).toNat - padLen) →
          (entryLength f a).toNat = 256 ∧ a.toNat + 12 + 256 ≤ s.productInfoOffset.toNat)) := by
  rw [BootState.verify]
  by_cases hp : s.productInfoOffset < a + 8 + 4
  · rw [if_pos hp]
    refine iff_of_true ⟨fun x hx => absurd hx List.not_mem_nil, fun h => absurd h (show (-1 : Int) ≠ 0 by decide)⟩ fun hle => ?_
    exact absurd hle (UInt32.not_le.2 hp)
  · rw [if_neg hp]
    have hcases := rsaGetPubKey_some m rest (s.keyData c f) (f.read (a + 8 + 4) (entryLength f a).toNat) (s.digest f m)
    rw [length_read] at hcases
    rcases hcases with ⟨hno, hcode, hbounds⟩ | ⟨⟨hkey, hlength, hpad⟩, hcode, hbounds⟩
    · exact iff_of_true ⟨hbounds, fun h => absurd h hcode⟩ fun _ hkey hlength hpad => absurd ⟨hkey, hlength, hpad⟩ hno
    · rw [hcode, hbounds]
      have hbody : ((s.decrypted c f m a).drop padLen =
            hashBytes (s.digest f m) rest ((entryLength f a).toNat - padLen) → Authentic c f s m a) ↔
          ((s.decrypted c f m a).drop padLen = hashBytes (s.digest f m) rest ((entryLength f a).toNat - padLen) →
            (entryLength f a).toNat = 256 ∧ a.toNat + 12 + 256 ≤ s.productInfoOffset.toNat) :=
        ⟨fun h hhash => (authentic_iff hlength hpad hhash).1 (h hhash),
          fun h hhash => (authentic_iff hlength hpad hhash).2 (h hhash)⟩
      constructor
      · rintro ⟨hle, h⟩ - - - -
        exact ⟨hle, hbody.1 h⟩
      · intro h
        obtain ⟨hle, h⟩ := h (UInt32.not_lt.1 hp) hkey hlength hpad
        exact ⟨hle, hbody.2 h⟩

/-- The accesses before the search. -/
def startAccesses : List BufferAccess := [⟨.output, 0, 32⟩, ⟨.linebuf, 0, 16384⟩, ⟨.identifier, 0, 8⟩]

theorem startAccesses_inBounds : ∀ x ∈ startAccesses, x.InBounds := by decide

/-- A run that fails. -/
theorem soundRun_of_fails (hbounds : ∀ x ∈ r.accesses, x.InBounds) (hcode : r.code ≠ 0) : SoundRun c f s m r :=
  ⟨hbounds, fun h => absurd h hcode⟩

/-- **The run on the entry that is found.** -/
theorem soundRun_found_iff (h : FirmwareEntry f s.productInfoOffset (s.sigStart + 8) a) :
    SoundRun c f s m (.after (startAccesses ++ (SigSearch.found (a + 8 + 4) (entryLength f a)).accesses)
      (s.verify c f m rest (.found (a + 8 + 4) (entryLength f a)))) ↔ EntryFits c f s m rest a := by
  have hbuffer : (∀ x ∈ (SigSearch.found (a + 8 + 4) (entryLength f a)).accesses, x.InBounds) ↔ entryLength f a ≤ 1024 := by
    rw [SigSearch.accesses, List.forall_mem_cons, and_iff_right (by decide)]
    simp only [List.mem_singleton, forall_eq]
    rw [UInt32.le_iff_toNat_le]
    show 0 + (entryLength f a).toNat ≤ 1024 ↔ _
    rw [Nat.zero_add]
    rfl
  have hauthentic : (∃ a', FirmwareEntry f s.productInfoOffset (s.sigStart + 8) a' ∧ Authentic c f s m a') ↔
      Authentic c f s m a := by
    constructor
    · rintro ⟨a', h', hauth⟩
      rwa [h.unique h']
    · exact fun hauth => ⟨a, h, hauth⟩
  constructor
  · rintro ⟨hbounds, hcode⟩
    rw [FinishRun.after, List.forall_mem_append, List.forall_mem_append] at hbounds
    exact ⟨hbuffer.1 hbounds.1.2, verify_found_iff.1 ⟨hbounds.2, fun h0 => hauthentic.1 (hcode h0)⟩⟩
  · rintro ⟨hle, hcompared⟩
    obtain ⟨hbounds, hcode⟩ := verify_found_iff.2 hcompared
    constructor
    · rw [FinishRun.after, List.forall_mem_append, List.forall_mem_append]
      exact ⟨⟨startAccesses_inBounds, hbuffer.2 hle⟩, hbounds⟩
    · exact fun h0 => hauthentic.2 (hcode h0)

/-- The identifiers are there: the search, and the verification. -/
theorem hrotFinishRun_of_start (hkey : (s.keyData c f).take 7 = startIdentifier)
    (hsig : f.read s.sigStart 8 = startIdentifier ++ [0]) : hrotFinishRun c f s m rest n =
    if (s.search f n).goesOn s.productInfoOffset then none
    else some (.after (startAccesses ++ (s.search f n).accesses) (s.verify c f m rest (s.search f n))) := by
  rw [hrotFinishRun]
  rw [if_neg (not_not.2 hkey), if_neg (not_not.2 hsig)]
  rfl

/-- An identifier is missing. -/
theorem hrotFinishRun_of_not_start
    (h : ¬ ((s.keyData c f).take 7 = startIdentifier ∧ f.read s.sigStart 8 = startIdentifier ++ [0])) :
    hrotFinishRun c f s m rest n = some ⟨startAccesses, -1⟩ := by
  rw [hrotFinishRun]
  by_cases hkey : (s.keyData c f).take 7 = startIdentifier
  · rw [if_neg (not_not.2 hkey), if_pos fun hsig => h ⟨hkey, hsig⟩]
    rfl
  · rw [if_pos hkey]
    rfl

/-- A search that has not come to an entry of the firmware image fails soundly. -/
theorem soundRun_of_not_found (searched : SigSearch) (h : ∀ sigaddr sigLength, searched ≠ .found sigaddr sigLength) :
    SoundRun c f s m (.after (startAccesses ++ searched.accesses) (s.verify c f m rest searched)) := by
  have hsearch : ∀ x ∈ startAccesses ++ searched.accesses, x.InBounds := by
    cases searched with
    | found sigaddr sigLength => exact absurd rfl (h sigaddr sigLength)
    | looking | failed => exact (by decide : ∀ x ∈ startAccesses ++ [⟨.identifier, 0, 8⟩], x.InBounds)
  have hverify : (∀ x ∈ (s.verify c f m rest searched).accesses, x.InBounds) ∧ (s.verify c f m rest searched).code ≠ 0 := by
    cases searched with
    | found sigaddr sigLength => exact absurd rfl (h sigaddr sigLength)
    | failed => exact ⟨fun x hx => absurd hx List.not_mem_nil, show (-1 : Int) ≠ 0 by decide⟩
    | looking sigaddr =>
      rw [BootState.verify]
      split_ifs
      · exact ⟨fun x hx => absurd hx List.not_mem_nil, show (-1 : Int) ≠ 0 by decide⟩
      · obtain ⟨hcode, hbounds⟩ := rsaGetPubKey_none m rest (s.keyData c f) (s.digest f m)
        exact ⟨hbounds, hcode⟩
  exact soundRun_of_fails ((inBounds_after hsearch).2 hverify.1) hverify.2

/-- **The verdict is sound** exactly when the entries do not come round, and the one of the firmware image fits. -/
theorem verdictSound_iff (c : BootConfig) (f : Flash) (s : BootState) (m : HashAndPower) (rest : ℕ → UInt8) :
    VerdictSound c f s m rest ↔ VerdictDecidable c f s m rest := by
  by_cases hstart : (s.keyData c f).take 7 = startIdentifier ∧ f.read s.sigStart 8 = startIdentifier ++ [0]
  · obtain ⟨hkey, hsig⟩ := hstart
    constructor
    · rintro ⟨n, r, hrun, hsound⟩ - -
      rw [hrotFinishRun_of_start hkey hsig] at hrun
      split_ifs at hrun with hgo
      have hend := Bool.eq_false_of_not_eq_true hgo
      refine ⟨(search_ends_iff _ _ _).1 ⟨n, hend⟩, fun a ha => ?_⟩
      obtain ⟨k, hk⟩ := ha.search
      have hfound : s.search f n = .found (a + 8 + 4) (entryLength f a) :=
        (whileN_eq_of_exits hend (by rw [hk]; rfl)).trans hk
      rw [hfound] at hrun
      cases hrun
      exact (soundRun_found_iff ha).1 hsound
    · intro h
      obtain ⟨hround, hfits⟩ := h hkey hsig
      obtain ⟨n, hend⟩ := (search_ends_iff f s.productInfoOffset (s.sigStart + 8)).2 hround
      refine ⟨n, .after (startAccesses ++ (s.search f n).accesses) (s.verify c f m rest (s.search f n)), ?_, ?_⟩
      · rw [hrotFinishRun_of_start hkey hsig]
        exact if_neg (by rw [BootState.search, hend]; exact Bool.false_ne_true)
      · rcases search_ended hend with ⟨a, ha⟩ | ⟨a, hentry, ha⟩ | ha
        · rw [BootState.search, ha]
          exact soundRun_of_not_found _ fun _ _ => nofun
        · rw [BootState.search, ha]
          exact (soundRun_found_iff hentry).2 (hfits a hentry)
        · rw [BootState.search, ha]
          exact soundRun_of_not_found _ fun _ _ => nofun
  · refine iff_of_true ⟨0, _, hrotFinishRun_of_not_start hstart, ?_⟩ fun hkey hsig => absurd ⟨hkey, hsig⟩ hstart
    exact soundRun_of_fails startAccesses_inBounds (show (-1 : Int) ≠ 0 by decide)

end Verdict

/-! ## The result -/

section Result

variable {c : BootConfig} {f : Flash} {s : BootState} {m : HashAndPower} {rest : ℕ → UInt8} {n : ℕ} {r : FinishRun}

theorem readProp_take (keyVal : List UInt8) {n offset size : ℕ} (h : offset + size ≤ n) :
    readProp (keyVal.take n) offset size = readProp keyVal offset size := by
  rw [readProp, List.drop_take, List.take_take, Nat.min_eq_left (by omega)]
  rfl

/-- The key lies in the first 4096 bytes. -/
theorem rsaGetPubKey_take (m : HashAndPower) (rest : ℕ → UInt8) (keyVal : List UInt8) (sig : Option (List UInt8)) (sigLen : ℕ)
    (digest : List UInt8) : rsaGetPubKeyUbootVerify m rest (keyVal.take 4096) sig sigLen 64 digest =
      rsaGetPubKeyUbootVerify m rest keyVal sig sigLen 64 digest := by
  have hbits : readProp (keyVal.take 4096) 256 2 = readProp keyVal 256 2 := readProp_take keyVal (by decide)
  by_cases hkey : KeyAllowed keyVal
  · obtain ⟨-, hlen⟩ : 64 ≤ readProp keyVal 256 2 / 32 ∧ readProp keyVal 256 2 / 32 ≤ 128 := hkey.len
    have hsame : rsaKeyOf (keyVal.take 4096) = rsaKeyOf keyVal := by
      rw [rsaKeyOf, hbits, readProp_take keyVal (by decide), List.drop_take, List.drop_take, List.take_take, List.take_take,
        Nat.min_eq_left (by omega), Nat.min_eq_left (by omega)]
      rfl
    rw [rsaGetPubKeyUbootVerify, hbits, hsame]
    rfl
  · have hnot : rsaMaxKeyBits < readProp keyVal 256 2 ∨ readProp keyVal 256 2 < rsaMinKeyBits := by
      by_contra h
      rw [not_or, Nat.not_lt, Nat.not_lt] at h
      exact hkey ⟨h.2, h.1⟩
    rw [rsaGetPubKeyUbootVerify, rsaGetPubKeyUbootVerify, hbits, if_pos hnot, if_pos hnot]

/-- The first bytes of what is read to `linebuf`. -/
theorem take_keyData (c : BootConfig) (f : Flash) (s : BootState) {k : ℕ} (hk : k ≤ keyInfoLength.toNat * 4) :
    (s.keyData c f).take k = f.read (s.keyInfo c) k := by
  rw [BootState.keyData, Flash.read, take_slice, Nat.min_eq_left hk]
  rfl

theorem keyBlock_eq (c : BootConfig) (f : Flash) (s : BootState) : s.keyBlock c f = (s.keyData c f).take 4096 :=
  (take_keyData c f s (by decide)).symm

/-- The verification of a signature, as `hrot_finish` uses it. -/
def HashAndPower.verdict (m : HashAndPower) (rest : ℕ → UInt8) (key sig hash : List UInt8) : Int :=
  (rsaGetPubKeyUbootVerify m rest key (some sig) sig.length 64 hash).code

/-- No key is as short as no signature. -/
theorem verdict_nil (m : HashAndPower) (rest : ℕ → UInt8) (key hash : List UInt8) : m.verdict rest key [] hash ≠ 0 := by
  rcases rsaGetPubKey_some m rest key [] hash with ⟨-, hcode, -⟩ | ⟨⟨hkey, hlen, -⟩, -⟩
  · exact hcode
  · have := hkey.len.1
    rw [List.length_nil] at hlen
    omega

/-- **The firmware is accepted** by the run exactly when `hrot_finish` accepts it. -/
theorem hrotFinishRun_zero_iff (h : hrotFinishRun c f s m rest n = some r) :
    r.code = 0 ↔ s.hrotFinish c f n m.sha256 (m.verdict rest) = 0 := by
  rw [BootState.hrotFinish]
  by_cases hstart : (s.keyData c f).take 7 = startIdentifier ∧ f.read s.sigStart 8 = startIdentifier ++ [0]
  · obtain ⟨hkey, hsig⟩ := hstart
    rw [hrotFinishRun_of_start hkey hsig] at h
    split_ifs at h with hgo
    cases h
    rw [take_keyData c f s (by decide)] at hkey
    rw [if_neg (not_not.2 hkey), if_neg (not_not.2 (show f.read (s.productInfoOffset - prodSigOffset) 8 = _ from hsig))]
    have hsearch : whileN (SigSearch.goesOn s.productInfoOffset) (SigSearch.round f) n
        (.looking (s.productInfoOffset - prodSigOffset + 8)) = s.search f n := rfl
    rw [hsearch]
    show (s.verify c f m rest (s.search f n)).code = 0 ↔ _
    cases s.search f n with
    | failed => exact Iff.rfl
    | looking sigaddr =>
      dsimp only
      rw [BootState.verify]
      split_ifs
      · exact iff_of_false (show (-1 : Int) ≠ 0 by decide) id
      · exact iff_of_false (rsaGetPubKey_none m rest _ _).1 (verdict_nil m rest _ _)
    | found sigaddr sigLength =>
      dsimp only
      rw [BootState.verify]
      split_ifs
      · exact iff_of_false (show (-1 : Int) ≠ 0 by decide) id
      · rw [HashAndPower.verdict, keyBlock_eq, rsaGetPubKey_take, length_read]
        rfl
  · rw [hrotFinishRun_of_not_start hstart] at h
    cases h
    rw [take_keyData c f s (by decide)] at hstart
    by_cases hkey : f.read (s.keyInfo c) 7 = startIdentifier
    · have hsig : f.read (s.productInfoOffset - prodSigOffset) 8 ≠ startIdentifier ++ [0] := fun h => hstart ⟨hkey, h⟩
      rw [if_neg (not_not.2 hkey), if_pos hsig]
    · rw [if_pos hkey]

end Result

/-! ## A long entry -/

/-- An image of three sectors. -/
def signedSectors : BootConfig := ⟨0x10000, 0x30000, false, false⟩

/-- The header of a module, with the third byte of its location, its checksum, its name and its type. -/
def signedHeader (location checksum : UInt8) (name : List UInt8) (type : UInt8) : List UInt8 :=
  fmhSignature ++ [1, 8, 64, 0, 0, 0, 1, 0, 0, 0, location, 0, 0, 0, 0, checksum] ++ name ++ [0, 0, type, 0, 0, 0, location, 0, 0x40]
    ++ List.replicate 21 0 ++ [0xAA, 0x55]

/-- The boot loader in the second sector, its key in the first one, and the firmware in the third sector. The entry of the
firmware image says that it has 2048 bytes. -/
def longEntryFlash : Flash where
  size := 0x30000
  byte a :=
    if 0xF000 ≤ a ∧ a < 0xF008 then (startIdentifier ++ [0]).getD (a - 0xF000) 0xFF
    else if 0x10000 ≤ a ∧ a < 0x10040 then
      (signedHeader 1 0xB2 [0x62, 0x6F, 0x6F, 0x74, 0, 0, 0, 0] 1).getD (a - 0x10000) 0xFF
    else if 0x20000 ≤ a ∧ a < 0x20040 then (signedHeader 2 0x63 (List.replicate 8 0) 2).getD (a - 0x20000) 0xFF
    else if 0x2F000 ≤ a ∧ a < 0x2F014 then
      (startIdentifier ++ [0] ++ fwimgIdentifier ++ [0] ++ [0, 8, 0, 0]).getD (a - 0x2F000) 0xFF
    else 0xFF

/-- A hash and a power, for the verification that is not reached. -/
def plainHash : HashAndPower where
  sha256 _ := List.replicate 32 0
  powMod _ sig := sig
  length_sha256 _ := rfl
  length_powMod _ _ := rfl

/-- **The entry of the firmware image overruns its buffer.** -/
theorem not_verdictSound_overflow :
    ¬ VerdictSound signedSectors longEntryFlash (bootScan signedSectors longEntryFlash 1 3) plainHash (fun _ => 0) := by
  rintro ⟨n, r, hrun, hsound⟩
  have hkey : ((bootScan signedSectors longEntryFlash 1 3).keyData signedSectors longEntryFlash).take 7 = startIdentifier := by
    rw [take_keyData _ _ _ (by decide)]
    decide +kernel
  rw [hrotFinishRun_of_start hkey (by decide +kernel)] at hrun
  split_ifs at hrun with hgo
  have hone : (bootScan signedSectors longEntryFlash 1 3).search longEntryFlash 1 = .found 0x2F014 0x800 := by decide +kernel
  have hfound : (bootScan signedSectors longEntryFlash 1 3).search longEntryFlash n = .found 0x2F014 0x800 :=
    (whileN_eq_of_exits (Bool.eq_false_of_not_eq_true hgo)
      (by rw [BootState.search] at hone; rw [hone]; rfl)).trans hone
  rw [hfound] at hrun
  cases hrun
  have hstore : (⟨.linebuf1, 0, 2048⟩ : BufferAccess).InBounds :=
    hsound.inBounds _ (List.mem_append_left _ (List.mem_append_right _ (List.mem_cons_of_mem _ List.mem_cons_self)))
  exact absurd hstore (by decide)

end BmcBoot
