import Bmc.Boot.KeyBlock

/-!
# What the hash covers

* `HashBlock.Feeds`, `InRange`: the bytes of a block, and those of the range that a header declares; `hashLoop_feeds`: a hash
  that ends has been fed the whole range;
* `Uses`: the bytes of a module that is copied or executed, and of its header; `SelfHashed`: a module that is hashed itself;
* **`verified_iff`**: all that is used has been hashed, exactly when each module that is used is hashed itself or its bytes lie
  in ranges that other headers declare.
-/

namespace BmcBoot

open BmcLib BmcHelper

/-- The byte at this address is fed to the hash with the block, as it is. -/
def HashBlock.Feeds (b : HashBlock) (a : ℕ) : Prop :=
  b.start.toNat ≤ a ∧ a < b.start.toNat + b.size.toNat ∧ ¬ (b.masked = true ∧ isChecksum (a - b.start.toNat) = true)

/-- The byte has been fed to the hash. -/
def Fed (blocks : List HashBlock) (a : ℕ) : Prop := ∃ b ∈ blocks, b.Feeds a

/-- The byte lies in the range that a header declares, and is not a checksum that is cleared. -/
def InRange (c : BootConfig) (fmh : Found) (a : ℕ) : Prop :=
  ∃ p, hashPlan c fmh.header = some p ∧ p.1.toNat ≤ a ∧ a < (p.2 + p.1).toNat ∧
    ¬ (moduleType fmh.header = moduleFmhFirmware ∧ isChecksum (a - p.1.toNat) = true)

/-- The byte belongs to the module, or to its header but for the checksums. -/
def Uses (c : BootConfig) (fmh : Found) (a : ℕ) : Prop :=
  ((c.startaddress + moduleLocation fmh.header).toNat ≤ a ∧
      a < (c.startaddress + moduleLocation fmh.header).toNat + (moduleSize fmh.header).toNat) ∨
    (fmh.addr.toNat ≤ a ∧ a < fmh.addr.toNat + sizeofFmh ∧ isChecksum (a - fmh.addr.toNat) = false)

/-- All that is used has been hashed. -/
def Verified (c : BootConfig) (s : BootState) : Prop := ∀ fmh ∈ s.used, ∀ a, Uses c fmh a → Fed s.hashed a

/-- A module of a type that is hashed, whose header and whose body lie in the range that the header declares. The firmware
information begins with its header, and its body follows the checksums. -/
def SelfHashed (c : BootConfig) (fmh : Found) : Prop :=
  ∃ p, hashPlan c fmh.header = some p ∧
    (p.1.toNat ≤ fmh.addr.toNat ∧ fmh.addr.toNat + sizeofFmh ≤ (p.2 + p.1).toNat) ∧
    (p.1.toNat ≤ (c.startaddress + moduleLocation fmh.header).toNat ∧
      (c.startaddress + moduleLocation fmh.header).toNat + (moduleSize fmh.header).toNat ≤ (p.2 + p.1).toNat) ∧
    (moduleType fmh.header = moduleFmhFirmware → fmh.addr = p.1 ∧
      p.1.toNat + 54 ≤ (c.startaddress + moduleLocation fmh.header).toNat)

/-- Each module that is used is hashed itself, or lies in ranges that headers declare that are met. -/
def Covered (c : BootConfig) (s : BootState) : Prop :=
  ∀ fmh ∈ s.used, SelfHashed c fmh ∨ ∀ a, Uses c fmh a → ∃ m ∈ s.met, InRange c m a

/-- What a boot guarantees, when its scan comes to its end and the signature is verified. -/
def SecureBoot (c : BootConfig) (f : Flash) (pathID n : ℕ) (sha256 : List UInt8 → List UInt8)
    (rsaVerify : List UInt8 → List UInt8 → List UInt8 → Int) (P : BootState → Prop) : Prop :=
  Completes c f pathID n → (bootScan c f pathID n).hrotFinish c f n sha256 rsaVerify = 0 → P (bootScan c f pathID n)

/-! ## The loop over the blocks -/

section Loop

variable {stop s : UInt32} {masked : UInt32 → Bool}

theorem goesOn_iff {l : HashLoop} : l.goesOn stop = true ↔ l.start < stop := decide_eq_true_iff

/-- A block that reaches to the end of the addresses begins the loop anew, for ever. -/
theorem hashLoop_never (masked : UInt32 → Bool) (bs : List HashBlock) {t : UInt32} (hs : s < stop)
    (hwrap : 2 ^ 32 ≤ s.toNat + 262144) (ht : t.toNat ≤ s.toNat) (hmod : t.toNat % 262144 = s.toNat % 262144) (n : ℕ) :
    (whileN (HashLoop.goesOn stop) (HashLoop.round stop masked) n ⟨t, hashBlkSize, bs⟩).goesOn stop = true := by
  have hlt := UInt32.lt_iff_toNat_lt.1 hs
  have hstop := stop.toNat_lt
  have hinv := whileN_inv (P := fun l : HashLoop => l.start.toNat ≤ s.toNat ∧
      l.start.toNat % 262144 = s.toNat % 262144 ∧ l.hsSize = hashBlkSize)
    (c := HashLoop.goesOn stop) (f := HashLoop.round stop masked) (s := ⟨t, hashBlkSize, bs⟩) ?_ ⟨ht, hmod, rfl⟩ n
  · refine goesOn_iff.2 (UInt32.lt_iff_toNat_lt.2 ?_)
    omega
  · rintro l ⟨hle, hres, hsize⟩ -
    have hsum : (l.start + hashBlkSize).toNat = (l.start.toNat + 262144) % 2 ^ 32 := UInt32.toNat_add ..
    have hnot : ¬ (stop < l.start + l.hsSize ∧ l.start < stop) := by
      rw [hsize, UInt32.lt_iff_toNat_lt, hsum]
      omega
    have hround : l.round stop masked =
        { start := l.start + hashBlkSize, hsSize := hashBlkSize,
          blocks := l.blocks ++ [⟨l.start, hashBlkSize, masked l.start⟩] } := by
      rw [HashLoop.round, if_neg hnot, hsize]
    rw [hround]
    refine ⟨?_, ?_, rfl⟩
    · change (l.start + hashBlkSize).toNat ≤ _
      omega
    · change (l.start + hashBlkSize).toNat % _ = _
      omega

/-- A whole block, or what is left of it. -/
theorem round_of_whole {bs : List HashBlock} (h : ¬ (stop < s + hashBlkSize ∧ s < stop)) :
    (⟨s, hashBlkSize, bs⟩ : HashLoop).round stop masked =
      ⟨s + hashBlkSize, hashBlkSize, bs ++ [⟨s, hashBlkSize, masked s⟩]⟩ := by
  rw [HashLoop.round, if_neg h]

theorem round_of_rest {bs : List HashBlock} (h : stop < s + hashBlkSize ∧ s < stop) :
    (⟨s, hashBlkSize, bs⟩ : HashLoop).round stop masked =
      ⟨stop, stop - s, bs ++ [⟨s, stop - s, masked s⟩]⟩ := by
  have hsum : s + (stop - s) = stop := by rw [UInt32.add_comm, UInt32.sub_add_cancel]
  rw [HashLoop.round, if_pos h]
  dsimp only
  rw [hsum]

/-- **A hash that ends has been fed the whole range**, but for the checksums that are cleared at its start. -/
theorem hashLoop_feeds (n : ℕ) (bs : List HashBlock) (hmask : ∀ t, s < t → masked t = false)
    (hend : (whileN (HashLoop.goesOn stop) (HashLoop.round stop masked) n ⟨s, hashBlkSize, bs⟩).goesOn stop = false) :
    ∃ new, (whileN (HashLoop.goesOn stop) (HashLoop.round stop masked) n ⟨s, hashBlkSize, bs⟩).blocks = bs ++ new ∧
      ∀ a, Fed new a ↔
        s.toNat ≤ a ∧ a < stop.toNat ∧ ¬ (masked s = true ∧ isChecksum (a - s.toNat) = true) := by
  induction n generalizing s bs with
  | zero =>
    have hle : ¬ s < stop := fun hlt => by
      rw [whileN_zero, goesOn_iff.2 hlt] at hend
      cases hend
    rw [UInt32.lt_iff_toNat_lt] at hle
    refine ⟨[], (List.append_nil _).symm, fun a => ⟨fun ⟨_, hb, _⟩ => absurd hb List.not_mem_nil, fun h => ?_⟩⟩
    omega
  | succ n ih =>
    by_cases hs : s < stop
    · rw [whileN_succ_pos (goesOn_iff.2 hs)] at hend ⊢
      have hlt := UInt32.lt_iff_toNat_lt.1 hs
      have hsum : (s + hashBlkSize).toNat = (s.toNat + 262144) % 2 ^ 32 := UInt32.toNat_add ..
      by_cases hwrap : 2 ^ 32 ≤ s.toNat + 262144
      · -- the block reaches to the end of the addresses, and the loop does not end
        have hnever := hashLoop_never masked bs hs hwrap le_rfl rfl (n + 1)
        rw [whileN_succ_pos (goesOn_iff.2 hs), hend] at hnever
        cases hnever
      by_cases hrest : stop < s + hashBlkSize ∧ s < stop
      · have hstart : (⟨stop, stop - s, bs ++ [⟨s, stop - s, masked s⟩]⟩ : HashLoop).goesOn stop = false := by
          simp [HashLoop.goesOn]
        rw [round_of_rest hrest, whileN_of_exit hstart]
        have hsub : (stop - s).toNat = stop.toNat - s.toNat := UInt32.toNat_sub_of_le _ _ (UInt32.le_iff_toNat_le.2 hlt.le)
        refine ⟨_, rfl, fun a => ?_⟩
        simp only [Fed, List.mem_singleton, exists_eq_left, HashBlock.Feeds, hsub]
        rw [Nat.add_sub_cancel' hlt.le]
      · rw [round_of_whole hrest] at hend ⊢
        have hnext : (s + hashBlkSize).toNat = s.toNat + 262144 := by omega
        obtain ⟨new, hnew, hfed⟩ := ih _ (fun t ht => hmask t (by
          rw [UInt32.lt_iff_toNat_lt] at ht ⊢
          omega)) hend
        refine ⟨⟨s, hashBlkSize, masked s⟩ :: new, by rw [hnew, List.append_assoc]; rfl, fun a => ?_⟩
        have hle : s.toNat + 262144 ≤ stop.toNat := by
          rw [UInt32.lt_iff_toNat_lt, UInt32.lt_iff_toNat_lt] at hrest
          omega
        have hclear : masked (s + hashBlkSize) = false := hmask _ (UInt32.lt_iff_toNat_lt.2 (by omega))
        have hfar : s.toNat + 262144 ≤ a → isChecksum (a - s.toNat) = false := by
          intro hfar
          simp only [isChecksum, decide_eq_false_iff_not]
          omega
        have hcons : Fed (⟨s, hashBlkSize, masked s⟩ :: new) a ↔
            (⟨s, hashBlkSize, masked s⟩ : HashBlock).Feeds a ∨ Fed new a := by
          simp [Fed]
        rw [hcons, hfed, hclear, hnext, HashBlock.Feeds]
        change s.toNat ≤ a ∧ a < s.toNat + 262144 ∧ _ ∨ _ ↔ _
        by_cases ha : a < s.toNat + 262144
        · have h₁ : a < stop.toNat := by omega
          have h₂ : ¬ s.toNat + 262144 ≤ a := by omega
          simp [ha, h₁, h₂]
        · have h₁ : s.toNat + 262144 ≤ a := by omega
          have h₂ : s.toNat ≤ a := by omega
          simp [ha, h₁, h₂, hfar h₁]
    · have hnot : (⟨s, hashBlkSize, bs⟩ : HashLoop).goesOn stop = false := by
        simpa [HashLoop.goesOn] using hs
      rw [whileN_of_exit hnot]
      rw [UInt32.lt_iff_toNat_lt] at hs
      refine ⟨[], (List.append_nil _).symm, fun a => ⟨fun ⟨_, hb, _⟩ => absurd hb List.not_mem_nil, fun h => ?_⟩⟩
      omega

end Loop

/-! ## The scan -/

section Scan

variable {c : BootConfig} {f : Flash} {pathID n : ℕ} {s : BootState} {fmh : Found} {a : ℕ}

theorem fed_append {bs bs' : List HashBlock} : Fed (bs ++ bs') a ↔ Fed bs a ∨ Fed bs' a := by
  simp [Fed, or_and_right, exists_or]

theorem hashPlan_firmware {p : UInt32 × UInt32} (hp : hashPlan c fmh.header = some p)
    (htype : moduleType fmh.header = moduleFmhFirmware) : p.1 = c.startaddress + fmhLocation fmh.header := by
  rw [hashPlan, htype] at hp
  simp [moduleFmhFirmware, moduleJffs2, moduleBootloader] at hp
  exact hp ▸ rfl

/-- Only the first block can have checksums that are cleared. -/
theorem maskedBlock_eq_false {p : UInt32 × UInt32} (hp : hashPlan c fmh.header = some p) {t : UInt32} (ht : p.1 < t) :
    maskedBlock c fmh.header t = false := by
  refine decide_eq_false fun h => ?_
  rw [hashPlan_firmware hp h.1, h.2] at ht
  exact absurd ht (UInt32.lt_irrefl _)

theorem maskedBlock_start {p : UInt32 × UInt32} (hp : hashPlan c fmh.header = some p) :
    maskedBlock c fmh.header p.1 = true ↔ moduleType fmh.header = moduleFmhFirmware := by
  rw [maskedBlock, decide_eq_true_iff]
  exact ⟨fun h => h.1, fun h => ⟨h, hashPlan_firmware hp h⟩⟩

/-- The hash of one module, when it ends. -/
theorem hashModule_fed (hend : (s.hashModule c n fmh).hashEnds = true) :
    s.hashEnds = true ∧ (Fed (s.hashModule c n fmh).hashed a ↔ Fed s.hashed a ∨ InRange c fmh a) := by
  rw [BootState.hashModule] at hend ⊢
  cases hp : hashPlan c fmh.header with
  | none =>
    rw [hp] at hend
    refine ⟨hend, ?_⟩
    simp [InRange, hp]
  | some p =>
    rw [hp] at hend
    obtain ⟨hs, hloop⟩ := Bool.and_eq_true_iff.1 hend
    refine ⟨hs, ?_⟩
    obtain ⟨new, hnew, hfed⟩ := hashLoop_feeds n [] (fun t ht => maskedBlock_eq_false hp ht)
      (Bool.not_eq_true' _ ▸ hloop)
    change Fed (s.hashed ++ (hashLoop c n fmh.header p).blocks) a ↔ _
    rw [hashLoop, hnew, List.nil_append, fed_append, hfed, maskedBlock_start hp]
    simp [InRange, hp]

theorem hrotUpdate_eq : s.hrotUpdate c n fmh =
    { s.hashModule c n fmh with bootFmhLocation := (s.hrotUpdate c n fmh).bootFmhLocation } := by
  rw [BootState.hrotUpdate, BootState.noteBoot, BootState.hashModule, BootState.hashModule]
  split_ifs <;> cases hashPlan c fmh.header <;> rfl

/-- The hash has been fed the ranges of the headers that have been met, and a header that is used has been met. -/
structure Hashing (c : BootConfig) (s : BootState) : Prop where
  fed : s.hashEnds = true → ∀ a, Fed s.hashed a ↔ ∃ m ∈ s.met, InRange c m a
  used : ∀ m ∈ s.used, m ∈ s.met

theorem Hashing.round (h : Hashing c s) : Hashing c (bootRound c f pathID n s) := by
  rw [bootRound]
  split
  · exact ⟨h.fed, h.used⟩
  next fmh hfound =>
    have hnotes : Notes fmh _ ((s.hrotUpdate c n fmh).useModule c fmh pathID) := notes_useModule _
    have hused : (s.hrotUpdate c n fmh).used = s.used := by
      rw [hrotUpdate_eq, BootState.hashModule]
      split <;> rfl
    constructor
    · intro hend a
      change ((s.hrotUpdate c n fmh).useModule c fmh pathID).hashEnds = true at hend
      change Fed ((s.hrotUpdate c n fmh).useModule c fmh pathID).hashed a ↔
        ∃ m ∈ ((s.hrotUpdate c n fmh).useModule c fmh pathID).met ++ [fmh], InRange c m a
      rw [hnotes.hashEnds, hrotUpdate_eq] at hend
      obtain ⟨hs, hfed⟩ := hashModule_fed (a := a) hend
      rw [hnotes.hashed, hnotes.met, hrotUpdate_met, hrotUpdate_eq]
      change Fed (s.hashModule c n fmh).hashed a ↔ _
      rw [hfed, h.fed hs]
      simp [or_and_right, exists_or]
    · intro m hm
      change m ∈ ((s.hrotUpdate c n fmh).useModule c fmh pathID).used at hm
      change m ∈ ((s.hrotUpdate c n fmh).useModule c fmh pathID).met ++ [fmh]
      rw [hnotes.met, hrotUpdate_met, List.mem_append, List.mem_singleton]
      refine (hnotes.used m hm).imp (fun hm => ?_) id
      rw [hused] at hm
      exact h.used m hm

theorem hashing_bootScan (c : BootConfig) (f : Flash) (pathID n : ℕ) : Hashing c (bootScan c f pathID n) := by
  refine whileN_inv (P := Hashing c) (fun s h _ => h.round) ⟨fun _ a => ?_, fun m hm => ?_⟩ n
  · simp [BootState.start, Fed]
  · simp [BootState.start, BootState.used] at hm

/-- A module that is hashed itself lies in its own range. -/
theorem SelfHashed.inRange (h : SelfHashed c fmh) (ha : Uses c fmh a) : InRange c fmh a := by
  obtain ⟨p, hp, ⟨hlow, hhigh⟩, ⟨hmlow, hmhigh⟩, hfirmware⟩ := h
  refine ⟨p, hp, ?_⟩
  rcases ha with ⟨hle, hlt⟩ | ⟨hle, hlt, hclear⟩
  · refine ⟨by omega, by omega, fun ⟨htype, hcheck⟩ => ?_⟩
    have hfar := (hfirmware htype).2
    simp only [isChecksum, decide_eq_true_eq] at hcheck
    omega
  · refine ⟨by omega, by omega, fun ⟨htype, hcheck⟩ => ?_⟩
    rw [(hfirmware htype).1, hcheck] at hclear
    cases hclear

/-- **What runs is what has been verified**, exactly when each module that is used is hashed itself or lies in ranges that
headers declare that are met. -/
theorem verified_iff (c : BootConfig) (f : Flash) (pathID n : ℕ) (sha256 : List UInt8 → List UInt8)
    (rsaVerify : List UInt8 → List UInt8 → List UInt8 → Int) :
    SecureBoot c f pathID n sha256 rsaVerify (Verified c) ↔ SecureBoot c f pathID n sha256 rsaVerify (Covered c) := by
  refine forall_congr' fun hcompletes => forall_congr' fun _ => ?_
  have hhashing := hashing_bootScan c f pathID n
  refine forall₂_congr fun fmh hused => ?_
  simp only [hhashing.fed hcompletes.2]
  refine ⟨Or.inr, ?_⟩
  rintro (hself | hcovered) a ha
  · exact ⟨fmh, hhashing.used fmh hused, hself.inRange ha⟩
  · exact hcovered a ha

end Scan

/-! ## A module of a type that is not hashed -/

/-- Images of four sectors. -/
def fourSectors : BootConfig := ⟨0x4000, 0x10000, false, false⟩

/-- A header of a module of 64 bytes in an area of 16384 bytes, with its checksum, the second byte of its location, its type and
its flags. -/
def areaHeader (checksum location type flags : UInt8) : List UInt8 :=
  fmhSignature ++ [1, 8, 64, 0, 0, 0x40, 0, 0, 0, location, 0, 0, 0, 0, 0, checksum, 0, 0, 0, 0, 0, 0, 0, 0,
    1, 0, type, 0, 0, location, 0, 0, 0x40, 0, 0, 0, flags, 0] ++ List.replicate 16 0 ++ [0xAA, 0x55]

/-- The boot loader with its key, the firmware information with its signature, and a file system for data whose header says that
it is to be copied to memory and executed. -/
def jffs2Flash : Flash where
  size := 0x10000
  byte a :=
    if a < 0x40 then (bootHeader 0x20 0x55).getD a 0xFF
    else if 0x1000 ≤ a ∧ a < 0x1008 then (startIdentifier ++ [0]).getD (a - 0x1000) 0xFF
    else if 0x4000 ≤ a ∧ a < 0x4040 then (areaHeader 0xA7 0x40 0x02 0).getD (a - 0x4000) 0xFF
    else if 0x7000 ≤ a ∧ a < 0x7008 then (startIdentifier ++ [0]).getD (a - 0x7000) 0xFF
    else if 0x7008 ≤ a ∧ a < 0x7014 then (fwimgIdentifier ++ [0, 64, 0, 0, 0]).getD (a - 0x7008) 0xFF
    else if 0x8000 ≤ a ∧ a < 0x8040 then (areaHeader 0xFF 0x80 0x11 0x19).getD (a - 0x8000) 0xFF
    else 0xFF

/-- What has been signed: the bytes that the scan of this flash hashes. -/
def jffs2Signed : List UInt8 := (bootScan fourSectors jffs2Flash 1 8).hashed.flatMap (HashBlock.bytes jffs2Flash)

/-- The verification accepts this and nothing else. -/
def verifySigned (_key _signature digest : List UInt8) : Int := if digest = jffs2Signed then 0 else -1

/-- **The file system for data is executed, and no byte of it has been hashed.** -/
theorem not_verified_jffs2 : ¬ SecureBoot fourSectors jffs2Flash 1 8 id verifySigned (Verified fourSectors) := by
  intro h
  have hcompletes : Completes fourSectors jffs2Flash 1 8 := by decide +kernel
  have hsearch : whileN (SigSearch.goesOn (bootScan fourSectors jffs2Flash 1 8).productInfoOffset)
      (SigSearch.round jffs2Flash) 8
      (.looking ((bootScan fourSectors jffs2Flash 1 8).productInfoOffset - prodSigOffset + 8)) = .found 0x7014 64 := by
    decide +kernel
  have hfinish : (bootScan fourSectors jffs2Flash 1 8).hrotFinish fourSectors jffs2Flash 8 id verifySigned = 0 := by
    rw [BootState.hrotFinish, if_neg (by decide +kernel), if_neg (by decide +kernel), hsearch]
    dsimp only
    rw [if_neg (by decide +kernel), verifySigned, id, jffs2Signed, if_pos rfl]
  obtain ⟨fmh, hused, haddr⟩ : ∃ fmh ∈ (bootScan fourSectors jffs2Flash 1 8).used, fmh.addr = 0x8000 := by
    decide +kernel
  have huses : Uses fourSectors fmh 0x8000 := by
    rw [Uses, haddr]
    exact .inr (by decide)
  obtain ⟨b, hb, hfeeds⟩ := h hcompletes hfinish fmh hused _ huses
  have hlow : ∀ b ∈ (bootScan fourSectors jffs2Flash 1 8).hashed, b.start.toNat + b.size.toNat ≤ 0x4C00 := by
    decide +kernel
  have := hlow b hb
  have := hfeeds.2.1
  omega

end BmcBoot
