import Bmc.Boot.SecureBoot

/-!
# The key that verifies the firmware

* `BootState.bootModule`: the last header that says boot loader; `bootFmhLocation_eq`: the key is found through it;
* `InModule`: the region of a module, with the block of the key; `bootKey`: the block of the key that is read;
* **`bootKey_eq`**: contents that agree on the region of the boot loader give one key, when its header is the last one that
  says boot loader.
-/

namespace BmcBoot

open BmcLib BmcHelper

/-- The last header that says so. -/
def BootState.bootModule (s : BootState) : Option Found := (s.met.filter saysBoot).getLast?

/-- The region of a module: its header, its body, and the block before its `FMH_Location`, where the boot loader has the
key. -/
def InModule (c : BootConfig) (header : List UInt8) (addr : UInt32) (a : ℕ) : Prop :=
  (addr.toNat ≤ a ∧ a < addr.toNat + sizeofFmh) ∨
    ((c.startaddress + moduleLocation header).toNat ≤ a ∧
      a < (c.startaddress + moduleLocation header).toNat + (moduleSize header).toNat) ∨
    ((c.startaddress + fmhLocation header - keyInfoLength).toNat ≤ a ∧
      a < (c.startaddress + fmhLocation header - keyInfoLength).toNat + keyInfoLength.toNat)

/-- The block of the key that `hrot_finish` reads, when the scan comes to its end. -/
def bootKey (c : BootConfig) (f : Flash) (pathID n : ℕ) : Option (List UInt8) :=
  if Completes c f pathID n then some ((bootScan c f pathID n).keyBlock c f) else none

/-! ## What the scan has met -/

/-- A header that has been met is what is read at its address, and the last one that says boot loader has given
`boot_fmh_location`. -/
structure Scanned (f : Flash) (s : BootState) : Prop where
  read : ∀ fmh ∈ s.met, fmh.header = f.read fmh.addr sizeofFmh
  location : s.bootFmhLocation = (s.bootModule.map fun fmh => fmhLocation fmh.header).getD 0

section Scan

variable {c : BootConfig} {f : Flash} {pathID n : ℕ} {s : BootState} {fmh : Found}

theorem hrotUpdate_met : (s.hrotUpdate c n fmh).met = s.met := by
  have hnote : (s.noteBoot fmh).met = s.met := by
    rw [BootState.noteBoot]
    split_ifs <;> rfl
  rw [BootState.hrotUpdate, BootState.hashModule]
  split
  · exact hnote
  · exact hnote

theorem hrotUpdate_bootFmhLocation :
    (s.hrotUpdate c n fmh).bootFmhLocation = if saysBoot fmh then fmhLocation fmh.header else s.bootFmhLocation := by
  have hnote : (s.noteBoot fmh).bootFmhLocation = if saysBoot fmh then fmhLocation fmh.header else s.bootFmhLocation := by
    rw [BootState.noteBoot]
    split_ifs <;> rfl
  rw [BootState.hrotUpdate, BootState.hashModule]
  split
  · exact hnote
  · exact hnote

/-- What is noted of a module leaves the headers, the key and the hash, and no other module is used from then on. -/
structure Notes (fmh : Found) (s s' : BootState) : Prop where
  met : s'.met = s.met
  location : s'.bootFmhLocation = s.bootFmhLocation
  hashed : s'.hashed = s.hashed
  hashEnds : s'.hashEnds = s.hashEnds
  used : ∀ m ∈ s'.used, m ∈ s.used ∨ m = fmh

theorem Notes.refl (fmh : Found) (s : BootState) : Notes fmh s s := ⟨rfl, rfl, rfl, rfl, fun _ => .inl⟩

theorem Notes.trans {s' s'' : BootState} (h : Notes fmh s s') (h' : Notes fmh s' s'') : Notes fmh s s'' where
  met := h'.met.trans h.met
  location := h'.location.trans h.location
  hashed := h'.hashed.trans h.hashed
  hashEnds := h'.hashEnds.trans h.hashEnds
  used m hm := (h'.used m hm).elim (h.used m) .inr

theorem notes_noteRoot (s : BootState) : Notes fmh s (s.noteRoot c fmh) := by
  unfold BootState.noteRoot
  dsimp only
  split_ifs
  · refine ⟨rfl, rfl, rfl, rfl, fun m hm => ?_⟩
    simp only [BootState.used, List.mem_append, Option.toList_some, List.mem_singleton] at hm ⊢
    tauto
  · exact ⟨rfl, rfl, rfl, rfl, fun _ => .inl⟩
  · exact .refl fmh s

theorem notes_noteDts (s : BootState) : Notes fmh s (s.noteDts c fmh) := by
  rw [BootState.noteDts]
  split_ifs
  · refine ⟨rfl, rfl, rfl, rfl, fun m hm => ?_⟩
    simp only [BootState.used, List.mem_append, Option.toList_some, List.mem_singleton] at hm ⊢
    tauto
  · exact .refl fmh s

theorem notes_copyModule (s : BootState) : Notes fmh s (s.copyModule fmh) := by
  unfold BootState.copyModule
  dsimp only
  split_ifs
  all_goals refine ⟨rfl, rfl, rfl, rfl, fun m hm => ?_⟩
  all_goals simp only [BootState.used, List.mem_append, Option.toList_some, List.mem_singleton] at hm ⊢
  all_goals tauto

theorem notes_noteExecute (s : BootState) : Notes fmh s (s.noteExecute c fmh) := by
  rw [BootState.noteExecute]
  split_ifs
  all_goals refine ⟨rfl, rfl, rfl, rfl, fun m hm => ?_⟩
  all_goals simp only [BootState.used, List.mem_append, Option.toList_some, List.mem_singleton] at hm ⊢
  all_goals tauto

theorem notes_useModule (s : BootState) : Notes fmh s (s.useModule c fmh pathID) := by
  rw [BootState.useModule]
  split_ifs
  · exact .refl fmh s
  · exact (((notes_noteRoot s).trans (notes_noteDts _)).trans (notes_copyModule _)).trans (notes_noteExecute _)

theorem read_of_normalAt {addr : UInt32} (h : f.normalAt addr = some fmh) : fmh.header = f.read fmh.addr sizeofFmh := by
  obtain ⟨header, hcheck, rfl⟩ := Option.map_eq_some_iff.1 h
  rw [checkForNormalFMH] at hcheck
  split_ifs at hcheck
  exact (Option.some.inj hcheck).symm

/-- A header that the scan of a sector finds is what is read at its address. -/
theorem read_of_scanforFMH {sectorAddr sectorSize : UInt32} (h : scanforFMHUboot f sectorAddr sectorSize = some fmh) :
    fmh.header = f.read fmh.addr sizeofFmh := by
  rw [scanforFMHUboot] at h
  split at h
  next hnormal =>
    cases h
    exact read_of_normalAt hnormal
  next =>
    simp only at h
    split_ifs at h
    exact read_of_normalAt h

/-- One more header. -/
theorem getLast?_filter_append (fmhs : List Found) :
    ((fmhs ++ [fmh]).filter saysBoot).getLast? = if saysBoot fmh then some fmh else (fmhs.filter saysBoot).getLast? := by
  rw [List.filter_append]
  cases h : saysBoot fmh <;> simp [List.filter, h]

theorem Scanned.round (h : Scanned f s) : Scanned f (bootRound c f pathID n s) := by
  rw [bootRound]
  split
  · exact ⟨h.read, h.location⟩
  next fmh hfound =>
    have hnotes : Notes fmh _ ((s.hrotUpdate c n fmh).useModule c fmh pathID) := notes_useModule _
    constructor
    · intro fmh' hmem
      change fmh' ∈ ((s.hrotUpdate c n fmh).useModule c fmh pathID).met ++ [fmh] at hmem
      rw [hnotes.met, hrotUpdate_met, List.mem_append, List.mem_singleton] at hmem
      rcases hmem with hmem | rfl
      · exact h.read fmh' hmem
      · exact read_of_scanforFMH hfound
    · change ((s.hrotUpdate c n fmh).useModule c fmh pathID).bootFmhLocation = (Option.map _
        ((((s.hrotUpdate c n fmh).useModule c fmh pathID).met ++ [fmh]).filter saysBoot).getLast?).getD 0
      rw [hnotes.location, hnotes.met, hrotUpdate_met, hrotUpdate_bootFmhLocation, getLast?_filter_append]
      split_ifs
      · rfl
      · exact h.location

/-- **The scan finds the key through the last header that says boot loader.** -/
theorem scanned_bootScan (c : BootConfig) (f : Flash) (pathID n : ℕ) : Scanned f (bootScan c f pathID n) := by
  refine whileN_inv (P := Scanned f) (fun s h _ => h.round) ⟨?_, rfl⟩ n
  intro fmh hmem
  cases hmem

end Scan

/-! ## Two contents -/

section Two

variable {c : BootConfig} {f g : Flash} {pathID pathID' n n' : ℕ} {addr : UInt32} {k k' : List UInt8}

/-- The header at this address is the last one that the scan meets that says boot loader. -/
def LastBootAt (c : BootConfig) (f : Flash) (pathID n : ℕ) (addr : UInt32) : Prop :=
  (bootScan c f pathID n).bootModule.map Found.addr = some addr

instance (c : BootConfig) (f : Flash) (pathID n : ℕ) (addr : UInt32) : Decidable (LastBootAt c f pathID n addr) :=
  inferInstanceAs (Decidable (_ = _))

theorem read_congr {m : ℕ} (h : ∀ a, addr.toNat ≤ a ∧ a < addr.toNat + m → f.byte a = g.byte a) :
    f.read addr m = g.read addr m :=
  List.map_congr_left fun _ hi => h _ ⟨Nat.le_add_right _ _, Nat.add_lt_add_left (List.mem_range.1 hi) _⟩

/-- The header that gives the key. -/
theorem keyInfo_of_last (h : LastBootAt c f pathID n addr) :
    (bootScan c f pathID n).keyInfo c = c.startaddress + fmhLocation (f.read addr sizeofFmh) - keyInfoLength := by
  obtain ⟨fmh, hlast, rfl⟩ := Option.map_eq_some_iff.1 h
  have hscanned := scanned_bootScan c f pathID n
  have hmem : fmh ∈ (bootScan c f pathID n).met := List.mem_of_mem_filter (List.mem_of_getLast? hlast)
  rw [BootState.keyInfo, hscanned.location, hlast, ← hscanned.read fmh hmem]
  rfl

/-- **The firmware does not choose its key:** contents that agree on the region of the boot loader give one block of the key,
when in both of them the header of the boot loader is the last one that says boot loader. -/
theorem bootKey_eq (hagree : ∀ a, InModule c (f.read addr sizeofFmh) addr a → f.byte a = g.byte a)
    (hf : LastBootAt c f pathID n addr) (hg : LastBootAt c g pathID' n' addr)
    (hk : bootKey c f pathID n = some k) (hk' : bootKey c g pathID' n' = some k') : k = k' := by
  rw [bootKey] at hk hk'
  split_ifs at hk hk'
  refine (Option.some.inj hk).symm.trans (Eq.trans ?_ (Option.some.inj hk'))
  have hheader : f.read addr sizeofFmh = g.read addr sizeofFmh := read_congr fun a ha => hagree a (.inl ha)
  have hinfo : (bootScan c g pathID' n').keyInfo c = (bootScan c f pathID n).keyInfo c := by
    rw [keyInfo_of_last hf, keyInfo_of_last hg, ← hheader]
  have hread : ∀ m, (∀ a, ((bootScan c f pathID n).keyInfo c).toNat ≤ a ∧
      a < ((bootScan c f pathID n).keyInfo c).toNat + m → f.byte a = g.byte a) →
      f.read ((bootScan c f pathID n).keyInfo c) m = g.read ((bootScan c g pathID' n').keyInfo c) m := by
    intro m hm
    rw [hinfo]
    exact read_congr hm
  apply hread
  intro a ha
  rw [keyInfo_of_last hf] at ha
  exact hagree a (.inr (.inr ha))

end Two

/-! ## A second boot loader -/

/-- Images of three sectors. -/
def threeSectors : BootConfig := ⟨0x2000, 0x6000, false, false⟩

/-- A header that says boot loader, with the second byte of its location and of that of its module, and its checksum. -/
def bootHeader (location checksum : UInt8) : List UInt8 :=
  fmhSignature ++ [1, 8, 64, 0, 0, 0x20, 0, 0, 0, location, 0, 0, 0, 0, 0, checksum, 0x62, 0x6F, 0x6F, 0x74, 0, 0, 0, 0, 0, 0,
    1, 0, 0, location, 0, 0, 0x40] ++ List.replicate 21 0 ++ [0xAA, 0x55]

/-- The boot loader in the second sector, its key in the first one. -/
def trustedFlash : Flash where
  size := 0x6000
  byte a := if 0x2000 ≤ a ∧ a < 0x2040 then (bootHeader 0x20 0x55).getD (a - 0x2000) 0xFF else 0xFF

/-- The same, with one byte in front of the third sector. -/
def changedFlash : Flash where
  size := 0x6000
  byte a := if a = 0x3000 then 0 else trustedFlash.byte a

/-- The same, with another header that says boot loader in the third sector, and a key before it. -/
def forgedFlash : Flash where
  size := 0x6000
  byte a :=
    if 0x4000 ≤ a ∧ a < 0x4040 then (bootHeader 0x40 0x15).getD (a - 0x4000) 0xFF
    else changedFlash.byte a

/-- The first byte of what is read. -/
theorem head_read (f : Flash) (addr : UInt32) {m : ℕ} (hm : m ≠ 0) : (f.read addr m).head? = some (f.byte addr.toNat) := by
  simp [Flash.read, slice, List.head?_range, hm]

/-- What is in the region of the boot loader lies before the third sector. -/
theorem lt_of_inModule {a : ℕ} (ha : InModule threeSectors (trustedFlash.read 0x2000 sizeofFmh) 0x2000 a) : a < 0x3000 := by
  have hlocation : moduleLocation (trustedFlash.read 0x2000 sizeofFmh) = 0x2000 := by decide +kernel
  have hsize : moduleSize (trustedFlash.read 0x2000 sizeofFmh) = 0x40 := by decide +kernel
  have hfmh : fmhLocation (trustedFlash.read 0x2000 sizeofFmh) = 0x2000 := by decide +kernel
  rw [InModule, hlocation, hsize, hfmh] at ha
  rcases ha with ha | ha | ha
  · exact ha.2.trans (by decide)
  · exact ha.2.trans (by decide)
  · exact ha.2.trans_le (by decide)

/-- A byte elsewhere does not change the key. -/
theorem bootKey_eq_changed :
    ∃ k k', bootKey threeSectors trustedFlash 1 3 = some k ∧ bootKey threeSectors changedFlash 1 3 = some k' ∧ k = k' := by
  refine ⟨_, _, if_pos (by decide +kernel), if_pos (by decide +kernel), ?_⟩
  have hagree : ∀ a, InModule threeSectors (trustedFlash.read 0x2000 sizeofFmh) 0x2000 a →
      trustedFlash.byte a = changedFlash.byte a := by
    intro a ha
    have hlt := lt_of_inModule ha
    exact (if_neg (by omega)).symm
  have hf : LastBootAt threeSectors trustedFlash 1 3 0x2000 := by decide +kernel
  have hg : LastBootAt threeSectors changedFlash 1 3 0x2000 := by decide +kernel
  exact bootKey_eq hagree hf hg (if_pos (by decide +kernel)) (if_pos (by decide +kernel))

/-- **A second header that says boot loader chooses the key.** -/
theorem not_bootKey_forged :
    (∀ a, InModule threeSectors (trustedFlash.read 0x2000 sizeofFmh) 0x2000 a → trustedFlash.byte a = forgedFlash.byte a) ∧
      LastBootAt threeSectors trustedFlash 1 3 0x2000 ∧
      ∃ k k', bootKey threeSectors trustedFlash 1 3 = some k ∧ bootKey threeSectors forgedFlash 1 3 = some k' ∧ k ≠ k' := by
  refine ⟨fun a ha => ?_, by decide +kernel, _, _, if_pos (by decide +kernel), if_pos (by decide +kernel), fun heq => ?_⟩
  · have hlt := lt_of_inModule ha
    change _ = if 0x4000 ≤ a ∧ a < 0x4040 then _ else if a = 0x3000 then _ else _
    rw [if_neg (by omega), if_neg (by omega)]
  · have hhead := congrArg List.head? heq
    rw [BootState.keyBlock, BootState.keyBlock, head_read _ _ (by decide), head_read _ _ (by decide)] at hhead
    exact absurd hhead (by decide +kernel)

end BmcBoot
