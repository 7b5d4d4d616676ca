import Bmc.Boot.Coverage

/-!
# The bytes that the hash is fed

* `HrotCall`, `hrotPlan`: what `hrot_update` of `hrotcore.c` is called with, and the interval it derives from that;
* `SpiFlash`, `HrotLoop`, `hrotRound`, `hrotUpdate`: its loop over the interval, in which reads can fail;
* `HashesInterval`: the function ends, has fed the interval when it returns 0, and does not return 0 when the interval wraps or a
  read has failed;
* `hashLoop_eq`: the loop that the scan is modelled with is this one, whatever the reads do;
* **`hashesInterval_iff`**: it does, exactly when there is a flash, nothing is subtracted from too little, whole blocks from the
  start on do not reach to the end of the addresses, and all reads succeed;
* `not_hashesInterval_failedRead`: a read that fails, and is not noticed.
-/

namespace BmcBoot

open BmcLib BmcHelper

/-- The arguments of `hrot_update`. -/
structure HrotCall where
  modType : ℕ
  modName : List UInt8
  location : UInt32
  allocSize : UInt32
  fmhLocation : UInt32
  startaddress : UInt32
  deriving DecidableEq, Repr

namespace HrotCall

variable (ubootValidate : Bool) (call : HrotCall)

/-- Is the module to be hashed? -/
def isHashed : Bool :=
  (call.modType ≠ moduleJffs2 ∧ call.modType ≠ moduleBootloader) ∨ (ubootValidate ∧ call.modType = moduleBootloader)

/-- `hash_start` -/
def hashStart : UInt32 :=
  if call.modType ≠ moduleBootloader then call.startaddress + call.fmhLocation else call.startaddress + call.location

/-- `size_to_hash` -/
def sizeToHash : UInt32 :=
  if call.modType ≠ moduleBootloader ∧ call.modType ≠ moduleFmhFirmware then call.allocSize
  else if call.modType = moduleFmhFirmware then call.allocSize - (3 * prodSigOffset + 1024)
  else call.fmhLocation + sizeOfUbootFmh - prodSigOffset

/-- `stopHash` -/
def stopHash : UInt32 := call.sizeToHash + call.hashStart

/-- `ModType == MODULE_FMH_FIRMWARE && hash_start == startaddress + fmhLocation` -/
def isMasked (start : UInt32) : Bool :=
  call.modType = moduleFmhFirmware ∧ start = call.startaddress + call.fmhLocation

/-- More is subtracted from a size than there is. -/
def Underflows : Prop :=
  (call.modType = moduleFmhFirmware ∧ call.allocSize.toNat < 3 * 4096 + 1024) ∨
    (call.modType = moduleBootloader ∧ call.fmhLocation.toNat + 256 < 4096)

instance : Decidable call.Underflows := inferInstanceAs (Decidable (_ ∨ _))

/-- The interval wraps. -/
def Wraps : Prop := call.Underflows ∨ 2 ^ 32 < call.hashStart.toNat + call.sizeToHash.toNat

/-- How many blocks the interval has, the last of which need not be whole. -/
def blockCount : ℕ := (call.sizeToHash.toNat + 262143) / 262144

end HrotCall

/-- The flash: is there one, what does it hold, does the `k`-th read succeed, and what does a failed one leave in the buffer? -/
structure SpiFlash where
  probed : Bool
  byte : ℕ → UInt8
  succeeds : ℕ → Bool
  left : ℕ → ℕ → UInt8

/-- The variables of the loop of `hrot_update`: where it is, the code of the reads, `placeToHash`, what the hash has been fed with,
and the value that is returned early. -/
structure HrotLoop where
  loop : HashLoop
  rc : Int
  placeToHash : ℕ → UInt8
  fed : List UInt8
  ret : Option Int

/-- The variables that are kept from call to call: `boot_fmh_location`, `product_info_offset`, `placeToHash` and `ctx`. -/
structure HrotStatics where
  bootFmhLocation : UInt32
  productInfoOffset : UInt32
  placeToHash : ℕ → UInt8
  fed : List UInt8

section Update

variable (ubootValidate : Bool) (call : HrotCall) (f : SpiFlash)

/-- `spi_flash_read` of `n` bytes, the `k`-th one. -/
def SpiFlash.read (k addr n : ℕ) (buffer : ℕ → UInt8) : ℕ → UInt8 :=
  if f.succeeds k then fun i => if i < n then f.byte (addr + i) else buffer i else f.left k

/-- `memset(&hash_data[23], 0, 1)` and `memset(&hash_data[50], 0, 4)` -/
def clearChecksums (buffer : ℕ → UInt8) : ℕ → UInt8 := fun i => if isChecksum i then 0 else buffer i

/-- `hash_start < stopHash`, unless the function has returned. -/
def HrotLoop.goesOn (l : HrotLoop) : Bool := l.ret.isNone && l.loop.goesOn call.stopHash

/-- A block is read and hashed. The code of the read is not stored: `rc` is what it was. -/
def hrotRound (l : HrotLoop) : HrotLoop :=
  let loop := l.loop.round call.stopHash call.isMasked
  let buffer := f.read l.loop.blocks.length l.loop.start.toNat loop.hsSize.toNat l.placeToHash
  if l.rc ≠ 0 then { l with placeToHash := buffer, ret := some 1 }
  else
    let buffer := if call.isMasked l.loop.start then clearChecksums buffer else buffer
    { l with loop := loop, placeToHash := buffer, fed := l.fed ++ slice buffer 0 loop.hsSize.toNat }

/-- The loop begins. -/
def HrotLoop.start (s : HrotStatics) : HrotLoop := ⟨⟨call.hashStart, hashBlkSize, []⟩, 0, s.placeToHash, s.fed, none⟩

/-- The loop, `n` rounds at most. -/
def hrotLoop (s : HrotStatics) (n : ℕ) : HrotLoop :=
  whileN (HrotLoop.goesOn call) (hrotRound call f) n (.start call s)

/-- What comes before the loop: where the boot loader and the firmware information are is noted. -/
def HrotStatics.note (s : HrotStatics) : HrotStatics where
  bootFmhLocation :=
    if call.modType = moduleBootloader ∧ call.modName.take 5 = [0x62, 0x6F, 0x6F, 0x74, 0] then call.fmhLocation
    else s.bootFmhLocation
  productInfoOffset :=
    if call.isHashed ubootValidate ∧ call.modType = moduleFmhFirmware then
      call.startaddress + call.fmhLocation + call.allocSize
    else s.productInfoOffset
  placeToHash := s.placeToHash
  fed := s.fed

/-- `hrot_update`, when it ends within `n` rounds: the value it returns, and the variables. Without a flash it hangs. -/
def hrotUpdate (s : HrotStatics) (n : ℕ) : Option (Int × HrotStatics) :=
  if f.probed then
    let s := s.note ubootValidate call
    if call.isHashed ubootValidate then
      let l := hrotLoop call f s n
      if l.goesOn call then none
      else some (l.ret.getD 0, { s with placeToHash := l.placeToHash, fed := l.fed })
    else some (0, s)
  else none

/-- The byte at this address as it is to be fed: the checksums of the firmware information are cleared. -/
def hashByte (a : ℕ) : UInt8 :=
  if call.modType = moduleFmhFirmware ∧ call.hashStart.toNat ≤ a ∧ isChecksum (a - call.hashStart.toNat) then 0
  else f.byte a

/-- A read of the loop has failed. -/
def ReadFailed (l : HrotLoop) : Prop := ∃ k < l.loop.blocks.length, f.succeeds k = false

/-- **The hash is fed the interval.** The function ends, and when it returns 0 it has fed the hash with each byte of the interval,
once and in ascending order, whatever the size of a block; when the interval wraps or a read has failed, it does not return 0. -/
def HashesInterval (s : HrotStatics) : Prop :=
  ∃ n r s', hrotUpdate ubootValidate call f s n = some (r, s') ∧
    (r = 0 → s'.fed = s.fed ++ slice (hashByte call f) call.hashStart.toNat call.sizeToHash.toNat) ∧
    (call.Wraps ∨ ReadFailed f (hrotLoop call f (s.note ubootValidate call) n) → r ≠ 0)

end Update

/-! ## The loop -/

section Loop

variable {ubootValidate : Bool} {call : HrotCall} {f : SpiFlash}

theorem isMasked_iff {t : UInt32} :
    call.isMasked t = true ↔ call.modType = moduleFmhFirmware ∧ t = call.hashStart := by
  rw [HrotCall.isMasked, decide_eq_true_iff, HrotCall.hashStart]
  refine and_congr_right fun h => ?_
  rw [if_pos (by rw [h]; decide)]

/-- A round, as long as the code of the reads is `ERR_OK`, which it always is. -/
theorem hrotRound_of_ok (call : HrotCall) (f : SpiFlash) {l : HrotLoop} (hrc : l.rc = 0) :
    (hrotRound call f l).loop = l.loop.round call.stopHash call.isMasked ∧ (hrotRound call f l).rc = 0 ∧
      (hrotRound call f l).ret = l.ret := by
  rw [hrotRound, if_neg (by simp [hrc])]
  exact ⟨rfl, hrc, rfl⟩

/-- **The reads do not steer the loop.** It runs through the blocks as if all went well. -/
theorem hrotLoop_loop (call : HrotCall) (f : SpiFlash) (s : HrotStatics) (n : ℕ) :
    (hrotLoop call f s n).loop =
        whileN (HashLoop.goesOn call.stopHash) (HashLoop.round call.stopHash call.isMasked) n ⟨call.hashStart, hashBlkSize, []⟩ ∧
      (hrotLoop call f s n).rc = 0 ∧ (hrotLoop call f s n).ret = none := by
  refine whileN_simulates (R := fun (l : HrotLoop) m => l.loop = m ∧ l.rc = 0 ∧ l.ret = none) ?_ ?_ ⟨rfl, rfl, rfl⟩ n
  · rintro l m ⟨rfl, -, hret⟩
    rw [HrotLoop.goesOn, hret]
    rfl
  · rintro l m ⟨rfl, hrc, hret⟩ -
    obtain ⟨hloop, hrc', hret'⟩ := hrotRound_of_ok call f hrc
    exact ⟨hloop, hrc', hret'.trans hret⟩

theorem goesOn_of_ok {l : HrotLoop} (hret : l.ret = none) : l.goesOn call = l.loop.goesOn call.stopHash := by
  rw [HrotLoop.goesOn, hret]
  rfl

/-- The function returns 0 whenever it ends. -/
theorem hrotUpdate_eq_some {s s' : HrotStatics} {n : ℕ} {r : Int} (h : call.isHashed ubootValidate = true)
    (hrun : hrotUpdate ubootValidate call f s n = some (r, s')) :
    f.probed = true ∧ (hrotLoop call f (s.note ubootValidate call) n).goesOn call = false ∧ r = 0 ∧
      s'.fed = (hrotLoop call f (s.note ubootValidate call) n).fed := by
  obtain ⟨-, -, hret⟩ := hrotLoop_loop call f (s.note ubootValidate call) n
  rw [hrotUpdate, if_pos h] at hrun
  by_cases hprobed : f.probed = true
  · rw [if_pos hprobed] at hrun
    dsimp only at hrun
    cases hgoes : (hrotLoop call f (s.note ubootValidate call) n).goesOn call with
    | true =>
      rw [hgoes, if_pos rfl] at hrun
      cases hrun
    | false =>
      rw [hgoes, if_neg (by decide), hret] at hrun
      cases hrun
      exact ⟨hprobed, rfl, rfl, rfl⟩
  · rw [if_neg hprobed] at hrun
    cases hrun

/-! ## A block -/

/-- What a block feeds, the first one or a later one. -/
theorem block_feeds {k j b : ℕ} {t : UInt32} {buffer : ℕ → UInt8} (ht : t.toNat = call.hashStart.toNat + j * 262144)
    (hread : f.succeeds k = true) :
    slice (if call.isMasked t then clearChecksums (f.read k t.toNat b buffer) else f.read k t.toNat b buffer) 0 b =
      slice (hashByte call f) t.toNat b := by
  rw [← slice_shift (hashByte call f)]
  refine slice_congr fun i _ hi => ?_
  have hbyte : f.read k t.toNat b buffer i = f.byte (t.toNat + i) := by
    rw [SpiFlash.read, if_pos hread, if_pos (by omega)]
  have hle : call.hashStart.toNat ≤ t.toNat + i := by omega
  by_cases hj : j = 0
  · have hstart : t = call.hashStart := UInt32.toNat_inj.1 (by omega)
    have hoff : t.toNat + i - call.hashStart.toNat = i := by omega
    rw [hashByte, hoff]
    by_cases htype : call.modType = moduleFmhFirmware
    · rw [if_pos (isMasked_iff.2 ⟨htype, hstart⟩), clearChecksums, hbyte]
      simp only [htype, hle, true_and]
    · rw [if_neg (fun h => htype (isMasked_iff.1 h).1), if_neg (fun h => htype h.1), hbyte]
  · -- the checksums are in the first block
    have hlater : 262144 ≤ j * 262144 := Nat.le_mul_of_pos_left _ (Nat.pos_of_ne_zero hj)
    have hnot : t ≠ call.hashStart := by
      rintro rfl
      omega
    rw [if_neg (fun h => hnot (isMasked_iff.1 h).2), hashByte, if_neg ?_, hbyte]
    rintro ⟨-, -, hcheck⟩
    rw [isChecksum, decide_eq_true_iff] at hcheck
    omega

/-- What a round does within the interval: `b` bytes are read, a whole block or what is left. -/
theorem round_within {l : HashLoop} {r : ℕ} (hr : 0 < r) (hsize : l.hsSize = hashBlkSize)
    (hstop : call.stopHash.toNat = l.start.toNat + r) (hfits : l.start.toNat + 262144 < 2 ^ 32) :
    ∃ b : UInt32, b.toNat = min r 262144 ∧ l.round call.stopHash call.isMasked =
      ⟨l.start + b, b, l.blocks ++ [⟨l.start, b, call.isMasked l.start⟩]⟩ := by
  obtain ⟨start, _, blocks⟩ := l
  subst hsize
  dsimp only at hstop hfits ⊢
  have hsum : (start + hashBlkSize).toNat = (start.toNat + 262144) % 2 ^ 32 := UInt32.toNat_add ..
  have hlt : start < call.stopHash := UInt32.lt_iff_toNat_lt.2 (by omega)
  by_cases hrest : call.stopHash < start + hashBlkSize
  · refine ⟨call.stopHash - start, ?_, ?_⟩
    · rw [UInt32.lt_iff_toNat_lt] at hrest
      rw [UInt32.toNat_sub_of_le _ _ (UInt32.le_of_lt hlt)]
      omega
    · rw [round_of_rest ⟨hrest, hlt⟩, UInt32.add_comm, UInt32.sub_add_cancel]
  · refine ⟨hashBlkSize, ?_, round_of_whole fun h => hrest h.1⟩
    rw [UInt32.lt_iff_toNat_lt] at hrest
    change 262144 = _
    omega

/-- **The rest of the interval.** Where whole blocks do not reach to the end of the addresses, the loop ends after as many rounds
as there are blocks left, and has fed what is left when all reads have succeeded. -/
theorem loop_feeds (m : ℕ) {l : HrotLoop} {r j : ℕ} (hrc : l.rc = 0) (hret : l.ret = none)
    (hsize : 0 < r → l.loop.hsSize = hashBlkSize ∧ l.loop.start.toNat = call.hashStart.toNat + j * 262144)
    (hstop : call.stopHash.toNat = l.loop.start.toNat + r) (hm : m = (r + 262143) / 262144)
    (hfits : l.loop.start.toNat + m * 262144 < 2 ^ 32) :
    (whileN (HrotLoop.goesOn call) (hrotRound call f) m l).goesOn call = false ∧
      (whileN (HrotLoop.goesOn call) (hrotRound call f) m l).loop.blocks.length = l.loop.blocks.length + m ∧
      ((∀ k < l.loop.blocks.length + m, f.succeeds k = true) →
        (whileN (HrotLoop.goesOn call) (hrotRound call f) m l).fed = l.fed ++ slice (hashByte call f) l.loop.start.toNat r) := by
  induction m generalizing l r j with
  | zero =>
    obtain rfl : r = 0 := by omega
    refine ⟨?_, rfl, fun _ => by simp⟩
    rw [whileN_zero, goesOn_of_ok hret, HashLoop.goesOn, decide_eq_false_iff_not, UInt32.lt_iff_toNat_lt]
    omega
  | succ m ih =>
    have hr : 0 < r := by omega
    obtain ⟨hblk, hstart⟩ := hsize hr
    have hgoes : l.goesOn call = true := by
      rw [goesOn_of_ok hret, goesOn_iff, UInt32.lt_iff_toNat_lt]
      omega
    obtain ⟨b, hb, hround⟩ := round_within hr hblk hstop (by omega)
    obtain ⟨hloop, hrc', hret'⟩ := hrotRound_of_ok call f hrc
    rw [hround] at hloop
    have hnext : (l.loop.start + b).toNat = l.loop.start.toNat + b.toNat := by
      rw [UInt32.toNat_add, Nat.mod_eq_of_lt (by omega)]
    have hih := ih (l := hrotRound call f l) (r := r - b.toNat) (j := j + 1) hrc' (hret'.trans hret)
      (fun hpos => by
        have hwhole : b.toNat = 262144 := by omega
        rw [hloop]
        refine ⟨UInt32.toNat_inj.1 hwhole, ?_⟩
        change (l.loop.start + b).toNat = _
        omega)
      (by
        rw [hloop]
        change _ = (l.loop.start + b).toNat + _
        omega)
      (by omega)
      (by
        rw [hloop]
        change (l.loop.start + b).toNat + _ < _
        omega)
    rw [whileN_succ_pos hgoes]
    rw [hloop] at hih
    obtain ⟨hend, hlength, hfed⟩ := hih
    rw [List.length_append, List.length_singleton] at hlength hfed
    refine ⟨hend, by omega, fun hall => ?_⟩
    rw [hfed fun k hk => hall k (by omega)]
    have hround' : (hrotRound call f l).fed = l.fed ++ slice (hashByte call f) l.loop.start.toNat b.toNat := by
      rw [hrotRound, if_neg (by simp [hrc])]
      dsimp only
      rw [hround, block_feeds hstart (hall _ (by omega))]
    have hsplit : r = b.toNat + (r - b.toNat) := by omega
    dsimp only
    rw [hround', List.append_assoc, hnext, ← slice_add, ← hsplit]

/-- A block that reaches to the end of the addresses is read for ever. -/
theorem fits_of_ends {s : HrotStatics} {n : ℕ} (hstop : call.stopHash.toNat = call.hashStart.toNat + call.sizeToHash.toNat)
    (hend : (hrotLoop call f s n).goesOn call = false) : call.hashStart.toNat + call.blockCount * 262144 < 2 ^ 32 := by
  by_contra hnot
  have hcount : call.blockCount = (call.sizeToHash.toNat + 262143) / 262144 := rfl
  have hbound := call.stopHash.toNat_lt
  obtain ⟨j, hj⟩ : ∃ j, call.blockCount = j + 1 := by
    rcases Nat.eq_zero_or_pos call.blockCount with h | h
    · omega
    · exact ⟨call.blockCount - 1, by omega⟩
  -- the last block begins within the interval
  have hlast : (UInt32.ofNat (call.hashStart.toNat + j * 262144)).toNat = call.hashStart.toNat + j * 262144 :=
    UInt32.toNat_ofNat_of_lt' (by
      change _ < 2 ^ 32
      omega)
  obtain ⟨hloop, -, hret⟩ := hrotLoop_loop call f s n
  have hlt : UInt32.ofNat (call.hashStart.toNat + j * 262144) < call.stopHash := UInt32.lt_iff_toNat_lt.2 (by omega)
  have hle : call.hashStart.toNat ≤ (UInt32.ofNat (call.hashStart.toNat + j * 262144)).toNat := by omega
  have hnever := hashLoop_never call.isMasked [] hlt (by omega) hle (by omega) n
  rw [goesOn_of_ok hret, hloop, hnever] at hend
  cases hend

theorem toNat_stopHash (h : call.hashStart.toNat + call.sizeToHash.toNat < 2 ^ 32) :
    call.stopHash.toNat = call.hashStart.toNat + call.sizeToHash.toNat := by
  rw [HrotCall.stopHash, UInt32.toNat_add, Nat.mod_eq_of_lt (by omega), Nat.add_comm]

/-- The loop from its start. -/
theorem hrotLoop_feeds (f : SpiFlash) (s : HrotStatics) (hfits : call.hashStart.toNat + call.blockCount * 262144 < 2 ^ 32) :
    (hrotLoop call f s call.blockCount).goesOn call = false ∧
      (hrotLoop call f s call.blockCount).loop.blocks.length = call.blockCount ∧
      ((∀ k < call.blockCount, f.succeeds k = true) → (hrotLoop call f s call.blockCount).fed =
        s.fed ++ slice (hashByte call f) call.hashStart.toNat call.sizeToHash.toNat) := by
  have hcount : call.blockCount = (call.sizeToHash.toNat + 262143) / 262144 := rfl
  obtain ⟨hend, hlength, hfed⟩ := loop_feeds (f := f) call.blockCount (l := .start call s) (r := call.sizeToHash.toNat)
    (j := 0) rfl rfl (fun _ => ⟨rfl, by rw [Nat.zero_mul]; rfl⟩) (toNat_stopHash (by omega)) rfl hfits
  rw [show (HrotLoop.start call s).loop.blocks.length = 0 from rfl, Nat.zero_add] at hlength hfed
  exact ⟨hend, hlength, hfed⟩

/-! ## The hash of the scan -/

/-- The call for a module that the scan has met. -/
def callOf (c : BootConfig) (fmh : List UInt8) : HrotCall where
  modType := moduleType fmh
  modName := moduleName fmh
  location := moduleLocation fmh
  allocSize := fmhAllocatedSize fmh
  fmhLocation := BmcBoot.fmhLocation fmh
  startaddress := c.startaddress

theorem hashPlan_eq (c : BootConfig) (fmh : List UInt8) : hashPlan c fmh =
    if (callOf c fmh).isHashed c.ubootValidate then some ((callOf c fmh).hashStart, (callOf c fmh).sizeToHash) else none := by
  rw [hashPlan, HrotCall.isHashed, HrotCall.hashStart, HrotCall.sizeToHash, callOf]
  simp only [decide_eq_true_eq]
  by_cases hboot : moduleType fmh = moduleBootloader
  · have hnot : moduleType fmh ≠ moduleFmhFirmware := by
      rw [hboot]
      decide
    simp only [hboot, ne_eq, not_true_eq_false, false_and, if_false]
    rw [hboot] at hnot
    rw [if_neg hnot, if_neg hnot]
  · by_cases hfw : moduleType fmh = moduleFmhFirmware
    · simp [hfw, moduleFmhFirmware, moduleBootloader, moduleJffs2]
    · simp [hboot, hfw]

/-- **The loop of the scan is the loop here**, whatever the reads do. -/
theorem hashLoop_eq (c : BootConfig) (f : SpiFlash) (s : HrotStatics) (n : ℕ) (fmh : List UInt8) {p : UInt32 × UInt32}
    (hp : hashPlan c fmh = some p) : hashLoop c n fmh p = (hrotLoop (callOf c fmh) f s n).loop := by
  rw [hashPlan_eq] at hp
  split_ifs at hp
  cases hp
  exact (hrotLoop_loop (callOf c fmh) f s n).1.symm

end Loop

/-! ## The interval -/

section Stream

variable {ubootValidate : Bool} {call : HrotCall} {f : SpiFlash}

/-- An interval that reaches exactly to the end of the addresses ends at 0, and nothing of it is read. -/
theorem hrotLoop_of_stop_zero {s : HrotStatics} {n : ℕ} (hstop : call.stopHash = 0) :
    (hrotLoop call f s n).fed = s.fed := by
  have hnot : (HrotLoop.start call s).goesOn call = false := by
    rw [goesOn_of_ok rfl, HashLoop.goesOn, hstop, decide_eq_false_iff_not]
    exact UInt32.not_lt_zero
  rw [hrotLoop, whileN_of_exit hnot]
  rfl

/-- **The hash is fed the interval**, exactly when there is a flash, nothing is subtracted from too little, whole blocks from
the start on do not reach to the end of the addresses, and the reads of all blocks succeed. -/
theorem hashesInterval_iff (ubootValidate : Bool) (call : HrotCall) (f : SpiFlash) (s : HrotStatics)
    (h : call.isHashed ubootValidate = true) : HashesInterval ubootValidate call f s ↔
      f.probed = true ∧ ¬ call.Underflows ∧ call.hashStart.toNat + call.blockCount * 262144 < 2 ^ 32 ∧
        ∀ k < call.blockCount, f.succeeds k = true := by
  have hcount : call.blockCount = (call.sizeToHash.toNat + 262143) / 262144 := rfl
  constructor
  · rintro ⟨n, r, s', hrun, hfed, hwrong⟩
    obtain ⟨hprobed, hend, hr, hs'⟩ := hrotUpdate_eq_some h hrun
    have hright := not_or.1 fun hw => hwrong hw hr
    obtain ⟨hunder, hbeyond⟩ := not_or.1 hright.1
    rw [hs'] at hfed
    have hstop : call.hashStart.toNat + call.sizeToHash.toNat < 2 ^ 32 := by
      by_contra hnot
      have hzero : call.stopHash = 0 := UInt32.toNat_inj.1 (by
        rw [HrotCall.stopHash, UInt32.toNat_add]
        change _ = 0
        omega)
      have hnil := hfed hr
      rw [hrotLoop_of_stop_zero hzero] at hnil
      have hlength := congrArg List.length hnil
      have := call.hashStart.toNat_lt
      rw [List.length_append, length_slice] at hlength
      change s.fed.length = s.fed.length + _ at hlength
      omega
    have hfits := fits_of_ends (toNat_stopHash hstop) hend
    refine ⟨hprobed, hunder, hfits, fun k hk => ?_⟩
    obtain ⟨hend', hlength, -⟩ := hrotLoop_feeds f (s.note ubootValidate call) hfits
    by_contra hfails
    refine hright.2 ⟨k, ?_, Bool.not_eq_true _ ▸ hfails⟩
    rw [hrotLoop, whileN_eq_of_exits hend hend', ← hrotLoop, hlength]
    exact hk
  · rintro ⟨hprobed, hunder, hfits, hall⟩
    obtain ⟨hend, hlength, hfed⟩ := hrotLoop_feeds f (s.note ubootValidate call) hfits
    obtain ⟨-, -, hret⟩ := hrotLoop_loop call f (s.note ubootValidate call) call.blockCount
    refine ⟨call.blockCount, 0,
      { s.note ubootValidate call with
        placeToHash := (hrotLoop call f (s.note ubootValidate call) call.blockCount).placeToHash
        fed := (hrotLoop call f (s.note ubootValidate call) call.blockCount).fed }, ?_, fun _ => hfed hall, ?_⟩
    · rw [hrotUpdate, if_pos hprobed]
      dsimp only
      rw [if_pos h, hend, if_neg (by decide), hret]
      rfl
    · rintro ((hu | hbeyond) | ⟨k, hk, hfails⟩)
      · exact absurd hu hunder
      · omega
      · rw [hlength] at hk
        rw [hall k hk] at hfails
        cases hfails

/-- A module of 64 bytes at the start of the flash. -/
def smallModule : HrotCall := ⟨moduleFpga, [], 0, 64, 0, 0⟩

/-- A flash that holds zeros, and whose reads succeed or do not. -/
def zeroFlash (succeeds : Bool) : SpiFlash := ⟨true, fun _ => 0, fun _ => succeeds, fun _ _ => 0xFF⟩

/-- Nothing has been hashed yet. -/
def HrotStatics.fresh : HrotStatics := ⟨0, 0, fun _ => 0xFF, []⟩

theorem hashesInterval_small : HashesInterval false smallModule (zeroFlash true) .fresh :=
  (hashesInterval_iff false smallModule (zeroFlash true) .fresh (by decide)).2
    ⟨rfl, by decide, by decide, fun _ _ => rfl⟩

/-- **A read fails**, and the function returns 0 all the same. -/
theorem not_hashesInterval_failedRead : ¬ HashesInterval false smallModule (zeroFlash false) .fresh := by
  rintro ⟨n, r, s', hrun, -, hwrong⟩
  obtain ⟨-, hend, hr, -⟩ := hrotUpdate_eq_some (by decide) hrun
  obtain ⟨hend', hlength, -⟩ := hrotLoop_feeds (zeroFlash false) (HrotStatics.fresh.note false smallModule)
    (show smallModule.hashStart.toNat + smallModule.blockCount * 262144 < 2 ^ 32 by decide)
  refine hwrong (.inr ⟨0, ?_, rfl⟩) hr
  rw [hrotLoop, whileN_eq_of_exits hend hend', ← hrotLoop, hlength]
  decide

end Stream

end BmcBoot
