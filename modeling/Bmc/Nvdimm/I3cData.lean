import Bmc.Lib.Chunks
import Bmc.Lib.Endian
import Bmc.Nvdimm.I3c

/-!
# What a transfer should send

* `leDwords`: bytes as dwords; **`wdata_eq`**: the dwords that the program makes;
* `BlockArgs.readBytes`, `BlockArgs.bytesToWrite`: the header, and the data of a write;
* `BlockArgs.descriptor`: the lower dword of a command; **`commandLow_eq_iff`**: when the program makes it.
-/

namespace BmcNvdimm

open BmcLib

/-! ## Dwords -/

/-- The dwords of a list of bytes, lowest byte first. The last one is filled up with zeros. -/
def leDwords (bytes : List UInt8) : List UInt32 :=
  (chunks 4 bytes.length (block 0 bytes)).map fun c => UInt32.ofNat (leNat c)

/-- A byte is put above the bytes below. -/
theorem or_byte {x k : ℕ} (hk : k < 4) (hx : x < 256 ^ k) (c : UInt8) :
    UInt32.ofNat x ||| c.toUInt32 <<< UInt32.ofNat (8 * k) = UInt32.ofNat (x + 256 ^ k * c.toNat) := by
  have hc := c.toNat_lt
  have hpow : 256 ^ k = 2 ^ (8 * k) := by rw [Nat.pow_mul]
  have hle : 256 ^ k * 256 ≤ 2 ^ 32 := by
    rw [← Nat.pow_succ, show (2 : ℕ) ^ 32 = 256 ^ 4 by norm_num]
    exact Nat.pow_le_pow_right (by norm_num) hk
  have hprod : 256 ^ k * c.toNat ≤ 256 ^ k * 255 := Nat.mul_le_mul_left _ (by omega)
  have hshift : (c.toUInt32 <<< UInt32.ofNat (8 * k)).toNat = c.toNat <<< (8 * k) := by
    have hsmall : (UInt32.ofNat (8 * k)).toNat % 32 = 8 * k := by
      rw [UInt32.toNat_ofNat']
      omega
    rw [UInt32.toNat_shiftLeft, hsmall, UInt8.toNat_toUInt32, Nat.mod_eq_of_lt]
    rw [Nat.shiftLeft_eq, ← hpow, Nat.mul_comm]
    omega
  apply UInt32.toNat_inj.1
  rw [UInt32.toNat_or, hshift, UInt32.toNat_ofNat', UInt32.toNat_ofNat', Nat.mod_eq_of_lt (by omega),
    Nat.mod_eq_of_lt (by omega), Nat.or_comm, ← Nat.shiftLeft_add_eq_or_of_lt (hpow ▸ hx), Nat.shiftLeft_eq, ← hpow]
  ring

/-- The bytes of a dword are put together. -/
theorem foldl_bytes (b : ℕ → UInt8) (o : ℕ) {n : ℕ} (hn : n ≤ 4) :
    (List.range n).foldl (fun w i => w ||| (b (o + i)).toUInt32 <<< UInt32.ofNat (8 * i)) 0 =
      UInt32.ofNat (leNat (slice b o n)) := by
  induction n with
  | zero => rfl
  | succ n ih =>
    have hlt : leNat (slice b o n) < 256 ^ n := by
      have := leNat_lt (slice b o n)
      rwa [length_slice] at this
    have hlast : slice b o (n + 1) = slice b o n ++ [b (o + n)] := slice_add b o n 1
    rw [List.range_succ, List.foldl_append, ih (by omega), List.foldl_cons, List.foldl_nil,
      or_byte (by omega) hlt, hlast, leNat_append, length_slice]
    rfl

/-- **The dwords of the data.** -/
theorem wdata_eq (l : Lpss) :
    (List.range l.dwords).map l.wdata = leDwords (slice l.wdataList 0 l.wdataSize.toNat) := by
  have hlen : (slice l.wdataList 0 l.wdataSize.toNat).length = l.wdataSize.toNat := length_slice ..
  have hcount : l.dwords = (l.wdataSize.toNat + 4 - 1) / 4 := by
    rw [Lpss.dwords]
    split_ifs <;> omega
  rw [leDwords, chunks, hlen, List.map_map, ← hcount]
  refine List.map_congr_left fun i hi => ?_
  have hi' : i < l.dwords := List.mem_range.1 hi
  have hnum : (if l.wdataSize.toNat % 4 ≠ 0 ∧ i = l.dwords - 1 then l.wdataSize.toNat % 4 else 4) =
      min 4 (l.wdataSize.toNat - i * 4) := by
    split_ifs with h <;> omega
  have hbytes : slice (block 0 (slice l.wdataList 0 l.wdataSize.toNat)) (i * 4) (min 4 (l.wdataSize.toNat - i * 4)) =
      slice l.wdataList (4 * i) (min 4 (l.wdataSize.toNat - i * 4)) := by
    rw [Nat.mul_comm 4 i]
    refine slice_congr fun j hj hj' => ?_
    have hlt : j < l.wdataSize.toNat := by omega
    simp [block, slice, hlt]
  rw [Function.comp_apply, hbytes, Lpss.wdata, hnum]
  exact foldl_bytes l.wdataList (4 * i) (Nat.min_le_left _ _)

/-! ## Bytes -/

theorem byteOf_eq {i : ℕ} (hi : i < 4) (w : UInt32) : byteOf w i = UInt8.ofNat (w.toNat / 256 ^ i) := by
  have hpow : 256 ^ i = 2 ^ (8 * i) := by rw [Nat.pow_mul]
  have hsmall : (UInt32.ofNat (8 * i)).toNat % 32 = 8 * i := by
    rw [UInt32.toNat_ofNat']
    omega
  apply UInt8.toNat_inj.1
  rw [byteOf, UInt32.toNat_toUInt8, UInt32.toNat_and, UInt32.toNat_shiftRight, hsmall, Nat.shiftRight_eq_div_pow,
    ← hpow, UInt8.toNat_ofNat']
  change (w.toNat / 256 ^ i &&& 2 ^ 8 - 1) % 2 ^ 8 = _
  rw [Nat.and_two_pow_sub_one_eq_mod, Nat.mod_mod]

/-- The bytes of the header of a read. -/
def BlockArgs.readBytes (b : BlockArgs) : List UInt8 := leBytes 4 (b.header 1).toNat

/-- The bytes of the header of a write, and of the data. -/
def BlockArgs.bytesToWrite (b : BlockArgs) (numbytes : UInt8) (val : UInt32) : List UInt8 :=
  leBytes 4 (b.header 0).toNat ++ leBytes numbytes.toNat val.toNat

theorem slice_byteOf (w : UInt32) : slice (byteOf w) 0 4 = leBytes 4 w.toNat := by
  apply List.ext_getElem?
  intro i
  by_cases hi : i < 4
  · rw [getElem?_leBytes hi, ← byteOf_eq hi]
    simp [slice, hi]
  · rw [List.getElem?_eq_none (by simp; omega), List.getElem?_eq_none (by simp; omega)]

/-- **The bytes of a write** are those of the header and the data, when there are fewer than `256`. -/
theorem slice_writeBytes {b : BlockArgs} {numbytes : UInt8} {val : UInt32} :
    slice (b.writeBytes val) 0 (4 + numbytes.toNat) = b.bytesToWrite numbytes val := by
  rw [slice_add, BlockArgs.bytesToWrite, ← slice_byteOf]
  refine congrArg₂ (· ++ ·) (slice_congr fun i _ hi => ?_) ?_
  · rw [BlockArgs.writeBytes, if_pos (by omega)]
  · apply List.ext_getElem?
    intro i
    by_cases hi : i < numbytes.toNat
    · rw [getElem?_leBytes hi]
      simp only [slice, List.getElem?_map, List.getElem?_range hi, Option.map_some, Option.some_inj]
      rw [BlockArgs.writeBytes, if_neg (by omega)]
      split_ifs with h
      · rw [byteOf_eq (by omega), Nat.zero_add, Nat.add_sub_cancel_left]
      · have hval := val.toNat_lt
        have hpow : 256 ^ 4 ≤ 256 ^ i := Nat.pow_le_pow_right (by norm_num) (by omega)
        rw [Nat.div_eq_of_lt (by omega)]
        rfl
    · rw [List.getElem?_eq_none (by simp; omega), List.getElem?_eq_none (by simp; omega)]

/-! ## Descriptors -/

/-- The lower dword of a command for a slave, with zeros in the fields that no argument gives. -/
def descriptor (saddr : UInt8) (i2c : Bool) (toc roc rnw : UInt32) : UInt32 :=
  toc <<< 31 ||| roc <<< 30 ||| rnw <<< 29 ||| ((saddr >>> 1).toUInt32 &&& 0x7f) <<< 16 |||
    (if i2c then (1 : UInt32) else 0) <<< 6 ||| (1 : UInt32) <<< 3

/-- The bits of the fields that nothing assigns, as far as a command has them. -/
def Unassigned.bits (u : Unassigned) : UInt32 :=
  (u.modeSpeed.toUInt32 &&& 0x7) <<< 26 ||| (u.cp.toUInt32 &&& 1) <<< 15 ||| (u.cmd.toUInt32 &&& 0xff) <<< 7

theorem commandLow_eq (l : Lpss) (toc roc rnw : UInt32) :
    l.commandLow toc roc rnw = descriptor l.addr (l.mode = .i2cMode0) toc roc rnw ||| l.unassigned.bits := by
  have hsort : ∀ t r w m s p d i k : UInt32,
      t ||| r ||| w ||| m ||| s ||| p ||| d ||| i ||| k = t ||| r ||| w ||| s ||| i ||| k ||| (m ||| p ||| d) := by
    intro t r w m s p d i k
    ac_rfl
  rw [Lpss.commandLow, hsort, descriptor, Unassigned.bits]
  by_cases hmode : l.mode = .i2cMode0 <;> simp [hmode]

/-- The fields that nothing assigns have bits of their own. -/
theorem descriptor_and_bits (saddr : UInt8) (i2c : Bool) (toc roc rnw : UInt32) (u : Unassigned) :
    descriptor saddr i2c toc roc rnw &&& u.bits = 0 := by
  have hd : descriptor saddr i2c toc roc rnw &&& 0x1c00ff80 = 0 := by
    apply UInt32.toBitVec_inj.1
    apply BitVec.eq_of_getLsbD_eq
    intro i hi
    interval_cases i <;> cases i2c <;> simp [descriptor]
  have hu : u.bits = 0x1c00ff80 &&& u.bits := by
    apply UInt32.toBitVec_inj.1
    apply BitVec.eq_of_getLsbD_eq
    intro i hi
    interval_cases i <;> simp [Unassigned.bits]
  rw [hu, ← UInt32.and_assoc, hd, UInt32.zero_and]

/-- **The fields that nothing assigns** show in the command unless they are zero. -/
theorem commandLow_eq_iff {l : Lpss} {toc roc rnw : UInt32} :
    l.commandLow toc roc rnw = descriptor l.addr (l.mode = .i2cMode0) toc roc rnw ↔ l.unassigned.bits = 0 := by
  rw [commandLow_eq]
  constructor
  · intro h
    have hself : l.unassigned.bits =
        (descriptor l.addr (l.mode = .i2cMode0) toc roc rnw ||| l.unassigned.bits) &&& l.unassigned.bits := by
      apply UInt32.toBitVec_inj.1
      rw [UInt32.toBitVec_and, UInt32.toBitVec_or, BitVec.and_or_distrib_right, ← UInt32.toBitVec_and,
        descriptor_and_bits, ← UInt32.toBitVec_and, UInt32.and_self]
      exact (BitVec.zero_or ..).symm
    rw [hself, h, descriptor_and_bits]
  · intro h
    rw [h, UInt32.or_zero]

end BmcNvdimm
