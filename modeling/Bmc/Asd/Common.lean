import Bmc.Lib.Memory

/-!
# ASD messages

The constants and data types of `asd_common.h`, and the size field of a message header.

* `MessageHeader`: the packed bit fields of `struct message_header`, with their byte layout
  `MessageHeader.ofBytes`, `MessageHeader.byte` and the round trips `ofBytes_byte`, `byte_ofBytes`;
* `getMessageSize`, `lsbFromMsgSize`, `msbFromMsgSize`: the 13-bit size split into two fields,
  with **`getMessageSize_withSize`**: a size up to `maxDataSize` survives the split.
-/

namespace BmcAsd

open BmcLib

/-- `STATUS`. -/
inductive Status where
  | ok | err | timeout
  deriving DecidableEq, Repr

/-- `MAX_DATA_SIZE`. -/
abbrev maxDataSize : ℕ := 3000

/-- `sizeof(struct message_header)`. -/
abbrev headerSize : ℕ := 4

/-- `MAX_SCAN_CHAINS`. -/
abbrev maxScanChains : ℕ := 2

/-- `MAX_MULTICHAINS`. -/
abbrev maxMultichains : ℕ := 16

/-! ## `headerType` and `ASDError` -/

abbrev agentControlType : BitVec 3 := 0
abbrev jtagType : BitVec 3 := 1
abbrev i2cType : BitVec 3 := 6

abbrev asdSuccess : UInt8 := 0
abbrev asdMsgCrypyNotSupported : UInt8 := 0x25
abbrev asdFailureInitJtagHandler : UInt8 := 0x26
abbrev asdFailureInitI2cHandler : UInt8 := 0x27
abbrev asdMsgNotSupported : UInt8 := 0x29
abbrev asdFailureProcessJtagMsg : UInt8 := 0x2A
abbrev asdFailureProcessI2cMsg : UInt8 := 0x2B
abbrev asdFailureProcessI2cLock : UInt8 := 0x2C
abbrev asdI2cMsgNotSupported : UInt8 := 0x2D
abbrev asdFailureRemoveI2cLock : UInt8 := 0x2E
abbrev asdFailureHeaderSize : UInt8 := 0x2F
abbrev asdFailureXdpPresent : UInt8 := 0x30
abbrev asdFailureInitVprobeHandler : UInt8 := 0x31
abbrev asdPacketContinuation : UInt8 := 0x80

/-! ## Headers -/

/-- `struct message_header`. -/
structure MessageHeader where
  originId : BitVec 3
  reserved : BitVec 1
  encBit : BitVec 1
  type : BitVec 3
  sizeLsb : UInt8
  sizeMsb : BitVec 5
  tag : BitVec 3
  cmdStat : UInt8
  deriving DecidableEq, Repr

/-- The header whose packed bytes are `b₀ b₁ b₂ b₃`. -/
def MessageHeader.ofBytes (b₀ b₁ b₂ b₃ : UInt8) : MessageHeader where
  originId := BitVec.ofNat 3 b₀.toNat
  reserved := BitVec.ofNat 1 (b₀.toNat >>> 3)
  encBit := BitVec.ofNat 1 (b₀.toNat >>> 4)
  type := BitVec.ofNat 3 (b₀.toNat >>> 5)
  sizeLsb := b₁
  sizeMsb := BitVec.ofNat 5 b₂.toNat
  tag := BitVec.ofNat 3 (b₂.toNat >>> 5)
  cmdStat := b₃

/-- The packed byte `i` of a header. -/
def MessageHeader.byte (h : MessageHeader) : ℕ → UInt8
  | 0 => UInt8.ofNat (h.originId.toNat + 8 * h.reserved.toNat + 16 * h.encBit.toNat + 32 * h.type.toNat)
  | 1 => h.sizeLsb
  | 2 => UInt8.ofNat (h.sizeMsb.toNat + 32 * h.tag.toNat)
  | _ => h.cmdStat

/-- **The packed layout loses nothing.** -/
theorem MessageHeader.ofBytes_byte (h : MessageHeader) :
    MessageHeader.ofBytes (h.byte 0) (h.byte 1) (h.byte 2) (h.byte 3) = h := by
  obtain ⟨o, r, e, t, l, m, g, c⟩ := h
  have ho := o.isLt
  have hr := r.isLt
  have he := e.isLt
  have ht := t.isLt
  have hm := m.isLt
  have hg := g.isLt
  simp only [byte, ofBytes, MessageHeader.mk.injEq, true_and, and_true, UInt8.toNat_ofNat',
    Nat.shiftRight_eq_div_pow]
  refine ⟨?_, ?_, ?_, ?_, ?_, ?_⟩ <;>
    · apply BitVec.eq_of_toNat_eq
      rw [BitVec.toNat_ofNat]
      omega

theorem MessageHeader.byte_ofBytes (b₀ b₁ b₂ b₃ : UInt8) :
    (MessageHeader.ofBytes b₀ b₁ b₂ b₃).byte 0 = b₀ ∧
    (MessageHeader.ofBytes b₀ b₁ b₂ b₃).byte 1 = b₁ ∧
    (MessageHeader.ofBytes b₀ b₁ b₂ b₃).byte 2 = b₂ ∧
    (MessageHeader.ofBytes b₀ b₁ b₂ b₃).byte 3 = b₃ := by
  have h0 := b₀.toNat_lt
  have h2 := b₂.toNat_lt
  refine ⟨?_, rfl, ?_, rfl⟩ <;>
  · apply UInt8.toNat_inj.mp
    simp only [ofBytes, byte, Nat.shiftRight_eq_div_pow, BitVec.toNat_ofNat, UInt8.toNat_ofNat']
    omega

/-- `struct asd_message`. -/
structure AsdMessage where
  header : MessageHeader
  buffer : ℕ → UInt8

/-! ## The size field -/

/-- `get_message_size`; `none` models the result `-1`. -/
def getMessageSize (h : MessageHeader) : Option ℕ :=
  let result := (h.sizeLsb.toNat &&& 0xFF) ||| ((h.sizeMsb.toNat &&& 0x1F) <<< 8)
  if result > maxDataSize then none else some result

/-- `lsb_from_msg_size`. -/
def lsbFromMsgSize (responseCnt : ℕ) : UInt8 := UInt8.ofNat (responseCnt &&& 0xFF)

/-- `msb_from_msg_size`, as stored in the 5-bit field. -/
def msbFromMsgSize (responseCnt : ℕ) : BitVec 5 := BitVec.ofNat 5 ((responseCnt >>> 8) &&& 0x1F)

/-- Set the two size fields of a header. -/
def MessageHeader.withSize (h : MessageHeader) (n : ℕ) : MessageHeader :=
  { h with sizeLsb := lsbFromMsgSize n, sizeMsb := msbFromMsgSize n }

theorem sizeField_eq (a b : ℕ) (ha : a < 256) (hb : b < 32) :
    (a &&& 0xFF) ||| ((b &&& 0x1F) <<< 8) = a + 256 * b := by
  have h1 : a &&& 0xFF = a := by
    rw [show (0xFF : ℕ) = 2 ^ 8 - 1 from rfl, Nat.and_two_pow_sub_one_eq_mod]; omega
  have h2 : b &&& 0x1F = b := by
    rw [show (0x1F : ℕ) = 2 ^ 5 - 1 from rfl, Nat.and_two_pow_sub_one_eq_mod]; omega
  rw [h1, h2, Nat.or_comm, Nat.shiftLeft_eq, Nat.mul_comm, ← Nat.two_pow_add_eq_or_of_lt (i := 8) ha]
  ring

theorem getMessageSize_eq (h : MessageHeader) :
    getMessageSize h = if h.sizeLsb.toNat + 256 * h.sizeMsb.toNat > maxDataSize then none
      else some (h.sizeLsb.toNat + 256 * h.sizeMsb.toNat) := by
  unfold getMessageSize
  rw [sizeField_eq _ _ h.sizeLsb.toNat_lt h.sizeMsb.isLt]

theorem getMessageSize_ofBytes (b₀ b₁ b₂ b₃ : UInt8) :
    getMessageSize (MessageHeader.ofBytes b₀ b₁ b₂ b₃) =
      if b₁.toNat + 256 * (b₂.toNat % 32) > maxDataSize then none
      else some (b₁.toNat + 256 * (b₂.toNat % 32)) := by
  rw [getMessageSize_eq]
  simp [MessageHeader.ofBytes]

theorem getMessageSize_le {h : MessageHeader} {n : ℕ} (hn : getMessageSize h = some n) :
    n ≤ maxDataSize := by
  rw [getMessageSize_eq] at hn
  split_ifs at hn with hc
  cases hn
  omega

/-- **A size up to `maxDataSize` survives the split into the two header fields.** -/
theorem getMessageSize_withSize (h : MessageHeader) {n : ℕ} (hn : n ≤ maxDataSize) :
    getMessageSize (h.withSize n) = some n := by
  have hl : (lsbFromMsgSize n).toNat = n % 256 := by
    rw [lsbFromMsgSize, show (0xFF : ℕ) = 2 ^ 8 - 1 from rfl, Nat.and_two_pow_sub_one_eq_mod]
    simp
  have hm : (msbFromMsgSize n).toNat = n / 256 := by
    rw [msbFromMsgSize, show (0x1F : ℕ) = 2 ^ 5 - 1 from rfl, Nat.and_two_pow_sub_one_eq_mod,
      Nat.shiftRight_eq_div_pow]
    have : n ≤ 3000 := hn
    simp only [BitVec.toNat_ofNat]
    omega
  rw [getMessageSize_eq]
  simp only [MessageHeader.withSize, hl, hm, Nat.mod_add_div]
  rw [if_neg (by omega)]

end BmcAsd
