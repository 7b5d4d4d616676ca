import Bmc.Nvdimm.FisSeen

/-!
# The firmware image as the device receives it

`fw_cmd_update_firmware_block` sends one block of the image for each call.

* `Packet`, `Seen.packet`: the fields of a packet as the device reads them from its input registers;
* `Fis.run`, `Fis.AllSucceed`: calls one after the other, each of which returns success and rings the doorbell;
* `TransfersImage`: what is to be received; `UpdateExact`: the transfer and the reads of one call;
* `packets_run`: what is received; **`updateExact_iff`**: when it is the image.
-/

namespace BmcNvdimm

open BmcLib

/-! ## Packets -/

/-- The bytes of the input registers. -/
def Seen.bytes (v : Seen) : List UInt8 := (List.finRange 32).flatMap fun i => dwordBytes 4 (v.input i)

/-- `fis_update_firmware_payload_t` as the device reads it. -/
structure Packet where
  phase : ℕ
  packetNumber : ℕ
  data : List UInt8
  deriving DecidableEq, Repr

/-- The packet in the input registers. -/
def Seen.packet (v : Seen) : Packet :=
  let word := leNat (v.bytes.take 2)
  ⟨word % 4, word / 4, (v.bytes.drop 4).take 64⟩

/-- Equal pieces one after the other. -/
theorem flatMap_slices {α : Type*} (m : ℕ → α) (k n : ℕ) :
    (List.range n).flatMap (fun i => slice m (k * i) k) = slice m 0 (k * n) := by
  induction n with
  | zero => rfl
  | succ n ih =>
    rw [List.range_succ, List.flatMap_append, ih, List.flatMap_singleton, Nat.mul_succ, slice_add, Nat.zero_add]

theorem dwordBytes_dwordOf (m : ℕ → UInt8) (i : ℕ) : dwordBytes 4 (dwordOf (slice m i 4)) = slice m i 4 := by
  have hlen : (slice m i 4).length = 4 := length_slice _ _ _
  have h := leBytes_leNat (slice m i 4)
  rw [hlen] at h
  rw [dwordBytes, toNat_dwordOf hlen.le, h]

/-- A payload that is sent is what the device reads. -/
theorem bytes_view {c : FwCall} (h : c.record.inputPayloadSize ≠ 0) (input : Fin 32 → UInt32) :
    (c.view input).bytes = slice c.record.inputPayload 0 128 := by
  rw [show 128 = 4 * 32 from rfl, ← flatMap_slices]
  simp only [Seen.bytes, FwCall.view, FwCmd.view, if_neg h, FwCmd.dword, dwordBytes_dwordOf]
  rw [← List.map_coe_finRange_eq_range, List.flatMap_map]

/-! ## Calls one after the other -/

section Calls

variable (sh : Shifts) (addr : UInt8)

/-- The code that a call of `fw_cmd_update_firmware_block` returns. -/
def Fis.code (s : Fis) (iface : Interface) (c : FwCall) : ReturnStatus :=
  match c.cmd with
  | none => returnInvalidParameter
  | some cmd =>
    match iface with
    | .i2c => (smbusPassThru s.smbus cmd ptLongTimeoutInterval).code
    | .peci => (peciPassThru sh s.peci addr cmd).code

/-- A call succeeds: it returns success, and the write of the command, whose code `smbus_pass_thru` does not look at,
has reached the device. -/
def Fis.Succeeds (s : Fis) (iface : Interface) (c : FwCall) : Prop :=
  s.code sh addr iface c = returnSuccess ∧ s.seenBy sh addr iface c ≠ []

/-- The device after several calls. -/
def Fis.run (s : Fis) (iface : Interface) (cs : List FwCall) : Fis := cs.foldl (fun s c => s.call sh addr iface c) s

/-- Every call succeeds. -/
def Fis.AllSucceed (iface : Interface) : Fis → List FwCall → Prop
  | _, [] => True
  | s, c :: cs => s.Succeeds sh addr iface c ∧ Fis.AllSucceed iface (s.call sh addr iface c) cs

/-- The packets that the device receives during several calls. -/
def Fis.packets (s : Fis) (iface : Interface) (cs : List FwCall) : List Packet :=
  ((s.run sh addr iface cs).mailbox.seen.drop s.mailbox.seen.length).map Seen.packet

end Calls

/-! ## The transfer of an image -/

/-- The calls that send the blocks of an image in order. -/
def blocks (payload : ℕ → UInt8) (size : UInt32) : List FwCall :=
  (List.range (size.toNat / 64)).map fun i => .updateFirmwareBlock payload size (UInt32.ofNat i)

/-- The packets are the image: 64 bytes each, numbered from `0`, with the phases of a whole transfer. -/
structure TransfersImage (payload : ℕ → UInt8) (size : UInt32) (packets : List Packet) : Prop where
  length : ∀ p ∈ packets, p.data.length = 64
  data : packets.flatMap Packet.data = slice payload 0 size.toNat
  numbers : packets.map Packet.packetNumber = List.range packets.length
  start : ∀ i p, packets[i]? = some p → (p.phase = UpdatePhase.start.toNat ↔ i = 0)
  running : ∀ i p, packets[i]? = some p → (p.phase = UpdatePhase.running.toNat ↔ 0 < i ∧ i + 1 < packets.length)
  finish : ∀ i p, packets[i]? = some p → (p.phase = UpdatePhase.finish.toNat ↔ i + 1 = packets.length)

/-- The indices of the image that a call reads. -/
def updateReads (size block : UInt32) : List ℕ :=
  if size % firmwareUpdatePacketSize ≠ 0 ∨ size = 0 then []
  else (List.range 64).map ((block * firmwareUpdatePacketSize).toNat + ·)

/-- **The transfer is exact.** When all calls succeed the device receives the image, over either interface, and the
call for `block` reads nothing outside of it. -/
def UpdateExact (payload : ℕ → UInt8) (size block : UInt32) : Prop :=
  (∀ (sh : Shifts) (addr : UInt8) (iface : Interface) (s : Fis), s.AllSucceed sh addr iface (blocks payload size) →
    TransfersImage payload size (s.packets sh addr iface (blocks payload size))) ∧
  ∀ i ∈ updateReads size block, i < size.toNat

/-! ## What is received -/

variable {sh : Shifts} {addr : UInt8} {iface : Interface} {s : Fis} {payload : ℕ → UInt8} {size block : UInt32}

theorem full_update (hdvd : size % firmwareUpdatePacketSize = 0) (h0 : size ≠ 0) :
    FwCall.Full (.updateFirmwareBlock payload size block) := ⟨hdvd, h0⟩

theorem phase_lt (phase : UpdatePhase) : phase.toNat < 4 := by
  cases phase <;> decide

/-- **The packet of a call.** -/
theorem packet_view (hdvd : size % firmwareUpdatePacketSize = 0) (h0 : size ≠ 0) (input : Fin 32 → UInt32) :
    ((FwCall.updateFirmwareBlock payload size block).view input).packet =
      ⟨(updatePhase size block).toNat, block.toNat % 2 ^ 14, blockData payload block⟩ := by
  have hfull : FwCall.Full (.updateFirmwareBlock payload size block) := full_update hdvd h0
  have hsize : (FwCall.updateFirmwareBlock payload size block).record.inputPayloadSize ≠ 0 := by
    rcases record_inputPayloadSize (.updateFirmwareBlock payload size block) with ⟨-, h⟩ | ⟨h, -⟩
    · rw [h]
      decide
    · exact absurd hfull h
  have hpayload : (FwCall.updateFirmwareBlock payload size block).record.inputPayload =
      store FwCmd.zero.inputPayload 0
        (updateFirmwarePayload (updatePhase size block) block (blockData payload block)) := by
    rw [record_updateFirmwareBlock hfull]
  have hbytes : ((FwCall.updateFirmwareBlock payload size block).view input).bytes =
      updateFirmwarePayload (updatePhase size block) block (blockData payload block) := by
    rw [bytes_view hsize, hpayload]
    nth_rewrite 1 [← length_updateFirmwarePayload (updatePhase size block) block (length_blockData payload block)]
    exact slice_store_same _ _ _
  have hword : (updatePhase size block).toNat + 4 * (block.toNat % 2 ^ 14) < 256 ^ 2 := by
    have := phase_lt (updatePhase size block)
    have := Nat.mod_lt block.toNat (show 0 < 2 ^ 14 by decide)
    omega
  have hhead : leNat (((FwCall.updateFirmwareBlock payload size block).view input).bytes.take 2) =
      (updatePhase size block).toNat + 4 * (block.toNat % 2 ^ 14) := by
    rw [hbytes, updateFirmwarePayload, List.append_assoc, List.append_assoc,
      List.take_left' (length_leBytes _ _), leNat_leBytes, Nat.mod_eq_of_lt hword]
  have hdata : (((FwCall.updateFirmwareBlock payload size block).view input).bytes.drop 4).take 64 =
      blockData payload block := by
    rw [hbytes, updateFirmwarePayload, List.append_assoc,
      List.drop_left' (by simp), List.take_left' (length_blockData _ _)]
  have hphase := phase_lt (updatePhase size block)
  have h1 : ((updatePhase size block).toNat + 4 * (block.toNat % 2 ^ 14)) % 4 = (updatePhase size block).toNat := by
    omega
  have h2 : ((updatePhase size block).toNat + 4 * (block.toNat % 2 ^ 14)) / 4 = block.toNat % 2 ^ 14 := by
    omega
  rw [Seen.packet, hhead, hdata, h1, h2]

/-- A call that succeeds shows its record. -/
theorem seen_call {c : FwCall} (hfull : c.Full) (h : s.Succeeds sh addr iface c) :
    (s.call sh addr iface c).mailbox.seen = s.mailbox.seen ++ [c.view fun _ => 0] := by
  rcases call_seen sh addr s iface c with hno | ⟨-, hseen⟩
  · refine absurd ?_ h.2
    rw [Fis.seenBy, hno, List.drop_length]
  · rw [hseen, view_of_full hfull]

theorem seen_run {cs : List FwCall} (hfull : ∀ c ∈ cs, c.Full) (h : s.AllSucceed sh addr iface cs) :
    (s.run sh addr iface cs).mailbox.seen = s.mailbox.seen ++ cs.map fun c => c.view fun _ => 0 := by
  induction cs generalizing s with
  | nil => simp [Fis.run]
  | cons c cs ih =>
    have hc := seen_call (hfull c List.mem_cons_self) h.1
    have hcs := ih (fun c' hc' => hfull c' (List.mem_cons_of_mem _ hc')) h.2
    rw [hc, List.append_assoc] at hcs
    exact hcs

/-- The packet of block `i`. -/
def blockPacket (payload : ℕ → UInt8) (size : UInt32) (i : ℕ) : Packet :=
  ⟨(updatePhase size (UInt32.ofNat i)).toNat, (UInt32.ofNat i).toNat % 2 ^ 14, blockData payload (UInt32.ofNat i)⟩

/-- **What is received.** -/
theorem packets_run (hdvd : size % firmwareUpdatePacketSize = 0) (h0 : size ≠ 0)
    (h : s.AllSucceed sh addr iface (blocks payload size)) :
    s.packets sh addr iface (blocks payload size) = (List.range (size.toNat / 64)).map (blockPacket payload size) := by
  have hfull : ∀ c ∈ blocks payload size, c.Full := by
    intro c hc
    obtain ⟨i, -, rfl⟩ := List.mem_map.1 hc
    exact full_update hdvd h0
  rw [Fis.packets, seen_run hfull h, List.drop_left, blocks, List.map_map, List.map_map]
  refine List.map_congr_left fun i _ => ?_
  exact packet_view hdvd h0 _

/-! ## Phases, numbers and data -/

section Blocks

variable (hdvd : size % firmwareUpdatePacketSize = 0) (h0 : size ≠ 0)

include hdvd in
theorem toNat_size : size.toNat = 64 * (size.toNat / 64) := by
  have h := congrArg UInt32.toNat hdvd
  rw [UInt32.toNat_mod, show firmwareUpdatePacketSize.toNat = 64 from rfl, show (0 : UInt32).toNat = 0 from rfl] at h
  omega

include h0 in
theorem size_pos : 0 < size.toNat := Nat.pos_of_ne_zero fun h => h0 (UInt32.toNat_inj.1 h)

theorem toNat_block {i : ℕ} (hi : i < size.toNat / 64) : (UInt32.ofNat i).toNat = i := by
  have := size.toNat_lt
  rw [UInt32.toNat_ofNat', Nat.mod_eq_of_lt (by omega)]

/-- The offset of a block of the image does not wrap. -/
theorem toNat_offset {i : ℕ} (hi : i < size.toNat / 64) :
    (UInt32.ofNat i * firmwareUpdatePacketSize).toNat = 64 * i := by
  have := size.toNat_lt
  rw [UInt32.toNat_mul, toNat_block hi, show firmwareUpdatePacketSize.toNat = 64 from rfl, Nat.mul_comm,
    Nat.mod_eq_of_lt (by omega)]

include hdvd h0 in
/-- **The phases of an image.** The last block finishes, also when it is the first one. -/
theorem updatePhase_block {i : ℕ} (hi : i < size.toNat / 64) :
    updatePhase size (UInt32.ofNat i) =
      if i + 1 = size.toNat / 64 then .finish else if i = 0 then .start else .running := by
  have hsize := toNat_size hdvd
  have hpos := size_pos h0
  have hsub : (size - firmwareUpdatePacketSize).toNat = size.toNat - 64 :=
    UInt32.toNat_sub_of_le _ _ (UInt32.le_iff_toNat_le.2 (show 64 ≤ size.toNat by omega))
  have hzero : UInt32.ofNat i ≠ 0 ↔ i ≠ 0 := by
    rw [Ne, ← UInt32.toNat_inj, toNat_block hi]
    rfl
  have hlast : size - firmwareUpdatePacketSize ≤ UInt32.ofNat i * firmwareUpdatePacketSize ↔
      i + 1 = size.toNat / 64 := by
    rw [UInt32.le_iff_toNat_le, hsub, toNat_offset hi]
    omega
  rw [updatePhase, if_congr hlast rfl (if_congr hzero rfl rfl)]
  split_ifs <;> first | rfl | contradiction

theorem blockData_block {i : ℕ} (hi : i < size.toNat / 64) :
    blockData payload (UInt32.ofNat i) = slice payload (64 * i) 64 := by
  rw [blockData, toNat_offset hi]

end Blocks

/-! ## When the image is transferred -/

section Exact

variable (hdvd : size % firmwareUpdatePacketSize = 0) (h0 : size ≠ 0)

include hdvd h0

omit hdvd h0 in
theorem getElem?_blockPackets {i : ℕ} {p : Packet}
    (h : ((List.range (size.toNat / 64)).map (blockPacket payload size))[i]? = some p) :
    i < size.toNat / 64 ∧ p = blockPacket payload size i := by
  rw [List.getElem?_map, Option.map_eq_some_iff] at h
  obtain ⟨j, hj, rfl⟩ := h
  obtain ⟨hlt, rfl⟩ := List.getElem?_eq_some_iff.1 hj
  rw [List.getElem_range]
  exact ⟨by simpa using hlt, rfl⟩

theorem phase_blockPacket {i : ℕ} (hi : i < size.toNat / 64) :
    (blockPacket payload size i).phase =
      if i + 1 = size.toNat / 64 then 2 else if i = 0 then 0 else 1 := by
  rw [blockPacket, updatePhase_block hdvd h0 hi]
  split_ifs <;> rfl

/-- **An image of two blocks or more**, up to those that the field can number, is transferred. -/
theorem transfersImage_blocks (hmin : 2 ≤ size.toNat / 64) (hmax : size.toNat / 64 ≤ 2 ^ 14) :
    TransfersImage payload size ((List.range (size.toNat / 64)).map (blockPacket payload size)) where
  length p hp := by
    obtain ⟨i, -, rfl⟩ := List.mem_map.1 hp
    exact length_blockData _ _
  data := by
    rw [List.flatMap_map]
    have hdata : ∀ i ∈ List.range (size.toNat / 64),
        (blockPacket payload size i).data = slice payload (64 * i) 64 :=
      fun i hi => blockData_block (List.mem_range.1 hi)
    rw [List.flatMap_congr hdata, flatMap_slices, ← toNat_size hdvd]
  numbers := by
    rw [List.map_map, List.length_map, List.length_range]
    refine (List.map_congr_left fun i hi => ?_).trans (List.map_id _)
    have hi' := List.mem_range.1 hi
    show (UInt32.ofNat i).toNat % 2 ^ 14 = i
    rw [toNat_block hi', Nat.mod_eq_of_lt (by omega)]
  start i p hp := by
    obtain ⟨hi, rfl⟩ := getElem?_blockPackets hp
    rw [phase_blockPacket hdvd h0 hi]
    simp only [UpdatePhase.toNat]
    split_ifs <;> grind
  running i p hp := by
    obtain ⟨hi, rfl⟩ := getElem?_blockPackets hp
    rw [phase_blockPacket hdvd h0 hi, List.length_map, List.length_range]
    simp only [UpdatePhase.toNat]
    split_ifs <;> grind
  finish i p hp := by
    obtain ⟨hi, rfl⟩ := getElem?_blockPackets hp
    rw [phase_blockPacket hdvd h0 hi, List.length_map, List.length_range]
    simp only [UpdatePhase.toNat]
    split_ifs <;> grind

/-- A single block finishes a transfer that has not started. -/
theorem two_le_of_transfersImage
    (h : TransfersImage payload size ((List.range (size.toNat / 64)).map (blockPacket payload size))) :
    2 ≤ size.toNat / 64 := by
  have hsize := toNat_size hdvd
  have hpos := size_pos h0
  by_contra hlt
  have hone : size.toNat / 64 = 1 := by omega
  have hstart := h.start 0 (blockPacket payload size 0) (by rw [hone]; rfl)
  rw [phase_blockPacket hdvd h0 (by omega), hone] at hstart
  exact absurd (hstart.2 rfl) (by decide)

omit hdvd h0 in
theorem number_of_transfersImage
    (h : TransfersImage payload size ((List.range (size.toNat / 64)).map (blockPacket payload size)))
    {i : ℕ} (hi : i < size.toNat / 64) : i % 2 ^ 14 = i := by
  have hnumber := congrArg (·[i]?) h.numbers
  simp only [List.map_map, List.length_map, List.length_range, List.getElem?_map, List.getElem?_range hi,
    Option.map_some, Function.comp_apply, Option.some.injEq] at hnumber
  rwa [blockPacket, toNat_block hi] at hnumber

omit hdvd h0 in
/-- Packet `2 ^ 14` has number `0`. -/
theorem le_of_transfersImage
    (h : TransfersImage payload size ((List.range (size.toNat / 64)).map (blockPacket payload size))) :
    size.toNat / 64 ≤ 2 ^ 14 := by
  by_contra hgt
  have hnumber := number_of_transfersImage h (Nat.lt_of_not_le hgt)
  omega

/-- The reads of a call stay within the image. -/
theorem reads_iff : (∀ i ∈ updateReads size block, i < size.toNat) ↔
    (block * firmwareUpdatePacketSize).toNat + 64 ≤ size.toNat := by
  rw [updateReads, if_neg (not_or.2 ⟨not_not.2 hdvd, h0⟩)]
  constructor
  · intro h
    have := h _ (List.mem_map_of_mem (List.mem_range.2 (show 63 < 64 by decide)))
    omega
  · intro h i hi
    obtain ⟨k, hk, rfl⟩ := List.mem_map.1 hi
    have := List.mem_range.1 hk
    omega

end Exact

/-! ## A device on which all calls succeed -/

/-- Every access over SMBus shows the mailbox ready, no doorbell, and a command that is complete. -/
def Fis.Steady (s : Fis) : Prop := s.smbus.answers = fun _ => ⟨returnSuccess, 0x100001, true⟩

/-- A steady device before the first call. -/
def steadyStart : Fis := Fis.start ⟨fun _ => ⟨returnSuccess, 0x100001, true⟩, []⟩ ⟨fun _ => ⟨.success, 0, true⟩, []⟩

theorem Fis.Steady.call {c : FwCall} (hs : s.Steady) : (s.call sh addr .i2c c).Steady := by
  refine Eq.trans ?_ hs
  dsimp only [Fis.call]
  rw [fwCallSmbus]
  split_ifs
  · rfl
  · cases c.cmd with
    | none => rfl
    | some cmd => exact answers_smbusPassThru _ _ _

/-- **Calls succeed on a steady device**, whatever the block. -/
theorem succeeds_of_steady (hs : s.Steady) (hdvd : size % firmwareUpdatePacketSize = 0) (h0 : size ≠ 0) :
    s.Succeeds sh addr .i2c (.updateFirmwareBlock payload size block) := by
  obtain ⟨cmd, hcmd, hverified⟩ : ∃ cmd, (FwCall.updateFirmwareBlock payload size block).cmd = some cmd ∧
      verifySmbusCmd cmd = returnSuccess := ⟨_, if_neg (not_or.2 ⟨not_not.2 hdvd, h0⟩), rfl⟩
  have hans : ∀ i, s.smbus.ahead i = ⟨returnSuccess, 0x100001, true⟩ := by
    intro i
    rw [Device.ahead, hs]
  have hgood : ∀ i, ¬ IsError (s.smbus.ahead i).code := by
    intro i
    rw [hans i]
    exact not_isError_success
  have hready : mailboxReady (s.smbus.ahead 1).value = true := by
    rw [hans 1]
    decide
  have hafter : ∀ j, afterInputs s.smbus cmd j = ⟨returnSuccess, 0x100001, true⟩ := fun j => hans _
  have hclear : doorbell (afterInputs s.smbus cmd (1 + 0)).value = false := by
    rw [hafter]
    decide
  have hstatus : statusByte (afterInputs s.smbus cmd (2 + 0)).value = 0 := by
    rw [hafter]
    decide
  have hcomplete : mbComplete (afterInputs s.smbus cmd (2 + 0)).value = true := by
    rw [hafter]
    decide
  have hpasses : Passes s.smbus cmd 0 :=
    ⟨hverified, hgood 0, hgood 1, hready, fun i _ => hgood _,
      ⟨fun j hj => absurd hj (Nat.not_lt_zero j), .inr hclear⟩, hgood _, hstatus, fun i _ => hgood _,
      congrArg Answer.code (hafter _), fun _ => hcomplete⟩
  refine ⟨?_, ?_⟩
  · rw [Fis.code, hcmd]
    exact smbusPassThru_success_iff.2 ⟨0, by decide, hpasses⟩
  · have hrun : s.mailbox.run (smbusOps (s.smbus.transcript (smbusPassThru s.smbus cmd ptLongTimeoutInterval).bus)) =
        ⟨(cmd.smbusSeen s.mailbox.input).input, s.mailbox.seen ++ [cmd.smbusSeen s.mailbox.input]⟩ :=
      smbusPassThru_run hverified (hgood 0) (hgood 1) hready (fun i _ => hgood _) (hgood _) s.mailbox
    have hact : ¬ (FwCall.updateFirmwareBlock payload size block).isActivation = true := Bool.false_ne_true
    rw [Fis.seenBy, Fis.call, fwCallSmbus, if_neg hact, hcmd]
    dsimp only
    rw [hrun, List.drop_left]
    exact List.cons_ne_nil _ _

theorem allSucceed_of_steady (hdvd : size % firmwareUpdatePacketSize = 0) (h0 : size ≠ 0) {cs : List FwCall}
    (hcs : cs ⊆ blocks payload size) (hs : s.Steady) : s.AllSucceed sh addr .i2c cs := by
  induction cs generalizing s with
  | nil => trivial
  | cons c cs ih =>
    obtain ⟨i, -, rfl⟩ := List.mem_map.1 (hcs List.mem_cons_self)
    exact ⟨succeeds_of_steady hs hdvd h0, ih (fun c hc => hcs (List.mem_cons_of_mem _ hc)) hs.call⟩

/-! ## The result -/

/-- The transfer succeeds on some device, so its packets are those of the blocks. -/
theorem transfersImage_of_exact (hdvd : size % firmwareUpdatePacketSize = 0) (h0 : size ≠ 0)
    (h : UpdateExact payload size block) :
    TransfersImage payload size ((List.range (size.toNat / 64)).map (blockPacket payload size)) := by
  have hall : steadyStart.AllSucceed Shifts.mod32 0 .i2c (blocks payload size) :=
    allSucceed_of_steady hdvd h0 (List.Subset.refl _) rfl
  rw [← packets_run hdvd h0 hall]
  exact h.1 _ _ _ _ hall

/-- **When an image is transferred exactly**: it has two blocks at least and no more than the field can number, and the
block that is asked for is one of them. -/
theorem updateExact_iff (payload : ℕ → UInt8) (size block : UInt32) (hdvd : size % firmwareUpdatePacketSize = 0)
    (h0 : size ≠ 0) : UpdateExact payload size block ↔
      (2 ≤ size.toNat / 64 ∧ size.toNat / 64 ≤ 2 ^ 14) ∧ (block * firmwareUpdatePacketSize).toNat + 64 ≤ size.toNat := by
  constructor
  · intro h
    have himage := transfersImage_of_exact hdvd h0 h
    exact ⟨⟨two_le_of_transfersImage hdvd h0 himage, le_of_transfersImage himage⟩, (reads_iff hdvd h0).1 h.2⟩
  · rintro ⟨⟨hmin, hmax⟩, hblock⟩
    refine ⟨fun sh addr iface s hall => ?_, (reads_iff hdvd h0).2 hblock⟩
    rw [packets_run hdvd h0 hall]
    exact transfersImage_blocks hdvd h0 hmin hmax

/-- An image of two blocks, of which the second is asked for. -/
theorem updateExact_iff_two : UpdateExact (fun _ => 0) 128 1 ↔
    (2 ≤ (128 : UInt32).toNat / 64 ∧ (128 : UInt32).toNat / 64 ≤ 2 ^ 14) ∧
      ((1 : UInt32) * firmwareUpdatePacketSize).toNat + 64 ≤ (128 : UInt32).toNat :=
  updateExact_iff (fun _ => 0) 128 1 (by decide) (by decide)

/-- The last packet of an image of `2 ^ 14 + 1` blocks has the number of the first one. -/
theorem not_updateExact : ¬ ∀ (payload : ℕ → UInt8) (size block : UInt32), size % firmwareUpdatePacketSize = 0 →
    size ≠ 0 → UpdateExact payload size block := by
  intro h
  have hdvd : (1048640 : UInt32) % firmwareUpdatePacketSize = 0 := by decide
  have h0 : (1048640 : UInt32) ≠ 0 := by decide
  have hle := le_of_transfersImage (transfersImage_of_exact hdvd h0 (h (fun _ => 0) 1048640 0 hdvd h0))
  rw [show (1048640 : UInt32).toNat = 1048640 from rfl] at hle
  omega

end BmcNvdimm
