import Bmc.Boot.YafuResponse

/-!
# The bounds of the commands of the recovery mode

* `Access.InBounds`, `Bounded`: what a handler may read and write, and how many bytes it may tell; `PacketBounded`: the same
  of a packet;
* `bounded_after`, `bounded_yafuAnswer`, …: the bounds of a handler from those of its parts;
* `HandlerSafe`: the tests that a request passes;
* **`packetBounded_iff`**: a packet is handled within the bounds exactly when it has a header and its command is safe.
-/

namespace BmcBoot

open BmcLib

/-! ## The bounds -/

/-- `MAX_IPMI_MSG_LEN` and `MAX_KCS_PKT_LEN` -/
abbrev maxIpmiMsgLen : ℕ := 64 * 1024

/-- The bytes that are read are those of the request, nothing of it is changed, what is written stays in the upload area and in
the memory of the handler, an entry of a table is one of its entries, and no pointer is `NULL`. -/
def Access.InBounds (c : YafuConfig) (reqLen : ℕ) : Access → Prop
  | request start size => size = 0 ∨ start + size ≤ reqLen
  | clear _ size => size = 0
  | upload start size => size = 0 ∨ start + size ≤ c.uploadSize
  | temp size => size ≤ c.tempSize
  | heap size limit => size ≤ limit
  | table index length => 0 ≤ index ∧ index < length
  | null => False

/-- A byte of the response is written. -/
def Handling.Written (h : Handling) (k : ℕ) : Prop := ∃ w ∈ h.writes, w.1 ≤ k ∧ k < w.1 + w.2.length

/-- The accesses are in bounds, the bytes that are sent are those that are written, and they fit into the buffer of the response
and behind the header of a packet. -/
structure Bounded (c : YafuConfig) (reqLen : ℕ) (h : Handling) : Prop where
  accesses : ∀ a ∈ h.accesses, a.InBounds c reqLen
  written : ∀ k, h.Written k → k < maxIpmiMsgLen
  sent : ∀ k, k < h.length ↔ h.Written k
  fits : 2 + h.length ≤ maxIpmiMsgLen

/-- What is copied as the request is a part of the packet, fits into the buffer of the requests, and is handled within the
bounds. -/
structure PacketBounded (c : YafuConfig) (x : YafuInputs) (s : YafuState) (b : KCSBuffers) (packet : List UInt8) : Prop where
  copied : 2 + requestLength packet ≤ packet.length
  stored : requestLength packet ≤ maxIpmiMsgLen
  handled : Bounded c (requestLength packet) (processKCSRequest c x s b packet)

/-! ## Parts -/

section Parts

variable {c : YafuConfig} {x : YafuInputs} {s : YafuState} {req : ℕ → UInt8} {reqLen n : ℕ} {code : UInt16} {sum : UInt32}
  {data : List UInt8} {h : Handling}

@[simp] theorem bounded_after (accesses : List Access) :
    Bounded c reqLen (h.after accesses) ↔ (∀ a ∈ accesses, a.InBounds c reqLen) ∧ Bounded c reqLen h := by
  constructor
  · intro hb
    exact ⟨fun a ha => hb.accesses a (List.mem_append_left _ ha),
      ⟨fun a ha => hb.accesses a (List.mem_append_right _ ha), hb.written, hb.sent, hb.fits⟩⟩
  · rintro ⟨haccesses, hb⟩
    refine ⟨fun a ha => ?_, hb.written, hb.sent, hb.fits⟩
    rcases List.mem_append.1 ha with ha | ha
    · exact haccesses a ha
    · exact hb.accesses a ha

/-- A response that is one field. -/
theorem written_single {l : List UInt8} (hw : h.writes = [(0, l)]) (k : ℕ) : h.Written k ↔ k < l.length := by
  simp [Handling.Written, hw]

theorem bounded_single {l : List UInt8} (hw : h.writes = [(0, l)]) (hl : h.length = l.length) :
    Bounded c reqLen h ↔ (∀ a ∈ h.accesses, a.InBounds c reqLen) ∧ 2 + l.length ≤ maxIpmiMsgLen := by
  constructor
  · intro hb
    exact ⟨hb.accesses, hl ▸ hb.fits⟩
  · rintro ⟨haccesses, hfits⟩
    refine ⟨haccesses, fun k hk => ?_, fun k => ?_, hl ▸ hfits⟩
    · rw [written_single hw] at hk
      omega
    · rw [written_single hw, hl]

theorem bounded_of_single {l : List UInt8} (hw : h.writes = [(0, l)]) (hl : h.length = l.length)
    (haccesses : ∀ a ∈ h.accesses, a.InBounds c reqLen) (hfits : 2 + h.length ≤ maxIpmiMsgLen) : Bounded c reqLen h :=
  (bounded_single hw hl).2 ⟨haccesses, hl ▸ hfits⟩

/-- A response that is shorter or longer than what is written. -/
theorem not_bounded_of_sent (k : ℕ) (hk : ¬ (k < h.length ↔ h.Written k)) : ¬ Bounded c reqLen h :=
  fun hb => hk (hb.sent k)

@[simp] theorem bounded_yafuRefuse : Bounded c reqLen (yafuRefuse s req code) ↔ 4 ≤ reqLen := by
  rw [bounded_single rfl (by simp [yafuRefuse, yafuNotAck])]
  simp only [yafuRefuse, yafuNotAck, List.forall_mem_singleton, Access.InBounds]
  simp [maxIpmiMsgLen]

@[simp] theorem bounded_yafuAnswer :
    Bounded c reqLen (yafuAnswer s req n sum data) ↔ 6 ≤ reqLen ∧ 15 + data.length ≤ maxIpmiMsgLen := by
  rw [bounded_single rfl length_yafuHeader.symm, length_yafuHeader]
  simp [yafuAnswer, Access.InBounds]
  omega

theorem bounded_codeOnly (b : UInt8) : Bounded c reqLen (codeOnly s b) := by
  rw [bounded_single rfl rfl]
  exact ⟨fun a ha => absurd ha List.not_mem_nil, show 2 + 1 ≤ maxIpmiMsgLen by decide⟩

theorem bounded_optionReply (option : UInt8) : Bounded c reqLen (optionReply s option) := by
  have hwritten : ∀ k, (optionReply s option).Written k ↔ k < 2 := by
    intro k
    simp [Handling.Written, optionReply]
    omega
  refine ⟨fun a ha => absurd ha List.not_mem_nil, fun k hk => ?_, fun k => (hwritten k).symm,
    show 2 + 2 ≤ maxIpmiMsgLen by decide⟩
  exact lt_trans ((hwritten k).1 hk) (by decide)

/-- An option that is answered when it is valid. -/
theorem bounded_optionReply_ite {p : Prop} [Decidable p] {s s' : YafuState} (option code : UInt8) :
    Bounded c reqLen (if p then optionReply s option else codeOnly s' code) := by
  split_ifs
  · exact bounded_optionReply _
  · exact bounded_codeOnly _

@[simp] theorem bounded_whenActivated :
    Bounded c reqLen (whenActivated s req code h) ↔
      (s.activateFlashStatus = true → Bounded c reqLen h) ∧ (s.activateFlashStatus = false → 4 ≤ reqLen) := by
  rw [whenActivated]
  cases s.activateFlashStatus <;> simp

/-- A checksum is read in the request and computed over it. -/
@[simp] theorem bounded_whenChksum :
    Bounded c reqLen (whenChksum x s req n h) ↔
      12 + n ≤ reqLen ∧ (chksumMatches x req n = true → Bounded c reqLen h) := by
  rw [whenChksum, bounded_after]
  cases hsum : chksumMatches x req n
  · simp [Access.InBounds]
    omega
  · simp [Access.InBounds]
    omega

@[simp] theorem bounded_whenDatalen :
    Bounded c reqLen (whenDatalen s req n h) ↔ 8 ≤ reqLen ∧ (datalen req = n → Bounded c reqLen h) := by
  rw [whenDatalen, bounded_after]
  by_cases hlen : datalen req = n
  · simp [hlen, Access.InBounds]
  · simp [hlen, Access.InBounds]
    omega

end Parts

/-! ## The commands -/

/-- The tests of a request whose length is that of its command. -/
def HandlerSafe (c : YafuConfig) (x : YafuInputs) (s : YafuState) (req : ℕ → UInt8) (reqLen : ℕ) : IPMICommand → Prop
  | .getDevID => x.moduleVersion ≠ none
  | .getChAuthCaps => False
  | .getSessionChallenge | .activateSession | .setSessionPrivLevel | .closeSession => True
  | .dualImageSupport =>
    1 ≤ reqLen ∧ 1 ≤ (req 0).toNat ∧ (req 0).toNat ≤ 8 ∧
      (reqLen % 256 = dualResBits.getD ((req 0).toNat - 1) 0 → c.dualImage = true →
        req 0 = 1 ∨ req 0 = 3 ∨ req 0 = 4 ∨ req 0 = 7 ∨
          req 0 = 2 ∧ ∃ value, s.envGet (textBytes "bootselector") = some value ∧
            checkForBootOption (UInt8.ofNat (x.strtoul value)) = true)
  | .yafu .getFlashInfo | .yafu .activateFlash | .yafu .deactivateFlashMode | .yafu .getRecoverySPIDetails => True
  | .yafu .getFMHInfo =>
    x.alloc 0 = true ∧ (fmhScan c x s).error = none ∧ (fmhScan c x s).modules.length ≤ 18 ∧ datalen req = 0
  | .yafu .getStatus | .yafu .dualImageSup => False
  | .yafu .protectFlash =>
    s.activateFlashStatus = true → datalen req ≤ 5 ∧
      ¬ (chksumMatches x req (datalen req) = true ∧ datalen req = 5 ∧ x.protectOff = true)
  | .yafu .eraseCopyFlash => s.activateFlashStatus = true → datalen req ≤ 12
  | .yafu .writeMemory =>
    (s.activateFlashStatus = false → 4 ≤ reqLen) ∧
      (s.activateFlashStatus = true → 12 + datalen req ≤ reqLen ∧
        (chksumMatches x req (datalen req) = true → 5 ≤ datalen req ∧ ∃ addr, s.newFirmwareAddr = some addr ∧
          (datalen req = 5 ∨ addr + (datalen req - 5) ≤ c.uploadSize)))
  | .yafu .getBootConfig =>
    s.activateFlashStatus = true → datalen req ≤ 65 ∧
      (chksumMatches x req (datalen req) = true → datalen req = 65 → (cString req 12).length < 65 ∧
        ∃ value, s.envGet (cString req 12) = some value ∧ value.length + 17 ≤ maxIpmiMsgLen)
  | .yafu .setBootConfig =>
    (s.activateFlashStatus = false → 4 ≤ reqLen) ∧
      (s.activateFlashStatus = true → 12 + datalen req ≤ reqLen ∧
        (chksumMatches x req (datalen req) = true → datalen req = 65 ∧ 13 + (cString req 12).length ≤ reqLen))
  | .yafu .getBootVars =>
    (s.activateFlashStatus = false → 4 ≤ reqLen) ∧
      (s.activateFlashStatus = true →
        6 ≤ reqLen ∧ (bootVarBuffer x).length ≤ c.tempSize ∧ bootVarlen x + 16 ≤ maxIpmiMsgLen)
  | .yafu .resetDevice => ¬ (chksumMatches x req 2 = true ∧ datalen req = 2)

section Commands

variable {c : YafuConfig} {x : YafuInputs} {s : YafuState} {req res : ℕ → UInt8} {reqLen : ℕ}

theorem bounded_activateFlash : Bounded c 14 (amiYafuActivateFlashMode x s req) := by
  rw [amiYafuActivateFlashMode, bounded_whenChksum, bounded_whenDatalen, bounded_yafuAnswer]
  simp [maxIpmiMsgLen]

theorem bounded_deactivateFlash : Bounded c 12 (amiYafuDeactivateFlash x s req) := by
  rw [amiYafuDeactivateFlash, bounded_whenActivated, bounded_whenDatalen, bounded_yafuAnswer]
  simp [maxIpmiMsgLen]

theorem bounded_eraseCopyFlash :
    Bounded c 24 (amiYafuEraseCopyFlash x s req) ↔ (s.activateFlashStatus = true → datalen req ≤ 12) := by
  rw [amiYafuEraseCopyFlash, bounded_whenActivated, bounded_whenChksum, bounded_whenDatalen, bounded_after, bounded_yafuAnswer]
  simp [maxIpmiMsgLen, Access.InBounds]
  exact imp_congr_right fun _ => by omega

/-- A status that is not written, behind a header. -/
theorem not_bounded_status {h : Handling} {n : ℕ} {sum : UInt32} (hw : h.writes = [(0, yafuHeader req n sum [])])
    (hl : h.length = 14) : ¬ Bounded c reqLen h := by
  refine not_bounded_of_sent 13 fun hsent => ?_
  rw [hl, written_single hw, length_yafuHeader] at hsent
  exact absurd (hsent.1 (by decide)) (by decide)

theorem bounded_resetDevice :
    Bounded c 14 (amiYafuResetDevice x s req res) ↔ ¬ (chksumMatches x req 2 = true ∧ datalen req = 2) := by
  rw [amiYafuResetDevice, bounded_whenChksum, bounded_whenDatalen, iff_false_intro (not_bounded_status rfl rfl)]
  simp

/-- A refusal, after a field that it covers. -/
theorem bounded_above_yafuRefuse {code : UInt16} (n : ℕ) :
    Bounded c reqLen ((yafuRefuse s req code).above [(7, leBytes 2 n)]) ↔ 4 ≤ reqLen := by
  have hwritten : ∀ k, ((yafuRefuse s req code).above [(7, leBytes 2 n)]).Written k ↔ k < 14 := by
    intro k
    simp [Handling.Written, Handling.above, yafuRefuse, yafuNotAck]
    omega
  constructor
  · intro hb
    exact (hb.accesses (.request 0 4) List.mem_cons_self).resolve_left (by decide)
  · intro hlen
    refine ⟨fun a ha => ?_, fun k hk => lt_trans ((hwritten k).1 hk) (by decide), fun k => (hwritten k).symm,
      show 2 + 14 ≤ maxIpmiMsgLen by decide⟩
    rw [List.mem_singleton.1 ha]
    exact .inr hlen

theorem bounded_protectFlash :
    Bounded c 17 (amiYafuProtectFlash x s req res) ↔ (s.activateFlashStatus = true → datalen req ≤ 5 ∧
      ¬ (chksumMatches x req (datalen req) = true ∧ datalen req = 5 ∧ x.protectOff = true)) := by
  rw [amiYafuProtectFlash, bounded_whenActivated, bounded_whenChksum, bounded_whenDatalen]
  cases x.protectOff with
  | false =>
    rw [if_neg Bool.false_ne_true, bounded_above_yafuRefuse]
    simp
    exact imp_congr_right fun _ => by omega
  | true =>
    rw [if_pos rfl, iff_false_intro (not_bounded_status rfl rfl)]
    simp
    exact imp_congr_right fun _ => and_congr_left fun _ => by omega

theorem bounded_writeMemory (hlen : reqLen < 2 ^ 32) :
    Bounded c reqLen (amiYafuWriteMemory x s req) ↔ HandlerSafe c x s req reqLen (.yafu .writeMemory) := by
  have hdatalen := datalen_lt req
  rw [amiYafuWriteMemory, bounded_whenActivated, bounded_whenChksum, HandlerSafe, and_comm]
  refine and_congr_right fun _ => imp_congr_right fun _ => and_congr_right fun hle => imp_congr_right fun _ => ?_
  cases haddr : s.newFirmwareAddr with
  | none =>
    refine iff_of_false (fun hb => hb.accesses .null (by simp)) ?_
    simp
  | some addr =>
    rw [bounded_after, bounded_yafuAnswer]
    simp [Access.InBounds, maxIpmiMsgLen]
    by_cases h5 : 5 ≤ datalen req
    · rw [sizeT_of_le hdatalen h5]
      omega
    · have hsize := sizeT_of_lt (Nat.not_le.1 h5) (by decide)
      omega

theorem bounded_getBootConfig :
    Bounded c 77 (amiYafuGetBootConfig x s req) ↔ HandlerSafe c x s req 77 (.yafu .getBootConfig) := by
  rw [amiYafuGetBootConfig, bounded_whenActivated, bounded_whenChksum, bounded_whenDatalen, HandlerSafe]
  refine (and_iff_left fun _ => by decide).trans (imp_congr_right fun _ => and_congr (by omega) (imp_congr_right fun _ => ?_))
  refine (and_iff_right (by decide)).trans (imp_congr_right fun _ => ?_)
  cases hvalue : s.envGet (cString req 12) with
  | none =>
    refine iff_of_false (fun hb => hb.accesses .null (by simp)) ?_
    simp
  | some value =>
    rw [bounded_after, bounded_yafuAnswer]
    simp [Access.InBounds, maxIpmiMsgLen]
    omega

/-- Nothing is cleared when there is no value. -/
theorem setBootName_eq (hlen : datalen req = 65) : setBootName req = cString req 12 := by
  have hsize : sizeT (datalen req) 65 = 0 := by
    rw [hlen]
    decide
  have hcleared : (fun a => if 77 ≤ a ∧ a < 77 + sizeT (datalen req) 65 then 0 else req a) = req := by
    funext a
    rw [if_neg (by omega)]
  rw [setBootName, hcleared]

theorem bounded_setBootConfig :
    Bounded c reqLen (amiYafuSetBootConfig x s req) ↔ HandlerSafe c x s req reqLen (.yafu .setBootConfig) := by
  have hdatalen := datalen_lt req
  rw [amiYafuSetBootConfig, bounded_whenActivated, bounded_whenChksum, HandlerSafe, and_comm]
  refine and_congr_right fun _ => imp_congr_right fun _ => and_congr_right fun hle => imp_congr_right fun _ => ?_
  rw [bounded_single rfl length_yafuHeader.symm]
  by_cases hlen : datalen req = 65
  · have hsize : sizeT (datalen req) 65 = 0 := by
      rw [hlen]
      decide
    rw [setBootName_eq hlen, hsize, length_yafuHeader]
    simp [Access.InBounds, maxIpmiMsgLen]
    omega
  · refine iff_of_false (fun hb => hlen ?_) fun h => hlen h.1
    -- what is cleared is a part of the request
    have hclear : sizeT (datalen req) 65 = 0 := hb.1 (.clear 77 (sizeT (datalen req) 65)) (by simp)
    rw [sizeT] at hclear
    omega

theorem bounded_getBootVars :
    Bounded c reqLen (amiYafuGetBootVars x s req) ↔ HandlerSafe c x s req reqLen (.yafu .getBootVars) := by
  rw [amiYafuGetBootVars, bounded_whenActivated, bounded_after, HandlerSafe, and_comm]
  refine and_congr_right fun _ => imp_congr_right fun _ => ?_
  have hanswer : ∀ n sum, Bounded c reqLen (yafuAnswer s.normal req n sum (bootVarData x)) ↔
      6 ≤ reqLen ∧ 15 + (bootVarlen x + 1) ≤ maxIpmiMsgLen := by
    intro n sum
    rw [bounded_yafuAnswer, length_bootVarData]
  refine (and_congr (List.forall_mem_singleton (p := fun a : Access => a.InBounds c reqLen)) (hanswer _ _)).trans ?_
  rw [Access.InBounds, bootVarBuffer]
  omega

/-- The number of modules, behind what is sent. -/
theorem not_bounded_numFMH {h : Handling} {n : ℕ} {ws : List (ℕ × List UInt8)} (hw : h.writes = (15, leBytes 2 n) :: ws)
    (hl : h.length ≤ 14) : ¬ Bounded c reqLen h := by
  refine not_bounded_of_sent 15 fun hsent => ?_
  have hlt := hsent.2 ⟨_, hw ▸ List.mem_cons_self, le_rfl, by simp⟩
  omega

theorem bounded_getFMHInfo :
    Bounded c 12 (amiYafuGetFMHInfo c x s req) ↔ HandlerSafe c x s req 12 (.yafu .getFMHInfo) := by
  rw [amiYafuGetFMHInfo, HandlerSafe]
  cases halloc : x.alloc 0 with
  | false =>
    refine iff_of_false ?_ (by simp)
    refine not_bounded_of_sent 0 fun hsent => ?_
    obtain ⟨w, hw, hle, -⟩ := hsent.1 (show 0 < 2 ^ 32 - 1 by decide)
    rw [List.mem_singleton.1 hw] at hle
    exact absurd hle (by decide)
  | true =>
    rw [if_neg (by decide)]
    cases herror : (fmhScan c x s).error with
    | some code =>
      simp only [herror]
      exact iff_of_false (not_bounded_numFMH rfl (show 14 ≤ 14 from le_rfl)) (by simp)
    | none =>
      simp only [herror]
      by_cases hlen : datalen req = 0
      · rw [if_neg (not_not_intro hlen), bounded_after, bounded_yafuAnswer]
        simp [-List.length_flatten, Access.InBounds, maxIpmiMsgLen, length_flatten_modules, hlen]
        omega
      · rw [if_pos hlen]
        exact iff_of_false (not_bounded_numFMH rfl (show 1 ≤ 14 by decide)) (by simp [hlen])

theorem not_bounded_getStatus : ¬ Bounded c reqLen (amiYafuGetStatus x s req) := by
  refine not_bounded_of_sent 30 fun hsent => ?_
  obtain ⟨w, hw, -, hlt⟩ := hsent.1 (show 30 < 86 by decide)
  rcases List.mem_cons.1 hw with rfl | hw
  · rw [length_yafuHeader] at hlt
    simp at hlt
  · rw [List.mem_singleton.1 hw] at hlt
    exact absurd hlt (by decide)

theorem not_bounded_dualImgSup : ¬ Bounded c reqLen (amiYafuDualImgSup x s req) := by
  rw [amiYafuDualImgSup, bounded_after]
  rintro ⟨-, hb⟩
  revert hb
  split_ifs with hsum
  · refine not_bounded_of_sent 1 fun hsent => ?_
    rw [written_single rfl] at hsent
    exact absurd (hsent.1 (show 1 < 13 by decide)) (by decide)
  · refine not_bounded_of_sent 0 fun hsent => ?_
    obtain ⟨w, hw, -⟩ := hsent.1 (show 0 < 18 by decide)
    exact List.not_mem_nil hw

theorem not_bounded_getChAuthCaps : ¬ Bounded c reqLen (getChAuthCaps s req) := by
  cases hlevel : isPrivLevel (req 1) with
  | true =>
    rw [getChAuthCaps, hlevel]
    refine not_bounded_of_sent 4 fun hsent => ?_
    obtain ⟨w, hw, -, hlt⟩ := hsent.1 (show 4 < 9 by decide)
    rcases List.mem_cons.1 hw with rfl | hw
    · simp at hlt
    · rw [List.mem_singleton.1 hw] at hlt
      exact absurd hlt (by decide)
  | false =>
    rw [getChAuthCaps, hlevel]
    refine not_bounded_of_sent 1 fun hsent => ?_
    exact absurd (hsent.2 ⟨_, List.mem_cons_self, Nat.zero_le _, by simp⟩) (show ¬ 1 < 1 by decide)

/-- A length that is a code. -/
theorem not_bounded_code {code : UInt8} (hcode : 0 < code.toNat) : ¬ Bounded c reqLen ⟨s, [], [], code.toNat, false⟩ := by
  refine not_bounded_of_sent 0 fun hsent => ?_
  obtain ⟨w, hw, -⟩ := hsent.1 hcode
  exact List.not_mem_nil hw

/-- The parameters that are answered. -/
theorem bounded_dualImageParameter (parameter : UInt8) (hlen : 2 ≤ reqLen ∨ parameter ≠ 1 ∧ parameter ≠ 3) :
    Bounded c reqLen (dualImageParameter c x s req parameter) ↔
      (parameter = 1 ∨ parameter = 3 ∨ parameter = 4 ∨ parameter = 7 ∨
        parameter = 2 ∧ ∃ value, s.envGet (textBytes "bootselector") = some value ∧
          checkForBootOption (UInt8.ofNat (x.strtoul value)) = true) := by
  have hread : 2 ≤ reqLen → ∀ a ∈ [Access.request 1 1], a.InBounds c reqLen := by
    rintro hle a ha
    rw [List.mem_singleton.1 ha]
    exact .inr hle
  rw [dualImageParameter]
  by_cases h1 : parameter = 1
  · rw [if_pos h1, bounded_after]
    exact iff_of_true ⟨hread (hlen.resolve_right fun hne => hne.1 h1), bounded_optionReply_ite _ _⟩ (.inl h1)
  rw [if_neg h1]
  by_cases h2 : parameter = 2
  · rw [if_pos h2]
    have hother : (parameter = 1 ∨ parameter = 3 ∨ parameter = 4 ∨ parameter = 7) = False := by
      rw [h2]
      decide
    cases hvalue : s.envGet (textBytes "bootselector") with
    | none =>
      refine iff_of_false (not_bounded_code (by decide)) ?_
      simp [h2]
    | some value =>
      simp only [h2]
      split_ifs with hcheck
      · exact iff_of_true (bounded_optionReply _) (by simp [hcheck])
      · exact iff_of_false (not_bounded_code (by decide)) (by simp [hcheck])
  rw [if_neg h2]
  by_cases h3 : parameter = 3
  · rw [if_pos h3, bounded_after]
    exact iff_of_true ⟨hread (hlen.resolve_right fun hne => hne.2 h3), bounded_optionReply_ite _ _⟩ (.inr (.inl h3))
  rw [if_neg h3]
  by_cases h4 : parameter = 4
  · rw [if_pos h4]
    exact iff_of_true (bounded_optionReply_ite _ _) (.inr (.inr (.inl h4)))
  rw [if_neg h4]
  by_cases h7 : parameter = 7
  · rw [if_pos h7]
    exact iff_of_true (bounded_optionReply _) (.inr (.inr (.inr (.inl h7))))
  rw [if_neg h7]
  exact iff_of_false (not_bounded_code (by decide)) (by simp [h1, h2, h3, h4, h7])

theorem bounded_dualImageSupport :
    Bounded c reqLen (amiDualImageSupport c x s req reqLen) ↔ HandlerSafe c x s req reqLen .dualImageSupport := by
  have haccesses : (∀ a ∈ [Access.request 0 1, Access.table ((req 0).toNat - 1) dualResBits.length], a.InBounds c reqLen) ↔
      1 ≤ reqLen ∧ 1 ≤ (req 0).toNat ∧ (req 0).toNat ≤ 8 := by
    simp [Access.InBounds, dualResBits]
  rw [amiDualImageSupport, bounded_after, haccesses, HandlerSafe, and_assoc, and_assoc]
  refine and_congr_right fun hlen => and_congr_right fun hpos => and_congr_right fun hle => ?_
  by_cases hmatch : reqLen % 256 = dualResBits.getD ((req 0).toNat - 1) 0
  · rw [if_neg (not_not_intro hmatch)]
    cases hdual : c.dualImage with
    | false =>
      rw [if_pos (by decide)]
      exact iff_of_true (bounded_codeOnly _) (by simp)
    | true =>
      rw [if_neg (by decide), bounded_dualImageParameter]
      · simp [hmatch]
      · -- a parameter with an option has a request of two bytes
        by_cases h1 : req 0 = 1
        · rw [h1] at hmatch
          exact .inl (by simp [dualResBits] at hmatch; omega)
        · by_cases h3 : req 0 = 3
          · rw [h3] at hmatch
            exact .inl (by simp [dualResBits] at hmatch; omega)
          · exact .inr ⟨h1, h3⟩
  · rw [if_pos hmatch]
    exact iff_of_true (bounded_codeOnly _) fun h => absurd h hmatch

theorem bounded_getDevID : Bounded c reqLen (getDevID x s) ↔ x.moduleVersion ≠ none := by
  rw [getDevID]
  cases hversion : x.moduleVersion with
  | none => exact iff_of_false (fun hb => hb.accesses .null List.mem_cons_self) (not_not_intro rfl)
  | some version =>
    refine iff_of_true ?_ (Option.some_ne_none _)
    exact bounded_of_single rfl rfl (fun a ha => absurd ha List.not_mem_nil) (show 2 + 16 ≤ maxIpmiMsgLen by decide)

theorem bounded_activateSession : Bounded c 22 (activateSession s req) := by
  rw [activateSession, bounded_after]
  refine ⟨fun a ha => ?_, ?_⟩
  · rw [List.mem_singleton.1 ha]
    exact .inr (by decide)
  split_ifs
  · exact bounded_of_single rfl rfl (fun a ha => absurd ha List.not_mem_nil) (show 2 + 11 ≤ maxIpmiMsgLen by decide)
  · exact bounded_codeOnly _

theorem bounded_closeSession : Bounded c 4 (closeSession s req) := by
  rw [closeSession, bounded_after]
  refine ⟨fun a ha => ?_, ?_⟩
  · rw [List.mem_singleton.1 ha]
    exact .inr (by decide)
  split_ifs
  · exact bounded_of_single rfl rfl (fun a ha => absurd ha List.not_mem_nil) (show 2 + 1 ≤ maxIpmiMsgLen by decide)
  · exact bounded_codeOnly _

/-- **One command.** A handler that is called with the length of its command stays in bounds exactly when its request is safe. -/
theorem bounded_handle (command : IPMICommand) (hlen : command.len.all (· = reqLen) = true) (hlt : reqLen < 2 ^ 32) :
    Bounded c reqLen (command.handle c x s req reqLen res) ↔ HandlerSafe c x s req reqLen command := by
  have hfixed : ∀ n, command.len = some n → n = reqLen := by
    intro n hn
    rw [hn] at hlen
    exact of_decide_eq_true hlen
  cases command with
  | getDevID => exact bounded_getDevID
  | getChAuthCaps => exact iff_of_false not_bounded_getChAuthCaps id
  | getSessionChallenge =>
    refine iff_of_true ?_ trivial
    exact bounded_of_single rfl rfl (fun a ha => absurd ha List.not_mem_nil) (show 2 + 21 ≤ maxIpmiMsgLen by decide)
  | activateSession =>
    obtain rfl := hfixed 22 rfl
    exact iff_of_true bounded_activateSession trivial
  | setSessionPrivLevel =>
    obtain rfl := hfixed 1 rfl
    refine iff_of_true (bounded_of_single rfl rfl (fun a ha => ?_) (show 2 + 2 ≤ maxIpmiMsgLen by decide)) trivial
    rw [List.mem_singleton.1 ha]
    exact .inr (by decide)
  | closeSession =>
    obtain rfl := hfixed 4 rfl
    exact iff_of_true bounded_closeSession trivial
  | dualImageSupport => exact bounded_dualImageSupport
  | yafu command =>
    cases command with
    | getFlashInfo =>
      obtain rfl := hfixed 12 rfl
      refine iff_of_true (bounded_yafuAnswer.2 ⟨by decide, ?_⟩) trivial
      simp [maxIpmiMsgLen]
    | getFMHInfo =>
      obtain rfl := hfixed 12 rfl
      exact bounded_getFMHInfo
    | getStatus => exact iff_of_false not_bounded_getStatus id
    | activateFlash =>
      obtain rfl := hfixed 14 rfl
      exact iff_of_true bounded_activateFlash trivial
    | protectFlash =>
      obtain rfl := hfixed 17 rfl
      exact bounded_protectFlash
    | eraseCopyFlash =>
      obtain rfl := hfixed 24 rfl
      exact bounded_eraseCopyFlash
    | writeMemory => exact bounded_writeMemory hlt
    | getBootConfig =>
      obtain rfl := hfixed 77 rfl
      exact bounded_getBootConfig
    | setBootConfig => exact bounded_setBootConfig
    | getBootVars => exact bounded_getBootVars
    | deactivateFlashMode =>
      obtain rfl := hfixed 12 rfl
      exact iff_of_true bounded_deactivateFlash trivial
    | resetDevice =>
      obtain rfl := hfixed 14 rfl
      exact bounded_resetDevice
    | dualImageSup => exact iff_of_false not_bounded_dualImgSup id
    | getRecoverySPIDetails =>
      obtain rfl := hfixed 12 rfl
      refine iff_of_true (bounded_yafuAnswer.2 ⟨by decide, ?_⟩) trivial
      simp [maxIpmiMsgLen]

end Commands

/-! ## Packets -/

section Packets

variable {c : YafuConfig} {x : YafuInputs} {s : YafuState} {b : KCSBuffers} {packet : List UInt8}

/-- The request of a packet, in the buffer of the requests. -/
def packetRequest (b : KCSBuffers) (packet : List UInt8) : ℕ → UInt8 := store b.reqData 0 (packet.drop 2)

/-- The command that a packet asks for passes its tests, when the request has its length. -/
def PacketSafe (c : YafuConfig) (x : YafuInputs) (s : YafuState) (b : KCSBuffers) (packet : List UInt8) : Prop :=
  ∀ command, IPMICommand.find (packet.getD 0 0 >>> 2) (packet.getD 1 0) = some command →
    command.len.all (· = packet.length - 2) = true →
      HandlerSafe c x s (packetRequest b packet) (packet.length - 2) command

/-- The length of a request, of a packet with a header. -/
theorem requestLength_eq (h2 : 2 ≤ packet.length) (hlt : packet.length < 2 ^ 32) :
    requestLength packet = packet.length - 2 := by
  rw [requestLength, sizeT]
  omega

theorem copied_iff (hlt : packet.length < 2 ^ 32) (hpos : 0 < packet.length) :
    2 + requestLength packet ≤ packet.length ↔ 2 ≤ packet.length := by
  rw [requestLength, sizeT]
  omega

/-- What is done with a packet that has a header. -/
theorem processKCSRequest_eq (h2 : 2 ≤ packet.length) (hlt : packet.length < 2 ^ 32) :
    processKCSRequest c x s b packet = processIPMICmd c x s (packet.getD 0 0) (packet.getD 1 0) (packetRequest b packet)
      (packet.length - 2) b.resData := by
  have hbyte : ∀ i < packet.length, store b.kcsCmd 0 packet i = packet.getD i 0 := by
    intro i hi
    rw [store_zero_apply, List.getD_eq_getElem?_getD, List.getElem?_eq_getElem hi, Option.getD_some, Option.getD_some]
  have hcopied : slice (store b.kcsCmd 0 packet) 2 (packet.length - 2) = packet.drop 2 := by
    rw [slice_store_inner _ (by omega), ← List.length_drop, List.take_length]
  rw [processKCSRequest, requestLength_eq h2 hlt, hcopied, hbyte 0 (by omega), hbyte 1 (by omega)]
  rfl

/-- **Packets.** A packet whose length is an `int` is copied and handled within the bounds, and answered with the bytes that have
been written, exactly when it has a header, its request fits into the buffer and its command passes the tests. -/
theorem packetBounded_iff (c : YafuConfig) (x : YafuInputs) (s : YafuState) (b : KCSBuffers) {packet : List UInt8}
    (hpos : 1 ≤ packet.length) (hint : packet.length < 2 ^ 31) :
    PacketBounded c x s b packet ↔
      2 ≤ packet.length ∧ packet.length ≤ 2 + maxIpmiMsgLen ∧ PacketSafe c x s b packet := by
  have hlt : packet.length < 2 ^ 32 := hint.trans (by decide)
  have hhandled : 2 ≤ packet.length →
      (Bounded c (requestLength packet) (processKCSRequest c x s b packet) ↔ PacketSafe c x s b packet) := by
    intro h2
    rw [processKCSRequest_eq h2 hlt, requestLength_eq h2 hlt, processIPMICmd, PacketSafe]
    cases hfind : IPMICommand.find (packet.getD 0 0 >>> 2) (packet.getD 1 0) with
    | none => exact iff_of_true (bounded_codeOnly _) fun command h => absurd h.symm (Option.some_ne_none _)
    | some command =>
      simp only [processCommand, Option.some.injEq, forall_eq']
      by_cases hmatch : command.len.all (· = packet.length - 2) = true
      · rw [if_pos hmatch, bounded_handle command hmatch (by omega)]
        exact ⟨fun h _ => h, fun h => h hmatch⟩
      · rw [if_neg hmatch]
        exact iff_of_true (bounded_codeOnly _) fun h => absurd h hmatch
  constructor
  · intro hb
    have h2 := (copied_iff hlt hpos).1 hb.copied
    have hstored := hb.stored
    rw [requestLength_eq h2 hlt] at hstored
    exact ⟨h2, by omega, (hhandled h2).1 hb.handled⟩
  · rintro ⟨h2, hfits, hsafe⟩
    refine ⟨(copied_iff hlt hpos).2 h2, ?_, (hhandled h2).2 hsafe⟩
    rw [requestLength_eq h2 hlt]
    omega

end Packets

/-! ## Two packets -/

/-- Buffers of zeros. -/
def zeroBuffers : KCSBuffers := ⟨fun _ => 0, fun _ => 0, fun _ => 0⟩

/-- A request of the details of the recovery. -/
def recoveryPacket : List UInt8 := [0xC8, 0x6E, 1, 0, 0, 0, 0x6E, 0, 0, 0, 0, 0, 0, 0]

theorem packetBounded_recovery :
    PacketBounded twoImages.yafu goodInputs activatedState.yafu zeroBuffers recoveryPacket := by
  refine (packetBounded_iff _ _ _ _ (by decide) (by decide)).2 ⟨by decide, by decide, fun command hfind _ => ?_⟩
  have hcommand : IPMICommand.find (recoveryPacket.getD 0 0 >>> 2) (recoveryPacket.getD 1 0) =
      some (.yafu .getRecoverySPIDetails) := by decide
  obtain rfl := Option.some.inj (hcommand.symm.trans hfind)
  trivial

/-- A request to write nothing, not even the offset. -/
def emptyWritePacket : List UInt8 := [0xC8, 0x31, 1, 0, 0, 0, 0x31, 0, 0, 0, 0, 0, 0, 0]

/-- **The length of the data less five is the size of a copy.** -/
theorem not_packetBounded_emptyWrite :
    ¬ PacketBounded twoImages.yafu goodInputs activatedState.yafu zeroBuffers emptyWritePacket := fun h =>
  absurd (h.handled.accesses (.request 17 (2 ^ 32 - 5)) (by decide +kernel)) (show ¬ (_ = 0 ∨ _ ≤ 12) by decide)

end BmcBoot
