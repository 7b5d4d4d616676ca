import Bmc.Usb.Bot

/-!
# One status for a command

The host waits for exactly one status wrapper for each command, with the tag of the command and the
number of bytes that were not transferred.

* `statuses`, `sentBytes`, `Handed`: what the calls of a command amount to; `transferred`: the bytes
  sent to the host, or accepted from it;
* `OneStatus`: what is asked for; `Settles`: the condition on the wrapper, the data that arrived and
  the answer to the first call;
* `Sends`, `Replied`: the calls of the functions that a command is made of;
* **`oneStatus_iff`**: a command gets its status if and only if it settles.
-/

namespace BmcUsb

open BmcLib

/-! ## What is asked for -/

/-- The status wrapper that a call sends. It is the only write that asks for a trailing empty packet. -/
def BotCall.status : BotCall → Option (List UInt8)
  | .write _ data true => some data
  | _ => none

/-- The bytes of data that a call sends; a write that fails sends none. -/
def sentBy (c : BotCall × ℤ) : ℕ :=
  match c.1 with
  | .write _ data false => if c.2 = 0 then data.length else 0
  | _ => 0

/-- The status wrappers among some calls. -/
def statuses (t : List (BotCall × ℤ)) : List (List UInt8) := t.filterMap fun c => c.1.status

/-- The bytes of data that some calls send. -/
def sentBytes (t : List (BotCall × ℤ)) : ℕ := (t.map sentBy).sum

/-- The command was handed to the remote side. -/
def Handed (t : List (BotCall × ℤ)) : Prop := ∃ lun, (.remoteScsi lun, 0) ∈ t

/-- The bytes of the command's data that arrived from the host. -/
def BotIf.accepted (m : BotIf) : ℕ := min m.scsiDataLen.toNat m.wrapper.dCBWDataTransferLength.toNat

/-- The bytes that were transferred: those sent, or for a command in the other direction those
accepted. -/
def transferred (m : BotIf) (t : List (BotCall × ℤ)) : ℕ :=
  if m.wrapper.bmCBWFlags &&& 0x80 ≠ 0 then sentBytes t else m.accepted

/-- **One status**: one status wrapper, with the tag of the command and the number of bytes that were
not transferred; or the command was handed on and is answered later. -/
def OneStatus (m : BotIf) (t : List (BotCall × ℤ)) : Prop :=
  (∃ status, statuses t = [cswBytes m.wrapper.dCBWTag
    (UInt32.ofNat (m.wrapper.dCBWDataTransferLength.toNat - transferred m t)) status]) ∨
  statuses t = [] ∧ Handed t

/-- The calls of a command. -/
def commandCalls (m : BotIf) : List (BotCall × ℤ) := m.usb.transcript (botProcessHandler m).usb

/-- The size of the reply that is made here. -/
def replySize (opCode : UInt8) : Option UInt32 :=
  if opCode = scsiInquiry then some inquirySize
  else if opCode = scsiRequestSense then some senseSize
  else if opCode = scsiGetNotificationStatus then some eventStatusSize
  else none

/-- The command is one that is answered here without data. -/
def AnsweredHere (cbw : CommandBlockWrapper) : Prop :=
  cbw.opCode = scsiMediumRemoval ∨ cbw.opCode = scsiSeek ∨ cbw.opCode = scsiSyncCache ∨
    cbw.opCode = scsiSetCdSpeed ∨ cbw.opCode = scsiTestUnitReady ∧ cbw.dCBWDataTransferLength ≠ 0

instance (cbw : CommandBlockWrapper) : Decidable (AnsweredHere cbw) := by
  unfold AnsweredHere
  infer_instance

/-- **The command settles.** READ FORMAT CAPACITIES never does. A command with data to the host always
does. With data from the host, the residue is right only if it happens to count what was accepted. -/
def Settles (m : BotIf) : Prop :=
  m.wrapper.opCode ≠ scsiReadFormatCapacities ∧
    (m.wrapper.bmCBWFlags &&& 0x80 = 0 →
      match replySize m.wrapper.opCode with
      | some size =>
        if m.wrapper.bmCBWFlags = 0 then m.accepted = m.wrapper.dCBWDataTransferLength.toNat
        else if m.usb.answer = 0 then
          m.accepted = min m.wrapper.dCBWDataTransferLength.toNat size.toNat
        else m.accepted = 0
      | none => m.accepted = 0 ∨ ¬ AnsweredHere m.wrapper ∧ m.usb.answer = 0)

instance (m : BotIf) : Decidable (Settles m) := by
  unfold Settles
  split <;> infer_instance

/-! ## The calls of a command -/

/-- The calls between two states: the status wrappers and the number of bytes sent. -/
structure Sends (ss : List (List UInt8)) (n : ℕ) (m m' : BotIf) : Prop where
  ext : m.usb.Extends m'.usb
  csws : statuses (m.usb.transcript m'.usb) = ss
  sent : sentBytes (m.usb.transcript m'.usb) = n
  notHanded : ¬ Handed (m.usb.transcript m'.usb)

section Calls

variable {m m' m'' : BotIf} {ss ss' : List (List UInt8)} {n n' : ℕ} {t t' : List (BotCall × ℤ)}

theorem statuses_append : statuses (t ++ t') = statuses t ++ statuses t' := List.filterMap_append

theorem sentBytes_append : sentBytes (t ++ t') = sentBytes t + sentBytes t' := by
  simp [sentBytes]

theorem handed_append : Handed (t ++ t') ↔ Handed t ∨ Handed t' := by
  simp only [Handed, List.mem_append, exists_or]

theorem Sends.refl (m : BotIf) : Sends [] 0 m m := by
  refine ⟨.refl _, ?_, ?_, ?_⟩ <;> simp [statuses, sentBytes, Handed]

theorem Sends.trans (h : Sends ss n m m') (h' : Sends ss' n' m' m'') :
    Sends (ss ++ ss') (n + n') m m'' := by
  have ht := h.ext.transcript_trans h'.ext
  refine ⟨h.ext.trans h'.ext, ?_, ?_, ?_⟩
  · rw [ht, statuses_append, h.csws, h'.csws]
  · rw [ht, sentBytes_append, h.sent, h'.sent]
  · rw [ht, handed_append]
    exact not_or.mpr ⟨h.notHanded, h'.notHanded⟩

/-- A step that makes no call. -/
theorem Sends.of_eq (h : m'.usb = m.usb) : Sends [] 0 m m' := by
  have hr := Sends.refl m
  refine ⟨h ▸ hr.ext, ?_, ?_, ?_⟩ <;> rw [h]
  · exact hr.csws
  · exact hr.sent
  · exact hr.notHanded

/-- One call that does not hand the command on. -/
theorem Sends.call (m : BotIf) (c : BotCall) (hc : ∀ lun, (c, m.usb.answer) ≠ (.remoteScsi lun, 0)) :
    Sends c.status.toList (sentBy (c, m.usb.answer)) m (m.call c) := by
  have ht : m.usb.transcript (m.call c).usb = [(c, m.usb.answer)] := m.usb.transcript_call c
  refine ⟨m.usb.extends_call c, ?_, ?_, ?_⟩ <;> rw [ht]
  · rw [statuses, List.filterMap_cons]
    cases c.status <;> rfl
  · simp [sentBytes]
  · rintro ⟨lun, hmem⟩
    exact hc lun (List.mem_singleton.mp hmem).symm

theorem Sends.stall (m : BotIf) (ep : UInt8) : Sends [] 0 m (m.call (.stall ep)) :=
  .call m (.stall ep) (by simp)

theorem Sends.sleep (m : BotIf) : Sends [] 0 m (m.call .sleep) := .call m .sleep (by simp)

theorem Sends.status (m : BotIf) (ep : UInt8) (data : List UInt8) :
    Sends [data] 0 m (m.call (.write ep data true)) :=
  .call m (.write ep data true) (by simp)

theorem botSendCSW_sends {tag remain : UInt32} {status : UInt8} :
    Sends [cswBytes tag remain status] 0 m (botSendCSW m tag status remain) := by
  have hhalt : Sends [] 0 m { m with unHalted := 0 } := .of_eq rfl
  have hsleep := (hhalt.trans (.stall _ m.dataInEp)).trans (.sleep _)
  unfold botSendCSW
  simp only
  split_ifs
  · refine (hsleep.trans (Sends.of_eq ?_)).trans (.status _ m.dataInEp _)
    rfl
  · exact hsleep.trans (.status _ m.dataInEp _)
  · exact .status m m.dataInEp _

end Calls

/-! ## The replies -/

/-- The outcome of a reply of at most `n` bytes. -/
structure Replied (n remain : UInt32) (m : BotIf) (s : Bool × UInt32 × BotIf) : Prop where
  sends : Sends [] (if m.usb.answer = 0 then n.toNat else 0) m s.2.2
  remain : s.2.1 = if m.usb.answer = 0 then remain - n else remain

section Replies

variable {m m' : BotIf} {remain : UInt32} {lun : UInt8}

theorem sendSize_toNat (size remain : UInt32) :
    (sendSize size remain).toNat = min remain.toNat size.toNat := by
  unfold sendSize
  split_ifs with h
  · rw [gt_iff_lt, UInt32.lt_iff_toNat_lt] at h
    omega
  · rw [gt_iff_lt, UInt32.lt_iff_toNat_lt] at h
    omega

theorem botSend_replied {packet : ℕ → UInt8} {n : UInt32} (hn : n ≤ remain) :
    Replied n remain m (botSend m packet n remain) := by
  have hcall := Sends.call m (.write m.dataInEp (slice packet 0 n.toNat) false) (by simp)
  have hsent : sentBy (.write m.dataInEp (slice packet 0 n.toNat) false, m.usb.answer) =
      if m.usb.answer = 0 then n.toNat else 0 := by
    simp [sentBy, length_slice]
  rw [hsent] at hcall
  unfold botSend
  simp only
  by_cases h : m.usb.answer = 0
  · rw [if_neg (not_not.mpr h)]
    refine ⟨hcall, ?_⟩
    rw [if_pos h]
    split_ifs with hlt
    · rfl
    · rw [show n = remain from UInt32.le_antisymm hn (UInt32.not_lt.mp hlt), UInt32.sub_self]
  · rw [if_pos h]
    exact ⟨hcall, (if_neg h).symm⟩

/-- A step without calls before the transmission, and one behind it when it succeeded. -/
theorem Replied.wrap {n : UInt32} {s : Bool × UInt32 × BotIf} (h : Replied n remain m' s)
    (hm : m'.usb = m.usb) (f : BotIf → BotIf) (hf : ∀ m, (f m).usb = m.usb) :
    Replied n remain m (if s.1 then s else (false, s.2.1, f s.2.2)) := by
  have hsends : Sends [] (if m.usb.answer = 0 then n.toNat else 0) m s.2.2 := by
    have h' := (Sends.of_eq hm).trans h.sends
    rwa [List.append_nil, Nat.zero_add, hm] at h'
  have hremain := h.remain
  rw [hm] at hremain
  split_ifs
  · exact ⟨hsends, hremain⟩
  · refine ⟨?_, hremain⟩
    have h' := hsends.trans (.of_eq (hf s.2.2))
    rwa [List.append_nil, Nat.add_zero] at h'

theorem sendSize_le (size remain : UInt32) : sendSize size remain ≤ remain := by
  rw [UInt32.le_iff_toNat_le, sendSize_toNat]
  exact Nat.min_le_left _ _

theorem botInquiry_replied :
    Replied (sendSize inquirySize remain) remain m (botInquiry m remain lun) := by
  refine (botSend_replied (sendSize_le _ _)).wrap ?_ (·.setScsiErrorCode 0 0 0) fun _ => rfl
  rfl

theorem botSense_replied : Replied (sendSize senseSize remain) remain m (botSense m remain) :=
  (botSend_replied (sendSize_le _ _)).wrap rfl (·.setScsiErrorCode 0 0 0) fun _ => rfl

theorem botGetEventStatusNotification_replied :
    Replied (sendSize eventStatusSize remain) remain m
      (botGetEventStatusNotification m remain lun) := by
  refine (botSend_replied (sendSize_le _ _)).wrap ?_ (·.setEventStatus lun
    ((m.eventStatus lun).fill (sendSize eventStatusSize remain)).next) fun _ => rfl
  rfl

end Replies

/-! ## The status of a command -/

section Status

variable {m m' : BotIf}

/-- A status wrapper determines its residue. -/
theorem cswBytes_inj {tag remain remain' : UInt32} {status status' : UInt8}
    (h : cswBytes tag remain status = cswBytes tag remain' status') : remain = remain' := by
  unfold cswBytes at h
  have h' := List.append_inj_left h (by simp)
  have hremain := leBytes_inj remain.toNat_lt remain'.toNat_lt (List.append_cancel_left h')
  exact UInt32.toNat_inj.mp hremain

theorem accepted_le (m : BotIf) : m.accepted ≤ m.wrapper.dCBWDataTransferLength.toNat :=
  Nat.min_le_right _ _

/-- A command with one status wrapper has one status if and only if its residue is right. -/
theorem Sends.oneStatus_iff_residue {remain : UInt32} {status : UInt8} {n : ℕ}
    (h : Sends [cswBytes m.wrapper.dCBWTag remain status] n m m') :
    OneStatus m (m.usb.transcript m'.usb) ↔
      remain.toNat = m.wrapper.dCBWDataTransferLength.toNat -
        if m.wrapper.bmCBWFlags &&& 0x80 ≠ 0 then n else m.accepted := by
  have hlen := m.wrapper.dCBWDataTransferLength.toNat_lt
  have hnot : ¬ (statuses (m.usb.transcript m'.usb) = [] ∧ Handed (m.usb.transcript m'.usb)) := by
    rw [h.csws]
    rintro ⟨hnil, -⟩
    exact List.cons_ne_nil _ _ hnil
  unfold OneStatus transferred
  rw [or_iff_left hnot, h.csws, h.sent]
  constructor
  · rintro ⟨status', heq⟩
    rw [cswBytes_inj (List.cons.inj heq).1, UInt32.toNat_ofNat_of_lt']
    exact lt_of_le_of_lt (Nat.sub_le _ _) hlen
  · intro heq
    refine ⟨status, ?_⟩
    rw [← heq, UInt32.ofNat_toNat]

/-- The status of a command whose reply is made here. -/
theorem botReply_oneStatus_iff {send : BotIf → UInt32 → UInt8 → Bool × UInt32 × BotIf}
    {size : UInt32}
    (h : Replied (sendSize size m.wrapper.dCBWDataTransferLength) m.wrapper.dCBWDataTransferLength m
      (send m m.wrapper.dCBWDataTransferLength m.wrapper.bCBWLUN)) :
    OneStatus m (m.usb.transcript (botReply m send).usb) ↔
      (m.wrapper.bmCBWFlags &&& 0x80 = 0 →
        if m.wrapper.bmCBWFlags = 0 then m.accepted = m.wrapper.dCBWDataTransferLength.toNat
        else if m.usb.answer = 0 then
          m.accepted = min m.wrapper.dCBWDataTransferLength.toNat size.toNat
        else m.accepted = 0) := by
  have hacc := accepted_le m
  unfold botReply
  simp only
  by_cases hf : m.wrapper.bmCBWFlags = 0
  · have hout : m.wrapper.bmCBWFlags &&& 0x80 = 0 := by
      rw [hf]
      decide
    rw [if_pos hf, botSendCSW_sends.oneStatus_iff_residue, if_neg (not_not.mpr hout), if_pos hf]
    simp only [hout, true_imp_iff, UInt32.toNat_zero]
    omega
  rw [if_neg hf, if_neg hf]
  have hn := sendSize_toNat size m.wrapper.dCBWDataTransferLength
  have hsub := UInt32.toNat_sub_of_le _ _ (sendSize_le size m.wrapper.dCBWDataTransferLength)
  rw [(h.sends.trans botSendCSW_sends).oneStatus_iff_residue, h.remain]
  by_cases ha : m.usb.answer = 0
  · rw [if_pos ha, if_pos ha, if_pos ha, hsub, hn]
    split_ifs with hin
    · simp only [hin, false_imp_iff, Nat.add_zero]
    · rw [not_not] at hin
      simp only [hin, true_imp_iff]
      omega
  · rw [if_neg ha, if_neg ha, if_neg ha]
    split_ifs with hin
    · simp only [hin, false_imp_iff, Nat.add_zero, Nat.sub_zero]
    · rw [not_not] at hin
      simp only [hin, true_imp_iff]
      omega

/-- The status of a command that gets one without data. -/
theorem Sends.oneStatus_iff_without_data {status : UInt8}
    (h : Sends [cswBytes m.wrapper.dCBWTag m.wrapper.dCBWDataTransferLength status] 0 m m') :
    OneStatus m (m.usb.transcript m'.usb) ↔ (m.wrapper.bmCBWFlags &&& 0x80 = 0 → m.accepted = 0) := by
  have hacc := accepted_le m
  rw [h.oneStatus_iff_residue]
  split_ifs with hin
  · simp only [hin, false_imp_iff, Nat.sub_zero]
  · rw [not_not] at hin
    simp only [hin, true_imp_iff]
    omega

/-- The command is handed on, and its status comes with the answer. -/
theorem oneStatus_of_handed {lun : UInt8} (h : m.usb.answer = 0) :
    OneStatus m (m.usb.transcript (m.call (.remoteScsi lun)).usb) := by
  have ht : m.usb.transcript (m.call (.remoteScsi lun)).usb = [(.remoteScsi lun, 0)] := by
    rw [← h]
    exact m.usb.transcript_call _
  refine .inr ⟨?_, lun, ?_⟩
  · rw [ht]
    rfl
  · rw [ht]
    exact List.mem_singleton_self _

/-- Without a call there is no status. -/
theorem not_oneStatus_of_usb_eq (h : m'.usb = m.usb) :
    ¬ OneStatus m (m.usb.transcript m'.usb) := by
  rw [h, Device.transcript_self]
  rintro (⟨_, hnil⟩ | ⟨-, _, hmem⟩)
  · exact List.cons_ne_nil _ _ hnil.symm
  · exact List.not_mem_nil hmem

theorem settles_iff_of_reply {size : UInt32} (h : replySize m.wrapper.opCode = some size)
    (hf : m.wrapper.opCode ≠ scsiReadFormatCapacities) :
    Settles m ↔ (m.wrapper.bmCBWFlags &&& 0x80 = 0 →
      if m.wrapper.bmCBWFlags = 0 then m.accepted = m.wrapper.dCBWDataTransferLength.toNat
      else if m.usb.answer = 0 then
        m.accepted = min m.wrapper.dCBWDataTransferLength.toNat size.toNat
      else m.accepted = 0) := by
  unfold Settles
  rw [h]
  exact and_iff_right hf

theorem settles_iff_of_no_reply (h : replySize m.wrapper.opCode = none)
    (hf : m.wrapper.opCode ≠ scsiReadFormatCapacities) :
    Settles m ↔ (m.wrapper.bmCBWFlags &&& 0x80 = 0 →
      m.accepted = 0 ∨ ¬ AnsweredHere m.wrapper ∧ m.usb.answer = 0) := by
  unfold Settles
  rw [h]
  exact and_iff_right hf

/-- **A command gets its status if and only if it settles.** -/
theorem oneStatus_iff (m : BotIf) : OneStatus m (commandCalls m) ↔ Settles m := by
  unfold commandCalls botProcessHandler
  simp only
  by_cases h1 : m.wrapper.opCode = scsiInquiry
  · rw [if_pos h1, botReply_oneStatus_iff botInquiry_replied,
      settles_iff_of_reply (by rw [h1]; rfl) (by rw [h1]; decide)]
  by_cases h2 : m.wrapper.opCode = scsiRequestSense
  · rw [if_neg h1, if_pos h2, botReply_oneStatus_iff botSense_replied,
      settles_iff_of_reply (by rw [h2]; rfl) (by rw [h2]; decide)]
  by_cases h3 : m.wrapper.opCode = scsiGetNotificationStatus
  · rw [if_neg h1, if_neg h2, if_pos h3, botReply_oneStatus_iff botGetEventStatusNotification_replied,
      settles_iff_of_reply (by rw [h3]; rfl) (by rw [h3]; decide)]
  have hnone : replySize m.wrapper.opCode = none := by
    rw [replySize, if_neg h1, if_neg h2, if_neg h3]
  rw [if_neg h1, if_neg h2, if_neg h3]
  by_cases hf : m.wrapper.opCode = scsiReadFormatCapacities
  · -- the branch reads the inquiry packet and returns
    rw [if_neg (by rw [hf]; decide), if_pos hf]
    exact iff_of_false (not_oneStatus_of_usb_eq rfl) fun h => h.1 hf
  rw [settles_iff_of_no_reply hnone hf]
  rw [if_neg hf]
  by_cases h4 : m.wrapper.opCode = scsiMediumRemoval ∨ m.wrapper.opCode = scsiSeek ∨
      m.wrapper.opCode = scsiSyncCache ∨ m.wrapper.opCode = scsiSetCdSpeed
  · have hhere : AnsweredHere m.wrapper := by
      unfold AnsweredHere
      tauto
    rw [if_pos h4, botSendCSW_sends.oneStatus_iff_without_data]
    simp only [hhere, not_true_eq_false, false_and, or_false]
  rw [if_neg h4]
  by_cases h5 : m.wrapper.opCode = scsiTestUnitReady ∧ m.wrapper.dCBWDataTransferLength ≠ 0
  · have hhere : AnsweredHere m.wrapper := .inr (.inr (.inr (.inr h5)))
    rw [if_pos h5, botSendCSW_sends.oneStatus_iff_without_data]
    simp only [hhere, not_true_eq_false, false_and, or_false]
  rw [if_neg h5]
  have hnot : ¬ AnsweredHere m.wrapper := by
    unfold AnsweredHere
    tauto
  by_cases ha : m.usb.answer = 0
  · rw [if_neg (not_not.mpr ha)]
    exact iff_of_true (oneStatus_of_handed ha) fun _ => .inr ⟨hnot, ha⟩
  · -- the remote side refused the command, and it fails here
    have hcall : Sends [] 0 m (m.call (.remoteScsi m.wrapper.bCBWLUN)) := by
      refine .call m (.remoteScsi m.wrapper.bCBWLUN) fun lun heq => ?_
      exact ha (congrArg Prod.snd heq)
    have hm : m.wrapper.opCode ≠ scsiMediumRemoval := fun h => h4 (.inl h)
    rw [if_pos ha, if_neg hm, (hcall.trans botSendCSW_sends).oneStatus_iff_without_data]
    simp only [ha, and_false, or_false]

/-- **READ FORMAT CAPACITIES gets no status.** -/
theorem not_oneStatus_read_format_capacities :
    ¬ OneStatus ((botRxHandler massIf (cbwPacket 7 252 0x80 0 scsiReadFormatCapacities)))
      (commandCalls (botRxHandler massIf (cbwPacket 7 252 0x80 0 scsiReadFormatCapacities))) :=
  not_oneStatus_of_usb_eq rfl

end Status

end BmcUsb
