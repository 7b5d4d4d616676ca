import Bmc.Lib.Device
import Bmc.Lib.Endian

/-!
# The mass-storage interface

The bulk-only transport of `bot.c`: a command block wrapper arrives on the OUT endpoint, the data of
the command behind it, and the command is run later, from a deferred context.

* `BotIf`: the data of the interface, and the calls that leave the module;
* `botReadCBW`, `botRxHandler`: a packet on the OUT endpoint;
* `botInquiry`, `botSense`, `botGetEventStatusNotification`, `botSendCSW`: what is sent to the host;
* `botProcessHandler`: a command is run; `BotEvent`, `botStep`: the events of the interface.
-/

namespace BmcUsb

open BmcLib

/-! ## Constants -/

/-- `MAX_CBW_LENGTH`. -/
abbrev maxCbwLength : ℕ := 31

/-- `CBW_SIGNATURE`. -/
abbrev cbwSignature : UInt32 := 0x43425355

/-- `CSW_SIGNATURE`. -/
abbrev cswSignature : UInt32 := 0x53425355

/-- `CSW_PASSED`. -/
abbrev cswPassed : UInt8 := 0x00

/-- `CSW_FAILED`. -/
abbrev cswFailed : UInt8 := 0x01

/-- `MAX_SCSI_DATA`. -/
abbrev maxScsiData : ℕ := 64 * 2048

/-- `MAX_NOMEDIUM_RETRIES`. -/
abbrev maxNoMediumRetries : UInt8 := 10

/-- `IUSB_DEVICE_CDROM`. -/
abbrev iusbDeviceCdrom : UInt8 := 5

/-- `sizeof(SCSI_INQUIRY_PACKET)`. -/
abbrev inquirySize : UInt32 := 255

/-- `sizeof(SCSI_REQUEST_SENSE_PACKET)`. -/
abbrev senseSize : UInt32 := 64

/-- `sizeof(SCSI_GET_EVENT_STATUS_NOTIFICATION_PACKET)`. -/
abbrev eventStatusSize : UInt32 := 8

abbrev scsiTestUnitReady : UInt8 := 0x00
abbrev scsiRequestSense : UInt8 := 0x03
abbrev scsiInquiry : UInt8 := 0x12
abbrev scsiMediumRemoval : UInt8 := 0x1E
abbrev scsiReadFormatCapacities : UInt8 := 0x23
abbrev scsiWrite10 : UInt8 := 0x2A
abbrev scsiSeek : UInt8 := 0x2B
abbrev scsiSyncCache : UInt8 := 0x35
abbrev scsiGetNotificationStatus : UInt8 := 0x4A
abbrev scsiWrite12 : UInt8 := 0xAA
abbrev scsiSetCdSpeed : UInt8 := 0xBB

/-! ## Wrappers -/

/-- The 32-bit word at an offset. -/
def le32 (m : ℕ → UInt8) (o : ℕ) : UInt32 := UInt32.ofNat (leNat (slice m o 4))

/-- The fields of `COMMAND_BLOCK_WRAPPER`, read from the interface memory. -/
structure CommandBlockWrapper where
  dCBWSignature : UInt32
  dCBWTag : UInt32
  dCBWDataTransferLength : UInt32
  bmCBWFlags : UInt8
  bCBWLUN : UInt8
  bCBWCBLength : UInt8
  opCode : UInt8

/-- The wrapper that a block of memory holds. -/
def CommandBlockWrapper.ofMem (m : ℕ → UInt8) : CommandBlockWrapper where
  dCBWSignature := le32 m 0
  dCBWTag := le32 m 4
  dCBWDataTransferLength := le32 m 8
  bmCBWFlags := m 12
  bCBWLUN := m 13
  bCBWCBLength := m 14
  opCode := m 15

/-- The bytes of a `COMMAND_STATUS_WRAPPER`. -/
def cswBytes (tag remain : UInt32) (status : UInt8) : List UInt8 :=
  leBytes 4 cswSignature.toNat ++ leBytes 4 tag.toNat ++ leBytes 4 remain.toNat ++ [status]

/-! ## The interface -/

/-- A call that leaves the module, and answers with a number. -/
inductive BotCall where
  | write (ep : UInt8) (data : List UInt8) (zero : Bool)
  | stall (ep : UInt8)
  | sleep
  | remoteScsi (lun : UInt8)
  | video (started : Bool)
  | wakeupDPC
  deriving DecidableEq, Repr

/-- An access to the memory of the interface. -/
inductive BotAccess where
  | scsiData (pos n : ℕ)
  | inquiry (lun : UInt8)
  | eventStatus (lun : UInt8)
  deriving DecidableEq, Repr

/-- `SCSI_GET_EVENT_STATUS_NOTIFICATION_PACKET`. -/
structure EventStatus where
  eventLength : UInt16
  notificationClass : UInt8
  supportEventClass : UInt8
  eventCode : UInt8
  mediaStatus : UInt8
  startSlot : UInt8
  endSlot : UInt8

/-- The bytes of the packet. -/
def EventStatus.bytes (e : EventStatus) : ℕ → UInt8 :=
  block 0 (leBytes 2 e.eventLength.toNat ++ [e.notificationClass, e.supportEventClass, e.eventCode,
    e.mediaStatus, e.startSlot, e.endSlot])

/-- `BOT_IF_DATA`, with the flag and the endpoint of the interface. The tables `inquiry` and
`eventStatus` have `tableSize` entries, which the device module allocates; `usb` are the calls that
leave the module, and `accesses` a record. -/
structure BotIf where
  cbw : ℕ → UInt8
  scsiData : ℕ → UInt8
  scsiDataLen : UInt32
  scsiDataOutLen : UInt32
  unHalted : UInt8
  senseKey : UInt8
  senseCode : UInt8
  senseCodeQ : UInt8
  noMediumRetries : UInt8
  lastSeqNo : UInt32
  inquiry : UInt8 → ℕ → UInt8
  eventStatus : UInt8 → EventStatus
  tableSize : ℕ
  dataInEp : UInt8
  wakeupFlag : Bool
  videoCallback : Bool
  usb : Device BotCall ℤ
  accesses : List BotAccess

/-- Make a call. -/
def BotIf.call (m : BotIf) (c : BotCall) : BotIf := { m with usb := m.usb.call c }

/-- Record an access. -/
def BotIf.access (m : BotIf) (a : BotAccess) : BotIf := { m with accesses := m.accesses ++ [a] }

/-- Replace an inquiry packet. -/
def BotIf.setInquiry (m : BotIf) (lun : UInt8) (packet : ℕ → UInt8) : BotIf :=
  { m with inquiry := Function.update m.inquiry lun packet }

/-- Replace an event packet. -/
def BotIf.setEventStatus (m : BotIf) (lun : UInt8) (e : EventStatus) : BotIf :=
  { m with eventStatus := Function.update m.eventStatus lun e }

/-- The wrapper in the interface memory. -/
def BotIf.wrapper (m : BotIf) : CommandBlockWrapper := .ofMem m.cbw

/-- `g_video_callback.CallBackHandler`, if it is set. -/
def BotIf.video (m : BotIf) (started : Bool) : BotIf :=
  if m.videoCallback then m.call (.video started) else m

/-! ## Packets from the host -/

/-- `BotReadCBW`; the result is `true` for an error. -/
def botReadCBW (m : BotIf) (packet : List UInt8) : Bool × BotIf :=
  if packet.length > maxCbwLength then (true, m)
  else if packet.length ≤ 0 then (true, m)
  else
    let m := { m with cbw := store m.cbw 0 packet }
    if m.wrapper.dCBWSignature ≠ cbwSignature then (true, m)
    else if packet.length < 15 + m.wrapper.bCBWCBLength.toNat then (true, m)
    else (false, m)

/-- `BotQueueDPC`. -/
def botQueueDPC (m : BotIf) : BotIf := { m with wakeupFlag := true }.call .wakeupDPC

/-- `BotRxHandler` behind a wrapper that was read without error. -/
def botStart (m : BotIf) : BotIf :=
  let cbw := m.wrapper
  if cbw.bmCBWFlags &&& 0x80 = 0 then
    let m := { m with scsiDataOutLen := cbw.dCBWDataTransferLength }
    if m.scsiDataOutLen ≠ 0 then
      let m := if cbw.opCode = scsiWrite10 ∨ cbw.opCode = scsiWrite12 then m.video true else m
      { m with scsiDataLen := 0 }
    else botQueueDPC m
  else botQueueDPC m

/-- `BotRxHandler` on the data of a command: the copy, and the lengths. -/
def botStoreData (m : BotIf) (packet : List UInt8) : BotIf :=
  let len := UInt32.ofNat packet.length
  { m.access (.scsiData m.scsiDataLen.toNat packet.length) with
    scsiData := store m.scsiData m.scsiDataLen.toNat packet
    scsiDataLen := m.scsiDataLen + len
    scsiDataOutLen := if len ≤ m.scsiDataOutLen then m.scsiDataOutLen - len else 0 }

/-- `BotRxHandler`. -/
def botRxHandler (m : BotIf) (packet : List UInt8) : BotIf :=
  if m.scsiDataOutLen = 0 then
    let s := botReadCBW m packet
    if s.1 then s.2 else botStart s.2
  else if packet.length ≤ 0 then m
  else
    let m := botStoreData m packet
    if m.scsiDataOutLen = 0 then botQueueDPC (m.video false) else m

/-! ## Packets to the host -/

/-- `BotSetScsiErrorCode`. -/
def BotIf.setScsiErrorCode (m : BotIf) (key code codeQ : UInt8) : BotIf :=
  { m with senseKey := key, senseCode := code, senseCodeQ := codeQ }

/-- `BotSendCSW`. -/
def botSendCSW (m : BotIf) (tag : UInt32) (status : UInt8) (remain : UInt32) : BotIf :=
  let m :=
    if remain ≠ 0 then
      let m := { m with unHalted := 0 }.call (.stall m.dataInEp)
      let answer := m.usb.answer
      let m := m.call .sleep
      if answer ≤ 0 then { m with unHalted := 1 } else m
    else m
  m.call (.write m.dataInEp (cswBytes tag remain status) true)

/-- Send the first bytes of a packet, at most `remain`, and lower `remain` to what is left; the result
`true` is an error. `BotInquiry`, `BotSense` and `BotGetEventStatusNotification` all end like this. -/
def botSend (m : BotIf) (packet : ℕ → UInt8) (sendSize remain : UInt32) : Bool × UInt32 × BotIf :=
  let answer := m.usb.answer
  let m := m.call (.write m.dataInEp (slice packet 0 sendSize.toNat) false)
  if answer ≠ 0 then (true, remain, m)
  else (false, if remain > sendSize then remain - sendSize else 0, m)

/-- The number of bytes that are sent of a packet of `size` bytes. -/
def sendSize (size remain : UInt32) : UInt32 := if remain > size then size else remain

/-- `BotInquiry`. -/
def botInquiry (m : BotIf) (remain : UInt32) (lun : UInt8) : Bool × UInt32 × BotIf :=
  let n := sendSize inquirySize remain
  let packet := store (m.inquiry lun) 4 [31]
  let s := botSend ((m.access (.inquiry lun)).setInquiry lun packet) packet n remain
  if s.1 then s else (false, s.2.1, s.2.2.setScsiErrorCode 0 0 0)

/-- The sense packet. -/
def sensePacket (m : BotIf) (n : UInt32) : ℕ → UInt8 :=
  block 0 [0x70, 0, m.senseKey, 0, 0, 0, 0, (n - 8).toUInt8, 0, 0, 0, 0, m.senseCode, m.senseCodeQ]

/-- `BotSense`. -/
def botSense (m : BotIf) (remain : UInt32) : Bool × UInt32 × BotIf :=
  let n := sendSize senseSize remain
  let s := botSend m (sensePacket m n) n remain
  if s.1 then s else (false, s.2.1, s.2.2.setScsiErrorCode 0 0 0)

/-- The event packet when it is sent. -/
def EventStatus.fill (e : EventStatus) (n : UInt32) : EventStatus :=
  { e with
    eventLength := (n - 2).toUInt16, notificationClass := 0x04, supportEventClass := 0xDE,
    startSlot := 0, endSlot := 0 }

/-- The event packet behind a successful transmission. -/
def EventStatus.next (e : EventStatus) : EventStatus :=
  if e.eventCode = 0x03 ∧ e.mediaStatus = 0x00 then { e with eventCode := 0x01, mediaStatus := 0x02 }
  else if e.mediaStatus = 0x02 then { e with eventCode := 0x03, mediaStatus := 0x01 }
  else { e with eventCode := 0x00 }

/-- `BotGetEventStatusNotification`. -/
def botGetEventStatusNotification (m : BotIf) (remain : UInt32) (lun : UInt8) :
    Bool × UInt32 × BotIf :=
  let n := sendSize eventStatusSize remain
  let e := (m.eventStatus lun).fill n
  let s := botSend ((m.access (.eventStatus lun)).setEventStatus lun e) e.bytes n remain
  if s.1 then s else (false, s.2.1, s.2.2.setEventStatus lun e.next)

/-! ## Running a command -/

/-- `IsCDROM`. -/
def isCDROM (m : BotIf) (lun : UInt8) : Bool × BotIf :=
  ((m.inquiry lun 1 ||| m.inquiry lun 0) &&& 0x7F = iusbDeviceCdrom, m.access (.inquiry lun))

/-- The commands whose reply is made here: the reply of a transfer in the direction of the host, and
a status. -/
def botReply (m : BotIf) (send : BotIf → UInt32 → UInt8 → Bool × UInt32 × BotIf) : BotIf :=
  let cbw := m.wrapper
  if cbw.bmCBWFlags = 0 then botSendCSW m cbw.dCBWTag cswPassed 0
  else
    let s := send m cbw.dCBWDataTransferLength cbw.bCBWLUN
    botSendCSW s.2.2 cbw.dCBWTag (if s.1 then cswFailed else cswPassed) s.2.1

/-- `BotProcessHandler`. -/
def botProcessHandler (m : BotIf) : BotIf :=
  let cbw := m.wrapper
  let len := cbw.dCBWDataTransferLength
  if cbw.opCode = scsiInquiry then botReply m botInquiry
  else if cbw.opCode = scsiRequestSense then botReply m fun m remain _ => botSense m remain
  else if cbw.opCode = scsiGetNotificationStatus then botReply m botGetEventStatusNotification
  else if cbw.opCode = scsiMediumRemoval ∨ cbw.opCode = scsiSeek ∨ cbw.opCode = scsiSyncCache ∨
      cbw.opCode = scsiSetCdSpeed then
    botSendCSW m cbw.dCBWTag cswPassed len
  else if cbw.opCode = scsiReadFormatCapacities then (isCDROM m cbw.bCBWLUN).2
  else if cbw.opCode = scsiTestUnitReady ∧ len ≠ 0 then botSendCSW m cbw.dCBWTag cswFailed len
  else
    let answer := m.usb.answer
    let m := m.call (.remoteScsi cbw.bCBWLUN)
    if answer ≠ 0 then
      if cbw.opCode = scsiMediumRemoval then botSendCSW m cbw.dCBWTag cswPassed len
      else botSendCSW m cbw.dCBWTag cswFailed len
    else m

/-- `ProcessInterfaceHandler`, for this interface of a configured device. -/
def processInterfaceHandler (m : BotIf) : BotIf :=
  if m.wakeupFlag then botProcessHandler { m with wakeupFlag := false } else m

/-- `BotRemHandler`, on a disconnect. -/
def botRemHandler (m : BotIf) : BotIf :=
  { m with
    unHalted := 1, senseKey := 0, senseCode := 0, senseCodeQ := 0,
    noMediumRetries := maxNoMediumRetries, scsiDataOutLen := 0, lastSeqNo := 0 }

/-- An event of the interface: a packet on the OUT endpoint, the deferred context, a disconnect. -/
inductive BotEvent where
  | packet (bytes : List UInt8)
  | process
  | disconnect
  deriving DecidableEq, Repr

/-- The interface after an event. -/
def botStep (m : BotIf) : BotEvent → BotIf
  | .packet bytes => botRxHandler m bytes
  | .process => processInterfaceHandler m
  | .disconnect => botRemHandler m

/-! ## What running a command leaves alone -/

/-- **The frame of a command**: the wrapper and its data stay as they are, and the tables are accessed
at `as`. -/
structure BotFrame (as : List BotAccess) (m m' : BotIf) : Prop where
  cbw : m'.cbw = m.cbw
  scsiData : m'.scsiData = m.scsiData
  scsiDataLen : m'.scsiDataLen = m.scsiDataLen
  scsiDataOutLen : m'.scsiDataOutLen = m.scsiDataOutLen
  wakeupFlag : m'.wakeupFlag = m.wakeupFlag
  tableSize : m'.tableSize = m.tableSize
  accesses : m'.accesses = m.accesses ++ as

section Frame

variable {m m' m'' : BotIf} {as bs : List BotAccess} {remain : UInt32} {lun : UInt8}

theorem BotFrame.trans (h : BotFrame as m m') (h' : BotFrame bs m' m'') :
    BotFrame (as ++ bs) m m'' where
  cbw := h'.cbw.trans h.cbw
  scsiData := h'.scsiData.trans h.scsiData
  scsiDataLen := h'.scsiDataLen.trans h.scsiDataLen
  scsiDataOutLen := h'.scsiDataOutLen.trans h.scsiDataOutLen
  wakeupFlag := h'.wakeupFlag.trans h.wakeupFlag
  tableSize := h'.tableSize.trans h.tableSize
  accesses := by rw [h'.accesses, h.accesses, List.append_assoc]

theorem BotFrame.call (m : BotIf) (c : BotCall) : BotFrame [] m (m.call c) :=
  ⟨rfl, rfl, rfl, rfl, rfl, rfl, (List.append_nil _).symm⟩

theorem botSendCSW_frame {tag : UInt32} {status : UInt8} :
    BotFrame [] m (botSendCSW m tag status remain) := by
  unfold botSendCSW
  simp only
  split_ifs
  · exact ⟨rfl, rfl, rfl, rfl, rfl, rfl, (List.append_nil _).symm⟩
  · exact ⟨rfl, rfl, rfl, rfl, rfl, rfl, (List.append_nil _).symm⟩
  · exact .call m _

theorem botSend_frame {packet : ℕ → UInt8} {n : UInt32} :
    BotFrame [] m (botSend m packet n remain).2.2 := by
  unfold botSend
  simp only
  split <;> exact .call m _

theorem setScsiErrorCode_frame {key code codeQ : UInt8} :
    BotFrame [] m (m.setScsiErrorCode key code codeQ) :=
  ⟨rfl, rfl, rfl, rfl, rfl, rfl, (List.append_nil _).symm⟩

theorem setInquiry_frame {packet : ℕ → UInt8} : BotFrame [] m (m.setInquiry lun packet) :=
  ⟨rfl, rfl, rfl, rfl, rfl, rfl, (List.append_nil _).symm⟩

theorem setEventStatus_frame {e : EventStatus} : BotFrame [] m (m.setEventStatus lun e) :=
  ⟨rfl, rfl, rfl, rfl, rfl, rfl, (List.append_nil _).symm⟩

theorem access_frame {a : BotAccess} : BotFrame [a] m (m.access a) :=
  ⟨rfl, rfl, rfl, rfl, rfl, rfl, rfl⟩

theorem botInquiry_frame : BotFrame [.inquiry lun] m (botInquiry m remain lun).2.2 := by
  unfold botInquiry
  simp only
  split_ifs
  · exact (access_frame.trans setInquiry_frame).trans botSend_frame
  · exact ((access_frame.trans setInquiry_frame).trans botSend_frame).trans setScsiErrorCode_frame

theorem botSense_frame : BotFrame [] m (botSense m remain).2.2 := by
  unfold botSense
  simp only
  split_ifs
  · exact botSend_frame
  · exact botSend_frame.trans setScsiErrorCode_frame

theorem botGetEventStatusNotification_frame :
    BotFrame [.eventStatus lun] m (botGetEventStatusNotification m remain lun).2.2 := by
  unfold botGetEventStatusNotification
  simp only
  split_ifs
  · exact (access_frame.trans setEventStatus_frame).trans botSend_frame
  · exact ((access_frame.trans setEventStatus_frame).trans botSend_frame).trans setEventStatus_frame

/-- The accesses of a command to the tables. -/
def tableAccesses (cbw : CommandBlockWrapper) : List BotAccess :=
  if cbw.opCode = scsiInquiry then if cbw.bmCBWFlags = 0 then [] else [.inquiry cbw.bCBWLUN]
  else if cbw.opCode = scsiGetNotificationStatus then
    if cbw.bmCBWFlags = 0 then [] else [.eventStatus cbw.bCBWLUN]
  else if cbw.opCode = scsiReadFormatCapacities then [.inquiry cbw.bCBWLUN]
  else []

theorem botReply_frame {send : BotIf → UInt32 → UInt8 → Bool × UInt32 × BotIf}
    (hs : BotFrame as m (send m m.wrapper.dCBWDataTransferLength m.wrapper.bCBWLUN).2.2) :
    BotFrame (if m.wrapper.bmCBWFlags = 0 then [] else as) m (botReply m send) := by
  unfold botReply
  simp only
  by_cases h : m.wrapper.bmCBWFlags = 0
  · rw [if_pos h, if_pos h]
    exact botSendCSW_frame
  · rw [if_neg h, if_neg h, ← List.append_nil as]
    exact hs.trans botSendCSW_frame

/-- **Frame rule of a command.** -/
theorem botProcessHandler_frame : BotFrame (tableAccesses m.wrapper) m (botProcessHandler m) := by
  unfold botProcessHandler tableAccesses
  simp only
  by_cases h1 : m.wrapper.opCode = scsiInquiry
  · rw [if_pos h1, if_pos h1]
    exact botReply_frame botInquiry_frame
  rw [if_neg h1, if_neg h1]
  by_cases h2 : m.wrapper.opCode = scsiRequestSense
  · rw [if_pos h2, if_neg (by rw [h2]; decide), if_neg (by rw [h2]; decide)]
    have h : BotFrame (if m.wrapper.bmCBWFlags = 0 then [] else []) m
        (botReply m fun m remain _ => botSense m remain) := botReply_frame botSense_frame
    rwa [ite_self] at h
  rw [if_neg h2]
  by_cases h3 : m.wrapper.opCode = scsiGetNotificationStatus
  · rw [if_pos h3, if_pos h3]
    exact botReply_frame botGetEventStatusNotification_frame
  rw [if_neg h3, if_neg h3]
  by_cases h4 : m.wrapper.opCode = scsiReadFormatCapacities
  · have hne : ¬ (m.wrapper.opCode = scsiMediumRemoval ∨ m.wrapper.opCode = scsiSeek ∨
        m.wrapper.opCode = scsiSyncCache ∨ m.wrapper.opCode = scsiSetCdSpeed) := by
      rw [h4]
      decide
    rw [if_pos h4, if_neg hne, if_pos h4]
    exact access_frame
  rw [if_neg h4, if_neg h4]
  split_ifs
  · exact botSendCSW_frame
  · exact botSendCSW_frame
  · exact (BotFrame.call m _).trans botSendCSW_frame
  · exact (BotFrame.call m _).trans botSendCSW_frame
  · exact .call m _

end Frame

/-! ## An interface with two logical units -/

/-- The wrapper of a command, with its tag and the length of its data. -/
def cbwPacket (tag len : ℕ) (flags lun opCode : UInt8) : List UInt8 :=
  leBytes 4 cbwSignature.toNat ++ leBytes 4 tag ++ leBytes 4 len ++ [flags, lun, 16, opCode] ++
    List.replicate 15 0

/-- An interface that has received nothing. All its calls succeed. -/
def massIf : BotIf where
  cbw _ := 0
  scsiData _ := 0
  scsiDataLen := 0
  scsiDataOutLen := 0
  unHalted := 1
  senseKey := 0
  senseCode := 0
  senseCodeQ := 0
  noMediumRetries := maxNoMediumRetries
  lastSeqNo := 0
  inquiry _ := block 0 [0x05, 0x80]
  eventStatus _ := ⟨0, 0, 0, 0, 0, 0, 0⟩
  tableSize := 2
  dataInEp := 1
  wakeupFlag := false
  videoCallback := false
  usb := { answers := fun _ => 0, log := [] }
  accesses := []

end BmcUsb
