import Bmc.Asd.JtagHandler
import Bmc.Asd.TargetHandler
import Bmc.Asd.Ixc

/-!
# The message layer

The state that `asd_msg.c` works on, the cursor into the payload of a message, and sending.

* `AsdMsg`: `ASD_MSG` without the reader, which is modelled by `Reader`;
* `getPacketData`: the cursor; `Access`: what the code touches while it processes a message;
* `sendResponse`, `sendErrorMessage`: the two ways a frame is sent.
-/

namespace BmcAsd

open BmcLib

/-! ## Packets -/

/-- `struct packet_data` over the buffer of a message; `next_data` always is `used` bytes into it. -/
@[ext]
structure PacketData where
  buffer : ℕ → UInt8
  used : ℕ
  total : ℕ

/-- `get_packet_data`; `none` is `NULL`, otherwise the bytes that the result points to. -/
def getPacketData (p : PacketData) (bytesWanted : ℕ) : Option (List UInt8 × PacketData) :=
  if p.used + bytesWanted > p.total then none
  else some (slice p.buffer p.used bytesWanted, { p with used := p.used + bytesWanted })

theorem getPacketData_eq_some {p p' : PacketData} {n : ℕ} {bytes : List UInt8}
    (h : getPacketData p n = some (bytes, p')) :
    p.used + n ≤ p.total ∧ bytes = slice p.buffer p.used n ∧ p' = { p with used := p.used + n } := by
  rw [getPacketData] at h
  split_ifs at h with hn
  rw [Option.some.injEq, Prod.mk.injEq] at h
  exact ⟨by omega, h.1.symm, h.2.symm⟩

theorem getPacketData_of_le {p : PacketData} {n : ℕ} (h : p.used + n ≤ p.total) :
    getPacketData p n = some (slice p.buffer p.used n, { p with used := p.used + n }) := by
  rw [getPacketData, if_neg (by omega)]

theorem getPacketData_eq_none {p : PacketData} {n : ℕ} (h : p.total < p.used + n) :
    getPacketData p n = none := by
  rw [getPacketData, if_pos h]

/-- Give `n` bytes back. -/
def PacketData.unget (p : PacketData) (n : ℕ) : PacketData := { p with used := p.used - n }

/-- A place that the code touches: `n` bytes of the payload or of `out_msg.buffer`, the table of
scan chains, the bytes and the text of a chain selection, or the divisor of a division. -/
inductive Access where
  | packet (offset n total : ℕ)
  | response (offset n : ℕ)
  | scanChain (chain : ℕ)
  | chainByte (index : ℕ)
  | chainText (offset n : ℕ)
  | division (divisor : ℕ)
  deriving DecidableEq, Repr

/-- The access stays inside its object; a divisor is not zero. -/
def Access.Safe : Access → Prop
  | .packet offset n total => offset + n ≤ total
  | .response offset n => offset + n ≤ maxDataSize
  | .scanChain chain => chain < maxScanChains
  | .chainByte index => index < maxMultichains
  | .chainText offset n => offset + n ≤ maxMultichains * 5
  | .division divisor => divisor ≠ 0

instance : DecidablePred Access.Safe
  | .packet _ _ _ => inferInstanceAs (Decidable (_ ≤ _))
  | .response _ _ => inferInstanceAs (Decidable (_ ≤ _))
  | .scanChain _ => inferInstanceAs (Decidable (_ < _))
  | .chainByte _ => inferInstanceAs (Decidable (_ < _))
  | .chainText _ _ => inferInstanceAs (Decidable (_ ≤ _))
  | .division _ => inferInstanceAs (Decidable (_ ≠ _))

/-! ## Remote probes -/

/-- The bytes of an ASCII text. -/
def asciiBytes (s : String) : List UInt8 := s.toList.map fun c => UInt8.ofNat c.toNat

/-- `vProbe_Handler`; `probesConfig` is the text up to its terminating zero. -/
structure VprobeHandler where
  initialized : Bool
  remoteProbes : UInt8
  remoteConfigs : UInt8
  probesConfig : { s : List UInt8 // s.length < maxDataSize }

/-- `vProbeHandler`. -/
def vProbeHandler (probesConfig : { s : List UInt8 // s.length < maxDataSize }) : VprobeHandler where
  initialized := false
  remoteProbes := 0
  remoteConfigs := 0
  probesConfig := probesConfig

/-- `vProbeConfigAppend`, with `none` once it has failed. -/
def vProbeConfigAppend (c : Option { s : List UInt8 // s.length < maxDataSize }) (s : String) :
    Option { s : List UInt8 // s.length < maxDataSize } :=
  match c with
  | none => none
  | some c =>
    if h : (c.1 ++ asciiBytes s).length < maxDataSize then some ⟨c.1 ++ asciiBytes s, h⟩ else none

/-- The lines for the remote probe `i`. -/
def probeLines (i : ℕ) : List String :=
  ["<Probe UniqueId=\"" ++ toString (maxScanChains + i) ++ "\">\r\n",
    "<Interface.Jtag Protocol_Value=\"" ++ toString (maxScanChains + i) ++
      "\" JTAG_Speed=\"1000000\" Divisor=\"1\"/>\r\n",
    "</Probe>\r\n"]

/-- `vProbe_initialize`. -/
def vProbeInitialize (v : VprobeHandler) : Status × VprobeHandler :=
  let lines := ["<ASD_JTAG Enable=\"true\">\r\n"] ++
    (List.range v.remoteConfigs.toNat).flatMap probeLines ++ ["</ASD_JTAG>\r\n"]
  match lines.foldl vProbeConfigAppend (some ⟨[], by decide⟩) with
  | some c => (.ok, { v with probesConfig := c, initialized := true })
  | none => (.err, v)

/-- `vProbe_deinitialize`. -/
def vProbeDeinitialize (v : VprobeHandler) : Status := if v.initialized then .ok else .err

/-! ## State -/

/-- `JTAG_CHAIN_SELECT_MODE`. -/
inductive ChainSelectMode where
  | single | multi
  deriving DecidableEq, Repr

/-- `JTAG_DRIVER_MODE`. -/
inductive DriverMode where
  | software | hardware
  deriving DecidableEq, Repr

/-- What `send_function` gets: a header and its payload. -/
structure Frame where
  header : MessageHeader
  payload : List UInt8
  deriving DecidableEq, Repr

/-- `ASD_MSG` with the parts of `asd_cfg` that it uses. `network` answers whether a frame was sent,
`memory` whether an allocation succeeded, and `stack` is what an uninitialised buffer holds. -/
structure AsdMsg where
  outMsg : AsdMessage
  jtagMode : DriverMode
  remoteLogging : UInt8
  jtagHandler : JtagHandler
  targetHandler : TargetHandle
  ixc : Ixc
  vprobeHandler : VprobeHandler
  handlersInitialized : Bool
  prdyTimeout : UInt8
  jtagChainMode : ChainSelectMode
  bmcVersion : ℕ → UInt8
  bmcVersionSize : ℤ
  xdpFailEnable : Bool
  network : Device Frame Bool
  memory : Device Unit Bool
  stack : ℕ → UInt8
  accesses : List Access

namespace AsdMsg

/-- Note some accesses. -/
def touch (s : AsdMsg) (as : List Access) : AsdMsg := { s with accesses := s.accesses ++ as }

/-- Write `l` at offset `o` of `out_msg.buffer`. -/
def respond (s : AsdMsg) (o : ℕ) (l : List UInt8) : AsdMsg :=
  { s with
    outMsg := { s.outMsg with buffer := store s.outMsg.buffer o l }
    accesses := s.accesses ++ [.response o l.length] }

/-- Store the bus handlers. -/
def setIxc (s : AsdMsg) (x : Ixc) : AsdMsg := { s with ixc := x }

@[simp] theorem setIxc_ixc (s : AsdMsg) (x : Ixc) : (s.setIxc x).ixc = x := rfl

/-- Set the header of `out_msg`. -/
def setOutHeader (s : AsdMsg) (h : MessageHeader) : AsdMsg :=
  { s with outMsg := { s.outMsg with header := h } }

end AsdMsg

/-- The header with all bits zero. -/
def MessageHeader.zero : MessageHeader := ⟨0, 0, 0, 0, 0, 0, 0, 0⟩

/-- What `asd_msg_init` works with: the configuration, the devices behind the handlers, and in
`ixc` and `outMsg` what the allocated memory held before. -/
structure Platform where
  jtagMode : DriverMode
  remoteLogging : UInt8
  xdpFailEnable : Bool
  useIpmiInterface : Bool
  eventCfg : EventConfiguration
  ixc : Ixc
  probesConfig : { s : List UInt8 // s.length < maxDataSize }
  bmcVersion : ℕ → UInt8
  bmcVersionSize : ℤ
  outMsg : AsdMessage
  driver : Device JtagCall JtagAnswer
  gpios : Device TargetCall TargetAnswer
  network : Device Frame Bool
  memory : Device Unit Bool
  stack : ℕ → UInt8

/-- `asd_msg_init`, where all handlers could be created. -/
def asdMsgInit (p : Platform) : AsdMsg where
  outMsg := p.outMsg
  jtagMode := p.jtagMode
  remoteLogging := p.remoteLogging
  jtagHandler := jtagHandler p.driver
  targetHandler := targetHandler p.useIpmiInterface p.eventCfg p.gpios
  ixc := { p.ixc with i2cDriverHandle := none, i3cDriverHandlers := fun _ => none }
  vprobeHandler := vProbeHandler p.probesConfig
  handlersInitialized := false
  prdyTimeout := 0
  jtagChainMode := .single
  bmcVersion := p.bmcVersion
  bmcVersionSize := p.bmcVersionSize
  xdpFailEnable := p.xdpFailEnable
  network := p.network
  memory := p.memory
  stack := p.stack
  accesses := []

/-- Clear `out_msg`. -/
def AsdMsg.clearOutMsg (s : AsdMsg) : AsdMsg :=
  { s with outMsg := ⟨.zero, fun _ => 0⟩ }

/-! ## Sending -/

/-- `send_response`. -/
def sendResponse (s : AsdMsg) (message : AsdMessage) : Status × AsdMsg :=
  match getMessageSize message.header with
  | none => (.err, s)
  | some size =>
    let sent := s.network.answer
    (if sent then .ok else .err,
      { s with network := s.network.call ⟨message.header, slice message.buffer 0 size⟩ })

/-- What is sent for a message whose size field is valid. -/
theorem sendResponse_eq (s : AsdMsg) (message : AsdMessage) {n : ℕ}
    (h : getMessageSize message.header = some n) :
    sendResponse s message = (if s.network.answer then .ok else .err,
      { s with network := s.network.call ⟨message.header, slice message.buffer 0 n⟩ }) := by
  rw [sendResponse, h]

/-- `send_error_message`. -/
def sendErrorMessage (s : AsdMsg) (input : MessageHeader) (cmdStat : UInt8) : AsdMsg :=
  (sendResponse s
    { header := { input with type := 1, sizeLsb := 0, sizeMsb := 0, cmdStat := cmdStat }
      buffer := fun _ => 0 }).2

/-- The header of an error message. -/
def errorHeader (input : MessageHeader) (cmdStat : UInt8) : MessageHeader :=
  { input with type := 1, sizeLsb := 0, sizeMsb := 0, cmdStat := cmdStat }

/-- An error message is one frame without payload. -/
theorem sendErrorMessage_eq (s : AsdMsg) (input : MessageHeader) (cmdStat : UInt8) :
    sendErrorMessage s input cmdStat =
      { s with network := s.network.call ⟨errorHeader input cmdStat, []⟩ } := by
  unfold sendErrorMessage
  rw [sendResponse_eq (n := 0)]
  · rfl
  · rw [getMessageSize_eq]
    rfl

@[simp] theorem sendErrorMessage_ixc (s : AsdMsg) (input : MessageHeader) (cmdStat : UInt8) :
    (sendErrorMessage s input cmdStat).ixc = s.ixc := by
  rw [sendErrorMessage_eq]

/-! ## A platform without failures -/

/-- Two I2C buses and one I3C bus on devices that never fail. -/
def quietBuses : Ixc where
  enableI2c := true
  enableI3c := true
  defaultBus := 1
  busConfigType := ![.i2c, .i2c, .i3c, .notAllowed]
  busConfigMap := ![1, 2, 3, 0]
  i2cBus := 0
  i2cDriverHandle := none
  i3cBus := 0
  i3cDriverHandlers := fun _ => none
  os := ⟨fun _ => ⟨true, fun _ _ => 0⟩, []⟩

/-- A platform in the given mode whose devices never fail, and read zeros. -/
def Platform.quiet (mode : DriverMode) : Platform where
  jtagMode := mode
  remoteLogging := 0
  xdpFailEnable := true
  useIpmiInterface := false
  eventCfg := ⟨false, false, false, false, false⟩
  ixc := quietBuses
  probesConfig := ⟨[], by decide⟩
  bmcVersion := fun _ => 0
  bmcVersionSize := 0
  outMsg := ⟨.zero, fun _ => 0⟩
  driver := ⟨fun _ => ⟨true, fun _ => 0⟩, []⟩
  gpios := ⟨fun _ => ⟨true, false⟩, []⟩
  network := ⟨fun _ => true, []⟩
  memory := ⟨fun _ => true, []⟩
  stack := fun _ => 0

end BmcAsd
