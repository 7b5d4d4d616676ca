import Mathlib
import Bmc.Asd.I2cMessage
import Bmc.Asd.JtagMessage
import Bmc.Asd.Read

/-!
# The dispatch of messages

`asd_msg_on_msg_recv` and the functions between it and the two message processors. Log messages are
left out, also those that remote logging would send.

* `agentControl`: the commands of an agent control message, and the reply;
* `initializeHandlers`: the handlers before the first other message;
* `processMessage`, `asdMsgOnMsgRecv`; `asdLayer`: what the reader calls.
-/

namespace BmcAsd

open BmcLib

/-! ## Agent control -/

abbrev numInFlightMessagesSupportedCmd : UInt8 := 3
abbrev obtainDownstreamVersionCmd : UInt8 := 5
abbrev agentConfigurationCmd : UInt8 := 8
abbrev maxDataSizeCmd : UInt8 := 13
abbrev supportedJtagChainsCmd : UInt8 := 14
abbrev supportedI2cBusesCmd : UInt8 := 15
abbrev supportedRemoteProbesCmd : UInt8 := 16
abbrev remoteProbesConfigCmd : UInt8 := 17
abbrev loopbackCmd : UInt8 := 18

abbrev agentConfigTypeLogging : UInt8 := 1
abbrev agentConfigTypeGpio : UInt8 := 2
abbrev agentConfigTypeJtagSettings : UInt8 := 3

abbrev numInFlightBuffersToUse : UInt8 := 20

/-- `asd_version`, with its terminating zero. -/
def asdVersion : List UInt8 := asciiBytes "ASD_BMC_v1.4.7" ++ [0]

/-- Set the size field of `out_msg`. -/
def AsdMsg.setOutSize (s : AsdMsg) (lsb : UInt8) (msb : BitVec 5) : AsdMsg :=
  s.setOutHeader { s.outMsg.header with sizeLsb := lsb, sizeMsb := msb }

/-- What precedes the `switch`: the header of the request with one byte of payload, the command. -/
def agentControlStart (s : AsdMsg) (h : MessageHeader) : AsdMsg :=
  (s.setOutHeader { h with sizeLsb := 1, sizeMsb := 0, cmdStat := asdSuccess }).respond 0 [h.cmdStat]

/-- The buses that `SUPPORTED_I2C_BUSES_CMD` reports. -/
def supportedBuses (x : Ixc) : List UInt8 :=
  ((List.finRange maxIxcBuses).filter fun i => x.busConfigType i ≠ .notAllowed).map x.busConfigMap

/-- The case `SUPPORTED_I2C_BUSES_CMD`. -/
def supportedI2cBuses (s : AsdMsg) : AsdMsg :=
  if s.ixc.enableI2c || s.ixc.enableI3c then
    let buses := supportedBuses s.ixc
    ((s.respond 2 buses).respond 1 [UInt8.ofNat buses.length]).setOutSize (UInt8.ofNat (buses.length + 2)) 0
  else (s.respond 1 [0]).setOutSize 2 0

/-- The case `REMOTE_PROBES_CONFIG_CMD`. `strcpy_s` fills the room behind the text with zeros, and the
whole room if the text with its zero does not fit. -/
def remoteProbesConfig (s : AsdMsg) : Status × AsdMsg :=
  let text := s.vprobeHandler.probesConfig.1
  let room := maxDataSize - 1
  let configSize := text.length + 1
  if s.vprobeHandler.remoteConfigs > 0 then
    if text.length < room then
      (.ok, (s.respond 1 (text ++ List.replicate (room - text.length) 0)).setOutSize
        (lsbFromMsgSize configSize) (msbFromMsgSize configSize))
    else
      (.err, (s.respond 1 (List.replicate room 0)).setOutSize
        (lsbFromMsgSize configSize) (msbFromMsgSize configSize))
  else (.ok, s)

/-- The case `OBTAIN_DOWNSTREAM_VERSION_CMD`; a negative size makes the third copy fail. -/
def obtainDownstreamVersion (s : AsdMsg) : Status × AsdMsg :=
  let n := s.bmcVersionSize
  let s := (s.respond 1 asdVersion).respond asdVersion.length (asciiBytes "_")
  let copied : Status × AsdMsg :=
    if 0 ≤ n then (.ok, s.respond (asdVersion.length + 1) (slice s.bmcVersion 0 n.toNat)) else (.err, s)
  (copied.1, (copied.2.respond (asdVersion.length + 1 + n).toNat [0]).setOutSize
    (UInt8.ofInt (1 + asdVersion.length + n)) s.outMsg.header.sizeMsb)

/-- The case `AGENT_CONFIGURATION_CMD`; a short packet leaves the `switch`. -/
def agentConfiguration (s : AsdMsg) (m : AsdMessage) : AsdMsg :=
  let packet : PacketData := { buffer := m.buffer, used := 0, total := (getMessageSize m.header).getD (2 ^ 32 - 1) }
  match getPacketData packet 1 with
  | none => s
  | some (configType, packet₁) =>
    let s := s.touch [.packet packet.used 1 packet.total]
    match getPacketData packet₁ 1 with
    | none => s
    | some (value, _) =>
      let type := configType.headD 0
      let value := value.headD 0
      if type = agentConfigTypeLogging then
        { s.touch [.packet packet₁.used 1 packet₁.total] with remoteLogging := value }
      else if type = agentConfigTypeGpio then s.touch [.packet packet₁.used 1 packet₁.total]
      else if type = agentConfigTypeJtagSettings then
        { s.touch [.packet packet₁.used 1 packet₁.total] with
          jtagMode := if value &&& 1 = 1 then .hardware else .software
          jtagChainMode := if value &&& 2 = 2 then .multi else .single }
      else s

/-- The case `LOOPBACK_CMD`. -/
def loopback (s : AsdMsg) (m : AsdMessage) : AsdMsg :=
  let size := min (m.header.sizeLsb.toNat + m.header.sizeMsb.toNat <<< 8) maxDataSize
  (s.setOutHeader m.header).respond 0 (slice m.buffer 0 size)

/-- The case `SUPPORTED_REMOTE_PROBES_CMD`; `none` is the return after a failed initialisation. -/
def supportedRemoteProbes (s : AsdMsg) : Option AsdMsg :=
  let r : Status × VprobeHandler :=
    if s.vprobeHandler.initialized then (.ok, s.vprobeHandler) else vProbeInitialize s.vprobeHandler
  if r.1 = .ok then
    some (({ s with vprobeHandler := r.2 }.respond 1 [r.2.remoteProbes]).setOutSize 2 0)
  else none

/-- The `switch` over the command, without the return; the status is `result`. -/
def agentControlCommand (s : AsdMsg) (m : AsdMessage) : Status × AsdMsg :=
  let cmd := m.header.cmdStat
  if cmd = numInFlightMessagesSupportedCmd then
    (.ok, (s.respond 1 [numInFlightBuffersToUse]).setOutSize (s.outMsg.header.sizeLsb + 1) s.outMsg.header.sizeMsb)
  else if cmd = maxDataSizeCmd then
    (.ok, (s.respond 1 [UInt8.ofNat (maxDataSize &&& 0xFF), UInt8.ofNat ((maxDataSize >>> 8) &&& 0xFF)]).setOutSize 3 0)
  else if cmd = supportedJtagChainsCmd then (.ok, (s.respond 1 [UInt8.ofNat maxScanChains]).setOutSize 2 0)
  else if cmd = supportedI2cBusesCmd then (.ok, supportedI2cBuses s)
  else if cmd = remoteProbesConfigCmd then remoteProbesConfig s
  else if cmd = obtainDownstreamVersionCmd then obtainDownstreamVersion s
  else if cmd = agentConfigurationCmd then (.ok, agentConfiguration s m)
  else if cmd = loopbackCmd then (.ok, loopback s m)
  else (.ok, s)

/-- The reply to an agent control message; that it cannot be sent is only logged. -/
def agentControlReply (r : Status × AsdMsg) : Status × AsdMsg := (r.1, (sendResponse r.2 r.2.outMsg).2)

/-- The branch of `asd_msg_on_msg_recv` for agent control messages. -/
def agentControl (s : AsdMsg) (m : AsdMessage) : Status × AsdMsg :=
  let s := agentControlStart s m.header
  if m.header.cmdStat = supportedRemoteProbesCmd then
    match supportedRemoteProbes s with
    | some s => agentControlReply (.ok, s)
    | none => (.err, sendErrorMessage s m.header asdFailureInitVprobeHandler)
  else agentControlReply (agentControlCommand s m)

/-! ## The handlers -/

/-- The initialisation of the bus handlers: whether it succeeded, and the handlers. -/
def initializeBuses (x : Ixc) : Bool × Ixc :=
  let r := if x.enableI2c then i2cInitialize x else (.ok, x)
  if r.1 = .ok then
    let r := if r.2.enableI3c then i3cInitialize r.2 else (.ok, r.2)
    (r.1 = .ok, r.2)
  else (false, r.2)

/-- The initialisation of all handlers; the code is that of the error that is reported. -/
def initializeHandlers (s : AsdMsg) : Option UInt8 × AsdMsg :=
  let j := jtagInitialize s.jtagHandler (s.jtagMode = .software)
  let s := { s with jtagHandler := j.2 }
  if j.1 = .ok then
    let b := initializeBuses s.ixc
    let s := s.setIxc b.2
    if b.1 then
      let t := targetInitialize s.targetHandler s.xdpFailEnable
      let s := { s with targetHandler := t.2 }
      if t.1 = .ok then (none, { s with handlersInitialized := true })
      else
        let d := jtagDeinitialize s.jtagHandler
        (some asdFailureXdpPresent, { s with jtagHandler := d.2 })
    else (some asdFailureInitI2cHandler, s)
  else (some asdFailureInitJtagHandler, s)

/-- `dev_flock` on the default bus. -/
def flockDefaultBus (s : AsdMsg) (op : LockOp) : Status × AsdMsg :=
  let r := devFlock s.ixc s.ixc.defaultBus op
  (r.1, s.setIxc r.2)

/-! ## Messages -/

/-- The I2C branch of `process_message`, between the two `dev_flock`s. -/
def processLocked (s : AsdMsg) (m : AsdMessage) : AsdMsg :=
  let r := processI2cMessages s m
  let s := if r.1 = .ok then r.2 else sendErrorMessage r.2 m.header asdFailureProcessI2cMsg
  let u := flockDefaultBus s .un
  if u.1 = .ok then u.2 else sendErrorMessage u.2 m.header asdFailureRemoveI2cLock

/-- The I2C branch of `process_message`. -/
def processI2c (s : AsdMsg) (m : AsdMessage) : AsdMsg :=
  if s.ixc.enableI2c || s.ixc.enableI3c then
    let l := flockDefaultBus s .ex
    if l.1 = .ok then processLocked l.2 m else sendErrorMessage l.2 m.header asdFailureProcessI2cLock
  else sendErrorMessage s m.header asdI2cMsgNotSupported

/-- The JTAG branch of `process_message`. -/
def processJtag (s : AsdMsg) (m : AsdMessage) : AsdMsg :=
  let r := processJtagMessage s m
  if r.1 = .ok then r.2 else sendErrorMessage r.2 m.header asdFailureProcessJtagMsg

/-- The messages that `process_message` accepts. -/
def MessageHeader.Supported (h : MessageHeader) : Prop :=
  (h.type = jtagType ∨ h.type = i2cType) ∧ (h.cmdStat = 0 ∨ h.cmdStat = 0x80 ∨ h.cmdStat = 1)

instance (h : MessageHeader) : Decidable h.Supported := inferInstanceAs (Decidable (_ ∧ _))

/-- `process_message`. -/
def processMessage (s : AsdMsg) (m : AsdMessage) : AsdMsg :=
  if m.header.Supported then
    if m.header.type = jtagType then processJtag s m else processI2c s m
  else sendErrorMessage s m.header asdMsgNotSupported

/-- The part of `asd_msg_on_msg_recv` that runs once: the report of an XDP connector. -/
def reportXdp (s : AsdMsg) (h : MessageHeader) : AsdMsg :=
  if s.targetHandler.xdpPresent then sendErrorMessage s h asdFailureXdpPresent else s

/-- `asd_msg_on_msg_recv`. -/
def asdMsgOnMsgRecv (m : AsdMessage) (s : AsdMsg) : Status × AsdMsg :=
  if m.header.encBit ≠ 0 then (.err, sendErrorMessage s m.header asdMsgCrypyNotSupported)
  else if m.header.type = agentControlType then agentControl s m
  else if s.handlersInitialized then (.ok, processMessage s m)
  else
    let r := initializeHandlers s
    match r.1 with
    | some e => (.err, sendErrorMessage r.2 m.header e)
    | none => (.ok, processMessage (reportXdp r.2 m.header) m)

/-- The functions that `asd_msg_read` calls. -/
def asdLayer : MsgLayer AsdMsg where
  onMsgRecv := asdMsgOnMsgRecv
  sendErrorMessage m e s := sendErrorMessage s m.header e

end BmcAsd
