import Bmc.Asd.BusSelect

/-!
# I2C messages

`process_i2c_messages` and the functions it calls. Reads and writes are collected in the message
builder and handed to the bus together, at a force-stop or at the end of the packet.

* `doReadCommand`, `doWriteCommand`, `doBusSelectCommand`, `doSetSclkCommand`: one command;
* `flushI2c`: hand the collected commands to the bus and build their responses;
* `i2cCommand`: one round of the loop; `processI2cMessages`.
-/

namespace BmcAsd

open BmcLib

/-! ## Commands -/

abbrev i2cWriteCfgBusSelect : UInt8 := 1
abbrev i2cWriteCfgSclk : UInt8 := 2
abbrev i2cReadMin : UInt8 := 0x20
abbrev i2cReadMax : UInt8 := 0x3f
abbrev i2cWriteMin : UInt8 := 0x60
abbrev i2cWriteMax : UInt8 := 0x7f
abbrev i2cLengthMask : UInt8 := 0xf
abbrev i2cAddressMask : UInt8 := 0xfe
abbrev i2cForceStopMask : UInt8 := 0x1
abbrev i2cAddressAck : UInt8 := 0x80

/-! ## The message builder -/

/-- A `malloc` or `realloc`. -/
def AsdMsg.alloc (s : AsdMsg) : Bool × AsdMsg :=
  (s.memory.answer, { s with memory := s.memory.call () })

/-- `i2c_msg_add`: room in the table, then room for the bytes of the message. -/
def i2cMsgAdd (s : AsdMsg) (builder : List I2cMsg) (msg : I2cMsg) :
    Status × AsdMsg × List I2cMsg :=
  let table := s.alloc
  if table.1 then
    let buf := table.2.alloc
    if buf.1 then (.ok, buf.2, builder ++ [msg]) else (.err, buf.2, builder)
  else (.err, table.2, builder)

/-! ## Responses -/

/-- A packet with the continuation bit, and an empty buffer after it. -/
def sendContinuation (s : AsdMsg) (responseCnt : ℕ) : Status × AsdMsg :=
  let s := s.setOutHeader { s.outMsg.header.withSize responseCnt with
    cmdStat := asdSuccess ||| asdPacketContinuation }
  let r := sendResponse s s.outMsg
  if r.1 = .ok then (.ok, { r.2 with outMsg := ⟨r.2.outMsg.header, fun _ => 0⟩ }) else r

/-- The response frame of one message. -/
def i2cFrame (msg : I2cMsg) (ack : Bool) : List UInt8 :=
  [(if msg.read then i2cReadMin else i2cWriteMin) + UInt8.ofNat msg.length,
    if ack then i2cAddressAck + UInt8.ofNat msg.length else UInt8.ofNat msg.length] ++
    if msg.read then slice msg.buffer 0 msg.length else []

/-- `build_responses`: the status, the state and `*response_cnt`. -/
def buildResponses (s : AsdMsg) (responseCnt : ℕ) (ack : Bool) : List I2cMsg → Status × AsdMsg × ℕ
  | [] => (.ok, s, responseCnt)
  | msg :: msgs =>
    let full : Bool := msg.length + responseCnt + 2 > maxDataSize
    let r := if full then sendContinuation s responseCnt else (.ok, s)
    let cnt := if full then 0 else responseCnt
    if r.1 = .ok then
      let frame := i2cFrame msg ack
      buildResponses (r.2.respond cnt frame) (cnt + frame.length) ack msgs
    else (r.1, r.2, responseCnt)

/-! ## The loop over a packet -/

/-- The variables of `process_i2c_messages`. -/
structure I2cLoop where
  st : AsdMsg
  packet : PacketData
  builder : List I2cMsg
  responseCnt : ℕ
  status : Status
  pending : Bool
  forceStop : Bool
  broken : Bool

/-- Read `n` bytes of the packet and go on with `k`, or fail on a short packet. -/
def I2cLoop.withData (l : I2cLoop) (n : ℕ) (k : List UInt8 → I2cLoop → I2cLoop) : I2cLoop :=
  match getPacketData l.packet n with
  | none => { l with status := .err }
  | some (bytes, p) =>
    k bytes { l with packet := p, st := l.st.touch [.packet l.packet.used n l.packet.total] }

/-- Add a message to the builder. -/
def I2cLoop.add (l : I2cLoop) (msg : I2cMsg) : I2cLoop :=
  let r := i2cMsgAdd l.st l.builder msg
  { l with st := r.2.1, builder := r.2.2, status := r.1 }

/-- `do_bus_select_command`; its status is ignored. -/
def doBusSelectCommand (l : I2cLoop) : I2cLoop :=
  match getPacketData l.packet 1 with
  | none => l
  | some (bytes, p) =>
    let s := l.st.touch [.packet l.packet.used 1 l.packet.total]
    { l with packet := p, st := (busSelectCommand s (bytes.headD 0)).2 }

/-- `do_set_sclk_command`. -/
def doSetSclkCommand (l : I2cLoop) : I2cLoop :=
  l.withData 2 fun _ l => { l with status := setSclk l.st.ixc }

/-- The address in the second byte of a command. -/
def i2cAddress (data : UInt8) : ℕ := ((data &&& i2cAddressMask) >>> 1).toNat

/-- The force-stop bit in the second byte of a command. -/
def i2cForceStop (data : UInt8) : Bool := data &&& i2cForceStopMask == i2cForceStopMask

/-- `do_read_command`; the buffer of the message is not initialised. -/
def doReadCommand (l : I2cLoop) (cmd : UInt8) : I2cLoop :=
  { l with forceStop := false }.withData 1 fun bytes l =>
    let data := bytes.headD 0
    { l with forceStop := i2cForceStop data }.add
      { read := true, address := i2cAddress data, length := (cmd &&& i2cLengthMask).toNat,
        buffer := l.st.stack }

/-- `do_write_command`. -/
def doWriteCommand (l : I2cLoop) (cmd : UInt8) : I2cLoop :=
  { l with forceStop := false }.withData 1 fun bytes l =>
    let data := bytes.headD 0
    let length := (cmd &&& i2cLengthMask).toNat
    { l with forceStop := i2cForceStop data }.withData length fun bytes l =>
      l.add { read := false, address := i2cAddress data, length := length, buffer := block 0 bytes }

/-- Hand the collected messages to the bus, build their responses, and reset the builder. -/
def flushI2c (l : I2cLoop) : I2cLoop :=
  let r := doReadWrite l.st.ixc l.builder
  let b := buildResponses (l.st.setIxc r.2.2) l.responseCnt (r.1 = .ok) r.2.1
  let l := { l with pending := false, forceStop := false, status := b.1, st := b.2.1,
                    responseCnt := b.2.2 }
  if b.1 = .ok then { l with builder := [] } else { l with builder := r.2.1, broken := true }

/-- The dispatch on the command byte. -/
def i2cDispatch (l : I2cLoop) (cmd : UInt8) : I2cLoop :=
  if cmd = i2cWriteCfgBusSelect then doBusSelectCommand l
  else if cmd = i2cWriteCfgSclk then doSetSclkCommand l
  else if i2cReadMin ≤ cmd ∧ cmd ≤ i2cReadMax then { doReadCommand l cmd with pending := true }
  else if i2cWriteMin ≤ cmd ∧ cmd ≤ i2cWriteMax then { doWriteCommand l cmd with pending := true }
  else { l with status := .err }

/-- The end of a round: leave the loop after a failure, or flush what is pending. -/
def i2cRoundEnd (l : I2cLoop) : I2cLoop :=
  if l.status ≠ .ok then { l with broken := true }
  else if l.pending && (l.packet.used == l.packet.total || l.forceStop) then flushI2c l
  else l

/-- One round of the loop. -/
def i2cCommand (l : I2cLoop) : I2cLoop :=
  i2cRoundEnd (l.withData 1 fun bytes l => i2cDispatch l (bytes.headD 0))

/-- The loop condition. -/
def I2cLoop.goesOn (l : I2cLoop) : Bool := !l.broken && l.packet.used < l.packet.total

/-- The variables before the loop. -/
def i2cLoopStart (s : AsdMsg) (m : AsdMessage) (size : ℕ) : I2cLoop where
  st := s
  packet := { buffer := m.buffer, used := 0, total := size }
  builder := []
  responseCnt := 0
  status := .ok
  pending := false
  forceStop := false
  broken := false

/-- The response after the loop. -/
def i2cReply (l : I2cLoop) : Status × AsdMsg :=
  if l.status = .ok then
    let s := l.st.setOutHeader { l.st.outMsg.header.withSize l.responseCnt with
      cmdStat := asdSuccess }
    sendResponse s s.outMsg
  else (l.status, l.st)

/-- `process_i2c_messages`. -/
def processI2cMessages (s : AsdMsg) (m : AsdMessage) : Status × AsdMsg :=
  let builder := s.alloc
  if builder.1 then
    match getMessageSize m.header with
    | none => (.err, builder.2)
    | some size =>
      let s := { builder.2 with outMsg := ⟨m.header, fun _ => 0⟩ }
      let msgSet := s.alloc
      if msgSet.1 then
        i2cReply (whileN I2cLoop.goesOn i2cCommand size (i2cLoopStart msgSet.2 m size))
      else (.err, msgSet.2)
  else (.err, builder.2)

end BmcAsd
