import Bmc.Lib.Loop
import Bmc.Asd.Common

/-!
# Reading the ASD stream

`asd_msg_read` with its two-phase reader state, over an arbitrary transport (`ReadFunction`) and an
arbitrary message layer (`MsgLayer`).

* `readHeader`, `readBuffer`: one call of the transport in the header and in the payload phase;
* `asdMsgRead`: one call of `asd_msg_read`;
* `MsgLayer.recording`: a layer that keeps the messages handed to it.
-/

namespace BmcAsd

open BmcLib

variable {τ σ : Type*}

/-! ## The transport and the message layer -/

/-- What a call of `read_function` returns: the bytes it put at the destination (their number is
subtracted from `*num_to_read`) and the new `*data_pending`. -/
structure ReadResult (τ : Type*) where
  status : Status
  data : List UInt8
  dataPending : Bool
  conn : τ

/-- `ReadFunctionPtr`, called with `*num_to_read` and `*data_pending`. -/
abbrev ReadFunction (τ : Type*) := τ → ℕ → Bool → ReadResult τ

/-- The functions of the message layer that the reader calls. -/
structure MsgLayer (σ : Type*) where
  onMsgRecv : AsdMessage → σ → Status × σ
  sendErrorMessage : AsdMessage → UInt8 → σ → σ

/-! ## The reader state -/

/-- `ReadState`. -/
inductive ReadState where
  | initial | header | buffer
  deriving DecidableEq, Repr

/-- `struct incoming_msg`. The cells of `msg` are the bytes of the packed `struct asd_message`: the
header from offset `0`, the buffer from offset `4`. -/
structure IncomingMsg where
  readIndex : ℕ
  dataSize : ℕ
  readState : ReadState
  msg : ℕ → UInt8

/-- `in_msg` as `asd_msg_init` leaves it: `data_size` and `msg` are not set. -/
def IncomingMsg.init (dataSize : ℕ) (msg : ℕ → UInt8) : IncomingMsg where
  readIndex := 0
  dataSize := dataSize
  readState := .initial
  msg := msg

/-- The header in the memory of the message. -/
def IncomingMsg.header (m : IncomingMsg) : MessageHeader :=
  MessageHeader.ofBytes (m.msg 0) (m.msg 1) (m.msg 2) (m.msg 3)

/-- `in_msg.msg`. -/
def IncomingMsg.message (m : IncomingMsg) : AsdMessage where
  header := m.header
  buffer := fun i => m.msg (headerSize + i)

/-- The reader with its connection, the caller's `data_pending` and the layer above. -/
structure Reader (τ σ : Type*) where
  inMsg : IncomingMsg
  dataPending : Bool
  conn : τ
  layer : σ

/-! ## `asd_msg_read` -/

/-- The case `READ_STATE_INITIAL`. -/
def IncomingMsg.reset (m : IncomingMsg) : IncomingMsg where
  readIndex := 0
  dataSize := 0
  readState := .header
  msg := fun i => if i < headerSize + maxDataSize then 0 else m.msg i

/-- The transport writes `data` at offset `o` of the message. -/
def IncomingMsg.receive (m : IncomingMsg) (o : ℕ) (data : List UInt8) : IncomingMsg :=
  { m with msg := store m.msg o data }

section AsdMsgRead

variable (rf : ReadFunction τ) (L : MsgLayer σ)

/-- A complete message: back to the initial state and on to `asd_msg_on_msg_recv`. -/
def finishMessage (r : Reader τ σ) : Status × Reader τ σ :=
  let inMsg := { r.inMsg with readState := .initial }
  let (result, layer) := L.onMsgRecv inMsg.message r.layer
  (result, { r with inMsg := inMsg, layer := layer })

/-- The case `READ_STATE_HEADER` up to the fall-through. The destination is
`&(msg->header) + read_index`, so the index counts whole headers. -/
def readHeader (r : Reader τ σ) : Status × Reader τ σ :=
  let numToRead := headerSize - r.inMsg.readIndex
  let res := rf r.conn numToRead r.dataPending
  let inMsg := r.inMsg.receive (headerSize * r.inMsg.readIndex) res.data
  let r := { r with inMsg := inMsg, dataPending := res.dataPending, conn := res.conn }
  if res.status = .ok then
    let numToRead := numToRead - res.data.length
    if numToRead = 0 then
      match getMessageSize inMsg.header with
      | none =>
        let layer := L.sendErrorMessage inMsg.message asdFailureHeaderSize r.layer
        let inMsg := { inMsg with readState := .initial, readIndex := 0 }
        (.err, { r with inMsg := inMsg, layer := layer })
      | some dataSize =>
        if dataSize > 0 then
          let inMsg := { inMsg with readState := .buffer, readIndex := 0, dataSize := dataSize }
          (.ok, { r with inMsg := inMsg })
        else
          finishMessage L r
    else
      (.ok, { r with inMsg := { inMsg with readIndex := headerSize - numToRead } })
  else
    (res.status, r)

/-- The case `READ_STATE_BUFFER`. -/
def readBuffer (r : Reader τ σ) : Status × Reader τ σ :=
  let numToRead := r.inMsg.dataSize - r.inMsg.readIndex
  let res := rf r.conn numToRead r.dataPending
  let inMsg := r.inMsg.receive (headerSize + r.inMsg.readIndex) res.data
  let r := { r with inMsg := inMsg, dataPending := res.dataPending, conn := res.conn }
  if res.status = .ok then
    let numToRead := numToRead - res.data.length
    if numToRead = 0 then
      finishMessage L r
    else
      (.ok, { r with inMsg := { inMsg with readIndex := inMsg.dataSize - numToRead } })
  else
    (res.status, r)

/-- The case `READ_STATE_HEADER`, with its fall-through into the payload. -/
def readHeaderAndBuffer (r : Reader τ σ) : Status × Reader τ σ :=
  let s := readHeader rf L r
  if s.2.inMsg.readState ≠ .buffer ∨ s.2.dataPending = false then s else readBuffer rf L s.2

/-- `asd_msg_read`. -/
def asdMsgRead (r : Reader τ σ) : Status × Reader τ σ :=
  match r.inMsg.readState with
  | .initial => readHeaderAndBuffer rf L { r with inMsg := r.inMsg.reset }
  | .header => readHeaderAndBuffer rf L r
  | .buffer => readBuffer rf L r

end AsdMsgRead

/-! ## Recording what is dispatched -/

/-- The header and the payload of a message, as its receiver sees them. -/
def AsdMessage.content (m : AsdMessage) : MessageHeader × List UInt8 :=
  (m.header, slice m.buffer 0 ((getMessageSize m.header).getD 0))

/-- The layer `L`, which also keeps the list of messages handed to `asd_msg_on_msg_recv`. -/
def MsgLayer.recording (L : MsgLayer σ) : MsgLayer (σ × List (MessageHeader × List UInt8)) where
  onMsgRecv m s := ((L.onMsgRecv m s.1).1, (L.onMsgRecv m s.1).2, s.2 ++ [m.content])
  sendErrorMessage m e s := (L.sendErrorMessage m e s.1, s.2)

end BmcAsd
