import Mathlib.Data.List.Basic
import Mathlib.Logic.Function.Basic

/-!
# The KCS channel of the boot loader

`kcsifc.c` of the boot loader: the host writes commands and data bytes, and each poll of the status register takes one of
them.

* `KCSBuf`: the variables of a channel;
* `onKCSRcvByte`, `recvKCSRequest`, `sendKCSResponse`: the functions of the source, with what they touch and send;
* `kcsPoll`: one round of `ProcessKCSRequests`.
-/

namespace BmcBoot

def maxKCSPktLen : ℕ := 64 * 1024

/-! ## Codes -/

def kcsIdleState : UInt8 := 0x00
def kcsReadState : UInt8 := 0x40
def kcsWriteState : UInt8 := 0x80
def kcsErrorState : UInt8 := 0xC0

/-- `KCS_GET_STATUS`, too. -/
def kcsAbort : UInt8 := 0x60
def kcsWriteStart : UInt8 := 0x61
def kcsWriteEnd : UInt8 := 0x62
def kcsRead : UInt8 := 0x68

def kcsNoError : UInt8 := 0x00
def kcsAbortedByCommand : UInt8 := 0x01
def kcsIllegalControlCode : UInt8 := 0x02

/-- `KCS_PHASE_*` -/
inductive KCSPhase
  | idle
  | write
  | writeEnd
  | read
  | abort
  | error
  deriving DecidableEq, Repr

/-- `ABORT_PHASE_*` -/
inductive AbortPhase
  | none
  | error1
  | error2
  deriving DecidableEq, Repr

/-! ## The channel -/

/-- `KCSBuf_T` -/
structure KCSBuf where
  rcvPktIx : ℕ
  sendPktIx : ℕ
  sendPktLen : ℕ
  rcvPkt : ℕ → UInt8
  sendPkt : ℕ → UInt8
  phase : KCSPhase
  abortPhase : AbortPhase
  error : UInt8
  rcvPktReady : Bool

/-- `INIT_KCS_BUFFER` -/
def KCSBuf.init : KCSBuf := ⟨0, 0, 0, fun _ => 0, fun _ => 0, .idle, .none, kcsNoError, false⟩

/-- A byte that the host writes: to the command register or to the data register. -/
inductive HostWrite
  | command (c : UInt8)
  | data (b : UInt8)
  deriving DecidableEq, Repr

/-- The indices at which the two packets are accessed, the state that is set last and the byte that is put out last. -/
structure KCSEffect where
  accesses : List ℕ
  state : Option UInt8
  out : Option UInt8
  deriving DecidableEq, Repr

def KCSEffect.none : KCSEffect := ⟨[], .none, .none⟩

/-- One after the other. -/
def KCSEffect.andThen (e₁ e₂ : KCSEffect) : KCSEffect :=
  ⟨e₁.accesses ++ e₂.accesses, e₂.state <|> e₁.state, e₂.out <|> e₁.out⟩

/-- A write to the command register. -/
def KCSBuf.onCommand (k : KCSBuf) (cmd : UInt8) : KCSBuf × KCSEffect :=
  if cmd = kcsWriteStart then ({ k with rcvPktIx := 0, phase := .write }, ⟨[], some kcsWriteState, none⟩)
  else if cmd = kcsWriteEnd then ({ k with phase := .writeEnd }, ⟨[], some kcsWriteState, none⟩)
  else if cmd = kcsAbort then
    ({ k with
        error := if k.error = kcsNoError then kcsAbortedByCommand else k.error
        phase := .abort
        abortPhase := .error1 },
      ⟨[], some kcsWriteState, some 0⟩)
  else ({ k with error := kcsIllegalControlCode, phase := .error }, ⟨[], some kcsErrorState, none⟩)

/-- A write to the data register. -/
def KCSBuf.onData (k : KCSBuf) (b : UInt8) : KCSBuf × KCSEffect :=
  match k.phase with
  | .write =>
    -- the byte is stored before the index is looked at
    ({ k with
        rcvPkt := Function.update k.rcvPkt k.rcvPktIx b
        rcvPktIx := if k.rcvPktIx < maxKCSPktLen then k.rcvPktIx + 1 else k.rcvPktIx },
      ⟨[k.rcvPktIx], some kcsWriteState, none⟩)
  | .writeEnd =>
    ({ k with
        rcvPkt := Function.update k.rcvPkt k.rcvPktIx b
        rcvPktIx := k.rcvPktIx + 1
        phase := .read
        rcvPktReady := true },
      ⟨[k.rcvPktIx], some kcsReadState, none⟩)
  | .read =>
    if b ≠ kcsRead then (k, ⟨[], some kcsErrorState, some 0⟩)
    else if k.sendPktIx = k.sendPktLen then ({ k with phase := .idle }, ⟨[], some kcsIdleState, some 0⟩)
    else ({ k with sendPktIx := k.sendPktIx + 1 }, ⟨[k.sendPktIx], none, some (k.sendPkt k.sendPktIx)⟩)
  | .abort =>
    match k.abortPhase with
    | .error1 => ({ k with abortPhase := .error2 }, ⟨[], some kcsReadState, some k.error⟩)
    | .error2 => ({ k with phase := .idle, abortPhase := .none }, ⟨[], some kcsIdleState, some 0⟩)
    | .none => (k, .none)
  | .idle | .error => (k, .none)

/-- `OnKCSRcvByte`, when the input buffer is full. -/
def KCSBuf.onKCSRcvByte (k : KCSBuf) : HostWrite → KCSBuf × KCSEffect
  | .command c => k.onCommand c
  | .data b => k.onData b

/-- The bytes before an index. -/
def firstBytes (pkt : ℕ → UInt8) (n : ℕ) : List UInt8 := (List.range n).map pkt

/-- `RecvKCSRequest`: the packet, when one is ready. -/
def KCSBuf.recvKCSRequest (k : KCSBuf) (w : Option HostWrite) : KCSBuf × KCSEffect × Option (List UInt8) :=
  let r := w.elim (k, .none) k.onKCSRcvByte
  if r.1.rcvPktReady then
    ({ r.1 with rcvPktReady := false }, r.2.andThen ⟨List.range r.1.rcvPktIx, none, none⟩,
      some (firstBytes r.1.rcvPkt r.1.rcvPktIx))
  else (r.1, r.2, none)

/-- `SendKCSResponse` -/
def KCSBuf.sendKCSResponse (k : KCSBuf) (pkt : List UInt8) : KCSBuf × KCSEffect :=
  let sendPkt := fun i => if h : i < pkt.length then pkt[i] else k.sendPkt i
  ({ k with sendPktIx := 1, sendPktLen := pkt.length, sendPkt := sendPkt },
    ⟨List.range pkt.length ++ [0], none, some (sendPkt 0)⟩)

/-- A response of `ProcessKCSRequests`: the network function, the command and what the command has answered. -/
structure Response where
  netFnLUN : UInt8
  cmd : UInt8
  data : List UInt8
  fits : data.length + 2 ≤ maxKCSPktLen

/-- The packet that is sent. -/
def Response.bytes (r : Response) : List UInt8 := r.netFnLUN :: r.cmd :: r.data

/-- What a poll finds, and the response to the packet, should there be one. -/
structure KCSEvent where
  write : Option HostWrite
  response : Response

/-- What a poll does. -/
structure KCSPoll where
  buf : KCSBuf
  effect : KCSEffect
  packet : Option (List UInt8)

/-- One round of `ProcessKCSRequests` on the channel. -/
def kcsPoll (k : KCSBuf) (e : KCSEvent) : KCSPoll :=
  let r := k.recvKCSRequest e.write
  match r.2.2 with
  | none => ⟨r.1, r.2.1, none⟩
  | some pkt =>
    let s := r.1.sendKCSResponse e.response.bytes
    ⟨s.1, r.2.1.andThen s.2, some pkt⟩

end BmcBoot
