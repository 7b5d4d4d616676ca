import Bmc.Lib.Loop
import Bmc.Asd.Msg

/-!
# JTAG messages

`process_jtag_message` and the functions it calls. The loop over the commands of a packet works on
a `JtagLoop`; `broken` says that a `break` has left it.

* `determineShiftEndState`: the look-ahead behind a scan;
* `writeCfg`, `writePins`, `readStatus` and the other command handlers;
* `jtagCommand`: one round of the loop; `processJtagMessage`.
-/

namespace BmcAsd

open BmcLib

/-! ## Commands -/

abbrev writeEventConfigCmd : UInt8 := 0
abbrev writeCfgMin : UInt8 := 1
abbrev writeCfgMax : UInt8 := 6
abbrev jtagFreq : UInt8 := 1
abbrev drPrefix : UInt8 := 2
abbrev drPostfix : UInt8 := 3
abbrev irPrefix : UInt8 := 4
abbrev irPostfix : UInt8 := 5
abbrev prdyTimeoutCmd : UInt8 := 6
abbrev writePinsCmd : UInt8 := 7
abbrev readStatusMin : UInt8 := 8
abbrev readStatusMax : UInt8 := 0x0f
abbrev waitCyclesTckDisable : UInt8 := 0x10
abbrev waitCyclesTckEnable : UInt8 := 0x11
abbrev waitPrdyCmd : UInt8 := 0x12
abbrev clearTimeout : UInt8 := 0x13
abbrev tapResetCmd : UInt8 := 0x14
abbrev waitSyncCmd : UInt8 := 0x19
abbrev tapStateMin : UInt8 := 0x20
abbrev tapStateMax : UInt8 := 0x2f
abbrev writeScanMin : UInt8 := 0x40
abbrev writeScanMax : UInt8 := 0x7f
abbrev readScanMin : UInt8 := 0x80
abbrev readScanMax : UInt8 := 0xbf
abbrev readWriteScanMin : UInt8 := 0xc0

/-- `cmd >= TAP_STATE_MIN && cmd <= TAP_STATE_MAX`. -/
def isTapState (cmd : UInt8) : Bool := tapStateMin ≤ cmd && cmd ≤ tapStateMax

/-- The state in a tap state command. -/
def tapStateOf (cmd : UInt8) : TapState := TapState.ofNibble (cmd &&& 0xf).toNat

/-- `get_scan_length`: the numbers of bits and bytes. -/
def getScanLength (cmd : UInt8) : ℕ × ℕ :=
  let bits := (cmd &&& 0x3f).toNat
  if bits = 0 then (64, 8) else (bits, (bits + 7) / 8)

/-- `ScanType`. -/
inductive ScanType where
  | read | write | readWrite
  deriving DecidableEq, Repr

/-- The command `cmd` continues a scan of the given type. -/
def ScanType.continues (t : ScanType) (cmd : UInt8) : Bool :=
  match t with
  | .read => readScanMin ≤ cmd && cmd ≤ readScanMax
  | .write => writeScanMin ≤ cmd && cmd ≤ writeScanMax
  | .readWrite => readWriteScanMin ≤ cmd

/-! ## The loop over a packet -/

/-- The variables of `process_jtag_message`. -/
structure JtagLoop where
  st : AsdMsg
  packet : PacketData
  responseCnt : ℕ
  status : Status
  broken : Bool

namespace JtagLoop

/-- `status = ST_ERR; break;`. -/
def fail (l : JtagLoop) : JtagLoop := { l with status := .err, broken := true }

/-- Note some accesses. -/
def touch (l : JtagLoop) (as : List Access) : JtagLoop := { l with st := l.st.touch as }

/-- Store a result, and leave the loop unless it is `ST_OK`. -/
def result (l : JtagLoop) (r : Status × AsdMsg) : JtagLoop :=
  { l with st := r.2, status := r.1, broken := r.1 ≠ .ok }

/-- Read `n` bytes of the packet and go on with `k`, or fail on a short packet. -/
def withData (l : JtagLoop) (n : ℕ) (k : List UInt8 → JtagLoop → JtagLoop) : JtagLoop :=
  match getPacketData l.packet n with
  | none => l.fail
  | some (bytes, p) =>
    k bytes { l with packet := p, st := l.st.touch [.packet l.packet.used n l.packet.total] }

/-- Run a function of the JTAG handler. -/
def jtag (l : JtagLoop) (r : Status × JtagHandler) : JtagLoop :=
  l.result (r.1, { l.st with jtagHandler := r.2 })

/-- Run a function of the target handler. -/
def target (l : JtagLoop) (r : Status × TargetHandle) : JtagLoop :=
  l.result (r.1, { l.st with targetHandler := r.2 })

end JtagLoop

/-! ## `determine_shift_end_state` -/

/-- The look-ahead for the second command: its byte, and how far it is ahead. -/
structure LookAhead where
  packet : PacketData
  cmd2 : Option UInt8
  counter : ℕ
  accesses : List Access

/-- `next_cmd2_ptr = get_packet_data(packet, n); next_cmd2_counter += n;`. -/
def LookAhead.advance (l : LookAhead) (n : ℕ) : LookAhead :=
  match getPacketData l.packet n with
  | none => { l with cmd2 := none, counter := l.counter + n }
  | some (bytes, p) =>
    { packet := p, cmd2 := bytes.head?, counter := l.counter + n,
      accesses := l.accesses ++ [.packet l.packet.used n l.packet.total] }

/-- How far the look-ahead moves over the command `cmd`; zero where it stops. -/
def lookSkip (cmd : UInt8) : ℕ :=
  if isTapState cmd then 0
  else if cmd = writeEventConfigCmd ∨ cmd = drPrefix ∨ cmd = drPostfix ∨
      cmd = waitCyclesTckDisable ∨ cmd = waitCyclesTckEnable ∨ cmd = jtagFreq then 1
  else if cmd = irPrefix ∨ cmd = irPostfix then 2
  else 0

/-- The look-ahead goes on to another command. -/
def LookAhead.goesOn (l : LookAhead) : Bool :=
  l.packet.used < l.packet.total && l.cmd2.elim 0 lookSkip ≠ 0

/-- The look-ahead before it has read anything. -/
def LookAhead.start (p : PacketData) : LookAhead :=
  { packet := p, cmd2 := none, counter := 0, accesses := [] }

/-- The loop that looks for the next tap state in hardware mode. -/
def lookAhead (p : PacketData) : LookAhead :=
  whileN LookAhead.goesOn (fun l => l.advance (l.cmd2.elim 0 lookSkip)) p.total
    ((LookAhead.start p).advance 1)

/-- The end state, given the tap state command `cmd` and the command found behind it. -/
def lookEndState (cmd : UInt8) (cmd2 : Option UInt8) : TapState :=
  match cmd2 with
  | none => tapStateOf cmd
  | some c =>
    if isTapState c && (tapStateOf c = .pauDr || tapStateOf c = .pauIr || tapStateOf c = .rti) then
      tapStateOf c
    else tapStateOf cmd

/-- `determine_shift_end_state`: the status, `*end_state`, the packet and the accesses. -/
def determineShiftEndState (s : AsdMsg) (scanType : ScanType) (packet : PacketData) :
    Status × TapState × PacketData × List Access :=
  let endState := s.jtagHandler.active.tapState
  match getPacketData packet 1 with
  | none => (.ok, endState, packet, [])
  | some (bytes, p) =>
    let as := [Access.packet packet.used 1 packet.total]
    let cmd := bytes.headD 0
    if isTapState cmd then
      let look := if s.jtagMode = .hardware then lookAhead p else LookAhead.start p
      let p := look.packet.unget 1
      let p := if look.cmd2.isSome then p.unget look.counter else p
      (.ok, lookEndState cmd look.cmd2, p, as ++ look.accesses)
    else (if scanType.continues cmd then .ok else .err, endState, p.unget 1, as)

/-! ## Command handlers -/

/-- `write_event_config`. -/
def writeEventConfig (s : AsdMsg) (dataByte : UInt8) : Status × AsdMsg :=
  match WriteConfig.ofNat? (dataByte &&& 0x7f).toNat with
  | some eventCfg =>
    let r := targetWriteEventConfig s.targetHandler eventCfg (dataByte >>> 7 == 1)
    (r.1, { s with targetHandler := r.2 })
  | none => (.ok, s)

/-- `tCLK` in `write_cfg`, an 8-bit product. -/
def tclk (data : UInt8) : UInt8 :=
  let prescaleVal : UInt8 :=
    match data >>> 5 with
    | 0 => 1
    | 1 => 2
    | 2 => 4
    | 3 => 8
    | _ => 1
  let divisorVal : UInt8 := if data &&& 0x1f = 0 then 64 else data &&& 0x1f
  prescaleVal * divisorVal

/-- A two-byte operand, lowest byte first. -/
def operand16 (bytes : List UInt8) : ℕ := (bytes.getD 1 0).toNat * 256 + (bytes.getD 0 0).toNat

/-- A padding command of `write_cfg` with an operand of `n` bytes. -/
def paddingCfg (l : JtagLoop) (n : ℕ) (padding : PaddingType) : JtagLoop :=
  l.withData n fun bytes l =>
    l.jtag (jtagSetPadding l.st.jtagHandler padding
      (if n = 2 then operand16 bytes else (bytes.headD 0).toNat))

/-- `write_cfg`. -/
def writeCfg (l : JtagLoop) (cmd : UInt8) : JtagLoop :=
  if cmd = jtagFreq then
    l.withData 1 fun bytes l =>
      let tck := (tclk (bytes.headD 0)).toNat
      let l := l.touch [.division tck]
      l.jtag (jtagSetJtagTck l.st.jtagHandler tck)
  else if cmd = drPrefix then paddingCfg l 1 .drPost
  else if cmd = drPostfix then paddingCfg l 1 .drPre
  else if cmd = irPrefix then paddingCfg l 2 .irPost
  else if cmd = irPostfix then paddingCfg l 2 .irPre
  else if cmd = prdyTimeoutCmd then
    l.withData 1 fun bytes l => l.result (.ok, { l.st with prdyTimeout := bytes.headD 0 })
  else l.fail

/-- One round of the loop in `skipWaitCycles`; the flag says that no `break` has left it. -/
def skipWaitCyclesStep (s : Bool × JtagLoop) : Bool × JtagLoop :=
  match getPacketData s.2.packet 2 with
  | none => (false, s.2.fail)
  | some (bytes, p) =>
    let st := s.2.st.touch [.packet s.2.packet.used 2 s.2.packet.total]
    if bytes.headD 0 = waitCyclesTckDisable then (true, { s.2 with packet := p, st := st })
    else (false, { s.2 with packet := p.unget 2, st := st })

/-- The condition of the loop in `skipWaitCycles`. -/
def skipWaitCyclesGoesOn (s : Bool × JtagLoop) : Bool :=
  s.1 && s.2.packet.used < s.2.packet.total

/-- The loop that skips `WAIT_CYCLES_TCK_DISABLE` commands after the reset button was asserted. -/
def skipWaitCycles (l : JtagLoop) : JtagLoop :=
  (whileN skipWaitCyclesGoesOn skipWaitCyclesStep l.packet.total (true, l)).2

/-- `asd_write_set_active_chain_event`. -/
def asdWriteSetActiveChainEvent (s : AsdMsg) (scanChain : ℕ) : Status × AsdMsg :=
  let s := s.touch [.scanChain scanChain]
  let r := targetWrite s.targetHandler .tckMuxSelect (scanChain = 1)
  let s := { s with targetHandler := r.2 }
  if r.1 = .ok then
    let r := jtagSetActiveChain s.jtagHandler scanChain
    (r.1, { s with jtagHandler := r.2 })
  else (r.1, s)

/-- The loop that reads `chain_bytes`, from index `i` on with `n` bytes to go. A short packet leaves
this loop only. -/
def readChainBytes (l : JtagLoop) (i : ℕ) : ℕ → JtagLoop
  | 0 => l
  | n + 1 =>
    match getPacketData l.packet 1 with
    | none => { l with status := .err }
    | some (_, p) =>
      readChainBytes
        { l with
          packet := p
          st := l.st.touch [.packet l.packet.used 1 l.packet.total, .chainByte i] } (i + 1) n

/-- The accesses of the loop that prints `n` chain bytes from position `pos` of the text on. -/
def chainTextAccesses (pos : ℕ) : ℕ → List Access
  | 0 => []
  | i + 1 =>
    let space := i % 2 = 0 ∧ i ≠ 0
    [.chainByte i, .chainText pos 3, .division 2] ++ (if space then [.chainText (pos + 2) 2] else []) ++
      chainTextAccesses (pos + 2 + if space then 1 else 0) i

/-- The chain selection in `WRITE_PINS`, with `selected = index & SCAN_CHAIN_SELECT_MASK`. -/
def selectChain (l : JtagLoop) (selected : ℕ) : JtagLoop :=
  match l.st.jtagChainMode with
  | .single =>
    if selected ≥ maxScanChains then l.fail
    else l.result (asdWriteSetActiveChainEvent l.st selected)
  | .multi =>
    let chainBytesLength := selected + 1
    let l := readChainBytes l 0 chainBytesLength
    l.touch (chainTextAccesses 0 chainBytesLength)

/-- `WRITE_PINS`. -/
def writePins (l : JtagLoop) (data : UInt8) : JtagLoop :=
  let assert : Bool := data >>> 7 == 1
  let index := data &&& 0x7f
  match Pin.ofNat? index.toNat with
  | some pin =>
    let l := l.target (targetWrite l.st.targetHandler pin assert)
    if l.broken then l
    else if pin = .resetButton ∧ assert = true then skipWaitCycles l
    else l
  | none => if index &&& 0x40 = 0x40 then selectChain l (index &&& 0xf).toNat else l.fail

/-- `read_status` at the end of the response. -/
def readStatus (l : JtagLoop) (index pin : UInt8) : JtagLoop :=
  let r := targetRead l.st.targetHandler pin.toNat
  let s := { l.st with targetHandler := r.2.2 }
  if r.1 = .ok then
    let l := { l with responseCnt := l.responseCnt + 2 }
    l.result (.ok, s.respond (l.responseCnt - 2)
      [readStatusMin + index, if r.2.1 then pin ||| 0x80 else pin])
  else l.result (r.1, s)

/-- The shift of a scan command; what was read is appended to the response. -/
def scanTransfer (l : JtagLoop) (scanType : ScanType) (cmd : UInt8) (input : Option (List UInt8))
    (endState : TapState) : JtagLoop :=
  let n := getScanLength cmd
  let s := jtagShift l.st.jtagHandler n.1 (input.map (block 0))
    (if scanType = .write then none else some n.2) endState
  let st := { l.st with jtagHandler := s.handler }.touch [.division 8]
  let st := (s.output.map fun tdo => st.respond l.responseCnt tdo).getD st
  let l := l.result (s.status, st)
  if l.broken ∨ scanType = .write then l else { l with responseCnt := l.responseCnt + n.2 }

/-- A shift command after its operands: look for the end state, then shift. -/
def scanShift (l : JtagLoop) (scanType : ScanType) (cmd : UInt8) (input : Option (List UInt8)) :
    JtagLoop :=
  let r := determineShiftEndState l.st scanType l.packet
  let l := { l with packet := r.2.2.1 }.result (r.1, l.st.touch r.2.2.2)
  if l.broken then l else scanTransfer l scanType cmd input r.2.1

/-- The check for room, and the command byte, of the commands that read a scan. -/
def beginRead (l : JtagLoop) (cmd : UInt8) (k : JtagLoop → JtagLoop) : JtagLoop :=
  if l.responseCnt + 1 + (getScanLength cmd).2 > maxDataSize then l.fail
  else k { l with st := l.st.respond l.responseCnt [cmd], responseCnt := l.responseCnt + 1 }

/-- The dispatch on the command byte. -/
def jtagDispatch (l : JtagLoop) (cmd : UInt8) : JtagLoop :=
  if cmd = writeEventConfigCmd then
    l.withData 1 fun bytes l => l.result (writeEventConfig l.st (bytes.headD 0))
  else if writeCfgMin ≤ cmd ∧ cmd ≤ writeCfgMax then writeCfg l cmd
  else if cmd = writePinsCmd then l.withData 1 fun bytes l => writePins l (bytes.headD 0)
  else if readStatusMin ≤ cmd ∧ cmd ≤ readStatusMax then
    l.withData 1 fun bytes l =>
      if l.responseCnt + 2 > maxDataSize then l.fail
      else readStatus l (cmd &&& 0x7) (bytes.headD 0 &&& 0x7f)
  else if cmd = waitCyclesTckDisable ∨ cmd = waitCyclesTckEnable then
    l.withData 1 fun bytes l =>
      let numberOfCycles := if bytes.headD 0 = 0 then 256 else (bytes.headD 0).toNat
      l.jtag (jtagWaitCycles l.st.jtagHandler numberOfCycles)
  else if cmd = waitPrdyCmd then
    let l := l.touch [.division jtagClockCycleMilliseconds]
    l.target (targetWaitPRDY l.st.targetHandler l.st.prdyTimeout)
  else if cmd = clearTimeout then l
  else if cmd = tapResetCmd then l.jtag (jtagTapReset l.st.jtagHandler)
  else if cmd = waitSyncCmd then
    l.withData 4 fun bytes l =>
      let status := targetWaitSync l.st.targetHandler (operand16 bytes) (operand16 (bytes.drop 2))
      l.result (if status = .timeout then .ok else status, l.st)
  else if tapStateMin ≤ cmd ∧ cmd ≤ tapStateMax then
    l.jtag (jtagSetTapState l.st.jtagHandler (tapStateOf cmd))
  else if writeScanMin ≤ cmd ∧ cmd ≤ writeScanMax then
    l.withData (getScanLength cmd).2 fun bytes l => scanShift l .write cmd (some bytes)
  else if readScanMin ≤ cmd ∧ cmd ≤ readScanMax then
    beginRead l cmd fun l => scanShift l .read cmd none
  else if readWriteScanMin ≤ cmd then
    beginRead l cmd fun l =>
      l.withData (getScanLength cmd).2 fun bytes l => scanShift l .readWrite cmd (some bytes)
  else l.fail

/-- One round of the loop. -/
def jtagCommand (l : JtagLoop) : JtagLoop :=
  l.withData 1 fun bytes l => jtagDispatch l (bytes.headD 0)

/-- The loop condition. -/
def JtagLoop.goesOn (l : JtagLoop) : Bool := !l.broken && l.packet.used < l.packet.total

/-- The variables before the loop. -/
def jtagLoopStart (s : AsdMsg) (m : AsdMessage) (size : ℕ) : JtagLoop where
  st := s.clearOutMsg
  packet := { buffer := m.buffer, used := 0, total := size }
  responseCnt := 0
  status := .ok
  broken := false

/-- The response after the loop. -/
def jtagReply (l : JtagLoop) (m : AsdMessage) : Status × AsdMsg :=
  if l.status = .ok then
    let s := l.st.setOutHeader { m.header.withSize l.responseCnt with cmdStat := asdSuccess }
    sendResponse s s.outMsg
  else (l.status, l.st)

/-- `process_jtag_message`. -/
def processJtagMessage (s : AsdMsg) (m : AsdMessage) : Status × AsdMsg :=
  match getMessageSize m.header with
  | none => (.err, s)
  | some size =>
    jtagReply (whileN JtagLoop.goesOn jtagCommand size (jtagLoopStart s m size)) m

end BmcAsd
