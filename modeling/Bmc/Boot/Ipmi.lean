import Bmc.Boot.Yafu

/-!
# Commands of the recovery mode

The other handlers of `cmdhandler.c`, the table of the commands, and what `ProcessKCSRequests` of `fwupdate.c` does with a packet.

* `amiDualImageSupport`: the selectors of the images; `getDevID` and the commands of a session;
* `IPMICommand.find`: the table; `processIPMICmd`: a command is found and handled;
* `processKCSRequest`: a packet is copied, its command processed, and the response copied.
-/

namespace BmcBoot

open BmcLib

section Handlers

variable (c : YafuConfig) (x : YafuInputs) (s : YafuState) (req : ℕ → UInt8)

/-! ## The selectors of the images -/

/-- `m_DualResBits` -/
def dualResBits : List ℕ := [2, 1, 2, 1, 2, 1, 1, 2]

/-- `CheckForBootOption` -/
def checkForBootOption (bootoption : UInt8) : Bool := bootoption ≤ 5

/-- `IsfwuploadSelectorValid` -/
def isfwuploadSelectorValid (uploadselector : UInt8) : Bool := uploadselector ≤ 3

/-- A completion code alone. -/
def codeOnly (code : UInt8) : Handling := ⟨s, [], [(0, [code])], 1, false⟩

/-- A completion code, and an option. -/
def optionReply (option : UInt8) : Handling := ⟨s, [], [(1, [option]), (0, [0])], 2, true⟩

/-- The `switch` of `AMIDualImageSupport`. Some cases return a code where a length is expected. -/
def dualImageParameter (parameter : UInt8) : Handling :=
  if parameter = 1 then
    Handling.after [.request 1 1]
      (if checkForBootOption (req 1) then
        optionReply (s.envSet (textBytes "bootselector") [0x30 + req 1]) (req 1)
      else codeOnly s ccInvDataField)
  else if parameter = 2 then
    match s.envGet (textBytes "bootselector") with
    | none => ⟨s, [], [], ccUnspecifiedErr.toNat, false⟩
    | some value =>
      if checkForBootOption (UInt8.ofNat (x.strtoul value)) then optionReply s (UInt8.ofNat (x.strtoul value))
      else ⟨s, [], [], ccUnspecifiedErr.toNat, false⟩
  else if parameter = 3 then
    Handling.after [.request 1 1]
      (if isfwuploadSelectorValid (req 1) then optionReply { s with fwUploadSelector := req 1 } (req 1)
      else codeOnly s yafuCCInvalidData)
  else if parameter = 4 then
    if isfwuploadSelectorValid s.fwUploadSelector then optionReply s s.fwUploadSelector else codeOnly s yafuCCInvalidData
  else if parameter = 7 then
    optionReply s (if c.brokenSpiBanks = 1 then 0x6 else if c.brokenSpiBanks = 2 then 0x9 else image1)
  else ⟨s, [], [], ccInvCmd.toNat, false⟩

/-- `AMIDualImageSupport`. The length of the request is passed as a byte. -/
def amiDualImageSupport (reqLen : ℕ) : Handling :=
  Handling.after [.request 0 1, .table ((req 0).toNat - 1) dualResBits.length]
    (if reqLen % 256 ≠ dualResBits.getD ((req 0).toNat - 1) 0 then codeOnly s ccReqInvLen
    else if !c.dualImage then codeOnly s ccInvCmd
    else dualImageParameter c x s req (req 0))

/-! ## The commands of a session -/

/-- `GetDevID` -/
def getDevID : Handling :=
  match x.moduleVersion with
  | none => ⟨s, [.null], [], 0, false⟩
  | some (major, minor) =>
    ⟨s, [], [(0, [0, 0x20, 0x01, major, minor, 0x02, 0xBF, 0, 0, 0, 0xBB, 0xAA, 0, 0, 0, 0])], 16, true⟩

/-- A level of privilege that there is. -/
def isPrivLevel (level : UInt8) : Bool := level &&& 0x0F ≠ 0 ∧ level &&& 0x0F ≤ 5

/-- `GetChAuthCaps`. The reserved bytes and those of the manufacturer are not written. -/
def getChAuthCaps : Handling :=
  let channel := if req 0 &&& 0x0F = 0x0E then 1 else req 0 &&& 0x0F
  if isPrivLevel (req 1) then ⟨s, [.request 0 2], [(0, [0, channel]), (2, [0x01, 0x19])], 9, true⟩
  else ⟨s, [.request 0 2], [(0, [0, channel]), (0, [ccInvDataField])], 1, false⟩

/-- `GetSessionChallenge` -/
def getSessionChallenge : Handling :=
  ⟨s, [], [(0, 0 :: leBytes 4 0x12345678 ++ [1, 2, 3, 4, 5, 6, 7, 8, 9, 0, 1, 2, 3, 4, 5, 6])], 21, true⟩

/-- `ActivateSession` -/
def activateSession : Handling :=
  Handling.after [.request 1 1]
    (if isPrivLevel (req 1) then
      ⟨{ s with sessionID := 0x12345678, sessionSeqNum := 0 }, [],
        [(0, [0, 0] ++ leBytes 4 0x12345678 ++ leBytes 4 0 ++ [0x04])], 11, true⟩
    else codeOnly s ccInvDataField)

/-- `SetSessionPrivLevel` -/
def setSessionPrivLevel : Handling := ⟨s, [.request 0 1], [(0, [0, req 0 &&& 0x0F])], 2, true⟩

/-- `CloseSession` -/
def closeSession : Handling :=
  Handling.after [.request 0 4]
    (if s.sessionID = field32 req 0 then { codeOnly { s with sessionID := 0, sessionSeqNum := 0 } 0 with done := true }
    else codeOnly s 0x87)

end Handlers

/-! ## The table -/

/-- The commands of `m_CmdInfo`. -/
inductive IPMICommand
  | getDevID
  | getChAuthCaps
  | getSessionChallenge
  | activateSession
  | setSessionPrivLevel
  | closeSession
  | yafu (command : YafuCommand)
  | dualImageSupport
  deriving DecidableEq, Repr

namespace IPMICommand

/-- `NETFN_APP` and `NETFN_OEM_AMI` -/
abbrev netfnApp : UInt8 := 0x06
abbrev netfnOemAmi : UInt8 := 0x32

/-- The entry of `m_CmdInfo` for a function and a command. -/
def find (netFn cmd : UInt8) : Option IPMICommand :=
  if netFn = netfnApp then
    if cmd = 0x01 then some getDevID
    else if cmd = 0x38 then some getChAuthCaps
    else if cmd = 0x39 then some getSessionChallenge
    else if cmd = 0x3A then some activateSession
    else if cmd = 0x3B then some setSessionPrivLevel
    else if cmd = 0x3C then some closeSession
    else none
  else if netFn = netfnOemAmi then
    if cmd = 0x01 then some (yafu .getFlashInfo)
    else if cmd = 0x03 then some (yafu .getFMHInfo)
    else if cmd = 0x04 then some (yafu .getStatus)
    else if cmd = 0x10 then some (yafu .activateFlash)
    else if cmd = 0x25 then some (yafu .protectFlash)
    else if cmd = 0x26 then some (yafu .eraseCopyFlash)
    else if cmd = 0x31 then some (yafu .writeMemory)
    else if cmd = 0x40 then some (yafu .getBootConfig)
    else if cmd = 0x41 then some (yafu .setBootConfig)
    else if cmd = 0x42 then some (yafu .getBootVars)
    else if cmd = 0x50 then some (yafu .deactivateFlashMode)
    else if cmd = 0x51 then some (yafu .resetDevice)
    else if cmd = 0x54 then some (yafu .dualImageSup)
    else if cmd = 0x8F then some dualImageSupport
    else if cmd = 0x6E then some (yafu .getRecoverySPIDetails)
    else none
  else none

/-- `Len` of an entry, when it is not `0xff`. -/
def len : IPMICommand → Option ℕ
  | getDevID => some 0
  | getChAuthCaps => some 2
  | getSessionChallenge => some 17
  | activateSession => some 22
  | setSessionPrivLevel => some 1
  | closeSession => some 4
  | yafu command => command.len
  | dualImageSupport => none

/-- `pHandler` of an entry. -/
def handle (c : YafuConfig) (x : YafuInputs) (s : YafuState) (req : ℕ → UInt8) (reqLen : ℕ) (res : ℕ → UInt8) :
    IPMICommand → Handling
  | getDevID => BmcBoot.getDevID x s
  | getChAuthCaps => BmcBoot.getChAuthCaps s req
  | getSessionChallenge => BmcBoot.getSessionChallenge s
  | activateSession => BmcBoot.activateSession s req
  | setSessionPrivLevel => BmcBoot.setSessionPrivLevel s req
  | closeSession => BmcBoot.closeSession s req
  | yafu command => command.handle c x s req res
  | dualImageSupport => amiDualImageSupport c x s req reqLen

end IPMICommand

/-- `ProcessIPMICmd`, when the entry has been found. -/
def processCommand (c : YafuConfig) (x : YafuInputs) (s : YafuState) (req : ℕ → UInt8) (reqLen : ℕ) (res : ℕ → UInt8)
    (command : IPMICommand) : Handling :=
  if command.len.all (· = reqLen) then command.handle c x s req reqLen res else codeOnly s ccReqInvLen

/-- `ProcessIPMICmd` -/
def processIPMICmd (c : YafuConfig) (x : YafuInputs) (s : YafuState) (netFnLUN cmd : UInt8) (req : ℕ → UInt8) (reqLen : ℕ)
    (res : ℕ → UInt8) : Handling :=
  match IPMICommand.find (netFnLUN >>> 2) cmd with
  | none => codeOnly s ccInvCmd
  | some command => processCommand c x s req reqLen res command

/-! ## Packets -/

/-- The buffers of the packets and of the commands, which are used again. -/
structure KCSBuffers where
  kcsCmd : ℕ → UInt8
  reqData : ℕ → UInt8
  resData : ℕ → UInt8

/-- `ReqLen`: the length of the packet less two. -/
def requestLength (packet : List UInt8) : ℕ := sizeT packet.length 2

/-- What `ProcessKCSRequests` lets `ProcessIPMICmd` do with a packet. -/
def processKCSRequest (c : YafuConfig) (x : YafuInputs) (s : YafuState) (b : KCSBuffers) (packet : List UInt8) : Handling :=
  let kcsCmd := store b.kcsCmd 0 packet
  processIPMICmd c x s (kcsCmd 0) (kcsCmd 1) (store b.reqData 0 (slice kcsCmd 2 (requestLength packet))) (requestLength packet)
    b.resData

end BmcBoot
