import Bmc.Helper.Fmh

/-!
# The update commands of the recovery mode

The handlers of `cmdhandler.c` in `011-bmc_auto_recovery_feature.patch`. A handler gets the buffer of the request and the buffer
of the response, which are used again for each command, and returns how many bytes of the response are sent.

* `Access`, `Handling`: what a handler reads and writes, and what it returns;
* `yafuNotAck`, `yafuAnswer`: the two forms of a response;
* `amiYafuGetFlashInfo` and the other handlers; `YafuCommand.handle`: the handler of a command.
-/

namespace BmcBoot

open BmcLib BmcHelper

/-! ## The state and the environment -/

/-- The codes of a text. -/
def textBytes (s : String) : List UInt8 := s.toList.map fun ch => UInt8.ofNat ch.toNat

/-- The bytes up to the first zero, from this offset to the end of a buffer of 64 KiB. -/
def cString (m : ℕ → UInt8) (o : ℕ) : List UInt8 := (slice m o (65536 - o)).takeWhile (· ≠ 0)

/-- The sector size, the sectors of an image, the sizes of the upload area and of the temporary sector buffer, whether there are
two images, and the banks that are broken. -/
structure YafuConfig where
  eraseBlockSize : ℕ
  blocks : ℕ
  flashStart : ℕ
  uploadSize : ℕ
  tempSize : ℕ
  dualImage : Bool
  brokenSpiBanks : UInt8
  block_pos : 0 < eraseBlockSize
  blocks_lt : blocks < 65536
  size_lt : blocks * eraseBlockSize < 2 ^ 32

/-- `CONFIG_SPX_FEATURE_GLOBAL_USED_FLASH_SIZE` -/
def YafuConfig.usedFlashSize (c : YafuConfig) : ℕ := c.blocks * c.eraseBlockSize

/-- The global variables of the commands, the environment, the upload area and the temporary sector buffer. The next byte of the
upload is an offset into the upload area, when there is one. -/
structure YafuState where
  activateFlashStatus : Bool
  lastStatCode : UInt16
  newFirmwareAddr : Option ℕ
  eraseBlock : UInt32
  sizeToErase : UInt32
  startFirmwareUpdation : Bool
  reset : Bool
  fwUploadSelector : UInt8
  sessionID : UInt32
  sessionSeqNum : UInt32
  env : List (List UInt8 × List UInt8)
  upload : ℕ → UInt8
  temp : ℕ → UInt8

/-- `env_get` -/
def YafuState.envGet (s : YafuState) (name : List UInt8) : Option (List UInt8) := s.env.lookup name

/-- `env_set`: an empty value removes the variable. -/
def YafuState.envSet (s : YafuState) (name value : List UInt8) : YafuState :=
  let others := s.env.filter fun v => v.1 ≠ name
  { s with env := if value = [] then others else (name, value) :: others }

/-- What the handlers use that is not theirs: the checksum and the numbers of texts, the flash and what reading it reports, whether
an allocation succeeds, the command `protect`, what setting a variable and saving the environment report, the bytes that
`Getenvvar` reads as the environment, and the version of the module in the last sector. -/
structure YafuInputs where
  crc : List UInt8 → UInt32
  strtoul : List UInt8 → ℕ
  flash : ℕ → UInt8
  readOk : ℕ → ℕ → Bool
  alloc : ℕ → Bool
  protectOff : Bool
  envSets : Bool
  envSaves : Bool
  envBlock : List UInt8
  moduleVersion : Option (UInt8 × UInt8)

/-! ## What a handler does -/

/-- A handler reads a part of the request, clears a part of it, writes to the upload area, to the beginning of the temporary
sector buffer, or to its own memory of a certain size, looks up an entry of a table of a certain length, or uses a pointer that is
`NULL`. -/
inductive Access
  | request (start size : ℕ)
  | clear (start size : ℕ)
  | upload (start size : ℕ)
  | temp (size : ℕ)
  | heap (size limit : ℕ)
  | table (index : ℤ) (length : ℕ)
  | null
  deriving DecidableEq, Repr

/-- The state that a handler leaves, its accesses, the fields of the response that it writes, one after the other, with their
offsets, what it returns, and whether it has done what the command asks for. -/
structure Handling where
  state : YafuState
  accesses : List Access
  writes : List (ℕ × List UInt8)
  length : ℕ
  done : Bool

/-- The handling, with accesses before it. -/
def Handling.after (accesses : List Access) (h : Handling) : Handling := { h with accesses := accesses ++ h.accesses }

/-- The handling, with fields of the response that are written before it. -/
def Handling.above (writes : List (ℕ × List UInt8)) (h : Handling) : Handling := { h with writes := writes ++ h.writes }

/-- The buffer of the response, when the fields are written. -/
def patch (res : ℕ → UInt8) (writes : List (ℕ × List UInt8)) : ℕ → UInt8 := writes.foldl (fun m w => store m w.1 w.2) res

/-- The bytes that are sent. -/
def Handling.response (h : Handling) (res : ℕ → UInt8) : List UInt8 := slice (patch res h.writes) 0 h.length

/-! ## Requests and responses -/

abbrev yafuCCNormal : UInt8 := 0x00
abbrev yafuCCInvalidDatlen : UInt16 := 0xcc
abbrev yafuCCAllocErr : UInt16 := 0x02
abbrev yafuCCReadErr : UInt16 := 0x05
abbrev yafuCCInDeactivate : UInt16 := 0x08
abbrev yafuInvalidChksum : UInt16 := 0x12
abbrev yafuProtectErr : UInt16 := 0x14
abbrev yafuCCInvalidData : UInt8 := 0x19
abbrev ccInvDataField : UInt8 := 0xCC
abbrev ccReqInvLen : UInt8 := 0xC7
abbrev ccInvCmd : UInt8 := 0xC1
abbrev ccUnspecifiedErr : UInt8 := 0xFF

abbrev image1 : UInt8 := 0x1
abbrev image2 : UInt8 := 0x2
abbrev imageBoth : UInt8 := 0x3

/-- A field of two bytes, and one of four. -/
def field16 (m : ℕ → UInt8) (o : ℕ) : ℕ := leNat (slice m o 2)
def field32 (m : ℕ → UInt8) (o : ℕ) : UInt32 := UInt32.ofNat (leNat (slice m o 4))

/-- `Datalen` of the request. -/
def datalen (req : ℕ → UInt8) : ℕ := field16 req 6

/-- A difference that is used as a size. -/
def sizeT (n k : ℕ) : ℕ := (n + 2 ^ 32 - k) % 2 ^ 32

/-- The response `AMIYAFUNotAck`, which has no completion code. -/
def yafuNotAck (s : YafuState) (req : ℕ → UInt8) (code : UInt16) : Handling where
  state := s
  accesses := [.request 0 4]
  writes := [(0, slice req 0 4 ++ [0xFF, 0x00, 0x02, 0x00, 0, 0, 0, 0] ++ leBytes 2 code.toNat)]
  length := 14
  done := false

/-- The same, with `LastStatCode`. -/
def yafuRefuse (s : YafuState) (req : ℕ → UInt8) (code : UInt16) : Handling :=
  yafuNotAck { s with lastStatCode := code } req code

/-- A completion code, a header with the number and the command of the request, this length and this checksum, and data. -/
def yafuHeader (req : ℕ → UInt8) (length : ℕ) (chksum : UInt32) (data : List UInt8) : List UInt8 :=
  yafuCCNormal :: (slice req 0 4 ++ slice req 4 2 ++ leBytes 2 length ++ leBytes 4 chksum.toNat ++ data)

/-- A response with such a header, and all its data. -/
def yafuAnswer (s : YafuState) (req : ℕ → UInt8) (length : ℕ) (chksum : UInt32) (data : List UInt8) : Handling where
  state := s
  accesses := [.request 0 6]
  writes := [(0, yafuHeader req length chksum data)]
  length := 13 + data.length
  done := true

/-- `LastStatCode = CompletionCode` -/
def YafuState.normal (s : YafuState) : YafuState := { s with lastStatCode := 0 }

/-- A command of the activated flash mode. -/
def whenActivated (s : YafuState) (req : ℕ → UInt8) (code : UInt16) (h : Handling) : Handling :=
  if s.activateFlashStatus then h else yafuRefuse s req code

/-- `CalculateChksum` of `n` bytes is that of the request. -/
def chksumMatches (x : YafuInputs) (req : ℕ → UInt8) (n : ℕ) : Bool := x.crc (slice req 12 n) = field32 req 8

/-- A command whose checksum is tested. -/
def whenChksum (x : YafuInputs) (s : YafuState) (req : ℕ → UInt8) (n : ℕ) (h : Handling) : Handling :=
  (if chksumMatches x req n then h else yafuRefuse s req yafuInvalidChksum).after [.request 8 4, .request 12 n]

/-- A command whose length is tested. -/
def whenDatalen (s : YafuState) (req : ℕ → UInt8) (n : ℕ) (h : Handling) : Handling :=
  (if datalen req = n then h else yafuRefuse s req yafuCCInvalidDatlen).after [.request 6 2]

/-! ## The commands -/

section Handlers

variable (c : YafuConfig) (x : YafuInputs) (s : YafuState) (req res : ℕ → UInt8)

/-- `AMIYAFUGetFlashInfo` -/
def amiYafuGetFlashInfo : Handling :=
  let noEraseBlks := c.usedFlashSize / c.eraseBlockSize % 65536
  let flashInfo := leBytes 4 c.usedFlashSize ++ leBytes 4 c.flashStart ++ leBytes 4 c.eraseBlockSize ++ leBytes 2 0 ++ [8] ++
    [0x01] ++ leBytes 2 0 ++ leBytes 2 noEraseBlks
  let length := if noEraseBlks * c.eraseBlockSize % 2 ^ 32 = c.usedFlashSize then 0x20 else 0x20 + noEraseBlks
  yafuAnswer s req length (x.crc flashInfo) flashInfo

/-- The first seven bytes are those of `$MODULE$`. -/
def isModule (signature : List UInt8) : Bool := signature.take 7 = fmhSignature.take 7

/-- `EndSignature == 21930` -/
def endsModule (fmh : List UInt8) : Bool := le16 fmh 62 = 21930

/-- The modules that have been found, and the error that has ended the scan. -/
structure FMHScan where
  modules : List (List UInt8)
  error : Option UInt16
  deriving DecidableEq, Repr

/-- The header in the buffer. -/
def FMHScan.add (scan : FMHScan) (header : List UInt8) : FMHScan :=
  if isModule header ∧ endsModule header then { scan with modules := scan.modules ++ [header] } else scan

/-- A round of the loop over the sectors. -/
def fmhRound (start : ℕ) (scan : FMHScan) (i : ℕ) : FMHScan :=
  let sector := start + i * c.eraseBlockSize
  let altAddr := sector + (c.eraseBlockSize - 16)
  if scan.error.isSome then scan
  else if !x.alloc (i + 1) then { scan with error := some yafuCCAllocErr }
  else if !x.readOk sector 64 then { scan with error := some yafuCCReadErr }
  else if isModule (slice x.flash sector 64) then scan.add (slice x.flash sector 64)
  else if !x.readOk altAddr 16 then { scan with error := some yafuCCReadErr }
  else if isModule (slice x.flash (altAddr + 8) 8) then
    let link := (sector + (field32 x.flash (altAddr + 4)).toNat) % 2 ^ 32
    if !x.readOk link 64 then { scan with error := some yafuCCReadErr } else scan.add (slice x.flash link 64)
  else scan

/-- The loop over the sectors. -/
def fmhScan : FMHScan :=
  (List.range c.blocks).foldl (fmhRound c x (if s.fwUploadSelector = image2 then c.usedFlashSize else 0)) ⟨[], none⟩

/-- `AMIYAFUGetFMHInfo`. `NumFMH` is kept in the response. -/
def amiYafuGetFMHInfo : Handling :=
  if !x.alloc 0 then ⟨s, [], [(15, leBytes 2 0)], sizeT 0 1, false⟩
  else
    let scan := fmhScan c x s
    let numFMH := scan.modules.length
    let details : Access := .heap (64 * numFMH) 1200
    match scan.error with
    | some code =>
      let s := if code = yafuCCAllocErr then { s with lastStatCode := code } else s
      ((yafuNotAck s req code).after [details]).above [(15, leBytes 2 numFMH)]
    | none =>
      if datalen req ≠ 0 then ⟨s, [details, .request 6 2], [(15, leBytes 2 numFMH), (0, [ccInvDataField])], 1, false⟩
      else
        let data := leBytes 2 0 ++ leBytes 2 numFMH ++ scan.modules.flatten
        (yafuAnswer s req (4 + numFMH * 64) (x.crc (data.take ((4 + numFMH * 64) % 65536))) data).after
          [details, .request 6 2]

/-- `AMIYAFUGetStatus`. Of the message the first byte is written only. -/
def amiYafuGetStatus : Handling :=
  let mode := (s.envGet (textBytes "mode")).elim 0 x.strtoul
  let data := leBytes 2 s.lastStatCode.toNat ++ leBytes 2 0 ++ leBytes 2 mode ++ leBytes 2 0
  { state := s
    accesses := [.request 0 6]
    writes := [(0, yafuHeader req 8 (x.crc data) data), (21, [0])]
    length := 86
    done := true }

/-- `AMIYAFUActivateFlashMode` -/
def amiYafuActivateFlashMode : Handling :=
  whenChksum x s req 2 (whenDatalen s req 2
    (yafuAnswer { s with activateFlashStatus := true, newFirmwareAddr := some 0 } req 2 0 [0]))

/-- `AMIYAFUProtectFlash`. `Status` is not written. -/
def amiYafuProtectFlash : Handling :=
  whenActivated s req yafuCCInDeactivate (whenChksum x s req (datalen req) (whenDatalen s req 5
    (if x.protectOff then
      { state := { s.normal with newFirmwareAddr := some 0 }
        accesses := [.request 0 6]
        writes := [(0, yafuHeader req 1 (x.crc [res 13]) [])]
        length := 14
        done := true }
    else (yafuRefuse s req yafuProtectErr).above [(7, leBytes 2 1)])))

/-- `AMIYAFUEraseCopyFlash` -/
def amiYafuEraseCopyFlash : Handling :=
  whenActivated s req yafuCCInDeactivate (whenChksum x s req (datalen req) (whenDatalen s req 12
    ((yafuAnswer { s.normal with
        eraseBlock := field32 req 16
        sizeToErase := field32 req 20
        newFirmwareAddr := some 0
        startFirmwareUpdation := true } req 4 (x.crc (slice req 20 4)) (slice req 20 4)).after [.request 16 8])))

/-- `AMIYAFUWriteMemory` -/
def amiYafuWriteMemory : Handling :=
  whenActivated s req yafuCCInDeactivate (whenChksum x s req (datalen req)
    (let size := sizeT (datalen req) 5
    match s.newFirmwareAddr with
    | none => ⟨s, [.request 6 2, .null], [], 0, false⟩
    | some addr =>
      (yafuAnswer { s.normal with
          upload := fun a => if addr ≤ a ∧ a < addr + size then req (17 + (a - addr)) else s.upload a
          newFirmwareAddr := some (addr + size) } req 2 (x.crc (leBytes 2 size)) (leBytes 2 size)).after
        [.request 6 2, .request 17 size, .upload addr size]))

/-- `AMIYAFUGetBootConfig` -/
def amiYafuGetBootConfig : Handling :=
  whenActivated s req yafuCCInDeactivate (whenChksum x s req (datalen req) (whenDatalen s req 65
    (match s.envGet (cString req 12) with
    | none => ⟨s, [.request 12 ((cString req 12).length + 1), .null], [(7, leBytes 2 0x42)], 0, false⟩
    | some value =>
      let data := 0x01 :: (value ++ [0])
      (yafuAnswer s.normal req (value.length + 2) (x.crc (data.take ((value.length + 2) % 65536))) data).after
        [.request 12 ((cString req 12).length + 1)])))

/-- `VarName` of `AMIYAFUSetBootConfig`, when the value behind it has been cleared. -/
def setBootName : List UInt8 :=
  cString (fun a => if 77 ≤ a ∧ a < 77 + sizeT (datalen req) 65 then 0 else req a) 12

/-- `AMIYAFUSetBootConfig`. The value is cleared in the request, and read to its end in the temporary sector buffer. -/
def amiYafuSetBootConfig : Handling :=
  whenActivated s req yafuCCInDeactivate (whenChksum x s req (datalen req)
    (let size := sizeT (datalen req) 65
    let temp := fun a => if a < size then req (77 + a) else s.temp a
    let s := { s.normal with temp := temp }
    let baudrate := setBootName req = textBytes "baudrate"
    let s := if baudrate ∨ !x.envSets then s else s.envSet (setBootName req) (cString temp 0)
    { yafuAnswer s req 1 (x.crc [0x01]) [0x01] with
      accesses := [.request 0 8, .request 77 size, .temp size, .clear 77 size, .request 12 ((setBootName req).length + 1)]
      done := !baudrate && x.envSets && x.envSaves }))

/-- `Getenvvar`: the names of the variables. -/
def getenvvar : List UInt8 → List (List UInt8)
  | [] => []
  | b :: env =>
    if b = 0 then []
    else
      let name := (b :: env).takeWhile (· ≠ 0x3D)
      -- the first byte of the value is skipped
      name :: getenvvar ((((b :: env).drop (name.length + 2)).dropWhile (· ≠ 0)).drop 1)
termination_by env => env.length
decreasing_by
  have := ((b :: env).drop (((b :: env).takeWhile (· ≠ 0x3D)).length + 2)).dropWhile_sublist (· ≠ 0) |>.length_le
  simp only [List.length_drop, List.length_cons] at this ⊢
  omega

/-- `AMIYAFUGetBootVars` -/
def amiYafuGetBootVars : Handling :=
  whenActivated s req yafuCCInDeactivate
    (let names := getenvvar x.envBlock
    let varCount := UInt8.ofNat names.length
    let buffer := names.flatMap (· ++ [0])
    let bootVarlen := (names.map List.length).sum + varCount.toNat
    let data := varCount :: buffer.take bootVarlen
    (yafuAnswer s.normal req (bootVarlen + 1) (x.crc (data.take ((bootVarlen + 1) % 65536))) data).after [.temp buffer.length])

/-- `AMIYAFUDeactivateFlash`. Its refusal out of the flash mode has another code. -/
def amiYafuDeactivateFlash : Handling :=
  whenActivated s req yafuCCInvalidDatlen (whenDatalen s req 0
    (let s := { s.normal with activateFlashStatus := false }
    let s :=
      if s.fwUploadSelector = image1 then s.envSet (textBytes "recentlyprogfw") (textBytes "1")
      else if s.fwUploadSelector = image2 then s.envSet (textBytes "recentlyprogfw") (textBytes "2")
      else s
    let s := (s.envSet (textBytes "fwimage1corrupted") []).envSet (textBytes "fwimage2corrupted") []
    yafuAnswer s req 1 (x.crc [0]) [0]))

/-- `AMIYAFUResetDevice`. `Status` is not written. -/
def amiYafuResetDevice : Handling :=
  whenChksum x s req 2 (whenDatalen s req 2
    { state := { s.normal with reset := true }
      accesses := [.request 0 6]
      writes := [(0, yafuHeader req 1 (x.crc [res 13]) [])]
      length := 14
      done := true })

/-- `AMIYAFUDualImgSup`. The header of the response is not written, and a code is returned where a length is expected. -/
def amiYafuDualImgSup : Handling :=
  Handling.after [.request 6 2, .request 8 4, .request 12 (datalen req)]
    (if chksumMatches x req (datalen req) then ⟨s, [], [(0, [yafuCCNormal])], 13, true⟩
    else ⟨s, [], [], yafuInvalidChksum.toNat, false⟩)

/-- `AMIYAFUGetRecoverySPIDetails` -/
def amiYafuGetRecoverySPIDetails : Handling :=
  let data := leBytes 2 s.lastStatCode.toNat ++ leBytes 2 0
  yafuAnswer s req 4 (x.crc data) data

end Handlers

/-- The commands with a header of their own. -/
inductive YafuCommand
  | getFlashInfo
  | getFMHInfo
  | getStatus
  | activateFlash
  | protectFlash
  | eraseCopyFlash
  | writeMemory
  | getBootConfig
  | setBootConfig
  | getBootVars
  | deactivateFlashMode
  | resetDevice
  | dualImageSup
  | getRecoverySPIDetails
  deriving DecidableEq, Repr

namespace YafuCommand

/-- The length of the request in `m_CmdInfo`, when it is fixed. -/
def len : YafuCommand → Option ℕ
  | getFlashInfo | getFMHInfo | getStatus | deactivateFlashMode | getRecoverySPIDetails => some 12
  | activateFlash | resetDevice => some 14
  | protectFlash => some 17
  | eraseCopyFlash => some 24
  | getBootConfig => some 77
  | dualImageSup => some 16
  | writeMemory | setBootConfig | getBootVars => none

/-- The handler in `m_CmdInfo`. -/
def handle (c : YafuConfig) (x : YafuInputs) (s : YafuState) (req res : ℕ → UInt8) : YafuCommand → Handling
  | getFlashInfo => amiYafuGetFlashInfo c x s req
  | getFMHInfo => amiYafuGetFMHInfo c x s req
  | getStatus => amiYafuGetStatus x s req
  | activateFlash => amiYafuActivateFlashMode x s req
  | protectFlash => amiYafuProtectFlash x s req res
  | eraseCopyFlash => amiYafuEraseCopyFlash x s req
  | writeMemory => amiYafuWriteMemory x s req
  | getBootConfig => amiYafuGetBootConfig x s req
  | setBootConfig => amiYafuSetBootConfig x s req
  | getBootVars => amiYafuGetBootVars x s req
  | deactivateFlashMode => amiYafuDeactivateFlash x s req
  | resetDevice => amiYafuResetDevice x s req res
  | dualImageSup => amiYafuDualImgSup x s req
  | getRecoverySPIDetails => amiYafuGetRecoverySPIDetails x s req

end YafuCommand

end BmcBoot
