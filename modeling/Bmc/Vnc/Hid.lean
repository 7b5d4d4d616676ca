import Mathlib.Tactic

/-!
# The keyboard report of the VNC server

`hid.c`: key events of a client become keyboard reports for the host.

* `rfb2UsbMap`, `ascii2UsbMap`, `usbKeyOf`: the usage code of a keysym;
* `modifierOf`: the modifier bit of a keysym;
* `convertRfbToUsbKey`: the report for an event; `sendKeyEvent`: the report sent and the one remembered.
-/

namespace BmcVnc

/-! ## Keysyms -/

/-- `RFB2USB_Map`. -/
def rfb2UsbMap : List UInt8 := [
    0x00, 0x00, 0x00, 0x00, 0x00, 0x00, 0x00, 0x00, 0x2A, 0x2B, 0x00, 0x9C, 0x00, 0x58, 0x00, 0x00,
    0x00, 0x00, 0x00, 0x48, 0x47, 0x9A, 0x00, 0x00, 0x00, 0x00, 0x00, 0x29, 0x00, 0x00, 0x00, 0x00,
    0x00, 0x00, 0x00, 0x00, 0x00, 0x93, 0x92, 0x00, 0x00, 0x00, 0x94, 0x00, 0x00, 0x00, 0x00, 0x00,
    0x00, 0x00, 0x00, 0x00, 0x00, 0x00, 0x00, 0x00, 0x00, 0x00, 0x00, 0x00, 0x00, 0x00, 0x00, 0x00,
    0x00, 0x00, 0x00, 0x00, 0x00, 0x00, 0x00, 0x00, 0x00, 0x00, 0x00, 0x00, 0x00, 0x00, 0x00, 0x00,
    0x4A, 0x50, 0x52, 0x4F, 0x51, 0x4B, 0x4E, 0x4D, 0x00, 0x00, 0x00, 0x00, 0x00, 0x00, 0x00, 0x00,
    0x77, 0x46, 0x74, 0x49, 0x00, 0x7A, 0x00, 0x65, 0x7E, 0x78, 0x75, 0x00, 0x00, 0x00, 0x00, 0x00,
    0x00, 0x00, 0x00, 0x00, 0x00, 0x00, 0x00, 0x00, 0x00, 0x00, 0x00, 0x00, 0x00, 0x00, 0x00, 0x53,
    0x2C, 0x00, 0x00, 0x00, 0x00, 0x00, 0x00, 0x00, 0x00, 0x2B, 0x00, 0x00, 0x00, 0x58, 0x00, 0x00,
    0x00, 0x3A, 0x3B, 0x3C, 0x3D, 0x5F, 0x5C, 0x60, 0x5E, 0x5A, 0x61, 0x5B, 0x59, 0x00, 0x62, 0x63,
    0x00, 0x00, 0x00, 0x00, 0x00, 0x00, 0x00, 0x00, 0x00, 0x00, 0x55, 0x57, 0x00, 0x56, 0x63, 0x54,
    0x62, 0x59, 0x5A, 0x5B, 0x5C, 0x5D, 0x5E, 0x5F, 0x60, 0x61, 0x00, 0x00, 0x00, 0x67, 0x3A, 0x3B,
    0x3C, 0x3D, 0x3E, 0x3F, 0x40, 0x41, 0x42, 0x43, 0x44, 0x45, 0x68, 0x69, 0x6A, 0x6B, 0x6C, 0x6D,
    0x6E, 0x6F, 0x70, 0x71, 0x72, 0x73, 0x00, 0x00, 0x00, 0x00, 0x00, 0x00, 0x00, 0x00, 0x00, 0x00,
    0x00, 0x00, 0x00, 0x00, 0x00, 0x39, 0x00, 0x00, 0x00, 0x00, 0x00, 0x00, 0x00, 0x00, 0x00, 0x00,
    0x00, 0x00, 0x00, 0x00, 0x00, 0x00, 0x00, 0x00, 0x00, 0x00, 0x00, 0x00, 0x00, 0x00, 0x00, 0x4C]

/-- `Ascii2USB_Map`. -/
def ascii2UsbMap : List UInt8 := [
    0x00, 0x00, 0x00, 0x00, 0x00, 0x00, 0x00, 0x00, 0x2A, 0x2B, 0x28, 0x00, 0x00, 0x28, 0x00, 0x00,
    0x00, 0x00, 0x00, 0x00, 0x00, 0x00, 0x00, 0x00, 0x00, 0x00, 0x00, 0x00, 0x00, 0x00, 0x00, 0x00,
    0x2C, 0x1E, 0x34, 0x20, 0x21, 0x22, 0x24, 0x34, 0x26, 0x27, 0x25, 0x2E, 0x36, 0x2D, 0x37, 0x38,
    0x27, 0x1E, 0x1F, 0x20, 0x21, 0x22, 0x23, 0x24, 0x25, 0x26, 0x33, 0x33, 0x36, 0x2E, 0x37, 0x38,
    0x1F, 0x04, 0x05, 0x06, 0x07, 0x08, 0x09, 0x0A, 0x0B, 0x0C, 0x0D, 0x0E, 0x0F, 0x10, 0x11, 0x12,
    0x13, 0x14, 0x15, 0x16, 0x17, 0x18, 0x19, 0x1A, 0x1B, 0x1C, 0x1D, 0x2F, 0x31, 0x30, 0x23, 0x2D,
    0x35, 0x04, 0x05, 0x06, 0x07, 0x08, 0x09, 0x0A, 0x0B, 0x0C, 0x0D, 0x0E, 0x0F, 0x10, 0x11, 0x12,
    0x13, 0x14, 0x15, 0x16, 0x17, 0x18, 0x19, 0x1A, 0x1B, 0x1C, 0x1D, 0x2F, 0x31, 0x30, 0x35, 0x63,
    0x00, 0x00, 0x00, 0x00, 0x00, 0x00, 0x00, 0x00, 0x00, 0x00, 0x00, 0x00, 0x00, 0x00, 0x00, 0x00,
    0x00, 0x00, 0x00, 0x00, 0x00, 0x00, 0x00, 0x00, 0x00, 0x00, 0x00, 0x00, 0x00, 0x00, 0x00, 0x00,
    0x00, 0x00, 0x00, 0x00, 0x00, 0x00, 0x00, 0x00, 0x00, 0x00, 0x00, 0x00, 0x00, 0x00, 0x00, 0x00,
    0x00, 0x00, 0x00, 0x00, 0x00, 0x00, 0x00, 0x00, 0x00, 0x00, 0x00, 0x00, 0x00, 0x00, 0x00, 0x00,
    0x00, 0x00, 0x00, 0x00, 0x00, 0x00, 0x00, 0x00, 0x00, 0x00, 0x00, 0x00, 0x00, 0x00, 0x00, 0x00,
    0x00, 0x00, 0x00, 0x00, 0x00, 0x00, 0x00, 0x00, 0x00, 0x00, 0x00, 0x00, 0x00, 0x00, 0x00, 0x00,
    0x00, 0x00, 0x00, 0x00, 0x00, 0x00, 0x00, 0x00, 0x00, 0x00, 0x00, 0x00, 0x00, 0x00, 0x00, 0x00,
    0x00, 0x00, 0x00, 0x00, 0x00, 0x00, 0x00, 0x00, 0x00, 0x00, 0x00, 0x00, 0x00, 0x00, 0x00, 0x00]

/-- The keysym has its usage code in `RFB2USB_Map`. -/
def IsRfbKey (key : UInt32) : Prop := key &&& 0xFF00 = 0xFF00

instance : DecidablePred IsRfbKey := fun _ => inferInstanceAs (Decidable (_ = _))

/-- The index into the table of the keysym. -/
def mapIndex (key : UInt32) : ℕ := if IsRfbKey key then (key &&& 0xFF).toNat else key.toNat

/-- The index is inside the table. -/
def InTable (key : UInt32) : Prop := mapIndex key < 256

instance : DecidablePred InTable := fun _ => inferInstanceAs (Decidable (_ < _))

/-- The usage code of a keysym. `beyond` is the memory at and behind the end of `Ascii2USB_Map`, by the
index. -/
def usbKeyOf (beyond : ℕ → UInt8) (key : UInt32) : UInt8 :=
  if IsRfbKey key then rfb2UsbMap.getD (mapIndex key) 0
  else (ascii2UsbMap[mapIndex key]?).getD (beyond (mapIndex key))

/-- The modifier bit of a keysym: `RFB_Shift_L` to `RFB_Super_R`. -/
def modifierOf (key : UInt32) : UInt8 :=
  if key = 0xFFE1 then 0x02
  else if key = 0xFFE2 then 0x20
  else if key = 0xFFE3 then 0x01
  else if key = 0xFFE4 then 0x10
  else if key = 0xFFE7 ∨ key = 0xFFE9 then 0x04
  else if key = 0xFFE8 ∨ key = 0xFFEA then 0x40
  else if key = 0xFFEB then 0x08
  else if key = 0xFFEC then 0x80
  else 0

/-! ## Reports -/

/-- `USB_KEYBD_PKT`. -/
structure UsbKeybdPkt where
  modifier : UInt8
  reserved : UInt8
  keyCode : List UInt8
  deriving DecidableEq, Repr

/-- The report that is all zero. -/
def UsbKeybdPkt.zero : UsbKeybdPkt := ⟨0, 0, List.replicate 6 0⟩

/-- A key event: `down` is whether the key goes down. -/
structure KeyEvent where
  down : Bool
  key : UInt32
  deriving DecidableEq, Repr

/-- The loop for a key that goes up: the codes that remain move to the place `j`. -/
def releaseLoop (usbKey : UInt8) : List UInt8 → List UInt8 → ℕ → List UInt8
  | [], keyCode, _ => keyCode
  | code :: codes, keyCode, j =>
    if code = usbKey then releaseLoop usbKey codes keyCode j
    else releaseLoop usbKey codes (keyCode.set j code) (j + 1)

/-- The loop for a key that goes down, from place `i` on: the codes are copied up to the first zero. The
result is the place where it ends, the codes, and whether the key was among those before. -/
def pressLoop (usbKey : UInt8) : List UInt8 → ℕ → List UInt8 → Bool → ℕ × List UInt8 × Bool
  | [], i, keyCode, duplicate => (i, keyCode, duplicate)
  | code :: codes, i, keyCode, duplicate =>
    let duplicate := if code = usbKey then true else duplicate
    if code = 0 then (i, keyCode, duplicate)
    else pressLoop usbKey codes (i + 1) (keyCode.set i code) duplicate

/-- The modifiers after an event. -/
def nextModifier (prevkey : UsbKeybdPkt) (e : KeyEvent) : UInt8 :=
  if e.down then modifierOf e.key ||| prevkey.modifier
  else prevkey.modifier &&& ~~~modifierOf e.key

/-- `ConvertRFBtoUSBKey`: the report, the return code, and `prevkey` with its new modifiers. -/
def convertRfbToUsbKey (beyond : ℕ → UInt8) (prevkey : UsbKeybdPkt) (e : KeyEvent) :
    UsbKeybdPkt × ℕ × UsbKeybdPkt :=
  let info := { UsbKeybdPkt.zero with modifier := nextModifier prevkey e }
  let prevkey := { prevkey with modifier := info.modifier }
  let usbKey := usbKeyOf beyond e.key
  if usbKey = 0 then (prevkey, 0, prevkey)
  else if e.down = false then
    ({ info with keyCode := releaseLoop usbKey prevkey.keyCode info.keyCode 0 }, 0, prevkey)
  else
    let r := pressLoop usbKey prevkey.keyCode 0 info.keyCode false
    if r.1 ≠ 6 then
      if r.2.2 then ({ info with keyCode := r.2.1 }, 0, prevkey)
      else ({ info with keyCode := r.2.1.set r.1 usbKey }, 0, prevkey)
    -- six keys are held: the phantom state
    else ({ info with keyCode := List.replicate 6 1 }, 1, prevkey)

/-- `SendKeyEvent`: the report that is sent, and `prevkey` after it. -/
def sendKeyEvent (beyond : ℕ → UInt8) (prevkey : UsbKeybdPkt) (e : KeyEvent) :
    UsbKeybdPkt × UsbKeybdPkt :=
  let r := convertRfbToUsbKey beyond prevkey e
  (r.1, if r.2.1 = 0 then r.1 else r.2.2)

end BmcVnc
