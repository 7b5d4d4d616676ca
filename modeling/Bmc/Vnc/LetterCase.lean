import Bmc.Lib.Loop
import Bmc.Vnc.HidReport

/-!
# The case of the letters that the host reads

`hid.c`: the server presses Caps Lock on the host when the case of a letter does not fit the LED status that it
has read last.

* `handleKbdEvent`: the calls of `SendKeyEvent` for an event, `setLedStatus`: the LED status that is read;
* `Host`: the host with its LEDs, `VncKeyboard`: the server and the host, `VncKeyboard.step`;
* `InCase`: the host reads a letter in its case; `LedCurrent`: what it takes;
* `Synced`: the server remembers the keys that the host has seen, `Synced.send`, `Synced.inject`;
* **`allSteps_inCase_iff`**: all events.
-/

namespace BmcVnc

open BmcLib

/-! ## The server -/

/-- `CAPS_LOCK` and `NUM_LOCK`: the bits of the LED status. -/
def capsLock : UInt8 := 0x02

def numLock : UInt8 := 0x01

/-- `CAPS_LOCK_KEY_CODE` and `NUM_LOCK_KEY_CODE`: the keysyms of the lock keys. -/
def capsLockKeyCode : UInt32 := 0xFFE5

def numLockKeyCode : UInt32 := 0xFF7F

/-- A LED is lit. -/
def IsLit (lock leds : UInt8) : Prop := leds &&& lock = lock

instance (lock leds : UInt8) : Decidable (IsLit lock leds) := inferInstanceAs (Decidable (_ = _))

/-- `MOD_LEFT_SHIFT` or `MOD_RIGHT_SHIFT` is among the modifiers. -/
def ShiftDown (modifier : UInt8) : Prop := modifier &&& 0x02 = 0x02 ∨ modifier &&& 0x20 = 0x20

instance : DecidablePred ShiftDown := fun _ => inferInstanceAs (Decidable (_ ∨ _))

/-- The keysyms `'A'` to `'Z'`. -/
def IsCapital (key : UInt32) : Prop := 65 ≤ key ∧ key ≤ 90

instance : DecidablePred IsCapital := fun _ => inferInstanceAs (Decidable (_ ∧ _))

/-- The keysyms `'a'` to `'z'`. -/
def IsSmall (key : UInt32) : Prop := 97 ≤ key ∧ key ≤ 122

instance : DecidablePred IsSmall := fun _ => inferInstanceAs (Decidable (_ ∧ _))

/-- A key is pressed and released. -/
def pressAndRelease (key : UInt32) : List KeyEvent := [⟨true, key⟩, ⟨false, key⟩]

/-- The presses of Caps Lock before a letter. -/
def capsLockCalls (gLedStatus modifier down : UInt8) (key : UInt32) : List KeyEvent :=
  if IsCapital key ∧ down = 1 then
    if ¬ ShiftDown modifier then
      if ¬ IsLit capsLock gLedStatus then pressAndRelease capsLockKeyCode else []
    else if IsLit capsLock gLedStatus then pressAndRelease capsLockKeyCode else []
  else if IsSmall key ∧ down = 1 then
    if ¬ ShiftDown modifier then
      if IsLit capsLock gLedStatus then pressAndRelease capsLockKeyCode else []
    else if ¬ IsLit capsLock gLedStatus then pressAndRelease capsLockKeyCode else []
  else []

/-- The presses of Num Lock before a key of the number pad, on a press and on a release of it. -/
def numLockCalls (gLedStatus : UInt8) (key : UInt32) : List KeyEvent :=
  if (0xFFB0 ≤ key ∧ key ≤ 0xFFB9) ∨ key = 0xFFAE then
    if ¬ IsLit numLock gLedStatus then pressAndRelease numLockKeyCode else []
  else if 0xFF95 ≤ key ∧ key ≤ 0xFF9F then
    if IsLit numLock gLedStatus then pressAndRelease numLockKeyCode else []
  else []

/-- `handleKbdEvent`: its calls of `SendKeyEvent`. `modifier` is `prevkey.Modifier`. -/
def handleKbdEvent (gLedStatus modifier down : UInt8) (key : UInt32) : List KeyEvent :=
  capsLockCalls gLedStatus modifier down key ++ numLockCalls gLedStatus key ++ [⟨decide (down ≠ 0), key⟩]

/-- `SetLEDStatus`: the LED status from the driver, or zero when it cannot be read. -/
def setLedStatus (status : Option UInt8) : UInt8 := status.getD 0

/-! ## The host -/

/-- The usage codes of the lock keys. -/
def capsLockUsage : UInt8 := 0x39

def numLockUsage : UInt8 := 0x53

/-- The host: its LEDs, the modifiers and the codes of the keys that are down, and all LED states that it has
had, the latest first. -/
structure Host where
  leds : UInt8
  modifier : UInt8
  keyCode : List UInt8
  reported : List UInt8

/-- The LEDs after the keys `pressed` have gone down. -/
def toggleLeds (leds : UInt8) (pressed : List UInt8) : UInt8 :=
  let leds := if capsLockUsage ∈ pressed then leds ^^^ capsLock else leds
  if numLockUsage ∈ pressed then leds ^^^ numLock else leds

/-- A report arrives. The codes of a phantom state are ignored, and a key goes down when its code is new. -/
def Host.receive (host : Host) (report : UsbKeybdPkt) : Host :=
  if report.keyCode = List.replicate 6 1 then { host with modifier := report.modifier }
  else
    let leds := toggleLeds host.leds (report.keyCode.filter (· ∉ host.keyCode))
    ⟨leds, report.modifier, report.keyCode, leds :: host.reported⟩

/-- The letter that the host reads from the key of a letter. -/
def Host.letterOf (host : Host) (usbKey : UInt8) : UInt32 :=
  if IsLit capsLock host.leds ↔ ShiftDown host.modifier then 97 + (usbKey - 4).toUInt32
  else 65 + (usbKey - 4).toUInt32

/-! ## Server and host -/

/-- `prevkey` and `g_led_status` of the server, and the host. -/
structure VncKeyboard where
  prevkey : UsbKeybdPkt
  gLedStatus : UInt8
  host : Host

/-- A key event of the client, and a turn of the main loop: the LED status that is read is the one that the
host has had so many reports ago, and it may fail. -/
inductive VncEvent where
  | key (down : UInt8) (key : UInt32)
  | refresh (delay : Option ℕ)
  deriving DecidableEq, Repr

/-- The report of `SendKeyEvent` reaches the host. -/
def VncKeyboard.send (beyond : ℕ → UInt8) (s : VncKeyboard) (e : KeyEvent) : VncKeyboard :=
  let r := sendKeyEvent beyond s.prevkey e
  { s with prevkey := r.2, host := s.host.receive r.1 }

def VncKeyboard.step (beyond : ℕ → UInt8) (s : VncKeyboard) : VncEvent → VncKeyboard
  | .key down key => (handleKbdEvent s.gLedStatus s.prevkey.modifier down key).foldl (send beyond) s
  | .refresh delay => { s with gLedStatus := setLedStatus (delay.bind fun n => s.host.reported[n]?) }

/-- The start, with the LEDs of the host. -/
def VncKeyboard.start (leds : UInt8) : VncKeyboard := ⟨.zero, 0, ⟨leds, 0, List.replicate 6 0, [leds]⟩⟩

/-- **The host reads a letter in its case**: from the key of a letter that goes down it reads the keysym. -/
def InCase (beyond : ℕ → UInt8) (s : VncKeyboard) : VncEvent → Prop
  | .key down key => down ≠ 0 → IsCapital key ∨ IsSmall key →
    (s.step beyond (.key down key)).host.letterOf (usbKeyOf beyond key) = key
  | .refresh _ => True

/-- The host takes a press of Caps Lock: the key is not held, and there is room for it. -/
def CapsLockFree (prevkey : UsbKeybdPkt) : Prop := capsLockUsage ∉ prevkey.keyCode ∧ 0 ∈ prevkey.keyCode

instance : DecidablePred CapsLockFree := fun _ => inferInstanceAs (Decidable (_ ∧ _))

/-- **What it takes**: the LED status that has been read last is the one of the host. Where the host gets no press
of Caps Lock, as the event is not flagged with one or the key is not free, it is in the state for the letter
already. -/
def LedCurrent (s : VncKeyboard) : VncEvent → Prop
  | .key down key => down ≠ 0 → IsCapital key ∨ IsSmall key →
    if down = 1 ∧ CapsLockFree s.prevkey then
      IsLit capsLock s.gLedStatus ↔ IsLit capsLock s.host.leds
    else IsLit capsLock s.host.leds ↔ (IsCapital key ↔ ¬ ShiftDown s.prevkey.modifier)
  | .refresh _ => True

/-! ## LEDs and letters -/

variable {beyond : ℕ → UInt8} {s : VncKeyboard} {codes : List UInt8} {down : UInt8} {key : UInt32}

theorem isLit_capsLock_xor (leds : UInt8) : IsLit capsLock (leds ^^^ capsLock) ↔ ¬ IsLit capsLock leds := by
  have hall : ∀ b : BitVec 8, (b ^^^ 2#8) &&& 2#8 = 2#8 ↔ ¬ b &&& 2#8 = 2#8 := by decide +kernel
  have hb := hall leds.toBitVec
  unfold IsLit
  rw [← UInt8.toBitVec_inj, ← UInt8.toBitVec_inj]
  exact hb

theorem IsCapital.toNat (h : IsCapital key) : 65 ≤ key.toNat ∧ key.toNat ≤ 90 :=
  ⟨UInt32.le_iff_toNat_le.1 h.1, UInt32.le_iff_toNat_le.1 h.2⟩

theorem IsSmall.toNat (h : IsSmall key) : 97 ≤ key.toNat ∧ key.toNat ≤ 122 :=
  ⟨UInt32.le_iff_toNat_le.1 h.1, UInt32.le_iff_toNat_le.1 h.2⟩

/-- The keysyms of the letters. -/
def letters : List UInt32 := (List.range' 65 26 ++ List.range' 97 26).map UInt32.ofNat

theorem mem_letters (h : IsCapital key ∨ IsSmall key) : key ∈ letters := by
  rw [letters, List.mem_map]
  refine ⟨key.toNat, ?_, UInt32.ofNat_toNat⟩
  rw [List.mem_append, List.mem_range'_1, List.mem_range'_1]
  rcases h with h | h
  · have := h.toNat
    omega
  · have := h.toNat
    omega

/-- The key of a letter: its code is no lock key, it has no modifier, and it stands for the letter in its two
cases. -/
structure LetterKey (beyond : ℕ → UInt8) (key : UInt32) : Prop where
  notCapsLock : usbKeyOf beyond key ≠ capsLockUsage
  notNumLock : usbKeyOf beyond key ≠ numLockUsage
  noModifier : modifierOf key = 0
  noCalls : ∀ gLedStatus, numLockCalls gLedStatus key = []
  small : 97 + (usbKeyOf beyond key - 4).toUInt32 = key ↔ ¬ IsCapital key
  capital : 65 + (usbKeyOf beyond key - 4).toUInt32 = key ↔ IsCapital key

theorem usbKeyOf_of_mem_letters (beyond : ℕ → UInt8) (h : key ∈ letters) :
    usbKeyOf beyond key = ascii2UsbMap.getD (mapIndex key) 0 := by
  have hall : ∀ key ∈ letters, ¬ IsRfbKey key ∧ mapIndex key < ascii2UsbMap.length :=
    List.forall_iff_forall_mem.1 (by decide +kernel)
  obtain ⟨hrfb, hlt⟩ := hall key h
  rw [usbKeyOf, if_neg hrfb, List.getD_eq_getElem?_getD, List.getElem?_eq_getElem hlt]
  rfl

theorem letterKey (beyond : ℕ → UInt8) (h : IsCapital key ∨ IsSmall key) : LetterKey beyond key := by
  have hmem := mem_letters h
  have hcode := usbKeyOf_of_mem_letters beyond hmem
  have hlock : ∀ key ∈ letters, ascii2UsbMap.getD (mapIndex key) 0 ≠ capsLockUsage ∧
      ascii2UsbMap.getD (mapIndex key) 0 ≠ numLockUsage ∧ modifierOf key = 0 :=
    List.forall_iff_forall_mem.1 (by decide +kernel)
  have hnum : ∀ key ∈ letters, ¬ ((0xFFB0 ≤ key ∧ key ≤ 0xFFB9) ∨ key = 0xFFAE) ∧
      ¬ (0xFF95 ≤ key ∧ key ≤ 0xFF9F) := List.forall_iff_forall_mem.1 (by decide +kernel)
  have hread : ∀ key ∈ letters,
      (97 + (ascii2UsbMap.getD (mapIndex key) 0 - 4).toUInt32 = key ↔ ¬ IsCapital key) ∧
        (65 + (ascii2UsbMap.getD (mapIndex key) 0 - 4).toUInt32 = key ↔ IsCapital key) :=
    List.forall_iff_forall_mem.1 (by decide +kernel)
  refine ⟨hcode ▸ (hlock key hmem).1, hcode ▸ (hlock key hmem).2.1, (hlock key hmem).2.2, fun gLedStatus => ?_,
    hcode ▸ (hread key hmem).1, hcode ▸ (hread key hmem).2⟩
  rw [numLockCalls, if_neg (hnum key hmem).1, if_neg (hnum key hmem).2]

/-- The host reads a letter in its case when Caps Lock and Shift fit. -/
theorem LetterKey.letterOf_iff (h : LetterKey beyond key) (host : Host) :
    host.letterOf (usbKeyOf beyond key) = key ↔
      (IsLit capsLock host.leds ↔ (IsCapital key ↔ ¬ ShiftDown host.modifier)) := by
  rw [Host.letterOf]
  split_ifs with hlit
  · rw [h.small]
    tauto
  · rw [h.capital]
    tauto

/-! ## A report arrives -/

/-- The server remembers the keys that the host has seen. -/
structure Synced (s : VncKeyboard) (codes : List UInt8) : Prop where
  reserved : s.prevkey.reserved = 0
  keyCode : s.prevkey.keyCode = padded codes
  seen : s.host.keyCode = padded codes
  modifier : s.host.modifier = s.prevkey.modifier
  nodup : codes.Nodup
  zero_notMem : (0 : UInt8) ∉ codes
  length : codes.length ≤ 6

/-- The codes that are held after an event. -/
def codesAfter (usbKey : UInt8) (down : Bool) (codes : List UInt8) : List UInt8 :=
  if down = true ∧ usbKey ≠ 0 ∧ codes.length = 6 then codes else nextCodes usbKey down codes

/-- The codes that are new after an event. -/
theorem codesAfter_new {usbKey : UInt8} {pressed : Bool} (hlen : codes.length ≤ 6) :
    (codesAfter usbKey pressed codes).filter (· ∉ codes) =
      if pressed = true ∧ usbKey ≠ 0 ∧ usbKey ∉ codes ∧ codes.length < 6 then [usbKey] else [] := by
  have hself : ∀ l : List UInt8, l ⊆ codes → l.filter (· ∉ codes) = [] := by
    intro l hl
    rw [List.filter_eq_nil_iff]
    intro code hcode
    simpa using hl hcode
  unfold codesAfter nextCodes
  split_ifs with hfull hnew hzero hnew hup hnew hin hnew hnew
  · omega
  · exact hself codes (List.Subset.refl codes)
  · exact absurd hzero hnew.2.1
  · exact hself codes (List.Subset.refl codes)
  · rw [hup] at hnew
    exact absurd hnew.1 (by decide)
  · exact hself _ (List.filter_subset_self codes)
  · exact absurd hin hnew.2.2.1
  · exact hself codes (List.Subset.refl codes)
  · rw [List.filter_append, hself codes (List.Subset.refl codes), List.nil_append,
      List.filter_cons_of_pos (by simpa using hin), List.filter_nil]
  · have hpressed : pressed = true := Bool.not_eq_false _ ▸ hup
    refine absurd ⟨hpressed, hzero, hin, ?_⟩ hnew
    by_contra hge
    exact hfull ⟨hpressed, hzero, hlen.antisymm (Nat.not_lt.1 hge)⟩

theorem toggleLeds_congr {leds : UInt8} {l l' : List UInt8} (h : ∀ code, code ≠ 0 → (code ∈ l ↔ code ∈ l')) :
    toggleLeds leds l = toggleLeds leds l' := by
  simp only [toggleLeds, h capsLockUsage (by decide), h numLockUsage (by decide)]

/-- What the host does with a report that is no phantom state. -/
theorem receive_padded {host : Host} {codes' : List UInt8} (hseen : host.keyCode = padded codes)
    (hnodup : codes'.Nodup) (hlen : codes'.length ≤ 6) (modifier : UInt8) :
    ∃ reported, host.receive ⟨modifier, 0, padded codes'⟩ =
      ⟨toggleLeds host.leds (codes'.filter (· ∉ codes)), modifier, padded codes', reported⟩ := by
  have hleds : toggleLeds host.leds ((padded codes').filter (· ∉ padded codes)) =
      toggleLeds host.leds (codes'.filter (· ∉ codes)) := by
    refine toggleLeds_congr fun code hcode => ?_
    rw [List.mem_filter, List.mem_filter, mem_padded hcode, decide_eq_true_iff, decide_eq_true_iff,
      mem_padded hcode]
  rw [Host.receive, if_neg (padded_ne_phantom hnodup hlen)]
  dsimp only
  rw [hseen, hleds]
  exact ⟨_, rfl⟩

theorem nodup_nextCodes (usbKey : UInt8) (pressed : Bool) (hnodup : codes.Nodup) :
    (nextCodes usbKey pressed codes).Nodup := by
  unfold nextCodes
  split_ifs with hzero hup hin
  · exact hnodup
  · exact hnodup.filter _
  · exact hnodup
  · rw [← List.concat_eq_append]
    exact hnodup.concat hin

theorem zero_notMem_nextCodes {usbKey : UInt8} {pressed : Bool} (hcodes : (0 : UInt8) ∉ codes) :
    (0 : UInt8) ∉ nextCodes usbKey pressed codes := by
  unfold nextCodes
  split_ifs with hzero hup hin
  · exact hcodes
  · exact fun h => hcodes (List.mem_of_mem_filter h)
  · exact hcodes
  · rw [List.mem_append, List.mem_singleton]
    exact not_or.2 ⟨hcodes, fun h => hzero h.symm⟩

theorem length_nextCodes_le {usbKey : UInt8} {pressed : Bool} (hlen : codes.length ≤ 6)
    (hroom : pressed = true → usbKey ≠ 0 → codes.length < 6) :
    (nextCodes usbKey pressed codes).length ≤ 6 := by
  unfold nextCodes
  split_ifs with hzero hup hin
  · exact hlen
  · exact (List.length_filter_le _ _).trans hlen
  · exact hlen
  · rw [List.length_append, List.length_singleton]
    exact hroom (Bool.not_eq_false _ ▸ hup) hzero

/-- **A report.** The server and the host agree on the keys after it, and the LEDs change by the codes that are
new. -/
theorem Synced.send (h : Synced s codes) (beyond : ℕ → UInt8) (e : KeyEvent) :
    Synced (s.send beyond e) (codesAfter (usbKeyOf beyond e.key) e.down codes) ∧
      (s.send beyond e).prevkey.modifier = nextModifier s.prevkey e ∧
      (s.send beyond e).host.leds = toggleLeds s.host.leds
        ((codesAfter (usbKeyOf beyond e.key) e.down codes).filter (· ∉ codes)) := by
  by_cases hfull : e.down = true ∧ usbKeyOf beyond e.key ≠ 0 ∧ codes.length = 6
  · obtain ⟨hdown, hkey, hlen⟩ := hfull
    have hsend := sendKeyEvent_full (e := e) h.keyCode h.zero_notMem hlen hdown hkey
    rw [codesAfter, if_pos ⟨hdown, hkey, hlen⟩, VncKeyboard.send, hsend]
    dsimp only
    rw [Host.receive, if_pos rfl]
    refine ⟨⟨h.reserved, h.keyCode, h.seen, rfl, h.nodup, h.zero_notMem, h.length⟩, rfl, ?_⟩
    have hnone : codes.filter (· ∉ codes) = [] :=
      List.filter_eq_nil_iff.2 fun code hcode => by simpa using hcode
    rw [hnone]
    rfl
  · have hroom : e.down = true → usbKeyOf beyond e.key ≠ 0 → codes.length < 6 := fun hdown hkey =>
      lt_of_le_of_ne h.length fun hlen => hfull ⟨hdown, hkey, hlen⟩
    have hsend := sendKeyEvent_eq h.reserved h.keyCode h.zero_notMem h.length hroom
    have hnodup := nodup_nextCodes (usbKeyOf beyond e.key) e.down h.nodup
    have hlen := length_nextCodes_le h.length hroom
    obtain ⟨reported, hhost⟩ := receive_padded h.seen hnodup hlen (nextModifier s.prevkey e)
    rw [codesAfter, if_neg hfull, VncKeyboard.send, hsend]
    dsimp only
    rw [hhost]
    exact ⟨⟨rfl, rfl, rfl, rfl, hnodup, zero_notMem_nextCodes h.zero_notMem, hlen⟩, rfl, rfl⟩

/-! ## The press of Caps Lock -/

theorem nextModifier_of_noModifier {prevkey : UsbKeybdPkt} {e : KeyEvent} (h : modifierOf e.key = 0) :
    nextModifier prevkey e = prevkey.modifier := by
  rw [nextModifier, h]
  split_ifs
  · exact UInt8.zero_or
  · exact UInt8.and_neg_one

theorem Synced.capsLockFree_iff (h : Synced s codes) :
    CapsLockFree s.prevkey ↔ capsLockUsage ∉ codes ∧ codes.length < 6 := by
  rw [CapsLockFree, h.keyCode, mem_padded (by decide)]
  refine and_congr_right fun _ => ?_
  rw [padded, List.mem_append, or_iff_right h.zero_notMem, List.mem_replicate, and_iff_left rfl]
  omega

/-- **The press of Caps Lock** and its release change the LED exactly when the key is free. -/
theorem Synced.inject (h : Synced s codes) (beyond : ℕ → UInt8) : ∃ codes',
    Synced ((pressAndRelease capsLockKeyCode).foldl (VncKeyboard.send beyond) s) codes' ∧
      ((pressAndRelease capsLockKeyCode).foldl (VncKeyboard.send beyond) s).prevkey.modifier =
        s.prevkey.modifier ∧
      (IsLit capsLock ((pressAndRelease capsLockKeyCode).foldl (VncKeyboard.send beyond) s).host.leds ↔
        (IsLit capsLock s.host.leds ↔ ¬ CapsLockFree s.prevkey)) := by
  have hcode : usbKeyOf beyond capsLockKeyCode = capsLockUsage := by
    rw [usbKeyOf, if_pos (by decide)]
    decide +kernel
  have hmodifier : modifierOf capsLockKeyCode = 0 := by decide
  obtain ⟨hpress, hpressMod, hpressLeds⟩ := h.send beyond ⟨true, capsLockKeyCode⟩
  obtain ⟨hrelease, hreleaseMod, hreleaseLeds⟩ := hpress.send beyond ⟨false, capsLockKeyCode⟩
  refine ⟨_, hrelease, ?_, ?_⟩
  · change ((s.send beyond _).send beyond _).prevkey.modifier = _
    rw [hreleaseMod, nextModifier_of_noModifier hmodifier, hpressMod, nextModifier_of_noModifier hmodifier]
  · change IsLit capsLock ((s.send beyond _).send beyond _).host.leds ↔ _
    rw [hreleaseLeds, codesAfter_new hpress.length, if_neg (fun hc => absurd hc.1 (by decide)), hpressLeds,
      codesAfter_new h.length, h.capsLockFree_iff]
    dsimp only
    rw [hcode]
    by_cases hfree : capsLockUsage ∉ codes ∧ codes.length < 6
    · rw [if_pos ⟨rfl, by decide, hfree.1, hfree.2⟩]
      have htoggle : toggleLeds (toggleLeds s.host.leds [capsLockUsage]) [] = s.host.leds ^^^ capsLock := rfl
      rw [htoggle, isLit_capsLock_xor]
      tauto
    · rw [if_neg (fun hc => hfree hc.2.2)]
      have htoggle : toggleLeds (toggleLeds s.host.leds []) [] = s.host.leds := rfl
      rw [htoggle]
      tauto

/-! ## All events -/

/-- Two LED states of which one fits: the other is the one to start from. -/
theorem not_iff_iff_of_differ {led lit want : Prop} (h : ¬ (led ↔ want)) : (¬ lit ↔ want) ↔ (led ↔ lit) := by
  tauto

/-- The presses before a letter. -/
theorem capsLockCalls_letter (gLedStatus modifier down : UInt8) (h : IsCapital key ∨ IsSmall key) :
    capsLockCalls gLedStatus modifier down key =
      if down = 1 ∧ ¬ (IsLit capsLock gLedStatus ↔ (IsCapital key ↔ ¬ ShiftDown modifier)) then
        pressAndRelease capsLockKeyCode else [] := by
  have hnot : IsSmall key → ¬ IsCapital key := fun hs hc => by
    have := hs.toNat
    have := hc.toNat
    omega
  unfold capsLockCalls
  split_ifs <;> first | rfl | (exfalso; tauto)

/-- The letter itself changes no LED. -/
theorem Synced.send_letter (h : Synced s codes) (hkey : LetterKey beyond key) (pressed : Bool) :
    (s.send beyond ⟨pressed, key⟩).host.leds = s.host.leds ∧
      (s.send beyond ⟨pressed, key⟩).host.modifier = s.prevkey.modifier := by
  obtain ⟨hsend, hmodifier, hleds⟩ := h.send beyond ⟨pressed, key⟩
  refine ⟨?_, ?_⟩
  · rw [hleds, codesAfter_new h.length]
    split_ifs
    · simp only [toggleLeds, List.mem_singleton, if_neg hkey.notCapsLock.symm, if_neg hkey.notNumLock.symm]
    · rfl
  · rw [hsend.modifier, hmodifier, nextModifier_of_noModifier hkey.noModifier]

theorem Synced.foldl_send (h : Synced s codes) (events : List KeyEvent) :
    ∃ codes', Synced (events.foldl (VncKeyboard.send beyond) s) codes' := by
  induction events generalizing s codes with
  | nil => exact ⟨codes, h⟩
  | cons e es ih => exact ih (h.send beyond e).1

theorem Synced.step (h : Synced s codes) (e : VncEvent) : ∃ codes', Synced (s.step beyond e) codes' := by
  cases e with
  | key down key => exact h.foldl_send _
  | refresh delay => exact ⟨codes, h.reserved, h.keyCode, h.seen, h.modifier, h.nodup, h.zero_notMem, h.length⟩

theorem synced_start (leds : UInt8) : Synced (.start leds) [] :=
  ⟨rfl, rfl, rfl, rfl, List.nodup_nil, List.not_mem_nil, by decide⟩

/-- **One event.** -/
theorem inCase_iff (h : Synced s codes) (e : VncEvent) : InCase beyond s e ↔ LedCurrent s e := by
  cases e with
  | refresh delay => rfl
  | key down key =>
    refine forall_congr' fun hdown => forall_congr' fun hletter => ?_
    have hkey := letterKey beyond hletter
    have hstep : s.step beyond (.key down key) =
        ((capsLockCalls s.gLedStatus s.prevkey.modifier down key).foldl (VncKeyboard.send beyond) s).send beyond
          ⟨decide (down ≠ 0), key⟩ := by
      rw [VncKeyboard.step, handleKbdEvent, hkey.noCalls, List.append_nil, List.foldl_append]
      rfl
    rw [hstep, capsLockCalls_letter _ _ _ hletter, hkey.letterOf_iff]
    by_cases hcalls : down = 1 ∧
        ¬ (IsLit capsLock s.gLedStatus ↔ (IsCapital key ↔ ¬ ShiftDown s.prevkey.modifier))
    · obtain ⟨codes', hsynced, hmodifier, hlit⟩ := h.inject beyond
      obtain ⟨hleds, hmod⟩ := hsynced.send_letter hkey (decide (down ≠ 0))
      rw [if_pos hcalls, hleds, hmod, hlit, hmodifier]
      split_ifs with hfree
      · rw [iff_false_right (not_not_intro hfree.2), not_iff_iff_of_differ hcalls.2]
      · rw [iff_true_right fun hc => hfree ⟨hcalls.1, hc⟩]
    · obtain ⟨hleds, hmod⟩ := h.send_letter hkey (decide (down ≠ 0))
      rw [if_neg hcalls, List.foldl_nil, hleds, hmod]
      split_ifs with hfree
      · have hled : IsLit capsLock s.gLedStatus ↔ (IsCapital key ↔ ¬ ShiftDown s.prevkey.modifier) := by
          by_contra hne
          exact hcalls ⟨hfree.1, hne⟩
        rw [hled]
        exact iff_comm
      · rfl

/-- **All events.** The host reads every letter in its case exactly when, at every letter that goes down, the LED
status that has been read last is the one of the host. -/
theorem allSteps_inCase_iff (beyond : ℕ → UInt8) (leds : UInt8) (events : List VncEvent) :
    AllSteps (VncKeyboard.step beyond) (InCase beyond) (.start leds) events ↔
      AllSteps (VncKeyboard.step beyond) LedCurrent (.start leds) events := by
  have hinv : ∀ s, ∀ e, (∃ codes, Synced s codes) → LedCurrent s e → ∃ codes, Synced (s.step beyond e) codes :=
    fun s e ⟨_, h⟩ _ => h.step e
  exact allSteps_congr (I := fun s => ∃ codes, Synced s codes) (fun s e ⟨_, h⟩ => inCase_iff h e) hinv
    ⟨_, synced_start leds⟩

/-- Two capital letters without a turn of the main loop between them: the second press of Caps Lock switches it
off. -/
theorem second_capital_small : ¬ ∀ (beyond : ℕ → UInt8) (leds : UInt8) (events : List VncEvent),
    AllSteps (VncKeyboard.step beyond) (InCase beyond) (.start leds) events := by
  intro h
  have hrun := h (fun _ => 0) 0 [.key 1 65, .key 0 65, .key 1 66]
  have hread := hrun.2.2.1 (by decide) (by decide)
  exact absurd hread (by decide +kernel)

end BmcVnc
