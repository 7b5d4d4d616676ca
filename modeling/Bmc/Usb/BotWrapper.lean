import Mathlib
import Bmc.Lib.Loop
import Bmc.Usb.Bot

/-!
# The wrapper of a queued command

A packet is copied over the wrapper in the interface memory before it is checked, and the command is
run later.

* `IsWrapper`, `botReadCBW_iff`: the packets that are accepted;
* `Received`: the interface and the last packet that was accepted; `Received.Ok`: its invariant;
* `OwnBytes`: an event leaves the wrapper to its command; `Undisturbed`: the condition on an event;
* **`ownBytes_iff`**: it is exact for every sequence of events.
-/

namespace BmcUsb

open BmcLib

/-- The packet is a command block wrapper: its length, its signature, and room for its command. -/
def IsWrapper (packet : List UInt8) : Prop :=
  packet.length ≤ maxCbwLength ∧ le32 (block 0 packet) 0 = cbwSignature ∧
    15 + (packet.getD 14 0).toNat ≤ packet.length

instance (packet : List UInt8) : Decidable (IsWrapper packet) := by
  unfold IsWrapper
  infer_instance

/-- The interface, with the last packet that `BotReadCBW` accepted. -/
structure Received where
  m : BotIf
  last : Option (List UInt8)

/-- The packet is taken for a wrapper, and `BotReadCBW` accepts it. -/
def Received.Accepts (s : Received) (packet : List UInt8) : Prop :=
  s.m.scsiDataOutLen = 0 ∧ (botReadCBW s.m packet).1 = false

instance (s : Received) (packet : List UInt8) : Decidable (s.Accepts packet) := by
  unfold Received.Accepts
  infer_instance

/-- The last accepted packet after an event. -/
def Received.next (s : Received) : BotEvent → Option (List UInt8)
  | .packet bytes => if s.Accepts bytes then some bytes else s.last
  | .process => s.last
  | .disconnect => s.last

/-- An event of the interface. -/
def Received.step (s : Received) (e : BotEvent) : Received := ⟨botStep s.m e, s.next e⟩

/-- The offsets of the tag, the length, the flags, the logical unit and the operation code. -/
def wrapperFields : List ℕ := [4, 5, 6, 7, 8, 9, 10, 11, 12, 13, 15]

/-- **The event leaves the wrapper to its command**: a packet that is rejected leaves it as it is, and
a command that is run takes its fields from the bytes of the last packet that was accepted. -/
def OwnBytes (s : Received) : BotEvent → Prop
  | .packet bytes => s.m.scsiDataOutLen = 0 → (botReadCBW s.m bytes).1 = true →
      (botStep s.m (.packet bytes)).cbw = s.m.cbw
  | .process => s.m.wakeupFlag = true →
      ∃ w, s.last = some w ∧ ∀ i ∈ wrapperFields, w[i]? = some (s.m.cbw i)
  | .disconnect => True

/-- A packet that is no wrapper holds the bytes that are there already, and a wrapper reaches up to the
operation code. -/
def Undisturbed (s : Received) : BotEvent → Prop
  | .packet bytes => s.m.scsiDataOutLen = 0 → bytes.length ≤ maxCbwLength →
      IsWrapper bytes ∨ slice s.m.cbw 0 bytes.length = bytes
  | .process => s.m.wakeupFlag = true → 15 < (s.last.getD []).length
  | .disconnect => True

instance (s : Received) : DecidablePred (Undisturbed s)
  | .packet bytes => inferInstanceAs (Decidable (s.m.scsiDataOutLen = 0 → bytes.length ≤ maxCbwLength →
      IsWrapper bytes ∨ slice s.m.cbw 0 bytes.length = bytes))
  | .process => inferInstanceAs (Decidable (s.m.wakeupFlag = true → 15 < (s.last.getD []).length))
  | .disconnect => instDecidableTrue

section Wrapper

variable {m : BotIf} {s : Received} {packet : List UInt8} {e : BotEvent}

theorem le32_congr {f g : ℕ → UInt8} {o : ℕ} (h : ∀ i, o ≤ i → i < o + 4 → f i = g i) :
    le32 f o = le32 g o := by
  unfold le32
  rw [slice_congr h]

/-- The first bytes of the memory are those of the packet. -/
theorem store_eq_block {f : ℕ → UInt8} {i : ℕ} (h : i < packet.length) :
    store f 0 packet i = block 0 packet i := by
  rw [store_zero_apply, block, List.getD_eq_getElem?_getD, List.getElem?_eq_getElem h]
  rfl

/-- **The accepted packets.** A short packet is always rejected, whatever is left in the memory. -/
theorem botReadCBW_iff : (botReadCBW m packet).1 = false ↔ IsWrapper packet := by
  unfold botReadCBW IsWrapper
  by_cases hlong : packet.length > maxCbwLength
  · rw [if_pos hlong]
    exact iff_of_false nofun fun h => absurd h.1 (by omega)
  rw [if_neg hlong]
  by_cases hnil : packet.length ≤ 0
  · rw [if_pos hnil]
    exact iff_of_false nofun fun h => absurd h.2.2 (by omega)
  rw [if_neg hnil]
  have hsig : (BotIf.wrapper { m with cbw := store m.cbw 0 packet }).dCBWSignature =
      le32 (store m.cbw 0 packet) 0 := rfl
  have hcb : (BotIf.wrapper { m with cbw := store m.cbw 0 packet }).bCBWCBLength =
      store m.cbw 0 packet 14 := rfl
  simp only [hsig, hcb]
  rcases Nat.lt_or_ge packet.length 15 with hshort | hlen
  · refine iff_of_false ?_ fun h => absurd h.2.2 (by omega)
    split_ifs
    · exact not_false
    · exact not_false
    · omega
  · have hword : le32 (store m.cbw 0 packet) 0 = le32 (block 0 packet) 0 :=
      le32_congr fun i _ hi => store_eq_block (by omega)
    have hbyte : store m.cbw 0 packet 14 = packet.getD 14 0 := store_eq_block (by omega)
    rw [hword, hbyte]
    constructor
    · intro h
      split_ifs at h with h1 h2
      exact ⟨by omega, not_not.mp h1, by omega⟩
    · rintro ⟨-, h1, h2⟩
      rw [if_neg (not_not.mpr h1), if_neg (by omega)]

/-- A packet that is not too long is copied over the wrapper, accepted or not. -/
theorem botReadCBW_cbw (h : packet.length ≤ maxCbwLength) :
    (botReadCBW m packet).2.cbw = store m.cbw 0 packet := by
  unfold botReadCBW
  rw [if_neg (by omega)]
  split_ifs with hnil
  · have hp : packet = [] := List.length_eq_zero_iff.mp (by omega)
    rw [hp, store_nil]
  simp only
  split_ifs <;> rfl

theorem botReadCBW_cbw_long (h : ¬ packet.length ≤ maxCbwLength) :
    (botReadCBW m packet).2 = m := by
  unfold botReadCBW
  rw [if_pos (by omega)]

theorem botReadCBW_rest : (botReadCBW m packet).2.scsiDataOutLen = m.scsiDataOutLen ∧
    (botReadCBW m packet).2.wakeupFlag = m.wakeupFlag := by
  unfold botReadCBW
  simp only
  split_ifs <;> exact ⟨rfl, rfl⟩

theorem video_cbw (m : BotIf) (b : Bool) : (m.video b).cbw = m.cbw := by
  unfold BotIf.video
  split_ifs <;> rfl

theorem botStart_cbw : (botStart m).cbw = m.cbw := by
  unfold botStart
  simp only
  split_ifs
  · exact video_cbw _ _
  · rfl
  · rfl
  · rfl

/-- The data of a command leave the wrapper alone. -/
theorem botRxHandler_cbw_data (h : m.scsiDataOutLen ≠ 0) : (botRxHandler m packet).cbw = m.cbw := by
  unfold botRxHandler
  rw [if_neg h]
  simp only
  split_ifs
  · rfl
  · exact video_cbw _ _
  · rfl

/-- **The invariant**: the memory starts with the last packet that was accepted, and there is one when a
command is queued or expects data. -/
structure Received.Ok (s : Received) : Prop where
  isWrapper : ∀ w, s.last = some w → IsWrapper w
  memory : ∀ w, s.last = some w → slice s.m.cbw 0 w.length = w
  queued : s.m.wakeupFlag = true → s.last.isSome
  expecting : s.m.scsiDataOutLen ≠ 0 → s.last.isSome

/-- The fields of a command lie in a wrapper exactly if it reaches up to the operation code. -/
theorem fields_iff {w : List UInt8} (hm : slice m.cbw 0 w.length = w) :
    (∀ i ∈ wrapperFields, w[i]? = some (m.cbw i)) ↔ 15 < w.length := by
  constructor
  · intro h
    exact (List.getElem?_eq_some_iff.mp (h 15 (by decide))).1
  · intro hlen i hi
    have hmax : ∀ i ∈ wrapperFields, i ≤ 15 := by decide
    have hi' : i < w.length := lt_of_le_of_lt (hmax i hi) hlen
    have hget : (slice m.cbw 0 w.length)[i]? = some (m.cbw i) := by
      rw [List.getElem?_eq_getElem (by rwa [length_slice]), getElem_slice, Nat.zero_add]
    rwa [hm] at hget

/-- **An event leaves the wrapper to its command exactly if it is undisturbed.** -/
theorem ownBytes_step_iff (hs : s.Ok) (e : BotEvent) : OwnBytes s e ↔ Undisturbed s e := by
  cases e with
  | packet bytes =>
    unfold OwnBytes Undisturbed
    refine imp_congr_right fun h0 => ?_
    by_cases hw : IsWrapper bytes
    · refine iff_of_true (fun hrej => ?_) fun _ => .inl hw
      rw [botReadCBW_iff.mpr hw] at hrej
      cases hrej
    · have hrej : (botReadCBW s.m bytes).1 = true := by
        rw [← Bool.not_eq_false]
        exact fun h => hw (botReadCBW_iff.mp h)
      have hstep : botStep s.m (.packet bytes) = (botReadCBW s.m bytes).2 := by
        simp only [botStep, botRxHandler]
        rw [if_pos h0, if_pos hrej]
      rw [hstep]
      by_cases hlen : bytes.length ≤ maxCbwLength
      · rw [botReadCBW_cbw hlen, store_eq_self_iff]
        simp only [hrej, hlen, hw, true_implies, false_or]
      · rw [botReadCBW_cbw_long hlen]
        exact iff_of_true (fun _ => rfl) fun hc => absurd hc hlen
  | process =>
    unfold OwnBytes Undisturbed
    refine imp_congr_right fun hflag => ?_
    obtain ⟨w, hw⟩ := Option.isSome_iff_exists.mp (hs.queued hflag)
    simp only [hw, Option.some.injEq, exists_eq_left', Option.getD_some]
    exact fields_iff (hs.memory w hw)
  | disconnect => exact Iff.rfl

/-- The invariant survives where the wrapper and its packet stay. -/
theorem Received.Ok.of_same {s' : Received} (hs : s.Ok) (hlast : s'.last = s.last)
    (hcbw : s'.m.cbw = s.m.cbw) (hq : s'.m.wakeupFlag = true → s.last.isSome)
    (hx : s'.m.scsiDataOutLen ≠ 0 → s.last.isSome) : s'.Ok := by
  constructor
  · rw [hlast]
    exact hs.isWrapper
  · rw [hlast, hcbw]
    exact hs.memory
  · rwa [hlast]
  · rwa [hlast]

/-- An undisturbed event keeps the invariant. -/
theorem Received.Ok.step (hs : s.Ok) (he : Undisturbed s e) : (s.step e).Ok := by
  cases e with
  | packet bytes =>
    by_cases hacc : s.Accepts bytes
    · -- a new wrapper
      have hw := botReadCBW_iff.mp hacc.2
      have hstep : botStep s.m (.packet bytes) = botStart (botReadCBW s.m bytes).2 := by
        simp only [botStep, botRxHandler]
        rw [if_pos hacc.1, if_neg (by rw [hacc.2]; decide)]
      have hlast : (s.step (.packet bytes)).last = some bytes := if_pos hacc
      have hcbw : (s.step (.packet bytes)).m.cbw = store s.m.cbw 0 bytes := by
        show (botStep s.m (.packet bytes)).cbw = _
        rw [hstep, botStart_cbw, botReadCBW_cbw hw.1]
      constructor
      · intro w h
        rw [hlast] at h
        exact Option.some.inj h ▸ hw
      · intro w h
        rw [hlast] at h
        obtain rfl := Option.some.inj h
        rw [hcbw]
        exact slice_store_same _ _ _
      · exact fun _ => hlast ▸ rfl
      · exact fun _ => hlast ▸ rfl
    · have hlast : (s.step (.packet bytes)).last = s.last := if_neg hacc
      by_cases h0 : s.m.scsiDataOutLen = 0
      · -- a packet that is rejected
        have hrej : (botReadCBW s.m bytes).1 = true := by
          rw [← Bool.not_eq_false]
          exact fun h => hacc ⟨h0, h⟩
        have hcbw := (ownBytes_step_iff hs _).mpr he h0 hrej
        have hstep : botStep s.m (.packet bytes) = (botReadCBW s.m bytes).2 := by
          simp only [botStep, botRxHandler]
          rw [if_pos h0, if_pos hrej]
        obtain ⟨hout, hflag⟩ : (botStep s.m (.packet bytes)).scsiDataOutLen = s.m.scsiDataOutLen ∧
            (botStep s.m (.packet bytes)).wakeupFlag = s.m.wakeupFlag := by
          rw [hstep]
          exact botReadCBW_rest
        exact hs.of_same hlast hcbw (fun h => hs.queued (hflag ▸ h)) fun h => hs.expecting (hout ▸ h)
      · -- data of a command
        have hsome := hs.expecting h0
        have hcbw : (s.step (.packet bytes)).m.cbw = s.m.cbw := botRxHandler_cbw_data h0
        exact hs.of_same hlast hcbw (fun _ => hsome) fun _ => hsome
  | process =>
    have hcbw : (botStep s.m .process).cbw = s.m.cbw ∧
        (botStep s.m .process).scsiDataOutLen = s.m.scsiDataOutLen ∧
        ((botStep s.m .process).wakeupFlag = true → s.m.wakeupFlag = true) := by
      simp only [botStep, processInterfaceHandler]
      split_ifs with hflag
      · have hframe := botProcessHandler_frame (m := { s.m with wakeupFlag := false })
        exact ⟨hframe.cbw, hframe.scsiDataOutLen, fun _ => hflag⟩
      · exact ⟨rfl, rfl, id⟩
    obtain ⟨hcbw, hout, hflag⟩ := hcbw
    exact hs.of_same rfl hcbw (fun h => hs.queued (hflag h)) fun h => hs.expecting (hout ▸ h)
  | disconnect => exact hs.of_same rfl rfl hs.queued fun h => absurd rfl h

end Wrapper

/-- **The wrapper of a queued command.** For every sequence of packets, command runs and disconnects,
rejected packets leave the wrapper as it is and commands run with the bytes of the last accepted packet
if and only if every event is undisturbed. -/
theorem ownBytes_iff (m : BotIf) (hq : m.wakeupFlag = false) (hx : m.scsiDataOutLen = 0)
    (es : List BotEvent) :
    AllSteps Received.step OwnBytes ⟨m, none⟩ es ↔ AllSteps Received.step Undisturbed ⟨m, none⟩ es := by
  refine allSteps_congr (fun s e hs => ownBytes_step_iff hs e) (fun s e hs he => hs.step he) ?_
  constructor
  · exact nofun
  · exact nofun
  · intro h
    rw [hq] at h
    cases h
  · exact fun h => absurd hx h

theorem ownBytes_iff_write : AllSteps Received.step OwnBytes ⟨massIf, none⟩
    [.packet (cbwPacket 1 4 0x00 0 scsiWrite10), .packet [1, 2, 3, 4], .process] :=
  (ownBytes_iff massIf rfl rfl _).mpr (by decide +kernel)

/-- **A rejected packet changes the command that is queued.** -/
theorem not_ownBytes_bad_signature : ¬ AllSteps Received.step OwnBytes ⟨massIf, none⟩
    [.packet (cbwPacket 1 0 0x80 0 scsiTestUnitReady), .packet (List.replicate 16 0x2A)] := by
  rintro ⟨-, h, -⟩
  have hcbw := congrFun (h (by decide +kernel) (by decide +kernel)) 0
  exact absurd hcbw (by decide +kernel)

end BmcUsb
