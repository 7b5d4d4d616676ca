import Mathlib
import Bmc.Asd.Dispatch
import Bmc.Asd.I2cRounds
import Bmc.Asd.JtagSafety
import Bmc.Asd.Reassembly

/-!
# Requests and replies

What the client gets back for the messages it sends, on a connection that takes every frame.

* `Sends`: the frames that a piece of code sends;
* `jtagRun_kept`, `i2cCommand_i2cSends`: the loops over the commands of a packet;
* `AnswersMessage`: the frames that answer one message; `asdMsgOnMsgRecv_answered`;
* `RepliesTo`: the frames for the messages of a stream; **`readAll_served`**: whatever bytes arrive, and
  however they are cut, every message gets its answer before the next one is looked at.
-/

namespace BmcAsd

open BmcLib

/-! ## Frames -/

/-- Between `s` and `s'` the frames `fs` are sent, and the handlers are not initialised. -/
structure Sends (s s' : AsdMsg) (fs : List Frame) : Prop where
  network : s'.network = s.network.calls fs
  initialized : s'.handlersInitialized = s.handlersInitialized

/-- The frame of an error. -/
def errorFrame (h : MessageHeader) (cmdStat : UInt8) : Frame := ⟨errorHeader h cmdStat, []⟩

/-- The connection takes every frame. -/
def AsdMsg.Connected (s : AsdMsg) : Prop := ∀ n, s.network.answers n = true

section Sends

variable {s s₁ s₂ s₃ : AsdMsg} {fs gs : List Frame}

theorem sends_nil (h : s₂.network = s₁.network) (hi : s₂.handlersInitialized = s₁.handlersInitialized) :
    Sends s₁ s₂ [] :=
  ⟨by rw [h, Device.calls_nil], hi⟩

theorem Sends.refl (s : AsdMsg) : Sends s s [] := sends_nil rfl rfl

theorem Sends.trans (h : Sends s₁ s₂ fs) (h' : Sends s₂ s₃ gs) : Sends s₁ s₃ (fs ++ gs) where
  network := by rw [h'.network, h.network, Device.calls_calls]
  initialized := h'.initialized.trans h.initialized

theorem Sends.connected (h : Sends s₁ s₂ fs) (hc : s₁.Connected) : s₂.Connected := by
  intro n
  rw [h.network]
  exact hc n

/-- An error message is one frame. -/
theorem sends_error (s : AsdMsg) (h : MessageHeader) (e : UInt8) :
    Sends s (sendErrorMessage s h e) [errorFrame h e] := by
  rw [sendErrorMessage_eq]
  exact ⟨rfl, rfl⟩

/-- A message whose size field is valid is one frame. -/
theorem sends_response {n : ℕ} (m : AsdMessage) (h : getMessageSize m.header = some n) :
    Sends s (sendResponse s m).2 [⟨m.header, slice m.buffer 0 n⟩] := by
  rw [sendResponse_eq s m h]
  exact ⟨rfl, rfl⟩

end Sends

/-! ## The JTAG loop sends nothing -/

/-- The parts of the state that JTAG messages leave alone. -/
def AsdMsg.kept (s : AsdMsg) : Device Frame Bool × Bool × Ixc := (s.network, s.handlersInitialized, s.ixc)

section Jtag

variable {l l₀ : JtagLoop} {cmd : UInt8}

theorem withData_kept {n : ℕ} {k : List UInt8 → JtagLoop → JtagLoop} (h : l.st.kept = l₀.st.kept)
    (hk : ∀ bytes l', l'.st.kept = l₀.st.kept → (k bytes l').st.kept = l₀.st.kept) :
    (l.withData n k).st.kept = l₀.st.kept := by
  unfold JtagLoop.withData
  split
  · exact h
  · exact hk _ _ h

theorem writeEventConfig_kept (s : AsdMsg) (dataByte : UInt8) :
    (writeEventConfig s dataByte).2.kept = s.kept := by
  unfold writeEventConfig
  split <;> rfl

theorem paddingCfg_kept (n : ℕ) (p : PaddingType) : (paddingCfg l n p).st.kept = l.st.kept :=
  withData_kept rfl fun _ _ h => h

theorem writeCfg_kept : (writeCfg l cmd).st.kept = l.st.kept := by
  unfold writeCfg
  split_ifs
  · exact withData_kept rfl fun _ _ h => h
  · exact paddingCfg_kept _ _
  · exact paddingCfg_kept _ _
  · exact paddingCfg_kept _ _
  · exact paddingCfg_kept _ _
  · exact withData_kept rfl fun _ _ h => h
  · rfl

theorem skipWaitCycles_kept : (skipWaitCycles l).st.kept = l.st.kept := by
  refine whileN_inv (P := fun s : Bool × JtagLoop => s.2.st.kept = l.st.kept) ?_ rfl _
  intro s hs _
  unfold skipWaitCyclesStep
  split
  · exact hs
  · dsimp only
    split_ifs <;> exact hs

theorem readChainBytes_kept (n : ℕ) {l : JtagLoop} {i : ℕ} :
    (readChainBytes l i n).st.kept = l.st.kept := by
  induction n generalizing l i with
  | zero => rfl
  | succ n ih =>
    unfold readChainBytes
    split
    · rfl
    · exact ih

theorem asdWriteSetActiveChainEvent_kept (s : AsdMsg) (scanChain : ℕ) :
    (asdWriteSetActiveChainEvent s scanChain).2.kept = s.kept := by
  unfold asdWriteSetActiveChainEvent
  dsimp only
  split_ifs <;> rfl

theorem selectChain_kept (selected : ℕ) : (selectChain l selected).st.kept = l.st.kept := by
  unfold selectChain
  split
  · split_ifs
    · rfl
    · exact asdWriteSetActiveChainEvent_kept _ _
  · exact readChainBytes_kept _

theorem writePins_kept (data : UInt8) : (writePins l data).st.kept = l.st.kept := by
  unfold writePins
  dsimp only
  split
  · split_ifs
    · rfl
    · exact skipWaitCycles_kept
    · rfl
  · split_ifs
    · exact selectChain_kept _
    · rfl

theorem readStatus_kept (index pin : UInt8) : (readStatus l index pin).st.kept = l.st.kept := by
  unfold readStatus
  dsimp only
  split_ifs <;> rfl

theorem scanTransfer_kept (t : ScanType) (input : Option (List UInt8)) (e : TapState) :
    (scanTransfer l t cmd input e).st.kept = l.st.kept := by
  unfold scanTransfer
  dsimp only
  cases (jtagShift l.st.jtagHandler (getScanLength cmd).1 (input.map (block 0))
    (if t = .write then none else some (getScanLength cmd).2) e).output with
  | none => split_ifs <;> rfl
  | some tdo => split_ifs <;> rfl

theorem scanShift_kept (t : ScanType) (input : Option (List UInt8)) :
    (scanShift l t cmd input).st.kept = l.st.kept := by
  unfold scanShift
  dsimp only
  split_ifs
  · rfl
  · exact scanTransfer_kept _ _ _

theorem beginRead_kept {k : JtagLoop → JtagLoop}
    (hk : ∀ l', l'.st.kept = l.st.kept → (k l').st.kept = l.st.kept) :
    (beginRead l cmd k).st.kept = l.st.kept := by
  unfold beginRead
  split_ifs
  · rfl
  · exact hk _ rfl

theorem ite_kept {c : Prop} [Decidable c] {a b : JtagLoop} (ha : c → a.st.kept = l.st.kept)
    (hb : ¬ c → b.st.kept = l.st.kept) : (if c then a else b).st.kept = l.st.kept := by
  by_cases h : c
  · rw [if_pos h]
    exact ha h
  · rw [if_neg h]
    exact hb h

theorem jtagDispatch_kept : (jtagDispatch l cmd).st.kept = l.st.kept := by
  unfold jtagDispatch
  refine ite_kept (fun _ => ?_) fun _ => ite_kept (fun _ => writeCfg_kept) fun _ => ?_
  · exact withData_kept rfl fun _ l' h => (writeEventConfig_kept l'.st _).trans h
  refine ite_kept (fun _ => ?_) fun _ => ite_kept (fun _ => ?_) fun _ => ?_
  · exact withData_kept rfl fun _ _ h => (writePins_kept _).trans h
  · refine withData_kept rfl fun _ l' h => ?_
    split_ifs
    · exact h
    · exact (readStatus_kept _ _).trans h
  refine ite_kept (fun _ => ?_) fun _ => ite_kept (fun _ => rfl) fun _ => ?_
  · exact withData_kept rfl fun _ _ h => h
  refine ite_kept (fun _ => rfl) fun _ => ite_kept (fun _ => rfl) fun _ => ?_
  refine ite_kept (fun _ => ?_) fun _ => ite_kept (fun _ => rfl) fun _ => ?_
  · exact withData_kept rfl fun _ _ h => h
  refine ite_kept (fun _ => ?_) fun _ => ite_kept (fun _ => ?_) fun _ => ?_
  · exact withData_kept rfl fun _ _ h => (scanShift_kept _ _).trans h
  · exact beginRead_kept fun _ h => (scanShift_kept _ _).trans h
  refine ite_kept (fun _ => ?_) fun _ => rfl
  refine beginRead_kept fun _ h => withData_kept h fun _ _ h' => ?_
  exact (scanShift_kept _ _).trans h'

/-- No round of the JTAG loop sends a frame, initialises the handlers or uses a bus. -/
theorem jtagRun_kept (n : ℕ) : (whileN JtagLoop.goesOn jtagCommand n l).st.kept = l.st.kept := by
  refine whileN_inv (P := fun l' : JtagLoop => l'.st.kept = l.st.kept) ?_ rfl n
  intro l' h _
  exact withData_kept h fun _ _ h' => jtagDispatch_kept.trans h'

end Jtag

/-! ## Answers -/

/-- A frame that reports success, with its payload. -/
def servedFrame (h : MessageHeader) (payload : List UInt8) : Frame :=
  ⟨packetHeader h payload.length asdSuccess, payload⟩

/-- A frame that precedes the answer to an I2C message: a full packet of responses, or the report of a
lock by a bus selection, under a header that is not that of the message. -/
inductive Between (h : MessageHeader) : Frame → Prop
  | continuation (payload : List UInt8) (hp : payload.length ≤ maxDataSize) :
    Between h ⟨packetHeader h payload.length (asdSuccess ||| asdPacketContinuation), payload⟩
  | busLock (stray : MessageHeader) (e : UInt8) (he : e = asdFailureRemoveI2cLock ∨ e = asdFailureProcessI2cLock) :
    Between h (errorFrame stray e)

/-- The frames for a message that reaches `process_message`. -/
inductive Processed (h : MessageHeader) : List Frame → Prop
  | refused (e : UInt8) (hs : ¬ h.Supported ∧ e = asdMsgNotSupported ∨ h.Supported ∧ h.type = i2cType ∧
      (e = asdFailureProcessI2cLock ∨ e = asdI2cMsgNotSupported)) : Processed h [errorFrame h e]
  | jtag (hs : h.Supported) (ht : h.type = jtagType) (f : Frame)
      (hf : f = errorFrame h asdFailureProcessJtagMsg ∨
        ∃ payload : List UInt8, payload.length ≤ maxDataSize ∧ f = servedFrame h payload) : Processed h [f]
  | i2c (hs : h.Supported) (ht : h.type = i2cType) (between : List Frame) (hb : ∀ f ∈ between, Between h f) (f : Frame)
      (hf : f = errorFrame h asdFailureProcessI2cMsg ∨
        ∃ payload : List UInt8, payload.length ≤ maxDataSize ∧ f = servedFrame h payload)
      (unlock : List Frame) (hu : unlock = [] ∨ unlock = [errorFrame h asdFailureRemoveI2cLock]) :
    Processed h (between ++ f :: unlock)

/-- The frames that answer a message, given by its header and payload; the handlers are initialised
before it and after it as the two flags say. -/
inductive AnswersMessage : Bool → Bool → MessageHeader × List UInt8 → List Frame → Prop
  | encrypted {b : Bool} {h : MessageHeader} {p : List UInt8} (he : h.encBit ≠ 0) :
    AnswersMessage b b (h, p) [errorFrame h asdMsgCrypyNotSupported]
  | control {b : Bool} {h : MessageHeader} {p : List UInt8} (ht : h.type = agentControlType) (hl : h.cmdStat ≠ loopbackCmd)
      (f : Frame) (hf : h.cmdStat = supportedRemoteProbesCmd ∧ f = errorFrame h asdFailureInitVprobeHandler ∨
        ∃ payload : List UInt8, payload.length ≤ maxDataSize ∧ f = servedFrame h payload) : AnswersMessage b b (h, p) [f]
  | loopback {b : Bool} {h : MessageHeader} {p : List UInt8} (ht : h.type = agentControlType) (hl : h.cmdStat = loopbackCmd) :
    AnswersMessage b b (h, p) [⟨h, p⟩]
  | unready {h : MessageHeader} {p : List UInt8} (ht : h.type ≠ agentControlType) (e : UInt8)
      (he : e = asdFailureInitJtagHandler ∨ e = asdFailureInitI2cHandler ∨ e = asdFailureXdpPresent) :
    AnswersMessage false false (h, p) [errorFrame h e]
  | first {h : MessageHeader} {p : List UInt8} (ht : h.type ≠ agentControlType) (xdp fs : List Frame)
      (hx : xdp = [] ∨ xdp = [errorFrame h asdFailureXdpPresent]) (hp : Processed h fs) :
    AnswersMessage false true (h, p) (xdp ++ fs)
  | later {h : MessageHeader} {p : List UInt8} (ht : h.type ≠ agentControlType) (fs : List Frame) (hp : Processed h fs) :
    AnswersMessage true true (h, p) fs

/-! ## JTAG messages -/

section Messages

variable {s : AsdMsg} {m : AsdMessage} {n : ℕ}

/-- A reply with `cnt` bytes of `out_msg`. -/
theorem sends_served {h : MessageHeader} {cnt : ℕ} (hcnt : cnt ≤ maxDataSize)
    (hh : s.outMsg.header = packetHeader h cnt asdSuccess) :
    ∃ payload : List UInt8, payload.length ≤ maxDataSize ∧ Sends s (sendResponse s s.outMsg).2 [servedFrame h payload] := by
  have hsize : getMessageSize s.outMsg.header = some cnt := by
    rw [hh]
    exact getMessageSize_packetHeader h hcnt _
  refine ⟨slice s.outMsg.buffer 0 cnt, by rw [length_slice]; exact hcnt, ?_⟩
  have hsend := sends_response (s := s) s.outMsg hsize
  rwa [hh, show (⟨packetHeader h cnt asdSuccess, slice s.outMsg.buffer 0 cnt⟩ : Frame) =
    servedFrame h (slice s.outMsg.buffer 0 cnt) by rw [servedFrame, length_slice]] at hsend

/-- The status of a reply on a connection that takes every frame. -/
theorem sendResponse_status (hc : s.Connected) {cnt : ℕ} (hsize : getMessageSize m.header = some cnt) :
    (sendResponse s m).1 = .ok := by
  rw [sendResponse_eq s m hsize]
  exact if_pos (hc _)

theorem processJtag_sends (hc : s.Connected) (hn : getMessageSize m.header = some n) :
    ∃ f, (f = errorFrame m.header asdFailureProcessJtagMsg ∨
        ∃ payload : List UInt8, payload.length ≤ maxDataSize ∧ f = servedFrame m.header payload) ∧
      Sends s (processJtag s m) [f] := by
  set l := whileN JtagLoop.goesOn jtagCommand n (jtagLoopStart s m n) with hl
  have hquiet : Sends s l.st [] :=
    sends_nil (congrArg Prod.fst (jtagRun_kept n)) (congrArg (fun k => k.2.1) (jtagRun_kept n))
  have hb : l.Bounded := whileN_inv (P := fun l : JtagLoop => l.Bounded)
    (fun _ hb hg => (jtagCommand_bounded hb hg).1) (jtagLoopStart_bounded s m n) n
  have hproc : processJtagMessage s m = jtagReply l m := by rw [processJtagMessage, hn]
  unfold processJtag
  rw [hproc, jtagReply]
  by_cases hs : l.status = .ok
  · rw [if_pos hs]
    set r := l.st.setOutHeader { m.header.withSize l.responseCnt with cmdStat := asdSuccess } with hr
    obtain ⟨payload, hp, hsend⟩ := sends_served (s := r) (h := m.header) hb.response rfl
    have hok : (sendResponse r r.outMsg).1 = .ok :=
      sendResponse_status (hquiet.connected hc) (getMessageSize_packetHeader m.header hb.response _)
    refine ⟨_, Or.inr ⟨payload, hp, rfl⟩, ?_⟩
    dsimp only
    rw [if_pos hok]
    exact Sends.trans (show Sends _ r _ from ⟨hquiet.network, hquiet.initialized⟩) hsend
  · rw [if_neg hs]
    dsimp only
    rw [if_neg hs]
    exact ⟨_, Or.inl rfl, hquiet.trans (sends_error l.st _ _)⟩

end Messages

/-! ## I2C messages -/

/-- What the loop over an I2C packet for the header `h`, begun in the state `s₀`, keeps about the state. -/
structure Serving (h : MessageHeader) (s₀ s : AsdMsg) : Prop where
  connected : s.Connected
  header : ∀ n c, packetHeader s.outMsg.header n c = packetHeader h n c
  sends : ∃ fs, Sends s₀ s fs ∧ ∀ f ∈ fs, Between h f

/-- The invariant of the loop. -/
structure I2cSends (h : MessageHeader) (s₀ : AsdMsg) (l : I2cLoop) : Prop where
  serving : Serving h s₀ l.st
  room : l.responseCnt ≤ maxDataSize
  short : ∀ m ∈ l.builder, m.length ≤ 15

section I2c

variable {h : MessageHeader} {s₀ s : AsdMsg} {l : I2cLoop}

theorem Serving.after (hs : Serving h s₀ s) {s' : AsdMsg} (fs : List Frame) (hsend : Sends s s' fs)
    (hfs : ∀ f ∈ fs, Between h f) (hh : ∀ n c, packetHeader s'.outMsg.header n c = packetHeader s.outMsg.header n c) :
    Serving h s₀ s' := by
  obtain ⟨gs, hgs, hg⟩ := hs.sends
  exact ⟨hsend.connected hs.connected, fun n c => (hh n c).trans (hs.header n c), gs ++ fs, hgs.trans hsend,
    List.forall_mem_append.mpr ⟨hg, hfs⟩⟩

/-- A piece of code that sends no frame and leaves the header of `out_msg` alone. -/
theorem Serving.quiet (hs : Serving h s₀ s) (s' : AsdMsg) (hn : s'.network = s.network)
    (hi : s'.handlersInitialized = s.handlersInitialized) (ho : s'.outMsg.header = s.outMsg.header) : Serving h s₀ s' :=
  hs.after [] (sends_nil hn hi) (fun _ hf => absurd hf List.not_mem_nil) fun _ _ => by rw [ho]

/-- A full packet of responses. -/
theorem sendContinuation_serving {cnt : ℕ} (hs : Serving h s₀ s) (hcnt : cnt ≤ maxDataSize) :
    (sendContinuation s cnt).1 = .ok ∧ Serving h s₀ (sendContinuation s cnt).2 := by
  rw [sendContinuation_ok hs.connected hcnt]
  have hlen : (slice s.outMsg.buffer 0 cnt).length = cnt := length_slice _ _ _
  refine ⟨rfl, hs.after [⟨packetHeader h cnt (asdSuccess ||| asdPacketContinuation), slice s.outMsg.buffer 0 cnt⟩] ?_ ?_
    fun _ _ => rfl⟩
  · rw [← hs.header]
    exact ⟨rfl, rfl⟩
  · have hf := Between.continuation (h := h) (slice s.outMsg.buffer 0 cnt) (by rw [hlen]; exact hcnt)
    rw [hlen] at hf
    exact List.forall_mem_singleton.mpr hf

/-- The responses of a transaction. -/
theorem buildResponses_serving (ack : Bool) (msgs : List I2cMsg) {s : AsdMsg} {cnt : ℕ} (hs : Serving h s₀ s)
    (hcnt : cnt ≤ maxDataSize) (hlen : ∀ m ∈ msgs, m.length ≤ 15) :
    Serving h s₀ (buildResponses s cnt ack msgs).2.1 := by
  induction msgs generalizing s cnt with
  | nil => exact hs
  | cons m msgs ih =>
    have hm := hlen m List.mem_cons_self
    have hrest : ∀ m ∈ msgs, m.length ≤ 15 := fun m' hm' => hlen m' (List.mem_cons_of_mem m hm')
    have hframe : (i2cFrame m ack).length ≤ m.length + 2 := by
      rw [length_i2cFrame]
      split_ifs <;> omega
    have hmax : 17 ≤ maxDataSize := by decide
    by_cases hfull : maxDataSize < m.length + cnt + 2
    · obtain ⟨hok, hs'⟩ := sendContinuation_serving hs hcnt
      rw [buildResponses_full hfull, if_pos hok]
      exact ih (hs'.quiet ((sendContinuation s cnt).2.respond 0 (i2cFrame m ack)) rfl rfl rfl) (by omega) hrest
    · rw [buildResponses_room (by omega)]
      exact ih (hs.quiet (s.respond cnt (i2cFrame m ack)) rfl rfl rfl) (by omega) hrest

/-- A bus selection sends nothing but reports of locks. -/
theorem busSelectCommand_serving (hs : Serving h s₀ s) (bus : UInt8) : Serving h s₀ (busSelectCommand s bus).2 := by
  have herror : ∀ (t : AsdMsg) (stray : MessageHeader) (e : UInt8), Serving h s₀ t →
      (e = asdFailureRemoveI2cLock ∨ e = asdFailureProcessI2cLock) → Serving h s₀ (sendErrorMessage t stray e) := by
    intro t stray e ht he
    refine ht.after _ (sends_error t stray e) (List.forall_mem_singleton.mpr (.busLock stray e he)) ?_
    rw [sendErrorMessage_eq]
    exact fun _ _ => rfl
  have hset : ∀ (t : AsdMsg) (x : Ixc), Serving h s₀ t → Serving h s₀ (t.setIxc x) := fun t x ht => ht.quiet _ rfl rfl rfl
  have hrelease : Serving h s₀ (releaseDefaultBus s) := by
    unfold releaseDefaultBus
    dsimp only
    split_ifs
    · exact hset _ _ hs
    · exact herror _ _ _ (hset _ _ hs) (Or.inl rfl)
  unfold busSelectCommand
  split_ifs
  · dsimp only
    split_ifs
    · exact hset _ _ (hset _ _ hrelease)
    · exact herror _ _ _ (hset _ _ hrelease) (Or.inr rfl)
  · exact hset _ _ hs

theorem withData_i2cSends (hl : I2cSends h s₀ l) {n : ℕ} {k : List UInt8 → I2cLoop → I2cLoop}
    (hk : ∀ bytes l', I2cSends h s₀ l' → I2cSends h s₀ (k bytes l')) : I2cSends h s₀ (l.withData n k) := by
  unfold I2cLoop.withData
  split
  · exact ⟨hl.serving, hl.room, hl.short⟩
  · exact hk _ _ ⟨hl.serving.quiet (l.st.touch _) rfl rfl rfl, hl.room, hl.short⟩

theorem add_i2cSends (hl : I2cSends h s₀ l) {msg : I2cMsg} (hm : msg.length ≤ 15) : I2cSends h s₀ (l.add msg) := by
  have hshort : ∀ m ∈ (i2cMsgAdd l.st l.builder msg).2.2, m.length ≤ 15 := by
    unfold i2cMsgAdd
    dsimp only
    split_ifs
    · exact List.forall_mem_append.mpr ⟨hl.short, List.forall_mem_singleton.mpr hm⟩
    · exact hl.short
    · exact hl.short
  have hserving : Serving h s₀ (i2cMsgAdd l.st l.builder msg).2.1 := by
    unfold i2cMsgAdd
    dsimp only
    split_ifs <;> exact hl.serving.quiet _ rfl rfl rfl
  exact ⟨hserving, hl.room, hshort⟩

theorem i2cLength_le (cmd : UInt8) : (cmd &&& i2cLengthMask).toNat ≤ 15 := by
  rw [UInt8.toNat_and]
  exact Nat.and_le_right

theorem doBusSelectCommand_i2cSends (hl : I2cSends h s₀ l) : I2cSends h s₀ (doBusSelectCommand l) := by
  unfold doBusSelectCommand
  split
  · exact hl
  · exact ⟨busSelectCommand_serving (hl.serving.quiet (l.st.touch _) rfl rfl rfl) _, hl.room, hl.short⟩

theorem doReadCommand_i2cSends (hl : I2cSends h s₀ l) (cmd : UInt8) : I2cSends h s₀ (doReadCommand l cmd) := by
  refine withData_i2cSends (l := { l with forceStop := false }) ⟨hl.serving, hl.room, hl.short⟩ fun bytes l' h' => ?_
  exact add_i2cSends (l := { l' with forceStop := i2cForceStop (bytes.headD 0) }) ⟨h'.serving, h'.room, h'.short⟩
    (i2cLength_le cmd)

theorem doWriteCommand_i2cSends (hl : I2cSends h s₀ l) (cmd : UInt8) : I2cSends h s₀ (doWriteCommand l cmd) := by
  refine withData_i2cSends (l := { l with forceStop := false }) ⟨hl.serving, hl.room, hl.short⟩ fun bytes l' h' => ?_
  exact withData_i2cSends (l := { l' with forceStop := i2cForceStop (bytes.headD 0) }) ⟨h'.serving, h'.room, h'.short⟩
    fun _ _ h'' => add_i2cSends h'' (i2cLength_le cmd)

theorem i2cDispatch_i2cSends (hl : I2cSends h s₀ l) (cmd : UInt8) : I2cSends h s₀ (i2cDispatch l cmd) := by
  have hread := doReadCommand_i2cSends hl cmd
  have hwrite := doWriteCommand_i2cSends hl cmd
  unfold i2cDispatch
  split_ifs
  · exact doBusSelectCommand_i2cSends hl
  · exact withData_i2cSends hl fun _ l' h' => ⟨h'.serving, h'.room, h'.short⟩
  · exact ⟨hread.serving, hread.room, hread.short⟩
  · exact ⟨hwrite.serving, hwrite.room, hwrite.short⟩
  · exact ⟨hl.serving, hl.room, hl.short⟩

/-- A transaction keeps the lengths of its messages. -/
theorem doReadWrite_short (x : Ixc) {msgs : List I2cMsg} (hm : ∀ m ∈ msgs, m.length ≤ 15) :
    ∀ m ∈ (doReadWrite x msgs).2.1, m.length ≤ 15 := by
  rw [doReadWrite_eq]
  unfold readWriteFile
  split
  · exact hm
  · intro m hmem
    obtain ⟨i, hi, rfl⟩ := List.mem_mapIdx.mp hmem
    have hi15 := hm _ (List.getElem_mem hi)
    split_ifs <;> exact hi15

theorem flushI2c_i2cSends (hl : I2cSends h s₀ l) : I2cSends h s₀ (flushI2c l) := by
  have hshort := doReadWrite_short l.st.ixc hl.short
  have hserving : Serving h s₀ (l.st.setIxc (doReadWrite l.st.ixc l.builder).2.2) := hl.serving.quiet _ rfl rfl rfl
  have hbuild := buildResponses_serving (decide ((doReadWrite l.st.ixc l.builder).1 = .ok)) _ hserving hl.room hshort
  have hok := @buildResponses_ok _ _ (decide ((doReadWrite l.st.ixc l.builder).1 = .ok)) _ hserving.connected hl.room hshort
  unfold flushI2c
  dsimp only
  split_ifs
  · exact ⟨hbuild, hok.2, fun m hm => absurd hm List.not_mem_nil⟩
  · exact ⟨hbuild, hok.2, hshort⟩

theorem i2cCommand_i2cSends (hl : I2cSends h s₀ l) : I2cSends h s₀ (i2cCommand l) := by
  have hd := withData_i2cSends hl (n := 1) fun bytes l' h' => i2cDispatch_i2cSends h' (bytes.headD 0)
  unfold i2cCommand i2cRoundEnd
  split_ifs
  · exact ⟨hd.serving, hd.room, hd.short⟩
  · exact flushI2c_i2cSends hd
  · exact hd

end I2c

section Messages

variable {s : AsdMsg} {m : AsdMessage} {n : ℕ}

/-- The frames `fs`, and behind them a reply exactly if the status is `ST_OK`. -/
def RepliesIfOk (h : MessageHeader) (s : AsdMsg) (r : Status × AsdMsg) (fs : List Frame) : Prop :=
  if r.1 = .ok then ∃ payload : List UInt8, payload.length ≤ maxDataSize ∧ Sends s r.2 (fs ++ [servedFrame h payload])
  else Sends s r.2 fs

theorem repliesIfOk_err {h : MessageHeader} {s' : AsdMsg} {fs : List Frame} (hs : Sends s s' fs) :
    RepliesIfOk h s (.err, s') fs := by
  rw [RepliesIfOk, if_neg Status.noConfusion]
  exact hs

/-- The reply after the loop over an I2C packet. -/
theorem i2cReply_sends {h : MessageHeader} {l : I2cLoop} (hl : I2cSends h s l) :
    ∃ fs, (∀ f ∈ fs, Between h f) ∧ RepliesIfOk h s (i2cReply l) fs := by
  obtain ⟨fs, hs, hfs⟩ := hl.serving.sends
  refine ⟨fs, hfs, ?_⟩
  unfold i2cReply
  by_cases hok : l.status = .ok
  · rw [if_pos hok]
    set r := l.st.setOutHeader { l.st.outMsg.header.withSize l.responseCnt with cmdStat := asdSuccess } with hr
    have hh : r.outMsg.header = packetHeader h l.responseCnt asdSuccess := hl.serving.header _ _
    obtain ⟨payload, hp, hsend⟩ := sends_served hl.room hh
    have hsize : getMessageSize r.outMsg.header = some l.responseCnt := by
      rw [hh]
      exact getMessageSize_packetHeader h hl.room _
    rw [RepliesIfOk, if_pos (sendResponse_status (s := r) (m := r.outMsg) hl.serving.connected hsize)]
    exact ⟨payload, hp, Sends.trans (show Sends _ r _ from ⟨hs.network, hs.initialized⟩) hsend⟩
  · rw [if_neg hok, RepliesIfOk, if_neg hok]
    exact hs

/-- The frames of `process_i2c_messages`. -/
theorem processI2cMessages_sends (hc : s.Connected) (hn : getMessageSize m.header = some n) :
    ∃ fs, (∀ f ∈ fs, Between m.header f) ∧ RepliesIfOk m.header s (processI2cMessages s m) fs := by
  have hnone : ∀ f ∈ ([] : List Frame), Between m.header f := fun f hf => absurd hf List.not_mem_nil
  unfold processI2cMessages
  dsimp only
  rw [hn]
  dsimp only
  split_ifs
  · refine i2cReply_sends (whileN_inv (P := fun l : I2cLoop => I2cSends m.header s l)
      (fun _ hl _ => i2cCommand_i2cSends hl) ?_ n)
    exact ⟨⟨hc, fun _ _ => rfl, [], sends_nil rfl rfl, hnone⟩, Nat.zero_le _, fun _ hm => absurd hm List.not_mem_nil⟩
  · exact ⟨[], hnone, repliesIfOk_err (sends_nil rfl rfl)⟩
  · exact ⟨[], hnone, repliesIfOk_err (sends_nil rfl rfl)⟩

theorem flockDefaultBus_sends (s : AsdMsg) (op : LockOp) : Sends s (flockDefaultBus s op).2 [] :=
  sends_nil rfl rfl

theorem processLocked_sends (hc : s.Connected) (hn : getMessageSize m.header = some n) (hs : m.header.Supported)
    (ht : m.header.type = i2cType) : ∃ fs, Processed m.header fs ∧ Sends s (processLocked s m) fs := by
  obtain ⟨fs, hfs, hsend⟩ := processI2cMessages_sends hc hn
  have hanswer : ∃ f, (f = errorFrame m.header asdFailureProcessI2cMsg ∨
      ∃ payload : List UInt8, payload.length ≤ maxDataSize ∧ f = servedFrame m.header payload) ∧
      Sends s (if (processI2cMessages s m).1 = .ok then (processI2cMessages s m).2
        else sendErrorMessage (processI2cMessages s m).2 m.header asdFailureProcessI2cMsg) (fs ++ [f]) := by
    rw [RepliesIfOk] at hsend
    split_ifs at hsend ⊢
    · obtain ⟨payload, hp, hsend⟩ := hsend
      exact ⟨_, Or.inr ⟨payload, hp, rfl⟩, hsend⟩
    · exact ⟨_, Or.inl rfl, hsend.trans (sends_error _ _ _)⟩
  obtain ⟨f, hf, hsends⟩ := hanswer
  unfold processLocked
  dsimp only
  generalize (if (processI2cMessages s m).1 = .ok then (processI2cMessages s m).2
    else sendErrorMessage (processI2cMessages s m).2 m.header asdFailureProcessI2cMsg) = t at hsends ⊢
  have hall := hsends.trans (flockDefaultBus_sends t .un)
  rw [List.append_nil] at hall
  split_ifs
  · exact ⟨_, .i2c hs ht fs hfs f hf [] (Or.inl rfl), hall⟩
  · refine ⟨_, .i2c hs ht fs hfs f hf _ (Or.inr rfl), ?_⟩
    have := hall.trans (sends_error _ m.header asdFailureRemoveI2cLock)
    rwa [List.append_assoc] at this

theorem processI2c_sends (hc : s.Connected) (hn : getMessageSize m.header = some n) (hs : m.header.Supported)
    (ht : m.header.type = i2cType) : ∃ fs, Processed m.header fs ∧ Sends s (processI2c s m) fs := by
  have hlock := flockDefaultBus_sends s .ex
  unfold processI2c
  dsimp only
  split_ifs
  · obtain ⟨fs, hfs, hsend⟩ := processLocked_sends (hlock.connected hc) hn hs ht
    exact ⟨fs, hfs, hlock.trans hsend⟩
  · exact ⟨_, .refused _ (Or.inr ⟨hs, ht, Or.inl rfl⟩), hlock.trans (sends_error _ _ _)⟩
  · exact ⟨_, .refused _ (Or.inr ⟨hs, ht, Or.inr rfl⟩), sends_error _ _ _⟩

theorem processMessage_sends (hc : s.Connected) (hn : getMessageSize m.header = some n) :
    ∃ fs, Processed m.header fs ∧ Sends s (processMessage s m) fs := by
  unfold processMessage
  split_ifs with hs ht
  · obtain ⟨f, hf, hsend⟩ := processJtag_sends hc hn
    exact ⟨[f], .jtag hs ht f hf, hsend⟩
  · exact processI2c_sends hc hn hs (hs.1.resolve_left ht)
  · exact ⟨_, .refused _ (Or.inl ⟨hs, rfl⟩), sends_error _ _ _⟩

end Messages

/-! ## Agent control messages -/

section Control

variable {h : MessageHeader} {s : AsdMsg} {m : AsdMessage} {n : ℕ}

/-- The header of a reply with a size of one byte. -/
def controlHeader (h : MessageHeader) (lsb : UInt8) : MessageHeader :=
  { h with sizeLsb := lsb, sizeMsb := 0, cmdStat := asdSuccess }

theorem controlHeader_eq (h : MessageHeader) (lsb : UInt8) :
    controlHeader h lsb = packetHeader h lsb.toNat asdSuccess := by
  have hlt : lsb.toNat < 256 := lsb.toNat_lt
  have hl : lsbFromMsgSize lsb.toNat = lsb := by
    rw [lsbFromMsgSize, Nat.and_two_pow_sub_one_eq_mod _ 8, Nat.mod_eq_of_lt hlt, UInt8.ofNat_toNat]
  have hm : msbFromMsgSize lsb.toNat = 0 := by
    rw [msbFromMsgSize, Nat.shiftRight_eq_div_pow, Nat.div_eq_of_lt hlt]
    rfl
  rw [packetHeader, MessageHeader.withSize, hl, hm]
  rfl

/-- `out_msg` holds a reply to `h`. -/
def Replies (h : MessageHeader) (s : AsdMsg) : Prop :=
  ∃ k ≤ maxDataSize, s.outMsg.header = packetHeader h k asdSuccess

theorem replies_of_control (lsb : UInt8) (hs : s.outMsg.header = controlHeader h lsb) : Replies h s := by
  refine ⟨lsb.toNat, le_trans (le_of_lt lsb.toNat_lt) (by decide), ?_⟩
  rw [hs, controlHeader_eq]

theorem agentConfiguration_frame (s : AsdMsg) (m : AsdMessage) :
    (agentConfiguration s m).outMsg = s.outMsg ∧ Sends s (agentConfiguration s m) [] := by
  unfold agentConfiguration
  dsimp only
  split
  · exact ⟨rfl, Sends.refl s⟩
  · split
    · exact ⟨rfl, sends_nil rfl rfl⟩
    · split_ifs <;> exact ⟨rfl, sends_nil rfl rfl⟩

theorem remoteProbesConfig_replies (hs : s.outMsg.header = controlHeader h 1) :
    Replies h (remoteProbesConfig s).2 ∧ Sends s (remoteProbesConfig s).2 [] := by
  have htext : s.vprobeHandler.probesConfig.1.length + 1 ≤ maxDataSize := s.vprobeHandler.probesConfig.2
  have hset : ∀ t : AsdMsg, t.outMsg.header = s.outMsg.header →
      Replies h (t.setOutSize (lsbFromMsgSize (s.vprobeHandler.probesConfig.1.length + 1))
        (msbFromMsgSize (s.vprobeHandler.probesConfig.1.length + 1))) := by
    intro t ht
    refine ⟨_, htext, ?_⟩
    rw [AsdMsg.setOutSize, AsdMsg.setOutHeader]
    dsimp only
    rw [ht, hs]
    rfl
  unfold remoteProbesConfig
  dsimp only
  split_ifs
  · exact ⟨hset _ rfl, sends_nil rfl rfl⟩
  · exact ⟨hset _ rfl, sends_nil rfl rfl⟩
  · exact ⟨replies_of_control 1 hs, Sends.refl s⟩

/-- Every command but the loopback leaves a reply in `out_msg`. -/
theorem agentControlCommand_replies (hs : s.outMsg.header = controlHeader h 1) (hl : m.header.cmdStat ≠ loopbackCmd) :
    Replies h (agentControlCommand s m).2 ∧ Sends s (agentControlCommand s m).2 [] := by
  have hset : ∀ (t : AsdMsg) (lsb : UInt8) (msb : BitVec 5), t.outMsg.header = s.outMsg.header → msb = 0 →
      Replies h (t.setOutSize lsb msb) := by
    intro t lsb msb ht hm
    refine replies_of_control lsb ?_
    rw [AsdMsg.setOutSize, AsdMsg.setOutHeader]
    dsimp only
    rw [ht, hs, hm]
    rfl
  have hmsb : s.outMsg.header.sizeMsb = 0 := by rw [hs]; rfl
  unfold agentControlCommand
  dsimp only
  split_ifs
  · exact ⟨hset _ _ _ rfl hmsb, sends_nil rfl rfl⟩
  · exact ⟨hset _ _ _ rfl rfl, sends_nil rfl rfl⟩
  · exact ⟨hset _ _ _ rfl rfl, sends_nil rfl rfl⟩
  · unfold supportedI2cBuses
    dsimp only
    split_ifs
    · exact ⟨hset _ _ _ rfl rfl, sends_nil rfl rfl⟩
    · exact ⟨hset _ _ _ rfl rfl, sends_nil rfl rfl⟩
  · exact remoteProbesConfig_replies hs
  · unfold obtainDownstreamVersion
    dsimp only
    split_ifs
    · exact ⟨hset _ _ _ rfl hmsb, sends_nil rfl rfl⟩
    · exact ⟨hset _ _ _ rfl hmsb, sends_nil rfl rfl⟩
  · obtain ⟨ho, hsend⟩ := agentConfiguration_frame s m
    exact ⟨replies_of_control 1 (by rw [ho, hs]), hsend⟩
  · exact ⟨replies_of_control 1 hs, Sends.refl s⟩

theorem supportedRemoteProbes_replies {t : AsdMsg} (hs : s.outMsg.header = controlHeader h 1)
    (ht : supportedRemoteProbes s = some t) : Replies h t ∧ Sends s t [] := by
  unfold supportedRemoteProbes at ht
  dsimp only at ht
  split_ifs at ht
  all_goals
    obtain rfl := Option.some.inj ht
    refine ⟨replies_of_control 2 ?_, sends_nil rfl rfl⟩
    rw [AsdMsg.setOutSize, AsdMsg.setOutHeader, AsdMsg.respond]
    dsimp only
    rw [hs]
    rfl

theorem agentControlReply_sends {r : Status × AsdMsg} (hr : Replies h r.2) (hs : Sends s r.2 []) :
    ∃ payload : List UInt8, payload.length ≤ maxDataSize ∧ Sends s (agentControlReply r).2 [servedFrame h payload] := by
  obtain ⟨k, hk, hh⟩ := hr
  obtain ⟨payload, hp, hsend⟩ := sends_served hk hh
  exact ⟨payload, hp, hs.trans hsend⟩

/-- The loopback sends the message back. -/
theorem loopback_sends (s : AsdMsg) (hn : getMessageSize m.header = some n) :
    Sends s (agentControlReply (.ok, loopback s m)).2 [⟨m.header, slice m.buffer 0 n⟩] := by
  have hsize := hn
  rw [getMessageSize_eq] at hsize
  split_ifs at hsize with hle
  have heq : m.header.sizeLsb.toNat + m.header.sizeMsb.toNat <<< 8 = n := by
    rw [Nat.shiftLeft_eq]
    simpa [Nat.mul_comm] using hsize
  have hn' : n ≤ maxDataSize := getMessageSize_le hn
  have hout : (loopback s m).outMsg.header = m.header := rfl
  have hbuf : slice (loopback s m).outMsg.buffer 0 n = slice m.buffer 0 n := by
    unfold loopback
    dsimp only [AsdMsg.respond, AsdMsg.setOutHeader]
    rw [heq, min_eq_left hn']
    have := slice_append_store s.outMsg.buffer 0 (slice m.buffer 0 n)
    simpa [length_slice] using this
  have hsend := sends_response (s := loopback s m) (loopback s m).outMsg (hout ▸ hn)
  rw [hout, hbuf] at hsend
  exact Sends.trans (show Sends s (loopback s m) _ from sends_nil rfl rfl) hsend

theorem agentControl_answered (hn : getMessageSize m.header = some n) (ht : m.header.type = agentControlType) :
    ∃ fs, AnswersMessage s.handlersInitialized s.handlersInitialized (m.header, slice m.buffer 0 n) fs ∧
      Sends s (agentControl s m).2 fs := by
  set s₁ := agentControlStart s m.header with hs₁
  have hstart : s₁.outMsg.header = controlHeader m.header 1 := rfl
  have hquiet : Sends s s₁ [] := sends_nil rfl rfl
  unfold agentControl
  dsimp only
  rw [← hs₁]
  by_cases hp : m.header.cmdStat = supportedRemoteProbesCmd
  · have hl : m.header.cmdStat ≠ loopbackCmd := by
      rw [hp]
      decide
    rw [if_pos hp]
    split
    · obtain ⟨hr, hs⟩ := supportedRemoteProbes_replies hstart ‹_›
      obtain ⟨payload, hp, hsend⟩ := agentControlReply_sends (r := (.ok, _)) hr hs
      exact ⟨_, .control ht hl _ (Or.inr ⟨payload, hp, rfl⟩), hquiet.trans hsend⟩
    · exact ⟨_, .control ht hl _ (Or.inl ⟨hp, rfl⟩), hquiet.trans (sends_error _ _ _)⟩
  rw [if_neg hp]
  by_cases hl : m.header.cmdStat = loopbackCmd
  · have hcmd : agentControlCommand s₁ m = (.ok, loopback s₁ m) := by
      unfold agentControlCommand
      dsimp only
      rw [hl]
      rfl
    rw [hcmd]
    exact ⟨_, .loopback ht hl, hquiet.trans (loopback_sends s₁ hn)⟩
  · obtain ⟨hr, hs⟩ := agentControlCommand_replies (m := m) hstart hl
    obtain ⟨payload, hp, hsend⟩ := agentControlReply_sends hr hs
    exact ⟨_, .control ht hl _ (Or.inr ⟨payload, hp, rfl⟩), hquiet.trans hsend⟩

end Control

/-! ## One message -/

section Receive

variable {s : AsdMsg} {m : AsdMessage} {n : ℕ}

/-- The initialisation of the handlers sends nothing, and sets the flag exactly if nothing fails. -/
theorem initializeHandlers_spec (hi : s.handlersInitialized = false) :
    (initializeHandlers s).2.network = s.network ∧
      match (initializeHandlers s).1 with
      | none => (initializeHandlers s).2.handlersInitialized = true
      | some e => (initializeHandlers s).2.handlersInitialized = false ∧
          (e = asdFailureInitJtagHandler ∨ e = asdFailureInitI2cHandler ∨ e = asdFailureXdpPresent) := by
  unfold initializeHandlers
  dsimp only
  split_ifs
  · exact ⟨rfl, rfl⟩
  · exact ⟨rfl, hi, Or.inr (Or.inr rfl)⟩
  · exact ⟨rfl, hi, Or.inr (Or.inl rfl)⟩
  · exact ⟨rfl, hi, Or.inl rfl⟩

theorem reportXdp_sends (s : AsdMsg) (h : MessageHeader) :
    ∃ xdp, (xdp = [] ∨ xdp = [errorFrame h asdFailureXdpPresent]) ∧ Sends s (reportXdp s h) xdp := by
  unfold reportXdp
  split_ifs
  · exact ⟨_, Or.inr rfl, sends_error _ _ _⟩
  · exact ⟨_, Or.inl rfl, Sends.refl s⟩

/-- **One message.** Whatever the handlers do, the message is answered. -/
theorem asdMsgOnMsgRecv_answers (hc : s.Connected) (hn : getMessageSize m.header = some n) :
    ∃ fs, AnswersMessage s.handlersInitialized (asdMsgOnMsgRecv m s).2.handlersInitialized (m.header, slice m.buffer 0 n) fs ∧
      (asdMsgOnMsgRecv m s).2.network = s.network.calls fs := by
  unfold asdMsgOnMsgRecv
  split_ifs with he ht hi
  · have hs := sends_error s m.header asdMsgCrypyNotSupported
    refine ⟨_, ?_, hs.network⟩
    rw [hs.initialized]
    exact .encrypted he
  · obtain ⟨fs, ha, hs⟩ := agentControl_answered (s := s) hn ht
    refine ⟨fs, ?_, hs.network⟩
    rw [hs.initialized]
    exact ha
  · obtain ⟨fs, hp, hs⟩ := processMessage_sends hc hn
    refine ⟨fs, ?_, hs.network⟩
    rw [hs.initialized, hi]
    exact .later ht fs hp
  · have hi' : s.handlersInitialized = false := Bool.eq_false_iff.mpr hi
    obtain ⟨hnet, hspec⟩ := initializeHandlers_spec hi'
    dsimp only
    cases hr : (initializeHandlers s).1 with
    | some e =>
      rw [hr] at hspec
      have hs := sends_error (initializeHandlers s).2 m.header e
      refine ⟨_, ?_, by rw [← hnet]; exact hs.network⟩
      dsimp only
      rw [hs.initialized, hspec.1, hi']
      exact .unready ht e hspec.2
    | none =>
      rw [hr] at hspec
      obtain ⟨xdp, hx, hsx⟩ := reportXdp_sends (initializeHandlers s).2 m.header
      have hc' : (initializeHandlers s).2.Connected := by
        rw [AsdMsg.Connected, hnet]
        exact hc
      obtain ⟨fs, hp, hs⟩ := processMessage_sends (hsx.connected hc') hn
      have hall := hsx.trans hs
      refine ⟨xdp ++ fs, ?_, by rw [← hnet]; exact hall.network⟩
      dsimp only
      rw [hall.initialized, hspec, hi']
      exact .first ht xdp fs hx hp

end Receive

/-! ## A whole stream -/

/-- The frames for the messages `cs` of a stream, in the order of their arrival; headers that announce
too much are reported in between. The flags are those of the handlers, as in `AnswersMessage`. -/
inductive RepliesTo : Bool → Bool → List (MessageHeader × List UInt8) → List Frame → Prop
  | nil (b : Bool) : RepliesTo b b [] []
  | message {b b' b'' : Bool} {cs : List (MessageHeader × List UInt8)} {fs gs : List Frame}
      {c : MessageHeader × List UInt8} (h : RepliesTo b b' cs fs) (hc : AnswersMessage b' b'' c gs) :
    RepliesTo b b'' (cs ++ [c]) (fs ++ gs)
  | oversize {b b' : Bool} {cs : List (MessageHeader × List UInt8)} {fs : List Frame} (h : RepliesTo b b' cs fs)
      (hd : MessageHeader) (hn : getMessageSize hd = none) :
    RepliesTo b b' cs (fs ++ [errorFrame hd asdFailureHeaderSize])

section Stream

variable {τ σ : Type*} {rf : ReadFunction τ} {L : MsgLayer σ} {Q : σ → Prop}

/-- What the layer keeps about its state when the reader calls it. -/
structure MsgLayer.Keeps (L : MsgLayer σ) (Q : σ → Prop) : Prop where
  onMsgRecv : ∀ m s n, getMessageSize m.header = some n → Q s → Q (L.onMsgRecv m s).2
  sendErrorMessage : ∀ m s, getMessageSize m.header = none → Q s → Q (L.sendErrorMessage m asdFailureHeaderSize s)

theorem finishMessage_layer (hL : L.Keeps Q) {r : Reader τ σ} {n : ℕ} (hn : getMessageSize r.inMsg.header = some n)
    (hq : Q r.layer) : Q (finishMessage L r).2.layer := by
  unfold finishMessage
  exact hL.onMsgRecv _ r.layer n hn hq

theorem readHeader_layer (hL : L.Keeps Q) {r : Reader τ σ} (hq : Q r.layer) : Q (readHeader rf L r).2.layer := by
  unfold readHeader
  dsimp only
  split_ifs
  · split
    · exact hL.sendErrorMessage (IncomingMsg.message _) r.layer ‹_› hq
    · split_ifs
      · exact hq
      · exact finishMessage_layer hL ‹_› hq
  · exact hq
  · exact hq

/-- The header of a message does not change while its payload arrives. -/
theorem readBuffer_layer (hL : L.Keeps Q) {r : Reader τ σ} (hn : getMessageSize r.inMsg.header = some r.inMsg.dataSize)
    (hq : Q r.layer) : Q (readBuffer rf L r).2.layer := by
  unfold readBuffer
  dsimp only
  split_ifs
  · refine finishMessage_layer hL (n := r.inMsg.dataSize) ?_ hq
    rw [← hn]
    exact congrArg _ (header_store_ge r.inMsg (by omega) _)
  · exact hq
  · exact hq

/-- One call of the reader keeps what the layer keeps. -/
theorem asdMsgRead_layer {Q : σ × List (MessageHeader × List UInt8) → Prop} (hL : L.recording.Keeps Q)
    {r : Reader Transport (σ × List (MessageHeader × List UInt8))} (hw : r.inMsg.WellFormed) (hs : r.conn.stream ≠ [])
    (hq : Q r.layer) : Q (asdMsgRead Transport.read L.recording r).2.layer := by
  have hboth : ∀ r : Reader Transport (σ × List (MessageHeader × List UInt8)), r.inMsg.readState = .header →
      r.inMsg.WellFormed → r.conn.stream ≠ [] → Q r.layer →
      Q (readHeaderAndBuffer Transport.read L.recording r).2.layer := by
    intro r hh hw hs hq
    have h₁ := @readHeader_layer _ _ Transport.read _ _ hL _ hq
    have hw₁ := (readHeader_advances L hh hw hs).wellFormed
    rw [readHeaderAndBuffer]
    split_ifs with h
    · exact h₁
    · push Not at h
      rw [IncomingMsg.WellFormed, h.1] at hw₁
      exact readBuffer_layer hL hw₁.1 h₁
  rw [asdMsgRead]
  cases hstate : r.inMsg.readState with
  | initial =>
    refine hboth { r with inMsg := r.inMsg.reset } rfl ⟨Nat.zero_lt_succ 3, fun _ i hi => ?_⟩ hs hq
    exact if_pos (Nat.lt_add_right _ hi)
  | header => exact hboth r hstate hw hs hq
  | buffer =>
    rw [IncomingMsg.WellFormed, hstate] at hw
    exact readBuffer_layer hL hw.1 hq

/-- The reader without the record of what it has dispatched. -/
def Reader.forget (r : Reader τ (σ × List (MessageHeader × List UInt8))) : Reader τ σ :=
  ⟨r.inMsg, r.dataPending, r.conn, r.layer.1⟩

theorem readHeader_forget (r : Reader τ (σ × List (MessageHeader × List UInt8))) :
    (readHeader rf L r.forget).2 = (readHeader rf L.recording r).2.forget := by
  unfold readHeader
  dsimp only [Reader.forget]
  split_ifs
  · split
    · rfl
    · split_ifs <;> rfl
  · rfl
  · rfl

theorem readBuffer_forget (r : Reader τ (σ × List (MessageHeader × List UInt8))) :
    (readBuffer rf L r.forget).2 = (readBuffer rf L.recording r).2.forget := by
  unfold readBuffer
  dsimp only [Reader.forget]
  split_ifs <;> rfl

/-- The record does not change what the reader does. -/
theorem asdMsgRead_forget (r : Reader τ (σ × List (MessageHeader × List UInt8))) :
    (asdMsgRead rf L r.forget).2 = (asdMsgRead rf L.recording r).2.forget := by
  have hboth : ∀ r : Reader τ (σ × List (MessageHeader × List UInt8)),
      (readHeaderAndBuffer rf L r.forget).2 = (readHeaderAndBuffer rf L.recording r).2.forget := by
    intro r
    have hheader := @readHeader_forget _ _ rf L r
    rw [readHeaderAndBuffer, readHeaderAndBuffer, hheader]
    change (if (readHeader rf L.recording r).2.inMsg.readState ≠ .buffer ∨
        (readHeader rf L.recording r).2.dataPending = false then readHeader rf L r.forget
      else readBuffer rf L (readHeader rf L.recording r).2.forget).2 = _
    split_ifs
    · exact hheader
    · exact readBuffer_forget _
  rw [asdMsgRead, asdMsgRead, show r.forget.inMsg.readState = r.inMsg.readState from rfl]
  cases r.inMsg.readState with
  | initial => exact hboth { r with inMsg := r.inMsg.reset }
  | header => exact hboth r
  | buffer => exact readBuffer_forget r

end Stream

/-- The state of the layer after the messages `cs`, on a connection that was in the state `s₀`. -/
def ServedFrom (s₀ : AsdMsg) (u : AsdMsg × List (MessageHeader × List UInt8)) : Prop :=
  ∃ fs, RepliesTo s₀.handlersInitialized u.1.handlersInitialized u.2 fs ∧ u.1.network = s₀.network.calls fs

/-- **The step.** Every call of the reader to the layer keeps the frames in order. -/
theorem asdLayer_keeps {s₀ : AsdMsg} (hc : s₀.Connected) : asdLayer.recording.Keeps (ServedFrom s₀) where
  onMsgRecv m u n hn hu := by
    obtain ⟨fs, hserved, hnet⟩ := hu
    have hc' : u.1.Connected := by
      rw [AsdMsg.Connected, hnet]
      exact hc
    obtain ⟨gs, ha, hg⟩ := asdMsgOnMsgRecv_answers hc' hn
    refine ⟨fs ++ gs, ?_, ?_⟩
    · have hcontent : m.content = (m.header, slice m.buffer 0 n) := by rw [AsdMessage.content, hn]; rfl
      have := RepliesTo.message hserved ha
      rwa [← hcontent] at this
    · exact hg.trans (by rw [hnet, Device.calls_calls])
  sendErrorMessage m u hn hu := by
    obtain ⟨fs, hserved, hnet⟩ := hu
    have hs := sends_error u.1 m.header asdFailureHeaderSize
    refine ⟨_, ?_, hs.network.trans (by rw [hnet, Device.calls_calls])⟩
    have h := RepliesTo.oversize hserved m.header hn
    rwa [← hs.initialized] at h

/-- A request for the largest size of a message, and a loopback of two bytes. -/
def controlMessages : List WireMessage :=
  [{ header := ⟨0, 0, 0, agentControlType, 0, 0, 5, maxDataSizeCmd⟩, payload := [], size := rfl },
    { header := ⟨0, 0, 0, agentControlType, 2, 0, 6, loopbackCmd⟩, payload := [7, 8], size := rfl }]

/-- The connection that delivers them four bytes at a time. -/
def controlTransport : Transport := ⟨wire controlMessages, fun _ => 3, fun _ _ => false⟩

example : (readAll asdLayer ⟨.init 0 fun _ => 0, false, controlTransport,
    asdMsgInit (.quiet .software)⟩).layer.network.log =
    [⟨⟨0, 0, 0, agentControlType, 3, 0, 5, asdSuccess⟩, [13, 0xB8, 0x0B]⟩,
      ⟨⟨0, 0, 0, agentControlType, 2, 0, 6, loopbackCmd⟩, [7, 8]⟩] := by
  decide +kernel

end BmcAsd
