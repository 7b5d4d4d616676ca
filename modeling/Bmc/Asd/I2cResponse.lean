import Mathlib.Data.List.SplitBy
import Bmc.Lib.Packer
import Bmc.Asd.I2cRounds

/-!
# The responses to I2C messages

A message of well-formed reads and writes, on a bus whose transactions succeed.

* `Grouped`: the groups in which the commands reach the bus, with `exists_grouped`;
* `Packs`: the response under construction is the one of a `Packer`;
* `Served`: what a run over some groups leaves behind, with `Served.group` and `Served.groups`;
* **`processI2cMessages_serves`**: every command is issued once and in order, and the packets sent
  carry exactly the response frames.
-/

namespace BmcAsd

open BmcLib

/-! ## Groups -/

/-- `gs` are the commands `cs` in groups that end exactly at a force-stop or at the end. -/
structure Grouped (cs : List Transfer) (gs : List (List Transfer)) : Prop where
  flatten : gs.flatten = cs
  nonempty : ∀ g ∈ gs, g ≠ []
  inside : ∀ g ∈ gs, ∀ c ∈ g.dropLast, c.forceStop = false
  ends : ∀ g ∈ gs.dropLast, ∃ c ∈ g.getLast?, c.forceStop = true

theorem isChain_dropLast {α : Type*} {P : α → Prop} {l : List α} (h : l.IsChain fun a _ => P a) :
    ∀ a ∈ l.dropLast, P a := by
  induction l with
  | nil => exact fun a ha => absurd ha List.not_mem_nil
  | cons b l ih =>
    cases l with
    | nil => exact fun a ha => absurd ha List.not_mem_nil
    | cons c l =>
      obtain ⟨hb, hl⟩ := List.isChain_cons_cons.mp h
      intro a ha
      rw [List.dropLast_cons_cons] at ha
      rcases List.mem_cons.mp ha with rfl | ha
      · exact hb
      · exact ih hl a ha

/-- Every list of commands falls into groups. -/
theorem exists_grouped (cs : List Transfer) : ∃ gs, Grouped cs gs := by
  refine ⟨cs.splitBy fun c _ => !c.forceStop, List.flatten_splitBy _ _,
    fun g hg => List.ne_nil_of_mem_splitBy hg, fun g hg => ?_, ?_⟩
  · refine isChain_dropLast ((List.isChain_of_mem_splitBy hg).imp fun a b hab => ?_)
    simpa using hab
  · refine isChain_dropLast ((List.isChain_getLast_head_splitBy _ cs).imp fun a b hab => ?_)
    obtain ⟨ha, hb, hstop⟩ := hab
    exact ⟨a.getLast ha, List.getLast_mem_getLast? ha, by simpa using hstop⟩

/-! ## Response frames -/

/-- The response frame of a command, where a read returned `data`. -/
def Transfer.response (c : Transfer) (data : ℕ → UInt8) : List UInt8 :=
  [(if c.read then i2cReadMin else i2cWriteMin) + UInt8.ofNat c.length,
    i2cAddressAck + UInt8.ofNat c.length] ++ if c.read then slice data 0 c.length else []

/-- The response frames of a group, each with the room that the code asks for. -/
def groupFrames (data : ℕ → ℕ → UInt8) (g : List Transfer) : List (ℕ × List UInt8) :=
  g.mapIdx fun i c => (c.length + 2, c.response (data i))

/-- The response frames of several groups; the answers for them start with number `n`. -/
def runFrames (answers : ℕ → IxcAnswer) (n : ℕ) (gs : List (List Transfer)) :
    List (ℕ × List UInt8) :=
  (gs.mapIdx fun k g => groupFrames (answers (n + k)).data g).flatten

theorem runFrames_concat (answers : ℕ → IxcAnswer) (n : ℕ) (gs : List (List Transfer))
    (g : List Transfer) : runFrames answers n (gs ++ [g]) =
      runFrames answers n gs ++ groupFrames (answers (n + gs.length)).data g := by
  unfold runFrames
  rw [List.mapIdx_concat, List.flatten_concat]

/-- The responses to all commands in order. -/
def responses (answers : ℕ → IxcAnswer) (n : ℕ) (gs : List (List Transfer)) : List UInt8 :=
  (gs.mapIdx fun k g =>
    (g.mapIdx fun i c => c.response ((answers (n + k)).data i)).flatten).flatten

theorem runFrames_stream (answers : ℕ → IxcAnswer) (n : ℕ) (gs : List (List Transfer)) :
    (runFrames answers n gs).flatMap Prod.snd = responses answers n gs := by
  have hmap {α β γ : Type} (f : ℕ → α → β) (h : β → γ) (l : List α) :
      (l.mapIdx f).map h = l.mapIdx fun i a => h (f i a) :=
    List.ext_getElem (by simp) (by simp)
  unfold runFrames responses groupFrames
  simp only [List.flatMap_def, List.map_flatten, hmap, List.flatten_flatten]

theorem i2cFrame_msg (stack data : ℕ → UInt8) (c : Transfer) :
    i2cFrame (if (c.msg stack).read then { c.msg stack with buffer := data } else c.msg stack) true =
      c.response data := by
  unfold i2cFrame Transfer.response Transfer.msg
  cases c.read <;> rfl

theorem frames_fillMsgs (stack : ℕ → UInt8) (data : ℕ → ℕ → UInt8) (g : List Transfer) :
    ((fillMsgs data (g.map (Transfer.msg stack))).map fun m => (m.length + 2, i2cFrame m true)) =
      groupFrames data g := by
  unfold fillMsgs groupFrames
  refine List.ext_getElem (by simp) fun i h1 h2 => ?_
  simp only [List.getElem_map, List.getElem_mapIdx]
  rw [i2cFrame_msg]
  split_ifs <;> rfl

theorem groupFrames_fit (data : ℕ → ℕ → UInt8) (g : List Transfer) :
    ∀ f ∈ groupFrames data g, f.2.length ≤ f.1 ∧ f.1 ≤ maxDataSize := by
  intro f hf
  obtain ⟨i, hi, rfl⟩ := List.mem_mapIdx.mp hf
  have hlen := g[i].length_le
  have hmax : 17 ≤ maxDataSize := by decide
  refine ⟨?_, by omega⟩
  unfold Transfer.response
  rw [List.length_append]
  split_ifs <;> simp [Nat.add_comm]

theorem runFrames_fit (answers : ℕ → IxcAnswer) (n : ℕ) (gs : List (List Transfer)) :
    ∀ f ∈ runFrames answers n gs, f.2.length ≤ f.1 ∧ f.1 ≤ maxDataSize := by
  intro f hf
  obtain ⟨fs, hfs, hf⟩ := List.mem_flatten.mp hf
  obtain ⟨k, hk, rfl⟩ := List.mem_mapIdx.mp hfs
  exact groupFrames_fit _ _ f hf

/-! ## Packets -/

/-- A packet that answers the header `req`. -/
def packet (req : MessageHeader) (cmdStat : UInt8) (payload : List UInt8) : Frame :=
  ⟨packetHeader req payload.length cmdStat, payload⟩

/-- The status of a packet that is not the last one. -/
abbrev continuation : UInt8 := asdSuccess ||| asdPacketContinuation

/-- Since the network was `net`, the packets of `p` were sent in answer to `req`, and `out_msg` holds
the one that is being filled. -/
structure Packs (net : Device Frame Bool) (req : MessageHeader) (p : Packer UInt8) (s : AsdMsg)
    (cnt : ℕ) : Prop where
  filling : slice s.outMsg.buffer 0 cnt = p.filling
  network : s.network = { net with log := net.log ++ p.sent.map (packet req continuation) }
  header : ∀ n cmdStat, packetHeader s.outMsg.header n cmdStat = packetHeader req n cmdStat

section Packs

variable {net : Device Frame Bool} {req : MessageHeader} {p : Packer UInt8} {s : AsdMsg} {cnt : ℕ}

theorem Packs.cnt_eq (h : Packs net req p s cnt) : cnt = p.filling.length := by
  rw [← h.filling, length_slice]

/-- Building responses packs their frames. -/
theorem Packs.buildResponses (h : Packs net req p s cnt) (hn : ∀ n, net.answers n = true)
    (hfits : p.Fits maxDataSize) {msgs : List I2cMsg} (hlen : ∀ m ∈ msgs, m.length ≤ 15) :
    let r := buildResponses s cnt true msgs
    Packs net req
      (p.pushAll maxDataSize (msgs.map fun m => (m.length + 2, i2cFrame m true))) r.2.1 r.2.2 := by
  induction msgs generalizing s cnt p with
  | nil => exact h
  | cons m msgs ih =>
    have hm := hlen m List.mem_cons_self
    have hrest : ∀ m ∈ msgs, m.length ≤ 15 := fun m' h => hlen m' (List.mem_cons_of_mem m h)
    have hframe : (i2cFrame m true).length ≤ m.length + 2 := by
      rw [length_i2cFrame]
      split_ifs <;> omega
    have hmax : 17 ≤ maxDataSize := by decide
    have hpush : (p.push maxDataSize (m.length + 2) (i2cFrame m true)).Fits maxDataSize :=
      Packer.fits_push hfits hframe (by omega)
    have hsn : ∀ n, s.network.answers n = true := by
      rw [h.network]
      exact hn
    have hcnt := h.cnt_eq
    have hfilling := hfits.filling
    rw [List.map_cons, Packer.pushAll_cons]
    by_cases hfull : maxDataSize < m.length + cnt + 2
    · rw [buildResponses_full hfull, sendContinuation_ok hsn (by omega), if_pos rfl]
      refine ih ?_ hpush hrest
      unfold Packer.push
      rw [if_pos (by omega)]
      refine ⟨slice_store_same (fun _ => 0) 0 (i2cFrame m true), ?_, fun n c => h.header n c⟩
      change s.network.call _ = _
      rw [h.network, h.filling, h.header]
      unfold Device.call packet
      simp only [List.map_append, List.map_cons, List.map_nil, List.append_assoc, ← hcnt]
    · rw [buildResponses_room (by omega)]
      refine ih ?_ hpush hrest
      unfold Packer.push
      rw [if_neg (by omega)]
      refine ⟨?_, h.network, h.header⟩
      rw [← h.filling]
      exact slice_append_store _ _ _

end Packs

/-! ## Runs over groups -/

/-- The groups `done` were issued on the handle `f`, and their responses are packed. -/
structure Served (s₀ : AsdMsg) (req : MessageHeader) (f : OpenFile) (done : List (List Transfer))
    (l : I2cLoop) : Prop where
  ixc : l.st.ixc = { s₀.ixc with os := { s₀.ixc.os with
    log := s₀.ixc.os.log ++ done.map fun g => .readWrite f (g.map (Transfer.msg s₀.stack)) } }
  stack : l.st.stack = s₀.stack
  packs : Packs s₀.network req (Packer.empty.pushAll maxDataSize
    (runFrames s₀.ixc.os.answers s₀.ixc.os.log.length done)) l.st l.responseCnt

section Served

variable {s₀ : AsdMsg} {req : MessageHeader} {f : OpenFile} {done : List (List Transfer)}
  {cur : List Transfer} {items : List I2cItem} {l : I2cLoop}

theorem Served.collect (h : Served s₀ req f done l) (c : Transfer) {s : AsdMsg}
    (hs : SameUpToMemory l.st s) : Served s₀ req f done (l.collect c s) := by
  obtain ⟨memory, accesses, rfl, -⟩ := hs
  exact ⟨h.ixc, h.stack, h.packs.filling, h.packs.network, h.packs.header⟩

/-- Commands without a force-stop, before the end of the packet, are only collected. -/
theorem Served.collects {init : List Transfer}
    (hl : Queued cur (init.map .transfer ++ items) l) (hstop : l.forceStop = false)
    (hinit : ∀ c ∈ init, c.forceStop = false) (hitems : items ≠ []) (h : Served s₀ req f done l) :
    let l' := whileN I2cLoop.goesOn i2cCommand init.length l
    Queued (cur ++ init) items l' ∧ l'.forceStop = false ∧ Served s₀ req f done l' := by
  induction init generalizing cur l with
  | nil =>
    rw [List.append_nil]
    exact ⟨hl, hstop, h⟩
  | cons c init ih =>
    obtain ⟨s, hs, hcollect, hround⟩ := Queued.transfer hl
    have hc : (l.collect c s).forceStop = false := hinit c List.mem_cons_self
    have hmore : init.map I2cItem.transfer ++ items ≠ [] := fun hnil =>
      hitems (List.append_eq_nil_iff.mp hnil).2
    rw [hcollect.stays (Or.inr ⟨hmore, hc⟩)] at hround
    rw [List.length_cons, whileN_succ_pos (hl.goesOn.mpr (List.cons_ne_nil _ _)), hround]
    have := ih hcollect hc (fun d hd => hinit d (List.mem_cons_of_mem c hd)) (h.collect c hs)
    rwa [List.append_assoc] at this

/-- One group is issued by its last command. -/
theorem Served.group {init : List Transfer} {c : Transfer} (hf : s₀.ixc.transferFile = some f)
    (hos : ∀ n, (s₀.ixc.os.answers n).ok = true) (hn : ∀ n, s₀.network.answers n = true)
    (hl : Queued [] ((init ++ [c]).map .transfer ++ items) l) (hstop : l.forceStop = false)
    (hinit : ∀ c ∈ init, c.forceStop = false) (hend : items = [] ∨ c.forceStop = true)
    (h : Served s₀ req f done l) :
    let l' := whileN I2cLoop.goesOn i2cCommand (init ++ [c]).length l
    Queued [] items l' ∧ l'.forceStop = false ∧ Served s₀ req f (done ++ [init ++ [c]]) l' := by
  rw [List.map_append, List.append_assoc] at hl
  obtain ⟨hl1, hstop1, h1⟩ := Served.collects hl hstop hinit (List.cons_ne_nil _ _) h
  rw [List.length_append, whileN_add]
  set l1 := whileN I2cLoop.goesOn i2cCommand init.length l
  obtain ⟨s, hs, hcollect, hround⟩ := Queued.transfer hl1
  have h2 := h1.collect c hs
  rw [hcollect.flushes (by simp) (hend.imp_right fun hc => hc)] at hround
  rw [List.length_singleton, whileN_succ_pos (hl1.goesOn.mpr (List.cons_ne_nil _ _)), hround,
    whileN_zero]
  have hfile : (l1.collect c s).st.ixc.transferFile = some f := by
    rw [h2.ixc]
    exact hf
  have hanswer : (l1.collect c s).st.ixc.os.answer =
      s₀.ixc.os.answers (s₀.ixc.os.log.length + done.length) := by
    rw [h2.ixc]
    unfold Device.answer
    rw [List.length_append, List.length_map]
  have hok : (l1.collect c s).st.ixc.os.answer.ok = true := by
    rw [hanswer]
    exact hos _
  set l2 := l1.collect c s
  have hbuilder : l2.builder = (init ++ [c]).map (Transfer.msg s₀.stack) := by
    rw [hcollect.builder, h2.stack, List.nil_append]
  have hlen : ∀ m ∈ fillMsgs l2.st.ixc.os.answer.data l2.builder, m.length ≤ 15 := by
    rw [hbuilder]
    exact fillMsgs_length_le _ _
  obtain ⟨hq, hforce, hst, hcnt⟩ := hcollect.flush hfile hok
  obtain ⟨outMsg, network, accesses, hframe, -⟩ := buildResponses_frame
    (l2.st.setIxc (l2.st.ixc.transferred f l2.builder)) l2.responseCnt true
    (fillMsgs l2.st.ixc.os.answer.data l2.builder)
  refine ⟨hq, hforce, ?_, ?_, ?_⟩
  · rw [hst, hframe]
    change l2.st.ixc.transferred f l2.builder = _
    rw [h2.ixc, hbuilder]
    simp only [Ixc.transferred, Device.call, List.map_append, List.map_cons, List.map_nil, List.append_assoc]
  · rw [hst, hframe]
    exact h2.stack
  · rw [hst, hcnt, runFrames_concat, Packer.pushAll_append, ← hanswer,
      ← frames_fillMsgs s₀.stack, ← hbuilder]
    exact Packs.buildResponses (s := l2.st.setIxc (l2.st.ixc.transferred f l2.builder))
      ⟨h2.packs.filling, h2.packs.network, h2.packs.header⟩ hn
      (Packer.fits_pushAll Packer.fits_empty (runFrames_fit _ _ _)) hlen

/-- **Run.** All groups are issued, one after the other. -/
theorem Served.groups {gs : List (List Transfer)} (hf : s₀.ixc.transferFile = some f)
    (hos : ∀ n, (s₀.ixc.os.answers n).ok = true) (hn : ∀ n, s₀.network.answers n = true)
    {cs : List Transfer} (hgs : Grouped cs gs) (hl : Queued [] (cs.map .transfer) l)
    (hstop : l.forceStop = false) (h : Served s₀ req f done l) :
    let l' := whileN I2cLoop.goesOn i2cCommand cs.length l
    Queued [] [] l' ∧ Served s₀ req f (done ++ gs) l' := by
  induction gs generalizing cs l done with
  | nil =>
    obtain rfl := hgs.flatten
    rw [List.append_nil]
    exact ⟨hl, h⟩
  | cons g gs ih =>
    have hne := hgs.nonempty g List.mem_cons_self
    have hsplit := List.dropLast_append_getLast hne
    have hend : gs.flatten.map I2cItem.transfer = [] ∨ (g.getLast hne).forceStop = true := by
      cases gs with
      | nil => exact Or.inl rfl
      | cons g' gs =>
        obtain ⟨c, hc, hstop⟩ := hgs.ends g List.mem_cons_self
        rw [List.getLast?_eq_some_getLast hne, Option.mem_some_iff] at hc
        rw [← hc] at hstop
        exact Or.inr hstop
    have hrest : Grouped gs.flatten gs := by
      refine ⟨rfl, fun g' hg' => hgs.nonempty g' (List.mem_cons_of_mem g hg'),
        fun g' hg' => hgs.inside g' (List.mem_cons_of_mem g hg'), fun g' hg' => ?_⟩
      refine hgs.ends g' ?_
      rw [List.dropLast_cons_of_ne_nil (List.ne_nil_of_mem (List.mem_of_mem_dropLast hg'))]
      exact List.mem_cons_of_mem g hg'
    have hcs : cs = g ++ gs.flatten := hgs.flatten.symm
    rw [hcs, List.map_append, ← hsplit] at hl
    obtain ⟨hl1, hstop1, h1⟩ := Served.group hf hos hn hl hstop
      (hgs.inside g List.mem_cons_self) hend h
    rw [hsplit] at hl1 hstop1 h1
    have := ih hrest hl1 hstop1 h1
    rw [hcs, List.length_append, whileN_add]
    rwa [List.append_assoc] at this

end Served

/-! ## The whole message -/

/-- **Service.** A message of well-formed reads and writes, on a bus whose transactions succeed, is
served: the commands reach the bus in groups, each command once and in order, and the packets sent
carry their response frames, all but the last packet as continuations. -/
theorem processI2cMessages_serves {s : AsdMsg} {m : AsdMessage} {n : ℕ} {cs : List Transfer}
    {f : OpenFile} (hsize : getMessageSize m.header = some n)
    (hpayload : slice m.buffer 0 n = cs.flatMap Transfer.bytes)
    (hf : s.ixc.transferFile = some f) (hos : ∀ k, (s.ixc.os.answers k).ok = true)
    (hnet : ∀ k, s.network.answers k = true) (hmem : ∀ k, s.memory.answers k = true) :
    ∃ s' gs packets last, processI2cMessages s m = (.ok, s') ∧ Grouped cs gs ∧
      s.ixc.os.news s'.ixc.os = gs.map (fun g => .readWrite f (g.map (Transfer.msg s.stack))) ∧
      s.network.news s'.network =
        packets.map (packet m.header continuation) ++ [packet m.header asdSuccess last] ∧
      packets.flatten ++ last = responses s.ixc.os.answers s.ixc.os.log.length gs ∧
      ∀ q ∈ packets ++ [last], q.length ≤ maxDataSize ∧
        ∀ cmdStat, getMessageSize (packet m.header cmdStat q).header = some q.length := by
  obtain ⟨gs, hgs⟩ := exists_grouped cs
  have hitems : slice m.buffer 0 n = (cs.map I2cItem.transfer).flatMap I2cItem.bytes := by
    rw [hpayload, List.flatMap_map]
    rfl
  have hstart := i2cLoopStart_queued hmem hnet hitems
  have hserved : Served s m.header f [] (i2cLoopStart (s.i2cStart m) m n) := by
    refine ⟨?_, rfl, rfl, ?_, fun _ _ => rfl⟩
    · rw [List.map_nil, List.append_nil]
      rfl
    · exact (congrArg (Device.mk s.network.answers) (List.append_nil _)).symm
  obtain ⟨hl, h⟩ := Served.groups hf hos hnet hgs hstart rfl hserved
  have hrun := processI2cMessages_eq hsize hmem hitems hl (by rw [List.length_map])
  set l := whileN I2cLoop.goesOn i2cCommand cs.length (i2cLoopStart (s.i2cStart m) m n)
  set p := Packer.empty.pushAll maxDataSize
    (runFrames s.ixc.os.answers s.ixc.os.log.length ([] ++ gs)) with hp
  have hfits : p.Fits maxDataSize :=
    Packer.fits_pushAll Packer.fits_empty (runFrames_fit _ _ _)
  have hstream : p.stream = responses s.ixc.os.answers s.ixc.os.log.length gs := by
    rw [hp, Packer.stream_pushAll, Packer.stream_empty, List.nil_append, List.nil_append,
      runFrames_stream]
  rw [i2cReply_ok hl] at hrun
  refine ⟨_, gs, p.sent, p.filling, hrun, hgs, ?_, ?_, hstream, ?_⟩
  · change s.ixc.os.news l.st.ixc.os = _
    rw [h.ixc]
    exact List.drop_left
  · change List.drop _ (l.st.network.log ++ [_]) = _
    rw [h.packs.network, h.packs.filling, h.packs.header, h.packs.cnt_eq, List.append_assoc,
      List.drop_left]
    rfl
  · intro q hq
    have hq : q.length ≤ maxDataSize := by
      rcases List.mem_append.mp hq with hq | hq
      · exact hfits.sent q hq
      · rw [List.mem_singleton.mp hq]
        exact hfits.filling
    exact ⟨hq, fun cmdStat => getMessageSize_packetHeader m.header hq cmdStat⟩

/-- An I2C message with the given payload. -/
def i2cMsg (payload : List UInt8) : AsdMessage where
  header := { MessageHeader.zero with type := i2cType }.withSize payload.length
  buffer := block 0 payload

/-- Write one byte, read two bytes with a force-stop, and write nothing. -/
def twoGroups : List Transfer :=
  [⟨0x61, 0x20, [0xAA], Or.inr (by decide)⟩, ⟨0x22, 0x21, [], Or.inl (by decide)⟩,
    ⟨0x60, 0x20, [], Or.inr (by decide)⟩]

/-- A message whose commands reach the bus in two groups. -/
theorem processI2cMessages_serves_two_groups :
    ∃ s' gs last, processI2cMessages busesReady (i2cMsg [0x61, 0x20, 0xAA, 0x22, 0x21, 0x60, 0x20]) =
        (.ok, s') ∧ Grouped twoGroups gs ∧
      busesReady.ixc.os.news s'.ixc.os =
        gs.map (fun g => .readWrite ⟨.i2c, 1, 0, false⟩ (g.map (Transfer.msg busesReady.stack))) ∧
      ∃ packets : List (List UInt8), packets.flatten ++ last =
        responses busesReady.ixc.os.answers busesReady.ixc.os.log.length gs := by
  have hpayload : slice (i2cMsg [0x61, 0x20, 0xAA, 0x22, 0x21, 0x60, 0x20]).buffer 0 7 =
      twoGroups.flatMap Transfer.bytes := by decide
  have hfile : busesReady.ixc.transferFile = some ⟨.i2c, 1, 0, false⟩ := by decide
  obtain ⟨s', gs, packets, last, h, hgs, hnews, -, hstream, -⟩ :=
    processI2cMessages_serves (by decide) hpayload hfile (fun _ => rfl) (fun _ => rfl) (fun _ => rfl)
  exact ⟨s', gs, last, h, hgs, hnews, packets, hstream⟩

end BmcAsd
