import Mathlib
import Bmc.Lib.Loop
import Bmc.Asd.I2cMessage

/-!
# Rounds over well-formed commands

What the loop of `process_i2c_messages` does with a packet that is made of well-formed reads and
writes and of bus selects.

* `Transfer`: a well-formed read or write; `I2cItem`: a transfer or a bus select;
* `Queued cur items l`: the builder holds `cur`, and `items` are still to be read;
* `Queued.transfer`, `Queued.select`: one round up to its end; `Queued.stays`, `Queued.flushes`:
  the two ways a round ends; `Queued.flush`: what a flush leaves behind.
-/

namespace BmcAsd

open BmcLib

/-! ## Commands -/

/-- A well-formed read or write: the command byte, the address byte, and the bytes to write. -/
structure Transfer where
  cmd : UInt8
  addr : UInt8
  data : List UInt8
  valid : (i2cReadMin ≤ cmd ∧ cmd ≤ i2cReadMax ∧ data = []) ∨
    (i2cWriteMin ≤ cmd ∧ cmd ≤ i2cWriteMax ∧ data.length = (cmd &&& i2cLengthMask).toNat)

namespace Transfer

/-- The command in a packet. -/
def bytes (c : Transfer) : List UInt8 := c.cmd :: c.addr :: c.data

/-- The command is a read. -/
def read (c : Transfer) : Bool := c.cmd ≤ i2cReadMax

/-- The number of bytes to read or to write. -/
def length (c : Transfer) : ℕ := (c.cmd &&& i2cLengthMask).toNat

/-- The command ends its group. -/
def forceStop (c : Transfer) : Bool := i2cForceStop c.addr

/-- The message for the bus; the buffer of a read holds what was on the stack. -/
def msg (stack : ℕ → UInt8) (c : Transfer) : I2cMsg where
  read := c.read
  address := i2cAddress c.addr
  length := c.length
  buffer := if c.read then stack else block 0 c.data

theorem length_le (c : Transfer) : c.length ≤ 15 := by
  unfold length
  rw [UInt8.toNat_and]
  exact Nat.and_le_right

end Transfer

/-- A bus select, or a read or write. -/
inductive I2cItem where
  | select (bus : UInt8)
  | transfer (c : Transfer)

/-- The command in a packet. -/
def I2cItem.bytes : I2cItem → List UInt8
  | .select bus => [i2cWriteCfgBusSelect, bus]
  | .transfer c => c.bytes

theorem I2cItem.bytes_ne_nil (i : I2cItem) : i.bytes ≠ [] := by
  cases i <;> exact List.cons_ne_nil _ _

theorem flatMap_bytes_eq_nil {items : List I2cItem} :
    items.flatMap I2cItem.bytes = [] ↔ items = [] := by
  constructor
  · intro h
    cases items with
    | nil => rfl
    | cons i items => exact absurd (List.append_eq_nil_iff.mp h).1 i.bytes_ne_nil
  · rintro rfl
    rfl

/-! ## The unread part of a packet -/

/-- The bytes that are still to be read. -/
def PacketData.unread (p : PacketData) : List UInt8 := slice p.buffer p.used (p.total - p.used)

/-- The packet after `n` bytes were read. -/
def PacketData.skip (p : PacketData) (n : ℕ) : PacketData := { p with used := p.used + n }

theorem PacketData.skip_skip (p : PacketData) (m n : ℕ) : (p.skip m).skip n = p.skip (m + n) := by
  unfold skip
  rw [Nat.add_assoc]

section Unread

variable {p : PacketData} {a b : List UInt8}

theorem unread_length : p.unread.length = p.total - p.used := length_slice _ _ _

theorem skip_used_le (hp : p.used ≤ p.total) (h : p.unread = a ++ b) :
    (p.skip a.length).used ≤ (p.skip a.length).total := by
  have hlen := congrArg List.length h
  rw [unread_length, List.length_append] at hlen
  change p.used + a.length ≤ p.total
  omega

theorem unread_split (hp : p.used ≤ p.total) (h : p.unread = a ++ b) :
    slice p.buffer p.used a.length = a ∧ (p.skip a.length).unread = b := by
  have hlen := congrArg List.length h
  rw [unread_length, List.length_append] at hlen
  unfold PacketData.unread at h
  rw [hlen, slice_add] at h
  have hrest : p.total - (p.used + a.length) = b.length := by omega
  unfold PacketData.unread PacketData.skip
  dsimp only
  rw [hrest]
  exact List.append_inj h (length_slice _ _ _)

theorem getPacketData_unread (hp : p.used ≤ p.total) (h : p.unread = a ++ b) :
    getPacketData p a.length = some (a, p.skip a.length) := by
  rw [getPacketData_of_le (skip_used_le hp h), (unread_split hp h).1]
  rfl

end Unread

/-! ## One command -/

/-- `s'` is `s` up to allocations and noted accesses, and the same allocations will succeed. -/
def SameUpToMemory (s s' : AsdMsg) : Prop :=
  ∃ memory accesses, s' = { s with memory := memory, accesses := accesses } ∧
    memory.answers = s.memory.answers

theorem SameUpToMemory.trans {s₁ s₂ s₃ : AsdMsg} (h : SameUpToMemory s₁ s₂)
    (h' : SameUpToMemory s₂ s₃) : SameUpToMemory s₁ s₃ := by
  obtain ⟨memory, accesses, rfl, hm⟩ := h
  obtain ⟨memory', accesses', rfl, hm'⟩ := h'
  exact ⟨memory', accesses', rfl, hm'.trans hm⟩

/-- The loop variables after `n` bytes of the packet were read. -/
def I2cLoop.skip (l : I2cLoop) (n : ℕ) : I2cLoop :=
  { l with packet := l.packet.skip n
           st := l.st.touch [.packet l.packet.used n l.packet.total] }

/-- The loop variables after the transfer `c` was put into the builder. -/
def I2cLoop.collect (l : I2cLoop) (c : Transfer) (s : AsdMsg) : I2cLoop :=
  { l with
    st := s
    packet := l.packet.skip c.bytes.length
    builder := l.builder ++ [c.msg l.st.stack]
    status := .ok
    pending := true
    forceStop := c.forceStop }

/-- The loop variables after the bus `bus` was selected. -/
def I2cLoop.select (l : I2cLoop) (bus : UInt8) : I2cLoop :=
  { (l.skip 1).skip 1 with st := (busSelectCommand ((l.skip 1).skip 1).st bus).2 }

section Command

variable {l : I2cLoop} {c : Transfer}

theorem withData_unread {a b : List UInt8} (hp : l.packet.used ≤ l.packet.total)
    (h : l.packet.unread = a ++ b) (k : List UInt8 → I2cLoop → I2cLoop) :
    l.withData a.length k = k a (l.skip a.length) := by
  unfold I2cLoop.withData
  rw [getPacketData_unread hp h]
  rfl

theorem add_ok (hm : ∀ n, l.st.memory.answers n = true) (m : I2cMsg) :
    ∃ s, SameUpToMemory l.st s ∧
      l.add m = { l with st := s, builder := l.builder ++ [m], status := .ok } := by
  refine ⟨l.st.alloc.2.alloc.2, ⟨_, _, rfl, rfl⟩, ?_⟩
  have h1 : l.st.alloc.1 = true := hm _
  have h2 : l.st.alloc.2.alloc.1 = true := hm _
  unfold I2cLoop.add i2cMsgAdd
  simp only [h1, h2, if_true]

theorem doReadCommand_unread {cmd addr : UInt8} {rest : List UInt8}
    (hp : l.packet.used ≤ l.packet.total) (h : l.packet.unread = [addr] ++ rest) :
    doReadCommand l cmd = { l.skip 1 with forceStop := i2cForceStop addr }.add
      { read := true, address := i2cAddress addr, length := (cmd &&& i2cLengthMask).toNat,
        buffer := l.st.stack } :=
  withData_unread (l := { l with forceStop := false }) hp h _

theorem doWriteCommand_unread {cmd addr : UInt8} {data rest : List UInt8}
    (hp : l.packet.used ≤ l.packet.total) (h : l.packet.unread = [addr] ++ (data ++ rest))
    (hdata : data.length = (cmd &&& i2cLengthMask).toNat) :
    doWriteCommand l cmd = ({ l.skip 1 with forceStop := i2cForceStop addr }.skip data.length).add
      { read := false, address := i2cAddress addr, length := (cmd &&& i2cLengthMask).toNat,
        buffer := block 0 data } := by
  refine (withData_unread (l := { l with forceStop := false }) hp h _).trans ?_
  rw [← hdata]
  exact withData_unread (l := { l.skip 1 with forceStop := i2cForceStop addr })
    (skip_used_le hp h) (unread_split hp h).2 _

theorem i2cDispatch_read {cmd : UInt8} (h : i2cReadMin ≤ cmd ∧ cmd ≤ i2cReadMax) :
    i2cDispatch l cmd = { doReadCommand l cmd with pending := true } := by
  unfold i2cDispatch
  rw [if_neg, if_neg, if_pos h]
  · rintro rfl
    exact absurd h.1 (by decide)
  · rintro rfl
    exact absurd h.1 (by decide)

theorem i2cDispatch_write {cmd : UInt8} (h : i2cWriteMin ≤ cmd ∧ cmd ≤ i2cWriteMax) :
    i2cDispatch l cmd = { doWriteCommand l cmd with pending := true } := by
  unfold i2cDispatch
  rw [if_neg, if_neg, if_neg, if_pos h]
  · rintro ⟨-, hle⟩
    exact absurd (UInt8.le_trans h.1 hle) (by decide)
  · rintro rfl
    exact absurd h.1 (by decide)
  · rintro rfl
    exact absurd h.1 (by decide)

/-- A transfer goes into the builder. -/
theorem i2cCommand_transfer {rest : List UInt8} (hp : l.packet.used ≤ l.packet.total)
    (h : l.packet.unread = c.bytes ++ rest) (hm : ∀ n, l.st.memory.answers n = true) :
    ∃ s, SameUpToMemory l.st s ∧ i2cCommand l = i2cRoundEnd (l.collect c s) := by
  have h1 : l.packet.unread = [c.cmd] ++ ([c.addr] ++ (c.data ++ rest)) := h
  have hp1 : (l.skip 1).packet.used ≤ (l.skip 1).packet.total := skip_used_le hp h1
  have h2 : (l.skip 1).packet.unread = [c.addr] ++ (c.data ++ rest) := (unread_split hp h1).2
  have hround : i2cCommand l = i2cRoundEnd (i2cDispatch (l.skip 1) c.cmd) :=
    congrArg i2cRoundEnd (withData_unread hp h1 _)
  have hpacket : ((l.packet.skip 1).skip 1).skip c.data.length = l.packet.skip c.bytes.length := by
    rw [PacketData.skip_skip, PacketData.skip_skip]
    unfold Transfer.bytes
    rw [List.length_cons, List.length_cons]
    exact congrArg l.packet.skip (by omega)
  rcases c.valid with ⟨hmin, hmax, hdata⟩ | ⟨hmin, hmax, hdata⟩
  · have hread : c.read = true := decide_eq_true hmax
    obtain ⟨s, hs, hadd⟩ :=
      add_ok (l := { (l.skip 1).skip 1 with forceStop := c.forceStop }) hm (c.msg l.st.stack)
    refine ⟨s, SameUpToMemory.trans ⟨_, _, rfl, rfl⟩ hs, hround.trans (congrArg i2cRoundEnd ?_)⟩
    rw [i2cDispatch_read ⟨hmin, hmax⟩, doReadCommand_unread hp1 h2]
    unfold I2cLoop.collect
    rw [← hpacket, hdata]
    unfold Transfer.msg at hadd ⊢
    rw [hread] at hadd ⊢
    exact congrArg (fun l : I2cLoop => { l with pending := true }) hadd
  · have hread : c.read = false :=
      decide_eq_false fun hle => absurd (UInt8.le_trans hmin hle) (by decide)
    obtain ⟨s, hs, hadd⟩ :=
      add_ok (l := { (l.skip 1).skip 1 with forceStop := c.forceStop }.skip c.data.length) hm
        (c.msg l.st.stack)
    refine ⟨s, SameUpToMemory.trans ⟨_, _, rfl, rfl⟩ hs, hround.trans (congrArg i2cRoundEnd ?_)⟩
    rw [i2cDispatch_write ⟨hmin, hmax⟩, doWriteCommand_unread hp1 h2 hdata]
    unfold I2cLoop.collect
    rw [← hpacket]
    unfold Transfer.msg at hadd ⊢
    rw [hread] at hadd ⊢
    exact congrArg (fun l : I2cLoop => { l with pending := true }) hadd

end Command

/-! ## The queue -/

/-- The handle that `do_read_write` uses. -/
def Ixc.transferFile (x : Ixc) : Option OpenFile :=
  match x.busType x.defaultBus with
  | .i2c => if x.enableI2c then x.i2cDriverHandle else none
  | .i3c => if x.enableI3c then x.i3cDriverHandlers 0 else none
  | .notAllowed => none

theorem doReadWrite_eq (x : Ixc) (msgs : List I2cMsg) :
    doReadWrite x msgs = readWriteFile x x.transferFile msgs := by
  unfold doReadWrite Ixc.transferFile i2cReadWrite i3cReadWrite
  cases x.busType x.defaultBus with
  | i2c =>
    dsimp only
    split_ifs <;> rfl
  | i3c =>
    dsimp only
    split_ifs <;> rfl
  | notAllowed => rfl

/-- The state after a transaction on the handle `f`. -/
def Ixc.transferred (x : Ixc) (f : OpenFile) (msgs : List I2cMsg) : Ixc :=
  { x with os := x.os.call (.readWrite f msgs) }

/-- A transaction that succeeds. -/
theorem doReadWrite_ok {x : Ixc} {f : OpenFile} (hf : x.transferFile = some f)
    (hok : x.os.answer.ok = true) (msgs : List I2cMsg) :
    doReadWrite x msgs = (.ok, fillMsgs x.os.answer.data msgs, x.transferred f msgs) := by
  rw [doReadWrite_eq, hf]
  unfold readWriteFile Ixc.call Ixc.transferred
  simp only [hok, if_true]

section Responses

variable {s : AsdMsg} {cnt : ℕ} {ack : Bool} {m : I2cMsg} {msgs : List I2cMsg}

/-- The response of a message for which there is room. -/
theorem buildResponses_room (h : m.length + cnt + 2 ≤ maxDataSize) :
    buildResponses s cnt ack (m :: msgs) =
      buildResponses (s.respond cnt (i2cFrame m ack)) (cnt + (i2cFrame m ack).length) ack msgs := by
  have hfull : decide (m.length + cnt + 2 > maxDataSize) = false := decide_eq_false (by omega)
  rw [buildResponses]
  simp only [hfull, Bool.false_eq_true, if_false, if_true]

/-- The response of a message that opens a new packet. -/
theorem buildResponses_full (h : maxDataSize < m.length + cnt + 2) :
    buildResponses s cnt ack (m :: msgs) =
      if (sendContinuation s cnt).1 = .ok then
        buildResponses ((sendContinuation s cnt).2.respond 0 (i2cFrame m ack))
          (i2cFrame m ack).length ack msgs
      else ((sendContinuation s cnt).1, (sendContinuation s cnt).2, cnt) := by
  have hfull : decide (m.length + cnt + 2 > maxDataSize) = true := decide_eq_true h
  rw [buildResponses]
  simp only [hfull, if_true, Nat.zero_add]

/-- The header of a reply with `n` bytes. -/
def packetHeader (h : MessageHeader) (n : ℕ) (cmdStat : UInt8) : MessageHeader :=
  { h.withSize n with cmdStat := cmdStat }

theorem getMessageSize_packetHeader (h : MessageHeader) {n : ℕ} (hn : n ≤ maxDataSize)
    (cmdStat : UInt8) : getMessageSize (packetHeader h n cmdStat) = some n :=
  getMessageSize_withSize h hn

theorem sendContinuation_frame (s : AsdMsg) (cnt : ℕ) :
    ∃ outMsg network, (sendContinuation s cnt).2 = { s with outMsg := outMsg, network := network } ∧
      network.answers = s.network.answers := by
  unfold sendContinuation sendResponse
  dsimp only
  split
  · exact ⟨_, _, rfl, rfl⟩
  · dsimp only
    split_ifs <;> exact ⟨_, _, rfl, rfl⟩

/-- Building responses only uses `out_msg` and the network. -/
theorem buildResponses_frame (s : AsdMsg) (cnt : ℕ) (ack : Bool) (msgs : List I2cMsg) :
    ∃ outMsg network accesses, (buildResponses s cnt ack msgs).2.1 =
        { s with outMsg := outMsg, network := network, accesses := accesses } ∧
      network.answers = s.network.answers := by
  induction msgs generalizing s cnt with
  | nil => exact ⟨_, _, _, rfl, rfl⟩
  | cons m msgs ih =>
    by_cases hfull : maxDataSize < m.length + cnt + 2
    · rw [buildResponses_full hfull]
      obtain ⟨out, net, hs, hn⟩ := sendContinuation_frame s cnt
      split_ifs
      · rw [hs]
        obtain ⟨out', net', acc, hs', hn'⟩ :=
          ih ({ s with outMsg := out, network := net }.respond 0 (i2cFrame m ack))
            (i2cFrame m ack).length
        exact ⟨out', net', acc, hs', hn'.trans hn⟩
      · exact ⟨out, net, s.accesses, hs, hn⟩
    · rw [buildResponses_room (by omega)]
      obtain ⟨out, net, acc, hs, hn⟩ :=
        ih (s.respond cnt (i2cFrame m ack)) (cnt + (i2cFrame m ack).length)
      exact ⟨out, net, acc, hs, hn⟩

theorem sendContinuation_ok (hn : ∀ n, s.network.answers n = true) (hcnt : cnt ≤ maxDataSize) :
    sendContinuation s cnt =
      (.ok, { s with
        outMsg := ⟨packetHeader s.outMsg.header cnt (asdSuccess ||| asdPacketContinuation), fun _ => 0⟩
        network := s.network.call
          ⟨packetHeader s.outMsg.header cnt (asdSuccess ||| asdPacketContinuation),
            slice s.outMsg.buffer 0 cnt⟩ }) := by
  set header := packetHeader s.outMsg.header cnt (asdSuccess ||| asdPacketContinuation) with hheader
  have hsend := sendResponse_eq (s.setOutHeader header) ⟨header, s.outMsg.buffer⟩
    (getMessageSize_packetHeader s.outMsg.header hcnt _)
  rw [if_pos (show (s.setOutHeader header).network.answer = true from hn _)] at hsend
  refine (congrArg (fun r : Status × AsdMsg => if r.1 = .ok then
    (Status.ok, { r.2 with outMsg := ⟨r.2.outMsg.header, fun _ => 0⟩ }) else r) hsend).trans ?_
  rw [if_pos rfl]
  rfl

theorem length_i2cFrame (m : I2cMsg) (ack : Bool) :
    (i2cFrame m ack).length = 2 + if m.read then m.length else 0 := by
  unfold i2cFrame
  rw [List.length_append]
  by_cases h : m.read = true
  · rw [if_pos h, if_pos h, if_pos h, length_slice]
    rfl
  · rw [if_neg h, if_neg h, if_neg h]
    rfl

/-- Building responses does not fail as long as packets can be sent. -/
theorem buildResponses_ok (hn : ∀ n, s.network.answers n = true) (hcnt : cnt ≤ maxDataSize)
    (hlen : ∀ m ∈ msgs, m.length ≤ 15) :
    (buildResponses s cnt ack msgs).1 = .ok ∧ (buildResponses s cnt ack msgs).2.2 ≤ maxDataSize := by
  induction msgs generalizing s cnt with
  | nil => exact ⟨rfl, hcnt⟩
  | cons m msgs ih =>
    have hm := hlen m List.mem_cons_self
    have hframe : (i2cFrame m ack).length ≤ m.length + 2 := by
      rw [length_i2cFrame]
      split_ifs <;> omega
    have hmax : 17 ≤ maxDataSize := by decide
    have hrest : ∀ m ∈ msgs, m.length ≤ 15 := fun m' h => hlen m' (List.mem_cons_of_mem m h)
    by_cases hfull : maxDataSize < m.length + cnt + 2
    · rw [buildResponses_full hfull, sendContinuation_ok hn hcnt, if_pos rfl]
      exact ih hn (by omega) hrest
    · rw [buildResponses_room (by omega)]
      exact ih hn (by omega) hrest

end Responses

/-- The builder holds `cur`, `items` are still to be read, and nothing has failed. -/
structure Queued (cur : List Transfer) (items : List I2cItem) (l : I2cLoop) : Prop where
  used_le : l.packet.used ≤ l.packet.total
  unread : l.packet.unread = items.flatMap I2cItem.bytes
  builder : l.builder = cur.map (Transfer.msg l.st.stack)
  pending : l.pending = !cur.isEmpty
  status : l.status = .ok
  broken : l.broken = false
  memory : ∀ n, l.st.memory.answers n = true
  network : ∀ n, l.st.network.answers n = true
  room : l.responseCnt ≤ maxDataSize

theorem fillMsgs_length_le {stack : ℕ → UInt8} (data : ℕ → ℕ → UInt8) (cur : List Transfer) :
    ∀ m ∈ fillMsgs data (cur.map (Transfer.msg stack)), m.length ≤ 15 := by
  intro m hm
  obtain ⟨i, hi, rfl⟩ := List.mem_mapIdx.mp hm
  rw [List.getElem_map]
  split_ifs <;> exact Transfer.length_le _

section Queued

variable {cur : List Transfer} {items : List I2cItem} {l : I2cLoop} {c : Transfer} {bus : UInt8}

theorem Queued.used_eq_iff (h : Queued cur items l) : l.packet.used = l.packet.total ↔ items = [] := by
  have hlen := congrArg List.length h.unread
  rw [unread_length] at hlen
  rw [← flatMap_bytes_eq_nil, ← List.length_eq_zero_iff, ← hlen]
  have := h.used_le
  omega

theorem Queued.goesOn (h : Queued cur items l) : l.goesOn = true ↔ items ≠ [] := by
  unfold I2cLoop.goesOn
  rw [h.broken, ne_eq, ← h.used_eq_iff, Bool.not_false, Bool.true_and, decide_eq_true_eq]
  have := h.used_le
  omega

/-- The round of a read or write, up to its end. -/
theorem Queued.transfer (h : Queued cur (.transfer c :: items) l) :
    ∃ s, SameUpToMemory l.st s ∧ Queued (cur ++ [c]) items (l.collect c s) ∧
      i2cCommand l = i2cRoundEnd (l.collect c s) := by
  have hunread : l.packet.unread = c.bytes ++ items.flatMap I2cItem.bytes := h.unread
  obtain ⟨s, hs, hround⟩ := i2cCommand_transfer h.used_le hunread h.memory
  refine ⟨s, hs, ?_, hround⟩
  obtain ⟨memory, accesses, rfl, hm⟩ := hs
  refine ⟨skip_used_le h.used_le hunread, (unread_split h.used_le hunread).2, ?_, ?_, rfl, h.broken,
    fun n => (congrFun hm n).trans (h.memory n), h.network, h.room⟩
  · change l.builder ++ [c.msg l.st.stack] = _
    rw [h.builder, List.map_append]
    rfl
  · simp [I2cLoop.collect]

/-- A round that ends without a flush. -/
theorem Queued.stays (h : Queued cur items l) (hend : cur = [] ∨ items ≠ [] ∧ l.forceStop = false) :
    i2cRoundEnd l = l := by
  unfold i2cRoundEnd
  rw [if_neg (not_not.mpr h.status), if_neg]
  rw [h.pending]
  rcases hend with rfl | ⟨hitems, hstop⟩
  · simp
  · simp [hstop, h.used_eq_iff, hitems]

/-- A round that ends with a flush. -/
theorem Queued.flushes (h : Queued cur items l) (hcur : cur ≠ [])
    (hend : items = [] ∨ l.forceStop = true) : i2cRoundEnd l = flushI2c l := by
  unfold i2cRoundEnd
  rw [if_neg (not_not.mpr h.status), if_pos]
  rw [h.pending]
  rcases hend with hitems | hstop
  · simp [h.used_eq_iff, hitems, hcur]
  · simp [hstop, hcur]

/-- A flush whose transaction succeeds. -/
theorem Queued.flush (h : Queued cur items l) {f : OpenFile}
    (hf : l.st.ixc.transferFile = some f) (hok : l.st.ixc.os.answer.ok = true) :
    let b := buildResponses (l.st.setIxc (l.st.ixc.transferred f l.builder)) l.responseCnt true
      (fillMsgs l.st.ixc.os.answer.data l.builder)
    Queued [] items (flushI2c l) ∧ (flushI2c l).forceStop = false ∧ (flushI2c l).st = b.2.1 ∧
      (flushI2c l).responseCnt = b.2.2 := by
  intro b
  have hlen : ∀ m ∈ fillMsgs l.st.ixc.os.answer.data l.builder, m.length ≤ 15 := by
    rw [h.builder]
    exact fillMsgs_length_le _ _
  have hok : b.1 = .ok ∧ b.2.2 ≤ maxDataSize :=
    buildResponses_ok (s := l.st.setIxc (l.st.ixc.transferred f l.builder)) h.network h.room hlen
  obtain ⟨hb, hcnt⟩ := hok
  obtain ⟨out, net, acc, hs, hn⟩ := buildResponses_frame
    (l.st.setIxc (l.st.ixc.transferred f l.builder)) l.responseCnt true
    (fillMsgs l.st.ixc.os.answer.data l.builder)
  have hflush : flushI2c l = { l with
      pending := false, forceStop := false, status := .ok, st := b.2.1, responseCnt := b.2.2,
      builder := [] } := by
    unfold flushI2c
    rw [doReadWrite_ok hf hok]
    simp only [decide_true]
    rw [if_pos hb, hb]
  rw [hflush]
  refine ⟨?_, rfl, rfl, rfl⟩
  refine ⟨h.used_le, h.unread, rfl, rfl, rfl, h.broken, ?_, ?_, hcnt⟩
  · change ∀ n, b.2.1.memory.answers n = true
    rw [hs]
    exact h.memory
  · change ∀ n, b.2.1.network.answers n = true
    rw [hs]
    exact fun n => (congrFun hn n).trans (h.network n)

end Queued

/-! ## The whole message -/

/-- The state in which the loop starts. -/
def AsdMsg.i2cStart (s : AsdMsg) (m : AsdMessage) : AsdMsg :=
  { s.alloc.2 with outMsg := ⟨m.header, fun _ => 0⟩ }.alloc.2

theorem length_le_flatMap_bytes (items : List I2cItem) :
    items.length ≤ (items.flatMap I2cItem.bytes).length := by
  induction items with
  | nil => exact Nat.zero_le _
  | cons i items ih =>
    rw [List.flatMap_cons, List.length_append, List.length_cons]
    have := List.length_pos_of_ne_nil i.bytes_ne_nil
    omega

section Message

variable {s : AsdMsg} {m : AsdMessage} {n : ℕ} {items : List I2cItem}

/-- Enough rounds for all commands are made, and then the reply is sent. -/
theorem processI2cMessages_eq (hsize : getMessageSize m.header = some n)
    (hmem : ∀ k, s.memory.answers k = true) (hpayload : slice m.buffer 0 n = items.flatMap I2cItem.bytes)
    {l : I2cLoop} {cur : List Transfer} (hl : Queued cur [] l)
    (hrun : whileN I2cLoop.goesOn i2cCommand items.length
      (i2cLoopStart (s.i2cStart m) m n) = l) :
    processI2cMessages s m = i2cReply l := by
  have h1 : s.alloc.1 = true := hmem _
  have h2 : AsdMsg.alloc { s.alloc.2 with outMsg := ⟨m.header, fun _ => 0⟩ } =
      (true, s.i2cStart m) := Prod.ext (hmem _) rfl
  have hlen : items.length ≤ n := by
    have := congrArg List.length hpayload
    rw [length_slice] at this
    rw [this]
    exact length_le_flatMap_bytes items
  have hexit : l.goesOn = false := by
    have := hl.goesOn.not
    simpa using this
  unfold processI2cMessages
  simp only [h1, h2, hsize, if_true]
  rw [← Nat.add_sub_cancel' hlen, whileN_add, Nat.add_sub_cancel' hlen, hrun, whileN_of_exit hexit]

theorem i2cLoopStart_queued (hmem : ∀ k, s.memory.answers k = true)
    (hnet : ∀ k, s.network.answers k = true)
    (hpayload : slice m.buffer 0 n = items.flatMap I2cItem.bytes) :
    Queued [] items (i2cLoopStart (s.i2cStart m) m n) :=
  ⟨Nat.zero_le n, hpayload, rfl, rfl, rfl, rfl, hmem, hnet, Nat.zero_le _⟩

theorem i2cReply_ok {l : I2cLoop} {cur : List Transfer} (h : Queued cur items l) :
    let header := packetHeader l.st.outMsg.header l.responseCnt asdSuccess
    i2cReply l = (.ok, { l.st.setOutHeader header with
      network := l.st.network.call ⟨header, slice l.st.outMsg.buffer 0 l.responseCnt⟩ }) := by
  intro header
  have hsend := sendResponse_eq (l.st.setOutHeader header) ⟨header, l.st.outMsg.buffer⟩
    (getMessageSize_packetHeader l.st.outMsg.header h.room _)
  rw [if_pos (show (l.st.setOutHeader header).network.answer = true from h.network _)] at hsend
  unfold i2cReply
  rw [if_pos h.status]
  exact hsend

end Message

end BmcAsd
