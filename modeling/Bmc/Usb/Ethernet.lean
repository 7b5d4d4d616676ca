import Bmc.Lib.Run
import Bmc.Lib.Search

/-!
# The transmit queue of Ethernet over USB

`linux.c`: a packet takes a free slot, and the transmit handler works on one slot at a time. The packets behind it
are pending, and are started when the handler completes.

* `sendEthernetPacket`, `netTxComplete`: the two callers of the handler;
* `Delivers`: what the queue is for; `InTurn`: what an event takes;
* `Queued`: the pending slots in the order of acceptance;
* `Queued.send_busy`, `Queued.hand`, `Queued.release`: what an event does to them;
* **`always_delivers_iff`**: all events.
-/

namespace BmcUsb

open BmcLib

/-! ## The queue -/

/-- `NUM_TX_BUFS`. -/
def numTxBufs : ℕ := 6

/-- `ETH_ZLEN`. -/
def ethZlen : ℕ := 60

/-- A packet buffer, with the number of the call that it came with. -/
structure SkBuff where
  id : ℕ
  data : List UInt8
  deriving DecidableEq, Repr

/-- Where the data of a slot is: in the packet buffer, or in `shortpkt` on the stack of the call. -/
inductive TxData where
  | skb
  | shortpkt
  deriving DecidableEq, Repr

/-- `NET_PACKET`: a slot. -/
structure NetPacket where
  lock : Bool
  skb : Option SkBuff
  sent : UInt16
  size : UInt16
  hits : UInt16
  data : TxData

/-- The counters of the interface that are kept for the transmit queue. -/
structure NetStats where
  txPackets : ℕ
  txBytes : ℕ
  txDropped : ℕ

/-- The slots, `PendingBufs`, and the lock of the transmit handler. The fields from `inFlight` on are not the
driver's: the slot that the handler works on, the number of calls, the buffers that were accepted, what the handler
was given, with the bytes that it finds, and the buffers that were freed. -/
structure NetDevice where
  txBuff : Fin numTxBufs → NetPacket
  pendingBufs : Fin numTxBufs → Bool
  txon : Bool
  stats : NetStats
  inFlight : Option (Fin numTxBufs)
  offered : ℕ
  accepted : List SkBuff
  handed : List (Option SkBuff × Option (List UInt8))
  freed : List ℕ

/-- A packet arrives, or the handler has completed. -/
inductive NetEvent where
  | send (data : List UInt8)
  | complete

/-- The data, padded with zeros to the minimum length. -/
def padToZlen (data : List UInt8) : List UInt8 := data ++ List.replicate (ethZlen - data.length) 0

namespace NetDevice

/-- All slots are free. -/
def start : NetDevice where
  txBuff _ := ⟨false, none, 0, 0, 0, .skb⟩
  pendingBufs _ := false
  txon := false
  stats := ⟨0, 0, 0⟩
  inFlight := none
  offered := 0
  accepted := []
  handed := []
  freed := []

/-- The first slot that is not locked. -/
def freeBuf (s : NetDevice) : Option (Fin numTxBufs) :=
  (List.finRange numTxBufs).find? fun r => !(s.txBuff r).lock

/-- The first slot that is pending. -/
def pendingBuf (s : NetDevice) : Option (Fin numTxBufs) := (List.finRange numTxBufs).find? s.pendingBufs

/-- `NetTxHandler` is called. `shortpkt` is there only during the call that has filled it. -/
def netTxHandler (s : NetDevice) (r : Fin numTxBufs) (shortpkt : Option (List UInt8)) : NetDevice :=
  let pkt := s.txBuff r
  let memory := match pkt.data with
    | .skb => pkt.skb.map SkBuff.data
    | .shortpkt => shortpkt
  { s with
    inFlight := some r
    handed := s.handed ++ [(pkt.skb, memory.map (·.take pkt.size.toNat))] }

/-- The slot of a packet. -/
def fill (pkt : NetPacket) (skb : SkBuff) : NetPacket where
  lock := true
  skb := some skb
  sent := 0
  size := UInt16.ofNat (if skb.data.length < ethZlen then ethZlen else skb.data.length)
  hits := pkt.hits + 1
  data := if skb.data.length < ethZlen then .shortpkt else .skb

/-- `SendEthernetPacket`. -/
def sendEthernetPacket (s : NetDevice) (data : List UInt8) : NetDevice :=
  let skb : SkBuff := ⟨s.offered, data⟩
  let s := { s with offered := s.offered + 1 }
  match s.freeBuf with
  | none => { s with
      stats := { s.stats with txDropped := s.stats.txDropped + 1 }
      freed := s.freed ++ [skb.id] }
  | some r =>
    let len := if data.length < ethZlen then ethZlen else data.length
    let s := { s with
      txBuff := Function.update s.txBuff r (fill (s.txBuff r) skb)
      stats := { s.stats with txPackets := s.stats.txPackets + 1, txBytes := s.stats.txBytes + len }
      accepted := s.accepted ++ [skb] }
    if s.txon = false then netTxHandler { s with txon := true } r (some (padToZlen data))
    else { s with pendingBufs := Function.update s.pendingBufs r true }

/-- `Net_TxComplete`, up to the search for a pending slot. -/
def release (s : NetDevice) (r : Fin numTxBufs) : NetDevice := { s with
  freed := s.freed ++ ((s.txBuff r).skb.map SkBuff.id).toList
  txBuff := Function.update s.txBuff r { s.txBuff r with lock := false }
  txon := false
  inFlight := none }

/-- `Net_TxComplete`. The lock `txon` was given back before it is taken again. -/
def netTxComplete (s : NetDevice) (r : Fin numTxBufs) : NetDevice :=
  let s := s.release r
  match s.pendingBuf with
  | none => s
  | some r' => netTxHandler { s with txon := true, pendingBufs := Function.update s.pendingBufs r' false } r' none

/-- An event. The handler completes the slot that it works on. -/
def step (s : NetDevice) : NetEvent → NetDevice
  | .send data => s.sendEthernetPacket data
  | .complete =>
    match s.inFlight with
    | none => s
    | some r => s.netTxComplete r

/-! ## What the queue is for -/

/-- The accepted buffers that were not completed: the one in flight and those not handed over. -/
def uncompleted (s : NetDevice) : List SkBuff :=
  s.accepted.drop (s.handed.length - if s.inFlight.isSome then 1 else 0)

/-- **What the queue is for**: the accepted buffers are handed over once, in their order, with their bytes, padded to
the minimum length; those that were not handed over are pending, and there is none when the handler is idle; the
memory of the slot in flight is there; and exactly the buffers that were completed or refused have been freed, each
once. -/
structure Delivers (s : NetDevice) : Prop where
  handed : s.handed = (s.accepted.take s.handed.length).map fun skb => (some skb, some (padToZlen skb.data))
  waiting : ∀ skb, skb ∈ s.accepted.drop s.handed.length ↔
    ∃ r, s.pendingBufs r = true ∧ (s.txBuff r).skb = some skb
  idle : s.inFlight = none → s.handed.length = s.accepted.length
  valid : ∀ r, s.inFlight = some r →
    (s.txBuff r).data = .skb ∧ ∀ skb, (s.txBuff r).skb = some skb → skb.id ∉ s.freed
  nodup : s.freed.Nodup
  freed : ∀ id, id ∈ s.freed ↔ id < s.offered ∧ id ∉ (uncompleted s).map SkBuff.id

/-- The packet needs no padding, and its length fits into the field `Size`. -/
def Intact (data : List UInt8) : Prop := ethZlen ≤ data.length ∧ data.length < 2 ^ 16

/-- **What an event takes**: a packet that is handed over at once is intact, and the packet in the first pending slot
is the one that was accepted first, and intact. -/
def InTurn (s : NetDevice) : NetEvent → Prop
  | .send data => s.txon = false → Intact data
  | .complete => ∀ r, s.pendingBuf = some r →
    ∃ skb, (s.txBuff r).skb = some skb ∧ s.accepted[s.handed.length]? = some skb ∧ Intact skb.data

/-! ## The pending slots -/

variable {s : NetDevice} {q : List (Fin numTxBufs)} {r : Fin numTxBufs} {skb : SkBuff}

/-- The pending slots, in the order in which their packets were accepted. -/
structure Queued (s : NetDevice) (q : List (Fin numTxBufs)) : Prop where
  nodup : q.Nodup
  pending : ∀ r, s.pendingBufs r = true ↔ r ∈ q
  lock : ∀ r, (s.txBuff r).lock = true ↔ r ∈ q ∨ s.inFlight = some r
  apart : ∀ r, s.inFlight = some r → r ∉ q
  txon : s.txon = s.inFlight.isSome
  skbs : q.map (fun r => (s.txBuff r).skb) = (s.accepted.drop s.handed.length).map some
  filled : ∀ r ∈ q, ∃ pkt skb, s.txBuff r = fill pkt skb
  inFlight : ∀ r, s.inFlight = some r → ∃ skb, (s.txBuff r).skb = some skb ∧ (s.txBuff r).data = .skb ∧
    uncompleted s = skb :: s.accepted.drop s.handed.length
  handed : s.handed = (s.accepted.take s.handed.length).map fun skb => (some skb, some (padToZlen skb.data))
  ids : (s.accepted.map SkBuff.id).Nodup
  offered : ∀ skb ∈ s.accepted, skb.id < s.offered
  freedOnce : s.freed.Nodup
  freed : ∀ id, id ∈ s.freed ↔ id < s.offered ∧ id ∉ (uncompleted s).map SkBuff.id

theorem queued_start : Queued start [] := by
  refine ⟨List.nodup_nil, ?_, ?_, ?_, rfl, rfl, ?_, ?_, rfl, List.nodup_nil, ?_, List.nodup_nil, ?_⟩
  all_goals simp [start, uncompleted]

theorem Queued.handed_le (h : Queued s q) : s.handed.length ≤ s.accepted.length := by
  have hlen := congrArg List.length h.handed
  rw [List.length_map, List.length_take] at hlen
  omega

theorem Queued.nodup_drop (h : Queued s q) (n : ℕ) : ((s.accepted.drop n).map SkBuff.id).Nodup :=
  h.ids.sublist ((List.drop_sublist n _).map _)

/-- **The queue does what it is for.** -/
theorem Queued.delivers (h : Queued s q) (hidle : s.inFlight = none → q = []) : Delivers s where
  handed := h.handed
  waiting skb := by
    have hmem : skb ∈ s.accepted.drop s.handed.length ↔ some skb ∈ q.map fun r => (s.txBuff r).skb := by
      rw [h.skbs, List.mem_map_of_injective (Option.some_injective _)]
    rw [hmem, List.mem_map]
    simp only [h.pending]
  idle hnone := by
    have hskbs := h.skbs
    rw [hidle hnone, List.map_nil] at hskbs
    have hlen := congrArg List.length hskbs
    rw [List.length_map, List.length_drop, List.length_nil] at hlen
    have := h.handed_le
    omega
  valid r hr := by
    obtain ⟨skb, hskb, hdata, huncompleted⟩ := h.inFlight r hr
    refine ⟨hdata, fun skb' hskb' hfreed => ((h.freed _).1 hfreed).2 ?_⟩
    obtain rfl := Option.some.inj (hskb.symm.trans hskb')
    rw [huncompleted]
    exact List.mem_cons_self
  nodup := h.freedOnce
  freed := h.freed

/-- Two pending slots do not have the same packet. -/
theorem Queued.eq_of_skb (h : Queued s q) {r' : Fin numTxBufs} (hr : r ∈ q) (hr' : r' ∈ q)
    (heq : (s.txBuff r).skb = (s.txBuff r').skb) : r = r' := by
  have hnodup : (q.map fun r => (s.txBuff r).skb).Nodup := by
    rw [h.skbs]
    exact (List.Nodup.of_map _ (h.nodup_drop _)).map (Option.some_injective _)
  exact List.inj_on_of_nodup_map hnodup hr hr' heq

theorem Queued.pendingBuf_mem (h : Queued s q) (hr : s.pendingBuf = some r) : r ∈ q :=
  (h.pending r).1 (List.find?_some hr)

theorem Queued.eq_nil_of_pendingBuf (h : Queued s q) (hnone : s.pendingBuf = none) : q = [] := by
  refine List.eq_nil_iff_forall_not_mem.2 fun r hr => ?_
  exact List.find?_eq_none.1 hnone r (List.mem_finRange r) ((h.pending r).2 hr)

/-! ## A packet is accepted -/

/-- A packet takes a slot and is pending. -/
def accept (s : NetDevice) (r : Fin numTxBufs) (data : List UInt8) : NetDevice :=
  let len := if data.length < ethZlen then ethZlen else data.length
  { s with
    txBuff := Function.update s.txBuff r (fill (s.txBuff r) ⟨s.offered, data⟩)
    pendingBufs := Function.update s.pendingBufs r true
    stats := { s.stats with txPackets := s.stats.txPackets + 1, txBytes := s.stats.txBytes + len }
    offered := s.offered + 1
    accepted := s.accepted ++ [⟨s.offered, data⟩] }

/-- A packet that is accepted is the last one. -/
theorem Queued.accept (h : Queued s q) (hr : (s.txBuff r).lock = false) (data : List UInt8) :
    Queued (s.accept r data) (q ++ [r]) := by
  have hfree : ¬ (r ∈ q ∨ s.inFlight = some r) := fun hc => by
    rw [← h.lock, hr] at hc
    exact absurd hc (by decide)
  rw [not_or] at hfree
  have hle := h.handed_le
  have hother : ∀ r', r' ≠ r → (s.accept r data).txBuff r' = s.txBuff r' := fun r' hne =>
    Function.update_of_ne hne _ _
  have hne : ∀ r' ∈ q, r' ≠ r := fun r' hr' hc => hfree.1 (hc ▸ hr')
  have hself : (s.accept r data).txBuff r = fill (s.txBuff r) ⟨s.offered, data⟩ := Function.update_self _ _ _
  have hdrop : ∀ n ≤ s.accepted.length, (s.accept r data).accepted.drop n =
      s.accepted.drop n ++ [⟨s.offered, data⟩] := fun n hn => List.drop_append_of_le_length hn
  have huncompleted : uncompleted (s.accept r data) = uncompleted s ++ [⟨s.offered, data⟩] :=
    hdrop _ ((Nat.sub_le _ _).trans hle)
  refine ⟨?_, fun r' => ?_, fun r' => ?_, fun r' hr' => ?_, h.txon, ?_, fun r' hr' => ?_, fun r' hr' => ?_, ?_, ?_,
    fun skb hskb => ?_, h.freedOnce, fun id => ?_⟩
  · rw [← List.concat_eq_append]
    exact h.nodup.concat hfree.1
  · change Function.update s.pendingBufs r true r' = true ↔ _
    rw [List.mem_append, List.mem_singleton]
    by_cases heq : r' = r
    · subst heq
      rw [Function.update_self]
      exact iff_of_true rfl (.inr rfl)
    · rw [Function.update_of_ne heq, h.pending, or_iff_left heq]
  · rw [List.mem_append, List.mem_singleton]
    by_cases heq : r' = r
    · subst heq
      rw [hself]
      exact iff_of_true rfl (.inl (.inr rfl))
    · rw [hother r' heq, h.lock, or_iff_left heq]
      rfl
  · rw [List.mem_append, List.mem_singleton, not_or]
    refine ⟨h.apart r' hr', ?_⟩
    rintro rfl
    exact hfree.2 hr'
  · have hq : q.map (fun r' => ((s.accept r data).txBuff r').skb) = q.map fun r' => (s.txBuff r').skb :=
      List.map_congr_left fun r' hr' => by rw [hother r' (hne r' hr')]
    rw [List.map_append, hq, h.skbs, List.map_singleton, hself]
    change _ = ((s.accept r data).accepted.drop s.handed.length).map some
    rw [hdrop _ hle, List.map_append]
    rfl
  · rcases List.mem_append.1 hr' with hr' | hr'
    · rw [hother r' (hne r' hr')]
      exact h.filled r' hr'
    · rw [List.mem_singleton.1 hr', hself]
      exact ⟨_, _, rfl⟩
  · obtain ⟨skb, hskb, hdata, hrest⟩ := h.inFlight r' hr'
    have hne' : r' ≠ r := by
      rintro rfl
      exact hfree.2 hr'
    refine ⟨skb, ?_, ?_, ?_⟩
    · rw [hother r' hne', hskb]
    · rw [hother r' hne', hdata]
    · rw [huncompleted, hrest]
      exact congrArg _ (hdrop _ hle).symm
  · change s.handed = ((s.accepted ++ [(⟨s.offered, data⟩ : SkBuff)]).take s.handed.length).map _
    rw [List.take_append_of_le_length hle]
    exact h.handed
  · change ((s.accepted ++ [(⟨s.offered, data⟩ : SkBuff)]).map SkBuff.id).Nodup
    rw [List.map_append, List.map_singleton, ← List.concat_eq_append]
    refine h.ids.concat fun hc => ?_
    obtain ⟨skb, hskb, hid⟩ := List.mem_map.1 hc
    exact absurd hid (h.offered skb hskb).ne
  · rcases List.mem_append.1 hskb with hskb | hskb
    · exact (h.offered skb hskb).trans (Nat.lt_succ_self _)
    · rw [List.mem_singleton.1 hskb]
      exact Nat.lt_succ_self _
  · change id ∈ s.freed ↔ id < s.offered + 1 ∧ _
    rw [h.freed, huncompleted, List.map_append, List.mem_append, List.map_singleton, List.mem_singleton, not_or]
    change _ ↔ id < s.offered + 1 ∧ _ ∧ ¬ id = s.offered
    constructor
    · rintro ⟨hlt, hnot⟩
      exact ⟨hlt.trans (Nat.lt_succ_self _), hnot, hlt.ne⟩
    · rintro ⟨hlt, hnot, hne⟩
      exact ⟨lt_of_le_of_ne (Nat.lt_succ_iff.1 hlt) hne, hnot⟩

/-! ## A packet is handed over -/

theorem padToZlen_of_le {data : List UInt8} (h : ethZlen ≤ data.length) : padToZlen data = data := by
  rw [padToZlen, Nat.sub_eq_zero_of_le h, List.replicate_zero, List.append_nil]

/-- The slot of a packet has all of it exactly when it is intact. -/
theorem fill_iff (pkt : NetPacket) (skb : SkBuff) :
    (fill pkt skb).data = .skb ∧ skb.data.take (fill pkt skb).size.toNat = padToZlen skb.data ↔ Intact skb.data := by
  unfold fill Intact
  dsimp only
  by_cases hshort : skb.data.length < ethZlen
  · rw [if_pos hshort, if_pos hshort]
    exact iff_of_false (fun hc => absurd hc.1 (by decide)) fun hc => absurd hc.1 (Nat.not_le.2 hshort)
  rw [if_neg hshort, if_neg hshort, padToZlen_of_le (Nat.not_lt.1 hshort), and_iff_right rfl,
    and_iff_right (Nat.not_lt.1 hshort), List.take_eq_self_iff, UInt16.toNat_ofNat']
  constructor
  · intro hle
    exact hle.trans_lt (Nat.mod_lt _ (by decide))
  · intro hlt
    exact (Nat.mod_eq_of_lt hlt).ge

/-- A pending slot is handed over. -/
def hand (s : NetDevice) (r : Fin numTxBufs) (shortpkt : Option (List UInt8)) : NetDevice :=
  netTxHandler { s with txon := true, pendingBufs := Function.update s.pendingBufs r false } r shortpkt

theorem hand_handed {pkt : NetPacket} (hfill : s.txBuff r = fill pkt skb) (hdata : (fill pkt skb).data = .skb)
    (shortpkt : Option (List UInt8)) : (s.hand r shortpkt).handed =
      s.handed ++ [(some skb, some (skb.data.take (fill pkt skb).size.toNat))] := by
  rw [NetDevice.hand, netTxHandler]
  dsimp only
  rw [hfill, hdata]
  rfl

/-- The first pending slot has the packet that was accepted first. -/
theorem Queued.head (h : Queued s (r :: q)) : ∃ skb, (s.txBuff r).skb = some skb ∧
    s.accepted[s.handed.length]? = some skb ∧
    s.accepted.drop s.handed.length = skb :: s.accepted.drop (s.handed.length + 1) ∧
    q.map (fun r => (s.txBuff r).skb) = (s.accepted.drop (s.handed.length + 1)).map some := by
  have hskbs := h.skbs
  cases hdrop : s.accepted.drop s.handed.length with
  | nil =>
    rw [hdrop] at hskbs
    exact absurd hskbs (List.cons_ne_nil _ _)
  | cons skb rest =>
    have hrest : s.accepted.drop (s.handed.length + 1) = rest := by
      rw [← List.tail_drop, hdrop, List.tail_cons]
    have hget : s.accepted[s.handed.length]? = some skb := by
      rw [← List.head?_drop, hdrop, List.head?_cons]
    rw [hdrop, List.map_cons, List.map_cons, List.cons.injEq] at hskbs
    exact ⟨skb, hskbs.1, hget, by rw [hrest], by rw [hrest]; exact hskbs.2⟩

/-- The next packet is handed over. -/
theorem Queued.hand (h : Queued s (r :: q)) (hnone : s.inFlight = none)
    (hintact : ∀ skb, (s.txBuff r).skb = some skb → Intact skb.data) (shortpkt : Option (List UInt8)) :
    Queued (s.hand r shortpkt) q := by
  obtain ⟨skb, hskb, hget, hdrop, hrest⟩ := h.head
  obtain ⟨pkt, skb', hfill⟩ := h.filled r List.mem_cons_self
  obtain rfl : skb = skb' := Option.some.inj (hskb.symm.trans (congrArg NetPacket.skb hfill))
  obtain ⟨hdata, hbytes⟩ := (fill_iff pkt skb).2 (hintact skb hskb)
  have hhanded : (s.hand r shortpkt).handed = s.handed ++ [(some skb, some (padToZlen skb.data))] := by
    rw [hand_handed hfill hdata, hbytes]
  have hlen : (s.hand r shortpkt).handed.length = s.handed.length + 1 := by
    rw [hhanded, List.length_append, List.length_singleton]
  have huncompleted : uncompleted (s.hand r shortpkt) = uncompleted s := by
    have hs : uncompleted s = s.accepted.drop s.handed.length := by
      rw [uncompleted, hnone]
      rfl
    rw [hs, uncompleted, hlen]
    rfl
  have hnodup := List.nodup_cons.1 h.nodup
  refine ⟨hnodup.2, fun r' => ?_, fun r' => ?_, fun r' hr' => ?_, rfl, ?_,
    fun r' hr' => h.filled r' (List.mem_cons_of_mem _ hr'), fun r' hr' => ?_, ?_, h.ids, h.offered, h.freedOnce,
    fun id => ?_⟩
  · change Function.update s.pendingBufs r false r' = true ↔ _
    by_cases heq : r' = r
    · subst heq
      rw [Function.update_self]
      exact iff_of_false (by decide) hnodup.1
    · rw [Function.update_of_ne heq, h.pending, List.mem_cons, or_iff_right heq]
  · change (s.txBuff r').lock = true ↔ r' ∈ q ∨ some r = some r'
    rw [h.lock, hnone, List.mem_cons, Option.some.injEq, or_iff_left (by simp), eq_comm, or_comm]
  · obtain rfl : r = r' := Option.some.inj hr'
    exact hnodup.1
  · rw [hlen]
    exact hrest
  · obtain rfl : r = r' := Option.some.inj hr'
    refine ⟨skb, hskb, hfill ▸ hdata, ?_⟩
    rw [huncompleted, uncompleted, hnone, hlen]
    exact hdrop
  · rw [hlen, hhanded]
    change _ = (s.accepted.take (s.handed.length + 1)).map _
    rw [List.take_add_one, hget, List.map_append, ← h.handed]
    rfl
  · rw [huncompleted]
    exact h.freed id

/-- What is handed over has to be the next packet, and intact. -/
theorem Queued.of_hand (h : Queued s q) (hr : r ∈ q) {shortpkt : Option (List UInt8)}
    (hdelivers : Delivers (s.hand r shortpkt)) :
    ∃ skb, (s.txBuff r).skb = some skb ∧ s.accepted[s.handed.length]? = some skb ∧ Intact skb.data := by
  obtain ⟨pkt, skb, hfill⟩ := h.filled r hr
  have hskb : (s.txBuff r).skb = some skb := congrArg NetPacket.skb hfill
  have hdata : (fill pkt skb).data = .skb := hfill ▸ (hdelivers.valid r rfl).1
  have hhanded := hand_handed hfill hdata shortpkt
  have hget := congrArg (fun l => l[s.handed.length]?) hdelivers.handed
  rw [hhanded, List.getElem?_concat_length, List.length_append, List.length_singleton, List.getElem?_map,
    List.getElem?_take_of_lt (Nat.lt_succ_self _)] at hget
  obtain ⟨skb', hskb', heq⟩ := Option.map_eq_some_iff.1 hget.symm
  obtain ⟨hsame, hbytes⟩ := Prod.mk.inj heq
  obtain rfl := Option.some.inj hsame
  exact ⟨skb', hskb, hskb', (fill_iff pkt skb').1 ⟨hdata, (Option.some.inj hbytes).symm⟩⟩

/-! ## The handler completes -/

/-- The slot in flight is given back. -/
theorem Queued.release (h : Queued s q) (hr : s.inFlight = some r) : Queued (s.release r) q := by
  obtain ⟨skb, hskb, -, hrest⟩ := h.inFlight r hr
  have hne : ∀ r' ∈ q, r' ≠ r := fun r' hr' hc => h.apart r hr (hc ▸ hr')
  have hother : ∀ r', r' ≠ r → (s.release r).txBuff r' = s.txBuff r' := fun r' hne => Function.update_of_ne hne _ _
  have hfreed : (s.release r).freed = s.freed ++ [skb.id] := by
    rw [NetDevice.release, hskb]
    rfl
  have huncompleted : uncompleted (s.release r) = s.accepted.drop s.handed.length := rfl
  have hmem : skb ∈ s.accepted := by
    refine List.mem_of_mem_drop (i := s.handed.length - if s.inFlight.isSome then 1 else 0) ?_
    rw [← uncompleted, hrest]
    exact List.mem_cons_self
  have hnot : skb.id ∉ (s.accepted.drop s.handed.length).map SkBuff.id := by
    have hnodup := h.nodup_drop (s.handed.length - if s.inFlight.isSome then 1 else 0)
    rw [← uncompleted, hrest, List.map_cons] at hnodup
    exact (List.nodup_cons.1 hnodup).1
  have hidle : ∀ r', (s.release r).inFlight ≠ some r' := fun r' => (Option.some_ne_none r').symm
  have hold : skb.id ∉ s.freed := fun hc => ((h.freed _).1 hc).2 (by
    rw [hrest]
    exact List.mem_cons_self)
  refine ⟨h.nodup, h.pending, fun r' => ?_, fun r' hr' => absurd hr' (hidle r'), rfl, ?_, fun r' hr' => ?_,
    fun r' hr' => absurd hr' (hidle r'), h.handed, h.ids, h.offered, ?_, fun id => ?_⟩
  · by_cases heq : r' = r
    · subst heq
      have hlock : ((s.release r').txBuff r').lock = false := by
        rw [NetDevice.release]
        dsimp only
        rw [Function.update_self]
      rw [hlock]
      exact iff_of_false (by decide) fun hc => hc.elim (h.apart r' hr) (hidle r')
    · rw [hother r' heq, h.lock, hr]
      exact or_congr_right (iff_of_false (fun hc => heq (Option.some.inj hc).symm) (hidle r'))
  · have hq : q.map (fun r' => ((s.release r).txBuff r').skb) = q.map fun r' => (s.txBuff r').skb :=
      List.map_congr_left fun r' hr' => by rw [hother r' (hne r' hr')]
    rw [hq]
    exact h.skbs
  · rw [hother r' (hne r' hr')]
    exact h.filled r' hr'
  · rw [hfreed, ← List.concat_eq_append]
    exact h.freedOnce.concat hold
  · rw [hfreed, List.mem_append, List.mem_singleton, huncompleted, h.freed, hrest, List.map_cons, List.mem_cons, not_or]
    change _ ↔ id < s.offered ∧ _
    constructor
    · rintro (⟨hlt, -, hnotMem⟩ | rfl)
      · exact ⟨hlt, hnotMem⟩
      · exact ⟨h.offered skb hmem, hnot⟩
    · rintro ⟨hlt, hnotMem⟩
      by_cases heq : id = skb.id
      · exact .inr heq
      · exact .inl ⟨hlt, heq, hnotMem⟩

/-! ## Events -/

/-- What holds while the events are in turn. -/
def Inv (s : NetDevice) : Prop := ∃ q, Queued s q ∧ (s.inFlight = none → q = [])

theorem Queued.eq_nil_of_idle (h : Queued s q) (hidle : s.inFlight = none → q = []) (hon : s.txon = false) :
    s.inFlight = none ∧ q = [] := by
  have hnone : s.inFlight = none := by
    rw [h.txon, Option.isSome_eq_false_iff, Option.isNone_iff_eq_none] at hon
    exact hon
  exact ⟨hnone, hidle hnone⟩

theorem send_of_full (hfull : s.freeBuf = none) (data : List UInt8) : s.sendEthernetPacket data =
    { s with
      offered := s.offered + 1
      stats := { s.stats with txDropped := s.stats.txDropped + 1 }
      freed := s.freed ++ [s.offered] } := by
  have hfull' : NetDevice.freeBuf { s with offered := s.offered + 1 } = none := hfull
  rw [sendEthernetPacket]
  dsimp only
  rw [hfull']

theorem send_of_busy (hr : s.freeBuf = some r) (hon : s.txon = true) (data : List UInt8) :
    s.sendEthernetPacket data = s.accept r data := by
  have hr' : NetDevice.freeBuf { s with offered := s.offered + 1 } = some r := hr
  rw [sendEthernetPacket]
  dsimp only
  rw [hr']
  dsimp only
  rw [if_neg (by rw [hon]; decide)]
  rfl

theorem send_of_idle (hr : s.freeBuf = some r) (hon : s.txon = false) (hpending : s.pendingBufs r = false)
    (data : List UInt8) : s.sendEthernetPacket data = (s.accept r data).hand r (some (padToZlen data)) := by
  have hr' : NetDevice.freeBuf { s with offered := s.offered + 1 } = some r := hr
  have hclear : Function.update (Function.update s.pendingBufs r true) r false = s.pendingBufs := by
    rw [Function.update_idem, ← hpending, Function.update_eq_self]
  rw [sendEthernetPacket, NetDevice.hand, NetDevice.accept]
  dsimp only
  rw [hr', hon, hclear]
  rfl

/-- A packet that is refused is freed. -/
theorem Queued.refuse (h : Queued s q) (hfull : s.freeBuf = none) (data : List UInt8) :
    Queued (s.sendEthernetPacket data) q := by
  have hnot : s.offered ∉ s.freed := fun hc => absurd ((h.freed _).1 hc).1 (lt_irrefl _)
  have hwaiting : s.offered ∉ (uncompleted s).map SkBuff.id := by
    intro hc
    obtain ⟨skb, hskb, hid⟩ := List.mem_map.1 hc
    exact absurd hid (h.offered skb (List.mem_of_mem_drop hskb)).ne
  rw [send_of_full hfull]
  refine ⟨h.nodup, h.pending, h.lock, h.apart, h.txon, h.skbs, h.filled, h.inFlight, h.handed, h.ids,
    fun skb hskb => (h.offered skb hskb).trans (Nat.lt_succ_self _), ?_, fun id => ?_⟩
  · rw [← List.concat_eq_append]
    exact h.freedOnce.concat hnot
  · change id ∈ s.freed ++ [s.offered] ↔ id < s.offered + 1 ∧ id ∉ (uncompleted s).map SkBuff.id
    rw [List.mem_append, List.mem_singleton, h.freed]
    constructor
    · rintro (⟨hlt, hid⟩ | rfl)
      · exact ⟨hlt.trans (Nat.lt_succ_self _), hid⟩
      · exact ⟨Nat.lt_succ_self _, hwaiting⟩
    · rintro ⟨hlt, hid⟩
      exact (Nat.lt_succ_iff_lt_or_eq.1 hlt).imp_left fun hlt => ⟨hlt, hid⟩

theorem lock_of_freeBuf (hr : s.freeBuf = some r) : (s.txBuff r).lock = false := by
  simpa using List.find?_some hr

theorem accept_skb (r : Fin numTxBufs) (data : List UInt8) :
    ((s.accept r data).txBuff r).skb = some ⟨s.offered, data⟩ := by
  rw [NetDevice.accept]
  dsimp only
  rw [Function.update_self]
  rfl

theorem release_skb (r r' : Fin numTxBufs) : ((s.release r).txBuff r').skb = (s.txBuff r').skb := by
  rw [NetDevice.release]
  by_cases heq : r' = r
  · subst heq
    simp only [Function.update_self]
  · simp only [Function.update_of_ne heq]

/-- An idle handler is given an intact packet at once. -/
theorem Queued.idle_cases (h : Queued s q) (hidle : s.inFlight = none → q = []) (hon : s.txon = false) :
    s.inFlight = none ∧ ∃ r, s.freeBuf = some r ∧ s.pendingBufs r = false ∧
      ∀ data, Queued (s.accept r data) [r] := by
  obtain ⟨hnone, rfl⟩ := h.eq_nil_of_idle hidle hon
  have hlock : ∀ r, (s.txBuff r).lock = false := fun r => Bool.eq_false_iff.2 fun hc => by
    simpa [hnone] using (h.lock r).1 hc
  have hpending : ∀ r, s.pendingBufs r = false := fun r => Bool.eq_false_iff.2 fun hc =>
    List.not_mem_nil ((h.pending r).1 hc)
  cases hr : s.freeBuf with
  | none =>
    have hlocked := List.find?_eq_none.1 hr ⟨0, by decide⟩ (List.mem_finRange _)
    rw [hlock] at hlocked
    exact absurd rfl hlocked
  | some r => exact ⟨hnone, r, rfl, hpending r, fun data => h.accept (hlock r) data⟩

theorem complete_of_inFlight (hr : s.inFlight = some r) : s.step .complete =
    match s.pendingBuf with
    | none => s.release r
    | some r' => (s.release r).hand r' none := by
  rw [NetDevice.step, hr]
  rfl

theorem inv_step (hinv : Inv s) (e : NetEvent) (hturn : InTurn s e) : Inv (s.step e) := by
  obtain ⟨q, h, hidle⟩ := hinv
  cases e with
  | send data =>
    change Inv (s.sendEthernetPacket data)
    cases hon : s.txon with
    | true =>
      have hbusy : s.inFlight ≠ none := by
        intro hnone
        rw [h.txon, hnone] at hon
        exact absurd hon (by decide)
      cases hr : s.freeBuf with
      | none => exact ⟨q, h.refuse hr data, by rw [send_of_full hr]; exact hidle⟩
      | some r =>
        rw [send_of_busy hr hon]
        exact ⟨_, h.accept (lock_of_freeBuf hr) data, fun hnone => absurd hnone hbusy⟩
    | false =>
      obtain ⟨hnone, r, hr, hpending, haccept⟩ := h.idle_cases hidle hon
      rw [send_of_idle hr hon hpending]
      refine ⟨[], (haccept data).hand hnone (fun skb hskb => ?_) _, fun _ => rfl⟩
      obtain rfl := Option.some.inj ((accept_skb r data).symm.trans hskb)
      exact hturn hon
  | complete =>
    cases hr : s.inFlight with
    | none =>
      rw [NetDevice.step, hr]
      exact ⟨q, h, hidle⟩
    | some r =>
      have hrelease := h.release hr
      rw [complete_of_inFlight hr]
      cases hpending : s.pendingBuf with
      | none => exact ⟨q, hrelease, fun _ => h.eq_nil_of_pendingBuf hpending⟩
      | some r' =>
        obtain ⟨skb, hskb, hget, hintact⟩ := hturn r' hpending
        have hmem := h.pendingBuf_mem hpending
        obtain ⟨r₀, q, rfl⟩ := List.exists_cons_of_ne_nil (List.ne_nil_of_mem hmem)
        obtain ⟨skb₀, hskb₀, hget₀, -⟩ := h.head
        have hsame : skb₀ = skb := Option.some.inj (hget₀.symm.trans hget)
        obtain rfl : r' = r₀ := h.eq_of_skb hmem List.mem_cons_self (by rw [hskb, hskb₀, hsame])
        refine ⟨q, hrelease.hand rfl (fun skb' hskb' => ?_) none, fun hc => absurd hc (Option.some_ne_none r')⟩
        rw [release_skb, hskb] at hskb'
        obtain rfl := Option.some.inj hskb'
        exact hintact

/-- An event that is not in turn breaks what the queue is for. -/
theorem inTurn_of_delivers (hinv : Inv s) (e : NetEvent) (hdelivers : Delivers (s.step e)) : InTurn s e := by
  obtain ⟨q, h, hidle⟩ := hinv
  cases e with
  | send data =>
    intro hon
    obtain ⟨-, r, hr, hpending, haccept⟩ := h.idle_cases hidle hon
    change Delivers (s.sendEthernetPacket data) at hdelivers
    rw [send_of_idle hr hon hpending] at hdelivers
    obtain ⟨skb, hskb, -, hintact⟩ := (haccept data).of_hand List.mem_cons_self hdelivers
    rw [accept_skb] at hskb
    obtain rfl := Option.some.inj hskb
    exact hintact
  | complete =>
    intro r' hpending
    have hmem := h.pendingBuf_mem hpending
    cases hr : s.inFlight with
    | none =>
      rw [hidle hr] at hmem
      exact absurd hmem List.not_mem_nil
    | some r =>
      rw [complete_of_inFlight hr, hpending] at hdelivers
      obtain ⟨skb, hskb, hget, hintact⟩ := (h.release hr).of_hand hmem hdelivers
      rw [release_skb] at hskb
      exact ⟨skb, hskb, hget, hintact⟩

/-- **All events.** The queue does what it is for exactly when every event is in turn. -/
theorem always_delivers_iff (events : List NetEvent) :
    Always step Delivers start events ↔ AllSteps step InTurn start events := by
  have hgood : ∀ s, Inv s → Delivers s := fun _ ⟨_, h, hidle⟩ => h.delivers hidle
  exact always_iff_of_inv hgood (fun _ e h ht => inv_step h e ht)
    (fun _ e h hno hdelivers => hno (inTurn_of_delivers h e hdelivers)) ⟨[], queued_start, fun _ => rfl⟩ events

end NetDevice

/-- Four packets of the minimum length: the fourth takes the slot of the first, which has completed, and is handed
over before the third. -/
theorem fourth_before_third : ¬ ∀ events : List NetEvent,
    Always NetDevice.step NetDevice.Delivers NetDevice.start events := by
  intro h
  have hrun := (h [.send (List.replicate 60 1), .send (List.replicate 60 2), .send (List.replicate 60 3), .complete,
    .send (List.replicate 60 4), .complete]).foldl
  have hhanded := congrArg (List.map fun p => p.1.map SkBuff.id) hrun.handed
  exact absurd hhanded (by decide +kernel)

end BmcUsb
