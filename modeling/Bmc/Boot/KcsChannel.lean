import Bmc.Boot.Kcs
import Bmc.Lib.Loop

/-!
# Requests and responses on the KCS channel

* `HostView`: what the host has written, and what it is still to be told; `HostView.complete`, `HostView.handed`: the packet
  that is complete, and the byte of the response that is due;
* `Kept`: what a poll should do; `Passes`: the condition on what the host writes;
* **`kept_iff`**: every poll of a run does what it should exactly when the host keeps to the condition.
-/

namespace BmcBoot

open BmcLib

/-! ## The host -/

/-- The host has nothing to do, is writing a packet, is to write the last byte of it, has written the end of no packet, is to
read these bytes, has aborted and perhaps been told the error, or has written a code that there is not. -/
inductive HostView
  | idle
  | writing (bs : List UInt8)
  | ended (bs : List UInt8)
  | loose
  | reading (bs : List UInt8)
  | aborting (told : Bool)
  | failed
  deriving DecidableEq, Repr

namespace HostView

/-- The host writes a command. -/
def command (v : HostView) (c : UInt8) : HostView :=
  if c = kcsWriteStart then .writing []
  else if c = kcsWriteEnd then
    match v with
    | .writing bs => .ended bs
    | _ => .loose
  else if c = kcsAbort then .aborting false
  else .failed

/-- The host writes a data byte. -/
def data (v : HostView) (b : UInt8) (r : Response) : HostView :=
  match v with
  | .writing bs => .writing (bs ++ [b])
  | .ended _ => .reading r.bytes.tail
  | .reading (x :: bs) => if b = kcsRead then .reading bs else .reading (x :: bs)
  | .reading [] => if b = kcsRead then .idle else .reading []
  | .aborting false => .aborting true
  | .aborting true => .idle
  | .idle => .idle
  | .loose | .failed => .failed

/-- The next view. -/
def next (v : HostView) (e : KCSEvent) : HostView :=
  match e.write with
  | none => v
  | some (.command c) => v.command c
  | some (.data b) => v.data b e.response

/-- The packet that the host completes. -/
def complete (v : HostView) (e : KCSEvent) : Option (List UInt8) :=
  match v, e.write with
  | .ended bs, some (.data b) => some (bs ++ [b])
  | _, _ => none

/-- The byte of a response that the host is due: the first one at once, and one for each `READ`. -/
def handed (v : HostView) (e : KCSEvent) : Option UInt8 :=
  match v, e.write with
  | .ended _, some (.data _) => some e.response.netFnLUN
  | .reading (x :: _), some (.data b) => if b = kcsRead then some x else none
  | _, _ => none

end HostView

/-- What a poll should do: the packets are accessed inside their buffers, a packet is reported when the host completes it,
the host gets the byte that it is due and no other byte of a response, and the channel is idle when the host has been served. -/
structure Kept (k : KCSBuf) (v : HostView) (e : KCSEvent) : Prop where
  bounds : ∀ i ∈ (kcsPoll k e).effect.accesses, i < maxKCSPktLen
  packet : (kcsPoll k e).packet = v.complete e
  handed : ∀ x, v.handed e = some x → (kcsPoll k e).effect.out = some x
  dummy : v.handed e = none → (kcsPoll k e).effect.out = none ∨ (kcsPoll k e).effect.out = some 0 ∨
    v = .aborting false ∧ (kcsPoll k e).effect.out = some k.error
  idle : v.next e = .idle → (kcsPoll k e).buf.phase = .idle

/-- A packet has no more than `MAX_KCS_PKT_LEN` bytes, and no data byte follows the end of no packet. -/
def Passes (v : HostView) (e : KCSEvent) : Prop :=
  match v, e.write with
  | .writing bs, some (.data _) | .ended bs, some (.data _) => bs.length < maxKCSPktLen
  | .loose, some (.data _) => False
  | _, _ => True

/-- One round, and the next view. -/
def kcsStep (r : KCSBuf × HostView) (e : KCSEvent) : KCSBuf × HostView := ((kcsPoll r.1 e).buf, r.2.next e)

/-! ## The invariant -/

/-- These bytes have been received. -/
structure Received (k : KCSBuf) (bs : List UInt8) : Prop where
  ix : k.rcvPktIx = bs.length
  fits : bs.length ≤ maxKCSPktLen
  bytes : firstBytes k.rcvPkt bs.length = bs

/-- These bytes are still to be sent. -/
structure ToSend (k : KCSBuf) (bs : List UInt8) : Prop where
  len : k.sendPktLen = k.sendPktIx + bs.length
  fits : k.sendPktLen ≤ maxKCSPktLen
  bytes : ∀ (i : ℕ) (h : i < bs.length), k.sendPkt (k.sendPktIx + i) = bs[i]

/-- The phase is that of the host. -/
def Agrees (k : KCSBuf) : HostView → Prop
  | .idle => k.phase = .idle
  | .writing bs => k.phase = .write ∧ Received k bs
  | .ended bs => k.phase = .writeEnd ∧ Received k bs
  | .loose => k.phase = .writeEnd
  | .reading bs => k.phase = .read ∧ ToSend k bs
  | .aborting told => k.phase = .abort ∧ k.abortPhase = if told then .error2 else .error1
  | .failed => k.phase = .error

/-- No packet waits to be taken. -/
structure Served (k : KCSBuf) (v : HostView) : Prop where
  ready : k.rcvPktReady = false
  agrees : Agrees k v

theorem served_init : Served .init .idle := ⟨rfl, rfl⟩

/-! ## Polls -/

section Polls

variable {k : KCSBuf} {v : HostView} {bs : List UInt8} {b c : UInt8} {r : Response}

/-- A byte that completes no packet. -/
theorem kcsPoll_of_not_ready {w : HostWrite} (h : (k.onKCSRcvByte w).1.rcvPktReady = false) :
    kcsPoll k ⟨some w, r⟩ = ⟨(k.onKCSRcvByte w).1, (k.onKCSRcvByte w).2, none⟩ := by
  simp [kcsPoll, KCSBuf.recvKCSRequest, h]

theorem kcsPoll_none (h : k.rcvPktReady = false) : kcsPoll k ⟨none, r⟩ = ⟨k, .none, none⟩ := by
  simp [kcsPoll, KCSBuf.recvKCSRequest, h]

theorem onCommand_ready : (k.onCommand c).1.rcvPktReady = k.rcvPktReady := by
  rw [KCSBuf.onCommand]
  split_ifs <;> rfl

theorem onData_ready (h : k.phase ≠ .writeEnd) : (k.onData b).1.rcvPktReady = k.rcvPktReady := by
  rw [KCSBuf.onData]
  split
  · rfl
  · next hp => exact absurd hp h
  · split_ifs <;> rfl
  · split <;> rfl
  · rfl
  · rfl

/-! One lemma for each phase. -/

theorem onData_write (h : k.phase = .write) :
    k.onData b =
      ({ k with
          rcvPkt := Function.update k.rcvPkt k.rcvPktIx b
          rcvPktIx := if k.rcvPktIx < maxKCSPktLen then k.rcvPktIx + 1 else k.rcvPktIx },
        ⟨[k.rcvPktIx], some kcsWriteState, none⟩) := by
  simp only [KCSBuf.onData, h]

theorem onData_writeEnd (h : k.phase = .writeEnd) :
    k.onData b =
      ({ k with
          rcvPkt := Function.update k.rcvPkt k.rcvPktIx b
          rcvPktIx := k.rcvPktIx + 1
          phase := .read
          rcvPktReady := true },
        ⟨[k.rcvPktIx], some kcsReadState, none⟩) := by
  simp only [KCSBuf.onData, h]

theorem onData_read (h : k.phase = .read) :
    k.onData b =
      if b ≠ kcsRead then (k, ⟨[], some kcsErrorState, some 0⟩)
      else if k.sendPktIx = k.sendPktLen then ({ k with phase := .idle }, ⟨[], some kcsIdleState, some 0⟩)
      else ({ k with sendPktIx := k.sendPktIx + 1 }, ⟨[k.sendPktIx], none, some (k.sendPkt k.sendPktIx)⟩) := by
  simp only [KCSBuf.onData, h]

theorem onData_error1 (h : k.phase = .abort) (ha : k.abortPhase = .error1) :
    k.onData b = ({ k with abortPhase := .error2 }, ⟨[], some kcsReadState, some k.error⟩) := by
  simp only [KCSBuf.onData, h, ha]

theorem onData_error2 (h : k.phase = .abort) (ha : k.abortPhase = .error2) :
    k.onData b = ({ k with phase := .idle, abortPhase := .none }, ⟨[], some kcsIdleState, some 0⟩) := by
  simp only [KCSBuf.onData, h, ha]

theorem onData_still (h : k.phase = .idle ∨ k.phase = .error) : k.onData b = (k, .none) := by
  rcases h with h | h <;> simp only [KCSBuf.onData, h]

theorem firstBytes_congr {f g : ℕ → UInt8} {n : ℕ} (h : ∀ i < n, f i = g i) : firstBytes f n = firstBytes g n :=
  List.map_congr_left fun i hi => h i (List.mem_range.1 hi)

/-- One more byte. -/
theorem firstBytes_update (h : firstBytes k.rcvPkt bs.length = bs) :
    firstBytes (Function.update k.rcvPkt bs.length b) (bs ++ [b]).length = bs ++ [b] := by
  have hbefore : firstBytes (Function.update k.rcvPkt bs.length b) bs.length = bs := by
    rw [← h]
    simp only [h]
    refine (firstBytes_congr fun i hi => ?_).trans h
    exact Function.update_of_ne (ne_of_lt hi) ..
  rw [List.length_append, List.length_singleton, firstBytes, List.range_succ, List.map_append]
  change firstBytes _ _ ++ [Function.update k.rcvPkt bs.length b bs.length] = _
  rw [hbefore, Function.update_self]

/-- Nothing is put out, and nothing is due. -/
theorem kept_silent {e : KCSEvent} (heffect : (kcsPoll k e).effect.accesses = [])
    (hpacket : (kcsPoll k e).packet = v.complete e) (hhanded : v.handed e = none)
    (hout : (kcsPoll k e).effect.out = none ∨ (kcsPoll k e).effect.out = some 0 ∨
      v = .aborting false ∧ (kcsPoll k e).effect.out = some k.error)
    (hidle : v.next e = .idle → (kcsPoll k e).buf.phase = .idle) : Kept k v e where
  bounds i hi := by
    rw [heffect] at hi
    cases hi
  packet := hpacket
  handed x hx := by
    rw [hhanded] at hx
    cases hx
  dummy _ := hout
  idle := hidle

/-- **The poll finds nothing.** -/
theorem kept_none (h : Served k v) : Kept k v ⟨none, r⟩ := by
  have hpoll := kcsPoll_none (r := r) h.ready
  apply kept_silent
  · rw [hpoll]; rfl
  · rw [hpoll]
    cases v <;> rfl
  · cases v with
    | reading bs => cases bs <;> rfl
    | _ => rfl
  · rw [hpoll]
    exact .inl rfl
  · rw [hpoll]
    rintro rfl
    exact h.agrees

/-- **A command.** -/
theorem served_command (h : Served k v) :
    Kept k v ⟨some (.command c), r⟩ ∧ Served (kcsPoll k ⟨some (.command c), r⟩).buf (v.command c) := by
  have hready : (k.onCommand c).1.rcvPktReady = false := onCommand_ready.trans h.ready
  have hpoll : kcsPoll k ⟨some (.command c), r⟩ = ⟨(k.onCommand c).1, (k.onCommand c).2, none⟩ :=
    kcsPoll_of_not_ready hready
  have hagrees : Agrees (k.onCommand c).1 (v.command c) := by
    have hv := h.agrees
    unfold KCSBuf.onCommand HostView.command
    by_cases hstart : c = kcsWriteStart
    · rw [if_pos hstart, if_pos hstart]
      exact ⟨rfl, rfl, Nat.zero_le _, rfl⟩
    rw [if_neg hstart, if_neg hstart]
    by_cases hend : c = kcsWriteEnd
    · rw [if_pos hend, if_pos hend]
      cases v with
      | writing bs => exact ⟨rfl, hv.2.ix, hv.2.fits, hv.2.bytes⟩
      | _ => rfl
    rw [if_neg hend, if_neg hend]
    by_cases habort : c = kcsAbort
    · rw [if_pos habort, if_pos habort]
      exact ⟨rfl, rfl⟩
    · rw [if_neg habort, if_neg habort]
      rfl
  refine ⟨kept_silent ?_ ?_ ?_ ?_ ?_, ?_⟩
  · rw [hpoll, KCSBuf.onCommand]
    split_ifs <;> rfl
  · rw [hpoll]
    cases v <;> rfl
  · cases v with
    | reading bs => cases bs <;> rfl
    | _ => rfl
  · rw [hpoll, KCSBuf.onCommand]
    split_ifs
    · exact .inl rfl
    · exact .inl rfl
    · exact .inr (.inl rfl)
    · exact .inr (.inl rfl)
    · exact .inl rfl
  · -- no command ends a transfer
    intro hidle
    change v.command c = .idle at hidle
    unfold HostView.command at hidle
    split_ifs at hidle
    cases v <;> cases hidle
  · rw [hpoll]
    exact ⟨hready, hagrees⟩

/-- A data byte that completes no packet. -/
theorem kcsPoll_data (h : Served k v) (hphase : k.phase ≠ .writeEnd) :
    kcsPoll k ⟨some (.data b), r⟩ = ⟨(k.onData b).1, (k.onData b).2, none⟩ :=
  kcsPoll_of_not_ready ((onData_ready hphase).trans h.ready)

/-- **A byte of a packet.** -/
theorem kept_writing (h : Served k (.writing bs)) : Kept k (.writing bs) ⟨some (.data b), r⟩ ↔ bs.length < maxKCSPktLen := by
  obtain ⟨hphase, hbs⟩ := h.agrees
  have hpoll := kcsPoll_data (b := b) (r := r) h (by rw [hphase]; decide)
  rw [onData_write hphase] at hpoll
  constructor
  · intro hkept
    rw [← hbs.ix]
    refine hkept.bounds k.rcvPktIx ?_
    rw [hpoll]
    exact List.mem_singleton_self _
  · intro hlt
    refine ⟨?_, ?_, nofun, ?_, nofun⟩
    · intro i hi
      rw [hpoll] at hi
      rw [List.mem_singleton.1 hi, hbs.ix]
      exact hlt
    · rw [hpoll]; rfl
    · rw [hpoll]
      exact fun _ => .inl rfl

theorem served_writing (h : Served k (.writing bs)) (hlt : bs.length < maxKCSPktLen) :
    Served (kcsPoll k ⟨some (.data b), r⟩).buf (.writing (bs ++ [b])) := by
  obtain ⟨hphase, hbs⟩ := h.agrees
  rw [kcsPoll_data h (by rw [hphase]; decide), onData_write hphase]
  refine ⟨h.ready, hphase, ?_, ?_, ?_⟩
  · change (if k.rcvPktIx < maxKCSPktLen then k.rcvPktIx + 1 else k.rcvPktIx) = _
    rw [hbs.ix, if_pos hlt, List.length_append, List.length_singleton]
  · rw [List.length_append, List.length_singleton]
    exact hlt
  · change firstBytes (Function.update k.rcvPkt k.rcvPktIx b) _ = _
    rw [hbs.ix]
    exact firstBytes_update hbs.bytes

/-- The poll that takes the last byte of a packet, and the response to it. -/
theorem kcsPoll_last (hphase : k.phase = .writeEnd) :
    ∃ k' : KCSBuf, kcsPoll k ⟨some (.data b), r⟩ = ⟨k', ⟨k.rcvPktIx :: (List.range (k.rcvPktIx + 1) ++
        (List.range r.bytes.length ++ [0])), some kcsReadState, some r.netFnLUN⟩,
        some (firstBytes (Function.update k.rcvPkt k.rcvPktIx b) (k.rcvPktIx + 1))⟩ ∧
      Served k' (.reading r.bytes.tail) := by
  have hready : (k.onData b).1.rcvPktReady = true := by rw [onData_writeEnd hphase]
  let k₁ : KCSBuf := { k with
    rcvPkt := Function.update k.rcvPkt k.rcvPktIx b
    rcvPktIx := k.rcvPktIx + 1
    phase := .read
    rcvPktReady := false }
  refine ⟨(k₁.sendKCSResponse r.bytes).1, ?_, ?_⟩
  · simp only [kcsPoll, KCSBuf.recvKCSRequest, Option.elim, KCSBuf.onKCSRcvByte, hready, if_true]
    rw [onData_writeEnd hphase]
    rfl
  · refine ⟨rfl, rfl, ?_, r.fits, ?_⟩
    · exact Nat.add_comm _ _
    · intro i hi
      have hlt : 1 + i < r.bytes.length := by
        rw [List.length_tail] at hi
        omega
      change (if h : 1 + i < r.bytes.length then r.bytes[1 + i] else _) = _
      rw [dif_pos hlt, List.getElem_tail]
      simp only [Nat.add_comm]

/-- **The last byte of a packet.** -/
theorem kept_ended (h : Served k (.ended bs)) : Kept k (.ended bs) ⟨some (.data b), r⟩ ↔ bs.length < maxKCSPktLen := by
  obtain ⟨hphase, hbs⟩ := h.agrees
  obtain ⟨k', hpoll, -⟩ := kcsPoll_last (b := b) (r := r) hphase
  constructor
  · intro hkept
    rw [← hbs.ix]
    refine hkept.bounds k.rcvPktIx ?_
    rw [hpoll]
    exact List.mem_cons_self
  · intro hlt
    refine ⟨?_, ?_, ?_, nofun, nofun⟩
    · intro i hi
      have hfits := r.fits
      have hlen : r.bytes.length = r.data.length + 2 := rfl
      rw [hpoll] at hi
      simp only [List.mem_cons, List.mem_append, List.mem_range, hbs.ix, List.not_mem_nil, or_false] at hi
      omega
    · rw [hpoll, hbs.ix]
      change some (firstBytes _ (bs.length + 1)) = some (bs ++ [b])
      have hlen : (bs ++ [b]).length = bs.length + 1 := by simp
      rw [← hlen, firstBytes_update hbs.bytes]
    · rintro x ⟨⟩
      rw [hpoll]

theorem served_ended (hphase : k.phase = .writeEnd) :
    Served (kcsPoll k ⟨some (.data b), r⟩).buf (.reading r.bytes.tail) := by
  obtain ⟨k', hpoll, hserved⟩ := kcsPoll_last (b := b) (r := r) hphase
  rw [hpoll]
  exact hserved

/-- **A byte after the end of no packet** is taken for a packet. -/
theorem not_kept_loose (h : Served k .loose) : ¬ Kept k .loose ⟨some (.data b), r⟩ := by
  intro hkept
  obtain ⟨k', hpoll, -⟩ := kcsPoll_last (b := b) (r := r) h.agrees
  have hpacket := hkept.packet
  rw [hpoll] at hpacket
  cases hpacket

/-- **A byte while the response is read.** -/
theorem kept_reading (h : Served k (.reading bs)) :
    Kept k (.reading bs) ⟨some (.data b), r⟩ ∧
      Served (kcsPoll k ⟨some (.data b), r⟩).buf ((HostView.reading bs).data b r) := by
  obtain ⟨hphase, hbs⟩ := h.agrees
  have hpoll := kcsPoll_data (b := b) (r := r) h (by rw [hphase]; decide)
  rw [onData_read hphase] at hpoll
  by_cases hb : b = kcsRead
  · rw [if_neg (not_not.2 hb)] at hpoll
    cases bs with
    | nil =>
      -- the response has been read
      have hend : k.sendPktIx = k.sendPktLen := hbs.len.symm
      rw [if_pos hend] at hpoll
      rw [HostView.data, if_pos hb]
      refine ⟨kept_silent ?_ ?_ rfl ?_ ?_, ?_⟩
      · rw [hpoll]
      · rw [hpoll]; rfl
      · rw [hpoll]
        exact .inr (.inl rfl)
      · rw [hpoll]
        exact fun _ => rfl
      · rw [hpoll]
        exact ⟨h.ready, rfl⟩
    | cons x bs =>
      have hlen := hbs.len
      rw [List.length_cons] at hlen
      have hx : k.sendPkt k.sendPktIx = x := hbs.bytes 0 (Nat.succ_pos _)
      rw [if_neg (by omega), hx] at hpoll
      rw [HostView.data, if_pos hb]
      refine ⟨⟨?_, ?_, ?_, ?_, ?_⟩, ?_⟩
      · intro i hi
        have hfits := hbs.fits
        rw [hpoll] at hi
        rw [List.mem_singleton.1 hi]
        omega
      · rw [hpoll]; rfl
      · intro y hy
        change (if b = kcsRead then some x else none) = some y at hy
        rw [if_pos hb] at hy
        rw [hpoll]
        exact hy
      · intro hnone
        change (if b = kcsRead then some x else none) = none at hnone
        rw [if_pos hb] at hnone
        cases hnone
      · intro hidle
        change (if b = kcsRead then HostView.reading bs else .reading (x :: bs)) = .idle at hidle
        rw [if_pos hb] at hidle
        cases hidle
      · rw [hpoll]
        refine ⟨h.ready, hphase, ?_, hbs.fits, ?_⟩
        · change k.sendPktLen = k.sendPktIx + 1 + bs.length
          omega
        · intro i hi
          have hi' := hbs.bytes (i + 1) (Nat.succ_lt_succ hi)
          rw [List.getElem_cons_succ] at hi'
          rw [← hi']
          change k.sendPkt (k.sendPktIx + 1 + i) = k.sendPkt (k.sendPktIx + (i + 1))
          congr 1
          omega
  · -- another byte is an error and changes nothing
    rw [if_pos hb] at hpoll
    have hdata : (HostView.reading bs).data b r = .reading bs := by
      cases bs with
      | nil => rw [HostView.data, if_neg hb]
      | cons x bs => rw [HostView.data, if_neg hb]
    refine ⟨kept_silent ?_ ?_ ?_ ?_ ?_, ?_⟩
    · rw [hpoll]
    · rw [hpoll]; rfl
    · cases bs with
      | nil => rfl
      | cons x bs => exact if_neg hb
    · rw [hpoll]
      exact .inr (.inl rfl)
    · intro hidle
      change (HostView.reading bs).data b r = .idle at hidle
      rw [hdata] at hidle
      cases hidle
    · rw [hpoll, hdata]
      exact h

/-- **A byte after an abort.** -/
theorem kept_aborting {told : Bool} (h : Served k (.aborting told)) :
    Kept k (.aborting told) ⟨some (.data b), r⟩ ∧
      Served (kcsPoll k ⟨some (.data b), r⟩).buf ((HostView.aborting told).data b r) := by
  obtain ⟨hphase, habort⟩ := h.agrees
  have hpoll := kcsPoll_data (b := b) (r := r) h (by rw [hphase]; decide)
  cases told with
  | false =>
    rw [onData_error1 hphase habort] at hpoll
    refine ⟨kept_silent ?_ ?_ rfl ?_ nofun, ?_⟩
    · rw [hpoll]
    · rw [hpoll]; rfl
    · rw [hpoll]
      exact .inr (.inr ⟨rfl, rfl⟩)
    · rw [hpoll]
      exact ⟨h.ready, hphase, rfl⟩
  | true =>
    rw [onData_error2 hphase habort] at hpoll
    refine ⟨kept_silent ?_ ?_ rfl ?_ ?_, ?_⟩
    · rw [hpoll]
    · rw [hpoll]; rfl
    · rw [hpoll]
      exact .inr (.inl rfl)
    · rw [hpoll]
      exact fun _ => rfl
    · rw [hpoll]
      exact ⟨h.ready, rfl⟩

/-- **A byte that is dropped.** -/
theorem kept_still (h : Served k v) (hv : v = .idle ∨ v = .failed) :
    Kept k v ⟨some (.data b), r⟩ ∧ Served (kcsPoll k ⟨some (.data b), r⟩).buf (v.data b r) := by
  have hphase : k.phase = .idle ∨ k.phase = .error := by
    rcases hv with rfl | rfl
    · exact .inl h.agrees
    · exact .inr h.agrees
  have hpoll := kcsPoll_data (b := b) (r := r) h (by rcases hphase with hp | hp <;> rw [hp] <;> decide)
  rw [onData_still hphase] at hpoll
  refine ⟨kept_silent ?_ ?_ ?_ ?_ ?_, ?_⟩
  · rw [hpoll]; rfl
  · rw [hpoll]
    rcases hv with rfl | rfl <;> rfl
  · rcases hv with rfl | rfl <;> rfl
  · rw [hpoll]
    exact .inl rfl
  · rw [hpoll]
    rcases hv with rfl | rfl
    · exact fun _ => h.agrees
    · exact nofun
  · rw [hpoll]
    rcases hv with rfl | rfl <;> exact h

end Polls

/-! ## Runs -/

/-- One poll. -/
theorem kept_iff_passes {r : KCSBuf × HostView} {e : KCSEvent} (h : Served r.1 r.2) :
    Kept r.1 r.2 e ↔ Passes r.2 e := by
  obtain ⟨k, v⟩ := r
  obtain ⟨w, r⟩ := e
  rcases w with _ | c | b
  · exact iff_of_true (kept_none h) (by cases v <;> trivial)
  · exact iff_of_true (served_command h).1 (by cases v <;> trivial)
  · cases v with
    | idle => exact iff_of_true (kept_still h (.inl rfl)).1 trivial
    | writing bs => exact kept_writing h
    | ended bs => exact kept_ended h
    | loose => exact iff_of_false (not_kept_loose h) id
    | reading bs => exact iff_of_true (kept_reading h).1 trivial
    | aborting told => exact iff_of_true (kept_aborting h).1 trivial
    | failed => exact iff_of_true (kept_still h (.inr rfl)).1 trivial

theorem served_step {r : KCSBuf × HostView} {e : KCSEvent} (h : Served r.1 r.2) (hp : Passes r.2 e) :
    Served (kcsStep r e).1 (kcsStep r e).2 := by
  obtain ⟨k, v⟩ := r
  obtain ⟨w, r⟩ := e
  rcases w with _ | c | b
  · change Served (kcsPoll k ⟨none, r⟩).buf v
    rw [kcsPoll_none h.ready]
    exact h
  · exact (served_command h).2
  · cases v with
    | idle => exact (kept_still h (.inl rfl)).2
    | writing bs => exact served_writing h hp
    | ended bs => exact served_ended h.agrees.1
    | loose => exact hp.elim
    | reading bs => exact (kept_reading h).2
    | aborting told => exact (kept_aborting h).2
    | failed => exact (kept_still h (.inr rfl)).2

/-- **Exact condition for the KCS channel.** Every poll of a run accesses the packets inside their buffers, reports the
packets that the host has written and hands out the responses in order, exactly when every packet fits and no data byte
follows the end of no packet. -/
theorem kept_iff (es : List KCSEvent) :
    AllSteps kcsStep (fun r e => Kept r.1 r.2 e) (.init, .idle) es ↔
      AllSteps kcsStep (fun r e => Passes r.2 e) (.init, .idle) es :=
  allSteps_congr (I := fun r => Served r.1 r.2) (fun _ _ h => kept_iff_passes h) (fun _ _ h hp => served_step h hp)
    served_init

/-- The end of a packet that has not been begun, and a byte: a packet is reported. -/
theorem not_kept_end_first :
    ¬ AllSteps kcsStep (fun r e => Kept r.1 r.2 e) (.init, .idle)
      [⟨some (.command 0x62), ⟨0x1c, 0x01, [], by decide⟩⟩, ⟨some (.data 0x18), ⟨0x1c, 0x01, [], by decide⟩⟩] := by
  rintro ⟨-, hkept, -⟩
  have hpacket := hkept.packet
  revert hpacket
  decide

end BmcBoot
