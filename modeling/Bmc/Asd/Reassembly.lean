import Bmc.Asd.Read

/-!
# Reassembly of the ASD stream

A transport cuts a byte stream in pieces; the reader puts the messages together again.

* `Transport`: a stream with a cut for every position;
* `parse`: what the reader makes of a stream, as a function of the stream and the cuts;
* `readAll_dispatched`: repeated calls of `asd_msg_read` dispatch `parse`, for every stream;
* **`readAll_eq_iff`**: a stream of well-formed messages is reassembled exactly if no header byte
  behind the first cut of a header carries information.
-/

namespace BmcAsd

open BmcLib

variable {σ : Type*}

/-! ## Transports -/

/-- A connection that still has to deliver `stream`. The read at which `n` bytes are left delivers
`cut n + 1` bytes, or as many as are wanted and left, and answers `pending n`. -/
structure Transport where
  stream : List UInt8
  cut : ℕ → ℕ
  pending : ℕ → Bool → Bool

/-- The read function of a transport. -/
def Transport.read : ReadFunction Transport := fun t numToRead dataPending =>
  if t.stream = [] then ⟨.err, [], dataPending, t⟩
  else
    let n := min (min numToRead (t.cut t.stream.length + 1)) t.stream.length
    ⟨.ok, t.stream.take n, t.pending t.stream.length dataPending,
      { t with stream := t.stream.drop n }⟩

/-- Call `asd_msg_read` until the connection has delivered everything. -/
def readAll (L : MsgLayer σ) (r : Reader Transport σ) : Reader Transport σ :=
  whileN (fun r => !r.conn.stream.isEmpty) (fun r => (asdMsgRead Transport.read L r).2)
    r.conn.stream.length r

/-! ## The abstract parser -/

/-- The header whose bytes are `p`, zero where `p` has no byte. -/
def headerOf (p : List UInt8) : MessageHeader :=
  MessageHeader.ofBytes (p.getD 0 0) (p.getD 1 0) (p.getD 2 0) (p.getD 3 0)

/-- The number of bytes that the first read of a header gets with `n` bytes left. -/
def firstCut (cut : ℕ → ℕ) (n : ℕ) : ℕ := min headerSize (cut n + 1)

/-- The messages dispatched for the stream `s`: only the bytes of the first read of a header
reach it. -/
def parse (cut : ℕ → ℕ) (s : List UInt8) : List (MessageHeader × List UInt8) :=
  if _h : s.length < headerSize then []
  else
    let hd := headerOf (s.take (firstCut cut s.length))
    match getMessageSize hd with
    | none => parse cut (s.drop headerSize)
    | some n =>
      if s.length < headerSize + n then []
      else (hd, (s.drop headerSize).take n) :: parse cut (s.drop (headerSize + n))
termination_by s.length
decreasing_by all_goals (simp only [headerSize, List.length_drop] at *; omega)

/-- The messages dispatched for `s` once the header `hd` is complete. -/
def parsePayload (cut : ℕ → ℕ) (hd : MessageHeader) (s : List UInt8) :
    List (MessageHeader × List UInt8) :=
  match getMessageSize hd with
  | none => parse cut s
  | some n => if s.length < n then [] else (hd, s.take n) :: parse cut (s.drop n)

theorem parse_short {cut : ℕ → ℕ} {s : List UInt8} (h : s.length < headerSize) :
    parse cut s = [] := by
  rw [parse, dif_pos h]

theorem parse_eq {cut : ℕ → ℕ} {s : List UInt8} (h : headerSize ≤ s.length) :
    parse cut s = parsePayload cut (headerOf (s.take (firstCut cut s.length))) (s.drop headerSize) := by
  rw [parse, dif_neg (by omega), parsePayload]
  dsimp only
  cases getMessageSize (headerOf (s.take (firstCut cut s.length))) with
  | none => rfl
  | some n =>
    simp only [List.drop_drop, List.length_drop]
    by_cases hn : s.length < headerSize + n
    · rw [if_pos hn, if_pos (by omega)]
    · rw [if_neg hn, if_neg (by omega)]

/-! ## What a reader still dispatches -/

/-- The messages that a reader in the middle of a message dispatches for the rest `s`. -/
def IncomingMsg.future (m : IncomingMsg) (cut : ℕ → ℕ) (s : List UInt8) :
    List (MessageHeader × List UInt8) :=
  match m.readState with
  | .initial => parse cut s
  | .header =>
    if m.readIndex = 0 then parse cut s
    else if s.length < headerSize - m.readIndex then []
    else parsePayload cut m.header (s.drop (headerSize - m.readIndex))
  | .buffer =>
    let left := m.dataSize - m.readIndex
    if s.length < left then []
    else (m.header, slice m.message.buffer 0 m.readIndex ++ s.take left) :: parse cut (s.drop left)

/-- The invariant of the reader state. -/
def IncomingMsg.WellFormed (m : IncomingMsg) : Prop :=
  match m.readState with
  | .initial => True
  | .header => m.readIndex < headerSize ∧ (m.readIndex = 0 → ∀ i < headerSize, m.msg i = 0)
  | .buffer => getMessageSize m.header = some m.dataSize ∧ m.readIndex < m.dataSize

/-- What was dispatched and what will be. -/
def Reader.total (r : Reader Transport (σ × List (MessageHeader × List UInt8))) :
    List (MessageHeader × List UInt8) :=
  r.layer.2 ++ r.inMsg.future r.conn.cut r.conn.stream

/-- A call of the reader keeps the total, and consumes some of the stream. -/
structure Advances (r r' : Reader Transport (σ × List (MessageHeader × List UInt8))) : Prop where
  wellFormed : r'.inMsg.WellFormed
  total : r'.total = r.total
  cut : r'.conn.cut = r.conn.cut
  stream : r'.conn.stream.length ≤ r.conn.stream.length
  shorter : r.conn.stream ≠ [] → r'.conn.stream.length < r.conn.stream.length

theorem Transport.read_nil {t : Transport} (h : t.stream = []) (n : ℕ) (b : Bool) :
    t.read n b = ⟨.err, [], b, t⟩ := by
  rw [Transport.read, if_pos h]

theorem Transport.read_eq {t : Transport} (h : t.stream ≠ []) {k : ℕ} (hk : 0 < k) (b : Bool) :
    ∃ n, 0 < n ∧ n ≤ k ∧ n ≤ t.stream.length ∧
      (k ≤ t.stream.length → n = min k (t.cut t.stream.length + 1)) ∧
      t.read k b = ⟨.ok, t.stream.take n, t.pending t.stream.length b,
        { t with stream := t.stream.drop n }⟩ := by
  have hl := List.length_pos_iff.mpr h
  refine ⟨min (min k (t.cut t.stream.length + 1)) t.stream.length, ?_, ?_, ?_, ?_, ?_⟩
  · omega
  · omega
  · omega
  · omega
  · rw [Transport.read, if_neg h]

theorem header_store_zero {m : IncomingMsg} (h : ∀ i < headerSize, m.msg i = 0) (p : List UInt8) :
    (m.receive 0 p).header = headerOf p := by
  simp only [IncomingMsg.header, IncomingMsg.receive, headerOf, store_zero_apply, List.getD_eq_getElem?_getD]
  rw [h 0 (by decide), h 1 (by decide), h 2 (by decide), h 3 (by decide)]

theorem header_store_ge (m : IncomingMsg) {o : ℕ} (h : headerSize ≤ o) (p : List UInt8) :
    (m.receive o p).header = m.header := by
  have h4 : 4 ≤ o := h
  simp only [IncomingMsg.header, IncomingMsg.receive]
  rw [store_apply_lt (by omega), store_apply_lt (by omega), store_apply_lt (by omega),
    store_apply_lt (by omega)]

section Step

variable (L : MsgLayer σ)

theorem content_message {m : IncomingMsg} {n : ℕ} (h : getMessageSize m.header = some n) :
    m.message.content = (m.header, slice m.message.buffer 0 n) := by
  simp [AsdMessage.content, IncomingMsg.message, h]

theorem readBuffer_advances {r : Reader Transport (σ × List (MessageHeader × List UInt8))}
    (hb : r.inMsg.readState = .buffer) (hw : r.inMsg.WellFormed) :
    Advances r (readBuffer Transport.read L.recording r).2 := by
  simp only [IncomingMsg.WellFormed, hb] at hw
  obtain ⟨hsize, hlt⟩ := hw
  by_cases hs : r.conn.stream = []
  · rw [readBuffer, Transport.read_nil hs]
    simp only [IncomingMsg.receive, store_nil, reduceCtorEq, if_false]
    exact ⟨by simp only [IncomingMsg.WellFormed, hb]; exact ⟨hsize, hlt⟩, rfl, rfl, le_refl _,
      fun h => absurd hs h⟩
  obtain ⟨n, hn0, hnk, hnl, -, hread⟩ := Transport.read_eq hs
    (show 0 < r.inMsg.dataSize - r.inMsg.readIndex by omega) r.dataPending
  have hlen : (r.conn.stream.take n).length = n := by simp [hnl]
  have hbuf : slice (r.inMsg.receive (headerSize + r.inMsg.readIndex)
      (r.conn.stream.take n)).message.buffer 0 (r.inMsg.readIndex + n) =
      slice r.inMsg.message.buffer 0 r.inMsg.readIndex ++ r.conn.stream.take n := by
    have := slice_append_store r.inMsg.message.buffer r.inMsg.readIndex (r.conn.stream.take n)
    rw [hlen] at this
    simp only [IncomingMsg.message, IncomingMsg.receive, store_shift]
    exact this
  have hhd := header_store_ge r.inMsg (o := headerSize + r.inMsg.readIndex) (by omega)
    (r.conn.stream.take n)
  have hm : (r.inMsg.receive (headerSize + r.inMsg.readIndex) (r.conn.stream.take n)).readState =
      .buffer := hb
  have hd : (r.inMsg.receive (headerSize + r.inMsg.readIndex) (r.conn.stream.take n)).dataSize =
      r.inMsg.dataSize := rfl
  have hshort : (r.conn.stream.drop n).length < r.conn.stream.length := by
    rw [List.length_drop]
    omega
  rw [readBuffer, hread]
  simp only [hlen, if_true]
  generalize r.inMsg.receive (headerSize + r.inMsg.readIndex) (r.conn.stream.take n) = m at *
  rw [← hhd] at hsize
  by_cases hdone : r.inMsg.dataSize - r.inMsg.readIndex - n = 0
  · have hn : r.inMsg.dataSize - r.inMsg.readIndex = n := by omega
    rw [if_pos hdone]
    refine ⟨trivial, ?_, rfl, le_of_lt hshort, fun _ => hshort⟩
    simp only [finishMessage, MsgLayer.recording, Reader.total, IncomingMsg.future, hb, hn,
      if_neg (Nat.not_lt.mpr hnl), List.append_assoc, List.singleton_append]
    change _ ++ m.message.content :: _ = _
    rw [content_message hsize, ← hbuf, ← hhd,
      show r.inMsg.readIndex + n = r.inMsg.dataSize by omega]
  · have hindex : m.dataSize - (r.inMsg.dataSize - r.inMsg.readIndex - n) =
        r.inMsg.readIndex + n := by omega
    rw [if_neg hdone, hindex]
    refine ⟨?_, ?_, rfl, le_of_lt hshort, fun _ => hshort⟩
    · simp only [IncomingMsg.WellFormed, hm, hd]
      exact ⟨hsize, by omega⟩
    simp only [Reader.total, IncomingMsg.future, hb, hm, hd, List.length_drop, List.drop_drop]
    congr 1
    by_cases hl : r.conn.stream.length < r.inMsg.dataSize - r.inMsg.readIndex
    · rw [if_pos hl, if_pos (by omega)]
    · have hdrop : n + (r.inMsg.dataSize - (r.inMsg.readIndex + n)) =
          r.inMsg.dataSize - r.inMsg.readIndex := by omega
      rw [if_neg hl, if_neg (by omega), ← hdrop, List.take_add, ← List.append_assoc, ← hbuf, ← hhd]
      rfl

/-- The header in memory once the read of `n` more bytes has arrived. -/
theorem header_store {m : IncomingMsg} (hh : m.readState = .header) (hw : m.WellFormed)
    (p : List UInt8) :
    (m.receive (headerSize * m.readIndex) p).header =
      if m.readIndex = 0 then headerOf p else m.header := by
  simp only [IncomingMsg.WellFormed, hh] at hw
  split_ifs with h
  · rw [← header_store_zero (hw.2 h) p, h, Nat.mul_zero]
  · exact header_store_ge m (Nat.le_mul_of_pos_right _ (by omega)) p

theorem future_header {m : IncomingMsg} (hh : m.readState = .header) (cut : ℕ → ℕ)
    (s : List UInt8) :
    m.future cut s = if s.length < headerSize - m.readIndex then [] else
      parsePayload cut (if m.readIndex = 0 then headerOf (s.take (firstCut cut s.length))
        else m.header) (s.drop (headerSize - m.readIndex)) := by
  simp only [IncomingMsg.future, hh]
  by_cases h : m.readIndex = 0
  · rw [if_pos h, if_pos h, h, Nat.sub_zero]
    split_ifs with hl
    · exact parse_short hl
    · exact parse_eq (by omega)
  · rw [if_neg h, if_neg h]

theorem readHeader_advances {r : Reader Transport (σ × List (MessageHeader × List UInt8))}
    (hh : r.inMsg.readState = .header) (hw : r.inMsg.WellFormed) (hs : r.conn.stream ≠ []) :
    Advances r (readHeader Transport.read L.recording r).2 := by
  have hw' := hw
  simp only [IncomingMsg.WellFormed, hh] at hw'
  obtain ⟨n, hn0, hnk, hnl, hcut, hread⟩ := Transport.read_eq hs
    (show 0 < headerSize - r.inMsg.readIndex by omega) r.dataPending
  have hlen : (r.conn.stream.take n).length = n := by simp [hnl]
  have hhd := header_store hh hw (r.conn.stream.take n)
  have hshort : (r.conn.stream.drop n).length < r.conn.stream.length := by
    rw [List.length_drop]
    omega
  -- the first read of a header is the only one that can change it
  have hfirst : headerSize - r.inMsg.readIndex ≤ r.conn.stream.length → r.inMsg.readIndex = 0 →
      n = firstCut r.conn.cut r.conn.stream.length := by
    intro hl h0
    rw [h0] at hcut hl
    exact hcut hl
  have htotal : r.total = r.layer.2 ++ if r.conn.stream.length < headerSize - r.inMsg.readIndex
      then [] else parsePayload r.conn.cut
        (r.inMsg.receive (headerSize * r.inMsg.readIndex) (r.conn.stream.take n)).header
        (r.conn.stream.drop (headerSize - r.inMsg.readIndex)) := by
    rw [Reader.total, future_header hh, hhd]
    split_ifs with hl h0
    · rfl
    · rw [hfirst (by omega) h0]
    · rfl
  rw [readHeader, hread]
  simp only [hlen, if_true]
  have hm : (r.inMsg.receive (headerSize * r.inMsg.readIndex) (r.conn.stream.take n)).readState =
      .header := hh
  generalize r.inMsg.receive (headerSize * r.inMsg.readIndex) (r.conn.stream.take n) = m at *
  by_cases hdone : headerSize - r.inMsg.readIndex - n = 0
  · have hn : headerSize - r.inMsg.readIndex = n := by omega
    rw [if_pos hdone]
    rw [hn, if_neg (by omega), parsePayload] at htotal
    cases hsize : getMessageSize m.header with
    | none =>
      rw [hsize] at htotal
      exact ⟨trivial, htotal.symm, rfl, le_of_lt hshort, fun _ => hshort⟩
    | some size =>
      rw [hsize] at htotal
      dsimp only at htotal ⊢
      by_cases h0 : size > 0
      · rw [if_pos h0]
        refine ⟨⟨hsize, h0⟩, ?_, rfl, le_of_lt hshort, fun _ => hshort⟩
        rw [htotal]
        simp only [Reader.total, IncomingMsg.future, slice_zero, List.nil_append, Nat.sub_zero]
        rfl
      · obtain rfl : size = 0 := by omega
        rw [if_neg h0]
        refine ⟨trivial, ?_, rfl, le_of_lt hshort, fun _ => hshort⟩
        rw [htotal, if_neg (by omega)]
        simp only [finishMessage, MsgLayer.recording, Reader.total, IncomingMsg.future,
          List.append_assoc, List.singleton_append]
        change _ ++ m.message.content :: _ = _
        rw [content_message hsize]
        rfl
  · rw [if_neg hdone]
    have hindex : headerSize - (headerSize - r.inMsg.readIndex - n) = r.inMsg.readIndex + n := by omega
    rw [hindex]
    refine ⟨?_, ?_, rfl, le_of_lt hshort, fun _ => hshort⟩
    · simp only [IncomingMsg.WellFormed, hm]
      exact ⟨by omega, by omega⟩
    · rw [htotal]
      simp only [Reader.total, IncomingMsg.future, hm, List.length_drop, List.drop_drop]
      rw [if_neg (by omega)]
      congr 1
      by_cases hl : r.conn.stream.length < headerSize - r.inMsg.readIndex
      · rw [if_pos hl, if_pos (by omega)]
      · rw [if_neg hl, if_neg (by omega)]
        refine congrArg _ ?_
        congr 1
        omega

theorem Advances.trans {r₁ r₂ r₃ : Reader Transport (σ × List (MessageHeader × List UInt8))}
    (h₁ : Advances r₁ r₂) (h₂ : Advances r₂ r₃) : Advances r₁ r₃ where
  wellFormed := h₂.wellFormed
  total := h₂.total.trans h₁.total
  cut := h₂.cut.trans h₁.cut
  stream := le_trans h₂.stream h₁.stream
  shorter h := lt_of_le_of_lt h₂.stream (h₁.shorter h)

theorem readHeaderAndBuffer_advances
    {r : Reader Transport (σ × List (MessageHeader × List UInt8))}
    (hh : r.inMsg.readState = .header) (hw : r.inMsg.WellFormed) (hs : r.conn.stream ≠ []) :
    Advances r (readHeaderAndBuffer Transport.read L.recording r).2 := by
  have h1 := readHeader_advances L hh hw hs
  rw [readHeaderAndBuffer]
  split_ifs with h
  · exact h1
  · push Not at h
    exact h1.trans (readBuffer_advances L h.1 h1.wellFormed)

/-- **One call of `asd_msg_read`** keeps what is dispatched in total, and makes progress. -/
theorem asdMsgRead_advances {r : Reader Transport (σ × List (MessageHeader × List UInt8))}
    (hw : r.inMsg.WellFormed) (hs : r.conn.stream ≠ []) :
    Advances r (asdMsgRead Transport.read L.recording r).2 := by
  rw [asdMsgRead]
  cases hstate : r.inMsg.readState with
  | initial =>
    have hreset : Advances { r with inMsg := r.inMsg.reset }
        (readHeaderAndBuffer Transport.read L.recording { r with inMsg := r.inMsg.reset }).2 := by
      refine readHeaderAndBuffer_advances L rfl ⟨Nat.zero_lt_succ 3, fun _ i hi => ?_⟩ hs
      exact if_pos (Nat.lt_add_right _ hi)
    refine ⟨hreset.wellFormed, hreset.total.trans ?_, hreset.cut, hreset.stream, hreset.shorter⟩
    simp [Reader.total, IncomingMsg.future, IncomingMsg.reset, hstate]
  | header => exact readHeaderAndBuffer_advances L hstate hw hs
  | buffer => exact readBuffer_advances L hstate hw

end Step

/-! ## Reading a whole stream -/

theorem future_nil {m : IncomingMsg} (hw : m.WellFormed) (cut : ℕ → ℕ) : m.future cut [] = [] := by
  have hnil : parse cut [] = [] := parse_short (by decide)
  rw [IncomingMsg.WellFormed] at hw
  rw [IncomingMsg.future]
  cases hm : m.readState with
  | initial => exact hnil
  | header =>
    rw [hm] at hw
    dsimp only
    rw [if_pos (show ([] : List UInt8).length < headerSize - m.readIndex by
      rw [List.length_nil]; omega), hnil, ite_self]
  | buffer =>
    rw [hm] at hw
    exact if_pos (show ([] : List UInt8).length < m.dataSize - m.readIndex by
      rw [List.length_nil]; omega)

/-- **Repeated calls of `asd_msg_read`** drain the connection and dispatch what the reader still
has to dispatch. -/
theorem readAll_spec (L : MsgLayer σ)
    {r : Reader Transport (σ × List (MessageHeader × List UInt8))} (hw : r.inMsg.WellFormed) :
    (readAll L.recording r).conn.stream = [] ∧
      (readAll L.recording r).layer.2 = r.layer.2 ++ r.inMsg.future r.conn.cut r.conn.stream := by
  have hstep : ∀ s : Reader Transport (σ × List (MessageHeader × List UInt8)),
      s.inMsg.WellFormed → (!s.conn.stream.isEmpty) = true →
      Advances s (asdMsgRead Transport.read L.recording s).2 ∧
        (asdMsgRead Transport.read L.recording s).2.conn.stream.length < s.conn.stream.length := by
    intro s hs hc
    have hne : s.conn.stream ≠ [] := by simpa using hc
    have h := asdMsgRead_advances L hs hne
    exact ⟨h, h.shorter hne⟩
  have hnil : (readAll L.recording r).conn.stream = [] := by
    have := whileN_done (fun s : Reader Transport (σ × List (MessageHeader × List UInt8)) =>
      s.conn.stream.length) (P := fun s => s.inMsg.WellFormed)
      (fun s hs hc => ⟨(hstep s hs hc).1.wellFormed, (hstep s hs hc).2⟩) hw (le_refl _)
    simpa [readAll] using this
  obtain ⟨hw', htotal⟩ := whileN_inv (P := fun s => s.inMsg.WellFormed ∧ s.total = r.total)
    (fun s hs hc => ⟨(hstep s hs.1 hc).1.wellFormed, (hstep s hs.1 hc).1.total.trans hs.2⟩)
    ⟨hw, rfl⟩ r.conn.stream.length
  change (readAll L.recording r).inMsg.WellFormed at hw'
  refine ⟨hnil, ?_⟩
  rw [← Reader.total, ← htotal, ← readAll, Reader.total, hnil, future_nil hw', List.append_nil]

/-- **The reader computes `parse`**, whatever the stream and the cuts. -/
theorem readAll_dispatched (L : MsgLayer σ) (m : ℕ → UInt8) (size : ℕ) (b : Bool) (t : Transport)
    (u : σ) : (readAll L.recording ⟨.init size m, b, t, u, []⟩).layer.2 = parse t.cut t.stream :=
  (readAll_spec L (r := ⟨.init size m, b, t, u, []⟩) trivial).2

/-! ## Well-formed messages -/

/-- A message whose payload has the length its header announces. -/
structure WireMessage where
  header : MessageHeader
  payload : List UInt8
  size : getMessageSize header = some payload.length

/-- The bytes of a message on the wire. -/
def WireMessage.bytes (m : WireMessage) : List UInt8 :=
  [m.header.byte 0, m.header.byte 1, m.header.byte 2, m.header.byte 3] ++ m.payload

/-- What the receiver of a message should see. -/
def WireMessage.content (m : WireMessage) : MessageHeader × List UInt8 := (m.header, m.payload)

/-- The stream that carries the messages `ms`. -/
def wire (ms : List WireMessage) : List UInt8 := ms.flatMap WireMessage.bytes

/-- Of every header, the bytes that do not come with the first read of that header are zero. -/
def HeadersIntact (cut : ℕ → ℕ) : List WireMessage → Prop
  | [] => True
  | m :: ms =>
    (∀ i, firstCut cut (wire (m :: ms)).length ≤ i → i < headerSize → m.header.byte i = 0) ∧
      HeadersIntact cut ms

theorem firstCut_pos (cut : ℕ → ℕ) (n : ℕ) : 0 < firstCut cut n ∧ firstCut cut n ≤ headerSize :=
  ⟨lt_min (by decide) (Nat.succ_pos _), min_le_left _ _⟩

theorem headerOf_take (m : WireMessage) (s : List UInt8) {k : ℕ} (hk : 0 < k ∧ k ≤ headerSize) :
    headerOf ((m.bytes ++ s).take k) = MessageHeader.ofBytes (m.header.byte 0)
      (if 1 < k then m.header.byte 1 else 0) (if 2 < k then m.header.byte 2 else 0)
      (if 3 < k then m.header.byte 3 else 0) := by
  obtain ⟨h0, h4⟩ := hk
  interval_cases k <;> simp [headerOf, WireMessage.bytes]

/-- The header survives its first read exactly if the other bytes are zero. -/
theorem headerOf_take_eq_iff (m : WireMessage) (s : List UInt8) {k : ℕ}
    (hk : 0 < k ∧ k ≤ headerSize) :
    headerOf ((m.bytes ++ s).take k) = m.header ↔
      ∀ i, k ≤ i → i < headerSize → m.header.byte i = 0 := by
  rw [headerOf_take m s hk]
  obtain ⟨-, h1, h2, h3⟩ := MessageHeader.byte_ofBytes (m.header.byte 0)
    (if 1 < k then m.header.byte 1 else 0) (if 2 < k then m.header.byte 2 else 0)
    (if 3 < k then m.header.byte 3 else 0)
  constructor
  · intro h i hi h4
    rw [h] at h1 h2 h3
    have hi0 : 0 < i := by omega
    interval_cases i
    · rw [h1, if_neg (by omega)]
    · rw [h2, if_neg (by omega)]
    · rw [h3, if_neg (by omega)]
  · intro h
    have hz : ∀ i < headerSize, (if i < k then m.header.byte i else 0) = m.header.byte i := by
      intro i hi
      split_ifs with hik
      · rfl
      · exact (h i (by omega) hi).symm
    rw [hz 1 (by decide), hz 2 (by decide), hz 3 (by decide), MessageHeader.ofBytes_byte]

/-- A header that lost bytes announces no more than it did. -/
theorem getMessageSize_headerOf_take (m : WireMessage) (s : List UInt8) {k : ℕ}
    (hk : 0 < k ∧ k ≤ headerSize) :
    ∃ n, getMessageSize (headerOf ((m.bytes ++ s).take k)) = some n := by
  have hm := m.size
  rw [← MessageHeader.ofBytes_byte m.header, getMessageSize_ofBytes] at hm
  have hle : ¬ (m.header.byte 1).toNat + 256 * ((m.header.byte 2).toNat % 32) > maxDataSize := by
    intro h
    rw [if_pos h] at hm
    cases hm
  rw [headerOf_take m s hk, getMessageSize_ofBytes, if_neg]
  · exact ⟨_, rfl⟩
  · have h1 : (if 1 < k then m.header.byte 1 else 0).toNat ≤ (m.header.byte 1).toNat := by
      split_ifs <;> simp
    have h2 : (if 2 < k then m.header.byte 2 else 0).toNat % 32 ≤ (m.header.byte 2).toNat % 32 := by
      split_ifs <;> simp
    omega

theorem parse_wire_cons (cut : ℕ → ℕ) (m : WireMessage) (ms : List WireMessage) :
    parse cut (wire (m :: ms)) = parsePayload cut
      (headerOf ((m.bytes ++ wire ms).take (firstCut cut (wire (m :: ms)).length)))
      (m.payload ++ wire ms) := by
  have hw : wire (m :: ms) = m.bytes ++ wire ms := rfl
  rw [parse_eq, hw]
  · rfl
  · rw [hw]
    simp only [WireMessage.bytes, headerSize, List.length_append, List.length_cons]
    omega

theorem parse_wire_iff (cut : ℕ → ℕ) (ms : List WireMessage) :
    parse cut (wire ms) = ms.map WireMessage.content ↔ HeadersIntact cut ms := by
  induction ms with
  | nil => exact iff_of_true (parse_short (by decide)) trivial
  | cons m ms ih =>
    have hk := firstCut_pos cut (wire (m :: ms)).length
    rw [parse_wire_cons, HeadersIntact, ← headerOf_take_eq_iff m (wire ms) hk, ← ih]
    constructor
    · intro h
      obtain ⟨n, hn⟩ := getMessageSize_headerOf_take m (wire ms) hk
      rw [parsePayload, hn] at h
      dsimp only at h
      split_ifs at h with hl
      · cases h
      rw [List.map_cons, List.cons.injEq] at h
      obtain ⟨hc, ht⟩ := h
      have hhd := congrArg Prod.fst hc
      refine ⟨hhd, ?_⟩
      dsimp only [WireMessage.content] at hhd
      rw [hhd, m.size] at hn
      cases hn
      rwa [List.drop_left] at ht
    · rintro ⟨hhd, ht⟩
      rw [hhd, parsePayload, m.size]
      dsimp only
      rw [if_neg (by simp), List.take_left, List.drop_left, ht]
      rfl

/-- **Reassembly.** A stream of well-formed messages is dispatched message by message exactly if no
header loses information after its first read: then, and only then, the receiver sees the headers
and payloads that were sent. -/
theorem readAll_eq_iff (L : MsgLayer σ) (u : σ) (msg : ℕ → UInt8) (size : ℕ) (cut : ℕ → ℕ)
    (pending : ℕ → Bool → Bool) (b : Bool) (ms : List WireMessage) :
    (readAll L.recording ⟨.init size msg, b, ⟨wire ms, cut, pending⟩, u, []⟩).layer.2 =
      ms.map WireMessage.content ↔ HeadersIntact cut ms := by
  rw [readAll_dispatched, parse_wire_iff]

/-- A one-byte JTAG message that announces its payload in its second byte. -/
def splitMessage : WireMessage where
  header := { originId := 0, reserved := 0, encBit := 0, type := jtagType, sizeLsb := 1,
              sizeMsb := 0, tag := 0, cmdStat := 0 }
  payload := [0x14]
  size := by decide

theorem readAll_split_header :
    (readAll (MsgLayer.recording ⟨fun _ s => (.ok, s), fun _ _ s => s⟩)
      ⟨.init 0 fun _ => 0, false, ⟨wire [splitMessage], fun _ => 0, fun _ _ => false⟩,
        (), []⟩).layer.2 ≠ [splitMessage.content] := by
  decide

end BmcAsd
