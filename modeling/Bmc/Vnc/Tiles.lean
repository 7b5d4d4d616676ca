import Bmc.Vnc.HuffmanSafety

/-!
# The tiles that a frame changes

`decode_tile_coordinates` of `decode.c` goes through the blocks of a compressed frame and lists the tiles.

* `blockHeader`, `readPayload`, `moveBlockIndex`, `tileRound`, `tileLoop`: the loop over the blocks;
* `decodeTileCoordinates`: the list of the tiles, behind their number;
* `FrameBlock`, `frameText`: the bits of a frame;
* `changes`, `tileInfo`: the list that the positions of the blocks call for;
* **`decodeTileCoordinates_frame`**: it is the list that a frame is decoded to;
* **`decodeTileCoordinates_any`**: what any other buffer is decoded to, and how far it is read and the list is written.
-/

namespace BmcVnc

open BmcLib Function

/-! ## The function -/

/-- What is behind a block header: the units of a tile, those of the second pass, or a bitmap of up to four colours. -/
inductive BlockKind where
  | jpeg
  | pass2
  | vq (colors bitMapBits : ℕ)
  deriving DecidableEq, Repr

/-- A block header: the end of the frame, a block with or without a position, or a code that is not known. -/
inductive BlockHeader where
  | frameEnd
  | block (kind : BlockKind) (skip : Bool)
  | unknown
  deriving DecidableEq, Repr

/-- The header codes, in the order in which they are compared. -/
def blockHeader (code : UInt32) : BlockHeader :=
  if code = 0x00 then .block .jpeg false
  else if code = 0x08 then .block .jpeg true
  else if code = 0x02 then .block .pass2 false
  else if code = 0x0A then .block .pass2 true
  else if code = 0x05 then .block (.vq 1 0) false
  else if code = 0x0D then .block (.vq 1 0) true
  else if code = 0x06 then .block (.vq 2 1) false
  else if code = 0x0E then .block (.vq 2 1) true
  else if code = 0x07 then .block (.vq 4 2) false
  else if code = 0x0F then .block (.vq 4 2) true
  else if code = 0x04 then .block .jpeg false
  else if code = 0x0C then .block .jpeg true
  else if code = 0x09 then .frameEnd
  else .unknown

/-- The fields of the frame header that the loop uses, and the sizes that are computed from it. -/
structure FrameInfo where
  mode420 : UInt8
  tmpWidth : ℕ
  tmpHeight : ℕ
  realWidth : ℕ
  realHeight : ℕ

/-- The bytes that are allocated for the tiles, without the two for their number. -/
def FrameInfo.limit (f : FrameInfo) : ℕ := f.realWidth * f.realHeight / (16 + 16)

/-- `MoveBlockIndex`. -/
def moveBlockIndex (f : FrameInfo) (txb tyb : ℕ) : ℕ × ℕ :=
  let n := if f.mode420 = 0 then 8 else 16
  if f.tmpWidth / n ≤ txb + 1 then (0, if f.tmpHeight / n ≤ tyb + 1 then 0 else tyb + 1) else (txb + 1, tyb)

/-- The state of the loop. -/
structure TileState where
  reader : ReadState
  dc : Component → Int16
  txb : ℕ
  tyb : ℕ
  prevTxb : ℕ
  prevTyb : ℕ
  tileCount : ℕ
  tiles : List UInt8

/-- The tile is listed when it is not the one before, and the loop stops when more than half of the bytes are used. -/
def TileState.record (f : FrameInfo) (st : TileState) : TileState × Bool :=
  if st.prevTxb ≠ st.txb ∨ st.prevTyb ≠ st.tyb then
    let st' := { st with
      prevTxb := st.txb, prevTyb := st.tyb, tileCount := st.tileCount + 1
      tiles := st.tiles ++ [UInt8.ofNat st.tyb, UInt8.ofNat st.txb] }
    if f.limit < 2 * st'.tileCount then ({ st' with tileCount := 1001 }, false) else (st', true)
  else (st, true)

section Loop

variable (Buffer : List UInt32)

/-- A call that is made `n` times. -/
def times (call : ReadState → Option ReadState) : ℕ → ReadState → Option ReadState
  | 0, s => some s
  | n + 1, s => call s >>= times call n

/-- What is read behind the header. The entries of a colour have 27 bits, also those that keep it. -/
def readPayload (mode420 : UInt8) (dc : Component → Int16) (s : ReadState) :
    BlockKind → Option ((Component → Int16) × ReadState)
  | .jpeg => (decompress Buffer mode420 dc s).map fun r => (r.1, r.2.2)
  | .pass2 => (decompressPaas2 Buffer dc s).map fun r => (r.1, r.2.2)
  | .vq colors bitMapBits => do
    let s₁ ← times (updatereadbuf Buffer 0x1B) colors s
    let s₂ ← if bitMapBits = 0 then some s₁ else times (skipKbits Buffer (UInt8.ofNat bitMapBits)) 64 s₁
    return (dc, s₂)

/-- A round of the loop, and whether another one may follow. -/
def tileRound (f : FrameInfo) (st : TileState) : Option (TileState × Bool) :=
  match blockHeader ((st.reader.codebuf >>> 28) &&& 0x0F) with
  | .frameEnd => some (st, false)
  | .unknown => do
    let s ← updatereadbuf Buffer 0x03 st.reader
    let next := moveBlockIndex f st.txb st.tyb
    return TileState.record f { st with reader := s, txb := next.1, tyb := next.2 }
  | .block kind skip => do
    let txb := if skip then ((st.reader.codebuf &&& 0x0FF00000) >>> 20).toNat else st.txb
    let tyb := if skip then ((st.reader.codebuf &&& 0x000FF000) >>> 12).toNat else st.tyb
    let s ← updatereadbuf Buffer (if skip then 20 else 0x04) st.reader
    let (dc, s') ← readPayload Buffer f.mode420 st.dc s kind
    let next := moveBlockIndex f txb tyb
    return TileState.record f { st with reader := s', dc := dc, txb := next.1, tyb := next.2 }

/-- The loop, for at most `n` rounds. -/
def tileLoop (f : FrameInfo) (compressBufferSize : ℕ) : ℕ → TileState → Option TileState
  | 0, _ => none
  | n + 1, st => do
    let (st', goesOn) ← tileRound Buffer f st
    if goesOn = true ∧ st'.reader.index < compressBufferSize then tileLoop f compressBufferSize n st' else return st'

/-- `decode_tile_coordinates` behind the setup of its tables: the bytes of `tile_info`. -/
def decodeTileCoordinates (f : FrameInfo) (compressBufferSize : ℕ) : Option (List UInt8) := do
  let s ← ReadState.start Buffer
  let st ← tileLoop Buffer f compressBufferSize (32 * compressBufferSize + 1) ⟨s, fun _ => 0, 0, 0, 0, 0, 0, []⟩
  return [UInt8.ofNat st.tileCount, UInt8.ofNat (st.tileCount / 256)] ++ st.tiles

end Loop

/-! ## The text of a frame -/

/-- A block of a frame: the units of a tile in one of two qualities, those of the second pass, or the colours and the bitmap. A block
has its position, or the one behind the block before. -/
inductive Payload where
  | jpeg (low : Bool) (units : List CodedUnit)
  | pass2 (units : List CodedUnit)
  | oneColor (entries : List Bool)
  | twoColors (entries bitmap : List Bool)
  | fourColors (entries bitmap : List Bool)

/-- A block and its position. -/
structure FrameBlock where
  payload : Payload
  skip : Option (UInt8 × UInt8)

/-- The header code of a block without a position. -/
def Payload.code : Payload → ℕ
  | jpeg low _ => if low then 0x04 else 0x00
  | pass2 _ => 0x02
  | oneColor _ => 0x05
  | twoColors _ _ => 0x06
  | fourColors _ _ => 0x07

/-- What is behind the header. -/
def Payload.kind : Payload → BlockKind
  | jpeg _ _ => .jpeg
  | pass2 _ => .pass2
  | oneColor _ => .vq 1 0
  | twoColors _ _ => .vq 2 1
  | fourColors _ _ => .vq 4 2

/-- The bits behind the header. -/
def Payload.text (mode420 : UInt8) (dc : Component → ℤ) : Payload → List Bool
  | jpeg _ units => tileText mode420 dc units
  | pass2 units => tileText 0 dc units
  | oneColor entries => entries
  | twoColors entries bitmap | fourColors entries bitmap => entries ++ bitmap

/-- The DC values behind the block. -/
def Payload.dcAfter (mode420 : UInt8) (dc : Component → ℤ) : Payload → Component → ℤ
  | jpeg _ units => BmcVnc.dcAfter (tileUnits mode420) dc units
  | pass2 units => BmcVnc.dcAfter (tileUnits 0) dc units
  | oneColor _ | twoColors _ _ | fourColors _ _ => dc

/-- A block has the units of its mode, or the entries and the bitmap of its colours. -/
def Payload.Fits (mode420 : UInt8) (dc : Component → ℤ) : Payload → Prop
  | jpeg _ units => units.length = (tileUnits mode420).length ∧ DcSteps (tileUnits mode420) dc units
  | pass2 units => units.length = (tileUnits 0).length ∧ DcSteps (tileUnits 0) dc units
  | oneColor entries => entries.length = 27
  | twoColors entries bitmap => entries.length = 2 * 27 ∧ bitmap.length = 64 * 1
  | fourColors entries bitmap => entries.length = 4 * 27 ∧ bitmap.length = 64 * 2

/-- The bits of a block header. -/
def FrameBlock.header (b : FrameBlock) : List Bool :=
  match b.skip with
  | none => fieldBits 4 b.payload.code
  | some (x, y) => fieldBits 4 (b.payload.code + 0x08) ++ (fieldBits 8 x.toNat ++ fieldBits 8 y.toNat)

/-- The bits of a frame: the blocks, and the code of its end. -/
def frameText (mode420 : UInt8) : (Component → ℤ) → List FrameBlock → List Bool
  | _, [] => fieldBits 4 0x09
  | dc, b :: bs => b.header ++ b.payload.text mode420 dc ++ frameText mode420 (b.payload.dcAfter mode420 dc) bs

/-- All blocks fit. -/
def FrameFits (mode420 : UInt8) : (Component → ℤ) → List FrameBlock → Prop
  | _, [] => True
  | dc, b :: bs => b.payload.Fits mode420 dc ∧ FrameFits mode420 (b.payload.dcAfter mode420 dc) bs

/-- The positions behind the blocks. -/
def positions (f : FrameInfo) : ℕ × ℕ → List FrameBlock → List (ℕ × ℕ)
  | _, [] => []
  | at_, b :: bs =>
    let start := match b.skip with
      | none => at_
      | some (x, y) => (x.toNat, y.toNat)
    moveBlockIndex f start.1 start.2 :: positions f (moveBlockIndex f start.1 start.2) bs

/-- The positions that are not the ones before them. -/
def changes : ℕ × ℕ → List (ℕ × ℕ) → List (ℕ × ℕ)
  | _, [] => []
  | prev, q :: qs => if prev = q then changes prev qs else q :: changes q qs

/-- The bytes of a position. -/
def tileBytes (q : ℕ × ℕ) : List UInt8 := [UInt8.ofNat q.2, UInt8.ofNat q.1]

/-- The list of the changes. When they use more than half of the bytes, it ends with the first one that does, and its number
stands for the whole screen. -/
def tileInfo (limit : ℕ) (qs : List (ℕ × ℕ)) : List UInt8 :=
  let count := if 2 * qs.length ≤ limit then qs.length else 1001
  [UInt8.ofNat count, UInt8.ofNat (count / 256)] ++ (qs.take (limit / 2 + 1)).flatMap tileBytes

/-! ## The header of a block -/

section Header

variable {Buffer : List UInt32} {p : ℕ} {s : ReadState}

/-- The code that the look-ahead word shows. -/
theorem Window.code_eq (hs : Window Buffer p s) : (s.codebuf >>> 28) &&& 0x0F = UInt32.ofNat (nextBits Buffer p 4) := by
  refine UInt32.toNat_inj.1 ?_
  have hlt := @nextBits_lt Buffer p 4
  have hshift : (s.codebuf >>> 28).toNat = nextBits Buffer p 4 := by
    rw [← hs.toNat_codebuf (k := 4) (by norm_num), UInt32.toNat_shiftRight]
    rfl
  rw [UInt32.toNat_and, hshift, UInt32.toNat_ofNat_of_lt' (by change _ < 4294967296; omega)]
  exact (Nat.and_two_pow_sub_one_eq_mod (nextBits Buffer p 4) 4).trans (Nat.mod_eq_of_lt hlt)

/-- A byte of the look-ahead word. -/
theorem Window.byte_eq (hs : Window Buffer p s) {mask shift : UInt32} {n : ℕ} (hn : n + 8 ≤ 32) (hshift : shift.toNat = n)
    (hmask : mask.toNat = (2 ^ 8 - 1) <<< n) :
    ((s.codebuf &&& mask) >>> shift).toNat = nextBits Buffer (p + (24 - n)) 8 := by
  refine Nat.eq_of_testBit_eq fun i => ?_
  change wordBit _ i = _
  rw [wordBit_shiftRight _ _ _ (UInt32.lt_iff_toNat_lt.2 (by rw [hshift]; change n < 32; omega)), hshift, wordBit_and,
    testBit_nextBits]
  have hbit : wordBit mask (n + i) = decide (i < 8) := by
    rw [wordBit, hmask, Nat.testBit_shiftLeft, Nat.testBit_two_pow_sub_one, Nat.add_sub_cancel_left,
      decide_eq_true (Nat.le_add_right n i), Bool.true_and]
  rw [hbit, Bool.and_comm]
  by_cases hi : i < 8
  · rw [hs.code _ (by omega)]
    congr 2
    omega
  · rw [decide_eq_false hi, Bool.false_and, Bool.false_and]

/-- A call of `updatereadbuf`. -/
theorem Window.updatereadbuf (hs : Window Buffer p s) {k : ℕ} (hk : 1 ≤ k) (hk' : k < 32)
    (hin : (p + k) / 32 + 2 ≤ Buffer.length) :
    ∃ s', BmcVnc.updatereadbuf Buffer k s = some s' ∧ Window Buffer (p + k) s' := hs.advance hk hk' hin

/-- Calls that skip `k` bits each. -/
theorem Window.times (hs : Window Buffer p s) (call : ReadState → Option ReadState) (k n : ℕ)
    (hcall : ∀ q t, Window Buffer q t → (q + k) / 32 + 2 ≤ Buffer.length → ∃ t', call t = some t' ∧ Window Buffer (q + k) t')
    (hin : (p + n * k) / 32 + 2 ≤ Buffer.length) : ∃ s', BmcVnc.times call n s = some s' ∧ Window Buffer (p + n * k) s' := by
  induction n generalizing p s with
  | zero => exact ⟨s, rfl, by rwa [Nat.zero_mul]⟩
  | succ n ih =>
    rw [Nat.succ_mul, Nat.add_comm (n * k) k, ← Nat.add_assoc] at hin ⊢
    obtain ⟨s₁, hone, hs₁⟩ := hcall p s hs (by omega)
    obtain ⟨s', hrest, hs'⟩ := ih hs₁ hin
    exact ⟨s', by rw [BmcVnc.times, hone]; exact hrest, hs'⟩

/-- The entries and the bitmap of a block of colours. -/
theorem Window.vq (hs : Window Buffer p s) (mode420 : UInt8) (dc : Component → Int16) (colors : ℕ) {bitMapBits : ℕ}
    (hbits : bitMapBits ≤ 2) (hin : (p + colors * 27 + 64 * bitMapBits) / 32 + 2 ≤ Buffer.length) :
    ∃ s', readPayload Buffer mode420 dc s (.vq colors bitMapBits) = some (dc, s') ∧
      Window Buffer (p + colors * 27 + 64 * bitMapBits) s' := by
  obtain ⟨s₁, hentries, hs₁⟩ := hs.times (BmcVnc.updatereadbuf Buffer 0x1B) 27 colors
    (fun q t ht hq => ht.updatereadbuf (by norm_num) (by norm_num) hq) (by omega)
  by_cases hzero : bitMapBits = 0
  · subst hzero
    refine ⟨s₁, ?_, hs₁⟩
    rw [readPayload, hentries, Option.bind_eq_bind, Option.bind_some, if_pos rfl]
    rfl
  · have hk : (UInt8.ofNat bitMapBits).toNat = bitMapBits := UInt8.toNat_ofNat_of_lt' (by change _ < 256; omega)
    obtain ⟨s', hmap, hs'⟩ := hs₁.times (skipKbits Buffer (UInt8.ofNat bitMapBits)) bitMapBits 64
      (fun q t ht hq => by
        rw [skipKbits, hk]
        exact ht.advance (by omega) (by omega) hq) hin
    refine ⟨s', ?_, hs'⟩
    rw [readPayload, hentries, Option.bind_eq_bind, Option.bind_some, if_neg hzero, hmap]
    rfl

/-- **The bits behind a header** are read. -/
theorem Window.payload (hs : Window Buffer p s) {mode420 : UInt8} {dc : Component → ℤ} {b : Payload}
    (hb : b.Fits mode420 dc) (hc : Carries (streamBit Buffer) p (b.text mode420 dc))
    (hin : (p + (b.text mode420 dc).length) / 32 + 2 ≤ Buffer.length) :
    ∃ s', readPayload Buffer mode420 (fun c => Int16.ofInt (dc c)) s b.kind =
        some (fun c => Int16.ofInt (b.dcAfter mode420 dc c), s') ∧
      Window Buffer (p + (b.text mode420 dc).length) s' := by
  cases b with
  | jpeg low units =>
    obtain ⟨coeff, s', htile, hs', -, -⟩ := units_text (tileUnits_apart mode420) hb.1 hb.2 (fun _ => 0)
      (fun _ _ _ _ _ => rfl) hs hc hin
    exact ⟨s', by rw [Payload.kind, readPayload, decompress, htile]; rfl, hs'⟩
  | pass2 units =>
    obtain ⟨coeff, s', htile, hs', -, -⟩ := units_text (tileUnits_apart 0) hb.1 hb.2 (fun _ => 0)
      (fun _ _ _ _ _ => rfl) hs hc hin
    exact ⟨s', by rw [Payload.kind, readPayload, decompressPaas2, htile]; rfl, hs'⟩
  | oneColor entries =>
    have hlen : entries.length = 1 * 27 + 64 * 0 := hb
    rw [Payload.text, hlen] at hin ⊢
    exact hs.vq mode420 _ 1 (by norm_num) hin
  | twoColors entries bitmap =>
    have hlen : (entries ++ bitmap).length = 2 * 27 + 64 * 1 := by rw [List.length_append, hb.1, hb.2]
    rw [Payload.text, hlen] at hin ⊢
    exact hs.vq mode420 _ 2 (by norm_num) hin
  | fourColors entries bitmap =>
    have hlen : (entries ++ bitmap).length = 4 * 27 + 64 * 2 := by rw [List.length_append, hb.1, hb.2]
    rw [Payload.text, hlen] at hin ⊢
    exact hs.vq mode420 _ 4 (by norm_num) hin

end Header

/-! ## The list -/

section List

variable {f : FrameInfo} {st : TileState} {done : List (ℕ × ℕ)} {prev : ℕ × ℕ}

/-- The loop has listed `done`, and the last position it compared with is `prev`. -/
structure Listed (f : FrameInfo) (done : List (ℕ × ℕ)) (prev : ℕ × ℕ) (st : TileState) : Prop where
  prev_eq : (st.prevTxb, st.prevTyb) = prev
  count : st.tileCount = done.length
  tiles : st.tiles = done.flatMap tileBytes
  half : 2 * done.length ≤ f.limit

/-- The loop has stopped with the list of the changes `qs`. -/
structure Ended (f : FrameInfo) (qs : List (ℕ × ℕ)) (st : TileState) : Prop where
  count : st.tileCount = if 2 * qs.length ≤ f.limit then qs.length else 1001
  tiles : st.tiles = (qs.take (f.limit / 2 + 1)).flatMap tileBytes

theorem Listed.ended (h : Listed f done prev st) : Ended f done st := by
  have hhalf := h.half
  refine ⟨by rw [h.count, if_pos hhalf], ?_⟩
  rw [h.tiles, List.take_of_length_le (by omega)]

/-- The same position is not listed again. -/
theorem Listed.record_same (h : Listed f done prev st) (hsame : prev = (st.txb, st.tyb)) : st.record f = (st, true) := by
  have heq := h.prev_eq.trans hsame
  rw [Prod.mk.injEq] at heq
  rw [TileState.record, if_neg]
  rintro (hx | hy)
  · exact hx heq.1
  · exact hy heq.2

/-- A change that the list has room for. -/
theorem Listed.record_change (h : Listed f done prev st) (hnew : prev ≠ (st.txb, st.tyb)) (hroom : 2 * (done.length + 1) ≤ f.limit) :
    ∃ st', st.record f = (st', true) ∧ Listed f (done ++ [(st.txb, st.tyb)]) (st.txb, st.tyb) st' ∧ st'.reader = st.reader ∧
      st'.dc = st.dc ∧ st'.txb = st.txb ∧ st'.tyb = st.tyb := by
  have hne : st.prevTxb ≠ st.txb ∨ st.prevTyb ≠ st.tyb := by
    by_contra hcon
    rw [not_or, not_not, not_not] at hcon
    exact hnew (h.prev_eq.symm.trans (Prod.ext hcon.1 hcon.2))
  rw [TileState.record, if_pos hne]
  dsimp only
  rw [if_neg (by rw [h.count]; omega)]
  exact ⟨_, rfl, ⟨rfl, by rw [h.count, List.length_append]; rfl, by rw [h.tiles, List.flatMap_append]; rfl,
    by rw [List.length_append]; exact hroom⟩, rfl, rfl, rfl, rfl⟩

/-- The change that uses more than half of the bytes. -/
theorem Listed.record_last (h : Listed f done prev st) (hnew : prev ≠ (st.txb, st.tyb)) (hfull : f.limit < 2 * (done.length + 1))
    (qs : List (ℕ × ℕ)) : ∃ st', st.record f = (st', false) ∧ Ended f (done ++ (st.txb, st.tyb) :: qs) st' ∧
      st'.reader = st.reader := by
  have hne : st.prevTxb ≠ st.txb ∨ st.prevTyb ≠ st.tyb := by
    by_contra hcon
    rw [not_or, not_not, not_not] at hcon
    exact hnew (h.prev_eq.symm.trans (Prod.ext hcon.1 hcon.2))
  have hhalf := h.half
  rw [TileState.record, if_pos hne]
  dsimp only
  rw [if_pos (by rw [h.count]; omega)]
  refine ⟨_, rfl, ⟨?_, ?_⟩, rfl⟩
  · rw [List.length_append, List.length_cons, if_neg (by omega)]
  · have htake : (done ++ (st.txb, st.tyb) :: qs).take (f.limit / 2 + 1) = done ++ [(st.txb, st.tyb)] := by
      rw [show f.limit / 2 + 1 = done.length + 1 by omega, List.take_append, List.take_of_length_le (Nat.le_succ _),
        Nat.add_sub_cancel_left, List.take_succ_cons, List.take_zero]
    rw [htake, List.flatMap_append, h.tiles]
    rfl

end List

/-! ## A frame -/

section Frame

variable {Buffer : List UInt32} {p : ℕ} {f : FrameInfo} {st : TileState}

/-- The position that a block starts at. -/
def FrameBlock.start (b : FrameBlock) (at_ : ℕ × ℕ) : ℕ × ℕ :=
  match b.skip with
  | none => at_
  | some (x, y) => (x.toNat, y.toNat)

theorem positions_cons (at_ : ℕ × ℕ) (b : FrameBlock) (bs : List FrameBlock) :
    positions f at_ (b :: bs) = moveBlockIndex f (b.start at_).1 (b.start at_).2 ::
      positions f (moveBlockIndex f (b.start at_).1 (b.start at_).2) bs := rfl

/-- The codes of the blocks. -/
theorem blockHeader_code (b : Payload) : blockHeader (UInt32.ofNat b.code) = .block b.kind false ∧
    blockHeader (UInt32.ofNat (b.code + 0x08)) = .block b.kind true ∧ b.code < 8 := by
  cases b with
  | jpeg low units => cases low <;> exact ⟨rfl, rfl, by norm_num [Payload.code]⟩
  | pass2 _ | oneColor _ | twoColors _ _ | fourColors _ _ => exact ⟨rfl, rfl, by norm_num [Payload.code]⟩

/-- **A round** reads a block and lists the position behind it. -/
theorem tileRound_block {b : FrameBlock} {dc : Component → ℤ} (hb : b.payload.Fits f.mode420 dc) (hs : Window Buffer p st.reader)
    (hdc : st.dc = fun c => Int16.ofInt (dc c)) (hc : Carries (streamBit Buffer) p (b.header ++ b.payload.text f.mode420 dc))
    (hin : (p + (b.header ++ b.payload.text f.mode420 dc).length) / 32 + 2 ≤ Buffer.length) :
    ∃ s', tileRound Buffer f st = some (TileState.record f { st with
        reader := s', dc := fun c => Int16.ofInt (b.payload.dcAfter f.mode420 dc c)
        txb := (moveBlockIndex f (b.start (st.txb, st.tyb)).1 (b.start (st.txb, st.tyb)).2).1
        tyb := (moveBlockIndex f (b.start (st.txb, st.tyb)).1 (b.start (st.txb, st.tyb)).2).2 }) ∧
      Window Buffer (p + (b.header ++ b.payload.text f.mode420 dc).length) s' := by
  obtain ⟨payload, skip⟩ := b
  obtain ⟨hplain, hskip, hcode⟩ := blockHeader_code payload
  rw [carries_append] at hc
  rw [List.length_append, ← Nat.add_assoc] at hin ⊢
  obtain ⟨hchead, hctext⟩ := hc
  cases skip with
  | none =>
    have hlen : (FrameBlock.header ⟨payload, none⟩).length = 4 := length_fieldBits _ _
    rw [hlen] at hctext hin ⊢
    have hbits : nextBits Buffer p 4 = payload.code := nextBits_of_carries (by omega) hchead
    obtain ⟨s₁, hhead, hs₁⟩ := hs.updatereadbuf (k := 4) (by norm_num) (by norm_num) (by omega)
    obtain ⟨s', htext, hs'⟩ := hs₁.payload hb hctext hin
    refine ⟨s', ?_, hs'⟩
    rw [tileRound, hs.code_eq, hbits, hplain, hdc]
    simp only [Bool.false_eq_true, if_false]
    rw [show (0x04 : ℤ) = ((4 : ℕ) : ℤ) from rfl, hhead, Option.bind_eq_bind, Option.bind_some, htext]
    rfl
  | some xy =>
    obtain ⟨x, y⟩ := xy
    have hlen : (FrameBlock.header ⟨payload, some (x, y)⟩).length = 20 := by
      simp only [FrameBlock.header, List.length_append, length_fieldBits]
    rw [hlen] at hctext hin ⊢
    simp only [FrameBlock.header, carries_append, length_fieldBits] at hchead
    obtain ⟨hccode, hcx, hcy⟩ := hchead
    have hbits : nextBits Buffer p 4 = payload.code + 0x08 := nextBits_of_carries (by omega) hccode
    have hx : ((st.reader.codebuf &&& 0x0FF00000) >>> 20).toNat = x.toNat :=
      (hs.byte_eq (n := 20) (by norm_num) rfl rfl).trans (nextBits_of_carries x.toNat_lt hcx)
    have hy : ((st.reader.codebuf &&& 0x000FF000) >>> 12).toNat = y.toNat :=
      (hs.byte_eq (n := 12) (by norm_num) rfl rfl).trans (nextBits_of_carries y.toNat_lt hcy)
    obtain ⟨s₁, hhead, hs₁⟩ := hs.updatereadbuf (k := 20) (by norm_num) (by norm_num) (by omega)
    obtain ⟨s', htext, hs'⟩ := hs₁.payload hb hctext hin
    refine ⟨s', ?_, hs'⟩
    rw [tileRound, hs.code_eq, hbits, hskip, hdc]
    simp only [if_true]
    rw [show (20 : ℤ) = ((20 : ℕ) : ℤ) from rfl, hhead, Option.bind_eq_bind, Option.bind_some, htext, hx, hy]
    rfl

/-- The end of a frame. -/
theorem tileRound_end (hs : Window Buffer p st.reader) (hc : Carries (streamBit Buffer) p (fieldBits 4 0x09)) :
    tileRound Buffer f st = some (st, false) := by
  rw [tileRound, hs.code_eq, nextBits_of_carries (by norm_num) hc]
  rfl

/-- The index of the next word. -/
theorem Window.index_le {s : ReadState} (hs : Window Buffer p s) : s.index ≤ p / 32 + 2 := by
  have := hs.index_eq
  have := hs.le_word
  omega

/-- A round that another one follows. -/
theorem tileLoop_more {n size : ℕ} {st' : TileState} (h : tileRound Buffer f st = some (st', true))
    (hindex : st'.reader.index < size) : tileLoop Buffer f size (n + 1) st = tileLoop Buffer f size n st' := by
  simp only [tileLoop, h, Option.bind_eq_bind, Option.bind_some]
  exact if_pos ⟨trivial, hindex⟩

/-- The last round. -/
theorem tileLoop_last {n size : ℕ} {st' : TileState} {goesOn : Bool} (h : tileRound Buffer f st = some (st', goesOn))
    (hstop : ¬ (goesOn = true ∧ st'.reader.index < size)) : tileLoop Buffer f size (n + 1) st = some st' := by
  simp only [tileLoop, h, Option.bind_eq_bind, Option.bind_some, if_neg hstop, Option.pure_def]

/-- **The loop over a frame** lists the changes of the positions behind its blocks. -/
theorem tileLoop_frame {bs : List FrameBlock} {dc : Component → ℤ} {done : List (ℕ × ℕ)} {prev : ℕ × ℕ} {n size : ℕ}
    (hn : bs.length < n) (hlisted : Listed f done prev st) (hfits : FrameFits f.mode420 dc bs) (hs : Window Buffer p st.reader)
    (hdc : st.dc = fun c => Int16.ofInt (dc c)) (hc : Carries (streamBit Buffer) p (frameText f.mode420 dc bs))
    (hin : (p + (frameText f.mode420 dc bs).length) / 32 + 2 ≤ Buffer.length)
    (hsize : (p + (frameText f.mode420 dc bs).length) / 32 + 2 < size) :
    ∃ st', tileLoop Buffer f size n st = some st' ∧
      Ended f (done ++ changes prev (positions f (st.txb, st.tyb) bs)) st' := by
  obtain ⟨n, rfl⟩ : ∃ m, n = m + 1 := ⟨n - 1, by omega⟩
  induction bs generalizing p st dc done prev n with
  | nil =>
    rw [frameText] at hc
    refine ⟨st, tileLoop_last (tileRound_end hs hc) (fun h => Bool.false_ne_true h.1), ?_⟩
    rw [positions, changes, List.append_nil]
    exact hlisted.ended
  | cons b bs ih =>
    rw [List.length_cons] at hn
    rw [frameText, carries_append] at hc
    rw [frameText, List.length_append, ← Nat.add_assoc] at hin hsize
    obtain ⟨s', hround, hs'⟩ := tileRound_block hfits.1 hs hdc hc.1 (by omega)
    have hindex := hs'.index_le
    rw [positions_cons]
    generalize moveBlockIndex f (b.start (st.txb, st.tyb)).1 (b.start (st.txb, st.tyb)).2 = next at hround ⊢
    generalize hst₁ : ({ st with
        reader := s', dc := fun c => Int16.ofInt (b.payload.dcAfter f.mode420 dc c), txb := next.1, tyb := next.2 } :
        TileState) = st₁ at hround
    have hlisted₁ : Listed f done prev st₁ := by
      rw [← hst₁]
      exact ⟨hlisted.prev_eq, hlisted.count, hlisted.tiles, hlisted.half⟩
    have hreader : st₁.reader = s' := by rw [← hst₁]
    have hdc₁ : st₁.dc = fun c => Int16.ofInt (b.payload.dcAfter f.mode420 dc c) := by rw [← hst₁]
    have hat : (st₁.txb, st₁.tyb) = next := by rw [← hst₁]
    obtain ⟨m, rfl⟩ : ∃ m, n = m + 1 := ⟨n - 1, by omega⟩
    by_cases hsame : prev = next
    · rw [hlisted₁.record_same (hsame.trans hat.symm)] at hround
      rw [tileLoop_more hround (by rw [hreader]; omega), changes, if_pos hsame, ← hat]
      exact ih hlisted₁ hfits.2 (hreader ▸ hs') hdc₁ hc.2 hin hsize m (by omega)
    · rw [changes, if_neg hsame]
      by_cases hroom : 2 * (done.length + 1) ≤ f.limit
      · obtain ⟨st₂, hrecord, hlisted₂, hreader₂, hdc₂, hx₂, hy₂⟩ :=
          hlisted₁.record_change (fun h => hsame (h.trans hat)) hroom
        rw [hat] at hlisted₂
        rw [hrecord] at hround
        rw [tileLoop_more hround (by rw [hreader₂, hreader]; omega)]
        obtain ⟨st', hloop, hended⟩ := ih hlisted₂ hfits.2 (by rw [hreader₂, hreader]; exact hs')
          (hdc₂.trans hdc₁) hc.2 hin hsize m (by omega)
        refine ⟨st', hloop, ?_⟩
        rw [hx₂, hy₂, hat, List.append_assoc] at hended
        exact hended
      · -- the list is cut here, whatever blocks follow
        obtain ⟨st', hrecord, hended, -⟩ := hlisted₁.record_last (fun h => hsame (h.trans hat)) (by omega)
          (changes next (positions f next bs))
        rw [hrecord] at hround
        rw [hat] at hended
        exact ⟨st', tileLoop_last hround (fun h => Bool.false_ne_true h.1), hended⟩

/-- A state of the loop that has listed nothing. -/
theorem listed_start (s : ReadState) : Listed f [] (0, 0) ⟨s, fun _ => 0, 0, 0, 0, 0, 0, []⟩ :=
  ⟨rfl, rfl, rfl, Nat.zero_le _⟩

theorem length_le_frameText {mode420 : UInt8} (dc : Component → ℤ) (bs : List FrameBlock) :
    bs.length ≤ (frameText mode420 dc bs).length := by
  induction bs generalizing dc with
  | nil => exact Nat.zero_le _
  | cons b bs ih =>
    have hheader : 1 ≤ b.header.length := by
      rw [FrameBlock.header]
      split <;> simp only [List.length_append, length_fieldBits] <;> omega
    rw [frameText, List.length_append, List.length_append, List.length_cons]
    have := ih (b.payload.dcAfter mode420 dc)
    omega

/-- A mode and a picture of 64 by 64 pixels. -/
def smallFrame : FrameInfo := ⟨0, 64, 64, 64, 64⟩

/-- A tile at the start, and a tile of one colour at a position of its own. -/
def twoBlocks : List FrameBlock :=
  [⟨.jpeg false [sampleUnit, zeroUnit, zeroUnit], none⟩, ⟨.oneColor (List.replicate 27 true), some (3, 2)⟩]

end Frame

/-! ## Any buffer -/

section Any

variable {Buffer : List UInt32} {p : ℕ} {f : FrameInfo} {st : TileState} {s : ReadState}

/-- The bits of a round at most. -/
def roundBits : ℕ := 20 + tileBits

/-- The kinds of blocks. -/
def KnownKind (h : BlockHeader) : Prop :=
  ∀ kind skip, h = .block kind skip → kind ∈ [BlockKind.jpeg, .pass2, .vq 1 0, .vq 2 1, .vq 4 2]

theorem blockHeader_kind (code : UInt32) : KnownKind (blockHeader code) := by
  unfold blockHeader
  repeat' refine iteInduction (motive := KnownKind) (fun _ => ?_) fun _ => ?_
  all_goals
    intro kind skip h
    first
    | cases h; decide
    | cases h

/-- What is behind a header is read, whatever it is. -/
theorem Window.payload_any (hs : Window Buffer p s) (mode420 : UInt8) (dc : Component → Int16) {code : UInt32} {kind : BlockKind}
    {skip : Bool} (hkind : blockHeader code = .block kind skip) (hones : NoOnes Buffer p (p + tileBits))
    (hin : (p + tileBits) / 32 + 2 ≤ Buffer.length) :
    ∃ dc' s' p', readPayload Buffer mode420 dc s kind = some (dc', s') ∧ Window Buffer p' s' ∧ p < p' ∧ p' ≤ p + tileBits := by
  have htile : tileBits = 9990 := rfl
  have hvq : ∀ colors bits, colors ≤ 4 → bits ≤ 2 → kind = .vq colors bits → 1 ≤ colors → ∃ dc' s' p',
      readPayload Buffer mode420 dc s kind = some (dc', s') ∧ Window Buffer p' s' ∧ p < p' ∧ p' ≤ p + tileBits := by
    rintro colors bits hcolors hbits rfl hpos
    obtain ⟨s', hread, hs'⟩ := hs.vq mode420 dc colors hbits (by omega)
    exact ⟨dc, s', _, hread, hs', by omega, by omega⟩
  have hmem := blockHeader_kind code kind skip hkind
  simp only [List.mem_cons, List.not_mem_nil, or_false] at hmem
  rcases hmem with rfl | rfl | h | h | h
  · obtain ⟨dc', coeff, s', p', hread, hs', hp, hp', -⟩ := decompress_reads mode420 dc hs hones hin
    exact ⟨dc', s', p', by rw [readPayload, hread]; rfl, hs', hp, hp'⟩
  · obtain ⟨dc', coeff, s', p', hread, hs', hp, hp', -⟩ := decompress_reads 0 dc hs hones hin
    exact ⟨dc', s', p', by rw [readPayload]; exact congrArg (Option.map _) hread, hs', hp, hp'⟩
  · exact hvq 1 0 (by norm_num) (by norm_num) h le_rfl
  · exact hvq 2 1 (by norm_num) (by norm_num) h (by norm_num)
  · exact hvq 4 2 (by norm_num) le_rfl h (by norm_num)

/-- **A round of any bits** consumes three to `roundBits` bits, and ends, lists a position or lists none. -/
theorem tileRound_any {done : List (ℕ × ℕ)} {prev : ℕ × ℕ} (hlisted : Listed f done prev st) (hs : Window Buffer p st.reader)
    (hones : NoOnes Buffer p (p + roundBits)) (hin : (p + roundBits) / 32 + 2 ≤ Buffer.length) :
    ∃ st' goesOn p', tileRound Buffer f st = some (st', goesOn) ∧ Window Buffer p' st'.reader ∧ p' ≤ p + roundBits ∧
      if goesOn = true then p + 3 ≤ p' ∧ ∃ done' prev', Listed f done' prev' st' else ∃ qs, Ended f qs st' := by
  have htile : tileBits = 9990 := rfl
  rw [roundBits] at hones hin ⊢
  -- what the list does with the position behind the block
  have hrecord : ∀ (st₁ : TileState) (p' : ℕ), Listed f done prev st₁ → Window Buffer p' st₁.reader → p + 3 ≤ p' →
      p' ≤ p + (20 + tileBits) → ∃ st' goesOn p'', some (st₁.record f) = some (st', goesOn) ∧ Window Buffer p'' st'.reader ∧
        p'' ≤ p + (20 + tileBits) ∧
        if goesOn = true then p + 3 ≤ p'' ∧ ∃ done' prev', Listed f done' prev' st' else ∃ qs, Ended f qs st' := by
    intro st₁ p' h₁ hs₁ hp hp'
    by_cases hsame : prev = (st₁.txb, st₁.tyb)
    · exact ⟨st₁, true, p', by rw [h₁.record_same hsame], hs₁, hp', by rw [if_pos rfl]; exact ⟨hp, done, prev, h₁⟩⟩
    · by_cases hroom : 2 * (done.length + 1) ≤ f.limit
      · obtain ⟨st₂, hrec, h₂, hreader, -, -, -⟩ := h₁.record_change hsame hroom
        exact ⟨st₂, true, p', by rw [hrec], hreader ▸ hs₁, hp', by rw [if_pos rfl]; exact ⟨hp, _, _, h₂⟩⟩
      · obtain ⟨st₂, hrec, hended, hreader⟩ := h₁.record_last hsame (by omega) []
        exact ⟨st₂, false, p', by rw [hrec], hreader ▸ hs₁, hp', by rw [if_neg Bool.false_ne_true]; exact ⟨_, hended⟩⟩
  rw [tileRound]
  rcases hheader : blockHeader ((st.reader.codebuf >>> 28) &&& 0x0F) with - | ⟨kind, skip⟩ | -
  · exact ⟨st, false, p, rfl, hs, by omega, by rw [if_neg Bool.false_ne_true]; exact ⟨_, hlisted.ended⟩⟩
  · have hhead : ∃ k, 4 ≤ k ∧ k ≤ 20 ∧ ∃ s₁, updatereadbuf Buffer (if skip = true then 20 else 0x04) st.reader = some s₁ ∧
        Window Buffer (p + k) s₁ := by
      cases skip with
      | false => exact ⟨4, by norm_num, by norm_num, hs.updatereadbuf (k := 4) (by norm_num) (by norm_num) (by omega)⟩
      | true => exact ⟨20, by norm_num, by norm_num, hs.updatereadbuf (k := 20) (by norm_num) (by norm_num) (by omega)⟩
    obtain ⟨k, hk4, hk20, s₁, hhead, hs₁⟩ := hhead
    obtain ⟨dc', s', p', hread, hs', hp, hp'⟩ := hs₁.payload_any f.mode420 st.dc hheader (hones.mono (by omega) (by omega))
      (by omega)
    simp only [hhead, hread, Option.bind_eq_bind, Option.bind_some, Option.pure_def]
    exact hrecord _ p' ⟨hlisted.prev_eq, hlisted.count, hlisted.tiles, hlisted.half⟩ hs' (by omega) (by omega)
  · obtain ⟨s₁, hhead, hs₁⟩ := hs.updatereadbuf (k := 3) (by norm_num) (by norm_num) (by omega)
    rw [show (0x03 : ℤ) = ((3 : ℕ) : ℤ) from rfl, hhead, Option.bind_eq_bind, Option.bind_some]
    exact hrecord _ (p + 3) ⟨hlisted.prev_eq, hlisted.count, hlisted.tiles, hlisted.half⟩ hs₁ le_rfl (by omega)

/-- The words that the loop may read behind the compressed ones. -/
def wordsBehind : ℕ := 315

/-- **The loop over any bits** ends. -/
theorem tileLoop_any {done : List (ℕ × ℕ)} {prev : ℕ × ℕ} {n size : ℕ} (hn : 32 * size < 3 * n + p)
    (hlisted : Listed f done prev st) (hs : Window Buffer p st.reader) (hp : p ≤ 32 * size)
    (hones : NoOnes Buffer p (32 * (size + wordsBehind))) (hin : size + wordsBehind ≤ Buffer.length) :
    ∃ st' qs, tileLoop Buffer f size n st = some st' ∧ Ended f qs st' := by
  have hround : roundBits = 10010 := rfl
  have hbehind : wordsBehind = 315 := rfl
  induction n generalizing p st done prev with
  | zero => omega
  | succ n ih =>
    obtain ⟨st', goesOn, p', hround', hs', hp', hgoes⟩ := tileRound_any hlisted hs (hones.mono le_rfl (by omega)) (by omega)
    cases goesOn with
    | false =>
      rw [if_neg Bool.false_ne_true] at hgoes
      obtain ⟨qs, hended⟩ := hgoes
      exact ⟨st', qs, tileLoop_last hround' (fun h => Bool.false_ne_true h.1), hended⟩
    | true =>
      rw [if_pos rfl] at hgoes
      obtain ⟨hp3, done', prev', hlisted'⟩ := hgoes
      by_cases hmore : st'.reader.index < size
      · have hindex := hs'.index_eq
        have hone := hs'.one_le
        rw [tileLoop_more hround' hmore]
        exact ih (by omega) hlisted' hs' (by omega) (hones.mono (by omega) le_rfl)
      · exact ⟨st', done', tileLoop_last hround' (fun h => hmore h.2), hlisted'.ended⟩

theorem nextBits_zeros (n i : ℕ) : nextBits (List.replicate n 0) i 16 ≠ 65535 := by
  intro h
  have hbit := @testBit_nextBits (List.replicate n 0) i 16 0
  have hzero : ∀ j, (List.replicate n (0 : UInt32)).getD j 0 = 0 := fun j => by
    rw [List.getD_eq_getElem?_getD, List.getElem?_replicate]
    split_ifs <;> rfl
  rw [h, streamBit, hzero, wordBit_zero, Bool.and_false] at hbit
  exact absurd hbit (by decide)

end Any

end BmcVnc
