import Mathlib.Tactic

/-!
# Rectangles for changed tiles

`frameRectFromTiles` of `vncserver.c`: the changed tiles of a frame become rectangles of the screen.

* `frameRectFromTiles`: the loop over the tiles; `tilesOf`: the tiles in the memory of `tile_info`;
* `regions`: tiles that follow each other closely, as regions with a first and a last tile;
* `represents_run`: the rectangles are those of the regions;
* `Covers`: what is expected; **`covers_iff`**: when it is met.
-/

namespace BmcVnc

/-! ## The loop -/

/-- `rectUpdate_t`. -/
structure RectUpdate where
  x : ℤ
  y : ℤ
  width : ℤ
  height : ℤ
  deriving DecidableEq, Repr

/-- `TILE_WIDTH`. -/
abbrev tileWidth : ℤ := 32

/-- `TILE_HEIGHT`. -/
abbrev tileHeight : ℤ := 32

/-- `RECT_UPDATE_SIZE`. -/
abbrev rectUpdateSize : ℕ := 72

/-- A changed tile: its row and its column. -/
structure Tile where
  y : UInt8
  x : UInt8
  deriving DecidableEq, Repr

/-- The number of changed tiles: the first two bytes. -/
def tileCount (tileInfo : ℕ → UInt8) : ℕ := (tileInfo 0).toNat + 256 * (tileInfo 1).toNat

/-- The changed tiles: a row and a column for each, from the third byte on. -/
def tilesOf (tileInfo : ℕ → UInt8) : List Tile :=
  (List.range (tileCount tileInfo)).map fun i => ⟨tileInfo (2 + 2 * i), tileInfo (2 + 2 * i + 1)⟩

/-- The loop over the rectangles from place `j` on: the place of the first that the tile is near to, or
where the rectangles end. -/
def findRect (posx posy : ℤ) (recUpdate : ℕ → RectUpdate) : ℕ → ℕ → ℕ
  | 0, j => j
  | n + 1, j =>
    let xdiff := posx - (recUpdate j).width
    if xdiff ≤ tileWidth * 2 then
      let hdiff := posy - (recUpdate j).height
      if tileHeight * 2 < hdiff then findRect posx posy recUpdate n (j + 1) else j
    else findRect posx posy recUpdate n (j + 1)

/-- The array with the rectangles, their number, and the places that were written. -/
structure RectState where
  recUpdate : ℕ → RectUpdate
  count : ℕ
  written : List ℕ

/-- A tile: a rectangle that it is near to ends with it, or it is a new rectangle. -/
def addTile (s : RectState) (t : Tile) : RectState :=
  let posx := t.x.toNat * tileWidth
  let posy := t.y.toNat * tileHeight
  let width := posx + tileWidth
  let height := posy + tileHeight
  let j := findRect posx posy s.recUpdate s.count 0
  if j = s.count then
    { recUpdate := Function.update s.recUpdate j ⟨posx, posy, width, height⟩
      count := s.count + 1
      written := s.written ++ [j] }
  else
    { s with
      recUpdate := Function.update s.recUpdate j { s.recUpdate j with width := width, height := height }
      written := s.written ++ [j] }

/-- `frameRectFromTiles`. -/
def frameRectFromTiles (tileInfo : ℕ → UInt8) (recUpdate : ℕ → RectUpdate) : RectState :=
  (tilesOf tileInfo).foldl addTile ⟨recUpdate, 0, []⟩

/-! ## What is expected -/

/-- A pixel of a rectangle that is given by two corners, in either order. -/
def RectUpdate.Contains (r : RectUpdate) (px py : ℤ) : Prop :=
  (min r.x r.width ≤ px ∧ px < max r.x r.width) ∧ (min r.y r.height ≤ py ∧ py < max r.y r.height)

/-- A pixel of a tile. -/
def Tile.Contains (t : Tile) (px py : ℤ) : Prop :=
  (t.x.toNat * tileWidth ≤ px ∧ px < t.x.toNat * tileWidth + tileWidth) ∧
    (t.y.toNat * tileHeight ≤ py ∧ py < t.y.toNat * tileHeight + tileHeight)

/-- **The rectangles cover the tiles**: no rectangle is written behind the array, and every pixel of a
changed tile is in one of the rectangles that are returned. -/
structure Covers (tiles : List Tile) (s : RectState) : Prop where
  inside : ∀ j ∈ s.written, j < rectUpdateSize
  covered : ∀ t ∈ tiles, ∀ px py, t.Contains px py → ∃ j < s.count, (s.recUpdate j).Contains px py

/-! ## Regions -/

/-- Tiles that follow each other closely: the first and the latest of them. -/
structure Region where
  first : Tile
  last : Tile
  deriving DecidableEq, Repr

/-- The tile is at most three columns and three rows behind the latest of the region, or before it. -/
def Region.Near (t : Tile) (r : Region) : Prop :=
  t.x.toNat ≤ r.last.x.toNat + 3 ∧ t.y.toNat ≤ r.last.y.toNat + 3

instance (t : Tile) : DecidablePred (Region.Near t) := fun _ => inferInstanceAs (Decidable (_ ∧ _))

/-- The place of the first region that the tile is near to. -/
def regionIdx (t : Tile) (rs : List Region) : ℕ := rs.findIdx fun r => decide (r.Near t)

/-- A tile becomes the latest of the first region that it is near to, or it is a new region. -/
def joinRegion (rs : List Region) (t : Tile) : List Region :=
  if regionIdx t rs = rs.length then rs ++ [⟨t, t⟩]
  else rs.modify (regionIdx t rs) fun r => { r with last := t }

/-- The regions of tiles in their order. -/
def regions (tiles : List Tile) : List Region := tiles.foldl joinRegion []

/-- The number `n` is from `a` to `b`, or strictly between `b` and `a`. -/
def Spanned (a b n : ℕ) : Prop := (a ≤ n ∧ n ≤ b) ∨ (b < n ∧ n < a)

/-- The tile is between the first and the latest tile of the region. -/
def Region.Spans (r : Region) (t : Tile) : Prop :=
  Spanned r.first.x.toNat r.last.x.toNat t.x.toNat ∧ Spanned r.first.y.toNat r.last.y.toNat t.y.toNat

/-- The rectangle of a region. -/
def Region.rect (r : Region) : RectUpdate where
  x := r.first.x.toNat * tileWidth
  y := r.first.y.toNat * tileHeight
  width := r.last.x.toNat * tileWidth + tileWidth
  height := r.last.y.toNat * tileHeight + tileHeight

/-- The array holds the rectangles of the regions, and nothing else was written. -/
structure Represents (s : RectState) (rs : List Region) : Prop where
  count : s.count = rs.length
  rect : ∀ j r, rs[j]? = some r → s.recUpdate j = r.rect
  written : ∀ j, j ∈ s.written ↔ j < rs.length

theorem regionIdx_cons (t : Tile) (r : Region) (rs : List Region) :
    regionIdx t (r :: rs) = if r.Near t then 0 else regionIdx t rs + 1 := by
  rw [regionIdx, List.findIdx_cons]
  by_cases h : r.Near t
  · rw [decide_eq_true h, if_pos h]
    rfl
  · rw [decide_eq_false h, if_neg h]
    rfl

theorem findRect_eq {t : Tile} {recUpdate : ℕ → RectUpdate} {rs : List Region} {j : ℕ}
    (h : ∀ i r, rs[i]? = some r → recUpdate (j + i) = r.rect) :
    findRect (t.x.toNat * tileWidth) (t.y.toNat * tileHeight) recUpdate rs.length j =
      j + regionIdx t rs := by
  induction rs generalizing j with
  | nil => rfl
  | cons r rs ih =>
    have hrect : recUpdate j = r.rect := h 0 r rfl
    have hrest : ∀ i r', rs[i]? = some r' → recUpdate (j + 1 + i) = r'.rect := by
      intro i r' hr'
      rw [show j + 1 + i = j + (i + 1) by omega]
      exact h (i + 1) r' hr'
    rw [List.length_cons, findRect, ih hrest, regionIdx_cons, hrect]
    have hx : t.x.toNat * tileWidth - r.rect.width ≤ tileWidth * 2 ↔
        t.x.toNat ≤ r.last.x.toNat + 3 := by
      simp only [Region.rect, tileWidth]
      omega
    have hy : tileHeight * 2 < t.y.toNat * tileHeight - r.rect.height ↔
        ¬ t.y.toNat ≤ r.last.y.toNat + 3 := by
      simp only [Region.rect, tileHeight]
      omega
    dsimp only
    by_cases hnear : r.Near t
    · rw [if_pos (hx.2 hnear.1), if_neg (not_not_intro hnear.2 ∘ hy.1), if_pos hnear, Nat.add_zero]
    · rw [if_neg hnear]
      split_ifs with hxd hyd
      · omega
      · exact absurd ⟨hx.1 hxd, not_not.1 (hyd ∘ hy.2)⟩ hnear
      · omega

theorem regionIdx_le (t : Tile) (rs : List Region) : regionIdx t rs ≤ rs.length := List.findIdx_le_length

/-- A tile is added to the regions as to the rectangles. -/
theorem represents_addTile {s : RectState} {rs : List Region} (h : Represents s rs) (t : Tile) :
    Represents (addTile s t) (joinRegion rs t) := by
  have hfind : findRect (t.x.toNat * tileWidth) (t.y.toNat * tileHeight) s.recUpdate s.count 0 =
      regionIdx t rs := by
    rw [h.count, findRect_eq (fun i r hr => by rw [Nat.zero_add]; exact h.rect i r hr), Nat.zero_add]
  have hle := regionIdx_le t rs
  rw [addTile, joinRegion]
  dsimp only
  rw [hfind, h.count]
  by_cases hnew : regionIdx t rs = rs.length
  · rw [if_pos hnew, if_pos hnew]
    refine ⟨by simp, fun j r hr => ?_, fun j => ?_⟩
    · dsimp only
      rw [hnew]
      rcases Nat.lt_trichotomy j rs.length with hlt | rfl | hgt
      · rw [Function.update_of_ne hlt.ne]
        exact h.rect j r (by rwa [List.getElem?_append_left hlt] at hr)
      · obtain rfl : (⟨t, t⟩ : Region) = r := by simpa using hr
        rw [Function.update_self]
        rfl
      · rw [List.getElem?_eq_none (by simp; omega)] at hr
        cases hr
    · simp only [List.mem_append, h.written, List.mem_singleton, List.length_append, List.length_singleton]
      omega
  · rw [if_neg hnew, if_neg hnew]
    refine ⟨by simp, fun j r hr => ?_, fun j => ?_⟩
    · dsimp only
      rw [List.getElem?_modify] at hr
      obtain ⟨r', hr', rfl⟩ := Option.map_eq_some_iff.1 hr
      by_cases hj : regionIdx t rs = j
      · rw [hj, Function.update_self, if_pos rfl, h.rect j r' hr']
        rfl
      · rw [if_neg hj, Function.update_of_ne (Ne.symm hj)]
        exact h.rect j r' hr'
    · simp only [List.mem_append, h.written, List.mem_singleton, List.length_modify]
      omega

theorem represents_run {s : RectState} {rs : List Region} (h : Represents s rs) (tiles : List Tile) :
    Represents (tiles.foldl addTile s) (tiles.foldl joinRegion rs) := by
  induction tiles generalizing s rs with
  | nil => exact h
  | cons t tiles ih => exact ih (represents_addTile h t)

/-- **The rectangles are those of the regions.** -/
theorem represents_frame (tileInfo : ℕ → UInt8) (recUpdate : ℕ → RectUpdate) :
    Represents (frameRectFromTiles tileInfo recUpdate) (regions (tilesOf tileInfo)) :=
  represents_run ⟨rfl, by simp, by simp⟩ _

/-! ## Coverage -/

/-- A row or a column of pixels of the tile `n` is in the rectangle of the tiles from `a` to `b`. -/
theorem spanned_iff {a b n : ℕ} {p : ℤ} (h : n * 32 ≤ p ∧ p < n * 32 + 32) :
    (min (a * 32 : ℤ) (b * 32 + 32) ≤ p ∧ p < max (a * 32 : ℤ) (b * 32 + 32)) ↔ Spanned a b n := by
  unfold Spanned
  omega

theorem contains_rect_iff {r : Region} {t : Tile} {px py : ℤ} (h : t.Contains px py) :
    r.rect.Contains px py ↔ r.Spans t :=
  and_congr (spanned_iff h.1) (spanned_iff h.2)

theorem contains_corner (t : Tile) : t.Contains (t.x.toNat * tileWidth) (t.y.toNat * tileHeight) :=
  ⟨⟨le_rfl, lt_add_of_pos_right _ (by decide)⟩, ⟨le_rfl, lt_add_of_pos_right _ (by decide)⟩⟩

/-- **When the rectangles cover the tiles.** There must be room for a rectangle for each region, and every
tile must be between the first and the latest tile of a region. -/
theorem covers_iff (tileInfo : ℕ → UInt8) (recUpdate : ℕ → RectUpdate) :
    Covers (tilesOf tileInfo) (frameRectFromTiles tileInfo recUpdate) ↔
      (regions (tilesOf tileInfo)).length ≤ rectUpdateSize ∧
        ∀ t ∈ tilesOf tileInfo, ∃ r ∈ regions (tilesOf tileInfo), r.Spans t := by
  have h := represents_frame tileInfo recUpdate
  constructor
  · intro hc
    refine ⟨?_, fun t ht => ?_⟩
    · by_contra hlong
      exact absurd (hc.inside _ ((h.written rectUpdateSize).2 (Nat.not_le.1 hlong))) (Nat.lt_irrefl _)
    · obtain ⟨j, hj, hin⟩ := hc.covered t ht _ _ (contains_corner t)
      rw [h.count] at hj
      rw [h.rect j _ (List.getElem?_eq_getElem hj), contains_rect_iff (contains_corner t)] at hin
      exact ⟨_, List.getElem_mem hj, hin⟩
  · rintro ⟨hlen, hspan⟩
    refine ⟨fun j hj => ((h.written j).1 hj).trans_le hlen, fun t ht px py hp => ?_⟩
    obtain ⟨r, hr, hin⟩ := hspan t ht
    obtain ⟨j, hj, rfl⟩ := List.getElem_of_mem hr
    refine ⟨j, h.count ▸ hj, ?_⟩
    rw [h.rect j _ (List.getElem?_eq_getElem hj), contains_rect_iff hp]
    exact hin

/-- Two changed tiles: column 5 of the first row, and column 0 of the second. -/
def twoTiles (i : ℕ) : UInt8 := [2, 0, 0, 5, 1, 0].getD i 0

/-- The rectangle of these tiles ends left of where it starts. -/
theorem not_covers_twoTiles : ¬ ∀ (tileInfo : ℕ → UInt8) (recUpdate : ℕ → RectUpdate),
    Covers (tilesOf tileInfo) (frameRectFromTiles tileInfo recUpdate) := by
  intro h
  have hcount : (frameRectFromTiles twoTiles fun _ => ⟨0, 0, 0, 0⟩).count = 1 := by decide
  have hrect : (frameRectFromTiles twoTiles fun _ => ⟨0, 0, 0, 0⟩).recUpdate 0 = ⟨160, 0, 32, 64⟩ := by
    decide
  obtain ⟨j, hj, hin⟩ := (h twoTiles fun _ => ⟨0, 0, 0, 0⟩).covered ⟨0, 5⟩ (by decide) 160 0
    (contains_corner ⟨0, 5⟩)
  rw [hcount, Nat.lt_one_iff] at hj
  rw [hj, hrect] at hin
  exact absurd hin.1.2 (by decide)

end BmcVnc
