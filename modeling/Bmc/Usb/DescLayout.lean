import Bmc.Usb.DescBuild
import Bmc.Usb.DescLookup

/-!
# A buffer of descriptors

What the lookups find in a buffer that is filled with descriptors.

* `Layout`: the buffer holds the descriptors of a list, one behind the other;
* `Layout.search`: a walk over such a buffer ends at the first descriptor it looks for;
* **`Layout.readConfigDesc`**, `Layout.readInterfaceDesc`, `Layout.readFirstEndpoint`, `Layout.readEndpointDesc`,
  `Layout.readConfigDescSize`: the results of the lookups.
-/

namespace BmcUsb

open BmcLib

/-! ## Descriptors by their bytes -/

namespace Descriptor

/-- `sizeof` the descriptor -/
def size (k : Descriptor) : ℕ := k.bytes.length

/-- A byte of a descriptor. -/
def byte (k : Descriptor) (j : ℕ) : UInt8 := k.bytes.getD j 0

/-- The bytes that are written again: the number of configurations and, for full speed, the version and the packet sizes. -/
def patched : Descriptor → List ℕ
  | device .. => [2, 3, 7, 17]
  | endpoint .. => [4, 5]
  | _ => []

/-- A byte that stays as it was added. -/
def Fixed (k : Descriptor) (j : ℕ) : Prop := j < k.size ∧ j ∉ k.patched

/-- A configuration. -/
def anyConfig : Descriptor → Bool
  | config .. => true
  | _ => false

/-- The configuration of a value. -/
def isConfig (v : UInt8) : Descriptor → Bool
  | config _ _ value _ => value = v
  | _ => false

/-- An interface of a number. -/
def isInterface (i : UInt8) : Descriptor → Bool
  | interface num .. => num = i
  | _ => false

/-- A configuration or an interface. -/
def boundary : Descriptor → Bool
  | config .. => true
  | interface .. => true
  | _ => false

/-- An endpoint. -/
def anyEndpoint : Descriptor → Bool
  | endpoint .. => true
  | _ => false

/-- An endpoint of a number and a direction. -/
def isEndpoint (n : UInt8) (d : EpDir) : Descriptor → Bool
  | endpoint num dir .. => num = n && dir = d
  | _ => false

/-- An endpoint whose address is read as this number and this direction. -/
def hasAddress (n d : UInt8) (k : Descriptor) : Bool :=
  k.anyEndpoint && ((k.byte 2 &&& 0x0F) = n && (k.byte 2 &&& (0x80 : UInt8)) = d <<< 7)

variable (k : Descriptor)

theorem seven_le_size : 7 ≤ k.size := by cases k <;> simp [size, bytes, wordBytes]

theorem size_pos : 0 < k.size := lt_of_lt_of_le (by decide) k.seven_le_size

/-- The first byte is the size, and the second one the type. -/
theorem byte_zero : (k.byte 0).toNat = k.size := by cases k <;> rfl

theorem fixed_zero : k.Fixed 0 := ⟨k.size_pos, by cases k <;> simp [patched]⟩

theorem fixed_one : k.Fixed 1 := ⟨lt_of_lt_of_le (by decide) k.seven_le_size, by cases k <;> simp [patched]⟩

theorem anyConfig_eq : k.anyConfig = decide (k.byte 1 = configuration) := by cases k <;> rfl

theorem anyEndpoint_eq : k.anyEndpoint = decide (k.byte 1 = BmcUsb.endpoint) := by cases k <;> rfl

theorem isConfig_eq (v : UInt8) : k.isConfig v = (decide (k.byte 1 = configuration) && decide (k.byte 5 = v)) := by
  cases k <;> rfl

theorem isInterface_eq (i : UInt8) : k.isInterface i = (decide (k.byte 1 = BmcUsb.interface) && decide (k.byte 2 = i)) := by
  cases k <;> rfl

theorem anyConfig_of_isConfig {k : Descriptor} {v : UInt8} (h : k.isConfig v = true) : k.anyConfig = true := by
  cases k <;> first | rfl | exact absurd h Bool.false_ne_true

theorem lt_size_of_patched {k : Descriptor} {j : ℕ} (h : j ∈ k.patched) : j < k.size := by
  cases k with
  | device =>
    simp only [patched, List.mem_cons, List.not_mem_nil, or_false] at h
    change j < 18
    omega
  | endpoint =>
    simp only [patched, List.mem_cons, List.not_mem_nil, or_false] at h
    change j < 7
    omega
  | _ => exact absurd h List.not_mem_nil

/-- Only endpoints and devices are written again. -/
theorem fixed_of_type {k : Descriptor} (hd : k.byte 1 ≠ BmcUsb.device) (he : k.byte 1 ≠ BmcUsb.endpoint) {j : ℕ}
    (hj : j < 7) :
    k.Fixed j := by
  refine ⟨lt_of_lt_of_le hj k.seven_le_size, ?_⟩
  cases k with
  | device => exact absurd rfl hd
  | endpoint => exact absurd rfl he
  | _ => exact List.not_mem_nil

theorem fixed_config {k : Descriptor} (h : k.byte 1 = configuration) {j : ℕ} (hj : j < 7) : k.Fixed j :=
  fixed_of_type (by rw [h]; decide) (by rw [h]; decide) hj

theorem fixed_interface {k : Descriptor} (h : k.byte 1 = BmcUsb.interface) {j : ℕ} (hj : j < 7) : k.Fixed j :=
  fixed_of_type (by rw [h]; decide) (by rw [h]; decide) hj

theorem fixed_endpoint_two {k : Descriptor} (h : k.byte 1 = BmcUsb.endpoint) : k.Fixed 2 := by
  refine ⟨lt_of_lt_of_le (by decide) k.seven_le_size, ?_⟩
  cases k with
  | device => exact absurd h (show BmcUsb.device ≠ BmcUsb.endpoint by decide)
  | endpoint => simp [patched]
  | _ => exact List.not_mem_nil

/-- What is written again in a device descriptor. -/
theorem patched_of_device {k : Descriptor} (h : k.byte 1 = BmcUsb.device) : k.patched = [2, 3, 7, 17] := by
  cases k with
  | device => rfl
  | config => exact absurd h (show configuration ≠ BmcUsb.device by decide)
  | interface => exact absurd h (show BmcUsb.interface ≠ BmcUsb.device by decide)
  | hid => exact absurd h (show hidDesc ≠ BmcUsb.device by decide)
  | endpoint => exact absurd h (show BmcUsb.endpoint ≠ BmcUsb.device by decide)

theorem patched_of_endpoint {k : Descriptor} (h : k.anyEndpoint = true) : k.patched = [4, 5] := by
  cases k with
  | endpoint => rfl
  | _ => exact absurd h Bool.false_ne_true

end Descriptor

/-! ## The buffer -/

/-- Where a descriptor begins. -/
abbrev descPos (ks : List Descriptor) (p : ℕ) : ℕ := recordPos Descriptor.size ks p

/-- What holds of the descriptor at a position. -/
def atPos (f : Descriptor → Bool) (ks : List Descriptor) (p : ℕ) : Bool := (ks[p]?).any f

/-- The descriptors lie in a memory, one behind the other. -/
def Stored (mem : ℕ → UInt8) (ks : List Descriptor) : Prop :=
  ∀ p, ∀ h : p < ks.length, ∀ j, ks[p].Fixed j → mem (descPos ks p + j) = ks[p].byte j

/-- The buffer holds the descriptors and nothing else. -/
structure Layout (t : DescTable) (ks : List Descriptor) : Prop where
  fills : descPos ks ks.length = t.descSize.toNat
  holds : Stored t.descBuff ks

/-- The place of the descriptor at a position, if it is the right one. -/
def foundAt (ks : List Descriptor) (f : Descriptor → Bool) (p : ℕ) : Option ℕ :=
  if atPos f ks p = true then some (descPos ks p) else none

section Layout

variable {t : DescTable} {ks : List Descriptor} {f g : Descriptor → Bool} {p q : ℕ}

theorem atPos_of_lt (h : p < ks.length) : atPos f ks p = f ks[p] := by
  rw [atPos, List.getElem?_eq_getElem h]
  rfl

theorem atPos_iff : atPos f ks p = true ↔ ∃ h : p < ks.length, f ks[p] = true := by
  by_cases h : p < ks.length
  · rw [atPos_of_lt h]
    exact ⟨fun hf => ⟨h, hf⟩, fun hf => hf.2⟩
  · rw [atPos, List.getElem?_eq_none (not_lt.1 h)]
    exact iff_of_false Bool.false_ne_true fun hf => h hf.1

theorem lt_of_atPos (h : atPos f ks p = true) : p < ks.length := (atPos_iff.1 h).1

theorem atPos_mono (hfg : ∀ k, f k = true → g k = true) (h : atPos f ks p = true) : atPos g ks p = true := by
  obtain ⟨hp, hf⟩ := atPos_iff.1 h
  exact atPos_iff.2 ⟨hp, hfg _ hf⟩

theorem descPos_inj (hp : p ≤ ks.length) (hq : q ≤ ks.length) (h : descPos ks p = descPos ks q) : p = q :=
  recordPos_inj Descriptor.size_pos hp hq h

/-- The end of a descriptor is not behind the beginning of a later one. -/
theorem add_size_le (hpq : p < q) (hq : q ≤ ks.length) : descPos ks p + ks[p].size ≤ descPos ks q := by
  have hnext : descPos ks (p + 1) = descPos ks p + ks[p].size := recordPos_succ (hpq.trans_le hq)
  rw [← hnext]
  exact recordPos_le Descriptor.size_pos hpq hq

/-- Bytes that are written again may change. -/
theorem Stored.store {mem : ℕ → UInt8} (h : Stored mem ks) (hp : p < ks.length) {j : ℕ} {l : List UInt8}
    (hl : ∀ i < l.length, j + i ∈ ks[p].patched) : Stored (store mem (descPos ks p + j) l) ks := by
  rcases Nat.eq_zero_or_pos l.length with hzero | hpos
  · rw [List.length_eq_zero_iff.1 hzero, store_nil]
    exact h
  have hlast := Descriptor.lt_size_of_patched (hl (l.length - 1) (Nat.sub_one_lt_of_lt hpos))
  intro q hq i hi
  rw [← h q hq i hi]
  rcases lt_trichotomy q p with hqp | rfl | hpq
  · have hle := add_size_le hqp hp.le
    have hlt := hi.1
    exact store_apply_lt (by omega)
  · rcases Nat.lt_or_ge i j with hij | hji
    · exact store_apply_lt (by omega)
    · refine store_apply_ge (not_lt.1 fun hlt => hi.2 ?_)
      have hpatched := hl (i - j) (by omega)
      rwa [Nat.add_sub_cancel' hji] at hpatched
  · have hle := add_size_le hpq hq.le
    exact store_apply_ge (by omega)

/-- The length byte of a descriptor leads to the next one. -/
theorem add_length (hp : p < ks.length) : descPos ks p + (ks[p].byte 0).toNat = descPos ks (p + 1) := by
  rw [Descriptor.byte_zero]
  exact (recordPos_succ hp).symm

theorem orElse_atPos {a b : ℕ → Option Bool} (ha : a (descPos ks p) = some (atPos f ks p))
    (hb : b (descPos ks p) = some (atPos g ks p))
    (hp : p < ks.length) : DescTable.orElse a b (descPos ks p) = some (atPos (fun k => f k || g k) ks p) := by
  rw [DescTable.orElse, ha, Option.bind_some, hb, atPos_of_lt hp, atPos_of_lt hp, atPos_of_lt hp]
  cases f ks[p] <;> rfl

namespace Layout

variable (L : Layout t ks)
include L

/-- A byte of a descriptor lies in the buffer. -/
theorem lt_descSize (hp : p < ks.length) {j : ℕ} (hj : j < ks[p].size) : descPos ks p + j < t.descSize.toNat := by
  rw [← L.fills]
  exact lt_of_lt_of_le (Nat.add_lt_add_left hj _) (add_size_le hp (le_refl _))

theorem read (hp : p < ks.length) {j : ℕ} (hj : ks[p].Fixed j) : t.read (descPos ks p + j) = some (ks[p].byte j) := by
  rw [DescTable.read, if_pos (L.lt_descSize hp hj.1), L.holds p hp j hj]

theorem read_length (hp : p < ks.length) : t.read (descPos ks p) = some (ks[p].byte 0) := L.read hp (j := 0) ks[p].fixed_zero

/-- A condition on the type and on a field. -/
theorem check {type : UInt8} {field : ℕ} {c : UInt8 → Bool} (hfixed : ∀ k : Descriptor, k.byte 1 = type → k.Fixed field)
    (hf : ∀ k : Descriptor, f k = (decide (k.byte 1 = type) && c (k.byte field))) (hp : p < ks.length) :
    t.check type field c (descPos ks p) = some (atPos f ks p) := by
  rw [DescTable.check, L.read hp ks[p].fixed_one, Option.bind_some, atPos_of_lt hp, hf]
  by_cases htype : ks[p].byte 1 = type
  · rw [if_pos htype, L.read hp (hfixed _ htype), decide_eq_true htype, Bool.true_and]
    rfl
  · rw [if_neg htype, decide_eq_false htype, Bool.false_and]

/-- A condition on the type. -/
theorem checkType {c : UInt8 → Bool} (hf : ∀ k : Descriptor, f k = c (k.byte 1)) (hp : p < ks.length) :
    t.checkType c (descPos ks p) = some (atPos f ks p) := by
  rw [DescTable.checkType, L.read hp ks[p].fixed_one, atPos_of_lt hp, hf]
  rfl

/-- A walk ends at the first descriptor that stops it. -/
theorem readSeek {stop : ℕ → Option Bool} (hstop : ∀ p < ks.length, stop (descPos ks p) = some (atPos f ks p))
    (h : FirstFrom (fun x => atPos f ks x = true) ks.length q p) : t.readSeek stop (descPos ks q) = some (descPos ks p) := by
  refine walk_records Descriptor.size_pos L.fills hstop (fun x hx => ?_) h (Nat.le_add_right _ _)
  rw [L.read_length hx, Option.map_some, add_length hx]

/-- **A search** finds the first descriptor that stops it, if it is the right one. -/
theorem search {stop wanted : ℕ → Option Bool} (hstop : ∀ p < ks.length, stop (descPos ks p) = some (atPos f ks p))
    (hwanted : ∀ p < ks.length, wanted (descPos ks p) = some (atPos g ks p))
    (h : FirstFrom (fun x => atPos f ks x = true) ks.length q p) :
    (t.readSeek stop (descPos ks q)).bind (t.readFound wanted) = some (foundAt ks g p) := by
  rw [L.readSeek hstop h, Option.bind_some, DescTable.readFound, foundAt]
  rcases h.le_end.eq_or_lt with rfl | hp
  · have hout : ¬ descPos ks ks.length < t.descSize.toNat := by
      rw [L.fills]
      exact lt_irrefl _
    rw [if_neg hout, if_neg fun hg => absurd (lt_of_atPos hg) (lt_irrefl _)]
  · have hin := L.lt_descSize hp ks[p].size_pos
    rw [Nat.add_zero] at hin
    rw [if_pos hin, hwanted p hp]
    rfl

/-- Bytes that are written again may change. -/
theorem patch (hp : p < ks.length) {j : ℕ} {l : List UInt8} (hl : ∀ i < l.length, j + i ∈ ks[p].patched) :
    Layout { t with descBuff := store t.descBuff (descPos ks p + j) l } ks :=
  ⟨L.fills, L.holds.store hp hl⟩

/-! ## The lookups -/

theorem isConfig (v : UInt8) (p : ℕ) (hp : p < ks.length) :
    t.isConfig v (descPos ks p) = some (atPos (Descriptor.isConfig v) ks p) :=
  L.check (fun _ h => Descriptor.fixed_config h (by decide)) (fun k => k.isConfig_eq v) hp

theorem isInterface (i : UInt8) (p : ℕ) (hp : p < ks.length) :
    t.isInterface i (descPos ks p) = some (atPos (Descriptor.isInterface i) ks p) :=
  L.check (fun _ h => Descriptor.fixed_interface h (by decide)) (fun k => k.isInterface_eq i) hp

theorem isEndpoint (n d : UInt8) (p : ℕ) (hp : p < ks.length) :
    t.isEndpoint n d (descPos ks p) = some (atPos (Descriptor.hasAddress n d) ks p) :=
  L.check (fun _ h => Descriptor.fixed_endpoint_two h) (fun k => by rw [Descriptor.hasAddress, Descriptor.anyEndpoint_eq]) hp

theorem anyConfig (p : ℕ) (hp : p < ks.length) :
    t.checkType (fun ty => ty = configuration) (descPos ks p) = some (atPos Descriptor.anyConfig ks p) :=
  L.checkType Descriptor.anyConfig_eq hp

theorem anyEndpoint (p : ℕ) (hp : p < ks.length) :
    t.checkType (fun ty => ty = endpoint) (descPos ks p) = some (atPos Descriptor.anyEndpoint ks p) :=
  L.checkType Descriptor.anyEndpoint_eq hp

theorem notEndpoint (p : ℕ) (hp : p < ks.length) :
    t.checkType (fun ty => ty ≠ endpoint) (descPos ks p) = some (atPos (fun k => !k.anyEndpoint) ks p) :=
  L.checkType (fun k => by rw [Descriptor.anyEndpoint_eq, decide_not]) hp

/-- **`GetConfigDesc`** finds the first configuration of the value behind the first descriptor. -/
theorem readConfigDesc {v : UInt8} (hne : 0 < ks.length)
    (h : FirstFrom (fun x => atPos (Descriptor.isConfig v) ks x = true) ks.length 1 p) :
    t.readConfigDesc v = some (foundAt ks (Descriptor.isConfig v) p) := by
  have hfirst : descPos ks 1 = (ks[0].byte 0).toNat := by
    rw [← add_length hne]
    exact Nat.zero_add _
  rw [DescTable.readConfigDesc, show t.read 0 = some (ks[0].byte 0) from L.read_length hne, Option.bind_some, ← hfirst]
  exact L.search (L.isConfig v) (L.isConfig v) h

/-- `GetInterfaceDesc` finds the first interface of the number in its configuration. -/
theorem readInterfaceDesc {v i : UInt8} {c : ℕ} (hc : c < ks.length) (hcfg : t.readConfigDesc v = some (some (descPos ks c)))
    (h : FirstFrom (fun x => atPos (fun k => k.isInterface i || k.anyConfig) ks x = true) ks.length (c + 1) p) :
    t.readInterfaceDesc v i = some (foundAt ks (Descriptor.isInterface i) p) := by
  rw [DescTable.readInterfaceDesc, hcfg, Option.bind_some]
  dsimp only
  rw [L.read_length hc, Option.bind_some, add_length hc]
  exact L.search (fun x hx => orElse_atPos (L.isInterface i x hx) (L.anyConfig x hx) hx) (L.isInterface i) h

/-- The byte `bNumEndpoints`. -/
theorem read_numEndpoints {i : UInt8} (hq : q < ks.length) (hi : atPos (Descriptor.isInterface i) ks q = true) :
    t.read (descPos ks q + 4) = some (ks[q].byte 4) := by
  rw [atPos_of_lt hq, Descriptor.isInterface_eq, Bool.and_eq_true, decide_eq_true_eq] at hi
  exact L.read hq (Descriptor.fixed_interface hi.1 (by decide))

/-- `GetFirstEndpointDescIndex` finds the first endpoint behind the interface, in whichever interface it lies. -/
theorem readFirstEndpoint {v i : UInt8} (hq : q < ks.length) (hi : atPos (Descriptor.isInterface i) ks q = true)
    (hiface : t.readInterfaceDesc v i = some (some (descPos ks q)))
    (h : FirstFrom (fun x => atPos Descriptor.anyEndpoint ks x = true) ks.length (q + 1) p) :
    t.readFirstEndpoint v i = some (if ks[q].byte 4 = 0 then none else foundAt ks Descriptor.anyEndpoint p) := by
  have hnum := L.read_numEndpoints hq hi
  rw [DescTable.readFirstEndpoint, hiface, Option.bind_some]
  dsimp only
  rw [hnum, Option.bind_some]
  split_ifs
  · rfl
  · rw [L.read_length hq, Option.bind_some, add_length hq]
    exact L.search L.anyEndpoint L.anyEndpoint h

/-- `GetEndpointDesc` finds the first endpoint of the address in the row of endpoints. -/
theorem readEndpointDesc {v i n d : UInt8} (hfirst : t.readFirstEndpoint v i = some (some (descPos ks q)))
    (h : FirstFrom (fun x => atPos (fun k => k.hasAddress n d || !k.anyEndpoint) ks x = true) ks.length q p) :
    t.readEndpointDesc v i n d = some (foundAt ks (Descriptor.hasAddress n d) p) := by
  rw [DescTable.readEndpointDesc, hfirst, Option.bind_some]
  exact L.search (fun x hx => orElse_atPos (L.isEndpoint n d x hx) (L.notEndpoint x hx) hx) (L.isEndpoint n d) h

/-- `GetConfigDescSize` measures to the next configuration. -/
theorem readConfigDescSize {v : UInt8} {c : ℕ} (hc : c < ks.length) (hcfg : t.readConfigDesc v = some (some (descPos ks c)))
    (h : FirstFrom (fun x => atPos Descriptor.anyConfig ks x = true) ks.length (c + 1) p) :
    t.readConfigDescSize v = some (UInt16.ofNat (descPos ks p - descPos ks c)) := by
  rw [DescTable.readConfigDescSize, hcfg, Option.bind_some]
  dsimp only
  rw [L.read_length hc, Option.bind_some, add_length hc, L.readSeek L.anyConfig h]
  rfl

end Layout

end Layout

end BmcUsb
