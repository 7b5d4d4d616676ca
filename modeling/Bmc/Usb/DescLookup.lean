import Bmc.Lib.Records
import Bmc.Usb.Descriptors

/-!
# Descriptor lookups with checked reads

The lookups of `descriptors.c` once more, with reads that fail outside of the descriptor buffer and walks that fail when they
do not end. A walk that ends takes fewer rounds than the buffer has bytes, because each round that goes on leads further.

* `readConfigDesc`, `readInterfaceDesc`, `readFirstEndpoint`, `readEndpointDesc`, `readConfigDescSize`;
* **`getConfigDesc_of_read`** and its companions: a lookup that succeeds gives what the lookup without checks gives.
-/

namespace BmcUsb

open BmcLib

namespace DescTable

variable (t : DescTable)

/-- A read of the descriptor buffer. -/
def read (index : ℕ) : Option UInt8 := if index < t.descSize.toNat then some (t.descBuff index) else none

/-- The type of a descriptor, and then one of its fields. The field is read when the type is the right one. -/
def check (type : UInt8) (field : ℕ) (f : UInt8 → Bool) (index : ℕ) : Option Bool :=
  (t.read (index + 1)).bind fun ty => if ty = type then (t.read (index + field)).map f else some false

/-- The type of a descriptor. -/
def checkType (f : UInt8 → Bool) (index : ℕ) : Option Bool := (t.read (index + 1)).map f

/-- The first condition, and when it does not hold the second one. -/
def orElse (a b : ℕ → Option Bool) (index : ℕ) : Option Bool := (a index).bind fun x => if x then some true else b index

/-- The walk from descriptor to descriptor. -/
def readSeek (stop : ℕ → Option Bool) (index : ℕ) : Option ℕ :=
  walk stop (fun i => (t.read i).map fun len => i + len.toNat) t.descSize.toNat t.descSize.toNat index

/-- Where a walk found what it was looking for. -/
def readFound (wanted : ℕ → Option Bool) (index : ℕ) : Option (Option ℕ) :=
  if index < t.descSize.toNat then (wanted index).map fun b => if b then some index else none else some none

/-- `bConfigurationValue` -/
def isConfig (v : UInt8) : ℕ → Option Bool := t.check configuration 5 fun b => b = v

/-- `bInterfaceNumber` -/
def isInterface (i : UInt8) : ℕ → Option Bool := t.check interface 2 fun b => b = i

/-- `bEndpointAddress` -/
def isEndpoint (num dir : UInt8) : ℕ → Option Bool :=
  t.check endpoint 2 fun b => (b &&& 0x0F) = num && (b &&& (0x80 : UInt8)) = dir <<< 7

/-- `GetConfigDesc` -/
def readConfigDesc (configIndex : UInt8) : Option (Option ℕ) :=
  (t.read 0).bind fun len =>
    (t.readSeek (t.isConfig configIndex) len.toNat).bind (t.readFound (t.isConfig configIndex))

/-- `GetInterfaceDesc` -/
def readInterfaceDesc (configIndex ifaceIndex : UInt8) : Option (Option ℕ) :=
  (t.readConfigDesc configIndex).bind fun
    | none => some none
    | some cfg => (t.read cfg).bind fun len =>
      (t.readSeek (orElse (t.isInterface ifaceIndex) (t.checkType fun ty => ty = configuration)) (cfg + len.toNat)).bind
        (t.readFound (t.isInterface ifaceIndex))

/-- `GetFirstEndpointDescIndex` -/
def readFirstEndpoint (configIndex ifaceIndex : UInt8) : Option (Option ℕ) :=
  (t.readInterfaceDesc configIndex ifaceIndex).bind fun
    | none => some none
    | some iface => (t.read (iface + 4)).bind fun num =>
      if num = 0 then some none
      else (t.read iface).bind fun len =>
        (t.readSeek (t.checkType fun ty => ty = endpoint) (iface + len.toNat)).bind
          (t.readFound (t.checkType fun ty => ty = endpoint))

/-- `GetEndpointDesc` -/
def readEndpointDesc (configIndex ifaceIndex endPointNum epDir : UInt8) : Option (Option ℕ) :=
  (t.readFirstEndpoint configIndex ifaceIndex).bind fun
    | none => some none
    | some first =>
      (t.readSeek (orElse (t.isEndpoint endPointNum epDir) (t.checkType fun ty => ty ≠ endpoint)) first).bind
        (t.readFound (t.isEndpoint endPointNum epDir))

/-- `GetConfigDescSize` -/
def readConfigDescSize (configIndex : UInt8) : Option UInt16 :=
  (t.readConfigDesc configIndex).bind fun
    | none => some 0
    | some cfg => (t.read cfg).bind fun len =>
      (t.readSeek (t.checkType fun ty => ty = configuration) (cfg + len.toNat)).map fun i => UInt16.ofNat (i - cfg)

/-! ## The lookups without checks -/

section Agree

variable {t}

theorem eq_of_read {i : ℕ} {b : UInt8} (h : t.read i = some b) : t.descBuff i = b := by
  rw [read] at h
  split_ifs at h
  exact Option.some.inj h

/-- A checked condition agrees with one that reads without checks. -/
def Agrees (a : ℕ → Option Bool) (c : ℕ → Bool) : Prop := ∀ i b, a i = some b → c i = b

theorem check_agrees (type : UInt8) (field : ℕ) (f : UInt8 → Bool) :
    Agrees (t.check type field f) fun i => t.type i = type && f (t.descBuff (i + field)) := by
  intro i b h
  obtain ⟨ty, hty, h⟩ := Option.bind_eq_some_iff.1 h
  have htype : t.type i = ty := eq_of_read hty
  dsimp only
  split_ifs at h with heq
  · obtain ⟨x, hx, hb⟩ := Option.map_eq_some_iff.1 h
    rw [htype, decide_eq_true heq, eq_of_read hx, hb, Bool.true_and]
  · rw [htype, decide_eq_false heq, Bool.false_and]
    exact Option.some.inj h

theorem checkType_agrees (f : UInt8 → Bool) : Agrees (t.checkType f) fun i => f (t.type i) := by
  intro i b h
  obtain ⟨ty, hty, hb⟩ := Option.map_eq_some_iff.1 h
  have htype : t.type i = ty := eq_of_read hty
  dsimp only
  rw [htype, hb]

theorem Agrees.orElse {a a' : ℕ → Option Bool} {c c' : ℕ → Bool} (h : Agrees a c) (h' : Agrees a' c') :
    Agrees (DescTable.orElse a a') fun i => c i || c' i := by
  intro i b hi
  obtain ⟨x, hx, hi⟩ := Option.bind_eq_some_iff.1 hi
  dsimp only
  rw [h i x hx]
  cases x with
  | true => exact Option.some.inj hi
  | false => exact h' i b hi

/-- A walk that succeeds, and what it finds, are those of the walk without checks. -/
theorem seek_of_readSeek {a : ℕ → Option Bool} {c : ℕ → Bool} (h : Agrees a c) {i j : ℕ}
    (hj : t.readSeek a i = some j) :
    t.seek c i = j := by
  refine whileN_of_walk h (fun k l hl => ?_) hj
  obtain ⟨len, hlen, rfl⟩ := Option.map_eq_some_iff.1 hl
  rw [eq_of_read hlen]

theorem found_of_readFound {a : ℕ → Option Bool} {c : ℕ → Bool} (h : Agrees a c) {i : ℕ} {r : Option ℕ}
    (hr : t.readFound a i = some r) : t.found c i = r := by
  rw [readFound] at hr
  rw [found]
  split_ifs at hr with hi
  · obtain ⟨b, hb, hr⟩ := Option.map_eq_some_iff.1 hr
    rw [h i b hb, decide_eq_true hi, Bool.true_and, hr]
  · rw [decide_eq_false hi, Bool.false_and]
    exact Option.some.inj hr

/-- A search that succeeds is the search without checks. -/
theorem search_of_read {a w : ℕ → Option Bool} {c c' : ℕ → Bool} (ha : Agrees a c) (hw : Agrees w c') {i : ℕ}
    {r : Option ℕ} (h : (t.readSeek a i).bind (t.readFound w) = some r) : t.found c' (t.seek c i) = r := by
  obtain ⟨j, hj, hr⟩ := Option.bind_eq_some_iff.1 h
  rw [seek_of_readSeek ha hj]
  exact found_of_readFound hw hr

/-- **A lookup that succeeds** gives what the lookup without checks gives. -/
theorem getConfigDesc_of_read {v : UInt8} {r : Option ℕ} (h : t.readConfigDesc v = some r) : t.getConfigDesc v = r := by
  obtain ⟨len, hlen, h⟩ := Option.bind_eq_some_iff.1 h
  rw [getConfigDesc, eq_of_read hlen]
  have hagrees := check_agrees (t := t) configuration 5 fun b => b = v
  exact search_of_read hagrees hagrees h

theorem getInterfaceDesc_of_read {v i : UInt8} {r : Option ℕ} (h : t.readInterfaceDesc v i = some r) :
    t.getInterfaceDesc v i = r := by
  obtain ⟨cfg, hcfg, h⟩ := Option.bind_eq_some_iff.1 h
  rw [getInterfaceDesc, getConfigDesc_of_read hcfg]
  cases cfg with
  | none => exact Option.some.inj h
  | some cfg =>
    obtain ⟨len, hlen, h⟩ := Option.bind_eq_some_iff.1 h
    dsimp only
    rw [eq_of_read hlen]
    have hagrees := check_agrees (t := t) interface 2 fun b => b = i
    exact search_of_read (hagrees.orElse (checkType_agrees _)) hagrees h

theorem getFirstEndpointDescIndex_of_read {v i : UInt8} {r : Option ℕ} (h : t.readFirstEndpoint v i = some r) :
    t.getFirstEndpointDescIndex v i = r := by
  obtain ⟨iface, hiface, h⟩ := Option.bind_eq_some_iff.1 h
  rw [getFirstEndpointDescIndex, getInterfaceDesc_of_read hiface]
  cases iface with
  | none => exact Option.some.inj h
  | some iface =>
    obtain ⟨num, hnum, h⟩ := Option.bind_eq_some_iff.1 h
    dsimp only
    rw [eq_of_read hnum]
    split_ifs at h ⊢ with hzero
    · exact Option.some.inj h
    · obtain ⟨len, hlen, h⟩ := Option.bind_eq_some_iff.1 h
      rw [eq_of_read hlen]
      have hagrees := checkType_agrees (t := t) fun ty => ty = endpoint
      exact search_of_read hagrees hagrees h

theorem getEndpointDesc_of_read {v i n d : UInt8} {r : Option ℕ} (h : t.readEndpointDesc v i n d = some r) :
    t.getEndpointDesc v i n d = r := by
  obtain ⟨first, hfirst, h⟩ := Option.bind_eq_some_iff.1 h
  rw [getEndpointDesc, getFirstEndpointDescIndex_of_read hfirst]
  cases first with
  | none => exact Option.some.inj h
  | some first =>
    have hagrees := check_agrees (t := t) endpoint 2 fun b => (b &&& 0x0F) = n && (b &&& (0x80 : UInt8)) = d <<< 7
    have hagrees' : Agrees (t.isEndpoint n d) fun i => t.type i = endpoint &&
        (t.descBuff (i + 2) &&& 0x0F) = n && (t.descBuff (i + 2) &&& (0x80 : UInt8)) = d <<< 7 := by
      intro k b hb
      rw [← hagrees k b hb]
      exact Bool.and_assoc _ _ _
    exact search_of_read (hagrees'.orElse (checkType_agrees _)) hagrees' h

end Agree

end DescTable

end BmcUsb
