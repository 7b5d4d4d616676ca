import Bmc.Lib.Run
import Bmc.Usb.CfgRounds
import Bmc.Usb.Control
import Bmc.Usb.DescCalls

/-!
# Enabled endpoints

Which endpoints are enabled while a device is configured, reset and disconnected.

* `EnabledRight`: the endpoints of the current configuration are enabled, and no other ones;
* `DeviceRight`: a device with well formed descriptors, and an endpoint table without two entries for one endpoint;
* `Marks`, with **`forEndpoints_marks`**: the loops of `UsbCfgDevice` and `UsbUnCfgDevice` set `Enabled` of the endpoints of a
  configuration;
* `DirsFixed`: what `UsbEnableAllEndPoints` does to the directions;
* **`enabledRight_run_iff`**: when the right endpoints are enabled throughout a run.
-/

namespace BmcUsb

open BmcLib

/-! ## Specification -/

/-- The number of entries of the endpoint table. -/
def UsbDev.slots (d : UsbDev) : ℕ := (d.usbDevice.numEndpoints + 2).toNat

/-- An entry has a direction; one that is configurable has both until one of them is fixed. -/
def EndpointInfo.HasDir (e : EndpointInfo) (δ : EpDir) : Prop := e.dir = δ.flag ∨ e.dir = configurable

/-- The number and the direction of an entry occur in the descriptors of a configuration. -/
def EndpointInfo.OccursIn (e : EndpointInfo) (ks : List Descriptor) (v : UInt8) : Prop :=
  ∃ δ, e.HasDir δ ∧ Occurs ks v e.epNum δ

/-- **The endpoints of the current configuration are enabled**, and no other ones. -/
def EnabledRight (ks : List Descriptor) (d : UsbDev) : Prop :=
  ∀ i < d.slots, (d.endPoint i).enabled = 1 ↔ d.cfgIndex ≠ 0 ∧ (d.endPoint i).OccursIn ks d.cfgIndex

/-- The entries are in use, and no two of them have one number and one direction. -/
structure SlotsRight (d : UsbDev) : Prop where
  used : ∀ i < d.slots, (d.endPoint i).epUsed ≠ 0
  apart : ∀ i < d.slots, ∀ j < d.slots, (d.endPoint i).epNum = (d.endPoint j).epNum →
    ∀ δ, (d.endPoint i).HasDir δ → (d.endPoint j).HasDir δ → i = j

/-- A device with well formed descriptors. -/
structure DeviceRight (ks : List Descriptor) (d : UsbDev) : Prop where
  layout : Layout d.desc ks
  descs : DescRight ks d.usbDevice.numEndpoints
  slots : SlotsRight d

/-! ## The endpoint table -/

/-- The entries have the same numbers and directions. -/
structure SameTable (d d' : UsbDev) : Prop where
  usbDevice : d'.usbDevice = d.usbDevice
  epNum : ∀ i, (d'.endPoint i).epNum = (d.endPoint i).epNum
  dir : ∀ i, (d'.endPoint i).dir = (d.endPoint i).dir
  epUsed : ∀ i, (d'.endPoint i).epUsed = (d.endPoint i).epUsed

/-- In addition the same endpoints are enabled. -/
structure SameEnabled (d d' : UsbDev) : Prop extends SameTable d d' where
  enabled : ∀ i, (d'.endPoint i).enabled = (d.endPoint i).enabled

section Table

variable {d d' d'' : UsbDev} {ks : List Descriptor} {n v : UInt8} {δ δ' : EpDir} {i : ℕ}

theorem flag_ne_configurable (δ : EpDir) : δ.flag ≠ configurable := by cases δ <;> decide

theorem flag_injective (h : δ.flag = δ'.flag) : δ = δ' := by
  revert h
  cases δ <;> cases δ' <;> decide

theorem SameTable.refl (d : UsbDev) : SameTable d d := ⟨rfl, fun _ => rfl, fun _ => rfl, fun _ => rfl⟩

theorem SameTable.trans (h : SameTable d d') (h' : SameTable d' d'') : SameTable d d'' where
  usbDevice := h'.usbDevice.trans h.usbDevice
  epNum i := (h'.epNum i).trans (h.epNum i)
  dir i := (h'.dir i).trans (h.dir i)
  epUsed i := (h'.epUsed i).trans (h.epUsed i)

theorem SameEnabled.refl (d : UsbDev) : SameEnabled d d := ⟨.refl d, fun _ => rfl⟩

theorem SameEnabled.trans (h : SameEnabled d d') (h' : SameEnabled d' d'') : SameEnabled d d'' :=
  ⟨h.toSameTable.trans h'.toSameTable, fun i => (h'.enabled i).trans (h.enabled i)⟩

theorem SameEnabled.of_eq (husb : d'.usbDevice = d.usbDevice) (hep : d'.endPoint = d.endPoint) : SameEnabled d d' :=
  ⟨⟨husb, fun i => by rw [hep], fun i => by rw [hep], fun i => by rw [hep]⟩, fun i => by rw [hep]⟩

theorem SameTable.slots (h : SameTable d d') : d'.slots = d.slots := by
  rw [UsbDev.slots, UsbDev.slots, h.usbDevice]

theorem SameTable.getEndPointIndex_eq (h : SameTable d d') (n dir : UInt8) :
    getEndPointIndex d' n dir = getEndPointIndex d n dir := by
  simp only [getEndPointIndex, h.usbDevice, h.epNum, h.dir, h.epUsed]

theorem SameTable.hasDir_iff (h : SameTable d d') : (d'.endPoint i).HasDir δ ↔ (d.endPoint i).HasDir δ := by
  rw [EndpointInfo.HasDir, EndpointInfo.HasDir, h.dir]

theorem SameTable.occursIn_iff (h : SameTable d d') : (d'.endPoint i).OccursIn ks v ↔ (d.endPoint i).OccursIn ks v := by
  simp only [EndpointInfo.OccursIn, h.hasDir_iff, h.epNum]

theorem SlotsRight.of_same (h : SlotsRight d) (hs : SameTable d d') : SlotsRight d' where
  used i hi := by
    rw [hs.epUsed]
    exact h.used i (hs.slots ▸ hi)
  apart i hi j hj hnum δ hiδ hjδ := by
    rw [hs.epNum, hs.epNum] at hnum
    exact h.apart i (hs.slots ▸ hi) j (hs.slots ▸ hj) hnum δ (hs.hasDir_iff.1 hiδ) (hs.hasDir_iff.1 hjδ)

theorem DeviceRight.of_same (h : DeviceRight ks d) (hs : SameTable d d') (hlayout : Layout d'.desc ks) : DeviceRight ks d' :=
  ⟨hlayout, by rw [hs.usbDevice]; exact h.descs, h.slots.of_same hs⟩

/-- The entry of an endpoint. -/
theorem getEndPointIndex_eq_some_iff (h : SlotsRight d) :
    getEndPointIndex d n δ.flag = some i ↔ i < d.slots ∧ (d.endPoint i).epNum = n ∧ (d.endPoint i).HasDir δ := by
  have htest : ∀ j, j < d.slots → (((d.endPoint j).epUsed ≠ 0 &&
      ((d.endPoint j).dir = δ.flag || (d.endPoint j).dir = configurable) && (d.endPoint j).epNum = n) = true ↔
      (d.endPoint j).epNum = n ∧ (d.endPoint j).HasDir δ) := by
    intro j hj
    simp only [Bool.and_eq_true, Bool.or_eq_true, decide_eq_true_eq, h.used j hj, ne_eq, not_false_eq_true, true_and,
      EndpointInfo.HasDir]
    exact and_comm
  constructor
  · intro hi
    have hmem := List.mem_range.1 (List.mem_of_find?_eq_some hi)
    have htrue := List.find?_some hi
    exact ⟨hmem, (htest i hmem).1 htrue⟩
  · rintro ⟨hi, hmatch⟩
    cases hfind : getEndPointIndex d n δ.flag with
    | none =>
      have hno := List.find?_eq_none.1 hfind i (List.mem_range.2 hi)
      exact absurd ((htest i hi).2 hmatch) hno
    | some j =>
      have hmem := List.mem_range.1 (List.mem_of_find?_eq_some hfind)
      have htrue := List.find?_some hfind
      obtain ⟨hnum, hdir⟩ := (htest j hmem).1 htrue
      rw [h.apart j hmem i hi (hnum.trans hmatch.1.symm) δ hdir hmatch.2]

end Table

/-! ## Setting `Enabled` -/

/-- The entries of a set have `Enabled` set, and nothing else has changed. -/
structure Marks (S : ℕ → Prop) (b : UInt8) (d d' : UsbDev) : Prop where
  usbDevice : d'.usbDevice = d.usbDevice
  desc : d'.desc = d.desc
  cfgIndex : d'.cfgIndex = d.cfgIndex
  marked : ∀ i, S i → d'.endPoint i = { d.endPoint i with enabled := b }
  other : ∀ i, ¬ S i → d'.endPoint i = d.endPoint i

section Marks

variable {S S' : ℕ → Prop} {b : UInt8} {d d' d'' : UsbDev} {ks : List Descriptor} {v n dir : UInt8}

theorem Marks.same (h : Marks S b d d') : SameTable d d' := by
  have hcases : ∀ i, d'.endPoint i = { d.endPoint i with enabled := b } ∨ d'.endPoint i = d.endPoint i := fun i =>
    (em (S i)).imp (h.marked i) (h.other i)
  refine ⟨h.usbDevice, fun i => ?_, fun i => ?_, fun i => ?_⟩ <;> rcases hcases i with heq | heq <;> rw [heq]

theorem Marks.congr (h : Marks S b d d') (hS : ∀ i, S' i ↔ S i) : Marks S' b d d' :=
  ⟨h.usbDevice, h.desc, h.cfgIndex, fun i hi => h.marked i ((hS i).1 hi), fun i hi => h.other i fun h => hi ((hS i).2 h)⟩

theorem Marks.trans (h : Marks S b d d') (h' : Marks S' b d' d'') : Marks (fun i => S i ∨ S' i) b d d'' where
  usbDevice := h'.usbDevice.trans h.usbDevice
  desc := h'.desc.trans h.desc
  cfgIndex := h'.cfgIndex.trans h.cfgIndex
  marked i hi := by
    by_cases hS' : S' i
    · rw [h'.marked i hS']
      by_cases hS : S i
      · rw [h.marked i hS]
      · rw [h.other i hS]
    · rw [h'.other i hS', h.marked i (hi.resolve_right hS')]
  other i hi := by
    rw [not_or] at hi
    rw [h'.other i hi.2, h.other i hi.1]

theorem setEnabled_marks (d : UsbDev) (n dir b : UInt8) :
    Marks (fun i => getEndPointIndex d n dir = some i) b d (setEnabled d n dir b) := by
  rw [setEnabled]
  cases hidx : getEndPointIndex d n dir with
  | none => exact ⟨rfl, rfl, rfl, fun i hi => absurd hi (by simp), fun i _ => rfl⟩
  | some j =>
    refine ⟨rfl, rfl, rfl, fun i hi => ?_, fun i hi => ?_⟩
    · obtain rfl := Option.some.inj hi
      exact UsbDev.setEp_self d j _
    · exact UsbDev.setEp_of_ne d j _ fun heq => hi (by rw [heq])

/-- The direction that the loops read off an endpoint descriptor. -/
theorem dir_of_endpointAt (L : Layout d.desc ks) (h : DescRight ks d.usbDevice.numEndpoints) {i : UInt8} {δ : EpDir} {p : ℕ}
    (hp : EndpointAt ks v i n δ p) :
    (if d.desc.descBuff (descPos ks p + 2) &&& 0x80 ≠ 0 then dirIn else dirOut) = δ.flag := by
  obtain ⟨q, hiface, hown, he⟩ := id hp
  obtain ⟨hany, hbyte⟩ := byte_two_of_isEndpoint ((atPos_of_lt hp.lt).symm.trans he)
  rw [Descriptor.anyEndpoint_eq, decide_eq_true_eq] at hany
  rw [L.holds p hp.lt 2 (Descriptor.fixed_endpoint_two hany), hbyte,
    (address_of_small ((h.endpoints v i q hiface).small p n δ hown he) δ).2]
  cases δ <;> rfl

/-- The rounds of `UsbCfgDevice` and `UsbUnCfgDevice`. -/
theorem cfgRound_marks (L : Layout d.desc ks) (h : DescRight ks d.usbDevice.numEndpoints) {i : UInt8} {δ : EpDir} {p : ℕ}
    (hp : EndpointAt ks v i n δ p) :
    Marks (fun j => getEndPointIndex d n δ.flag = some j) 1 d (cfgRound d (descPos ks p) n dir) ∧
      Marks (fun j => getEndPointIndex d n δ.flag = some j) 0 d (unCfgRound d (descPos ks p) n dir) := by
  have hcall : ∀ (c : Prop) [Decidable c] op b, Marks (fun j => getEndPointIndex d n δ.flag = some j) b d
      (setEnabled (if c then d.call op else d) n δ.flag b) := by
    intro c _ op b
    split_ifs
    · have hmarks := setEnabled_marks (d.call op) n δ.flag b
      exact ⟨hmarks.usbDevice, hmarks.desc, hmarks.cfgIndex, hmarks.marked, hmarks.other⟩
    · exact setEnabled_marks d n δ.flag b
  rw [cfgRound, unCfgRound, dir_of_endpointAt L h hp]
  exact ⟨hcall _ _ _, hcall _ _ _⟩

/-- A row of rounds. -/
theorem foldl_marks {f : UsbDev → ℕ → UInt8 → UInt8 → UsbDev} {xs : List (ℕ × UInt8 × UInt8)}
    (hround : ∀ x ∈ xs, ∀ d', d'.desc = d.desc → d'.usbDevice = d.usbDevice →
      Marks (fun i => getEndPointIndex d' x.2.1 x.2.2 = some i) b d' (runRound f d' x)) :
    Marks (fun i => ∃ x ∈ xs, getEndPointIndex d x.2.1 x.2.2 = some i) b d (xs.foldl (runRound f) d) := by
  induction xs generalizing d with
  | nil => exact ⟨rfl, rfl, rfl, fun i hi => absurd hi (by simp), fun i _ => rfl⟩
  | cons x xs ih =>
    have hx := hround x List.mem_cons_self d rfl rfl
    have hxs := ih (d := runRound f d x) fun y hy d' hdesc husb =>
      hround y (List.mem_cons_of_mem x hy) d' (hdesc.trans hx.desc) (husb.trans hx.usbDevice)
    refine (hx.trans hxs).congr fun i => ?_
    simp only [List.mem_cons, exists_eq_or_imp, hx.same.getEndPointIndex_eq]

/-- **The loop over a configuration** sets `Enabled` of the endpoints of the configuration. -/
theorem forEndpoints_marks {f : UsbDev → ℕ → UInt8 → UInt8 → UsbDev} (h : DeviceRight ks d) (hf : KeepsDesc f)
    (hround : ∀ d' i n δ p dir, Layout d'.desc ks → DescRight ks d'.usbDevice.numEndpoints → EndpointAt ks v i n δ p →
      Marks (fun j => getEndPointIndex d' n δ.flag = some j) b d' (f d' (descPos ks p) n dir)) :
    Marks (fun i => i < d.slots ∧ (d.endPoint i).OccursIn ks v) b d (forEndpoints v f d) := by
  rw [forEndpoints_eq_foldl hf (length_interfaceRounds_le h.layout h.descs v)]
  have hall : ∀ x ∈ cfgRounds d.desc d.usbDevice.numEndpoints v, ∀ d', d'.desc = d.desc → d'.usbDevice = d.usbDevice →
      Marks (fun j => getEndPointIndex d' x.2.1 x.2.2 = some j) b d' (runRound f d' x) := by
    intro x hx d' hdesc husb
    obtain ⟨i, n, δ, p, hp, rfl⟩ := (mem_cfgRounds_iff h.layout h.descs).1 hx
    exact hround d' i n δ p δ.flag (by rw [hdesc]; exact h.layout) (by rw [husb]; exact h.descs) hp
  refine (foldl_marks hall).congr fun i => ?_
  constructor
  · rintro ⟨hi, δ, hdir, j, p, hp⟩
    exact ⟨_, (mem_cfgRounds_iff h.layout h.descs).2 ⟨j, _, δ, p, hp, rfl⟩,
      (getEndPointIndex_eq_some_iff h.slots).2 ⟨hi, rfl, hdir⟩⟩
  · rintro ⟨x, hx, hi⟩
    obtain ⟨j, n, δ, p, hp, rfl⟩ := (mem_cfgRounds_iff h.layout h.descs).1 hx
    obtain ⟨hlt, hnum, hdir⟩ := (getEndPointIndex_eq_some_iff h.slots).1 hi
    exact ⟨hlt, δ, hdir, j, p, by rw [hnum]; exact hp⟩

end Marks

/-! ## The directions -/

/-- The directions of some configurable entries are fixed, to those of endpoints of the configuration. -/
structure DirsFixed (ks : List Descriptor) (v : UInt8) (d d' : UsbDev) : Prop where
  usbDevice : d'.usbDevice = d.usbDevice
  desc : d'.desc = d.desc
  cfgIndex : d'.cfgIndex = d.cfgIndex
  enabled : ∀ i, (d'.endPoint i).enabled = (d.endPoint i).enabled
  epNum : ∀ i, (d'.endPoint i).epNum = (d.endPoint i).epNum
  epUsed : ∀ i, (d'.endPoint i).epUsed = (d.endPoint i).epUsed
  dir : ∀ i, (d'.endPoint i).dir = (d.endPoint i).dir ∨
    ∃ δ, (d.endPoint i).HasDir δ ∧ Occurs ks v (d.endPoint i).epNum δ ∧ (d'.endPoint i).dir = δ.flag

section DirsFixed

variable {d d' d'' : UsbDev} {ks : List Descriptor} {v : UInt8} {δ : EpDir} {i : ℕ}

theorem DirsFixed.refl (ks : List Descriptor) (v : UInt8) (d : UsbDev) : DirsFixed ks v d d :=
  ⟨rfl, rfl, rfl, fun _ => rfl, fun _ => rfl, fun _ => rfl, fun _ => .inl rfl⟩

/-- No entry gets a direction that it did not have. -/
theorem DirsFixed.hasDir (h : DirsFixed ks v d d') (hδ : (d'.endPoint i).HasDir δ) : (d.endPoint i).HasDir δ := by
  rcases h.dir i with heq | ⟨δ', hδ', -, heq⟩
  · rwa [EndpointInfo.HasDir, heq] at hδ
  · rcases hδ with hδ | hδ
    · rwa [flag_injective (hδ.symm.trans heq)]
    · exact absurd (heq.symm.trans hδ) (flag_ne_configurable δ')

theorem DirsFixed.trans (h : DirsFixed ks v d d') (h' : DirsFixed ks v d' d'') : DirsFixed ks v d d'' where
  usbDevice := h'.usbDevice.trans h.usbDevice
  desc := h'.desc.trans h.desc
  cfgIndex := h'.cfgIndex.trans h.cfgIndex
  enabled i := (h'.enabled i).trans (h.enabled i)
  epNum i := (h'.epNum i).trans (h.epNum i)
  epUsed i := (h'.epUsed i).trans (h.epUsed i)
  dir i := by
    rcases h'.dir i with heq | ⟨δ, hδ, hoccurs, heq⟩
    · rw [heq]
      exact h.dir i
    · rw [h.epNum] at hoccurs
      exact .inr ⟨δ, h.hasDir hδ, hoccurs, heq⟩

theorem DirsFixed.slots (h : DirsFixed ks v d d') : d'.slots = d.slots := by
  rw [UsbDev.slots, UsbDev.slots, h.usbDevice]

/-- The endpoints that occur in the configuration are the same. -/
theorem DirsFixed.occursIn_iff (h : DirsFixed ks v d d') : (d'.endPoint i).OccursIn ks v ↔ (d.endPoint i).OccursIn ks v := by
  constructor
  · rintro ⟨δ, hδ, hoccurs⟩
    rw [h.epNum] at hoccurs
    exact ⟨δ, h.hasDir hδ, hoccurs⟩
  · rintro ⟨δ, hδ, hoccurs⟩
    rcases h.dir i with heq | ⟨δ', -, hoccurs', heq⟩
    · refine ⟨δ, ?_, by rwa [h.epNum]⟩
      rwa [EndpointInfo.HasDir, heq]
    · exact ⟨δ', .inl heq, by rwa [h.epNum]⟩

theorem DirsFixed.deviceRight (h : DirsFixed ks v d d') (hd : DeviceRight ks d) : DeviceRight ks d' where
  layout := by
    rw [h.desc]
    exact hd.layout
  descs := by
    rw [h.usbDevice]
    exact hd.descs
  slots := by
    refine ⟨fun i hi => ?_, fun i hi j hj hnum δ hiδ hjδ => ?_⟩
    · rw [h.epUsed]
      exact hd.slots.used i (h.slots ▸ hi)
    · rw [h.epNum, h.epNum] at hnum
      exact hd.slots.apart i (h.slots ▸ hi) j (h.slots ▸ hj) hnum δ (h.hasDir hiδ) (h.hasDir hjδ)

/-- An entry whose other fields change. -/
theorem DirsFixed.setEp {e : EndpointInfo} (henabled : e.enabled = (d.endPoint i).enabled)
    (hnum : e.epNum = (d.endPoint i).epNum) (hused : e.epUsed = (d.endPoint i).epUsed)
    (hdir : e.dir = (d.endPoint i).dir ∨
      ∃ δ, (d.endPoint i).HasDir δ ∧ Occurs ks v (d.endPoint i).epNum δ ∧ e.dir = δ.flag) :
    DirsFixed ks v d (d.setEp i e) := by
  have hcases : ∀ {P : EndpointInfo → EndpointInfo → Prop}, P e (d.endPoint i) → (∀ x, P x x) →
      ∀ j, P ((d.setEp i e).endPoint j) (d.endPoint j) := by
    intro P he hx j
    rcases eq_or_ne j i with rfl | hne
    · rwa [UsbDev.setEp_self]
    · rw [UsbDev.setEp_of_ne d i e hne]
      exact hx _
  exact ⟨rfl, rfl, rfl, hcases (P := fun x y => x.enabled = y.enabled) henabled fun _ => rfl,
    hcases (P := fun x y => x.epNum = y.epNum) hnum fun _ => rfl,
    hcases (P := fun x y => x.epUsed = y.epUsed) hused fun _ => rfl,
    hcases (P := fun x y => x.dir = y.dir ∨ ∃ δ, y.HasDir δ ∧ Occurs ks v y.epNum δ ∧ x.dir = δ.flag) hdir
      fun _ => .inl rfl⟩

/-- The direction bit of `ep_dir`. -/
theorem exists_flag (c : UInt8) : ∃ δ : EpDir, c >>> (7 : UInt8) = δ.flag := by
  have hval : (c >>> (7 : UInt8)).toNat = c.toNat / 128 := by
    rw [UInt8.toNat_shiftRight]
    exact Nat.shiftRight_eq_div_pow _ 7
  have hlt := c.toNat_lt
  have hcases : c.toNat / 128 = 0 ∨ c.toNat / 128 = 1 := by omega
  rcases hcases with h | h
  · exact ⟨.epOut, UInt8.toNat_inj.1 (hval.trans h)⟩
  · exact ⟨.epIn, UInt8.toNat_inj.1 (hval.trans h)⟩

/-- `EnableEndPoint` -/
theorem enableEndPoint_dirsFixed (h : DeviceRight ks d) (n : UInt8) (δ : EpDir) :
    DirsFixed ks d.cfgIndex d (enableEndPoint d n δ.flag) := by
  rw [enableEndPoint]
  cases hidx : getEndPointIndex d n δ.flag with
  | none => exact .refl ks _ d
  | some i =>
    obtain ⟨-, hnum, hδ⟩ := (getEndPointIndex_eq_some_iff h.slots).1 hidx
    dsimp only
    cases hdesc : d.desc.getEndpointDesc d.cfgIndex (d.desc.getInterface d.cfgIndex n δ.flag) n δ.flag with
    | none => exact .setEp rfl rfl rfl (.inl rfl)
    | some k =>
      obtain ⟨p, hp, rfl⟩ := (getEndpointDesc_eq_some_iff h.layout h.descs.toNested).1 hdesc
      dsimp only
      rw [dir_of_endpointAt h.layout h.descs hp]
      have hfixed : DirsFixed ks d.cfgIndex d (d.setEp i { d.endPoint i with
          maxPacketSize := d.desc.getMaxPacketSize d.cfgIndex n δ.flag
          fifoSize := d.desc.getMaxPacketSize d.cfgIndex n δ.flag * 2
          interface := d.desc.getInterface d.cfgIndex n δ.flag, dir := δ.flag }) :=
        .setEp rfl rfl rfl (.inr ⟨δ, hδ, ⟨_, p, hnum.symm ▸ hp⟩, rfl⟩)
      exact ⟨hfixed.usbDevice, hfixed.desc, hfixed.cfgIndex, hfixed.enabled, hfixed.epNum, hfixed.epUsed, hfixed.dir⟩

/-- **`UsbEnableAllEndPoints`** enables nothing. -/
theorem usbEnableAllEndPoints_dirsFixed (h : DeviceRight ks d) : DirsFixed ks d.cfgIndex d (usbEnableAllEndPoints d) := by
  refine List.foldlRecOn (motive := fun d' => DirsFixed ks d.cfgIndex d d') _ _ (.refl ks _ d) fun d' hd' c _ => ?_
  obtain ⟨δ, hδ⟩ := exists_flag c.epDir
  have hnext := enableEndPoint_dirsFixed (hd'.deviceRight h) c.epNum δ
  rw [hd'.cfgIndex] at hnext
  rw [hδ]
  exact hd'.trans hnext

end DirsFixed

/-! ## Events -/

/-- What configures a device, and what takes its configuration away. -/
inductive CfgEvent where
  | setConfiguration (r : DeviceRequest)
  | unCfg
  | busReset
  | disconnect

/-- The device after an event. -/
def cfgStep (d : UsbDev) : CfgEvent → UsbDev
  | .setConfiguration r => (processSetConfiguration d r).1
  | .unCfg => usbUnCfgDevice d
  | .busReset => usbBusReset d
  | .disconnect => usbBusDisconnect d

/-- The configuration that a SET_CONFIGURATION request selects, if it is valid and does not unconfigure the device. -/
def DeviceRequest.selects (r : DeviceRequest) : Option UInt8 :=
  if r.wIndex ≠ 0 ∨ r.wLength ≠ 0 ∨ r.wValue &&& 0xFF00 ≠ 0 ∨ r.wValue = 0 then none else some r.wValue.toUInt8

/-- The event does not leave an endpoint behind: a configuration is selected from the unconfigured state, or each endpoint of
the current configuration occurs in the new one. -/
def CfgEvent.LeavesNone (ks : List Descriptor) (d : UsbDev) : CfgEvent → Prop
  | .setConfiguration r => ∀ v, r.selects = some v → d.cfgIndex = 0 ∨
      ∀ i < d.slots, (d.endPoint i).OccursIn ks d.cfgIndex → (d.endPoint i).OccursIn ks v
  | _ => True

/-! ## Steps -/

section Steps

variable {d d' : UsbDev} {ks : List Descriptor} {v : UInt8}

theorem cfgRound_keepsDesc : KeepsDesc cfgRound := by
  intro d e n dir
  rw [cfgRound]
  split_ifs <;> exact ⟨(setEnabled_marks _ _ _ _).desc, (setEnabled_marks _ _ _ _).usbDevice⟩

theorem unCfgRound_keepsDesc : KeepsDesc unCfgRound := by
  intro d e n dir
  rw [unCfgRound]
  split_ifs <;> exact ⟨(setEnabled_marks _ _ _ _).desc, (setEnabled_marks _ _ _ _).usbDevice⟩

theorem DeviceRight.setCfgIndex (h : DeviceRight ks d) (v : UInt8) : DeviceRight ks (d.setCfgIndex v) :=
  ⟨h.layout, h.descs, ⟨h.slots.used, h.slots.apart⟩⟩

theorem Marks.deviceRight {S : ℕ → Prop} {b : UInt8} (hm : Marks S b d d') (h : DeviceRight ks d) : DeviceRight ks d' :=
  h.of_same hm.same (by rw [hm.desc]; exact h.layout)

/-- `UsbCfgDevice` enables the endpoints of the configuration, and leaves all others as they are. -/
theorem usbCfgDevice_spec (h : DeviceRight ks d) (w : UInt16) :
    DeviceRight ks (usbCfgDevice d w) ∧ (usbCfgDevice d w).cfgIndex = w.toUInt8 ∧
      ∀ i < d.slots, ((usbCfgDevice d w).endPoint i).OccursIn ks w.toUInt8 = (d.endPoint i).OccursIn ks w.toUInt8 ∧
        (((usbCfgDevice d w).endPoint i).enabled = 1 ↔
          (d.endPoint i).OccursIn ks w.toUInt8 ∨ (d.endPoint i).enabled = 1) := by
  have hset := h.setCfgIndex w.toUInt8
  have hfixed := usbEnableAllEndPoints_dirsFixed hset
  have hright := hfixed.deviceRight hset
  have hmarks := forEndpoints_marks (b := 1) (v := w.toUInt8) hright cfgRound_keepsDesc fun _ _ _ _ _ _ L h hp =>
    (cfgRound_marks L h hp).1
  refine ⟨hmarks.deviceRight hright, hmarks.cfgIndex.trans hfixed.cfgIndex, fun i hi => ?_⟩
  have hoccurs : ((usbEnableAllEndPoints (d.setCfgIndex w.toUInt8)).endPoint i).OccursIn ks w.toUInt8 ↔
      (d.endPoint i).OccursIn ks w.toUInt8 := hfixed.occursIn_iff
  refine ⟨propext (hmarks.same.occursIn_iff.trans hoccurs), ?_⟩
  rw [← hoccurs]
  have hslots : i < (usbEnableAllEndPoints (d.setCfgIndex w.toUInt8)).slots := hfixed.slots.symm ▸ hi
  rw [usbCfgDevice]
  by_cases hin : ((usbEnableAllEndPoints (d.setCfgIndex w.toUInt8)).endPoint i).OccursIn ks w.toUInt8
  · rw [hmarks.marked i ⟨hslots, hin⟩]
    exact iff_of_true rfl (.inl hin)
  · rw [hmarks.other i fun h => hin h.2, hfixed.enabled, or_iff_right hin]
    exact Iff.rfl

/-- The device is not configured, and no endpoint is enabled. -/
structure Unconfigured (d : UsbDev) : Prop where
  cfgIndex : d.cfgIndex = 0
  disabled : ∀ i < d.slots, (d.endPoint i).enabled ≠ 1

theorem Unconfigured.enabledRight (h : Unconfigured d) : EnabledRight ks d := fun i hi =>
  iff_of_false (h.disabled i hi) fun hne => hne.1 h.cfgIndex

theorem Unconfigured.of_same (h : Unconfigured d) (hs : SameEnabled d d') (hcfg : d'.cfgIndex = 0) : Unconfigured d' := by
  refine ⟨hcfg, fun i hi => ?_⟩
  rw [hs.enabled]
  exact h.disabled i (hs.slots ▸ hi)

/-- `UsbUnCfgDevice` disables what is enabled, if this is what the current configuration has. -/
theorem usbUnCfgDevice_spec (h : DeviceRight ks d) :
    DeviceRight ks (usbUnCfgDevice d) ∧ (EnabledRight ks d → Unconfigured (usbUnCfgDevice d)) := by
  rw [usbUnCfgDevice]
  split_ifs with hzero
  · exact ⟨h, fun hd => ⟨hzero, fun i hi henabled => ((hd i hi).1 henabled).1 hzero⟩⟩
  have hset := h.setCfgIndex 0
  have hmarks := forEndpoints_marks (b := 0) (v := d.cfgIndex) hset unCfgRound_keepsDesc fun _ _ _ _ _ _ L h hp =>
    (cfgRound_marks L h hp).2
  refine ⟨hmarks.deviceRight hset, fun hd => ⟨hmarks.cfgIndex, fun i hi => ?_⟩⟩
  have hi : i < d.slots := hmarks.same.slots ▸ hi
  by_cases hin : (d.endPoint i).OccursIn ks d.cfgIndex
  · rw [hmarks.marked i ⟨hi, hin⟩]
    exact (by decide : (0 : UInt8) ≠ 1)
  · rw [hmarks.other i fun h => hin h.2]
    exact fun henabled => hin ((hd i hi).1 henabled).2

/-- `UsbConfigureFS` writes packet sizes, and leaves the endpoint table and the other bytes of the descriptors alone. -/
theorem usbConfigureFS_spec (h : DeviceRight ks d) :
    SameEnabled d (usbConfigureFS d) ∧ (usbConfigureFS d).cfgIndex = d.cfgIndex ∧ Layout (usbConfigureFS d).desc ks := by
  have hsize : SameEnabled d (d.setEp 0 { d.endPoint 0 with maxPacketSize := d.usbDevice.ep0Size }) := by
    have hsame : ∀ {α : Type} (g : EndpointInfo → α),
        g { d.endPoint 0 with maxPacketSize := d.usbDevice.ep0Size } = g (d.endPoint 0) → ∀ i,
          g ((d.setEp 0 { d.endPoint 0 with maxPacketSize := d.usbDevice.ep0Size }).endPoint i) = g (d.endPoint i) := by
      intro α g hg i
      rcases eq_or_ne i 0 with rfl | hne
      · rwa [UsbDev.setEp_self]
      · rw [UsbDev.setEp_of_ne d 0 _ hne]
    exact ⟨⟨rfl, hsame EndpointInfo.epNum rfl, hsame EndpointInfo.dir rfl, hsame EndpointInfo.epUsed rfl⟩,
      hsame EndpointInfo.enabled rfl⟩
  rw [usbConfigureFS]
  dsimp only
  split
  · exact ⟨hsize, rfl, h.layout⟩
  next dev hdev =>
    have hpos := h.descs.nonempty
    have htype : ks[0].byte 1 = device := by
      have hread : d.desc.descBuff 1 = device := by
        change d.desc.getDeviceDesc = some dev at hdev
        rw [DescTable.getDeviceDesc] at hdev
        split_ifs at hdev with hsmall htype
        exact not_not.1 htype
      rw [← h.layout.holds 0 hpos 1 ks[0].fixed_one]
      exact hread
    have hpatched := Descriptor.patched_of_device htype
    -- the version, and the packet size of endpoint 0
    have hfirst : ∀ lo hi size,
        Layout { d.desc.setWord 2 lo hi with descBuff := store (d.desc.setWord 2 lo hi).descBuff 7 [size] } ks := by
      intro lo hi size
      have hversion : Layout (d.desc.setWord 2 lo hi) ks := h.layout.patch (p := 0) hpos (j := 2) (l := [lo, hi]) (by
        rw [hpatched]
        exact (by decide : ∀ i < 2, 2 + i ∈ [2, 3, 7, 17]))
      exact hversion.patch (p := 0) hpos (j := 7) (l := [size]) (by
        rw [hpatched]
        exact (by decide : ∀ i < 1, 7 + i ∈ [2, 3, 7, 17]))
    refine List.foldlRecOn (motive := fun x : UsbDev => SameEnabled d x ∧ x.cfgIndex = d.cfgIndex ∧ Layout x.desc ks) _ _
      ⟨hsize.trans (.of_eq rfl rfl), rfl, hfirst _ _ _⟩ fun x hx v _ => ?_
    refine forEndpoints_rule (P := fun x => SameEnabled d x ∧ x.cfgIndex = d.cfgIndex ∧ Layout x.desc ks)
      (fun y e i n δ hy he => ?_) hx
    obtain ⟨hsame, hcfg, hlayout⟩ := hy
    obtain ⟨p, hp, rfl⟩ := (getEndpointDesc_eq_some_iff hlayout h.descs.toNested).1 he
    obtain ⟨q, -, -, hany⟩ := id hp
    have hendpoint := Descriptor.patched_of_endpoint (byte_two_of_isEndpoint ((atPos_of_lt hp.lt).symm.trans hany)).1
    exact ⟨hsame.trans (.of_eq rfl rfl), hcfg, hlayout.patch hp.lt (j := 4) (l := [_, _]) (by
      rw [hendpoint]
      exact (by decide : ∀ i < 2, 4 + i ∈ [4, 5]))⟩

/-- `UsbRestoreInitState` -/
theorem usbRestoreInitState_spec (h : DeviceRight ks d) :
    DeviceRight ks (usbRestoreInitState d) ∧ (EnabledRight ks d → Unconfigured (usbRestoreInitState d)) := by
  obtain ⟨hright, hun⟩ := usbUnCfgDevice_spec h
  rw [usbRestoreInitState]
  generalize usbUnCfgDevice d = w at hright hun ⊢
  have hidle : ∀ x : UsbDev, SameEnabled x x.idleAll := by
    intro x
    refine ⟨⟨rfl, fun i => ?_, fun i => ?_, fun i => ?_⟩, fun i => ?_⟩ <;>
      rw [UsbDev.idleAll] <;> dsimp only <;> split_ifs <;> rfl
  -- before `UsbConfigureFS`
  have hclear : ∀ u : UsbDev, u.usbDevice = w.usbDevice → u.endPoint = w.endPoint →
      u.cfgIndex = w.cfgIndex → u.desc = w.desc →
      DeviceRight ks (usbConfigureFS u.idleAll) ∧ (EnabledRight ks d → Unconfigured (usbConfigureFS u.idleAll)) := by
    intro u husb hep hcfg hdesc
    have hsame : SameEnabled w u.idleAll := (SameEnabled.of_eq husb hep).trans (hidle u)
    have hlayout : Layout u.idleAll.desc ks := by
      change Layout u.desc ks
      rw [hdesc]
      exact hright.layout
    have hidleright := hright.of_same hsame.toSameTable hlayout
    obtain ⟨hfs, hfscfg, hfslayout⟩ := usbConfigureFS_spec hidleright
    refine ⟨hidleright.of_same hfs.toSameTable hfslayout, fun hd => ?_⟩
    exact (hun hd).of_same (hsame.trans hfs) (hfscfg.trans (hcfg.trans (hun hd).cfgIndex))
  exact hclear _ rfl rfl rfl rfl

/-- The part of `UsbBusReset` that wakes up the writers. -/
theorem wakeAll_same (d : UsbDev) :
    SameEnabled d (forConfigs (fun d cfg => forEndpoints cfg busResetRound d) d) ∧
      (forConfigs (fun d cfg => forEndpoints cfg busResetRound d) d).cfgIndex = d.cfgIndex ∧
      (forConfigs (fun d cfg => forEndpoints cfg busResetRound d) d).desc = d.desc := by
  refine List.foldlRecOn (motive := fun x : UsbDev => SameEnabled d x ∧ x.cfgIndex = d.cfgIndex ∧ x.desc = d.desc) _ _
    ⟨.refl d, rfl, rfl⟩ fun x hx v _ => ?_
  refine forEndpoints_inv (P := fun x => SameEnabled d x ∧ x.cfgIndex = d.cfgIndex ∧ x.desc = d.desc)
    (fun y e n dir _ hy => ?_) hx
  rw [busResetRound]
  split
  · exact hy
  · exact ⟨hy.1.trans (.of_eq rfl rfl), hy.2⟩

/-- `UsbBusReset` -/
theorem usbBusReset_spec (h : DeviceRight ks d) :
    DeviceRight ks (usbBusReset d) ∧ (EnabledRight ks d → Unconfigured (usbBusReset d)) := by
  -- before `UsbRestoreInitState`
  have hstart : ∀ u : UsbDev, u.usbDevice = d.usbDevice → u.endPoint = d.endPoint → u.cfgIndex = d.cfgIndex →
      u.desc = d.desc →
      DeviceRight ks ((usbRestoreInitState u).setCfgIndex 0) ∧
        (EnabledRight ks d → Unconfigured ((usbRestoreInitState u).setCfgIndex 0)) := by
    intro u husb hep hcfg hdesc
    have hu : DeviceRight ks u := h.of_same (SameEnabled.of_eq husb hep).toSameTable (by rw [hdesc]; exact h.layout)
    obtain ⟨hright, hun⟩ := usbRestoreInitState_spec hu
    refine ⟨hright.setCfgIndex 0, fun hd => ⟨rfl, (hun ?_).disabled⟩⟩
    rw [EnabledRight, UsbDev.slots, husb, hep, hcfg]
    exact hd
  have hdone : ∀ u : UsbDev, DeviceRight ks u ∧ (EnabledRight ks d → Unconfigured u) →
      DeviceRight ks (forConfigs (fun d cfg => forEndpoints cfg busResetRound d) u) ∧
        (EnabledRight ks d → Unconfigured (forConfigs (fun d cfg => forEndpoints cfg busResetRound d) u)) := by
    rintro u ⟨hright, hun⟩
    obtain ⟨hsame, hcfg, hdesc⟩ := wakeAll_same u
    exact ⟨hright.of_same hsame.toSameTable (by rw [hdesc]; exact hright.layout),
      fun hd => (hun hd).of_same hsame (hcfg.trans (hun hd).cfgIndex)⟩
  rw [usbBusReset]
  refine hdone _ ?_
  split_ifs
  · exact hstart _ rfl rfl rfl rfl
  · exact hstart _ rfl rfl rfl rfl

/-- A value of one byte that is not 0. -/
theorem toUInt8_ne_zero {w : UInt16} (hhigh : w &&& 0xFF00 = 0) (hne : w ≠ 0) : w.toUInt8 ≠ 0 := by
  have hdiv : w.toNat / 256 = 0 := by
    have hshift := congrArg (fun x => x.toNat >>> 8) hhigh
    have hlt := w.toNat_lt
    simp only [UInt16.toNat_and, Nat.shiftRight_and_distrib] at hshift
    have hmask : w.toNat >>> 8 &&& 0xFF = w.toNat / 256 := by
      rw [Nat.shiftRight_eq_div_pow, Nat.and_two_pow_sub_one_eq_mod _ 8]
      omega
    rw [← hmask]
    exact hshift
  intro hzero
  have hmod : w.toNat % 256 = 0 := by
    rw [← UInt16.toNat_toUInt8, hzero]
    rfl
  refine hne (UInt16.toNat_inj.1 ?_)
  change w.toNat = 0
  omega

/-- **Selecting a configuration** keeps the right endpoints enabled exactly when no endpoint is left behind. -/
theorem usbCfgDevice_enabledRight_iff (h : DeviceRight ks d) (hd : EnabledRight ks d) {w : UInt16} (hne : w.toUInt8 ≠ 0) :
    EnabledRight ks (usbCfgDevice d w) ↔
      d.cfgIndex = 0 ∨ ∀ i < d.slots, (d.endPoint i).OccursIn ks d.cfgIndex → (d.endPoint i).OccursIn ks w.toUInt8 := by
  obtain ⟨-, hcfg, hslot⟩ := usbCfgDevice_spec h w
  have hslots : (usbCfgDevice d w).slots = d.slots := by
    rw [UsbDev.slots, UsbDev.slots, (usbCfgDevice_frame w).usbDevice]
  rw [EnabledRight, hslots, hcfg]
  constructor
  · intro hall
    refine or_iff_not_imp_left.2 fun hzero i hi hin => ?_
    have henabled := (hslot i hi).2.2 (.inr ((hd i hi).2 ⟨hzero, hin⟩))
    have hnew := ((hall i hi).1 henabled).2
    rwa [(hslot i hi).1] at hnew
  · intro hleft i hi
    rw [(hslot i hi).1, (hslot i hi).2, and_iff_right hne]
    refine or_iff_left_of_imp fun henabled => ?_
    obtain ⟨hzero, hin⟩ := (hd i hi).1 henabled
    exact (hleft.resolve_left hzero) i hi hin

/-- One event. -/
theorem cfgStep_spec (h : DeviceRight ks d) (e : CfgEvent) :
    DeviceRight ks (cfgStep d e) ∧ (EnabledRight ks d → (EnabledRight ks (cfgStep d e) ↔ e.LeavesNone ks d)) := by
  cases e with
  | setConfiguration r =>
    rw [cfgStep, processSetConfiguration, CfgEvent.LeavesNone]
    by_cases hbad : r.wIndex ≠ 0 ∨ r.wLength ≠ 0 ∨ r.wValue &&& 0xFF00 ≠ 0
    · have hnone : r.selects = none := if_pos (by tauto)
      rw [if_pos hbad, hnone]
      exact ⟨h, fun hd => iff_of_true hd fun v hv => absurd hv (by simp)⟩
    rw [if_neg hbad]
    by_cases hzero : r.wValue = 0
    · have hnone : r.selects = none := if_pos (by tauto)
      rw [if_pos hzero, hnone]
      obtain ⟨hright, hun⟩ := usbUnCfgDevice_spec h
      exact ⟨hright, fun hd => iff_of_true (hun hd).enabledRight fun v hv => absurd hv (by simp)⟩
    · have hsome : r.selects = some r.wValue.toUInt8 := if_neg (by tauto)
      rw [if_neg hzero, hsome]
      refine ⟨(usbCfgDevice_spec h r.wValue).1, fun hd => ?_⟩
      have hhigh : r.wValue &&& 0xFF00 = 0 := by tauto
      simp only [Option.some.injEq, forall_eq']
      exact usbCfgDevice_enabledRight_iff h hd (toUInt8_ne_zero hhigh hzero)
  | unCfg =>
    obtain ⟨hright, hun⟩ := usbUnCfgDevice_spec h
    exact ⟨hright, fun hd => iff_of_true (hun hd).enabledRight trivial⟩
  | busReset =>
    obtain ⟨hright, hun⟩ := usbBusReset_spec h
    exact ⟨hright, fun hd => iff_of_true (hun hd).enabledRight trivial⟩
  | disconnect =>
    obtain ⟨hright, hun⟩ := usbRestoreInitState_spec h
    exact ⟨hright, fun hd => iff_of_true (hun hd).enabledRight trivial⟩

/-- **Runs.** The endpoints of the current configuration are enabled in every state of a run, and no other ones, exactly when
no event leaves an endpoint behind. -/
theorem enabledRight_run_iff (h : DeviceRight ks d) (hd : EnabledRight ks d) (es : List CfgEvent) :
    Always cfgStep (EnabledRight ks) d es ↔ AllSteps cfgStep (fun d e => e.LeavesNone ks d) d es :=
  always_iff_allSteps (fun _ e h => (cfgStep_spec h e).1) (fun _ e h hd => (cfgStep_spec h e).2 hd) h hd es

end Steps

/-! ## A device with one endpoint -/

/-- The descriptors of the small device. -/
def smallDescriptors : List Descriptor :=
  [.device 64 0x046B 0xFF10 0x0100 0 0 0, .config 25 1 1 0xC0, .interface 0 1 8 6 0x50 0, .endpoint 1 .epIn 2 64 0]

/-- The small device, not configured yet. -/
def bulkDevice : UsbDev :=
  { massDevice with
    usbDevice := { massDevice.usbDevice with numEndpoints := 1 }
    endPoint := fun i => { massEndpoint (if i ≤ 1 then 0 else 1) (if i = 1 then dirOut else dirIn) with enabled := 0 }
    cfgIndex := 0
    desc := (smallDevice.foldl DescBuild.after (newTable.createDescriptor (fun _ => 0) 43)).desc }

section Small

variable {v i n : UInt8} {d : EpDir} {p q : ℕ}

theorem atPos_small {f : Descriptor → Bool} : atPos f smallDescriptors p = true ↔
    p = 0 ∧ f (.device 64 0x046B 0xFF10 0x0100 0 0 0) = true ∨ p = 1 ∧ f (.config 25 1 1 0xC0) = true ∨
      p = 2 ∧ f (.interface 0 1 8 6 0x50 0) = true ∨ p = 3 ∧ f (.endpoint 1 .epIn 2 64 0) = true := by
  match p with
  | 0 | 1 | 2 | 3 => simp [atPos, smallDescriptors]
  | p + 4 => simp [atPos, smallDescriptors]

theorem configAt_small : ConfigAt smallDescriptors v p ↔ p = 1 ∧ v = 1 := by
  rw [ConfigAt, atPos_small]
  simp [Descriptor.isConfig, eq_comm]

theorem interfaceAt_small : InterfaceAt smallDescriptors v i q ↔ q = 2 ∧ v = 1 ∧ i = 0 := by
  have hiface : atPos (Descriptor.isInterface i) smallDescriptors q = true ↔ q = 2 ∧ i = 0 := by
    rw [atPos_small]
    simp [Descriptor.isInterface, eq_comm]
  rw [InterfaceAt, hiface]
  constructor
  · rintro ⟨c, -, hc, -, rfl, rfl⟩
    exact ⟨rfl, (configAt_small.1 hc).2, rfl⟩
  · rintro ⟨rfl, rfl, rfl⟩
    exact ⟨1, by decide, configAt_small.2 ⟨rfl, rfl⟩, fun x hx hx' => by omega, rfl, rfl⟩

theorem anyEndpoint_small : atPos Descriptor.anyEndpoint smallDescriptors p = true ↔ p = 3 := by
  rw [atPos_small]
  simp [Descriptor.anyEndpoint]

theorem isEndpoint_small : atPos (Descriptor.isEndpoint n d) smallDescriptors p = true ↔ p = 3 ∧ n = 1 ∧ d = .epIn := by
  rw [atPos_small]
  simp only [Descriptor.isEndpoint, Bool.false_eq_true, and_false, false_or, Bool.and_eq_true, decide_eq_true_eq]
  constructor <;> rintro ⟨rfl, rfl, rfl⟩ <;> exact ⟨rfl, rfl, rfl⟩

theorem ownEndpoint_small : OwnEndpoint smallDescriptors 2 p ↔ p = 3 := by
  rw [OwnEndpoint, anyEndpoint_small]
  constructor
  · exact fun h => h.2.2
  · rintro rfl
    exact ⟨by decide, fun x hx hx' => by omega, rfl⟩

theorem occurs_small : Occurs smallDescriptors v n d ↔ v = 1 ∧ n = 1 ∧ d = .epIn := by
  constructor
  · rintro ⟨i, p, q, hi, -, he⟩
    exact ⟨(interfaceAt_small.1 hi).2.1, (isEndpoint_small.1 he).2⟩
  · rintro ⟨rfl, rfl, rfl⟩
    exact ⟨0, 3, 2, interfaceAt_small.2 ⟨rfl, rfl, rfl⟩, ownEndpoint_small.2 rfl, isEndpoint_small.2 ⟨rfl, rfl, rfl⟩⟩

/-- The descriptors of the small device are well formed. -/
theorem descRight_small : DescRight smallDescriptors 1 where
  nonempty := by decide
  first := by decide
  configs v p p' hp hp' := (configAt_small.1 hp).1.trans (configAt_small.1 hp').1.symm
  interfaces v i q q' hq hq' := (interfaceAt_small.1 hq).1.trans (interfaceAt_small.1 hq').1.symm
  endpoints v i q hq := by
    obtain ⟨rfl, -, -⟩ := interfaceAt_small.1 hq
    refine ⟨fun hnone => absurd (ownEndpoint_small.2 rfl) (hnone 3), fun x _ hzero => ?_,
      fun x y z hx hxy hyz hz => ?_, fun x n d _ he => ?_, fun x y n d hx hy _ _ => ?_⟩
    · rw [NoneAnnounced] at hzero
      exact absurd hzero (by decide)
    · rw [ownEndpoint_small] at hx hz
      omega
    · obtain ⟨-, rfl, -⟩ := isEndpoint_small.1 he
      decide
    · exact (ownEndpoint_small.1 hx).trans (ownEndpoint_small.1 hy).symm
  announced v i c q hc hcfg hiface := by
    obtain ⟨rfl, -⟩ := configAt_small.1 hcfg
    obtain ⟨-, -, rfl⟩ := interfaceAt_small.1 hiface
    exact (by decide : (0 : UInt8) < 1)
  counted v i q hq hiface := by
    classical
    obtain ⟨rfl, -, -⟩ := interfaceAt_small.1 hiface
    have hown : (Finset.range smallDescriptors.length).filter (OwnEndpoint smallDescriptors 2) = {3} := by
      ext x
      rw [Finset.mem_filter, Finset.mem_range, ownEndpoint_small, Finset.mem_singleton]
      exact and_iff_right_of_imp fun h => h ▸ (by decide)
    have hcard := congrArg Finset.card hown
    rw [Finset.card_singleton] at hcard
    convert hcard using 1
    rfl
  numbers v n d h := by
    obtain ⟨-, rfl, -⟩ := occurs_small.1 h
    decide

/-- The small device is well formed. -/
theorem deviceRight_small : DeviceRight smallDescriptors bulkDevice where
  layout := by
    have hok : AllSucceed (newTable.createDescriptor (fun _ => 0) 43) smallDevice := by decide
    have hfull : (smallDevice.foldl DescBuild.after (newTable.createDescriptor (fun _ => 0) 43)).usedSize = 43 := by decide
    obtain ⟨hbuilt, hsize⟩ := (built_create newTable (fun _ => 0) 43).calls hok
    have hlayout := hbuilt.layout (hfull.trans hsize.symm)
    have hadded : [] ++ (newTable.createDescriptor (fun _ => 0) 43).allAdded smallDevice = smallDescriptors := by decide
    rwa [hadded] at hlayout
  descs := descRight_small
  slots := by
    refine ⟨fun i _ => (by decide : (1 : UInt8) ≠ 0), fun i hi j hj hnum δ hiδ hjδ => ?_⟩
    have hdir : ∀ k, (bulkDevice.endPoint k).HasDir δ → (if k = 1 then dirOut else dirIn) = δ.flag := by
      rintro k (hk | hk)
      · exact hk
      · change (if k = 1 then dirOut else dirIn) = configurable at hk
        split_ifs at hk <;> exact absurd hk (by decide)
    have hnum : (if i ≤ 1 then (0 : UInt8) else 1) = if j ≤ 1 then 0 else 1 := hnum
    have hsame := (hdir i hiδ).trans (hdir j hjδ).symm
    have hi : i < 3 := hi
    have hj : j < 3 := hj
    interval_cases i <;> interval_cases j <;> first | rfl | exact absurd hnum (by decide) | exact absurd hsame (by decide)

end Small

/-- A SET_CONFIGURATION request. -/
def selectRequest (v : UInt16) : DeviceRequest := { massDevice.inRequest with bRequest := 9, wValue := v }

theorem enabledRight_small : EnabledRight smallDescriptors bulkDevice := fun _ _ =>
  iff_of_false (by decide : (0 : UInt8) ≠ 1) fun h => h.1 rfl

/-- The device is configured, reset and configured again. -/
theorem enabledRight_reset :
    Always cfgStep (EnabledRight smallDescriptors) bulkDevice
        [.setConfiguration (selectRequest 1), .busReset, .setConfiguration (selectRequest 1), .disconnect] ↔
      AllSteps cfgStep (fun d e => e.LeavesNone smallDescriptors d) bulkDevice
        [.setConfiguration (selectRequest 1), .busReset, .setConfiguration (selectRequest 1), .disconnect] :=
  enabledRight_run_iff deviceRight_small enabledRight_small _

/-- **From one configuration to another.** The device has no configuration 7, and endpoint 1 stays enabled. -/
theorem configuration_unknown :
    DeviceRight smallDescriptors bulkDevice ∧ EnabledRight smallDescriptors bulkDevice ∧
      ¬ Always cfgStep (EnabledRight smallDescriptors) bulkDevice
        [.setConfiguration (selectRequest 1), .setConfiguration (selectRequest 7)] := by
  refine ⟨deviceRight_small, enabledRight_small, fun h => ?_⟩
  have hend : EnabledRight smallDescriptors (usbCfgDevice (usbCfgDevice bulkDevice 1) 7) := h.2.2
  obtain ⟨hright, hcfg, hslot⟩ := usbCfgDevice_spec deviceRight_small 1
  have hgood : EnabledRight smallDescriptors (usbCfgDevice bulkDevice 1) :=
    (usbCfgDevice_enabledRight_iff deviceRight_small enabledRight_small (by decide)).2 (.inl rfl)
  have hleft := (usbCfgDevice_enabledRight_iff hright hgood (by decide)).1 hend
  -- endpoint 1 is in configuration 1, and nothing is in configuration 7
  have hin : (bulkDevice.endPoint 2).OccursIn smallDescriptors 1 := ⟨.epIn, .inl rfl, occurs_small.2 ⟨rfl, rfl, rfl⟩⟩
  rw [hcfg] at hleft
  have hnew := (hleft.resolve_left (by decide)) 2 (by decide) (by rw [(hslot 2 (by decide)).1]; exact hin)
  obtain ⟨δ, -, hoccurs⟩ := hnew
  exact absurd (occurs_small.1 hoccurs).1 (by decide)

end BmcUsb
