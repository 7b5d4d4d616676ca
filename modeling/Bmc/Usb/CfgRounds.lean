import Bmc.Usb.Config
import Bmc.Usb.DescRoundTrip

/-!
# The endpoints that a configuration's loop visits

The loop over the endpoints of a configuration counts the endpoints of an interface down, and leaves out the numbers that are
left when the count is 0.

* `cfgRounds`: the rounds of the loop, if nothing were left out;
* **`forEndpoints_eq_foldl`**: nothing is left out when no interface has more endpoints than it announces;
* `DescRight`: descriptors that are nested and say how many interfaces and endpoints there are;
* **`mem_cfgRounds_iff`**, `length_interfaceRounds_le`: with such descriptors the rounds are those of the endpoints of the
  configuration, and not too many.
-/

namespace BmcUsb

open BmcLib

/-! ## Rounds -/

/-- The rounds for an endpoint number: the descriptor, the number and the direction. -/
def numberRounds (t : DescTable) (cfg iface : UInt8) (k : ℕ) : List (ℕ × UInt8 × UInt8) :=
  [dirOut, dirIn].filterMap fun dir =>
    (t.getEndpointDesc cfg iface (UInt8.ofNat (k + 1)) dir).map fun e => (e, UInt8.ofNat (k + 1), dir)

/-- The rounds for an interface. -/
def interfaceRounds (t : DescTable) (numEndpoints : UInt8) (cfg iface : UInt8) : List (ℕ × UInt8 × UInt8) :=
  (List.range numEndpoints.toNat).flatMap (numberRounds t cfg iface)

/-- The rounds for a configuration. -/
def cfgRounds (t : DescTable) (numEndpoints : UInt8) (cfg : UInt8) : List (ℕ × UInt8 × UInt8) :=
  (List.range (t.getNumInterfaces cfg).toNat).flatMap fun i => interfaceRounds t numEndpoints cfg (UInt8.ofNat i)

/-- A function that is run on the endpoints changes neither the descriptors nor the hardware. -/
def KeepsDesc (f : UsbDev → ℕ → UInt8 → UInt8 → UsbDev) : Prop :=
  ∀ d e n dir, (f d e n dir).desc = d.desc ∧ (f d e n dir).usbDevice = d.usbDevice

/-- Run a function on an endpoint. -/
def runRound (f : UsbDev → ℕ → UInt8 → UInt8 → UsbDev) (d : UsbDev) (x : ℕ × UInt8 × UInt8) : UsbDev :=
  f d x.1 x.2.1 x.2.2

section Rounds

variable {f : UsbDev → ℕ → UInt8 → UInt8 → UsbDev} {cfg iface : UInt8} {d : UsbDev}

theorem KeepsDesc.foldl (hf : KeepsDesc f) (xs : List (ℕ × UInt8 × UInt8)) (d : UsbDev) :
    (xs.foldl (runRound f) d).desc = d.desc ∧ (xs.foldl (runRound f) d).usbDevice = d.usbDevice := by
  induction xs generalizing d with
  | nil => exact ⟨rfl, rfl⟩
  | cons x xs ih =>
    have hx := hf d x.1 x.2.1 x.2.2
    exact ⟨(ih _).1.trans hx.1, (ih _).2.trans hx.2⟩

/-- The two directions of an endpoint number. -/
theorem directions_eq (hf : KeepsDesc f) (s : UsbDev × UInt8) (k : ℕ)
    (hle : (numberRounds s.1.desc cfg iface k).length ≤ s.2.toNat) :
    let s' := [dirOut, dirIn].foldl (endpointRound cfg iface (UInt8.ofNat (k + 1)) f) s
    s'.1 = (numberRounds s.1.desc cfg iface k).foldl (runRound f) s.1 ∧
      s'.2.toNat = s.2.toNat - (numberRounds s.1.desc cfg iface k).length := by
  have hkeep := fun e dir => (hf s.1 e (UInt8.ofNat (k + 1)) dir).1
  have hsub : ∀ n : UInt8, 1 ≤ n.toNat → (n - 1).toNat = n.toNat - 1 := fun n hn => UInt8.toNat_sub_of_le _ _ hn
  rw [numberRounds] at hle ⊢
  cases hout : s.1.desc.getEndpointDesc cfg iface (UInt8.ofNat (k + 1)) dirOut <;>
    cases hin : s.1.desc.getEndpointDesc cfg iface (UInt8.ofNat (k + 1)) dirIn <;>
    simp only [List.filterMap_cons, List.filterMap_nil, List.foldl_cons, List.foldl_nil, endpointRound, runRound, hout, hin,
      hkeep, Option.map_none, Option.map_some, List.length_cons, List.length_nil] at hle ⊢
  · exact ⟨trivial, rfl⟩
  · exact ⟨trivial, hsub _ hle⟩
  · exact ⟨trivial, hsub _ hle⟩
  · refine ⟨trivial, ?_⟩
    have hone := hsub s.2 (by omega)
    rw [hsub _ (by omega), hone]
    omega

/-- The endpoint numbers of an interface, when the count is large enough for what is left. -/
theorem numbers_eq (hf : KeepsDesc f) (ks : List ℕ) (s : UsbDev × UInt8)
    (hle : (ks.flatMap (numberRounds s.1.desc cfg iface)).length ≤ s.2.toNat) :
    (ks.foldl (fun s k => if s.2 = 0 then s else [dirOut, dirIn].foldl (endpointRound cfg iface (UInt8.ofNat (k + 1)) f) s) s).1 =
      (ks.flatMap (numberRounds s.1.desc cfg iface)).foldl (runRound f) s.1 := by
  induction ks generalizing s with
  | nil => rfl
  | cons k ks ih =>
    rw [List.flatMap_cons, List.length_append] at hle
    rw [List.foldl_cons, List.flatMap_cons, List.foldl_append]
    by_cases hzero : s.2 = 0
    · -- nothing is left
      have hempty : (numberRounds s.1.desc cfg iface k).length = 0 := by
        rw [hzero] at hle
        change _ ≤ 0 at hle
        omega
      rw [if_pos hzero, List.length_eq_zero_iff.1 hempty, List.foldl_nil]
      exact ih s (by omega)
    · have hk : (numberRounds s.1.desc cfg iface k).length ≤ s.2.toNat := by omega
      obtain ⟨hdev, hcount⟩ := directions_eq hf s k hk
      have hdesc := (hf.foldl (numberRounds s.1.desc cfg iface k) s.1).1
      rw [if_neg hzero, ih _ (by rw [hcount, hdev, hdesc]; omega), hdev, hdesc]

/-- An interface. -/
theorem interfaceRound_eq (hf : KeepsDesc f)
    (hle : (interfaceRounds d.desc d.usbDevice.numEndpoints cfg iface).length ≤ (d.desc.getNumEndpoints cfg iface).toNat) :
    interfaceRound cfg f d iface = (interfaceRounds d.desc d.usbDevice.numEndpoints cfg iface).foldl (runRound f) d :=
  numbers_eq hf _ (d, d.desc.getNumEndpoints cfg iface) hle

/-- **Nothing is left out** of the loop when no interface has more endpoints than it announces. -/
theorem forEndpoints_eq_foldl (hf : KeepsDesc f)
    (hle : ∀ iface, (interfaceRounds d.desc d.usbDevice.numEndpoints cfg iface).length ≤
      (d.desc.getNumEndpoints cfg iface).toNat) :
    forEndpoints cfg f d = (cfgRounds d.desc d.usbDevice.numEndpoints cfg).foldl (runRound f) d := by
  rw [forEndpoints, cfgRounds]
  generalize List.range (d.desc.getNumInterfaces cfg).toNat = is
  induction is generalizing d with
  | nil => rfl
  | cons i is ih =>
    obtain ⟨hdesc, husb⟩ := hf.foldl (interfaceRounds d.desc d.usbDevice.numEndpoints cfg (UInt8.ofNat i)) d
    rw [List.foldl_cons, interfaceRound_eq hf (hle _), ih (by rw [hdesc, husb]; exact hle), hdesc, husb, List.flatMap_cons,
      List.foldl_append]

end Rounds

/-! ## Descriptors that are right -/

/-- An endpoint of a number and a direction occurs in the descriptors of a configuration. -/
def Occurs (ks : List Descriptor) (v n : UInt8) (d : EpDir) : Prop := ∃ i p, EndpointAt ks v i n d p

open Classical in
/-- The descriptors are nested, a configuration announces its interfaces, an interface its endpoints, and the endpoints are
among those of the hardware. -/
structure DescRight (ks : List Descriptor) (numEndpoints : UInt8) : Prop extends Nested ks where
  announced : ∀ v i c q, ∀ hc : c < ks.length, ConfigAt ks v c → InterfaceAt ks v i q → i < ks[c].byte 4
  counted : ∀ v i q, ∀ hq : q < ks.length, InterfaceAt ks v i q →
    ((Finset.range ks.length).filter (OwnEndpoint ks q)).card = (ks[q].byte 4).toNat
  numbers : ∀ v n d, Occurs ks v n d → n ≠ 0 ∧ n ≤ numEndpoints

section Lookups

variable {t : DescTable} {ks : List Descriptor} {numEndpoints : UInt8} {v i n : UInt8} {d : EpDir} {o : ℕ}

/-- The lookups without checks find the endpoints, and no other ones. -/
theorem getEndpointDesc_eq_some_iff (L : Layout t ks) (h : Nested ks) :
    t.getEndpointDesc v i n d.flag = some o ↔ ∃ p, EndpointAt ks v i n d p ∧ o = descPos ks p := by
  obtain ⟨-, -, hendpoint⟩ := h.finds L
  obtain ⟨x, hx, hfinds⟩ := hendpoint v i n d
  rw [DescTable.getEndpointDesc_of_read hx]
  exact hfinds o

theorem getNumInterfaces_eq (L : Layout t ks) (h : Nested ks) {c : ℕ} (hc : c < ks.length) (hcfg : ConfigAt ks v c) :
    t.getNumInterfaces v = ks[c].byte 4 := by
  have hread := DescTable.getConfigDesc_of_read (((h.finds L).1 v).eq_some hcfg)
  have htype : ks[c].byte 1 = configuration := by
    have hany := hcfg.anyConfig
    rwa [atPos_of_lt hc, Descriptor.anyConfig_eq, decide_eq_true_eq] at hany
  rw [DescTable.getNumInterfaces, hread]
  exact L.holds c hc 4 (Descriptor.fixed_config htype (by decide))

theorem getNumEndpoints_eq (L : Layout t ks) (h : Nested ks) {q : ℕ} (hq : q < ks.length) (hi : InterfaceAt ks v i q) :
    t.getNumEndpoints v i = ks[q].byte 4 := by
  have hread := DescTable.getInterfaceDesc_of_read (((h.finds L).2.1 v i).eq_some hi)
  have htype : ks[q].byte 1 = interface := by
    obtain ⟨c, -, -, -, hi⟩ := hi
    rw [atPos_of_lt hq, Descriptor.isInterface_eq, Bool.and_eq_true, decide_eq_true_eq] at hi
    exact hi.1
  rw [DescTable.getNumEndpoints, hread]
  exact L.holds q hq 4 (Descriptor.fixed_interface htype (by decide))

theorem mem_directions {dir : UInt8} : dir ∈ [dirOut, dirIn] ↔ ∃ d : EpDir, dir = d.flag := by
  constructor
  · intro h
    rcases List.mem_cons.1 h with rfl | h
    · exact ⟨.epOut, rfl⟩
    · exact ⟨.epIn, List.mem_singleton.1 h⟩
  · rintro ⟨d, rfl⟩
    cases d <;> decide

theorem mem_interfaceRounds_iff {x : ℕ × UInt8 × UInt8} : x ∈ interfaceRounds t numEndpoints v i ↔
    ∃ k < numEndpoints.toNat, ∃ d : EpDir, t.getEndpointDesc v i (UInt8.ofNat (k + 1)) d.flag = some x.1 ∧
      x.2 = (UInt8.ofNat (k + 1), d.flag) := by
  simp only [interfaceRounds, numberRounds, List.mem_flatMap, List.mem_range, List.mem_filterMap, mem_directions,
    Option.map_eq_some_iff]
  constructor
  · rintro ⟨k, hk, dir, ⟨d, rfl⟩, e, he, rfl⟩
    exact ⟨k, hk, d, he, rfl⟩
  · rintro ⟨k, hk, d, he, hx⟩
    exact ⟨k, hk, d.flag, ⟨d, rfl⟩, x.1, he, by rw [← hx]⟩

/-- **Loop rule.** What a round for an endpoint that was found keeps, the loop keeps. -/
theorem forEndpoints_rule {P : UsbDev → Prop} {f : UsbDev → ℕ → UInt8 → UInt8 → UsbDev}
    (hf : ∀ (x : UsbDev) e i n (d : EpDir), P x → x.desc.getEndpointDesc v i n d.flag = some e → P (f x e n d.flag))
    {x : UsbDev}
    (hx : P x) : P (forEndpoints v f x) := by
  refine List.foldlRecOn _ _ hx fun x hx i _ => ?_
  refine List.foldlRecOn (motive := fun s : UsbDev × UInt8 => P s.1) _ _ hx fun s hs k _ => ?_
  split_ifs
  · exact hs
  refine List.foldlRecOn (motive := fun s : UsbDev × UInt8 => P s.1) _ _ hs fun s hs dir hdir => ?_
  obtain ⟨d, rfl⟩ := mem_directions.1 hdir
  rw [endpointRound]
  split
  · exact hs
  next e he => exact hf _ _ _ _ _ hs he

/-- **The rounds** are those of the endpoints of the configuration. -/
theorem mem_cfgRounds_iff (L : Layout t ks) (h : DescRight ks numEndpoints) {x : ℕ × UInt8 × UInt8} :
    x ∈ cfgRounds t numEndpoints v ↔ ∃ i n d p, EndpointAt ks v i n d p ∧ x = (descPos ks p, n, d.flag) := by
  simp only [cfgRounds, List.mem_flatMap, List.mem_range, mem_interfaceRounds_iff]
  constructor
  · rintro ⟨i, hi, k, hk, d, he, hx⟩
    obtain ⟨p, hp, ho⟩ := (getEndpointDesc_eq_some_iff L h.toNested).1 he
    exact ⟨_, _, d, p, hp, Prod.ext ho hx⟩
  · rintro ⟨i, n, d, p, hp, rfl⟩
    obtain ⟨q, hiface, -⟩ := id hp
    obtain ⟨c, -, hcfg, -⟩ := id hiface
    have hnum := getNumInterfaces_eq L h.toNested hcfg.lt hcfg
    have hi : i < t.getNumInterfaces v := hnum ▸ h.announced v i c q hcfg.lt hcfg hiface
    obtain ⟨hne, hle⟩ := h.numbers v n d ⟨i, p, hp⟩
    have hpos : 0 < n.toNat := Nat.pos_of_ne_zero fun hzero => hne (UInt8.toNat_inj.1 hzero)
    have hle : n.toNat ≤ numEndpoints.toNat := hle
    have hofNat : UInt8.ofNat (n.toNat - 1 + 1) = n := by
      rw [Nat.sub_add_cancel hpos, UInt8.ofNat_toNat]
    refine ⟨i.toNat, hi, n.toNat - 1, by omega, d, ?_, by rw [hofNat]⟩
    rw [hofNat, UInt8.ofNat_toNat]
    exact (getEndpointDesc_eq_some_iff L h.toNested).2 ⟨p, hp, rfl⟩

/-- An endpoint descriptor has one number and one direction. -/
theorem endpoint_unique {n' : UInt8} {d' : EpDir} {p : ℕ} (h : EndpointAt ks v i n d p) (h' : EndpointAt ks v i n' d' p) :
    n = n' ∧ d = d' := by
  obtain ⟨q, -, -, he⟩ := h
  obtain ⟨q', -, -, he'⟩ := h'
  obtain ⟨hp, he⟩ := atPos_iff.1 he
  rw [atPos_of_lt hp] at he'
  cases hk : ks[p] with
  | endpoint num dir attributes size interval =>
    rw [hk, Descriptor.isEndpoint, Bool.and_eq_true, decide_eq_true_eq, decide_eq_true_eq] at he he'
    exact ⟨he.1.symm.trans he'.1, he.2.symm.trans he'.2⟩
  | _ =>
    rw [hk] at he
    exact absurd he Bool.false_ne_true

/-- No endpoint has two rounds. -/
theorem nodup_interfaceRounds (t : DescTable) (numEndpoints v i : UInt8) : (interfaceRounds t numEndpoints v i).Nodup := by
  have hnum : ∀ {k x}, x ∈ numberRounds t v i k → x.2.1 = UInt8.ofNat (k + 1) := by
    intro k x hx
    obtain ⟨dir, -, hx⟩ := List.mem_filterMap.1 hx
    obtain ⟨e, -, rfl⟩ := Option.map_eq_some_iff.1 hx
    rfl
  rw [interfaceRounds, List.nodup_flatMap]
  constructor
  · intro k _
    refine List.Nodup.filterMap (fun dir dir' x hx hx' => ?_) (by decide)
    obtain ⟨e, -, rfl⟩ := Option.map_eq_some_iff.1 hx
    obtain ⟨e', -, heq⟩ := Option.map_eq_some_iff.1 hx'
    exact (congrArg (fun x => x.2.2) heq).symm
  · refine List.nodup_range.imp_of_mem fun {k k'} hk hk' hne x hx hx' => hne ?_
    have hlt := numEndpoints.toNat_lt
    have heq := congrArg UInt8.toNat ((hnum hx).symm.trans (hnum hx'))
    rw [List.mem_range] at hk hk'
    rw [UInt8.toNat_ofNat', UInt8.toNat_ofNat'] at heq
    omega

/-- An interface has no more endpoints than it announces. -/
theorem length_interfaceRounds_le (L : Layout t ks) (h : DescRight ks numEndpoints) (v i : UInt8) :
    (interfaceRounds t numEndpoints v i).length ≤ (t.getNumEndpoints v i).toNat := by
  classical
  have hat : ∀ x ∈ interfaceRounds t numEndpoints v i,
      ∃ n d p, EndpointAt ks v i n d p ∧ x = (descPos ks p, n, d.flag) := by
    intro x hx
    obtain ⟨k, -, d, he, hx⟩ := mem_interfaceRounds_iff.1 hx
    obtain ⟨p, hp, ho⟩ := (getEndpointDesc_eq_some_iff L h.toNested).1 he
    exact ⟨_, d, p, hp, Prod.ext ho hx⟩
  by_cases hq : ∃ q, InterfaceAt ks v i q
  · obtain ⟨q, hq⟩ := hq
    rw [getNumEndpoints_eq L h.toNested hq.lt hq, ← h.counted v i q hq.lt hq,
      ← List.toFinset_card_of_nodup (nodup_interfaceRounds t numEndpoints v i)]
    refine le_trans (Finset.card_le_card_of_injOn (fun x => x.1) ?_ ?_) (Finset.card_image_le (f := descPos ks))
    · intro x hx
      obtain ⟨n, d, p, hp, rfl⟩ := hat x (List.mem_toFinset.1 hx)
      obtain ⟨q', hq', hown, -⟩ := hp
      obtain rfl := h.interfaces v i q q' hq hq'
      exact Finset.mem_image.2 ⟨p, Finset.mem_filter.2 ⟨Finset.mem_range.2 hown.lt, hown⟩, rfl⟩
    · intro x hx y hy hxy
      obtain ⟨n, d, p, hp, rfl⟩ := hat x (List.mem_toFinset.1 hx)
      obtain ⟨n', d', p', hp', rfl⟩ := hat y (List.mem_toFinset.1 hy)
      obtain rfl := descPos_inj hp.lt.le hp'.lt.le hxy
      obtain ⟨rfl, rfl⟩ := endpoint_unique hp hp'
      rfl
  · have hempty : interfaceRounds t numEndpoints v i = [] := by
      refine List.eq_nil_iff_forall_not_mem.2 fun x hx => ?_
      obtain ⟨n, d, p, ⟨q, hiface, -⟩, -⟩ := hat x hx
      exact hq ⟨q, hiface⟩
    rw [hempty]
    exact Nat.zero_le _

end Lookups

end BmcUsb
