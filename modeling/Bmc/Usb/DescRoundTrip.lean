import Mathlib.Data.Nat.Bitwise
import Bmc.Usb.DescLayout

/-!
# The lookups find what was added

When the lookups give back exactly the descriptors of a buffer.

* `ConfigAt`, `InterfaceAt`, `EndpointAt`: where the descriptor of a configuration, an interface or an endpoint lies;
* `RoundTrip`: the lookups end, read inside of the buffer and find these descriptors, and the lengths are right;
* `Nested`, `WellNested`: how the descriptors have to be nested for that;
* **`roundTrip_iff`**: the one exactly when the other.
-/

namespace BmcUsb

open BmcLib

/-! ## Specification -/

/-- The descriptor of a configuration. -/
def ConfigAt (ks : List Descriptor) (v : UInt8) (p : ℕ) : Prop := atPos (Descriptor.isConfig v) ks p = true

/-- The descriptor of an interface: no other configuration begins between its configuration and it. -/
def InterfaceAt (ks : List Descriptor) (v i : UInt8) (q : ℕ) : Prop :=
  ∃ c < q, ConfigAt ks v c ∧ (∀ x, c < x → x < q → ¬ atPos Descriptor.anyConfig ks x = true) ∧
    atPos (Descriptor.isInterface i) ks q = true

/-- An endpoint of the interface at `q`: no other interface and no configuration begins between them. -/
def OwnEndpoint (ks : List Descriptor) (q p : ℕ) : Prop :=
  q < p ∧ (∀ x, q < x → x < p → ¬ atPos Descriptor.boundary ks x = true) ∧ atPos Descriptor.anyEndpoint ks p = true

/-- The descriptor of an endpoint. -/
def EndpointAt (ks : List Descriptor) (v i n : UInt8) (d : EpDir) (p : ℕ) : Prop :=
  ∃ q, InterfaceAt ks v i q ∧ OwnEndpoint ks q p ∧ atPos (Descriptor.isEndpoint n d) ks p = true

/-- A lookup ends without a read outside of the buffer, and finds the descriptors that are asked for and no other ones. -/
def Finds (ks : List Descriptor) (r : Option (Option ℕ)) (P : ℕ → Prop) : Prop :=
  ∃ x, r = some x ∧ ∀ o, x = some o ↔ ∃ p, P p ∧ o = descPos ks p

/-- `wTotalLength` of the configuration descriptor at an index. -/
def DescTable.wTotalLength (t : DescTable) (index : ℕ) : ℕ :=
  (t.descBuff (index + 2)).toNat + 256 * (t.descBuff (index + 3)).toNat

/-- **The round trip.** -/
structure RoundTrip (t : DescTable) (ks : List Descriptor) : Prop where
  config : ∀ v, Finds ks (t.readConfigDesc v) (ConfigAt ks v)
  interface : ∀ v i, Finds ks (t.readInterfaceDesc v i) (InterfaceAt ks v i)
  endpoint : ∀ v i n d, Finds ks (t.readEndpointDesc v i n d.flag) (EndpointAt ks v i n d)
  total : ∀ v p, ConfigAt ks v p →
    ∃ len, t.readConfigDescSize v = some len ∧ t.wTotalLength (descPos ks p) = len.toNat

/-! ## The condition -/

/-- `bNumEndpoints` of the interface at `q` is 0. -/
def NoneAnnounced (ks : List Descriptor) (q : ℕ) : Prop := atPos (fun k => k.byte 4 = 0) ks q = true

/-- The endpoints of the interface at `q` lie in one row, have different numbers or directions, and numbers of four bits; the
interface announces endpoints if it has some and, unless no endpoint follows at all, only then. -/
structure EndpointsRight (ks : List Descriptor) (q : ℕ) : Prop where
  none : (∀ x, ¬ OwnEndpoint ks q x) → NoneAnnounced ks q ∨ ∀ x, q < x → ¬ atPos Descriptor.anyEndpoint ks x = true
  announced : ∀ x, OwnEndpoint ks q x → ¬ NoneAnnounced ks q
  row : ∀ x y z, OwnEndpoint ks q x → x < y → y < z → OwnEndpoint ks q z → atPos Descriptor.anyEndpoint ks y = true
  small : ∀ x n d, OwnEndpoint ks q x → atPos (Descriptor.isEndpoint n d) ks x = true → n < 16
  distinct : ∀ x y n d, OwnEndpoint ks q x → OwnEndpoint ks q y → atPos (Descriptor.isEndpoint n d) ks x = true →
    atPos (Descriptor.isEndpoint n d) ks y = true → x = y

/-- The descriptors begin with one that is not a configuration, no two configurations have one value, no two interfaces of a
configuration have one number, and the endpoints of each interface are right. -/
structure Nested (ks : List Descriptor) : Prop where
  nonempty : 0 < ks.length
  first : ¬ atPos Descriptor.anyConfig ks 0 = true
  configs : ∀ v p p', ConfigAt ks v p → ConfigAt ks v p' → p = p'
  interfaces : ∀ v i q q', InterfaceAt ks v i q → InterfaceAt ks v i q' → q = q'
  endpoints : ∀ v i q, InterfaceAt ks v i q → EndpointsRight ks q

/-- In addition each configuration is as long as all that follows the first 18 bytes, modulo 256. -/
structure WellNested (ks : List Descriptor) (descSize : UInt16) : Prop extends Nested ks where
  totals : ∀ p e, atPos Descriptor.anyConfig ks p = true →
    FirstFrom (fun x => atPos Descriptor.anyConfig ks x = true) ks.length (p + 1) e →
    (descSize.toNat - deviceDescSize) % 256 = descPos ks e - descPos ks p

/-! ## What a lookup finds -/

section Finds

variable {ks : List Descriptor} {r : Option (Option ℕ)} {P : ℕ → Prop} {f : Descriptor → Bool} {p q : ℕ}

theorem Finds.eq_some (h : Finds ks r P) (hp : P p) : r = some (some (descPos ks p)) := by
  obtain ⟨x, rfl, hx⟩ := h
  rw [(hx _).2 ⟨p, hp, rfl⟩]

theorem Finds.eq_none (h : Finds ks r P) (hP : ∀ p, ¬ P p) : r = some none := by
  obtain ⟨x, rfl, hx⟩ := h
  cases x with
  | none => rfl
  | some o =>
    obtain ⟨p, hp, -⟩ := (hx o).1 rfl
    exact absurd hp (hP p)

/-- A lookup finds one descriptor at most. -/
theorem Finds.unique (h : Finds ks r P) (hlt : ∀ x, P x → x < ks.length) (hp : P p) (hq : P q) : p = q := by
  have heq := (h.eq_some hp).symm.trans (h.eq_some hq)
  exact descPos_inj (hlt p hp).le (hlt q hq).le (Option.some.inj (Option.some.inj heq))

theorem finds_none_iff : Finds ks (some none) P ↔ ∀ p, ¬ P p := by
  constructor
  · intro h p hp
    exact absurd (h.eq_some hp) (by simp)
  · intro h
    exact ⟨none, rfl, fun o => iff_of_false (by simp) fun ⟨p, hp, _⟩ => h p hp⟩

/-- A search finds the descriptors that are asked for when its result is the only one. -/
theorem finds_foundAt_iff (hlt : ∀ x, P x → x < ks.length) :
    Finds ks (some (foundAt ks f p)) P ↔ ∀ x, P x ↔ x = p ∧ atPos f ks p = true := by
  rw [foundAt]
  by_cases hf : atPos f ks p = true
  · rw [if_pos hf]
    constructor
    · intro h x
      have hpx : ∀ x, P x → x = p := fun x hx =>
        descPos_inj (hlt x hx).le (lt_of_atPos hf).le (Option.some.inj (Option.some.inj (h.eq_some hx))).symm
      refine ⟨fun hx => ⟨hpx x hx, hf⟩, ?_⟩
      rintro ⟨rfl, -⟩
      obtain ⟨y, hy, hP⟩ := h
      obtain ⟨z, hz, -⟩ := (hP (descPos ks x)).1 (Option.some.inj hy).symm
      exact hpx z hz ▸ hz
    · intro h
      refine ⟨_, rfl, fun o => ⟨fun ho => ⟨p, (h p).2 ⟨rfl, hf⟩, (Option.some.inj ho).symm⟩, ?_⟩⟩
      rintro ⟨x, hx, rfl⟩
      rw [((h x).1 hx).1]
  · rw [if_neg hf, finds_none_iff]
    exact forall_congr' fun x => (iff_false_right fun h => hf h.2).symm

end Finds

/-! ## Configurations and interfaces -/

section Nesting

variable {t : DescTable} {ks : List Descriptor} {v i : UInt8} {c p q : ℕ}

theorem ConfigAt.lt (h : ConfigAt ks v p) : p < ks.length := lt_of_atPos h

theorem ConfigAt.anyConfig (h : ConfigAt ks v p) : atPos Descriptor.anyConfig ks p = true :=
  atPos_mono (fun _ => Descriptor.anyConfig_of_isConfig) h

/-- A configuration has a value. -/
theorem exists_configAt (h : atPos Descriptor.anyConfig ks p = true) : ∃ v, ConfigAt ks v p := by
  obtain ⟨hp, hf⟩ := atPos_iff.1 h
  obtain ⟨v, hv⟩ : ∃ v, ks[p].isConfig v = true := by
    cases hk : ks[p] with
    | config total num value attributes => exact ⟨value, decide_eq_true rfl⟩
    | _ =>
      rw [hk] at hf
      exact absurd hf Bool.false_ne_true
  exact ⟨v, atPos_iff.2 ⟨hp, hv⟩⟩

theorem InterfaceAt.lt (h : InterfaceAt ks v i q) : q < ks.length := by
  obtain ⟨c, -, -, -, hi⟩ := h
  exact lt_of_atPos hi

theorem EndpointAt.lt {n : UInt8} {d : EpDir} (h : EndpointAt ks v i n d p) : p < ks.length := by
  obtain ⟨q, -, -, he⟩ := h
  exact lt_of_atPos he

/-- **Configurations** are found when the first descriptor is none and their values differ. -/
theorem configs_iff (L : Layout t ks) (hne : 0 < ks.length) :
    (∀ v, Finds ks (t.readConfigDesc v) (ConfigAt ks v)) ↔
      ¬ atPos Descriptor.anyConfig ks 0 = true ∧ ∀ v p p', ConfigAt ks v p → ConfigAt ks v p' → p = p' := by
  have hread : ∀ v p, FirstFrom (fun x => atPos (Descriptor.isConfig v) ks x = true) ks.length 1 p →
      (Finds ks (t.readConfigDesc v) (ConfigAt ks v) ↔ ∀ x, ConfigAt ks v x ↔ x = p ∧ ConfigAt ks v p) := by
    intro v p hp
    rw [L.readConfigDesc hne hp]
    exact finds_foundAt_iff fun _ hx => hx.lt
  constructor
  · intro h
    refine ⟨fun hfirst => ?_, fun v p p' hp hp' => (h v).unique (fun _ hx => hx.lt) hp hp'⟩
    obtain ⟨v, hv⟩ := exists_configAt hfirst
    obtain ⟨p, hp⟩ := exists_firstFrom (fun x => atPos (Descriptor.isConfig v) ks x = true) hne
    have hzero := (((hread v p hp).1 (h v) 0).1 hv).1
    exact absurd hp.le (by omega)
  · rintro ⟨hfirst, huniq⟩ v
    obtain ⟨p, hp⟩ := exists_firstFrom (fun x => atPos (Descriptor.isConfig v) ks x = true) hne
    refine (hread v p hp).2 fun x => ⟨fun hx => ?_, ?_⟩
    · have hpos : 1 ≤ x := by
        by_contra hzero
        obtain rfl : x = 0 := by omega
        exact hfirst hx.anyConfig
      have hfound : ConfigAt ks v p := hp.found ((hp.le_of hpos hx).trans_lt hx.lt)
      exact ⟨huniq v x p hx hfound, hfound⟩
    · rintro ⟨rfl, hx⟩
      exact hx

/-- **Interfaces** are found when the numbers in a configuration differ. -/
theorem interfaces_iff (L : Layout t ks) (hcfg : ∀ v, Finds ks (t.readConfigDesc v) (ConfigAt ks v)) :
    (∀ v i, Finds ks (t.readInterfaceDesc v i) (InterfaceAt ks v i)) ↔
      ∀ v i q q', InterfaceAt ks v i q → InterfaceAt ks v i q' → q = q' := by
  constructor
  · exact fun h v i q q' hq hq' => (h v i).unique (fun _ hx => hx.lt) hq hq'
  intro huniq v i
  by_cases hc : ∃ c, ConfigAt ks v c
  · obtain ⟨c, hc⟩ := hc
    obtain ⟨p, hp⟩ := exists_firstFrom (fun x => atPos (fun k => k.isInterface i || k.anyConfig) ks x = true)
      (Nat.succ_le_of_lt hc.lt)
    -- the walk stops at an interface of the number, and at a configuration
    have hstop : ∀ x, atPos (fun k => k.isInterface i || k.anyConfig) ks x = true ↔
        atPos (Descriptor.isInterface i) ks x = true ∨ atPos Descriptor.anyConfig ks x = true := by
      intro x
      simp only [atPos_iff, Bool.or_eq_true, ← exists_or]
    have hbetween : ∀ x, c < x → x < p → ¬ atPos Descriptor.anyConfig ks x = true := fun x hcx hxp hx =>
      hp.before x hcx hxp ((hstop x).2 (.inr hx))
    have hfound : atPos (Descriptor.isInterface i) ks p = true → InterfaceAt ks v i p :=
      fun hi => ⟨c, hp.le, hc, hbetween, hi⟩
    rw [L.readInterfaceDesc hc.lt ((hcfg v).eq_some hc) hp, finds_foundAt_iff fun _ hx => hx.lt]
    refine fun x => ⟨fun hx => ?_, ?_⟩
    · obtain ⟨c', hc'x, hc', hno, hi⟩ := id hx
      obtain rfl : c' = c := (hcfg v).unique (fun _ hx => hx.lt) hc' hc
      have hpx : p ≤ x := hp.le_of hc'x ((hstop x).2 (.inl hi))
      rcases hpx.eq_or_lt with rfl | hlt
      · exact ⟨rfl, hi⟩
      · have hiface : atPos (Descriptor.isInterface i) ks p = true :=
          ((hstop p).1 (hp.found (hlt.trans hx.lt))).resolve_right (hno p hp.le hlt)
        exact ⟨huniq v i x p hx (hfound hiface), hiface⟩
    · rintro ⟨rfl, hi⟩
      exact hfound hi
  · rw [DescTable.readInterfaceDesc, (hcfg v).eq_none fun c hcv => hc ⟨c, hcv⟩, Option.bind_some, finds_none_iff]
    rintro q ⟨c, -, hcv, -⟩
    exact hc ⟨c, hcv⟩

end Nesting

/-! ## Endpoints -/

section Address

variable {k : Descriptor} {n n' : UInt8} {d d' : EpDir}

/-- A number of four bits and a direction are read back from the address. -/
theorem address_of_small (hn : n < 16) (d : EpDir) :
    ((n ||| d.bits) &&& 0x0F) = n ∧ ((n ||| d.bits) &&& (0x80 : UInt8)) = d.flag <<< 7 := by
  have hsmall : ∀ m : Fin 16, ∀ d : EpDir, ((UInt8.ofNat m ||| d.bits) &&& 0x0F) = UInt8.ofNat m ∧
      ((UInt8.ofNat m ||| d.bits) &&& (0x80 : UInt8)) = d.flag <<< 7 := by
    intro m d
    cases d <;> revert m <;> decide
  have hlt : n.toNat < 16 := hn
  have h := hsmall ⟨n.toNat, hlt⟩ d
  rwa [UInt8.ofNat_toNat] at h

theorem flag_inj (h : d.flag <<< (7 : UInt8) = d'.flag <<< 7) : d = d' := by
  revert h
  cases d <;> cases d' <;> decide

theorem byte_two_of_isEndpoint (h : k.isEndpoint n d = true) : k.anyEndpoint = true ∧ k.byte 2 = n ||| d.bits := by
  cases k with
  | endpoint num dir attributes size interval =>
    rw [Descriptor.isEndpoint, Bool.and_eq_true, decide_eq_true_eq, decide_eq_true_eq] at h
    refine ⟨rfl, ?_⟩
    rw [← h.1, ← h.2]
    rfl
  | _ => exact absurd h Bool.false_ne_true

/-- An endpoint of a small number is found under its own address only. -/
theorem hasAddress_iff_of_small (h : k.isEndpoint n' d' = true) (hn : n' < 16) :
    k.hasAddress n d.flag = true ↔ n' = n ∧ d' = d := by
  obtain ⟨hany, hbyte⟩ := byte_two_of_isEndpoint h
  obtain ⟨hnum, hdir⟩ := address_of_small hn d'
  rw [Descriptor.hasAddress, hany, Bool.true_and, hbyte, hnum, hdir, Bool.and_eq_true, decide_eq_true_eq, decide_eq_true_eq]
  exact and_congr_right fun _ => ⟨flag_inj, fun h => h ▸ rfl⟩

/-- The number in an address has four bits. -/
theorem small_of_hasAddress {f : UInt8} (h : k.hasAddress n f = true) : n < 16 := by
  rw [Descriptor.hasAddress, Bool.and_eq_true, Bool.and_eq_true, decide_eq_true_eq] at h
  rw [← h.2.1]
  have hle : (k.byte 2 &&& 0x0F).toNat ≤ 15 := by
    rw [UInt8.toNat_and]
    exact Nat.and_le_right
  exact Nat.lt_succ_of_le hle

theorem anyEndpoint_of_hasAddress {f : UInt8} (h : k.hasAddress n f = true) : k.anyEndpoint = true := by
  rw [Descriptor.hasAddress, Bool.and_eq_true] at h
  exact h.1

/-- Every endpoint has an address. -/
theorem exists_hasAddress (h : k.anyEndpoint = true) : ∃ n, ∃ d : EpDir, k.hasAddress n d.flag = true := by
  have htop : (k.byte 2 &&& (0x80 : UInt8)).toNat = ((k.byte 2).toNat.testBit 7).toNat * 2 ^ 7 := by
    rw [UInt8.toNat_and]
    exact Nat.and_two_pow _ 7
  have hdir : ∃ d : EpDir, (k.byte 2 &&& (0x80 : UInt8)) = d.flag <<< 7 := by
    cases hbit : (k.byte 2).toNat.testBit 7 with
    | false =>
      rw [hbit] at htop
      exact ⟨.epOut, UInt8.toNat_inj.1 htop⟩
    | true =>
      rw [hbit] at htop
      exact ⟨.epIn, UInt8.toNat_inj.1 htop⟩
  obtain ⟨d, hd⟩ := hdir
  refine ⟨k.byte 2 &&& 0x0F, d, ?_⟩
  rw [Descriptor.hasAddress, h, hd, decide_eq_true rfl, decide_eq_true rfl]
  rfl

/-- Every endpoint has a number and a direction. -/
theorem exists_isEndpoint (h : k.anyEndpoint = true) : ∃ n, ∃ d : EpDir, k.isEndpoint n d = true := by
  cases k with
  | endpoint num dir attributes size interval =>
    refine ⟨num, dir, ?_⟩
    rw [Descriptor.isEndpoint, decide_eq_true rfl, decide_eq_true rfl]
    rfl
  | _ => exact absurd h Bool.false_ne_true

end Address

section Endpoints

variable {t : DescTable} {ks : List Descriptor} {v i n : UInt8} {d : EpDir} {p q x y : ℕ}

theorem OwnEndpoint.lt (h : OwnEndpoint ks q x) : x < ks.length := lt_of_atPos h.2.2

theorem not_boundary_of_anyEndpoint (h : atPos Descriptor.anyEndpoint ks x = true) :
    ¬ atPos Descriptor.boundary ks x = true := by
  obtain ⟨hx, he⟩ := atPos_iff.1 h
  rw [atPos_of_lt hx]
  cases hk : ks[x] with
  | endpoint => exact Bool.false_ne_true
  | _ =>
    rw [hk] at he
    exact absurd he Bool.false_ne_true

/-- An endpoint before another one of the interface is one of the interface. -/
theorem OwnEndpoint.of_le (h : OwnEndpoint ks q x) (hq : q < y) (hyx : y ≤ x) (he : atPos Descriptor.anyEndpoint ks y = true) :
    OwnEndpoint ks q y :=
  ⟨hq, fun z hqz hzy => h.2.1 z hqz (hzy.trans_le hyx), he⟩

theorem exists_isEndpointAt (h : atPos Descriptor.anyEndpoint ks x = true) :
    ∃ n, ∃ d, atPos (Descriptor.isEndpoint n d) ks x = true := by
  obtain ⟨hx, he⟩ := atPos_iff.1 h
  obtain ⟨n, d, hnd⟩ := exists_isEndpoint he
  exact ⟨n, d, atPos_iff.2 ⟨hx, hnd⟩⟩

theorem hasAddressAt_iff_of_small {n' : UInt8} {d' : EpDir} (h : atPos (Descriptor.isEndpoint n' d') ks x = true)
    (hn : n' < 16) :
    atPos (fun k => k.hasAddress n d.flag) ks x = true ↔ n' = n ∧ d' = d := by
  obtain ⟨hx, hk⟩ := atPos_iff.1 h
  rw [atPos_of_lt hx]
  exact hasAddress_iff_of_small hk hn

/-- The row of endpoints ends at an endpoint of the address, or at something else. -/
theorem rowStop_iff {f : UInt8} (x : ℕ) (hx : x < ks.length) :
    atPos (fun k => k.hasAddress n f || !k.anyEndpoint) ks x = true ↔
      atPos (Descriptor.hasAddress n f) ks x = true ∨ ¬ atPos Descriptor.anyEndpoint ks x = true := by
  rw [atPos_of_lt hx, atPos_of_lt hx, atPos_of_lt hx, Bool.or_eq_true, Bool.not_eq_true', Bool.not_eq_true]

/-- The endpoint that is found for an interface: from the first endpoint behind it on, the first one of the address, if there
are but endpoints before it. -/
def FoundEndpoint (ks : List Descriptor) (q : ℕ) (n : UInt8) (d : EpDir) (x : ℕ) : Prop :=
  ¬ NoneAnnounced ks q ∧ ∃ p, FirstFrom (fun x => atPos Descriptor.anyEndpoint ks x = true) ks.length (q + 1) p ∧
    FirstFrom (fun x => atPos (fun k => k.hasAddress n d.flag || !k.anyEndpoint) ks x = true) ks.length p x ∧
    atPos (Descriptor.hasAddress n d.flag) ks x = true

/-- `GetEndpointDesc` finds this endpoint. -/
theorem finds_endpoint_iff (L : Layout t ks) (hi : atPos (Descriptor.isInterface i) ks q = true)
    (hread : t.readInterfaceDesc v i = some (some (descPos ks q))) {P : ℕ → Prop} (hP : ∀ x, P x → x < ks.length) :
    Finds ks (t.readEndpointDesc v i n d.flag) P ↔ ∀ x, P x ↔ FoundEndpoint ks q n d x := by
  have hq : q < ks.length := lt_of_atPos hi
  have hnone : NoneAnnounced ks q ↔ ks[q].byte 4 = 0 := by
    rw [NoneAnnounced, atPos_of_lt hq, decide_eq_true_eq]
  obtain ⟨p, hp⟩ := exists_firstFrom (fun x => atPos Descriptor.anyEndpoint ks x = true) (Nat.succ_le_of_lt hq)
  have hfirst := L.readFirstEndpoint hq hi hread hp
  by_cases hsome : ¬ NoneAnnounced ks q ∧ p < ks.length
  · obtain ⟨y, hy⟩ :=
      exists_firstFrom (fun x => atPos (fun k => k.hasAddress n d.flag || !k.anyEndpoint) ks x = true) hsome.2.le
    rw [if_neg fun hzero => hsome.1 (hnone.2 hzero), foundAt, if_pos (hp.found hsome.2)] at hfirst
    rw [L.readEndpointDesc hfirst hy, finds_foundAt_iff hP]
    refine forall_congr' fun x => iff_congr Iff.rfl ⟨?_, ?_⟩
    · rintro ⟨rfl, haddr⟩
      exact ⟨hsome.1, p, hp, hy, haddr⟩
    · rintro ⟨-, p', hp', hx, haddr⟩
      obtain rfl := hp.unique hp'
      obtain rfl := hy.unique hx
      exact ⟨rfl, haddr⟩
  · have hempty : t.readFirstEndpoint v i = some none := by
      rw [hfirst]
      split_ifs with hzero
      · rfl
      · have hend : ¬ p < ks.length := fun hlt => hsome ⟨fun h => hzero (hnone.1 h), hlt⟩
        rw [foundAt, if_neg fun he => hend (lt_of_atPos he)]
    rw [DescTable.readEndpointDesc, hempty, Option.bind_some, finds_none_iff]
    refine forall_congr' fun x => (iff_false_right ?_).symm
    rintro ⟨hannounced, p', hp', hx, haddr⟩
    obtain rfl := hp.unique hp'
    exact hsome ⟨hannounced, hx.le.trans_lt (lt_of_atPos haddr)⟩

/-- An interface whose endpoints are found has its endpoints right. -/
theorem endpointsRight_of_found
    (h : ∀ n d x, OwnEndpoint ks q x ∧ atPos (Descriptor.isEndpoint n d) ks x = true ↔ FoundEndpoint ks q n d x) :
    EndpointsRight ks q where
  none hnone := by
    by_contra hno
    rw [not_or, not_forall] at hno
    obtain ⟨hannounced, x, hx⟩ := hno
    rw [Classical.not_imp, not_not] at hx
    obtain ⟨p, hp⟩ := exists_firstFrom (fun x => atPos Descriptor.anyEndpoint ks x = true) (hx.1.trans (lt_of_atPos hx.2))
    have hlt : p < ks.length := (hp.le_of hx.1 hx.2).trans_lt (lt_of_atPos hx.2)
    obtain ⟨_, hany⟩ := atPos_iff.1 (hp.found hlt)
    obtain ⟨n, d, hnd⟩ := exists_hasAddress hany
    have haddr : atPos (Descriptor.hasAddress n d.flag) ks p = true := atPos_iff.2 ⟨hlt, hnd⟩
    -- the first endpoint behind the interface is found under its own address
    refine hnone p ((h n d p).2 ⟨hannounced, p, hp, ⟨le_refl p, hlt.le, fun y hpy hyp => ?_, fun _ => ?_⟩, haddr⟩).1
    · exact absurd hyp (not_lt.2 hpy)
    · exact (rowStop_iff p hlt).2 (.inl haddr)
  announced x hx := by
    obtain ⟨n, d, hnd⟩ := exists_isEndpointAt hx.2.2
    exact ((h n d x).1 ⟨hx, hnd⟩).1
  row x y z hx hxy hyz hz := by
    obtain ⟨n, d, hnd⟩ := exists_isEndpointAt hz.2.2
    obtain ⟨-, p, hp, hrow, -⟩ := (h n d z).1 ⟨hz, hnd⟩
    have hgo := hrow.before y ((hp.le_of hx.1 hx.2.2).trans hxy.le) hyz
    rw [rowStop_iff y (hyz.trans hz.lt), not_or, not_not] at hgo
    exact hgo.2
  small x n d hx hnd := by
    obtain ⟨-, p, -, -, haddr⟩ := (h n d x).1 ⟨hx, hnd⟩
    obtain ⟨_, haddr⟩ := atPos_iff.1 haddr
    exact small_of_hasAddress haddr
  distinct x y n d hx hy hnx hny := by
    obtain ⟨-, p, hp, hrow, -⟩ := (h n d x).1 ⟨hx, hnx⟩
    obtain ⟨-, p', hp', hrow', -⟩ := (h n d y).1 ⟨hy, hny⟩
    obtain rfl := hp.unique hp'
    exact hrow.unique hrow'

/-- The endpoints of an interface are found when they are right. -/
theorem found_of_endpointsRight (h : EndpointsRight ks q) (n : UInt8) (d : EpDir) (x : ℕ) :
    OwnEndpoint ks q x ∧ atPos (Descriptor.isEndpoint n d) ks x = true ↔ FoundEndpoint ks q n d x := by
  have haddress : ∀ {x n' d'}, OwnEndpoint ks q x → atPos (Descriptor.isEndpoint n' d') ks x = true →
      (atPos (Descriptor.hasAddress n d.flag) ks x = true ↔ n' = n ∧ d' = d) := fun hx hnd =>
    hasAddressAt_iff_of_small hnd (h.small _ _ _ hx hnd)
  constructor
  · rintro ⟨hx, hnd⟩
    obtain ⟨p, hp⟩ := exists_firstFrom (fun x => atPos Descriptor.anyEndpoint ks x = true) (hx.1.trans hx.lt)
    have hpx : p ≤ x := hp.le_of hx.1 hx.2.2
    have hpown : OwnEndpoint ks q p := hx.of_le hp.le hpx (hp.found (hpx.trans_lt hx.lt))
    have haddr := (haddress hx hnd).2 ⟨rfl, rfl⟩
    refine ⟨h.announced x hx, p, hp, ⟨hpx, hx.lt.le, fun y hpy hyx => ?_, fun _ => ?_⟩, haddr⟩
    · have hany : atPos Descriptor.anyEndpoint ks y = true := by
        rcases hpy.eq_or_lt with rfl | hpy
        · exact hpown.2.2
        · exact h.row p y x hpown hpy hyx hx
      have hyown : OwnEndpoint ks q y := hx.of_le (hp.le.trans hpy) hyx.le hany
      rw [rowStop_iff y hyown.lt, not_or, not_not]
      refine ⟨fun hyaddr => ?_, hany⟩
      obtain ⟨n', d', hnd'⟩ := exists_isEndpointAt hany
      obtain ⟨rfl, rfl⟩ := (haddress hyown hnd').1 hyaddr
      exact absurd (h.distinct y x n' d' hyown hx hnd' hnd) hyx.ne
    · exact (rowStop_iff x hx.lt).2 (.inl haddr)
  · rintro ⟨hannounced, p, hp, hrow, haddr⟩
    have hx : x < ks.length := lt_of_atPos haddr
    have hany : atPos Descriptor.anyEndpoint ks x = true := atPos_mono (fun _ => anyEndpoint_of_hasAddress) haddr
    have hpany := hp.found (hrow.le.trans_lt hx)
    -- the row begins with the first endpoint of the interface, and there are but endpoints in it
    have hpown : OwnEndpoint ks q p := by
      by_contra hpown
      have hnone : ∀ x, ¬ OwnEndpoint ks q x := fun x hx => hpown (hx.of_le hp.le (hp.le_of hx.1 hx.2.2) hpany)
      rcases h.none hnone with hzero | hafter
      · exact hannounced hzero
      · exact hafter p hp.le hpany
    have hown : OwnEndpoint ks q x := by
      refine ⟨hp.le.trans hrow.le, fun z hqz hzx => ?_, hany⟩
      rcases lt_or_ge z p with hzp | hpz
      · exact hpown.2.1 z hqz hzp
      · have hgo := hrow.before z hpz hzx
        rw [rowStop_iff z (hzx.trans hx), not_or, not_not] at hgo
        exact not_boundary_of_anyEndpoint hgo.2
    obtain ⟨n', d', hnd'⟩ := exists_isEndpointAt hany
    obtain ⟨rfl, rfl⟩ := (haddress hown hnd').1 haddr
    exact ⟨hown, hnd'⟩

/-- **Endpoints** are found exactly when those of each interface are right. -/
theorem endpoints_iff (L : Layout t ks) (hiface : ∀ v i, Finds ks (t.readInterfaceDesc v i) (InterfaceAt ks v i)) :
    (∀ v i n d, Finds ks (t.readEndpointDesc v i n d.flag) (EndpointAt ks v i n d)) ↔
      ∀ v i q, InterfaceAt ks v i q → EndpointsRight ks q := by
  -- with the interface, what is asked for and what is found
  have hfind : ∀ v i q, InterfaceAt ks v i q → ∀ n d, Finds ks (t.readEndpointDesc v i n d.flag) (EndpointAt ks v i n d) ↔
      ∀ x, OwnEndpoint ks q x ∧ atPos (Descriptor.isEndpoint n d) ks x = true ↔ FoundEndpoint ks q n d x := by
    intro v i q hq n d
    have hi : atPos (Descriptor.isInterface i) ks q = true := by
      obtain ⟨c, -, -, -, hi⟩ := hq
      exact hi
    rw [finds_endpoint_iff L hi ((hiface v i).eq_some hq) fun _ hx => hx.lt]
    refine forall_congr' fun x => iff_congr ⟨?_, fun hx => ⟨q, hq, hx⟩⟩ Iff.rfl
    rintro ⟨q', hq', hx⟩
    obtain rfl := (hiface v i).unique (fun _ hx => hx.lt) hq hq'
    exact hx
  constructor
  · intro h v i q hq
    exact endpointsRight_of_found fun n d => (hfind v i q hq n d).1 (h v i n d)
  · intro h v i n d
    by_cases hq : ∃ q, InterfaceAt ks v i q
    · obtain ⟨q, hq⟩ := hq
      exact (hfind v i q hq n d).2 (found_of_endpointsRight (h v i q hq) n d)
    · have hempty : t.readFirstEndpoint v i = some none := by
        rw [DescTable.readFirstEndpoint, (hiface v i).eq_none fun q hiq => hq ⟨q, hiq⟩]
        rfl
      rw [DescTable.readEndpointDesc, hempty, Option.bind_some, finds_none_iff]
      rintro x ⟨q, hiq, -⟩
      exact hq ⟨q, hiq⟩

/-- **Descriptors that are nested** are found. -/
theorem Nested.finds (h : Nested ks) (L : Layout t ks) :
    (∀ v, Finds ks (t.readConfigDesc v) (ConfigAt ks v)) ∧
      (∀ v i, Finds ks (t.readInterfaceDesc v i) (InterfaceAt ks v i)) ∧
      ∀ v i n d, Finds ks (t.readEndpointDesc v i n d.flag) (EndpointAt ks v i n d) := by
  have hconfig := (configs_iff L h.nonempty).2 ⟨h.first, h.configs⟩
  have hinterface := (interfaces_iff L hconfig).2 h.interfaces
  exact ⟨hconfig, hinterface, (endpoints_iff L hinterface).2 h.endpoints⟩

end Endpoints

/-! ## Lengths -/

section Totals

variable {t : DescTable} {ks : List Descriptor}

/-- What the configurations of a buffer have for their length: all that follows the first 18 bytes, in eight bits. -/
def TotalsSet (t : DescTable) (ks : List Descriptor) : Prop :=
  ∀ p, ∀ h : p < ks.length, ks[p].anyConfig = true →
    (ks[p].byte 2).toNat = (t.descSize.toNat - deviceDescSize) % 256 ∧ ks[p].byte 3 = 0

theorem wTotalLength_eq (L : Layout t ks) (hset : TotalsSet t ks) {p : ℕ} (h : atPos Descriptor.anyConfig ks p = true) :
    t.wTotalLength (descPos ks p) = (t.descSize.toNat - deviceDescSize) % 256 := by
  obtain ⟨hp, hk⟩ := atPos_iff.1 h
  obtain ⟨hlo, hhi⟩ := hset p hp hk
  rw [Descriptor.anyConfig_eq, decide_eq_true_eq] at hk
  rw [DescTable.wTotalLength, L.holds p hp 2 (Descriptor.fixed_config hk (by decide)),
    L.holds p hp 3 (Descriptor.fixed_config hk (by decide)), hlo, hhi]
  rfl

/-- **Lengths** are right exactly when every configuration is that long. -/
theorem totals_iff (L : Layout t ks) (hset : TotalsSet t ks) (hcfg : ∀ v, Finds ks (t.readConfigDesc v) (ConfigAt ks v)) :
    (∀ v p, ConfigAt ks v p →
        ∃ len, t.readConfigDescSize v = some len ∧ t.wTotalLength (descPos ks p) = len.toNat) ↔
      ∀ p e, atPos Descriptor.anyConfig ks p = true →
        FirstFrom (fun x => atPos Descriptor.anyConfig ks x = true) ks.length (p + 1) e →
        (t.descSize.toNat - deviceDescSize) % 256 = descPos ks e - descPos ks p := by
  have hread : ∀ v p e, ConfigAt ks v p → FirstFrom (fun x => atPos Descriptor.anyConfig ks x = true) ks.length (p + 1) e →
      ((∃ len, t.readConfigDescSize v = some len ∧ t.wTotalLength (descPos ks p) = len.toNat) ↔
        (t.descSize.toNat - deviceDescSize) % 256 = descPos ks e - descPos ks p) := by
    intro v p e hp he
    have hle : descPos ks e ≤ t.descSize.toNat := by
      rw [← L.fills]
      exact recordPos_le Descriptor.size_pos he.le_end (le_refl _)
    have hsmall : descPos ks e - descPos ks p < 2 ^ 16 := by
      have hlt := t.descSize.toNat_lt
      omega
    rw [L.readConfigDescSize hp.lt ((hcfg v).eq_some hp) he, wTotalLength_eq L hset hp.anyConfig]
    simp only [Option.some.injEq, exists_eq_left', UInt16.toNat_ofNat_of_lt' hsmall]
  constructor
  · intro h p e hp he
    obtain ⟨v, hv⟩ := exists_configAt hp
    exact (hread v p e hv he).1 (h v p hv)
  · intro h v p hp
    obtain ⟨e, he⟩ := exists_firstFrom (fun x => atPos Descriptor.anyConfig ks x = true) (Nat.succ_le_of_lt hp.lt)
    exact (hread v p e hp he).2 (h p e hp.anyConfig he)

/-- **The lookups give back what the buffer holds** exactly when the descriptors are well nested. -/
theorem roundTrip_iff (L : Layout t ks) (hset : TotalsSet t ks) : RoundTrip t ks ↔ WellNested ks t.descSize := by
  by_cases hne : 0 < ks.length
  · constructor
    · intro h
      obtain ⟨hfirst, hconfigs⟩ := (configs_iff L hne).1 h.config
      exact ⟨⟨hne, hfirst, hconfigs, (interfaces_iff L h.config).1 h.interface, (endpoints_iff L h.interface).1 h.endpoint⟩,
        (totals_iff L hset h.config).1 h.total⟩
    · intro h
      obtain ⟨hconfig, hinterface, hendpoint⟩ := h.toNested.finds L
      exact ⟨hconfig, hinterface, hendpoint, (totals_iff L hset hconfig).2 h.totals⟩
  · -- without any descriptor the first read is outside of the buffer
    refine iff_of_false (fun h => ?_) fun h => hne h.nonempty
    have hempty : t.read 0 = none := by
      have hzero : ks.length = 0 := Nat.eq_zero_of_not_pos hne
      have hsize : t.descSize.toNat = 0 := by
        rw [← L.fills, hzero]
        rfl
      rw [DescTable.read, hsize, if_neg (lt_irrefl 0)]
    obtain ⟨x, hx, -⟩ := h.config 0
    rw [DescTable.readConfigDesc, hempty] at hx
    exact absurd hx (by simp)

end Totals

end BmcUsb
