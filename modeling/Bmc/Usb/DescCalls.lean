import Bmc.Usb.DescRoundTrip

/-!
# Building descriptors and looking them up

The descriptor buffer after a sequence of calls that fill it.

* `DescCall`: a call of one of the builders; `DescBuild.added`: the descriptor that it adds;
* `Built`: what has been added is in the buffer, with `Built.call`: every call that succeeds keeps that;
* **`descriptors_roundTrip_iff`**: when the lookups find exactly what the calls have added.
-/

namespace BmcUsb

open BmcLib

/-! ## Calls -/

/-- A call of a builder. -/
inductive DescCall where
  | device (vendorId productId deviceRev : UInt16) (manufStr prodStr : Option (List UInt8)) (isThisLunDev : Bool)
      (usbHwGetdevicetypeEps : Option (Option EpTable))
  | cfg (numInterfaces : UInt8) (hid : Bool)
  | interface (bNumEndPoints bClass bSubClass bProtocol : UInt8) (intStr : Option (List UInt8))
  | hid (reportSize : UInt16)
  | endpoint (c : EpCall)

namespace DescBuild

/-- A call: the table it leaves, and whether it succeeds. -/
def call (b : DescBuild) : DescCall → DescBuild × Bool
  | .device vendorId productId deviceRev manufStr prodStr lun eps =>
    b.addDeviceDesc vendorId productId deviceRev manufStr prodStr lun eps
  | .cfg numInterfaces hid => b.addCfgDesc numInterfaces hid
  | .interface bNumEndPoints bClass bSubClass bProtocol intStr =>
    b.addInterfaceDesc bNumEndPoints bClass bSubClass bProtocol intStr
  | .hid reportSize => b.addHidDesc reportSize
  | .endpoint c => b.addEndPointDesc c.dir c.type c.minPktSize c.maxPktSize c.interval

/-- The table after a call. -/
def after (b : DescBuild) (c : DescCall) : DescBuild := (b.call c).1

/-- The descriptor that a call adds when it succeeds. -/
def added (b : DescBuild) : DescCall → Descriptor
  | .device vendorId productId deviceRev manufStr prodStr lun _ =>
    let (b, iManufacturer) := b.addString manufStr
    let (b, iProduct) := b.addString prodStr
    let (b, iSerialNumber) := b.addString (if lun then some serial else none)
    .device b.ep0Size.toUInt8 vendorId productId deviceRev iManufacturer iProduct iSerialNumber
  | .cfg numInterfaces hid =>
    .config b.cfgTotalSize numInterfaces b.desc.nextCfgId (if hid then selfPowered ||| remoteWakeup else selfPowered)
  | .interface bNumEndPoints bClass bSubClass bProtocol intStr =>
    .interface b.nextIfNum bNumEndPoints bClass bSubClass bProtocol
      ({ b with nextIfNum := b.nextIfNum + 1 }.addString intStr).2
  | .hid reportSize => .hid reportSize
  | .endpoint c =>
    let (nextEpNum, epBufSize, _) := selectSuitableEndpoint b.eps c.request
    .endpoint nextEpNum c.dir c.type epBufSize c.interval

/-- The descriptors that a sequence of calls adds. -/
def allAdded (b : DescBuild) : List DescCall → List Descriptor
  | [] => []
  | c :: cs => b.added c :: (b.after c).allAdded cs

end DescBuild

/-! ## What the buffer holds -/

/-- The descriptors are in the buffer, from its beginning on. -/
structure Built (b : DescBuild) (ks : List Descriptor) : Prop where
  used : b.usedSize.toNat = descPos ks ks.length
  le : b.usedSize.toNat ≤ b.desc.descSize.toNat
  holds : Stored b.desc.descBuff ks
  totals : TotalsSet b.desc ks

section Built

variable {b b' : DescBuild} {ks : List Descriptor} {k : Descriptor}

/-- An empty buffer. -/
theorem built_create (b : DescBuild) (mem : ℕ → UInt8) (descSize : UInt16) : Built (b.createDescriptor mem descSize) [] where
  used := rfl
  le := Nat.zero_le _
  holds p h := absurd h (Nat.not_lt_zero p)
  totals p h := absurd h (Nat.not_lt_zero p)

/-- Only the buffer matters. -/
theorem Built.congr (h : Built b ks) (hused : b'.usedSize = b.usedSize) (hsize : b'.desc.descSize = b.desc.descSize)
    (hbuff : b'.desc.descBuff = b.desc.descBuff) : Built b' ks where
  used := by rw [hused, h.used]
  le := by rw [hused, hsize]; exact h.le
  holds := by rw [hbuff]; exact h.holds
  totals p hp hk := by rw [hsize]; exact h.totals p hp hk

/-- **`AddDescriptor`** adds a descriptor behind the others. -/
theorem Built.addDescriptor (h : Built b ks)
    (hset : k.anyConfig = true → (k.byte 2).toNat = (b.desc.descSize.toNat - deviceDescSize) % 256 ∧ k.byte 3 = 0)
    (hok : (b.addDescriptor k.bytes).2 = true) : Built (b.addDescriptor k.bytes).1 (ks ++ [k]) := by
  rw [DescBuild.addDescriptor] at hok ⊢
  split_ifs at hok ⊢ with hfull
  have hlen : (ks ++ [k]).length = ks.length + 1 := by rw [List.length_append, List.length_singleton]
  have hend : descPos (ks ++ [k]) ks.length = b.usedSize.toNat := by
    rw [h.used]
    exact recordPos_append _ _ _ (le_refl _)
  have hnext : descPos (ks ++ [k]) (ks.length + 1) = b.usedSize.toNat + k.size := by
    rw [descPos, recordPos_succ (by omega), ← hend, List.getElem_concat_length rfl]
  have hsize : k.bytes.length = k.size := rfl
  have hlt := b.desc.descSize.toNat_lt
  have hle := h.le
  have hused : (b.usedSize + UInt16.ofNat k.bytes.length).toNat = b.usedSize.toNat + k.size := by
    rw [UInt16.toNat_add, UInt16.toNat_ofNat', hsize]
    omega
  refine ⟨?_, ?_, fun p hp j hj => ?_, fun p hp hk => ?_⟩
  · rw [hlen, hnext]
    exact hused
  · change (b.usedSize + UInt16.ofNat k.bytes.length).toNat ≤ b.desc.descSize.toNat
    omega
  · rcases Nat.lt_succ_iff_lt_or_eq.1 (hlen ▸ hp) with hp' | rfl
    · have hget : (ks ++ [k])[p] = ks[p] := List.getElem_append_left hp'
      have hpos : descPos (ks ++ [k]) p = descPos ks p := recordPos_append _ _ _ hp'.le
      rw [hget] at hj ⊢
      have hbefore : descPos ks p + j < b.usedSize.toNat := by
        have hsucc : descPos ks (p + 1) = descPos ks p + ks[p].size := recordPos_succ hp'
        have hle : descPos ks (p + 1) ≤ descPos ks ks.length := recordPos_le Descriptor.size_pos hp' (le_refl _)
        have hj' := hj.1
        have hused := h.used
        omega
      rw [hpos]
      exact (store_apply_lt hbefore).trans (h.holds p hp' j hj)
    · rw [List.getElem_concat_length rfl] at hj ⊢
      rw [hend]
      refine (store_apply_add hj.1).trans ?_
      rw [Descriptor.byte, List.getD_eq_getElem _ _ hj.1]
  · rcases Nat.lt_succ_iff_lt_or_eq.1 (hlen ▸ hp) with hp' | rfl
    · have hget : (ks ++ [k])[p] = ks[p] := List.getElem_append_left hp'
      rw [hget] at hk ⊢
      exact h.totals p hp' hk
    · rw [List.getElem_concat_length rfl] at hk ⊢
      exact hset hk

/-- Entering a string leaves the buffer alone. -/
theorem Built.addString (h : Built b ks) (str : Option (List UInt8)) : Built (b.addString str).1 ks := by
  cases str <;> exact h.congr rfl rfl rfl

/-- `bNumConfigurations` is a byte of a device descriptor, or of an empty buffer. -/
theorem Built.startConfig (h : Built b ks) {dev : ℕ} (hdev : b.desc.getDeviceDesc = some dev) :
    Built (b.startConfig dev) ks := by
  have hdevice : b.desc.descBuff 1 = device ∧ dev = 0 := by
    rw [DescTable.getDeviceDesc] at hdev
    split_ifs at hdev with hsmall htype
    exact ⟨not_not.1 htype, (Option.some.inj hdev).symm⟩
  obtain ⟨htype, rfl⟩ := hdevice
  refine ⟨h.used, h.le, ?_, h.totals⟩
  rcases Nat.eq_zero_or_pos ks.length with hzero | hpos
  · exact fun p hp => absurd hp (by omega)
  · have hfirst : ks[0].byte 1 = device := by
      rw [← h.holds 0 hpos 1 ks[0].fixed_one]
      exact htype
    refine h.holds.store (p := 0) hpos (j := 17) fun i hi => ?_
    obtain rfl : i = 0 := by
      rw [List.length_singleton] at hi
      omega
    rw [Descriptor.patched_of_device hfirst]
    decide

/-- What `AddCfgDesc` enters for the length. -/
theorem cfgTotalSize_eq {dev : ℕ} (hdev : b.desc.getDeviceDesc = some dev) :
    b.cfgTotalSize.toNat = (b.desc.descSize.toNat - deviceDescSize) % 256 := by
  have hsize : deviceDescSize ≤ b.desc.descSize.toNat := by
    rw [DescTable.getDeviceDesc] at hdev
    split_ifs at hdev with hsmall htype
    exact not_lt.1 hsmall
  have hle : UInt16.ofNat deviceDescSize ≤ b.desc.descSize := hsize
  rw [DescBuild.cfgTotalSize, UInt16.toNat_toUInt8, UInt16.toNat_sub_of_le _ _ hle]
  rfl

theorem addDescriptor_descSize (b : DescBuild) (desc : List UInt8) :
    (b.addDescriptor desc).1.desc.descSize = b.desc.descSize := by
  rw [DescBuild.addDescriptor]
  split_ifs <;> rfl

theorem addString_descSize (b : DescBuild) (str : Option (List UInt8)) :
    (b.addString str).1.desc.descSize = b.desc.descSize := by
  cases str <;> rfl

/-- A builder that ends with `AddDescriptor`. -/
theorem Built.add {r : DescBuild × Bool} (h : Built b' ks) (hr : r = b'.addDescriptor k.bytes)
    (hset : k.anyConfig = true → (k.byte 2).toNat = (b'.desc.descSize.toNat - deviceDescSize) % 256 ∧ k.byte 3 = 0)
    (hsize : b'.desc.descSize = b.desc.descSize) (hok : r.2 = true) :
    Built r.1 (ks ++ [k]) ∧ r.1.desc.descSize = b.desc.descSize := by
  subst hr
  exact ⟨h.addDescriptor hset hok, (addDescriptor_descSize _ _).trans hsize⟩

/-- **A call that succeeds** adds its descriptor. -/
theorem Built.call (h : Built b ks) (c : DescCall) (hok : (b.call c).2 = true) :
    Built (b.after c) (ks ++ [b.added c]) ∧ (b.after c).desc.descSize = b.desc.descSize := by
  have hplain : ∀ {k : Descriptor} {P : Prop}, k.anyConfig = false → k.anyConfig = true → P := fun hk hk' =>
    absurd (hk.symm.trans hk') Bool.false_ne_true
  cases c with
  | device vendorId productId deviceRev manufStr prodStr lun eps =>
    have hstrings := ((h.addString manufStr).addString prodStr).addString (if lun then some DescBuild.serial else none)
    have hsize := (addString_descSize ((b.addString manufStr).1.addString prodStr).1
      (if lun then some DescBuild.serial else none)).trans
        ((addString_descSize (b.addString manufStr).1 prodStr).trans (addString_descSize b manufStr))
    cases eps with
    | none => exact hstrings.add rfl (hplain rfl) hsize hok
    | some eps =>
      cases eps with
      | none => exact absurd hok Bool.false_ne_true
      | some eps =>
        have heps : Built { (((b.addString manufStr).1.addString prodStr).1.addString
            (if lun then some DescBuild.serial else none)).1 with eps } ks := hstrings.congr rfl rfl rfl
        exact heps.add rfl (hplain rfl) hsize hok
  | cfg numInterfaces hid =>
    cases hdev : b.desc.getDeviceDesc with
    | none =>
      rw [DescBuild.call, DescBuild.addCfgDesc, hdev] at hok
      exact absurd hok Bool.false_ne_true
    | some dev =>
      rw [DescBuild.call, DescBuild.addCfgDesc, hdev] at hok
      rw [DescBuild.after, DescBuild.call, DescBuild.addCfgDesc, hdev]
      exact (h.startConfig hdev).add rfl (fun _ => ⟨cfgTotalSize_eq hdev, rfl⟩) rfl hok
  | interface bNumEndPoints bClass bSubClass bProtocol intStr =>
    have hnum : Built { b with nextIfNum := b.nextIfNum + 1 } ks := h.congr rfl rfl rfl
    exact (hnum.addString intStr).add rfl (hplain rfl) (addString_descSize _ intStr) hok
  | hid reportSize => exact h.add rfl (hplain rfl) rfl hok
  | endpoint c =>
    by_cases hep : (selectSuitableEndpoint b.eps c.request).1 = 0xFF
    · have hfail : b.call (.endpoint c) = ({ b with eps := b.eps.after c.request }, false) := if_pos hep
      rw [hfail] at hok
      exact absurd hok Bool.false_ne_true
    · have hadd : b.call (.endpoint c) = { b with eps := b.eps.after c.request }.addDescriptor (b.added (.endpoint c)).bytes :=
        if_neg hep
      have heps : Built { b with eps := b.eps.after c.request } ks := h.congr rfl rfl rfl
      exact heps.add hadd (hplain rfl) rfl hok

/-- A sequence of calls that succeed. -/
abbrev AllSucceed (b : DescBuild) (calls : List DescCall) : Prop :=
  AllSteps DescBuild.after (fun b c => (b.call c).2 = true) b calls

/-- **A sequence of calls that succeed** adds its descriptors. -/
theorem Built.calls (h : Built b ks) {calls : List DescCall} (hok : AllSucceed b calls) :
    Built (calls.foldl DescBuild.after b) (ks ++ b.allAdded calls) ∧
      (calls.foldl DescBuild.after b).desc.descSize = b.desc.descSize := by
  induction calls generalizing b ks with
  | nil =>
    rw [DescBuild.allAdded, List.append_nil]
    exact ⟨h, rfl⟩
  | cons c calls ih =>
    obtain ⟨hnext, hsize⟩ := h.call c hok.1
    obtain ⟨hend, hsize'⟩ := ih hnext hok.2
    rw [DescBuild.allAdded, List.append_cons]
    exact ⟨hend, hsize'.trans hsize⟩

/-- A buffer that is full holds the descriptors and nothing else. -/
theorem Built.layout (h : Built b ks) (hfull : b.usedSize = b.desc.descSize) : Layout b.desc ks :=
  ⟨by rw [← h.used, hfull], h.holds⟩

end Built

/-- **Build and look up.** After calls that all succeed and fill the buffer, the lookups find exactly what was added, and the
lengths are right, exactly when the descriptors that were added are well nested. -/
theorem descriptors_roundTrip_iff (b : DescBuild) (mem : ℕ → UInt8) (descSize : UInt16) (calls : List DescCall)
    (hok : AllSucceed (b.createDescriptor mem descSize) calls)
    (hfull : (calls.foldl DescBuild.after (b.createDescriptor mem descSize)).usedSize = descSize) :
    RoundTrip (calls.foldl DescBuild.after (b.createDescriptor mem descSize)).desc
        ((b.createDescriptor mem descSize).allAdded calls) ↔
      WellNested ((b.createDescriptor mem descSize).allAdded calls) descSize := by
  obtain ⟨hbuilt, hsize⟩ := (built_create b mem descSize).calls hok
  rw [List.nil_append] at hbuilt
  have hsize : (calls.foldl DescBuild.after (b.createDescriptor mem descSize)).desc.descSize = descSize := hsize
  have hlayout := hbuilt.layout (hfull.trans hsize.symm)
  rw [roundTrip_iff hlayout hbuilt.totals, hsize]

/-- A table to start from, for a device with one IN endpoint. -/
def newTable : DescBuild where
  desc := ⟨fun _ => 0, 0, fun _ _ => 0, fun _ => 0, 1⟩
  usedSize := 0
  nextStrId := 1
  nextIfNum := 0
  eps := oneInEndpoint
  ep0Size := 64

/-- A device with one interface and one endpoint. -/
def smallDevice : List DescCall :=
  [.device 0x046B 0xFF10 0x0100 none none false none, .cfg 1 false, .interface 1 8 6 0x50 none,
    .endpoint ⟨.epIn, 2, 64, 64, 0⟩]

theorem smallDevice_roundTrip_iff :
    RoundTrip (smallDevice.foldl DescBuild.after (newTable.createDescriptor (fun _ => 0) 43)).desc
        ((newTable.createDescriptor (fun _ => 0) 43).allAdded smallDevice) ↔
      WellNested ((newTable.createDescriptor (fun _ => 0) 43).allAdded smallDevice) 43 :=
  descriptors_roundTrip_iff newTable (fun _ => 0) 43 smallDevice (by decide) (by decide)

/-- A device whose configuration has 28 interfaces. -/
def longDevice : List DescCall :=
  [.device 0x046B 0xFF10 0x0100 none none false none, .cfg 28 false] ++ List.replicate 28 (.interface 0 8 6 0x50 none)

/-- **A configuration of 261 bytes** says that it has 5. -/
theorem longDevice_totals :
    AllSucceed (newTable.createDescriptor (fun _ => 0) 279) longDevice ∧
      (longDevice.foldl DescBuild.after (newTable.createDescriptor (fun _ => 0) 279)).usedSize = 279 ∧
      ¬ RoundTrip (longDevice.foldl DescBuild.after (newTable.createDescriptor (fun _ => 0) 279)).desc
        ((newTable.createDescriptor (fun _ => 0) 279).allAdded longDevice) := by
  have hok : AllSucceed (newTable.createDescriptor (fun _ => 0) 279) longDevice := by decide
  have hfull : (longDevice.foldl DescBuild.after (newTable.createDescriptor (fun _ => 0) 279)).usedSize = 279 := by
    decide +kernel
  refine ⟨hok, hfull, fun h => ?_⟩
  obtain ⟨hbuilt, hsize⟩ := (built_create newTable (fun _ => 0) 279).calls hok
  have hnested := (roundTrip_iff (hbuilt.layout (hfull.trans hsize.symm)) hbuilt.totals).1 h
  rw [List.nil_append] at hnested
  have hend : FirstFrom (fun x => atPos Descriptor.anyConfig ((newTable.createDescriptor (fun _ => 0) 279).allAdded longDevice) x
      = true) ((newTable.createDescriptor (fun _ => 0) 279).allAdded longDevice).length (1 + 1) 30 := by
    refine ⟨by decide, by decide +kernel, fun x hx hx' => ?_, fun h => ?_⟩
    · revert x
      decide +kernel
    · revert h
      decide +kernel
  exact absurd (hnested.totals 1 30 (by decide +kernel) hend) (by decide +kernel)

end BmcUsb
