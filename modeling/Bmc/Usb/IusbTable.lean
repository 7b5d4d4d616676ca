import Mathlib.Tactic

/-!
# The table of iUSB interfaces

The devices report their interfaces when they register, and the programs of the system request and
release them: `register_usb_device` and `unregister_usb_device` of `mod_reg.c`, `RequestInterface` and
`ReleaseInterface` of `entry.c`.

* `IusbTable`: the table, the number of its entries, and what registration keeps for each device;
* `registerUsbDevice`, `unregisterUsbDevice`, `requestInterface`, `releaseInterface`;
* `staleSlots`: the entries that a registration takes back first; **`reviveAll_of_enough`**: it takes
  them in order, as many as are reported of each type.
-/

namespace BmcUsb

/-- `MAX_IUSB_DEVICES`. -/
abbrev maxIusbDevices : ℕ := 20

/-- `MAX_USB_HW`. -/
abbrev maxUsbHw : ℕ := 7

/-- `VALID_IUSB_DEV`. -/
abbrev validIusbDev : UInt32 := 0x55AA55AA

/-- `LOCK_TYPE_EXCLUSIVE`. -/
abbrev lockTypeExclusive : UInt8 := 0x1

/-- `EFAULT`. -/
abbrev efault : ℤ := 14

/-! ## The table -/

/-- `IUSB_DEVICE_INFO`. -/
structure IusbDeviceInfo where
  deviceType : UInt8
  devNo : UInt8
  ifNum : UInt8
  lockType : UInt8
  inst : UInt8
  deriving DecidableEq, Repr

/-- What a release compares of an interface. -/
def IusbDeviceInfo.interface (i : IusbDeviceInfo) : UInt8 × UInt8 × UInt8 :=
  (i.deviceType, i.devNo, i.ifNum)

/-- `IUSB_DEVICE_DETAILS_T`. -/
structure IusbDeviceDetails where
  valid : UInt32
  key : UInt32
  used : UInt32
  info : IusbDeviceInfo
  deriving DecidableEq, Repr

/-- `IUSBDeviceDetails` at the address `base`, with `iUSBDevCount`, `DevInit` and `CreateDesc`. A device
takes all its endpoints when it registers, and gives them back together: `epUsed`. -/
structure IusbTable where
  details : ℕ → IusbDeviceDetails
  iUSBDevCount : ℕ
  base : ℕ
  devInit : UInt8 → Bool
  createDesc : UInt8 → Bool
  epUsed : UInt8 → Bool

namespace IusbTable

variable (t : IusbTable)

/-- Replace an entry. -/
def setDetails (k : ℕ) (e : IusbDeviceDetails) : IusbTable :=
  { t with details := Function.update t.details k e }

/-- `IUSBDeviceDetails[k].Valid = VALID_IUSB_DEV`. -/
def setValid (k : ℕ) : IusbTable := t.setDetails k { t.details k with valid := validIusbDev }

/-- `IUSBDeviceDetails[k].Used = used`. -/
def setUsed (k : ℕ) (used : UInt32) : IusbTable := t.setDetails k { t.details k with used := used }

/-- `CreateDesc[devNo]`. -/
def setCreateDesc (devNo : UInt8) (b : Bool) : IusbTable :=
  { t with createDesc := Function.update t.createDesc devNo b }

/-- The endpoints of a device. -/
def setEpUsed (devNo : UInt8) (b : Bool) : IusbTable :=
  { t with epUsed := Function.update t.epUsed devNo b }

/-- The entry is in use. -/
def Valid (k : ℕ) : Prop := (t.details k).valid = validIusbDev

/-- The entry belongs to an interface of this kind, and is not in use. -/
def Stale (devNo deviceType : UInt8) (k : ℕ) : Prop :=
  (t.details k).info.devNo = devNo ∧ (t.details k).info.deviceType = deviceType ∧
    (t.details k).valid = 0

instance (k : ℕ) : Decidable (t.Valid k) := inferInstanceAs (Decidable (_ = _))

instance (devNo deviceType : UInt8) (k : ℕ) : Decidable (t.Stale devNo deviceType k) :=
  inferInstanceAs (Decidable (_ ∧ _ ∧ _))

/-- The entries of interfaces of a kind that are not in use, in their order. -/
def staleSlots (devNo deviceType : UInt8) : List ℕ :=
  (List.range maxIusbDevices).filter fun k => t.Stale devNo deviceType k

end IusbTable

/-! ## Registration -/

/-- An entry of the table that no device has used. -/
def IusbDeviceDetails.blank (e : IusbDeviceDetails) : IusbDeviceDetails :=
  { e with valid := 0, used := 0, info := { e.info with deviceType := 0xFF, devNo := 0xFF } }

/-- `register_usb_device`: the table is cleared as long as it has no entries. -/
def IusbTable.reset (t : IusbTable) : IusbTable :=
  if t.iUSBDevCount = 0 then
    { t with details := fun k => if k < maxIusbDevices then (t.details k).blank else t.details k }
  else t

/-- `register_usb_device`: the first entry of the interface's kind that is not in use is taken back. The
result counts the match. -/
def IusbTable.revive (t : IusbTable) (i : IusbDeviceInfo) : ℕ × IusbTable :=
  match (List.range maxIusbDevices).find? fun k => t.Stale i.devNo i.deviceType k with
  | some k => (1, t.setValid k)
  | none => (0, t)

/-- `register_usb_device`: the loop over the reported interfaces, with `MatchFound`. -/
def IusbTable.reviveAll (t : IusbTable) : List IusbDeviceInfo → ℕ × IusbTable
  | [] => (0, t)
  | i :: infos =>
    ((t.revive i).1 + ((t.revive i).2.reviveAll infos).1, ((t.revive i).2.reviveAll infos).2)

/-- The address of an entry of `IUSBDeviceDetails`, as a key. -/
def IusbTable.keyOf (t : IusbTable) (k : ℕ) : UInt32 := UInt32.ofNat (t.base + 20 * k)

/-- `register_usb_device`: a new entry. -/
def IusbTable.put (t : IusbTable) (k : ℕ) (i : IusbDeviceInfo) : IusbTable :=
  t.setDetails k { t.details k with info := i, valid := validIusbDev, key := t.keyOf k }

/-- `register_usb_device`: new entries from `k` on. -/
def IusbTable.putAll (t : IusbTable) : ℕ → List IusbDeviceInfo → IusbTable
  | _, [] => t
  | k, i :: infos => (t.put k i).putAll (k + 1) infos

/-- `register_usb_device`: the new entries, and `iUSBDevCount`. -/
def IusbTable.append (t : IusbTable) (infos : List IusbDeviceInfo) : IusbTable :=
  { t.putAll t.iUSBDevCount infos with iUSBDevCount := t.iUSBDevCount + infos.length }

/-- `register_usb_device`, on the reported interfaces. -/
def registerInterfaces (t : IusbTable) (infos : List IusbDeviceInfo) : ℤ × IusbTable :=
  if infos.length = 0 then (-1, t)
  else
    let s := t.reviveAll infos
    if s.1 = infos.length then (0, s.2) else (0, s.2.append infos)

/-- `register_usb_device`. `createDescriptor` says whether the device has `DevUsbCreateDescriptor`,
`memory` whether its requests can be allocated, and `fill` are the interfaces that its
`DevUsbFillDevInfo` reports. -/
def registerUsbDevice (t : IusbTable) (devNo : UInt8) (createDescriptor memory : Bool)
    (fill : Option (List IusbDeviceInfo)) : ℤ × IusbTable :=
  let t := t.setCreateDesc devNo createDescriptor
  if t.epUsed devNo then (-1, t)
  else
    let t := t.setEpUsed devNo true
    if memory then
      match fill with
      | none => (0, t.reset)
      | some infos => registerInterfaces t.reset infos
    else (-1, t)

/-- `unregister_usb_device`. -/
def unregisterUsbDevice (t : IusbTable) (devNo : UInt8) : ℤ × IusbTable :=
  let t := if t.devInit devNo ∧ t.createDesc devNo then
    (t.setEpUsed devNo false).setCreateDesc devNo false else t
  (0, { t with details := fun k =>
    if k < maxIusbDevices ∧ (t.details k).info.devNo = devNo then { t.details k with valid := 0 }
    else t.details k })

/-! ## Requests -/

/-- The entry that `RequestInterface` finds. -/
def IusbTable.findRequest (t : IusbTable) (i : IusbDeviceInfo) : Option ℕ :=
  (List.range maxIusbDevices).find? fun k =>
    t.Valid k ∧ (t.details k).info.interface = i.interface ∧ (t.details k).info.lockType = i.lockType

/-- `RequestInterface`; `copyIn`, `setKey` and `copyOut` are the answers of the user copies and of
`DevUsbSetInterfaceAuthKey`. -/
def requestInterface (t : IusbTable) (i : IusbDeviceInfo) (copyIn setKey copyOut : ℤ) :
    ℤ × IusbTable :=
  if copyIn ≠ 0 then (-efault, t)
  else
    match t.findRequest i with
    | none => (-1, t)
    | some k =>
      if (t.details k).used ≠ 0 ∧ i.lockType = lockTypeExclusive then (-1, t)
      else
        let t := t.setUsed k 1
        if setKey ≠ 0 then (-1, t) else if copyOut ≠ 0 then (-efault, t) else (0, t)

/-- The entry that `ReleaseInterface` finds. -/
def IusbTable.findRelease (t : IusbTable) (i : IusbDeviceInfo) : Option ℕ :=
  (List.range maxIusbDevices).find? fun k =>
    t.Valid k ∧ (t.details k).info.interface = i.interface

/-- `ReleaseInterface`; `copyIn` and `clearKey` are the answers of the user copy and of
`DevUsbClearInterfaceAuthKey`. -/
def releaseInterface (t : IusbTable) (i : IusbDeviceInfo) (key : UInt32) (copyIn clearKey : ℤ) :
    ℤ × IusbTable :=
  if copyIn ≠ 0 then (-efault, t)
  else
    match t.findRelease i with
    | none => (-1, t)
    | some k =>
      if (t.details k).used = 0 then (-1, t)
      else if key ≠ (t.details k).key then (-1, t)
      else if (t.details k).info.lockType = lockTypeExclusive then
        if clearKey ≠ 0 then (-1, t.setUsed k 0) else (0, t.setUsed k 0)
      else (0, t)

/-- A call of one of the four functions. -/
inductive IusbEvent where
  | register (devNo : UInt8) (createDescriptor memory : Bool) (fill : Option (List IusbDeviceInfo))
  | unregister (devNo : UInt8)
  | request (i : IusbDeviceInfo) (copyIn setKey copyOut : ℤ)
  | release (i : IusbDeviceInfo) (key : UInt32) (copyIn clearKey : ℤ)
  deriving DecidableEq, Repr

/-- The result of a call, and the table behind it. -/
def iusbCall (t : IusbTable) : IusbEvent → ℤ × IusbTable
  | .register devNo createDescriptor memory fill =>
    registerUsbDevice t devNo createDescriptor memory fill
  | .unregister devNo => unregisterUsbDevice t devNo
  | .request i copyIn setKey copyOut => requestInterface t i copyIn setKey copyOut
  | .release i key copyIn clearKey => releaseInterface t i key copyIn clearKey

/-! ## Taking entries back -/

/-- The reported interfaces of a type. -/
def ofType (deviceType : UInt8) (infos : List IusbDeviceInfo) : List IusbDeviceInfo :=
  infos.filter fun i => i.deviceType = deviceType

/-- The entries in `P` are taken back, and nothing else happens. -/
structure Revived (P : ℕ → Prop) (t t' : IusbTable) : Prop where
  valid : ∀ k, P k → t'.details k = { t.details k with valid := validIusbDev }
  other : ∀ k, ¬ P k → t'.details k = t.details k
  rest : t' = { t with details := t'.details }

section Revive

variable {t t' t'' : IusbTable} {devNo deviceType : UInt8} {P Q : ℕ → Prop}

@[simp] theorem setDetails_same (k : ℕ) (e : IusbDeviceDetails) :
    (t.setDetails k e).details k = e := Function.update_self ..

theorem setDetails_other {j k : ℕ} (h : j ≠ k) (e : IusbDeviceDetails) :
    (t.setDetails k e).details j = t.details j := Function.update_of_ne h ..

theorem mem_staleSlots {k : ℕ} :
    k ∈ t.staleSlots devNo deviceType ↔ k < maxIusbDevices ∧ t.Stale devNo deviceType k := by
  simp [IusbTable.staleSlots]

theorem nodup_staleSlots : (t.staleSlots devNo deviceType).Nodup :=
  List.Nodup.filter _ List.nodup_range

theorem Revived.trans (h : Revived P t t') (h' : Revived Q t' t'') :
    Revived (fun k => P k ∨ Q k) t t'' := by
  refine ⟨?_, ?_, ?_⟩
  · intro k hk
    by_cases hQ : Q k
    · rw [h'.valid k hQ]
      by_cases hP : P k
      · rw [h.valid k hP]
      · rw [h.other k hP]
    · rw [h'.other k hQ]
      exact h.valid k (hk.resolve_right hQ)
  · intro k hk
    rw [h'.other k fun hQ => hk (.inr hQ)]
    exact h.other k fun hP => hk (.inl hP)
  · rw [h'.rest, h.rest]

theorem setValid_revived (k : ℕ) : Revived (· = k) t (t.setValid k) := by
  refine ⟨?_, ?_, rfl⟩
  · rintro _ rfl
    exact setDetails_same ..
  · intro j hj
    exact setDetails_other hj _

/-- The entry that is taken back is the first one. -/
theorem revive_eq (i : IusbDeviceInfo) :
    t.revive i = match (t.staleSlots i.devNo i.deviceType).head? with
      | some k => (1, t.setValid k)
      | none => (0, t) := by
  rw [IusbTable.staleSlots, List.head?_filter]
  rfl

theorem staleSlots_setValid (k : ℕ) : (t.setValid k).staleSlots devNo deviceType =
    (t.staleSlots devNo deviceType).filter (· ≠ k) := by
  have hvalid : validIusbDev ≠ 0 := by decide
  unfold IusbTable.staleSlots
  rw [List.filter_filter]
  refine List.filter_congr fun j _ => ?_
  by_cases hj : j = k
  · simp [hj, IusbTable.Stale, IusbTable.setValid, hvalid]
  · have hsame : (t.setValid k).Stale devNo deviceType j = t.Stale devNo deviceType j := by
      rw [IusbTable.Stale, IusbTable.setValid, setDetails_other hj, IusbTable.Stale]
    simp [hj, hsame]

/-- Behind the first entry, the others of its kind are left; those of another kind all are. -/
theorem staleSlots_setValid_head {k : ℕ} {ks : List ℕ} (h : t.staleSlots devNo deviceType = k :: ks)
    (ty : UInt8) : (t.setValid k).staleSlots devNo ty =
      if ty = deviceType then ks else t.staleSlots devNo ty := by
  rw [staleSlots_setValid]
  have hnodup : (t.staleSlots devNo deviceType).Nodup := nodup_staleSlots
  have hk : k ∈ t.staleSlots devNo deviceType := h ▸ List.mem_cons_self
  split_ifs with hty
  · rw [hty, h]
    rw [h] at hnodup
    have hks : ∀ j ∈ ks, j ≠ k := fun j hj hjk => (List.nodup_cons.mp hnodup).1 (hjk ▸ hj)
    simpa using hks
  · rw [List.filter_eq_self]
    intro j hj
    have hne : j ≠ k := by
      rintro rfl
      exact hty ((mem_staleSlots.mp hj).2.2.1.symm.trans (mem_staleSlots.mp hk).2.2.1)
    simpa using hne

/-- Without entries of the reported kinds nothing is taken back. -/
theorem reviveAll_of_nil {infos : List IusbDeviceInfo}
    (h : ∀ i ∈ infos, t.staleSlots i.devNo i.deviceType = []) : t.reviveAll infos = (0, t) := by
  induction infos with
  | nil => rfl
  | cons i infos ih =>
    have hi : t.revive i = (0, t) := by
      rw [revive_eq, h i List.mem_cons_self]
      rfl
    have hih := ih fun i' hi' => h i' (List.mem_cons_of_mem i hi')
    simp only [IusbTable.reviveAll, hi, hih]

/-- The entries that are taken back for the reported interfaces. -/
def TakenBack (t : IusbTable) (devNo : UInt8) (infos : List IusbDeviceInfo) (k : ℕ) : Prop :=
  ∃ ty, k ∈ (t.staleSlots devNo ty).take (ofType ty infos).length

theorem length_ofType_cons (i : IusbDeviceInfo) (infos : List IusbDeviceInfo) (ty : UInt8) :
    (ofType ty (i :: infos)).length =
      (ofType ty infos).length + if ty = i.deviceType then 1 else 0 := by
  by_cases hty : i.deviceType = ty
  · simp [ofType, hty]
  · simp [ofType, hty, Ne.symm hty]

/-- The first interface takes back the first entry of its type. -/
theorem takenBack_cons {i : IusbDeviceInfo} {infos : List IusbDeviceInfo} {k : ℕ} {ks : List ℕ}
    (h : t.staleSlots devNo i.deviceType = k :: ks) (j : ℕ) :
    TakenBack t devNo (i :: infos) j ↔ j = k ∨ TakenBack (t.setValid k) devNo infos j := by
  have hslots := staleSlots_setValid_head h
  have htake : ∀ ty, (t.staleSlots devNo ty).take (ofType ty (i :: infos)).length =
      if ty = i.deviceType then k :: ks.take (ofType ty infos).length
      else ((t.setValid k).staleSlots devNo ty).take (ofType ty infos).length := by
    intro ty
    rw [length_ofType_cons, hslots]
    split_ifs with hty
    · rw [hty, h, List.take_succ_cons]
    · rw [Nat.add_zero]
  constructor
  · rintro ⟨ty, hj⟩
    rw [htake] at hj
    split_ifs at hj with hty
    · rcases List.mem_cons.mp hj with hjk | hj
      · exact .inl hjk
      · refine .inr ⟨ty, ?_⟩
        rwa [hslots, if_pos hty]
    · exact .inr ⟨ty, hj⟩
  · rintro (rfl | ⟨ty, hj⟩)
    · refine ⟨i.deviceType, ?_⟩
      rw [htake, if_pos rfl]
      exact List.mem_cons_self
    · refine ⟨ty, ?_⟩
      rw [htake]
      split_ifs with hty
      · rw [hslots, if_pos hty] at hj
        exact List.mem_cons_of_mem _ hj
      · exact hj

/-- **With enough entries of each type every reported interface takes one back**: of each type the
first ones, as many as are reported. -/
theorem reviveAll_of_enough {infos : List IusbDeviceInfo} (hown : ∀ i ∈ infos, i.devNo = devNo)
    (hlen : ∀ ty, (ofType ty infos).length ≤ (t.staleSlots devNo ty).length) :
    (t.reviveAll infos).1 = infos.length ∧
      Revived (TakenBack t devNo infos) t (t.reviveAll infos).2 := by
  induction infos generalizing t with
  | nil =>
    refine ⟨rfl, ?_, fun _ _ => rfl, rfl⟩
    rintro k ⟨ty, hk⟩
    exact absurd hk (by simp [ofType])
  | cons i infos ih =>
    have hi : i.devNo = devNo := hown i List.mem_cons_self
    have hcount := length_ofType_cons i infos
    obtain ⟨k, ks, hks⟩ : ∃ k ks, t.staleSlots devNo i.deviceType = k :: ks := by
      refine List.exists_cons_of_length_pos ?_
      have h := hlen i.deviceType
      rw [hcount, if_pos rfl] at h
      omega
    have hrevive : t.revive i = (1, t.setValid k) := by
      rw [revive_eq, hi, hks]
      rfl
    have hslots := staleSlots_setValid_head hks
    have hih := ih (t := t.setValid k) (fun i' hi' => hown i' (List.mem_cons_of_mem i hi')) ?_
    · rw [IusbTable.reviveAll, hrevive]
      refine ⟨?_, ?_⟩
      · rw [hih.1, List.length_cons, Nat.add_comm]
      · have htaken : TakenBack t devNo (i :: infos) =
            fun j => j = k ∨ TakenBack (t.setValid k) devNo infos j := by
          funext j
          exact propext (takenBack_cons hks j)
        rw [htaken]
        exact (setValid_revived k).trans hih.2
    · intro ty
      have h := hlen ty
      rw [hcount] at h
      rw [hslots]
      split_ifs with hty
      · rw [hty, if_pos rfl, hks, List.length_cons] at h
        rw [hty]
        omega
      · rwa [if_neg hty, Nat.add_zero] at h

end Revive

/-! ## New entries -/

section Put

variable {t : IusbTable}

theorem putAll_rest (k : ℕ) (infos : List IusbDeviceInfo) :
    t.putAll k infos = { t with details := (t.putAll k infos).details } := by
  induction infos generalizing t k with
  | nil => rfl
  | cons i infos ih =>
    rw [IusbTable.putAll, ih]
    rfl

theorem putAll_other {j k : ℕ} {infos : List IusbDeviceInfo} (h : j < k ∨ k + infos.length ≤ j) :
    (t.putAll k infos).details j = t.details j := by
  induction infos generalizing t k with
  | nil => rfl
  | cons i infos ih =>
    rw [List.length_cons] at h
    rw [IusbTable.putAll, ih (by omega)]
    exact setDetails_other (by omega) _

theorem putAll_new {j k : ℕ} {infos : List IusbDeviceInfo} (hj : j < infos.length) :
    (t.putAll k infos).details (k + j) =
      { t.details (k + j) with info := infos[j], valid := validIusbDev, key := t.keyOf (k + j) } := by
  induction infos generalizing t j k with
  | nil => exact absurd hj (Nat.not_lt_zero j)
  | cons i infos ih =>
    rw [IusbTable.putAll]
    cases j with
    | zero =>
      rw [putAll_other (.inl (Nat.lt_add_one (k + 0)))]
      exact setDetails_same ..
    | succ j =>
      have hk : k + (j + 1) = k + 1 + j := by omega
      have hne : k + 1 + j ≠ k := by omega
      rw [hk, ih (Nat.lt_of_succ_lt_succ hj), IusbTable.put, setDetails_other hne]
      rfl

/-- The entries behind the new ones. -/
theorem append_other {k : ℕ} {infos : List IusbDeviceInfo}
    (h : k < t.iUSBDevCount ∨ t.iUSBDevCount + infos.length ≤ k) :
    (t.append infos).details k = t.details k :=
  putAll_other h

/-- The new entries. -/
theorem append_new {j : ℕ} {infos : List IusbDeviceInfo} (hj : j < infos.length) :
    (t.append infos).details (t.iUSBDevCount + j) =
      { t.details (t.iUSBDevCount + j) with
        info := infos[j], valid := validIusbDev, key := t.keyOf (t.iUSBDevCount + j) } :=
  putAll_new hj

theorem append_rest (infos : List IusbDeviceInfo) : t.append infos =
    { t with
      details := (t.append infos).details, iUSBDevCount := t.iUSBDevCount + infos.length } := by
  unfold IusbTable.append
  rw [putAll_rest]

end Put

end BmcUsb
