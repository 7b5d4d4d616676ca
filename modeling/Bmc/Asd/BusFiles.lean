import Bmc.Asd.Ixc

/-!
# The handles of the buses

What the functions of the I2C and I3C handlers do to the handles, the remembered buses and the
default bus.

* `Relocks`: only locks were taken or released; `i2cBusFlock_relocks`, `i3cFlockHandlers_relocks`;
* `i2cOpenDriver_ok`, `i3cOpenHandlers_ok`, `i3cOpenHandlers_err`: what opening a bus leaves behind.
-/

namespace BmcAsd

open BmcLib

/-! ## Locks -/

/-- The handle, whatever its lock. -/
def OpenFile.unlock (f : OpenFile) : OpenFile := { f with locked := false }

/-- `y` is `x` with other locks. -/
structure Relocks (x y : Ixc) : Prop where
  enableI2c : y.enableI2c = x.enableI2c
  enableI3c : y.enableI3c = x.enableI3c
  defaultBus : y.defaultBus = x.defaultBus
  busConfigType : y.busConfigType = x.busConfigType
  busConfigMap : y.busConfigMap = x.busConfigMap
  i2cBus : y.i2cBus = x.i2cBus
  i2cHandle : y.i2cDriverHandle.map OpenFile.unlock = x.i2cDriverHandle.map OpenFile.unlock
  i3cBus : y.i3cBus = x.i3cBus
  i3cHandlers : ∀ i, (y.i3cDriverHandlers i).map OpenFile.unlock =
    (x.i3cDriverHandlers i).map OpenFile.unlock

section Relocks

variable {x y z : Ixc}

@[refl] theorem Relocks.refl (x : Ixc) : Relocks x x :=
  ⟨rfl, rfl, rfl, rfl, rfl, rfl, rfl, rfl, fun _ => rfl⟩

theorem Relocks.trans (h : Relocks x y) (h' : Relocks y z) : Relocks x z where
  enableI2c := h'.enableI2c.trans h.enableI2c
  enableI3c := h'.enableI3c.trans h.enableI3c
  defaultBus := h'.defaultBus.trans h.defaultBus
  busConfigType := h'.busConfigType.trans h.busConfigType
  busConfigMap := h'.busConfigMap.trans h.busConfigMap
  i2cBus := h'.i2cBus.trans h.i2cBus
  i2cHandle := h'.i2cHandle.trans h.i2cHandle
  i3cBus := h'.i3cBus.trans h.i3cBus
  i3cHandlers i := (h'.i3cHandlers i).trans (h.i3cHandlers i)

theorem Relocks.busType (h : Relocks x y) : y.busType = x.busType := by
  funext bus
  unfold Ixc.busType
  rw [h.busConfigType, h.busConfigMap]

/-- A bus that has a type is allowed for the handler of this type. -/
theorem busAllowed_of_busType {bus : UInt8} {type : BusConfigType} (h : x.busType bus = type)
    (ht : type ≠ .notAllowed) : x.busAllowed type bus = true := by
  unfold Ixc.busType at h
  cases hf : (List.finRange maxIxcBuses).find? fun i => x.busConfigMap i == bus with
  | none =>
    rw [hf] at h
    exact absurd h.symm ht
  | some i =>
    rw [hf] at h
    have hbus := List.find?_some hf
    rw [Ixc.busAllowed, List.any_eq_true]
    exact ⟨i, List.mem_finRange i, by simp [eq_of_beq hbus, h]⟩

/-- The outcome of a `flock` on a handle. -/
theorem flockFile_eq (x : Ixc) (file : Option OpenFile) (op : LockOp) :
    (∃ f, file = some f ∧ ∃ os, flockFile x file op =
        (true, some { f with locked := op = .ex }, { x with os := os })) ∨
      ∃ os, flockFile x file op = (false, file, { x with os := os }) := by
  unfold flockFile
  cases file with
  | none => exact Or.inr ⟨x.os, rfl⟩
  | some f =>
    dsimp only
    split_ifs
    · exact Or.inl ⟨f, rfl, _, rfl⟩
    · exact Or.inr ⟨_, rfl⟩

theorem i2cBusFlock_relocks (x : Ixc) (op : LockOp) : Relocks x (i2cBusFlock x op).2 := by
  unfold i2cBusFlock
  rcases flockFile_eq x x.i2cDriverHandle op with ⟨f, hf, os, h⟩ | ⟨os, h⟩
  · rw [h]
    exact ⟨rfl, rfl, rfl, rfl, rfl, rfl, by rw [hf]; rfl, rfl, fun _ => rfl⟩
  · rw [h]
    exact ⟨rfl, rfl, rfl, rfl, rfl, rfl, rfl, rfl, fun _ => rfl⟩

theorem i3cFlockHandlers_relocks (x : Ixc) (op : LockOp) (is : List (Fin i3cMaxDevHandlers)) :
    Relocks x (i3cFlockHandlers x op is).2 := by
  induction is generalizing x with
  | nil => rfl
  | cons i is ih =>
    have hupdate (file : Option OpenFile) (os : Device IxcCall IxcAnswer)
        (hf : file.map OpenFile.unlock = (x.i3cDriverHandlers i).map OpenFile.unlock) :
        Relocks x { x with
          os := os, i3cDriverHandlers := Function.update x.i3cDriverHandlers i file } := by
      refine ⟨rfl, rfl, rfl, rfl, rfl, rfl, rfl, rfl, fun j => ?_⟩
      dsimp only
      by_cases hj : j = i
      · subst hj
        rw [Function.update_self, hf]
      · rw [Function.update_of_ne hj]
    unfold i3cFlockHandlers
    rcases flockFile_eq x (x.i3cDriverHandlers i) op with ⟨f, hf, os, h⟩ | ⟨os, h⟩
    · rw [h]
      refine (hupdate (some { f with locked := op = .ex }) os ?_).trans (ih _)
      rw [hf]
      rfl
    · rw [h]
      exact hupdate _ os rfl

theorem devFlock_relocks {bus : UInt8} (op : LockOp)
    (h : x.busType bus = .i3c → x.i3cBus ≠ i3cBusAddressReserved) :
    Relocks x (devFlock x bus op).2 := by
  unfold devFlock
  cases ht : x.busType bus with
  | notAllowed => rfl
  | i2c => exact i2cBusFlock_relocks x op
  | i3c =>
    unfold i3cBusFlock
    rw [if_neg (h ht)]
    exact i3cFlockHandlers_relocks x op _

end Relocks

/-! ## Opening -/

/-- The state after the I2C bus `bus` was opened. -/
def Ixc.i2cOpened (x : Ixc) (bus : UInt8) : Ixc :=
  { x with
    os := x.os.call (.openDevice .i2c bus 0)
    i2cDriverHandle := some ⟨.i2c, bus, 0, false⟩
    i2cBus := bus
    defaultBus := bus }

/-- The state after the I2C bus `bus` could not be opened. -/
def Ixc.i2cMissing (x : Ixc) (bus : UInt8) : Ixc :=
  { x with os := x.os.call (.openDevice .i2c bus 0), i2cDriverHandle := none }

theorem i2cOpenDriver_eq (x : Ixc) (bus : UInt8) :
    i2cOpenDriver (i2cCloseDriver x) bus =
      if x.os.answer.ok then (.ok, x.i2cOpened bus) else (.err, x.i2cMissing bus) :=
  rfl

/-- The search for a device only asks the operating system. -/
theorem i3cGetDevName_eq (x : Ixc) (bus : UInt8) :
    ∃ os, (i3cGetDevName x bus).2 = { x with os := os } := by
  have hfind (n : ℕ) : ∀ x : Ixc, ∃ os, (i3cFindDev x bus n).2 = { x with os := os } := by
    induction n with
    | zero => exact fun x => ⟨x.os, rfl⟩
    | succ n ih =>
      intro x
      unfold i3cFindDev
      dsimp only
      split_ifs
      · exact ⟨_, rfl⟩
      · obtain ⟨os, h⟩ := ih (x.call (.openMaster bus (ast2600I3cBuses - (n + 1)))).2
        exact ⟨os, h⟩
  unfold i3cGetDevName
  split_ifs
  · exact ⟨x.os, rfl⟩
  · exact hfind _ x

/-- `y` is `x` up to the I3C handles, the I3C bus, the default bus, and calls. -/
structure SameI2c (x y : Ixc) : Prop where
  enableI2c : y.enableI2c = x.enableI2c
  enableI3c : y.enableI3c = x.enableI3c
  busConfigType : y.busConfigType = x.busConfigType
  busConfigMap : y.busConfigMap = x.busConfigMap
  i2cBus : y.i2cBus = x.i2cBus
  i2cHandle : y.i2cDriverHandle = x.i2cDriverHandle

theorem SameI2c.refl (x : Ixc) : SameI2c x x := ⟨rfl, rfl, rfl, rfl, rfl, rfl⟩

theorem SameI2c.trans {x y z : Ixc} (h : SameI2c x y) (h' : SameI2c y z) : SameI2c x z :=
  ⟨h'.enableI2c.trans h.enableI2c, h'.enableI3c.trans h.enableI3c,
    h'.busConfigType.trans h.busConfigType, h'.busConfigMap.trans h.busConfigMap,
    h'.i2cBus.trans h.i2cBus, h'.i2cHandle.trans h.i2cHandle⟩

theorem SameI2c.busType {x y : Ixc} (h : SameI2c x y) : y.busType = x.busType := by
  funext bus
  unfold Ixc.busType
  rw [h.busConfigType, h.busConfigMap]

section Open

variable {x : Ixc} {bus : UInt8}

/-- The state after the device `i` of the bus was opened. -/
def Ixc.opened (x : Ixc) (bus : UInt8) (i : Fin i3cMaxDevHandlers) : Ixc :=
  { x with
    os := x.os.call (.openDevice .i3c bus i)
    i3cDriverHandlers := Function.update x.i3cDriverHandlers i (some ⟨.i3c, bus, i, false⟩)
    i3cBus := bus
    defaultBus := bus }

theorem i3cOpenHandlers_cons (i : Fin i3cMaxDevHandlers) (is : List (Fin i3cMaxDevHandlers)) :
    i3cOpenHandlers x bus (i :: is) =
      if x.os.answer.ok then i3cOpenHandlers (x.opened bus i) bus is
      else (.err, i3cCloseDeviceDrivers { x with os := x.os.call (.openDevice .i3c bus i) }) :=
  rfl

theorem i3cOpenHandlers_same (x : Ixc) (bus : UInt8) (is : List (Fin i3cMaxDevHandlers)) :
    SameI2c x (i3cOpenHandlers x bus is).2 := by
  induction is generalizing x with
  | nil => exact .refl x
  | cons i is ih =>
    rw [i3cOpenHandlers_cons]
    split_ifs
    · refine SameI2c.trans ?_ (ih _)
      exact ⟨rfl, rfl, rfl, rfl, rfl, rfl⟩
    · exact ⟨rfl, rfl, rfl, rfl, rfl, rfl⟩

/-- All devices could be opened. -/
theorem i3cOpenHandlers_ok {is : List (Fin i3cMaxDevHandlers)}
    (h : (i3cOpenHandlers x bus is).1 = .ok) :
    (∀ i ∈ is, (i3cOpenHandlers x bus is).2.i3cDriverHandlers i = some ⟨.i3c, bus, i, false⟩) ∧
      (∀ i ∉ is, (i3cOpenHandlers x bus is).2.i3cDriverHandlers i = x.i3cDriverHandlers i) ∧
      (is ≠ [] → (i3cOpenHandlers x bus is).2.i3cBus = bus ∧
        (i3cOpenHandlers x bus is).2.defaultBus = bus) := by
  induction is generalizing x with
  | nil => exact ⟨by simp, fun _ _ => rfl, fun h => absurd rfl h⟩
  | cons i is ih =>
    rw [i3cOpenHandlers_cons] at h ⊢
    split_ifs at h ⊢ with ha
    obtain ⟨hin, hout, hbus⟩ := ih h
    refine ⟨fun j hj => ?_, fun j hj => ?_, fun _ => ?_⟩
    · by_cases hmem : j ∈ is
      · exact hin j hmem
      · obtain rfl : j = i := (List.mem_cons.mp hj).resolve_right hmem
        rw [hout j hmem]
        exact Function.update_self _ _ _
    · obtain ⟨hne, hmem⟩ := not_or.mp (List.mem_cons.not.mp hj)
      rw [hout j hmem]
      exact Function.update_of_ne hne _ _
    · by_cases hnil : is = []
      · subst hnil
        exact ⟨rfl, rfl⟩
      · exact hbus hnil

/-- Some device could not be opened. If it was not the first one, the default bus has changed. -/
theorem i3cOpenHandlers_err {is : List (Fin i3cMaxDevHandlers)}
    (h : (i3cOpenHandlers x bus is).1 ≠ .ok) :
    (∀ j, (i3cOpenHandlers x bus is).2.i3cDriverHandlers j = none) ∧
      (i3cOpenHandlers x bus is).2.i3cBus = (if x.os.answer.ok then bus else x.i3cBus) ∧
      (i3cOpenHandlers x bus is).2.defaultBus =
        if x.os.answer.ok then bus else x.defaultBus := by
  induction is generalizing x with
  | nil => exact absurd rfl h
  | cons i is ih =>
    rw [i3cOpenHandlers_cons] at h ⊢
    by_cases ha : x.os.answer.ok = true
    · simp only [if_pos ha] at h ⊢
      obtain ⟨hnone, hi3c, hdef⟩ := ih h
      refine ⟨hnone, hi3c.trans ?_, hdef.trans ?_⟩ <;> exact ite_id _
    · simp only [if_neg ha]
      exact ⟨fun _ => rfl, rfl, rfl⟩

theorem i3cOpenDeviceDrivers_same (x : Ixc) (bus : UInt8) :
    SameI2c x (i3cOpenDeviceDrivers x bus).2 := by
  obtain ⟨os, hos⟩ := i3cGetDevName_eq x bus
  have hname : SameI2c x (i3cGetDevName x bus).2 := by
    rw [hos]
    exact ⟨rfl, rfl, rfl, rfl, rfl, rfl⟩
  unfold i3cOpenDeviceDrivers
  dsimp only
  split_ifs
  · exact hname.trans (i3cOpenHandlers_same _ bus _)
  · exact hname

theorem i3cBusSelect_same (x : Ixc) (bus : UInt8) : SameI2c x (i3cBusSelect x bus).2 := by
  unfold i3cBusSelect
  split_ifs
  · exact .refl x
  · refine SameI2c.trans ?_ (i3cOpenDeviceDrivers_same _ bus)
    exact ⟨rfl, rfl, rfl, rfl, rfl, rfl⟩
  · exact .refl x
  · exact .refl x

theorem i3cBusFlock_busType (x : Ixc) (bus : UInt8) (op : LockOp) :
    (i3cBusFlock x bus op).2.busType = x.busType := by
  have hsel : (if x.i3cBus = i3cBusAddressReserved then i3cBusSelect x bus else (.ok, x)).2.busType =
      x.busType := by
    split_ifs
    · exact (i3cBusSelect_same x bus).busType
    · rfl
  unfold i3cBusFlock
  dsimp only
  generalize (if x.i3cBus = i3cBusAddressReserved then i3cBusSelect x bus else (.ok, x)) = r at hsel
  split_ifs
  · rw [(i3cFlockHandlers_relocks r.2 op _).busType, hsel]
  · exact hsel

end Open

end BmcAsd
