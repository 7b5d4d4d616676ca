import Bmc.Lib.Run

/-!
# The driver HAL

Hardware modules register for a type of device, `driver_hal.c`. The HAL gives each a range of minor numbers
and a `dev_id`, and finds it again by them.

* `Hal`: the registered core modules, and the hardware modules of each;
* `registerHwHalModule`, `unregisterHwHalModule`, with `findGap`, the search for minor numbers;
* `hwOpen`, `hwClose`, `hwIntr`: the modules are found by their numbers.
-/

namespace BmcHelper

open BmcLib

/-- `MAX_DEV_INSTANCES`. -/
abbrev maxDevInstances : ℕ := 255

/-- `ehal_dev_type`. -/
inductive EhalDevType
  | kcs | reset | snoop | peci | adc | pwmtach | gpio | i2c | usb | video | watchdog | hostSpiFlash
  | cipher | bt | acpi | jtag | mctpPcie | ssp | mailbox | espi | espioob | espimafs | lpc2ahb
  | postcode | secondSpiFlash
  deriving DecidableEq, Repr

/-- `hw_hal_t`. -/
structure HwHal where
  devType : EhalDevType
  numInstances : UInt8
  deriving DecidableEq, Repr

/-- `hw_hal_list_t`: a hardware module that is registered. -/
structure HwHalList where
  devId : ℤ
  minorNum : UInt8
  opencount : List UInt8
  hwHal : HwHal
  pdrvData : ℕ
  deriving DecidableEq, Repr

/-- `hw_info_t`. -/
structure HwInfo where
  instNum : ℤ
  pdrvData : ℕ
  deriving DecidableEq, Repr

/-- `core_hal_list`: the `hw_list` of each type of device whose core module is registered. There is one core
module of a type at most. -/
abbrev Hal := EhalDevType → Option (List HwHalList)

/-! ## Core modules -/

/-- `register_core_hal_module`, where `alloc` says whether there is memory. -/
def registerCoreHalModule (t : EhalDevType) (alloc : Bool) (s : Hal) : ℤ × Hal :=
  match s t with
  | some _ => (-17, s)
  | none => if alloc then (0, Function.update s t (some [])) else (-12, s)

/-- `unregister_core_hal_module`. -/
def unregisterCoreHalModule (t : EhalDevType) (s : Hal) : ℤ × Hal :=
  match s t with
  | some [] => (0, Function.update s t none)
  | _ => (-1, s)

/-! ## Registration -/

/-- The search of `register_hw_hal_module` for `num` minor numbers: `last_mnum`, and the place of the entry
that it stops at, if any. -/
def findGap (num : UInt8) (last : UInt8) : List HwHalList → UInt8 × Option ℕ
  | [] => (last, none)
  | h :: hs =>
    if (num.toNat : ℤ) ≤ (h.minorNum.toNat : ℤ) - last.toNat then (last, some 0)
    else
      let r := findGap num (h.minorNum + h.hwHal.numInstances) hs
      (r.1, r.2.map (· + 1))

/-- `list_add`: behind the entry at a place, or behind the head of the list. -/
def listAdd (nh : HwHalList) (l : List HwHalList) : Option ℕ → List HwHalList
  | none => nh :: l
  | some i => l.insertIdx (i + 1) nh

/-- What the calls of a registration answer: the two `kmalloc`s, `register_hal_module` of the core module with
the data that it leaves, and `try_module_get`. -/
structure RegisterAnswers where
  allocNode : Bool
  allocOpencount : Bool
  registerHalModule : ℤ
  pdrvData : ℕ
  tryModuleGet : Bool
  deriving DecidableEq, Repr

/-- `register_hw_hal_module`. -/
def registerHwHalModule (hw : HwHal) (a : RegisterAnswers) (s : Hal) : ℤ × Hal :=
  if a.allocNode = false then (-12, s)
  else match s hw.devType with
    | none => (-1, s)
    | some l =>
      if a.allocOpencount = false then (-12, s)
      else
        let r := findGap hw.numInstances 0 l
        if maxDevInstances < r.1.toNat + hw.numInstances.toNat then (-105, s)
        else if a.registerHalModule < 0 then (a.registerHalModule, s)
        else if a.tryModuleGet = false then (-1, s)
        else
          let nh : HwHalList :=
            { devId := r.1.toNat, minorNum := r.1, hwHal := hw, pdrvData := a.pdrvData,
              opencount := List.replicate hw.numInstances.toNat 0 }
          (r.1.toNat, Function.update s hw.devType (some (listAdd nh l r.2)))

/-- `unregister_hw_hal_module`. -/
def unregisterHwHalModule (t : EhalDevType) (devId : UInt8) (s : Hal) : ℤ × Hal :=
  match s t with
  | none => (-1, s)
  | some l =>
    if l.any (fun h => h.devId = devId.toNat) then
      (0, Function.update s t (some (l.eraseP fun h => h.devId = devId.toNat)))
    else (-1, s)

/-! ## Access -/

/-- The minor number is one of the module's. -/
def HwHalList.Holds (h : HwHalList) (minor : UInt8) : Prop :=
  h.minorNum ≤ minor ∧ minor.toNat < h.minorNum.toNat + h.hwHal.numInstances.toNat

instance (h : HwHalList) (minor : UInt8) : Decidable (h.Holds minor) :=
  inferInstanceAs (Decidable (_ ∧ _))

/-- The place of the module that `hw_open` and `hw_close` take for a minor number. -/
def ofMinor (l : List HwHalList) (minor : UInt8) : Option ℕ :=
  l.findIdx? fun h => h.Holds minor

/-- The place of the module that `hw_intr` takes for a `dev_id`. -/
def ofDevId (l : List HwHalList) (devId : ℤ) : Option ℕ :=
  l.findIdx? fun h => h.devId = devId

/-- Changes the `opencount` of an instance of a module. -/
def HwHalList.count (h : HwHalList) (inst : ℕ) (f : UInt8 → UInt8) : HwHalList :=
  { h with opencount := h.opencount.modify inst f }

/-- `hw_open`, where `get` is what `try_module_get` answers: the open count, the information, and the HAL. -/
def hwOpen (t : EhalDevType) (minor : UInt8) (get : Bool) (s : Hal) : Option (UInt8 × HwInfo) × Hal :=
  match s t with
  | none => (none, s)
  | some l =>
    match ofMinor l minor with
    | none => (none, s)
    | some i =>
      match l[i]? with
      | none => (none, s)
      | some h =>
        if get = false then (none, s)
        else
          let inst := minor.toNat - h.minorNum.toNat
          (some (h.opencount.getD inst 0 + 1, { instNum := inst, pdrvData := h.pdrvData }),
            Function.update s t (some (l.modify i (HwHalList.count · inst (· + 1)))))

/-- `hw_close`: the open count, and the HAL. -/
def hwClose (t : EhalDevType) (minor : UInt8) (s : Hal) : Option UInt8 × Hal :=
  match s t with
  | none => (none, s)
  | some l =>
    match ofMinor l minor with
    | none => (none, s)
    | some i =>
      match l[i]? with
      | none => (none, s)
      | some h =>
        let inst := minor.toNat - h.minorNum.toNat
        (some (h.opencount.getD inst 0 - 1),
          Function.update s t (some (l.modify i (HwHalList.count · inst (· - 1)))))

/-- `hw_intr`. -/
def hwIntr (t : EhalDevType) (devId : ℤ) (s : Hal) : Option ℕ :=
  (s t).bind fun l => (ofDevId l devId).bind fun i => (l[i]?).map HwHalList.pdrvData

/-! ## Runs -/

/-- The calls of the HAL. -/
inductive Call
  | registerCore (t : EhalDevType) (alloc : Bool)
  | unregisterCore (t : EhalDevType)
  | registerHw (hw : HwHal) (a : RegisterAnswers)
  | unregisterHw (t : EhalDevType) (devId : UInt8)
  | openMinor (t : EhalDevType) (minor : UInt8) (get : Bool)
  | closeMinor (t : EhalDevType) (minor : UInt8)

/-- The HAL after a call. -/
def Hal.step (s : Hal) : Call → Hal
  | .registerCore t alloc => (registerCoreHalModule t alloc s).2
  | .unregisterCore t => (unregisterCoreHalModule t s).2
  | .registerHw hw a => (registerHwHalModule hw a s).2
  | .unregisterHw t devId => (unregisterHwHalModule t devId s).2
  | .openMinor t minor get => (hwOpen t minor get s).2
  | .closeMinor t minor => (hwClose t minor s).2

/-- No module is registered. -/
def Hal.start : Hal := fun _ => none

end BmcHelper
