import Mathlib.Tactic

/-!
# Registrations of GPIO interrupts

Pins are registered for interrupts in three ways: as sensors and as chassis interrupts, `gpiomain.c`, and by
processes, `gpiomain_ext.c`. A count for each pin says how often it is registered.

* `Gpio`: the lists, the nodes of the processes, the counts, and the interrupts of the hardware;
* `registerSensorInts`, `unregisterSensorInts`, `registerChassisInts`, `unregisterChassisInts`;
* `intRegister`, `intUnregister`, `unregisterGpioInt`: the pins of processes;
* `Gpio.call`: a system call, with what it returns.
-/

namespace BmcGpio

/-- A pin number that is in range. -/
abbrev Pin := Fin 256

/-- `MAX_IOCTL_INSTANCE`. -/
abbrev maxIoctlInstance : ℕ := 10

/-- `gpio_trigger_method_info`. -/
inductive TriggerMethod
  | gpioEdge | gpioLevel
  deriving DecidableEq, Repr

/-- `gpio_trigger_type_info`. -/
inductive TriggerType
  | risingEdge | fallingEdge | highLevel | lowLevel | bothEdges | notLevelTrigger
  deriving DecidableEq, Repr

/-- `gpio_interrupt_sensor`. -/
structure InterruptSensor where
  gpioNumber : Pin
  sensorNumber : UInt16
  triggerMethod : TriggerMethod
  triggerType : TriggerType
  readingOnAssertion : UInt8
  deriving DecidableEq, Repr

/-- `sizeof(gpio_interrupt_sensor)`. -/
abbrev sizeofInterruptSensor : ℕ := 27

/-! ## The state -/

/-- What `intr_sensors` or `intr_chassis` points at. -/
inductive IntrMemory
  | null
  | freed
  | block (entries : List InterruptSensor)
  deriving DecidableEq, Repr

/-- The first `total` entries, when all of them are there. -/
def IntrMemory.read (m : IntrMemory) (total : ℕ) : Option (List InterruptSensor) :=
  if total = 0 then some []
  else match m with
    | .block entries => if total ≤ entries.length then some (entries.take total) else none
    | _ => none

@[simp] theorem IntrMemory.read_zero (m : IntrMemory) : m.read 0 = some [] := if_pos rfl

/-- `gpio_interrupt`. -/
structure GpioInterrupt where
  gpioIntrEnabled : Bool
  triggerMethod : TriggerMethod
  triggerType : TriggerType
  deriving DecidableEq, Repr

/-- A cleared `gpio_interrupt`. -/
def GpioInterrupt.zero : GpioInterrupt :=
  { gpioIntrEnabled := false, triggerMethod := .gpioEdge, triggerType := .risingEdge }

/-- `gpiolist`: a node of a process. -/
structure GpioNode where
  gpioIntr : Pin → GpioInterrupt
  appName : List UInt8
  pid : UInt32
  inst : ℕ

/-- The pin is enabled in a node. -/
def GpioNode.enabled (n : GpioNode) (p : Pin) : Bool := (n.gpioIntr p).gpioIntrEnabled

/-- The lists and the counts of the driver, the pins whose interrupt the hardware has registered, and whether memory
was used that is no list: freed, missing, or too short. -/
structure Gpio where
  totalInterruptSensors : ℕ
  intrSensors : IntrMemory
  totalChassisInterrupts : ℕ
  intrChassis : IntrMemory
  gpioPinList : Pin → UInt8
  headGpioList : List GpioNode
  instList : ℕ → Bool
  totalInterruptGpio : UInt32
  hw : Pin → Bool
  fault : Bool

/-- The driver when it is loaded. -/
def Gpio.start : Gpio where
  totalInterruptSensors := 0
  intrSensors := .null
  totalChassisInterrupts := 0
  intrChassis := .null
  gpioPinList _ := 0
  headGpioList := []
  instList _ := false
  totalInterruptGpio := 0
  hw _ := false
  fault := false

/-- `g_gpiopinlist[p]` is changed. -/
def Gpio.count (s : Gpio) (p : Pin) (f : UInt8 → UInt8) : Gpio :=
  { s with gpioPinList := Function.update s.gpioPinList p (f (s.gpioPinList p)) }

/-- The interrupt of a pin is registered with the hardware, or unregistered. -/
def Gpio.setHw (s : Gpio) (p : Pin) (on : Bool) : Gpio := { s with hw := Function.update s.hw p on }

/-! ## Sensors and chassis interrupts -/

/-- What the calls of a registration answer: `kmalloc`, `copy_from_user`, with what the memory holds when it fails,
and the hardware. -/
structure RegisterAnswers where
  alloc : Bool
  copy : Bool
  left : List InterruptSensor
  hw : Bool

/-- What is copied of the entries: the size of the memory has 32 bits. -/
def copied (infos : List InterruptSensor) : List InterruptSensor :=
  infos.take (sizeofInterruptSensor * infos.length % 2 ^ 32 / sizeofInterruptSensor)

/-- The hardware registers the interrupts of all entries. -/
def Gpio.regInts (s : Gpio) (entries : List InterruptSensor) : Gpio :=
  entries.foldl (fun s e => s.setHw e.gpioNumber true) s

/-- The counts of the pins of the entries are raised. -/
def Gpio.countAll (s : Gpio) (entries : List InterruptSensor) : Gpio :=
  entries.foldl (fun s e => s.count e.gpioNumber (· + 1)) s

@[simp] theorem Gpio.regInts_nil (s : Gpio) : s.regInts [] = s := rfl

@[simp] theorem Gpio.countAll_nil (s : Gpio) : s.countAll [] = s := rfl

/-- `REGISTER_SENSOR_INTS`. -/
def registerSensorInts (infos : List InterruptSensor) (a : RegisterAnswers) (s : Gpio) : ℤ × Gpio :=
  let s := { s with totalInterruptSensors := infos.length }
  if a.alloc = false then (-12, { s with intrSensors := .null })
  else if a.copy = false then (-14, { s with intrSensors := .block a.left })
  else
    let s := { s with intrSensors := .block (copied infos) }
    match s.intrSensors.read s.totalInterruptSensors with
    | none => (0, { s with fault := true })
    | some entries =>
      if a.hw = false then (-1, s)
      else (0, (s.regInts entries).countAll entries)

/-- The loop of an unregistration over the entries, where `hwOk` is what the hardware answers for an entry: whether
it comes to its end. -/
def unregLoop (hwOk : ℕ → Bool) : ℕ → List InterruptSensor → Gpio → Bool × Gpio
  | _, [], s => (true, s)
  | i, e :: es, s =>
    if s.gpioPinList e.gpioNumber = 1 then
      if hwOk i = false then (false, s)
      else unregLoop hwOk (i + 1) es ((s.setHw e.gpioNumber false).count e.gpioNumber (· - 1))
    else unregLoop hwOk (i + 1) es (s.count e.gpioNumber (· - 1))

/-- `UNREGISTER_SENSOR_INTS`. The pointer is kept when the list is freed. -/
def unregisterSensorInts (hwOk : ℕ → Bool) (s : Gpio) : ℤ × Gpio :=
  match s.intrSensors.read s.totalInterruptSensors with
  | none => (0, { s with fault := true })
  | some entries =>
    let r := unregLoop hwOk 0 entries s
    if r.1 = false then (-1, r.2)
    else if r.2.intrSensors = .freed then (0, { r.2 with fault := true })
    else
      let m := if r.2.intrSensors = .null then .null else IntrMemory.freed
      (0, { r.2 with intrSensors := m, totalInterruptSensors := 0 })

/-- `REGISTER_CHASSIS_INTS`. The counts are those of the pins of `intr_sensors`. -/
def registerChassisInts (infos : List InterruptSensor) (a : RegisterAnswers) (s : Gpio) : ℤ × Gpio :=
  let s := { s with totalChassisInterrupts := infos.length }
  if a.alloc = false then (-12, { s with intrChassis := .null })
  else if a.copy = false then (-14, { s with intrChassis := .block a.left })
  else
    let s := { s with intrChassis := .block (copied infos) }
    match s.intrChassis.read s.totalChassisInterrupts with
    | none => (0, { s with fault := true })
    | some entries =>
      if a.hw = false then (-1, s)
      else
        let s := s.regInts entries
        match s.intrSensors.read s.totalChassisInterrupts with
        | none => (0, { s with fault := true })
        | some sensors => (0, s.countAll sensors)

/-- `UNREGISTER_CHASSIS_INTS`. -/
def unregisterChassisInts (hwOk : ℕ → Bool) (s : Gpio) : ℤ × Gpio :=
  match s.intrChassis.read s.totalChassisInterrupts with
  | none => (0, { s with fault := true })
  | some entries =>
    let r := unregLoop hwOk 0 entries s
    if r.1 = false then (-1, r.2)
    else (0, { r.2 with intrChassis := .null, totalChassisInterrupts := 0 })

/-! ## Processes -/

/-- The name of a process, `current->comm`. -/
abbrev Comm := { name : List UInt8 // name.length ≤ 15 }

/-- A node is taken for the one of a process. -/
def GpioNode.IsOf (n : GpioNode) (pid : UInt32) (name : List UInt8) : Prop := n.pid = pid ∧ name <+: n.appName

instance (n : GpioNode) (pid : UInt32) (name : List UInt8) : Decidable (n.IsOf pid name) :=
  inferInstanceAs (Decidable (_ ∧ _))

/-- `ReturnAppInst`. -/
def returnAppInst (s : Gpio) (pid : UInt32) (name : List UInt8) : ℤ :=
  match s.headGpioList.find? fun n => n.IsOf pid name with
  | some n => n.inst
  | none => -1

/-- `getFreeInst`. -/
def getFreeInst (s : Gpio) : Option ℕ := (List.range' 1 maxIoctlInstance).find? fun i => !s.instList i

/-- The pin is registered with another trigger. -/
def InterruptSensor.differs (info : InterruptSensor) (m : TriggerMethod) (t : TriggerType) : Bool :=
  info.triggerMethod ≠ m || info.triggerType ≠ t

/-- `isRegisteredAllowed`, if the lists are there. -/
def isRegisteredAllowed (s : Gpio) (info : InterruptSensor) : Option ℤ :=
  (s.intrSensors.read s.totalInterruptSensors).bind fun sensors =>
    let sensors := sensors.filter fun e => e.gpioNumber = info.gpioNumber
    if sensors.any fun e => info.differs e.triggerMethod e.triggerType then some (-1)
    else (s.intrChassis.read s.totalChassisInterrupts).bind fun chassis =>
      let chassis := chassis.filter fun e => e.gpioNumber = info.gpioNumber
      if chassis.any fun e => info.differs e.triggerMethod e.triggerType then some (-1)
      else
        let nodes := (s.headGpioList.take s.totalInterruptGpio.toNat).filter fun n => n.enabled info.gpioNumber
        if nodes.any fun n => info.differs (n.gpioIntr info.gpioNumber).triggerMethod
            (n.gpioIntr info.gpioNumber).triggerType then some (-1)
        else if sensors.isEmpty && chassis.isEmpty && nodes.isEmpty then some 0
        else some 1

/-- What the calls of `IOCTL_GPIO_INT_REGISTER` answer: `copy_from_user`, the hardware and `kmalloc`. -/
structure IntAnswers where
  copy : Bool
  hw : Bool
  alloc : Bool
  deriving DecidableEq, Repr

/-- The pin is enabled in a node, with its trigger. -/
def GpioNode.enable (n : GpioNode) (info : InterruptSensor) : GpioNode :=
  let i : GpioInterrupt :=
    { gpioIntrEnabled := true, triggerMethod := info.triggerMethod, triggerType := info.triggerType }
  { n with gpioIntr := Function.update n.gpioIntr info.gpioNumber i }

/-- The pin is disabled in a node. -/
def GpioNode.disable (n : GpioNode) (p : Pin) : GpioNode :=
  { n with gpioIntr := Function.update n.gpioIntr p .zero }

/-- A node for a process, with one pin. The name is printed to as many bytes as it has characters, so that its last
character is cut off. -/
def newNode (pid : UInt32) (comm : Comm) (info : InterruptSensor) (inst : ℕ) : GpioNode :=
  GpioNode.enable { gpioIntr := fun _ => .zero, appName := comm.1.take (comm.1.length - 1), pid := pid, inst := inst } info

/-- The pin is enabled for a process, in its node or in a new one. Its name always fits into `AppName`. -/
def enableFor (pid : UInt32) (comm : Comm) (info : InterruptSensor) (alloc : Bool) (s : Gpio) : ℤ × Gpio :=
  if returnAppInst s pid comm.1 = -1 then
    if alloc = false then (-1, s)
    else match getFreeInst s with
      | none => (-1, s)
      | some inst =>
        (0, { s.count info.gpioNumber (· + 1) with
          instList := Function.update s.instList inst true
          totalInterruptGpio := s.totalInterruptGpio + 1
          headGpioList := newNode pid comm info inst :: s.headGpioList })
  else
    (0, { s.count info.gpioNumber (· + 1) with
      totalInterruptGpio := s.totalInterruptGpio + 1
      headGpioList := s.headGpioList.modify (s.headGpioList.findIdx fun n => n.IsOf pid comm.1)
        (GpioNode.enable · info) })

/-- `IOCTL_GPIO_INT_REGISTER` of a process. -/
def intRegister (pid : UInt32) (comm : Comm) (info : InterruptSensor) (a : IntAnswers) (s : Gpio) : ℤ × Gpio :=
  if a.copy = false then (-14, s)
  else match isRegisteredAllowed s info with
    | none => (0, { s with fault := true })
    | some ret =>
      if ret = -1 then (-1, s)
      else
        let first := ret = 0 ∧ s.gpioPinList info.gpioNumber = 0
        if first ∧ a.hw = false then (-1, s)
        else enableFor pid comm info a.alloc (if first then s.setHw info.gpioNumber true else s)

/-- A node is freed, with its instance. -/
def Gpio.freeNode (s : Gpio) (i : ℕ) : Gpio :=
  match s.headGpioList[i]? with
  | none => s
  | some n =>
    { s with instList := Function.update s.instList n.inst false, headGpioList := s.headGpioList.eraseIdx i }

/-- `IOCTL_GPIO_INT_UNREGISTER` of a process, where `hwOk` is what the hardware answers. A node that has no pin any
more is freed. -/
def intUnregister (pid : UInt32) (p : Pin) (copy hwOk : Bool) (s : Gpio) : ℤ × Gpio :=
  if copy = false then (-14, s)
  else
    let i := s.headGpioList.findIdx fun n => n.pid = pid && n.enabled p
    if i < s.headGpioList.length ∧ s.gpioPinList p = 1 ∧ hwOk = false then (-1, s)
    else
      let s :=
        if i < s.headGpioList.length then
          let s := if s.gpioPinList p = 1 then s.setHw p false else s
          { s.count p (· - 1) with
            totalInterruptGpio := s.totalInterruptGpio - 1
            headGpioList := s.headGpioList.modify i (GpioNode.disable · p) }
        else s
      (0, s.freeNode (s.headGpioList.findIdx fun n => n.pid = pid && (List.finRange 256).all fun q => !n.enabled q))

/-- The pins of a node are unregistered one by one; what the hardware answers does not matter. -/
def Gpio.unregPins (s : Gpio) (n : GpioNode) (hwOk : Pin → Bool) : Gpio :=
  ((List.finRange 256).filter fun p => n.enabled p).foldl (fun s p =>
    let s := if s.gpioPinList p = 1 ∧ hwOk p = true then s.setHw p false else s
    s.count p (· - 1)) s

/-- `unregistergpio_int`: a process closes the device. -/
def unregisterGpioInt (pid : UInt32) (hwOk : Pin → Bool) (s : Gpio) : Gpio :=
  let i := s.headGpioList.findIdx fun n => n.pid = pid
  match s.headGpioList[i]? with
  | none => s
  | some n =>
    let s := s.unregPins n hwOk
    Gpio.freeNode { s with totalInterruptGpio := s.totalInterruptGpio - 1 } i

/-! ## System calls -/

/-- The system calls that register pins and unregister them. -/
inductive Call
  | registerSensorInts (infos : List InterruptSensor) (a : RegisterAnswers)
  | unregisterSensorInts (hwOk : ℕ → Bool)
  | registerChassisInts (infos : List InterruptSensor) (a : RegisterAnswers)
  | unregisterChassisInts (hwOk : ℕ → Bool)
  | intRegister (pid : UInt32) (comm : Comm) (info : InterruptSensor) (a : IntAnswers)
  | intUnregister (pid : UInt32) (p : Pin) (copy hwOk : Bool)
  | release (pid : UInt32) (hwOk : Pin → Bool)

/-- What a system call returns, and the driver after it. -/
def Gpio.call (s : Gpio) : Call → ℤ × Gpio
  | .registerSensorInts infos a => BmcGpio.registerSensorInts infos a s
  | .unregisterSensorInts hwOk => BmcGpio.unregisterSensorInts hwOk s
  | .registerChassisInts infos a => BmcGpio.registerChassisInts infos a s
  | .unregisterChassisInts hwOk => BmcGpio.unregisterChassisInts hwOk s
  | .intRegister pid comm info a => BmcGpio.intRegister pid comm info a s
  | .intUnregister pid p copy hwOk => BmcGpio.intUnregister pid p copy hwOk s
  | .release pid hwOk => (0, unregisterGpioInt pid hwOk s)

end BmcGpio
