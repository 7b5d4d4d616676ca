import Bmc.Lib.Run
import Bmc.Gpio.Registrations

/-!
# The nodes of processes

A process that has registered a pin is found again by its number and its name, to wait for its interrupts.

* `OneNode`: each process that has a pin has one node and is found, and the instances in use are those of the nodes;
* `returnAppInst_newNode`: a process is not found by its name, which is stored without its last character;
* **`oneNode_iff`**: each process is found in every state of a run exactly when no process registers a pin.
-/

namespace BmcGpio

open BmcLib

/-- A process name of one to 15 characters. -/
abbrev ProcName := { name : List UInt8 // 1 ≤ name.length ∧ name.length ≤ 15 }

/-- The calls of the processes. -/
inductive ProcessCall
  | register (pid : UInt32) (info : InterruptSensor) (a : IntAnswers)
  | unregister (pid : UInt32) (p : Pin) (copy hwOk : Bool)
  | release (pid : UInt32) (hwOk : Pin → Bool)

variable (names : UInt32 → ProcName)

/-- The system call of a process, which has its name. -/
def ProcessCall.call : ProcessCall → Call
  | .register pid info a => .intRegister pid ⟨(names pid).1, (names pid).2.2⟩ info a
  | .unregister pid p copy hwOk => .intUnregister pid p copy hwOk
  | .release pid hwOk => .release pid hwOk

/-- The driver after a call of a process. -/
def processStep (s : Gpio) (c : ProcessCall) : Gpio := (s.call (c.call names)).2

/-- The processes that have a pin have one node each and are found by their names; the nodes of two processes have two
instances, and the instances in use are those of the nodes. -/
structure OneNode (s : Gpio) : Prop where
  found : ∀ pid, (∃ n ∈ s.headGpioList, n.pid = pid ∧ ∃ p, n.enabled p = true) →
    ∃ n, s.headGpioList.filter (fun n => n.pid = pid) = [n] ∧ returnAppInst s pid (names pid).1 = n.inst
  distinct : s.headGpioList.Pairwise fun n m => n.pid ≠ m.pid → n.inst ≠ m.inst
  used : ∀ i, s.instList i = true ↔ ∃ n ∈ s.headGpioList, n.inst = i

/-- A registration fails: its argument is not copied, the hardware does not take the pin, or there is no memory. -/
def RegisterFails : ProcessCall → Prop
  | .register _ _ a => a.copy = false ∨ a.hw = false ∨ a.alloc = false
  | _ => True

/-- No pin is registered by anyone. -/
structure Unregistered (s : Gpio) : Prop where
  nodes : s.headGpioList = []
  insts : ∀ i, s.instList i = false
  counts : ∀ p, s.gpioPinList p = 0
  sensors : s.totalInterruptSensors = 0
  chassis : s.totalChassisInterrupts = 0

theorem unregistered_start : Unregistered Gpio.start :=
  ⟨rfl, fun _ => rfl, fun _ => rfl, rfl, rfl⟩

variable {names} {s : Gpio}

theorem Unregistered.oneNode (h : Unregistered s) : OneNode names s where
  found pid hpid := by
    obtain ⟨n, hn, -⟩ := hpid
    rw [h.nodes] at hn
    cases hn
  distinct := by
    rw [h.nodes]
    exact List.Pairwise.nil
  used i := by simp [h.nodes, h.insts]

theorem Unregistered.allowed (h : Unregistered s) (info : InterruptSensor) :
    isRegisteredAllowed s info = some 0 := by
  simp [isRegisteredAllowed, IntrMemory.read, h.nodes, h.sensors, h.chassis]

theorem Unregistered.getFreeInst (h : Unregistered s) : getFreeInst s = some 1 := by
  simp [BmcGpio.getFreeInst, List.range', h.insts]

theorem Unregistered.setHw (h : Unregistered s) (p : Pin) (on : Bool) : Unregistered (s.setHw p on) :=
  ⟨h.nodes, h.insts, h.counts, h.sensors, h.chassis⟩

/-- **The name of a new node is not the name of its process.** -/
theorem returnAppInst_newNode {pid : UInt32} {comm : Comm} {info : InterruptSensor} {inst : ℕ}
    (hs : s.headGpioList = [newNode pid comm info inst]) (hname : 1 ≤ comm.1.length) :
    returnAppInst s pid comm.1 = -1 := by
  have hno : ¬ (newNode pid comm info inst).IsOf pid comm.1 := by
    intro h
    have hle : comm.1.length ≤ (comm.1.take (comm.1.length - 1)).length := h.2.length_le
    rw [List.length_take] at hle
    omega
  rw [returnAppInst, hs]
  simp [hno]

theorem enabled_newNode (pid : UInt32) (comm : Comm) (info : InterruptSensor) (inst : ℕ) :
    (newNode pid comm info inst).enabled info.gpioNumber = true := by
  simp [newNode, GpioNode.enable, GpioNode.enabled]

theorem Unregistered.returnAppInst (h : Unregistered s) (pid : UInt32) (name : List UInt8) :
    returnAppInst s pid name = -1 := by
  rw [BmcGpio.returnAppInst, h.nodes]
  rfl

/-- The first registration. -/
theorem Unregistered.intRegister (h : Unregistered s) (pid : UInt32) (comm : Comm) (info : InterruptSensor)
    (a : IntAnswers) : intRegister pid comm info a s =
      if a.copy = false then (-14, s)
      else if a.hw = false then (-1, s)
      else
        let s := s.setHw info.gpioNumber true
        if a.alloc = false then (-1, s)
        else (0, { s.count info.gpioNumber (· + 1) with
          instList := Function.update s.instList 1 true
          totalInterruptGpio := s.totalInterruptGpio + 1
          headGpioList := newNode pid comm info 1 :: s.headGpioList }) := by
  have hhw := h.setHw info.gpioNumber true
  rw [BmcGpio.intRegister, h.allowed]
  by_cases hcopy : a.copy = false
  · rw [if_pos hcopy, if_pos hcopy]
  rw [if_neg hcopy, if_neg hcopy]
  by_cases hwOk : a.hw = false
  · simp [h.counts, hwOk]
  · simp [h.counts, hwOk, enableFor, hhw.returnAppInst, hhw.getFreeInst]

/-- A registration that fails leaves no node. -/
theorem Unregistered.register_of_fails (h : Unregistered s) {pid : UInt32} {comm : Comm} {info : InterruptSensor}
    {a : IntAnswers} (ha : a.copy = false ∨ a.hw = false ∨ a.alloc = false) :
    Unregistered (BmcGpio.intRegister pid comm info a s).2 := by
  rw [h.intRegister]
  by_cases hcopy : a.copy = false
  · rwa [if_pos hcopy]
  rw [if_neg hcopy]
  by_cases hwOk : a.hw = false
  · rwa [if_pos hwOk]
  rw [if_neg hwOk]
  dsimp only
  rw [if_pos ((ha.resolve_left hcopy).resolve_left hwOk)]
  exact h.setHw _ _

/-- A registration that does not fail leaves a process that is not found. -/
theorem Unregistered.not_oneNode_of_register (h : Unregistered s) {pid : UInt32} {comm : Comm} {info : InterruptSensor}
    {a : IntAnswers} (ha : ¬ (a.copy = false ∨ a.hw = false ∨ a.alloc = false)) (hname : comm.1 = (names pid).1) :
    ¬ OneNode names (BmcGpio.intRegister pid comm info a s).2 := by
  intro hone
  have hlist : (BmcGpio.intRegister pid comm info a s).2.headGpioList = [newNode pid comm info 1] := by
    rw [not_or, not_or] at ha
    rw [h.intRegister, if_neg ha.1, if_neg ha.2.1]
    dsimp only
    rw [if_neg ha.2.2, h.setHw info.gpioNumber true |>.nodes]
  obtain ⟨n, -, hinst⟩ := hone.found pid
    ⟨newNode pid comm info 1, hlist ▸ List.mem_singleton.2 rfl, rfl, info.gpioNumber, enabled_newNode pid comm info 1⟩
  have hpos : 1 ≤ comm.1.length := hname ▸ (names pid).2.1
  rw [← hname, returnAppInst_newNode hlist hpos] at hinst
  omega

theorem Unregistered.intUnregister (h : Unregistered s) (pid : UInt32) (p : Pin) (copy hwOk : Bool) :
    (BmcGpio.intUnregister pid p copy hwOk s).2 = s := by
  rw [BmcGpio.intUnregister]
  by_cases hcopy : copy = false
  · rw [if_pos hcopy]
  · simp [hcopy, h.nodes, Gpio.freeNode]

theorem Unregistered.release (h : Unregistered s) (pid : UInt32) (hwOk : Pin → Bool) :
    unregisterGpioInt pid hwOk s = s := by
  simp [unregisterGpioInt, h.nodes]

/-- **Each process that has a pin has one node, and is found, in every state of a run exactly when every registration
of the run fails.** -/
theorem oneNode_iff (names : UInt32 → ProcName) (calls : List ProcessCall) :
    Always (processStep names) (OneNode names) Gpio.start calls ↔
      AllSteps (processStep names) (fun _ c => RegisterFails c) Gpio.start calls := by
  refine always_iff_of_inv (fun s (h : Unregistered s) => h.oneNode) (fun s c h hc => ?_) (fun s c h hc => ?_)
    unregistered_start calls
  · cases c with
    | register pid info a => exact h.register_of_fails hc
    | unregister pid p copy hwOk =>
      change Unregistered (BmcGpio.intUnregister pid p copy hwOk s).2
      rwa [h.intUnregister]
    | release pid hwOk =>
      change Unregistered (unregisterGpioInt pid hwOk s)
      rwa [h.release]
  · cases c with
    | register pid info a => exact h.not_oneNode_of_register hc rfl
    | unregister pid p copy hwOk => exact absurd trivial hc
    | release pid hwOk => exact absurd trivial hc

/-- Rising edges of a pin. -/
def sensorSample (p : Pin) : InterruptSensor :=
  { gpioNumber := p, sensorNumber := 0, triggerMethod := .gpioEdge, triggerType := .risingEdge,
    readingOnAssertion := 0 }

/-- **A process that has registered one pin is not found.** -/
theorem not_oneNode_register : ¬ Always (processStep fun _ => ⟨[0x61, 0x62], by decide, by decide⟩)
    (OneNode fun _ => ⟨[0x61, 0x62], by decide, by decide⟩) Gpio.start
    [.register 7 (sensorSample 1) { copy := true, hw := true, alloc := true }] := by
  intro h
  obtain ⟨n, -, hinst⟩ := h.foldl.found 7
    ⟨_, List.mem_singleton.2 rfl, rfl, 1, by decide⟩
  have hno : returnAppInst (processStep (fun _ => ⟨[0x61, 0x62], by decide, by decide⟩) Gpio.start
      (.register 7 (sensorSample 1) { copy := true, hw := true, alloc := true })) 7 [0x61, 0x62] = -1 := by decide
  exact absurd (hno.symm.trans hinst) (by omega)

end BmcGpio
