import Bmc.Lib.Run
import Bmc.Gpio.Processes
import Bmc.Gpio.ProcessNodes

/-!
# The triggers of pins

Several processes may enable a pin, with the trigger that the pin has already. The hardware is programmed by the first
registration of a pin only.

* `TriggerRun`, `triggerStep`: the driver, and the triggers that the hardware is programmed with;
* `TriggersAgree`: nodes, lists and hardware agree on the triggers of the pins that are enabled;
* `Counted`: what it takes of a registration; `Steady`: what such registrations keep, with the counters;
* **`triggersAgree_of_counted`**: the triggers agree in every state of a run of such registrations.
-/

namespace BmcGpio

open BmcLib

/-- A trigger method and a trigger type. -/
abbrev Trigger := TriggerMethod × TriggerType

/-- The trigger of an entry. -/
def InterruptSensor.trigger (e : InterruptSensor) : Trigger := (e.triggerMethod, e.triggerType)

/-- The trigger of a pin in a node. -/
def GpioNode.trigger (n : GpioNode) (p : Pin) : Trigger := ((n.gpioIntr p).triggerMethod, (n.gpioIntr p).triggerType)

/-- The calls of processes. -/
inductive PinCall
  | register (pid : UInt32) (comm : Comm) (info : InterruptSensor) (a : IntAnswers)
  | unregister (pid : UInt32) (p : Pin) (copy hwOk : Bool)
  | release (pid : UInt32) (hwOk : Pin → Bool)

/-- The system call. -/
def PinCall.call : PinCall → Call
  | .register pid comm info a => .intRegister pid comm info a
  | .unregister pid p copy hwOk => .intUnregister pid p copy hwOk
  | .release pid hwOk => .release pid hwOk

/-- The driver, and the triggers that the hardware is programmed with. -/
structure TriggerRun where
  gpio : Gpio
  programmed : Pin → Option Trigger

/-- What a call programs: `regsensorints` and `unregsensorints`. -/
def PinCall.program (s : Gpio) (m : Pin → Option Trigger) : PinCall → Pin → Option Trigger
  | .register _ _ info a =>
    if a.copy = true ∧ isRegisteredAllowed s info = some 0 ∧ s.gpioPinList info.gpioNumber = 0 ∧ a.hw = true then
      Function.update m info.gpioNumber (some info.trigger)
    else m
  | .unregister pid p copy hwOk =>
    if copy = true ∧ (s.headGpioList.any fun n => n.pid = pid && n.enabled p) = true ∧ s.gpioPinList p = 1 ∧
        hwOk = true then
      Function.update m p none
    else m
  | .release pid hwOk =>
    match s.headGpioList.find? fun n => n.pid = pid with
    | some n => fun p => if n.enabled p = true ∧ s.gpioPinList p = 1 ∧ hwOk p = true then none else m p
    | none => m

/-- What a call does. -/
def triggerStep (r : TriggerRun) (c : PinCall) : TriggerRun :=
  { gpio := (r.gpio.call c.call).2, programmed := c.program r.gpio r.programmed }

variable (sensors chassis : List InterruptSensor)

/-- The driver with lists of sensors and chassis interrupts, which the hardware is programmed with, and with any
counts, before any process has registered a pin. -/
def TriggerRun.start (counts : Pin → UInt8) : TriggerRun where
  gpio := { Gpio.start with
    totalInterruptSensors := sensors.length
    intrSensors := .block sensors
    totalChassisInterrupts := chassis.length
    intrChassis := .block chassis
    gpioPinList := counts }
  programmed p := ((sensors ++ chassis).reverse.find? fun e => e.gpioNumber = p).map InterruptSensor.trigger

/-- The nodes that have a pin enabled agree on its trigger, with each other, with the lists and with the hardware. -/
structure TriggersAgree (r : TriggerRun) : Prop where
  nodes : ∀ n ∈ r.gpio.headGpioList, ∀ m ∈ r.gpio.headGpioList, ∀ p, n.enabled p = true → m.enabled p = true →
    n.trigger p = m.trigger p
  lists : ∀ n ∈ r.gpio.headGpioList, ∀ e ∈ sensors ++ chassis, n.enabled e.gpioNumber = true →
    n.trigger e.gpioNumber = e.trigger
  hardware : ∀ n ∈ r.gpio.headGpioList, ∀ p, n.enabled p = true → r.programmed p = some (n.trigger p)

/-- A registration that is allowed, and that the hardware does not refuse, and that has a node, finds the pin
registered exactly when it is counted, and neither the count of the pin nor the counter of registrations is at its
end. -/
def Counted (r : TriggerRun) : PinCall → Prop
  | .register pid comm info a => a.copy = true → ∀ ret, isRegisteredAllowed r.gpio info = some ret → ret ≠ -1 →
      ¬ ((ret = 0 ∧ r.gpio.gpioPinList info.gpioNumber = 0) ∧ a.hw = false) → GetsNode r.gpio pid comm a →
      (ret = 0 ↔ r.gpio.gpioPinList info.gpioNumber = 0) ∧ r.gpio.gpioPinList info.gpioNumber ≠ 255 ∧
        r.gpio.totalInterruptGpio ≠ 0xffffffff
  | _ => True

/-! ## The counters -/

/-- The number of pins of a node, and one for a node without pins. -/
def GpioNode.weight (n : GpioNode) : ℕ := max 1 ((List.finRange 256).countP n.enabled)

/-- The sum of the weights of nodes. -/
def weights (l : List GpioNode) : ℕ := (l.map GpioNode.weight).sum

variable {sensors chassis} {l r : List GpioNode} {n : GpioNode} {info : InterruptSensor} {p q : Pin}

theorem weight_pos (n : GpioNode) : 1 ≤ n.weight := le_max_left ..

theorem length_le_weights (l : List GpioNode) : l.length ≤ weights l := by
  induction l with
  | nil => exact le_refl 0
  | cons n l ih =>
    rw [weights, List.map_cons, List.sum_cons, List.length_cons, ← weights]
    have := weight_pos n
    omega

theorem weights_middle : weights (l ++ n :: r) = n.weight + weights (l ++ r) := by
  rw [weights, weights, List.map_append, List.map_append, List.map_cons, List.sum_append, List.sum_append,
    List.sum_cons]
  omega

theorem countP_update {f g : Pin → Bool} (h : ∀ q, q ≠ p → f q = g q) :
    (List.finRange 256).countP f + (if g p then 1 else 0) = (List.finRange 256).countP g + if f p then 1 else 0 := by
  obtain ⟨s, t, hst⟩ := List.append_of_mem (List.mem_finRange p)
  have hnodup := List.nodup_finRange 256
  rw [hst] at hnodup ⊢
  have hne : ∀ q ∈ s ++ t, q ≠ p := by
    rintro q hq rfl
    exact (List.nodup_cons.1 (List.nodup_middle.1 hnodup)).1 hq
  have hsame : (s ++ t).countP f = (s ++ t).countP g := List.countP_congr fun q hq => by rw [h q (hne q hq)]
  rw [List.countP_append] at hsame
  rw [List.countP_append] at hsame
  rw [List.countP_append, List.countP_append, List.countP_cons, List.countP_cons]
  omega

/-- A pin more. -/
theorem weight_enable : (n.enable info).weight ≤ n.weight + 1 := by
  have hsame : ∀ q, q ≠ info.gpioNumber → (n.enable info).enabled q = n.enabled q := fun q hq => by
    simp [GpioNode.enable, GpioNode.enabled, hq]
  have hcount := countP_update hsame
  rw [GpioNode.weight, GpioNode.weight]
  split_ifs at hcount <;> omega

/-- The first pin. -/
theorem weight_enable_blank (hn : ∀ q, n.enabled q = false) : (n.enable info).weight = 1 := by
  have hsame : ∀ q, q ≠ info.gpioNumber → (n.enable info).enabled q = n.enabled q := fun q hq => by
    simp [GpioNode.enable, GpioNode.enabled, hq]
  have hcount := countP_update hsame
  have hzero : (List.finRange 256).countP n.enabled = 0 := List.countP_eq_zero.2 fun q _ => by simp [hn q]
  rw [GpioNode.weight]
  split_ifs at hcount <;> omega

/-- A pin less. Then the node has another pin, or none. -/
theorem weight_disable (hp : n.enabled p = true) :
    ((n.disable p).weight + 1 = n.weight ∧ ∃ q, (n.disable p).enabled q = true) ∨
      ((n.disable p).weight = n.weight ∧ ∀ q, (n.disable p).enabled q = false) := by
  have hsame : ∀ q, q ≠ p → (n.disable p).enabled q = n.enabled q := fun q hq => by
    simp [GpioNode.disable, GpioNode.enabled, hq]
  have hoff : (n.disable p).enabled p = false := by simp [GpioNode.disable, GpioNode.enabled, GpioInterrupt.zero]
  have hcount := countP_update hsame
  rw [hp, hoff, if_pos rfl, if_neg Bool.false_ne_true] at hcount
  rw [GpioNode.weight, GpioNode.weight]
  by_cases hzero : (List.finRange 256).countP (n.disable p).enabled = 0
  · refine .inr ⟨by omega, fun q => ?_⟩
    exact Bool.eq_false_iff.2 (List.countP_eq_zero.1 hzero q (List.mem_finRange q))
  · refine .inl ⟨by omega, ?_⟩
    obtain ⟨q, -, hq⟩ := List.countP_pos_iff.1 (Nat.pos_of_ne_zero hzero)
    exact ⟨q, hq⟩

/-- How many nodes have a pin enabled. -/
def uses (l : List GpioNode) (p : Pin) : ℕ := l.countP fun n => n.enabled p

theorem uses_middle : uses (l ++ n :: r) p = (if n.enabled p = true then 1 else 0) + uses (l ++ r) p := by
  rw [uses, uses, List.countP_append, List.countP_append, List.countP_cons]
  omega

theorem uses_pos (hn : n ∈ l) (hp : n.enabled p = true) : 0 < uses l p := List.countP_pos_iff.2 ⟨n, hn, hp⟩

/-! ## What is kept -/

variable (sensors chassis) in
/-- The lists are there, the triggers agree, the counter of registrations and the counts of the pins are not below the
registrations in the nodes, and the hardware is programmed for the listed pins that are counted. -/
structure Steady (r : TriggerRun) : Prop where
  sensorsRead : r.gpio.intrSensors.read r.gpio.totalInterruptSensors = some sensors
  chassisRead : r.gpio.intrChassis.read r.gpio.totalChassisInterrupts = some chassis
  agree : TriggersAgree sensors chassis r
  total : weights r.gpio.headGpioList ≤ r.gpio.totalInterruptGpio.toNat
  counts : ∀ p, uses r.gpio.headGpioList p ≤ (r.gpio.gpioPinList p).toNat
  listed : ∀ e ∈ sensors ++ chassis,
    (∀ e' ∈ sensors ++ chassis, e'.gpioNumber = e.gpioNumber → e'.trigger = e.trigger) →
    r.gpio.gpioPinList e.gpioNumber ≠ 0 → r.programmed e.gpioNumber = some e.trigger

theorem differs_eq_false {m : TriggerMethod} {t : TriggerType} : ¬ info.differs m t = true ↔ (m, t) = info.trigger := by
  rw [InterruptSensor.differs, Bool.or_eq_true, decide_eq_true_eq, decide_eq_true_eq, not_or, not_not, not_not,
    InterruptSensor.trigger, Prod.mk.injEq]
  exact and_congr eq_comm eq_comm

section

variable {r : TriggerRun}

/-- **The search sees all nodes**, for the counter is not below their number. -/
theorem Steady.take (h : Steady sensors chassis r) :
    r.gpio.headGpioList.take r.gpio.totalInterruptGpio.toNat = r.gpio.headGpioList :=
  List.take_of_length_le ((length_le_weights _).trans h.total)

/-- **What it means that a pin may be registered.** -/
theorem Steady.allowed (h : Steady sensors chassis r) {ret : ℤ}
    (hret : isRegisteredAllowed r.gpio info = some ret) (hne : ret ≠ -1) :
    (∀ e ∈ sensors ++ chassis, e.gpioNumber = info.gpioNumber → e.trigger = info.trigger) ∧
    (∀ n ∈ r.gpio.headGpioList, n.enabled info.gpioNumber = true → n.trigger info.gpioNumber = info.trigger) ∧
    (ret = 0 ↔ (∀ e ∈ sensors ++ chassis, e.gpioNumber ≠ info.gpioNumber) ∧
      ∀ n ∈ r.gpio.headGpioList, ¬ n.enabled info.gpioNumber = true) := by
  have hsame : ∀ l : List InterruptSensor,
      ¬ ((l.filter fun e => e.gpioNumber = info.gpioNumber).any
        fun e => info.differs e.triggerMethod e.triggerType) = true →
      ∀ e ∈ l, e.gpioNumber = info.gpioNumber → e.trigger = info.trigger := by
    intro l hl e he hpin
    refine differs_eq_false.1 fun hd => hl (List.any_eq_true.2 ⟨e, ?_, hd⟩)
    exact List.mem_filter.2 ⟨he, decide_eq_true hpin⟩
  have hnil : ∀ l : List InterruptSensor, (l.filter fun e => e.gpioNumber = info.gpioNumber).isEmpty = true ↔
      ∀ e ∈ l, e.gpioNumber ≠ info.gpioNumber := fun l => by
    rw [List.isEmpty_iff, List.filter_eq_nil_iff]
    simp only [decide_eq_true_eq, ne_eq]
  rw [isRegisteredAllowed, h.sensorsRead, h.chassisRead, h.take] at hret
  dsimp only [Option.bind_some] at hret
  split_ifs at hret with hs hc hn hzero
  · exact absurd (Option.some_inj.1 hret).symm hne
  · exact absurd (Option.some_inj.1 hret).symm hne
  · exact absurd (Option.some_inj.1 hret).symm hne
  all_goals
    have hlists : ∀ e ∈ sensors ++ chassis, e.gpioNumber = info.gpioNumber → e.trigger = info.trigger :=
      fun e he => (List.mem_append.1 he).elim (hsame sensors hs e) (hsame chassis hc e)
    have hnodes : ∀ n ∈ r.gpio.headGpioList, n.enabled info.gpioNumber = true →
        n.trigger info.gpioNumber = info.trigger := fun n hn' hen =>
      differs_eq_false.1 fun hd => hn (List.any_eq_true.2 ⟨n, List.mem_filter.2 ⟨hn', hen⟩, hd⟩)
    rw [Bool.and_eq_true, Bool.and_eq_true, hnil, hnil, List.isEmpty_iff, List.filter_eq_nil_iff] at hzero
    refine ⟨hlists, hnodes, ?_⟩
    rw [List.forall_mem_append, ← Option.some_inj.1 hret]
  · exact iff_of_true rfl hzero
  · exact iff_of_false (by decide) hzero

/-! ## Steps -/

/-- The nodes of a state are among the nodes of an earlier one, but for pins that they do not have any more. -/
theorem TriggersAgree.of_subset {r r' : TriggerRun} (h : TriggersAgree sensors chassis r)
    (hnodes : ∀ n' ∈ r'.gpio.headGpioList, ∀ p, n'.enabled p = true →
      ∃ n ∈ r.gpio.headGpioList, n.enabled p = true ∧ n.trigger p = n'.trigger p ∧
        r'.programmed p = r.programmed p) : TriggersAgree sensors chassis r' where
  nodes n' hn' m' hm' p hen hen' := by
    obtain ⟨n, hn, hp, htrigger, -⟩ := hnodes n' hn' p hen
    obtain ⟨m, hm, hp', htrigger', -⟩ := hnodes m' hm' p hen'
    rw [← htrigger, ← htrigger']
    exact h.nodes n hn m hm p hp hp'
  lists n' hn' e he hen := by
    obtain ⟨n, hn, hp, htrigger, -⟩ := hnodes n' hn' _ hen
    rw [← htrigger]
    exact h.lists n hn e he hp
  hardware n' hn' p hen := by
    obtain ⟨n, hn, hp, htrigger, hsame⟩ := hnodes n' hn' p hen
    rw [hsame, ← htrigger]
    exact h.hardware n hn p hp

/-- A registration that fails. -/
theorem Steady.register_same (h : Steady sensors chassis r) {pid : UInt32} {comm : Comm} {a : IntAnswers}
    (hsame : SameNodes r.gpio (intRegister pid comm info a r.gpio).2) :
    Steady sensors chassis (triggerStep r (.register pid comm info a)) := by
  have hprogram : ∀ q, (∃ n ∈ r.gpio.headGpioList, n.enabled q = true) ∨
      (∃ e ∈ sensors ++ chassis, e.gpioNumber = q) →
      (PinCall.register pid comm info a).program r.gpio r.programmed q = r.programmed q := by
    intro q hq
    rw [PinCall.program]
    split_ifs with hfirst
    · refine Function.update_of_ne ?_ ..
      rintro rfl
      obtain ⟨hlists, hnodes⟩ := ((h.allowed hfirst.2.1 (by decide)).2.2.1 rfl)
      rcases hq with ⟨n, hn, hen⟩ | ⟨e, he, hpin⟩
      · exact hnodes n hn hen
      · exact hlists e he hpin
    · rfl
  have hstep : (triggerStep r (.register pid comm info a)).gpio = (intRegister pid comm info a r.gpio).2 := rfl
  constructor
  · rw [hstep, hsame.sensors, hsame.totalSensors]
    exact h.sensorsRead
  · rw [hstep, hsame.chassis, hsame.totalChassis]
    exact h.chassisRead
  · refine h.agree.of_subset fun n hn p hen => ?_
    rw [hstep, hsame.nodes] at hn
    exact ⟨n, hn, hen, rfl, hprogram p (.inl ⟨n, hn, hen⟩)⟩
  · rw [hstep, hsame.nodes, hsame.total]
    exact h.total
  · rw [hstep, hsame.nodes, hsame.counts]
    exact h.counts
  · intro e he halone hcount
    rw [hstep, hsame.counts] at hcount
    exact (hprogram _ (.inr ⟨e, he, rfl⟩)).trans (h.listed e he halone hcount)

theorem trigger_enable_self (n : GpioNode) (info : InterruptSensor) :
    (n.enable info).trigger info.gpioNumber = info.trigger := by
  simp [GpioNode.trigger, GpioNode.enable, InterruptSensor.trigger]

theorem trigger_enable_ne (hq : q ≠ info.gpioNumber) : (n.enable info).trigger q = n.trigger q := by
  simp [GpioNode.trigger, GpioNode.enable, hq]

/-- A registration that succeeds. -/
theorem Steady.register_new (h : Steady sensors chassis r) {pid : UInt32} {comm : Comm} {a : IntAnswers} {ret : ℤ}
    {l t : List GpioNode} {instList : ℕ → Bool} (hcopy : a.copy = true)
    (hret : isRegisteredAllowed r.gpio info = some ret) (hne : ret ≠ -1)
    (hhw : ¬ ((ret = 0 ∧ r.gpio.gpioPinList info.gpioNumber = 0) ∧ a.hw = false))
    (hsplit : r.gpio.headGpioList = l ++ n :: t ∨ r.gpio.headGpioList = l ++ t ∧ ∀ q, n.enabled q = false)
    (heq : intRegister pid comm info a r.gpio = (0, {
      (if ret = 0 ∧ r.gpio.gpioPinList info.gpioNumber = 0 then r.gpio.setHw info.gpioNumber true else r.gpio).count
        info.gpioNumber (· + 1) with
      instList := instList
      totalInterruptGpio := r.gpio.totalInterruptGpio + 1
      headGpioList := l ++ n.enable info :: t }))
    (hcount : ret = 0 ↔ r.gpio.gpioPinList info.gpioNumber = 0) (hlast : r.gpio.gpioPinList info.gpioNumber ≠ 255)
    (htotal : r.gpio.totalInterruptGpio ≠ 0xffffffff) :
    Steady sensors chassis (triggerStep r (.register pid comm info a)) := by
  obtain ⟨hlists, hold, hzero⟩ := h.allowed hret hne
  have hgpio : (triggerStep r (.register pid comm info a)).gpio = _ := congrArg Prod.snd heq
  have hfields : ∀ s : Gpio, (s = if ret = 0 ∧ r.gpio.gpioPinList info.gpioNumber = 0 then
      r.gpio.setHw info.gpioNumber true else r.gpio) → SameNodes r.gpio s := by
    rintro s rfl
    split_ifs
    · exact .setHw ..
    · exact .refl _
  have hs := hfields _ rfl
  have hpins : (triggerStep r (.register pid comm info a)).gpio.gpioPinList =
      Function.update r.gpio.gpioPinList info.gpioNumber (r.gpio.gpioPinList info.gpioNumber + 1) := by
    rw [hgpio]
    change Function.update (Gpio.gpioPinList _) _ (Gpio.gpioPinList _ _ + 1) = _
    rw [hs.counts]
  have hmem : ∀ m, m ∈ l ++ t → m ∈ r.gpio.headGpioList := by
    intro m hm
    rcases hsplit with hsplit | ⟨hsplit, -⟩
    · rw [hsplit]
      exact List.mem_append.2 ((List.mem_append.1 hm).imp_right (List.mem_cons_of_mem n))
    · rwa [hsplit]
  -- the hardware is programmed now, or it was for a node or an entry
  have hother : ∀ q, q ≠ info.gpioNumber →
      (triggerStep r (.register pid comm info a)).programmed q = r.programmed q := by
    intro q hq
    change (PinCall.register pid comm info a).program r.gpio r.programmed q = _
    rw [PinCall.program]
    split_ifs
    · exact Function.update_of_ne hq ..
    · rfl
  have hself : (triggerStep r (.register pid comm info a)).programmed info.gpioNumber = some info.trigger := by
    change (PinCall.register pid comm info a).program r.gpio r.programmed _ = _
    rw [PinCall.program, hret]
    by_cases hfirst : ret = 0
    · have hok : a.hw = true := Bool.eq_true_of_not_eq_false fun hno => hhw ⟨⟨hfirst, hcount.1 hfirst⟩, hno⟩
      rw [if_pos ⟨hcopy, congrArg some hfirst, hcount.1 hfirst, hok⟩, Function.update_self]
    · rw [if_neg fun hno => hfirst (Option.some_inj.1 hno.2.1)]
      by_cases hnode : ∃ m ∈ r.gpio.headGpioList, m.enabled info.gpioNumber = true
      · obtain ⟨m, hm, hen⟩ := hnode
        rw [h.agree.hardware m hm _ hen, hold m hm hen]
      · obtain ⟨e, he, hpin⟩ : ∃ e ∈ sensors ++ chassis, e.gpioNumber = info.gpioNumber := by
          by_contra hno
          exact hfirst (hzero.2 ⟨fun e he hpin => hno ⟨e, he, hpin⟩, fun m hm hen => hnode ⟨m, hm, hen⟩⟩)
        have hlisted := h.listed e he (fun e' he' hpin' => by rw [hlists e' he' (hpin'.trans hpin), hlists e he hpin])
          (by rw [hpin]; exact fun h0 => hfirst (hcount.2 h0))
        rw [← hpin, hlisted, hlists e he hpin]
  -- a node has the new pin with its trigger, and the other pins as before
  have hnodes : ∀ m ∈ (triggerStep r (.register pid comm info a)).gpio.headGpioList, ∀ q, m.enabled q = true →
      (q = info.gpioNumber ∧ m.trigger q = info.trigger) ∨
      (q ≠ info.gpioNumber ∧ ∃ m' ∈ r.gpio.headGpioList, m'.enabled q = true ∧ m'.trigger q = m.trigger q) := by
    intro m hm q hen
    rw [hgpio] at hm
    rcases List.mem_append.1 hm with hm | hm
    · by_cases hq : q = info.gpioNumber
      · exact .inl ⟨hq, hq ▸ hold m (hmem m (List.mem_append_left t hm)) (hq ▸ hen)⟩
      · exact .inr ⟨hq, m, hmem m (List.mem_append_left t hm), hen, rfl⟩
    · rcases List.mem_cons.1 hm with rfl | hm
      · by_cases hq : q = info.gpioNumber
        · exact .inl ⟨hq, hq ▸ trigger_enable_self n info⟩
        · have hen' := ((enabled_enable n info q).1 hen).resolve_left hq
          refine .inr ⟨hq, n, ?_, hen', (trigger_enable_ne hq).symm⟩
          rcases hsplit with hsplit | ⟨-, hblank⟩
          · rw [hsplit]
            exact List.mem_append_right l List.mem_cons_self
          · exact absurd (hen'.symm.trans (hblank q)) (by decide)
      · by_cases hq : q = info.gpioNumber
        · exact .inl ⟨hq, hq ▸ hold m (hmem m (List.mem_append_right l hm)) (hq ▸ hen)⟩
        · exact .inr ⟨hq, m, hmem m (List.mem_append_right l hm), hen, rfl⟩
  refine ⟨?_, ?_, ⟨fun m hm m' hm' q hen hen' => ?_, fun m hm e he hen => ?_, fun m hm q hen => ?_⟩, ?_, fun q => ?_,
    fun e he halone hne0 => ?_⟩
  · rw [hgpio]
    exact (congrArg₂ IntrMemory.read hs.sensors hs.totalSensors).trans h.sensorsRead
  · rw [hgpio]
    exact (congrArg₂ IntrMemory.read hs.chassis hs.totalChassis).trans h.chassisRead
  · rcases hnodes m hm q hen with ⟨rfl, htrigger⟩ | ⟨hq, k, hk, hken, htrigger⟩
    · rcases hnodes m' hm' _ hen' with ⟨-, htrigger'⟩ | ⟨hq, -⟩
      · rw [htrigger, htrigger']
      · exact absurd rfl hq
    · rcases hnodes m' hm' q hen' with ⟨hq', -⟩ | ⟨-, k', hk', hken', htrigger'⟩
      · exact absurd hq' hq
      · rw [← htrigger, ← htrigger']
        exact h.agree.nodes k hk k' hk' q hken hken'
  · rcases hnodes m hm _ hen with ⟨hq, htrigger⟩ | ⟨-, k, hk, hken, htrigger⟩
    · rw [htrigger, hlists e he hq]
    · rw [← htrigger]
      exact h.agree.lists k hk e he hken
  · rcases hnodes m hm q hen with ⟨rfl, htrigger⟩ | ⟨hq, k, hk, hken, htrigger⟩
    · rw [hself, htrigger]
    · rw [hother q hq, ← htrigger]
      exact h.agree.hardware k hk q hken
  · have hnext : (r.gpio.totalInterruptGpio + 1).toNat = r.gpio.totalInterruptGpio.toNat + 1 := by
      have hlt := r.gpio.totalInterruptGpio.toNat_lt
      have hne' : r.gpio.totalInterruptGpio.toNat ≠ 0xffffffff := fun heq => htotal (UInt32.toNat_inj.1 heq)
      have hone : (1 : UInt32).toNat = 1 := rfl
      rw [UInt32.toNat_add]
      exact Nat.mod_eq_of_lt (by omega)
    have hle := h.total
    rw [hgpio]
    change weights (l ++ n.enable info :: t) ≤ (r.gpio.totalInterruptGpio + 1).toNat
    rw [hnext, weights_middle]
    rcases hsplit with hsplit | ⟨hsplit, hblank⟩
    · rw [hsplit, weights_middle] at hle
      have := @weight_enable n info
      omega
    · rw [hsplit] at hle
      rw [weight_enable_blank hblank]
      omega
  · have hle := h.counts q
    rw [hpins, hgpio]
    change uses (l ++ n.enable info :: t) q ≤ _
    have huses : uses (l ++ n.enable info :: t) q ≤
        uses r.gpio.headGpioList q + if q = info.gpioNumber then 1 else 0 := by
      have hen := enabled_enable n info q
      rcases hsplit with hsplit | ⟨hsplit, hblank⟩
      · rw [hsplit, uses_middle, uses_middle]
        split_ifs <;> first | omega | tauto
      · rw [hblank q, or_iff_left Bool.false_ne_true] at hen
        rw [hsplit, uses_middle]
        split_ifs <;> first | omega | tauto
    by_cases hq : q = info.gpioNumber
    · subst hq
      have hnext : (r.gpio.gpioPinList info.gpioNumber + 1).toNat =
          (r.gpio.gpioPinList info.gpioNumber).toNat + 1 := by
        have hlt := (r.gpio.gpioPinList info.gpioNumber).toNat_lt
        have hne' : (r.gpio.gpioPinList info.gpioNumber).toNat ≠ 255 := fun heq => hlast (UInt8.toNat_inj.1 heq)
        exact toNat_add_ofNat (k := 1) (by omega)
      rw [Function.update_self, hnext]
      rw [if_pos rfl] at huses
      omega
    · rw [Function.update_of_ne hq]
      rw [if_neg hq] at huses
      omega
  · by_cases hq : e.gpioNumber = info.gpioNumber
    · rw [hq, hself, hlists e he hq]
    · rw [hpins, Function.update_of_ne hq] at hne0
      rw [hother _ hq]
      exact h.listed e he halone hne0

/-- **Nodes lose pins.** The counter and the counts of these pins are lowered, and the hardware forgets pins only whose
last registration is gone. -/
theorem Steady.fewer {r' : TriggerRun} (h : Steady sensors chassis r) (gone : Pin → Bool)
    (hsensors : r'.gpio.intrSensors.read r'.gpio.totalInterruptSensors = some sensors)
    (hchassis : r'.gpio.intrChassis.read r'.gpio.totalChassisInterrupts = some chassis)
    (hnodes : ∀ n' ∈ r'.gpio.headGpioList, ∀ q, n'.enabled q = true →
      ∃ n ∈ r.gpio.headGpioList, n.enabled q = true ∧ n.trigger q = n'.trigger q)
    (huses : ∀ q, uses r'.gpio.headGpioList q + (if gone q = true then 1 else 0) ≤ uses r.gpio.headGpioList q)
    (hweights : weights r'.gpio.headGpioList + 1 ≤ weights r.gpio.headGpioList)
    (htotal : r'.gpio.totalInterruptGpio = r.gpio.totalInterruptGpio - 1)
    (hcounts : ∀ q, r'.gpio.gpioPinList q = if gone q = true then r.gpio.gpioPinList q - 1 else r.gpio.gpioPinList q)
    (hprogram : ∀ q, r'.programmed q = r.programmed q ∨ gone q = true ∧ r.gpio.gpioPinList q = 1) :
    Steady sensors chassis r' := by
  refine ⟨hsensors, hchassis, h.agree.of_subset fun n' hn' q hen => ?_, ?_, fun q => ?_, fun e he halone hne0 => ?_⟩
  · obtain ⟨n, hn, hen', htrigger⟩ := hnodes n' hn' q hen
    refine ⟨n, hn, hen', htrigger, (hprogram q).resolve_right ?_⟩
    rintro ⟨hgone, hone⟩
    have hle := h.counts q
    have hlost := huses q
    have hpos := uses_pos hn' hen
    rw [if_pos hgone] at hlost
    rw [hone, show (1 : UInt8).toNat = 1 from rfl] at hle
    omega
  · have hle := h.total
    have hlt := r.gpio.totalInterruptGpio.toNat_lt
    have hone : (1 : UInt32).toNat = 1 := rfl
    rw [htotal, UInt32.toNat_sub]
    omega
  · have hle := h.counts q
    have hlost := huses q
    rw [hcounts]
    split_ifs at hlost ⊢
    · rw [toNat_sub_one (by omega)]
      omega
    · omega
  · have hle := h.counts e.gpioNumber
    have hlost := huses e.gpioNumber
    rw [hcounts] at hne0
    rcases hprogram e.gpioNumber with hsame | ⟨hgone, hone⟩
    · rw [hsame]
      refine h.listed e he halone fun h0 => ?_
      rw [h0, show (0 : UInt8).toNat = 0 from rfl] at hle
      split_ifs at hne0 hlost
      · omega
      · exact hne0 h0
    · rw [if_pos hgone, hone] at hne0
      exact absurd rfl hne0

/-- A call that changes nothing. -/
theorem Steady.same {r' : TriggerRun} (h : Steady sensors chassis r) (hgpio : r'.gpio = r.gpio)
    (hprogrammed : r'.programmed = r.programmed) : Steady sensors chassis r' := by
  obtain ⟨g, m⟩ := r'
  subst hgpio hprogrammed
  exact h

/-- A node has lost a pin, and a node of its process without pins is freed. -/
theorem freeNode_disable {mid : Gpio} {l t : List GpioNode} {pid : UInt32}
    (hlist : mid.headGpioList = l ++ n.disable p :: t) (hen : n.enabled p = true) (hpid : n.pid = pid) :
    ∃ nodes insts, mid.freeNode (mid.headGpioList.findIdx
        fun m => m.pid = pid && (List.finRange 256).all fun q => !m.enabled q) =
          { mid with headGpioList := nodes, instList := insts } ∧
      (∀ m ∈ nodes, m ∈ l ++ n.disable p :: t) ∧ (∀ q, uses nodes q ≤ uses (l ++ n.disable p :: t) q) ∧
      weights nodes + 1 ≤ weights (l ++ n :: t) := by
  have hdis := weight_disable hen
  rcases freeNode_cases mid pid with ⟨hfree, hall⟩ | ⟨l', m, t', hsplit, -, hblank, hfree⟩
  · refine ⟨mid.headGpioList, mid.instList, hfree, fun _ h => hlist ▸ h, fun _ => hlist ▸ le_rfl, ?_⟩
    obtain ⟨q, hq⟩ := hall (n.disable p) (hlist ▸ List.mem_append_right l List.mem_cons_self) hpid
    rw [hlist, weights_middle, weights_middle]
    rcases hdis with ⟨hw, -⟩ | ⟨-, hblank⟩
    · omega
    · exact absurd (hq.symm.trans (hblank q)) (by decide)
  · rw [hlist] at hsplit
    refine ⟨l' ++ t', _, hfree, fun k hk => ?_, fun q => ?_, ?_⟩
    · rw [hsplit]
      exact List.mem_append.2 ((List.mem_append.1 hk).imp_right (List.mem_cons_of_mem m))
    · rw [hsplit, uses_middle]
      omega
    · have hsum : weights (l' ++ m :: t') = weights (l ++ n.disable p :: t) := by rw [hsplit]
      rw [weights_middle, weights_middle] at hsum
      rw [weights_middle]
      have := weight_pos m
      rcases hdis with ⟨hw, -⟩ | ⟨hw, -⟩ <;> omega

theorem Steady.unregister (h : Steady sensors chassis r) (pid : UInt32) (p : Pin) (copy hwOk : Bool) :
    Steady sensors chassis (triggerStep r (.unregister pid p copy hwOk)) := by
  rcases intUnregister_cases pid p copy hwOk r.gpio with ⟨ret, -, heq, hwhy⟩ | ⟨-, hnone, -, heq⟩ |
    ⟨l, n, t, hcopy, hsplit, hpid, hen, -, hhw, heq⟩
  · refine h.same (congrArg Prod.snd heq) (if_neg ?_)
    rintro ⟨hcopy, -, -, hok⟩
    rcases hwhy with hcopy' | ⟨-, -, hok'⟩
    · exact Bool.false_ne_true (hcopy'.symm.trans hcopy)
    · exact Bool.false_ne_true (hok'.symm.trans hok)
  · -- the process has not enabled the pin
    have hprogram : (triggerStep r (.unregister pid p copy hwOk)).programmed = r.programmed := by
      refine if_neg fun hfound => ?_
      obtain ⟨n, hn, hboth⟩ := List.any_eq_true.1 hfound.2.1
      rw [Bool.and_eq_true, decide_eq_true_eq] at hboth
      exact hnone n hn hboth
    have hgpio : (triggerStep r (.unregister pid p copy hwOk)).gpio = _ := congrArg Prod.snd heq
    rcases freeNode_cases r.gpio pid with ⟨hfree, -⟩ | ⟨l, n, t, hsplit, -, hblank, hfree⟩
    · exact h.same (hgpio.trans hfree) hprogram
    · have hall := h
      obtain ⟨hsensors, hchassis, hagree, htotal, hcounts, hlisted⟩ := h
      have huses : ∀ q, uses (l ++ t) q = uses r.gpio.headGpioList q := fun q => by
        rw [hsplit, uses_middle, hblank q, if_neg Bool.false_ne_true, zero_add]
      have hweights : weights (l ++ t) ≤ weights r.gpio.headGpioList := by
        rw [hsplit, weights_middle]
        omega
      rw [triggerStep] at hgpio hprogram ⊢
      dsimp only at hgpio hprogram
      rw [hgpio, hprogram, hfree]
      refine ⟨hsensors, hchassis, hagree.of_subset fun m hm q hq => ⟨m, ?_, hq, rfl, rfl⟩, hweights.trans htotal,
        fun q => (huses q).trans_le (hcounts q), hlisted⟩
      rw [hsplit]
      exact List.mem_append.2 ((List.mem_append.1 hm).imp_right (List.mem_cons_of_mem n))
  · have hoff : (n.disable p).enabled p = false := by simp [GpioNode.disable, GpioNode.enabled, GpioInterrupt.zero]
    have hsame : SameNodes r.gpio (if r.gpio.gpioPinList p = 1 then r.gpio.setHw p false else r.gpio) := by
      split_ifs
      · exact .setHw ..
      · exact .refl _
    obtain ⟨mid, hmid⟩ : ∃ mid : Gpio, mid = {
        (if r.gpio.gpioPinList p = 1 then r.gpio.setHw p false else r.gpio).count p (· - 1) with
        totalInterruptGpio := r.gpio.totalInterruptGpio - 1
        headGpioList := l ++ n.disable p :: t } := ⟨_, rfl⟩
    have hlist : mid.headGpioList = l ++ n.disable p :: t := by rw [hmid]
    have hgpio : (triggerStep r (.unregister pid p copy hwOk)).gpio = mid.freeNode (mid.headGpioList.findIdx
        fun m => m.pid = pid && (List.finRange 256).all fun q => !m.enabled q) := by
      rw [hlist, hmid]
      exact congrArg Prod.snd heq
    obtain ⟨nodes, insts, hfree, hsub, hle, hweights⟩ := freeNode_disable hlist hen hpid
    rw [← hgpio] at hfree
    rw [← hsplit] at hweights
    have hpins : mid.gpioPinList = Function.update r.gpio.gpioPinList p (r.gpio.gpioPinList p - 1) := by
      rw [hmid]
      change Function.update (Gpio.gpioPinList _) _ (Gpio.gpioPinList _ _ - 1) = _
      rw [hsame.counts]
    refine h.fewer (fun q => q = p) ?_ ?_ (fun m hm q hq => ?_) (fun q => ?_) ?_ ?_ (fun q => ?_) fun q => ?_
    · rw [hfree, hmid]
      exact (congrArg₂ IntrMemory.read hsame.sensors hsame.totalSensors).trans h.sensorsRead
    · rw [hfree, hmid]
      exact (congrArg₂ IntrMemory.read hsame.chassis hsame.totalChassis).trans h.chassisRead
    · rw [hfree] at hm
      rw [hsplit]
      rcases List.mem_append.1 (hsub m hm) with hm | hm
      · exact ⟨m, List.mem_append_left _ hm, hq, rfl⟩
      · rcases List.mem_cons.1 hm with rfl | hm
        · obtain ⟨hqp, hq⟩ := (enabled_disable n p q).1 hq
          refine ⟨n, List.mem_append_right l List.mem_cons_self, hq, ?_⟩
          simp [GpioNode.trigger, GpioNode.disable, hqp]
        · exact ⟨m, List.mem_append_right l (List.mem_cons_of_mem n hm), hq, rfl⟩
    · have hfewer := hle q
      rw [hfree, hsplit]
      have hdis := enabled_disable n p q
      rw [uses_middle] at hfewer ⊢
      change uses nodes q + _ ≤ _
      by_cases hq : q = p
      · subst hq
        rw [hoff, if_neg Bool.false_ne_true] at hfewer
        rw [if_pos (decide_eq_true rfl), hen, if_pos rfl]
        omega
      · rw [if_neg fun hno => hq (of_decide_eq_true hno)]
        split_ifs at hfewer ⊢ <;> first | omega | tauto
    · rw [hfree]
      exact hweights
    · rw [hfree, hmid]
    · rw [hfree]
      change mid.gpioPinList q = _
      rw [hpins]
      by_cases hq : q = p
      · subst hq
        rw [Function.update_self, if_pos (decide_eq_true rfl)]
      · rw [Function.update_of_ne hq, if_neg fun hno => hq (of_decide_eq_true hno)]
    · change (PinCall.unregister pid p copy hwOk).program r.gpio r.programmed q = r.programmed q ∨ _
      rw [PinCall.program]
      split_ifs with hlast
      · by_cases hq : q = p
        · exact .inr ⟨decide_eq_true hq, hq ▸ hlast.2.2.1⟩
        · exact .inl (Function.update_of_ne hq ..)
      · exact .inl rfl

theorem Steady.release (h : Steady sensors chassis r) (pid : UInt32) (hwOk : Pin → Bool) :
    Steady sensors chassis (triggerStep r (.release pid hwOk)) := by
  rcases release_cases pid hwOk r.gpio with ⟨heq, hnone⟩ | ⟨l, n, t, hsplit, hpid, hl, -, heq⟩
  · refine h.same heq ?_
    have hfind : r.gpio.headGpioList.find? (fun n => n.pid = pid) = none :=
      List.find?_eq_none.2 fun n hn => by simpa using hnone n hn
    change (PinCall.release pid hwOk).program r.gpio r.programmed = _
    rw [PinCall.program, hfind]
  · have hgpio : (triggerStep r (.release pid hwOk)).gpio = _ := heq
    obtain ⟨htotal, htotalSensors, hsensors, htotalChassis, hchassis⟩ := sameLists_unregPins r.gpio n hwOk
    have hfind : r.gpio.headGpioList.find? (fun n => n.pid = pid) = some n :=
      List.find?_eq_some_iff_append.2 ⟨decide_eq_true hpid, l, t, hsplit, fun m hm => by simpa using hl m hm⟩
    refine h.fewer n.enabled ?_ ?_ (fun m hm q hq => ?_) (fun q => ?_) ?_ ?_ (fun q => ?_) fun q => ?_
    · rw [hgpio]
      exact (congrArg₂ IntrMemory.read hsensors htotalSensors).trans h.sensorsRead
    · rw [hgpio]
      exact (congrArg₂ IntrMemory.read hchassis htotalChassis).trans h.chassisRead
    · rw [hgpio] at hm
      refine ⟨m, ?_, hq, rfl⟩
      rw [hsplit]
      exact List.mem_append.2 ((List.mem_append.1 hm).imp_right (List.mem_cons_of_mem n))
    · rw [hgpio, hsplit, uses_middle, add_comm]
    · have := weight_pos n
      rw [hgpio, hsplit, weights_middle]
      change weights (l ++ t) + 1 ≤ _
      omega
    · rw [hgpio, ← htotal]
    · rw [hgpio]
      exact gpioPinList_unregPins r.gpio n hwOk q
    · change (PinCall.release pid hwOk).program r.gpio r.programmed q = r.programmed q ∨ _
      rw [PinCall.program, hfind]
      dsimp only
      split_ifs with hlast
      · exact .inr ⟨hlast.1, hlast.2.1⟩
      · exact .inl rfl

/-- **Steps.** -/
theorem Steady.step (h : Steady sensors chassis r) {c : PinCall} (hc : Counted r c) :
    Steady sensors chassis (triggerStep r c) := by
  cases c with
  | register pid comm info a =>
    rcases intRegister_cases pid comm info a r.gpio with hsame |
      ⟨ret, l, n, t, instList, hcopy, hret, hne, hhw, hgets, -, hsplit, heq⟩
    · exact h.register_same hsame
    · obtain ⟨hcount, hlast, htotal⟩ := hc hcopy ret hret hne hhw hgets
      exact h.register_new hcopy hret hne hhw hsplit heq hcount hlast htotal
  | unregister pid p copy hwOk => exact h.unregister pid p copy hwOk
  | release pid hwOk => exact h.release pid hwOk

end

theorem steady_start (sensors chassis : List InterruptSensor) (counts : Pin → UInt8) :
    Steady sensors chassis (TriggerRun.start sensors chassis counts) where
  sensorsRead := read_block sensors
  chassisRead := read_block chassis
  agree := ⟨fun n hn => absurd hn List.not_mem_nil, fun n hn => absurd hn List.not_mem_nil,
    fun n hn => absurd hn List.not_mem_nil⟩
  total := Nat.zero_le _
  counts p := Nat.zero_le _
  listed e he halone _ := by
    change ((sensors ++ chassis).reverse.find? fun e' => e'.gpioNumber = e.gpioNumber).map
      InterruptSensor.trigger = some e.trigger
    obtain ⟨e', hfind⟩ : ∃ e', (sensors ++ chassis).reverse.find? (fun e' => e'.gpioNumber = e.gpioNumber) = some e' :=
      Option.isSome_iff_exists.1 (List.find?_isSome.2 ⟨e, List.mem_reverse.2 he, decide_eq_true rfl⟩)
    have hmem := List.mem_reverse.1 (List.mem_of_find?_eq_some hfind)
    have hpin : e'.gpioNumber = e.gpioNumber := by simpa using List.find?_some hfind
    rw [hfind, Option.map_some, halone e' hmem hpin]

/-- **The triggers of nodes, lists and hardware agree in every state of a run in which each registration finds its pin
registered exactly when it is counted, and no count is at its end.** -/
theorem triggersAgree_of_counted (sensors chassis : List InterruptSensor) (counts : Pin → UInt8) (calls : List PinCall)
    (h : AllSteps triggerStep Counted (TriggerRun.start sensors chassis counts) calls) :
    Always triggerStep (TriggersAgree sensors chassis) (TriggerRun.start sensors chassis counts) calls := by
  have hstep : ∀ r c, Steady sensors chassis r → Counted r c → Steady sensors chassis (triggerStep r c) :=
    fun r c h hc => h.step hc
  exact (always_of_allSteps hstep (steady_start sensors chassis counts) h).mono fun r hr => hr.agree

/-- Falling edges of a pin. -/
def fallingSample (p : Pin) : InterruptSensor := { sensorSample p with triggerType := .fallingEdge }

/-- Two processes register falling edges of a pin, and one of them closes the device. -/
theorem triggersAgree_twoProcesses : Always triggerStep (TriggersAgree [sensorSample 2] [])
    (TriggerRun.start [sensorSample 2] [] fun p => if p = 2 then 1 else 0)
    [.register 8 ⟨[0x63], by decide⟩ (fallingSample 1) { copy := true, hw := true, alloc := true },
      .register 9 ⟨[0x64], by decide⟩ (fallingSample 1) { copy := true, hw := true, alloc := true },
      .release 8 fun _ => true] := by
  refine triggersAgree_of_counted _ _ _ _ ⟨fun _ ret hret _ _ _ => ?_, fun _ ret hret _ _ _ => ?_, trivial, trivial⟩
  · obtain rfl : (0 : ℤ) = ret := Option.some_inj.1 hret
    exact ⟨by decide, by decide, by decide⟩
  · obtain rfl : (1 : ℤ) = ret := Option.some_inj.1 hret
    exact ⟨by decide, by decide, by decide⟩

/-- A process registers rising edges of a pin twice and unregisters it once. Two processes register falling edges of
the pin then. -/
def twiceSample : List PinCall :=
  [.register 7 ⟨[0x61, 0x62], by decide⟩ (sensorSample 1) { copy := true, hw := true, alloc := true },
    .register 7 ⟨[0x61], by decide⟩ (sensorSample 1) { copy := true, hw := true, alloc := true },
    .unregister 7 1 true true,
    .register 8 ⟨[0x63], by decide⟩ (fallingSample 1) { copy := true, hw := true, alloc := true },
    .register 9 ⟨[0x64], by decide⟩ (fallingSample 1) { copy := true, hw := true, alloc := true }]

/-- **The hardware has rising edges still.** -/
theorem not_triggersAgree_twice : ¬ ∀ (sensors chassis : List InterruptSensor) (counts : Pin → UInt8)
    (calls : List PinCall),
    Always triggerStep (TriggersAgree sensors chassis) (TriggerRun.start sensors chassis counts) calls := by
  intro h
  have hbad : ∃ n ∈ (twiceSample.foldl triggerStep (TriggerRun.start [] [] fun _ => 0)).gpio.headGpioList,
      n.enabled 1 = true ∧
        (twiceSample.foldl triggerStep (TriggerRun.start [] [] fun _ => 0)).programmed 1 ≠ some (n.trigger 1) := by
    decide +kernel
  obtain ⟨n, hn, hen, hne⟩ := hbad
  exact hne ((h [] [] (fun _ => 0) twiceSample).foldl.hardware n hn 1 hen)

end BmcGpio
