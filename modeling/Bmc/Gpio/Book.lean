import Bmc.Gpio.Registrations

/-!
# The book of registrations

* `Book`: the registrations in force, as the calls that succeeded leave them;
* `Balanced`: the counts of the pins are those of the book, and the hardware has registered the pins in it;
* `Careful`: what it takes of a call; `Agrees`: what careful calls keep;
* `regInts_eq`, `countAll_eq`, **`unregLoop_eq`**, **`unregPins_eq`**: what the loops over pins do.
-/

namespace BmcGpio

/-- The pins of entries. -/
def pinsOf (es : List InterruptSensor) : List Pin := es.map InterruptSensor.gpioNumber

/-! ## The book -/

/-- The registrations in force: the pins of the sensors, of the chassis interrupts, and of processes. -/
structure Book where
  sensors : List Pin
  chassis : List Pin
  enables : List (UInt32 × Pin)

/-- How often a pin is registered. -/
def Book.count (b : Book) (p : Pin) : ℕ :=
  b.sensors.count p + b.chassis.count p + (b.enables.map Prod.snd).count p

/-- What a call that returns `ret` does to the registrations in force. -/
def Book.record (b : Book) (ret : ℤ) (c : Call) : Book :=
  if ret ≠ 0 then b
  else match c with
    | .registerSensorInts infos _ => { b with sensors := pinsOf infos }
    | .unregisterSensorInts _ => { b with sensors := [] }
    | .registerChassisInts infos _ => { b with chassis := pinsOf infos }
    | .unregisterChassisInts _ => { b with chassis := [] }
    | .intRegister pid _ info _ => { b with enables := b.enables.insert (pid, info.gpioNumber) }
    | .intUnregister pid p _ _ => { b with enables := b.enables.erase (pid, p) }
    | .release pid _ => { b with enables := b.enables.filter fun e => e.1 ≠ pid }

/-- No pin is registered. -/
def Book.empty : Book := ⟨[], [], []⟩

/-- The driver and the book after a call. -/
def bookStep (sb : Gpio × Book) (c : Call) : Gpio × Book :=
  ((sb.1.call c).2, sb.2.record (sb.1.call c).1 c)

/-- The counts are those of the registrations in force, the hardware has registered the pins that are registered, and
no memory was used that is no list. -/
structure Balanced (sb : Gpio × Book) : Prop where
  counts : ∀ p, (sb.1.gpioPinList p).toNat = sb.2.count p
  hardware : ∀ p, sb.1.hw p = true ↔ 0 < sb.2.count p
  noFault : sb.1.fault = false

/-! ## Careful calls -/

/-- A list can be registered: it is empty, or all calls of the registration succeed, the size of its memory fits into
32 bits, and no count comes above 255. -/
def Registrable (s : Gpio) (infos : List InterruptSensor) (a : RegisterAnswers) : Prop :=
  infos = [] ∨ a.alloc = true ∧ a.copy = true ∧ a.hw = true ∧ sizeofInterruptSensor * infos.length < 2 ^ 32 ∧
    ∀ p, (s.gpioPinList p).toNat + (pinsOf infos).count p < 256

/-- An entry has the last registration of its pin, and the hardware is asked there. -/
def LastAt (s : Gpio) (es : List InterruptSensor) (i : ℕ) : Prop :=
  ∃ e, es[i]? = some e ∧ (s.gpioPinList e.gpioNumber).toNat = (pinsOf (es.take (i + 1))).count e.gpioNumber

/-- A list can be unregistered: the hardware refuses the first entry, or none. -/
def Unregistrable (s : Gpio) (es : List InterruptSensor) (hwOk : ℕ → Bool) : Prop :=
  (LastAt s es 0 → hwOk 0 = true) → ∀ i, 0 < i → LastAt s es i → hwOk i = true

/-- A process gets its node: it is found, or there are memory and an instance for it. -/
def GetsNode (s : Gpio) (pid : UInt32) (comm : Comm) (a : IntAnswers) : Prop :=
  returnAppInst s pid comm.1 ≠ -1 ∨ a.alloc = true ∧ getFreeInst s ≠ none

/-- What keeps the counts balanced. -/
def Careful (s : Gpio) : Call → Prop
  | .registerSensorInts infos a => s.totalInterruptSensors = 0 ∧ Registrable s infos a
  | .unregisterSensorInts hwOk => s.intrSensors ≠ .freed ∧
      ∀ es, s.intrSensors.read s.totalInterruptSensors = some es → Unregistrable s es hwOk
  | .registerChassisInts infos a => s.totalChassisInterrupts = 0 ∧ Registrable s infos a ∧
      ∃ sensors, s.intrSensors.read infos.length = some sensors ∧
        (pinsOf sensors).Perm (pinsOf infos)
  | .unregisterChassisInts hwOk =>
      ∀ es, s.intrChassis.read s.totalChassisInterrupts = some es → Unregistrable s es hwOk
  | .intRegister pid comm info a => a.copy = true → isRegisteredAllowed s info ≠ some (-1) →
      (GetsNode s pid comm a → s.gpioPinList info.gpioNumber ≠ 255 ∧
        ∀ n ∈ s.headGpioList, n.pid = pid → n.enabled info.gpioNumber = false) ∧
      (s.gpioPinList info.gpioNumber = 0 → a.hw = true → GetsNode s pid comm a)
  | .intUnregister _ _ _ _ => True
  | .release pid hwOk => (s.headGpioList.filter fun n => n.pid = pid).length ≤ 1 ∧
      ∀ n ∈ s.headGpioList, n.pid = pid → ∀ p, n.enabled p = true → s.gpioPinList p = 1 → hwOk p = true

/-! ## What careful calls keep -/

/-- The list in memory is the one in the book. -/
def Holds (m : IntrMemory) (total : ℕ) (pins : List Pin) : Prop :=
  ∃ entries, m.read total = some entries ∧ pinsOf entries = pins

/-- A process has enabled a pin in one of the nodes. -/
def Owns (l : List GpioNode) (pid : UInt32) (p : Pin) : Prop := ∃ n ∈ l, n.pid = pid ∧ n.enabled p = true

/-- No two nodes of a process have a pin in common. -/
def Single (l : List GpioNode) : Prop :=
  l.Pairwise fun n m => n.pid = m.pid → ∀ p, ¬ (n.enabled p = true ∧ m.enabled p = true)

/-- The driver agrees with the book. -/
structure Agrees (sb : Gpio × Book) : Prop where
  balanced : Balanced sb
  sensors : Holds sb.1.intrSensors sb.1.totalInterruptSensors sb.2.sensors
  chassis : Holds sb.1.intrChassis sb.1.totalChassisInterrupts sb.2.chassis
  nodes : ∀ pid p, (pid, p) ∈ sb.2.enables ↔ Owns sb.1.headGpioList pid p
  nodup : sb.2.enables.Nodup
  single : Single sb.1.headGpioList

variable {s : Gpio} {b : Book} {es : List InterruptSensor} {p : Pin}

theorem toNat_add_ofNat {n : UInt8} {k : ℕ} (h : n.toNat + k < 256) : (n + UInt8.ofNat k).toNat = n.toNat + k := by
  rw [UInt8.toNat_add, UInt8.toNat_ofNat']
  omega

theorem toNat_sub_ofNat {n : UInt8} {k : ℕ} (h : k ≤ n.toNat) : (n - UInt8.ofNat k).toNat = n.toNat - k := by
  have hn := n.toNat_lt
  rw [UInt8.toNat_sub, UInt8.toNat_ofNat']
  omega

/-! ## Entries that are registered -/

theorem regInts_eq (s : Gpio) (es : List InterruptSensor) :
    s.regInts es = { s with hw := fun p => s.hw p || decide (p ∈ pinsOf es) } := by
  induction es generalizing s with
  | nil => simp [Gpio.regInts, pinsOf]
  | cons e es ih =>
    have hfold : s.regInts (e :: es) = (s.setHw e.gpioNumber true).regInts es := rfl
    rw [hfold, ih]
    simp only [Gpio.setHw, Gpio.mk.injEq, and_true, true_and]
    funext p
    by_cases hp : p = e.gpioNumber
    · simp [pinsOf, hp]
    · simp [pinsOf, hp]

theorem countAll_eq (s : Gpio) (es : List InterruptSensor) :
    s.countAll es = { s with gpioPinList := fun p => s.gpioPinList p + UInt8.ofNat ((pinsOf es).count p) } := by
  induction es generalizing s with
  | nil => simp [Gpio.countAll, pinsOf]
  | cons e es ih =>
    have hfold : s.countAll (e :: es) = (s.count e.gpioNumber (· + 1)).countAll es := rfl
    rw [hfold, ih]
    simp only [Gpio.count, Gpio.mk.injEq, and_true, true_and]
    funext p
    by_cases hp : p = e.gpioNumber
    · subst hp
      have hcount : (pinsOf (e :: es)).count e.gpioNumber = 1 + (pinsOf es).count e.gpioNumber :=
        List.count_cons_self.trans (Nat.add_comm _ _)
      rw [hcount, UInt8.ofNat_add, ← UInt8.add_assoc, Function.update_self]
      rfl
    · have hne : e.gpioNumber ≠ p := fun h => hp h.symm
      simp [pinsOf, hp, hne]

/-! ## Pins that are unregistered -/

/-- The driver after one registration of each of the pins is gone. -/
def Gpio.unregAll (s : Gpio) (pins : List Pin) : Gpio :=
  { s with
    gpioPinList := fun p => s.gpioPinList p - UInt8.ofNat (pins.count p)
    hw := fun p => s.hw p && !decide (p ∈ pins ∧ (s.gpioPinList p).toNat = pins.count p) }

/-- The driver after one registration of a pin is gone. -/
def Gpio.unregOne (s : Gpio) (p : Pin) : Gpio :=
  { s with
    gpioPinList := Function.update s.gpioPinList p (s.gpioPinList p - 1)
    hw := fun q => s.hw q && !decide (q = p ∧ (s.gpioPinList p).toNat = 1) }

theorem toNat_sub_one {n : UInt8} (h : 1 ≤ n.toNat) : (n - 1).toNat = n.toNat - 1 := toNat_sub_ofNat h

theorem eq_one_iff {n : UInt8} : n = 1 ↔ n.toNat = 1 := by
  rw [← UInt8.toNat_inj]
  rfl

theorem unregAll_nil (s : Gpio) : s.unregAll [] = s := by simp [Gpio.unregAll]

theorem unregOne_of_eq (h : s.gpioPinList p = 1) : (s.setHw p false).count p (· - 1) = s.unregOne p := by
  simp only [Gpio.setHw, Gpio.count, Gpio.unregOne, Gpio.mk.injEq, and_true, true_and]
  funext q
  by_cases hq : q = p
  · simp [hq, h]
  · simp [hq]

theorem unregOne_of_ne (h : s.gpioPinList p ≠ 1) : s.count p (· - 1) = s.unregOne p := by
  have hno : (s.gpioPinList p).toNat ≠ 1 := fun h1 => h (eq_one_iff.2 h1)
  simp [Gpio.count, Gpio.unregOne, hno]

theorem unregOne_pin (s : Gpio) (p : Pin) : (s.unregOne p).gpioPinList p = s.gpioPinList p - 1 :=
  Function.update_self ..

theorem unregOne_pin_of_ne {q : Pin} (s : Gpio) (hq : q ≠ p) : (s.unregOne p).gpioPinList q = s.gpioPinList q :=
  Function.update_of_ne hq ..

/-- One pin after the other. -/
theorem unregAll_cons {pins : List Pin} (hle : ∀ q, (p :: pins).count q ≤ (s.gpioPinList q).toNat) :
    (s.unregOne p).unregAll pins = s.unregAll (p :: pins) ∧
      ∀ q, pins.count q ≤ ((s.unregOne p).gpioPinList q).toNat := by
  have hself : (p :: pins).count p = pins.count p + 1 := List.count_cons_self
  have hother : ∀ q, q ≠ p → (p :: pins).count q = pins.count q := fun q hq =>
    List.count_cons_of_ne fun h => hq h.symm
  have hpos : pins.count p + 1 ≤ (s.gpioPinList p).toNat := hself ▸ hle p
  have hsub := toNat_sub_one (Nat.le_of_add_left_le hpos)
  constructor
  · simp only [Gpio.unregAll, Gpio.mk.injEq]
    refine ⟨rfl, rfl, rfl, rfl, ?_, rfl, rfl, rfl, ?_, rfl⟩
    · funext q
      by_cases hq : q = p
      · subst hq
        rw [← UInt8.toNat_inj, toNat_sub_ofNat (hle _), hself, unregOne_pin, toNat_sub_ofNat (by omega), hsub]
        omega
      · rw [unregOne_pin_of_ne s hq, hother q hq]
    · funext q
      -- the hardware is told at the last registration of a pin, which is this one or a later one
      have hlast : (q = p ∧ (s.gpioPinList p).toNat = 1) ∨
          (q ∈ pins ∧ ((s.unregOne p).gpioPinList q).toNat = pins.count q) ↔
          q ∈ p :: pins ∧ (s.gpioPinList q).toNat = (p :: pins).count q := by
        rw [← List.count_pos_iff, ← List.count_pos_iff]
        by_cases hq : q = p
        · subst hq
          rw [unregOne_pin, hsub, hself]
          simp only [true_and]
          omega
        · rw [unregOne_pin_of_ne s hq, hother q hq]
          simp only [hq, false_and, false_or]
      change ((s.hw q && !decide (q = p ∧ (s.gpioPinList p).toNat = 1)) &&
        !decide (q ∈ pins ∧ ((s.unregOne p).gpioPinList q).toNat = pins.count q)) = _
      rw [Bool.and_assoc, ← Bool.not_or, ← Bool.decide_or, decide_eq_decide.2 hlast]
  · intro q
    by_cases hq : q = p
    · subst hq
      rw [unregOne_pin, hsub]
      omega
    · rw [unregOne_pin_of_ne s hq, ← hother q hq]
      exact hle q

theorem lastAt_zero {e : InterruptSensor} : LastAt s (e :: es) 0 ↔ s.gpioPinList e.gpioNumber = 1 := by
  simp [LastAt, pinsOf, eq_one_iff]

/-- The last registration of a pin stays the last one when one ahead of it is gone. -/
theorem LastAt.succ {e : InterruptSensor} {i : ℕ} (hpos : 1 ≤ (s.gpioPinList e.gpioNumber).toNat)
    (h : LastAt (s.unregOne e.gpioNumber) es i) : LastAt s (e :: es) (i + 1) := by
  obtain ⟨e', he', hlast⟩ := h
  refine ⟨e', he', ?_⟩
  have htake : pinsOf ((e :: es).take (i + 1 + 1)) = e.gpioNumber :: pinsOf (es.take (i + 1)) := rfl
  rw [htake]
  by_cases hq : e'.gpioNumber = e.gpioNumber
  · rw [hq, unregOne_pin, toNat_sub_one hpos] at hlast
    rw [hq, List.count_cons_self]
    omega
  · rw [unregOne_pin_of_ne s hq] at hlast
    rw [List.count_cons_of_ne fun h => hq h.symm]
    exact hlast

/-- **The loop over the entries.** The last registration of a pin unregisters its interrupt. -/
theorem unregLoop_eq {hwOk : ℕ → Bool} {i : ℕ} (hok : ∀ j, LastAt s es j → hwOk (i + j) = true)
    (hle : ∀ p, (pinsOf es).count p ≤ (s.gpioPinList p).toNat) :
    unregLoop hwOk i es s = (true, s.unregAll (pinsOf es)) := by
  induction es generalizing s i with
  | nil => exact congrArg (Prod.mk true) (unregAll_nil s).symm
  | cons e es ih =>
    obtain ⟨hall, hnext⟩ := @unregAll_cons s e.gpioNumber (pinsOf es) hle
    have hpos : 1 ≤ (s.gpioPinList e.gpioNumber).toNat :=
      (List.count_pos_iff.2 List.mem_cons_self).trans_le (hle e.gpioNumber)
    have hrest := ih (i := i + 1) (fun j hj => by
      rw [add_assoc, add_comm 1 j]
      exact hok (j + 1) (hj.succ hpos)) hnext
    rw [unregLoop, show pinsOf (e :: es) = e.gpioNumber :: pinsOf es from rfl, ← hall]
    by_cases hone : s.gpioPinList e.gpioNumber = 1
    · have hhead : hwOk i = true := hok 0 (lastAt_zero.2 hone)
      rw [if_pos hone, if_neg (by rw [hhead]; decide), unregOne_of_eq hone]
      exact hrest
    · rw [if_neg hone, unregOne_of_ne hone]
      exact hrest

/-- What an unregistration does: it fails at the first entry, or unregisters all. -/
theorem unregLoop_cases {hwOk : ℕ → Bool} (hok : Unregistrable s es hwOk)
    (hle : ∀ p, (pinsOf es).count p ≤ (s.gpioPinList p).toNat) :
    unregLoop hwOk 0 es s = (false, s) ∨ unregLoop hwOk 0 es s = (true, s.unregAll (pinsOf es)) := by
  by_cases hhead : LastAt s es 0 → hwOk 0 = true
  · refine .inr (unregLoop_eq (fun j hj => ?_) hle)
    rw [zero_add]
    rcases Nat.eq_zero_or_pos j with rfl | hpos
    · exact hhead hj
    · exact hok hhead j hpos hj
  · left
    simp only [Classical.not_imp, Bool.not_eq_true] at hhead
    obtain ⟨hlast, hfail⟩ := hhead
    cases es with
    | nil =>
      obtain ⟨e, he, -⟩ := hlast
      cases he
    | cons e es => rw [unregLoop, if_pos (lastAt_zero.1 hlast), if_pos hfail]

/-- **The pins of a node.** -/
theorem unregPins_eq {n : GpioNode} {hwOk : Pin → Bool}
    (hok : ∀ p, n.enabled p = true → s.gpioPinList p = 1 → hwOk p = true)
    (hle : ∀ p, n.enabled p = true → 1 ≤ (s.gpioPinList p).toNat) :
    s.unregPins n hwOk = s.unregAll ((List.finRange 256).filter fun p => n.enabled p) := by
  have hfold : ∀ (pins : List Pin) (s : Gpio), pins.Nodup →
      (∀ p ∈ pins, s.gpioPinList p = 1 → hwOk p = true) → (∀ p ∈ pins, 1 ≤ (s.gpioPinList p).toNat) →
      pins.foldl (fun s p =>
        let s := if s.gpioPinList p = 1 ∧ hwOk p = true then s.setHw p false else s
        s.count p (· - 1)) s = s.unregAll pins := by
    intro pins
    induction pins with
    | nil => exact fun s _ _ _ => (unregAll_nil s).symm
    | cons p pins ih =>
      intro s hnodup hok hle
      obtain ⟨hp, hnodup⟩ := List.nodup_cons.1 hnodup
      have hne : ∀ q ∈ pins, q ≠ p := fun q hq h => hp (h ▸ hq)
      have hcount : ∀ q, (p :: pins).count q ≤ (s.gpioPinList q).toNat := fun q => by
        by_cases hq : q ∈ p :: pins
        · rw [List.count_eq_one_of_mem (List.nodup_cons.2 ⟨hp, hnodup⟩) hq]
          exact hle q hq
        · rw [List.count_eq_zero_of_not_mem hq]
          exact Nat.zero_le _
      have hone : (let s := if s.gpioPinList p = 1 ∧ hwOk p = true then s.setHw p false else s
          s.count p (· - 1)) = s.unregOne p := by
        by_cases h1 : s.gpioPinList p = 1
        · rw [if_pos ⟨h1, hok p List.mem_cons_self h1⟩]
          exact unregOne_of_eq h1
        · rw [if_neg fun h => h1 h.1]
          exact unregOne_of_ne h1
      rw [List.foldl_cons, hone, ih, (unregAll_cons hcount).1]
      · exact hnodup
      · intro q hq
        rw [unregOne_pin_of_ne s (hne q hq)]
        exact hok q (List.mem_cons_of_mem p hq)
      · intro q hq
        rw [unregOne_pin_of_ne s (hne q hq)]
        exact hle q (List.mem_cons_of_mem p hq)
  refine hfold _ s ((List.nodup_finRange 256).filter _) (fun p hp => ?_) fun p hp => ?_
  · exact hok p (List.mem_filter.1 hp).2
  · exact hle p (List.mem_filter.1 hp).2

/-! ## Balance -/

theorem Balanced.unregAll {b' : Book} {pins : List Pin} (h : Balanced (s, b))
    (hcount : ∀ p, b'.count p + pins.count p = b.count p) : Balanced (s.unregAll pins, b') where
  counts p := by
    have hp := h.counts p
    have hb := hcount p
    dsimp only at hp
    change (s.gpioPinList p - UInt8.ofNat (pins.count p)).toNat = b'.count p
    rw [toNat_sub_ofNat] <;> omega
  hardware p := by
    have hp := h.counts p
    have hb := hcount p
    have hhw := h.hardware p
    dsimp only at hp hhw
    change (s.hw p && !decide (p ∈ pins ∧ (s.gpioPinList p).toNat = pins.count p)) = true ↔ 0 < b'.count p
    rw [Bool.and_eq_true, Bool.not_eq_true', decide_eq_false_iff_not, hhw, ← List.count_pos_iff]
    omega
  noFault := h.noFault

theorem Balanced.regAll {b' : Book} (h : Balanced (s, b)) (entries : List InterruptSensor)
    (hcount : ∀ p, b'.count p = b.count p + (pinsOf es).count p) (hperm : (pinsOf entries).Perm (pinsOf es))
    (hlt : ∀ p, (s.gpioPinList p).toNat + (pinsOf es).count p < 256) :
    Balanced ((s.regInts es).countAll entries, b') := by
  rw [regInts_eq, countAll_eq]
  constructor
  · intro p
    have hp := h.counts p
    have hb := hcount p
    dsimp only at hp
    change (s.gpioPinList p + UInt8.ofNat ((pinsOf entries).count p)).toNat = b'.count p
    rw [hperm.count_eq, toNat_add_ofNat (hlt p), hb, hp]
  · intro p
    have hhw := h.hardware p
    have hb := hcount p
    dsimp only at hhw
    change (s.hw p || decide (p ∈ pinsOf es)) = true ↔ 0 < b'.count p
    rw [Bool.or_eq_true, decide_eq_true_iff, hhw, ← List.count_pos_iff, hb]
    omega
  · exact h.noFault

theorem Holds.read {m : IntrMemory} {total : ℕ} {pins : List Pin} (h : Holds m total pins) :
    ∃ entries, m.read total = some entries ∧ pinsOf entries = pins := h

theorem holds_zero (m : IntrMemory) : Holds m 0 [] := ⟨[], if_pos rfl, rfl⟩

theorem eq_nil_of_holds_zero {m : IntrMemory} {pins : List Pin} (h : Holds m 0 pins) : pins = [] := by
  obtain ⟨entries, hread, rfl⟩ := h
  have hnil : some [] = some entries := (if_pos rfl).symm.trans hread
  rw [← Option.some_inj.1 hnil]
  rfl

theorem copied_eq {infos : List InterruptSensor} (h : sizeofInterruptSensor * infos.length < 2 ^ 32) :
    copied infos = infos := by
  rw [copied, Nat.mod_eq_of_lt h, Nat.mul_div_cancel_left _ (by decide), List.take_length]

theorem read_block (infos : List InterruptSensor) : (IntrMemory.block infos).read infos.length = some infos := by
  by_cases h : infos.length = 0
  · rw [List.length_eq_zero_iff.1 h]
    exact if_pos rfl
  · simp only [IntrMemory.read, h, if_false, le_refl, if_true, List.take_length]

theorem Agrees.count_le (h : Agrees (s, b)) {pins : List Pin} (hle : ∀ p, pins.count p ≤ b.count p) (p : Pin) :
    pins.count p ≤ (s.gpioPinList p).toNat := by
  have hp : (s.gpioPinList p).toNat = b.count p := h.balanced.counts p
  rw [hp]
  exact hle p

end BmcGpio
