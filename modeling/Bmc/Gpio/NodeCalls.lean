import Bmc.Lib.Table
import Bmc.Gpio.Registrations

/-!
# What the calls do to the nodes

* `SameNodes`: nodes, counts and lists are kept;
* `enableFor_cases`, **`intRegister_cases`**: a registration enables a pin in a node, or keeps them;
* `freeNode_cases`, **`intUnregister_cases`**: a pin is disabled, and a node without pins is freed;
* **`release_cases`**: the first node of a process is freed;
* `registerSensorInts_nodes` and others: the other calls keep the nodes.
-/

namespace BmcGpio

open BmcLib

/-- The nodes, the counts and the lists are the same. -/
structure SameNodes (s s' : Gpio) : Prop where
  nodes : s'.headGpioList = s.headGpioList
  total : s'.totalInterruptGpio = s.totalInterruptGpio
  counts : s'.gpioPinList = s.gpioPinList
  totalSensors : s'.totalInterruptSensors = s.totalInterruptSensors
  sensors : s'.intrSensors = s.intrSensors
  totalChassis : s'.totalChassisInterrupts = s.totalChassisInterrupts
  chassis : s'.intrChassis = s.intrChassis

variable {s s' : Gpio} {pid : UInt32} {comm : Comm} {info : InterruptSensor} {p : Pin}

theorem SameNodes.refl (s : Gpio) : SameNodes s s := ⟨rfl, rfl, rfl, rfl, rfl, rfl, rfl⟩

theorem SameNodes.setHw (s : Gpio) (p : Pin) (on : Bool) : SameNodes s (s.setHw p on) := ⟨rfl, rfl, rfl, rfl, rfl, rfl, rfl⟩

/-! ## Registrations -/

/-- What an enabling does: nothing, or a pin more in a node, which may be a new one. -/
theorem enableFor_cases (pid : UInt32) (comm : Comm) (info : InterruptSensor) (alloc : Bool) (s : Gpio) :
    (¬ (returnAppInst s pid comm.1 ≠ -1 ∨ alloc = true ∧ getFreeInst s ≠ none) ∧
      enableFor pid comm info alloc s = (-1, s)) ∨
    ∃ l n r instList, n.pid = pid ∧
      (s.headGpioList = l ++ n :: r ∨ s.headGpioList = l ++ r ∧ ∀ q, n.enabled q = false) ∧
      (returnAppInst s pid comm.1 ≠ -1 ∨ alloc = true ∧ getFreeInst s ≠ none) ∧
      enableFor pid comm info alloc s = (0, { s.count info.gpioNumber (· + 1) with
        instList := instList
        totalInterruptGpio := s.totalInterruptGpio + 1
        headGpioList := l ++ n.enable info :: r }) := by
  by_cases hfound : returnAppInst s pid comm.1 = -1
  · by_cases halloc : alloc = false
    · left
      rw [enableFor, if_pos hfound, if_pos halloc, halloc]
      exact ⟨fun h => h.elim (· hfound) fun h => Bool.false_ne_true h.1, rfl⟩
    have halloc' := Bool.eq_true_of_not_eq_false halloc
    cases hfree : getFreeInst s with
    | none =>
      left
      rw [enableFor, if_pos hfound, if_neg halloc, hfree]
      exact ⟨fun h => h.elim (· hfound) fun h => h.2 rfl, rfl⟩
    | some inst =>
      right
      rw [enableFor, if_pos hfound, if_neg halloc, hfree]
      exact ⟨[], _, s.headGpioList, _, rfl, .inr ⟨rfl, fun _ => rfl⟩, .inr ⟨halloc', Option.some_ne_none _⟩, rfl⟩
  · right
    have hex : ∃ n ∈ s.headGpioList, decide (n.IsOf pid comm.1) = true := by
      by_contra hnone
      refine hfound ?_
      rw [returnAppInst, List.find?_eq_none.2 fun n hn h => hnone ⟨n, hn, h⟩]
    obtain ⟨l, n, r, hsplit, hn, -, hidx⟩ := findIdx_split hex
    refine ⟨l, n, r, s.instList, (of_decide_eq_true hn).1, .inl hsplit, .inl hfound, ?_⟩
    rw [enableFor, if_neg hfound, hidx, hsplit, modify_length_append]
    rfl

/-- **Registrations.** The nodes are kept, or the pin, which may be registered, is enabled in a node of the process. -/
theorem intRegister_cases (pid : UInt32) (comm : Comm) (info : InterruptSensor) (a : IntAnswers) (s : Gpio) :
    SameNodes s (intRegister pid comm info a s).2 ∨
    ∃ ret l n r instList, a.copy = true ∧ isRegisteredAllowed s info = some ret ∧ ret ≠ -1 ∧
      ¬ ((ret = 0 ∧ s.gpioPinList info.gpioNumber = 0) ∧ a.hw = false) ∧
      (returnAppInst s pid comm.1 ≠ -1 ∨ a.alloc = true ∧ getFreeInst s ≠ none) ∧ n.pid = pid ∧
      (s.headGpioList = l ++ n :: r ∨ s.headGpioList = l ++ r ∧ ∀ q, n.enabled q = false) ∧
      intRegister pid comm info a s = (0, {
        (if ret = 0 ∧ s.gpioPinList info.gpioNumber = 0 then s.setHw info.gpioNumber true else s).count
          info.gpioNumber (· + 1) with
        instList := instList
        totalInterruptGpio := s.totalInterruptGpio + 1
        headGpioList := l ++ n.enable info :: r }) := by
  by_cases hcopy : a.copy = false
  · rw [intRegister, if_pos hcopy]
    exact .inl (.refl s)
  cases hret : isRegisteredAllowed s info with
  | none =>
    rw [intRegister, if_neg hcopy, hret]
    exact .inl ⟨rfl, rfl, rfl, rfl, rfl, rfl, rfl⟩
  | some ret =>
    by_cases hdeny : ret = -1
    · rw [intRegister, if_neg hcopy, hret]
      dsimp only
      rw [if_pos hdeny]
      exact .inl (.refl s)
    by_cases hhw : (ret = 0 ∧ s.gpioPinList info.gpioNumber = 0) ∧ a.hw = false
    · rw [intRegister, if_neg hcopy, hret]
      dsimp only
      rw [if_neg hdeny, if_pos hhw]
      exact .inl (.refl s)
    obtain ⟨s1, hs1⟩ : ∃ s1, s1 =
        if ret = 0 ∧ s.gpioPinList info.gpioNumber = 0 then s.setHw info.gpioNumber true else s := ⟨_, rfl⟩
    have hsame : SameNodes s s1 := by
      rw [hs1]
      split_ifs
      · exact .setHw s _ _
      · exact .refl s
    have hinst : s1.instList = s.instList := by
      rw [hs1]
      split_ifs <;> rfl
    have heq : intRegister pid comm info a s = enableFor pid comm info a.alloc s1 := by
      rw [intRegister, if_neg hcopy, hret]
      dsimp only
      rw [if_neg hdeny, if_neg hhw, hs1]
    rcases enableFor_cases pid comm info a.alloc s1 with ⟨-, hcase⟩ | ⟨l, n, r, instList, hpid, hsplit, hgets, hcase⟩
    · rw [heq, hcase]
      exact .inl hsame
    · rw [hsame.nodes] at hsplit
      rw [hsame.total] at hcase
      rw [returnAppInst, getFreeInst, hsame.nodes, hinst, ← returnAppInst, ← getFreeInst] at hgets
      rw [heq, hcase]
      exact .inr ⟨ret, l, n, r, instList, Bool.eq_true_of_not_eq_false hcopy, rfl, hdeny, hhw, hgets, hpid, hsplit,
        by rw [hs1]⟩

/-! ## Unregistrations -/

/-- A node that is freed is gone from the list. -/
theorem freeNode_append {l r : List GpioNode} {n : GpioNode} (h : s.headGpioList = l ++ n :: r) :
    s.freeNode l.length =
      { s with instList := Function.update s.instList n.inst false, headGpioList := l ++ r } := by
  rw [Gpio.freeNode, h, List.getElem?_append_right le_rfl, Nat.sub_self, List.getElem?_cons_zero]
  dsimp only
  rw [eraseIdx_length_append]

/-- The first node of a process without pins is freed, if there is one. -/
theorem freeNode_cases (s : Gpio) (pid : UInt32) :
    let s' := s.freeNode (s.headGpioList.findIdx
      fun n => n.pid = pid && (List.finRange 256).all fun q => !n.enabled q)
    (s' = s ∧ ∀ n ∈ s.headGpioList, n.pid = pid → ∃ q, n.enabled q = true) ∨
    ∃ l n r, s.headGpioList = l ++ n :: r ∧ n.pid = pid ∧ (∀ q, n.enabled q = false) ∧
      s' = { s with instList := Function.update s.instList n.inst false, headGpioList := l ++ r } := by
  intro s'
  by_cases hex : ∃ n ∈ s.headGpioList, (n.pid = pid && (List.finRange 256).all fun q => !n.enabled q) = true
  · obtain ⟨l, n, r, hsplit, hn, -, hidx⟩ := findIdx_split hex
    obtain ⟨hpid, hall⟩ := Bool.and_eq_true_iff.1 hn
    have hblank : ∀ q, n.enabled q = false := fun q =>
      Bool.not_eq_true' _ |>.mp (List.all_eq_true.1 hall q (List.mem_finRange q))
    refine .inr ⟨l, n, r, hsplit, of_decide_eq_true hpid, hblank, ?_⟩
    change s.freeNode _ = _
    rw [hidx, freeNode_append hsplit]
  · have hnone : ∀ n ∈ s.headGpioList, (n.pid = pid && (List.finRange 256).all fun q => !n.enabled q) = false :=
      fun n hn => Bool.eq_false_iff.2 fun h => hex ⟨n, hn, h⟩
    refine .inl ⟨?_, fun n hn hpid => ?_⟩
    · change s.freeNode _ = _
      rw [List.findIdx_eq_length_of_false hnone, Gpio.freeNode, List.getElem?_eq_none le_rfl]
    · have hno := hnone n hn
      rw [decide_eq_true hpid, Bool.true_and, List.all_eq_false] at hno
      obtain ⟨q, -, hq⟩ := hno
      exact ⟨q, by simpa using hq⟩

/-- **Unregistrations.** The call fails, the process has not enabled the pin, or the pin is disabled in the first node
of the process that has it. A node without pins may be freed then. -/
theorem intUnregister_cases (pid : UInt32) (p : Pin) (copy hwOk : Bool) (s : Gpio) :
    (∃ ret, ret ≠ 0 ∧ intUnregister pid p copy hwOk s = (ret, s) ∧
      (copy = false ∨ s.headGpioList.findIdx (fun n => n.pid = pid && n.enabled p) < s.headGpioList.length ∧
        s.gpioPinList p = 1 ∧ hwOk = false)) ∨
    (copy = true ∧ (∀ n ∈ s.headGpioList, ¬ (n.pid = pid ∧ n.enabled p = true)) ∧
      s.headGpioList.findIdx (fun n => n.pid = pid && n.enabled p) = s.headGpioList.length ∧
      intUnregister pid p copy hwOk s = (0, s.freeNode (s.headGpioList.findIdx
        fun n => n.pid = pid && (List.finRange 256).all fun q => !n.enabled q))) ∨
    ∃ l n r, copy = true ∧ s.headGpioList = l ++ n :: r ∧ n.pid = pid ∧ n.enabled p = true ∧
      s.headGpioList.findIdx (fun n => n.pid = pid && n.enabled p) < s.headGpioList.length ∧
      ¬ (s.gpioPinList p = 1 ∧ hwOk = false) ∧
      intUnregister pid p copy hwOk s = (0, Gpio.freeNode
        { (if s.gpioPinList p = 1 then s.setHw p false else s).count p (· - 1) with
          totalInterruptGpio := s.totalInterruptGpio - 1
          headGpioList := l ++ n.disable p :: r }
        ((l ++ n.disable p :: r).findIdx fun m =>
          m.pid = pid && (List.finRange 256).all fun q => !m.enabled q)) := by
  by_cases hcopy : copy = false
  · exact .inl ⟨-14, by decide, by rw [intUnregister, if_pos hcopy], .inl hcopy⟩
  have hcopy' := Bool.eq_true_of_not_eq_false hcopy
  by_cases hex : ∃ n ∈ s.headGpioList, (n.pid = pid && n.enabled p) = true
  · obtain ⟨l, n, r, hsplit, hn, -, hidx⟩ := findIdx_split hex
    obtain ⟨hpid, hen⟩ := Bool.and_eq_true_iff.1 hn
    have hlt : s.headGpioList.findIdx (fun n => n.pid = pid && n.enabled p) < s.headGpioList.length := by
      rw [hidx, hsplit, List.length_append, List.length_cons]
      omega
    by_cases hhw : s.gpioPinList p = 1 ∧ hwOk = false
    · refine .inl ⟨-1, by decide, ?_, .inr ⟨hlt, hhw⟩⟩
      rw [intUnregister, if_neg hcopy]
      dsimp only
      rw [if_pos ⟨hlt, hhw⟩]
    · refine .inr (.inr ⟨l, n, r, hcopy', hsplit, of_decide_eq_true hpid, hen, hlt, hhw, ?_⟩)
      have hlist : (if s.gpioPinList p = 1 then s.setHw p false else s).headGpioList = l ++ n :: r := by
        split_ifs <;> exact hsplit
      have htotal : (if s.gpioPinList p = 1 then s.setHw p false else s).totalInterruptGpio =
          s.totalInterruptGpio := by
        split_ifs <;> rfl
      rw [intUnregister, if_neg hcopy]
      dsimp only
      rw [if_neg fun h => hhw h.2, if_pos hlt, hidx, hlist, htotal, modify_length_append]
  · have hnone : ∀ n ∈ s.headGpioList, (n.pid = pid && n.enabled p) = false := fun n hn =>
      Bool.eq_false_iff.2 fun h => hex ⟨n, hn, h⟩
    have hidx := List.findIdx_eq_length_of_false hnone
    refine .inr (.inl ⟨hcopy', fun n hn h => ?_, hidx, ?_⟩)
    · have hno := hnone n hn
      rw [h.2, Bool.and_true] at hno
      exact of_decide_eq_false hno h.1
    · rw [intUnregister, if_neg hcopy]
      dsimp only
      rw [hidx, if_neg fun h => lt_irrefl _ h.1, if_neg (lt_irrefl _)]

/-! ## Processes that close the device -/

/-- **Releases.** The process has no node, or its first node is freed. -/
theorem release_cases (pid : UInt32) (hwOk : Pin → Bool) (s : Gpio) :
    (unregisterGpioInt pid hwOk s = s ∧ ∀ n ∈ s.headGpioList, n.pid ≠ pid) ∨
    ∃ l n r, s.headGpioList = l ++ n :: r ∧ n.pid = pid ∧ (∀ m ∈ l, m.pid ≠ pid) ∧
      s.headGpioList.findIdx (fun n => n.pid = pid) = l.length ∧
      unregisterGpioInt pid hwOk s = { s.unregPins n hwOk with
        totalInterruptGpio := (s.unregPins n hwOk).totalInterruptGpio - 1
        instList := Function.update (s.unregPins n hwOk).instList n.inst false
        headGpioList := l ++ r } := by
  by_cases hex : ∃ n ∈ s.headGpioList, decide (n.pid = pid) = true
  · obtain ⟨l, n, r, hsplit, hn, hl, hidx⟩ := findIdx_split hex
    have hget : s.headGpioList[l.length]? = some n := by
      rw [hsplit, List.getElem?_append_right le_rfl, Nat.sub_self, List.getElem?_cons_zero]
    have hnodes : (s.unregPins n hwOk).headGpioList = l ++ n :: r := by
      rw [← hsplit, Gpio.unregPins]
      refine List.foldlRecOn _ _ (motive := fun s' : Gpio => s'.headGpioList = s.headGpioList) rfl fun s' hs' q _ => ?_
      dsimp only
      split_ifs <;> exact hs'
    refine .inr ⟨l, n, r, hsplit, of_decide_eq_true hn, fun m hm => of_decide_eq_false (hl m hm), hidx, ?_⟩
    rw [unregisterGpioInt]
    dsimp only
    rw [hidx, hget]
    dsimp only
    rw [freeNode_append (s := { s.unregPins n hwOk with
      totalInterruptGpio := (s.unregPins n hwOk).totalInterruptGpio - 1 }) hnodes]
  · have hnone : ∀ n ∈ s.headGpioList, decide (n.pid = pid) = false := fun n hn =>
      Bool.eq_false_iff.2 fun h => hex ⟨n, hn, h⟩
    refine .inl ⟨?_, fun n hn => of_decide_eq_false (hnone n hn)⟩
    rw [unregisterGpioInt]
    dsimp only
    rw [List.findIdx_eq_length_of_false hnone, List.getElem?_eq_none le_rfl]

/-- The pins of a node lose one registration each. -/
theorem sameLists_unregPins (s : Gpio) (n : GpioNode) (hwOk : Pin → Bool) :
    (s.unregPins n hwOk).totalInterruptGpio = s.totalInterruptGpio ∧
    (s.unregPins n hwOk).totalInterruptSensors = s.totalInterruptSensors ∧
    (s.unregPins n hwOk).intrSensors = s.intrSensors ∧
    (s.unregPins n hwOk).totalChassisInterrupts = s.totalChassisInterrupts ∧
    (s.unregPins n hwOk).intrChassis = s.intrChassis := by
  rw [Gpio.unregPins]
  refine List.foldlRecOn _ _ (motive := fun s' : Gpio => s'.totalInterruptGpio = s.totalInterruptGpio ∧
    s'.totalInterruptSensors = s.totalInterruptSensors ∧ s'.intrSensors = s.intrSensors ∧
    s'.totalChassisInterrupts = s.totalChassisInterrupts ∧ s'.intrChassis = s.intrChassis)
    ⟨rfl, rfl, rfl, rfl, rfl⟩ fun s' hs' q _ => ?_
  dsimp only
  split_ifs <;> exact hs'

theorem gpioPinList_unregPins (s : Gpio) (n : GpioNode) (hwOk : Pin → Bool) (q : Pin) :
    (s.unregPins n hwOk).gpioPinList q = if n.enabled q = true then s.gpioPinList q - 1 else s.gpioPinList q := by
  have hfold : ∀ (pins : List Pin) (s : Gpio), pins.Nodup →
      (pins.foldl (fun s p =>
        let s := if s.gpioPinList p = 1 ∧ hwOk p = true then s.setHw p false else s
        s.count p (· - 1)) s).gpioPinList q = if q ∈ pins then s.gpioPinList q - 1 else s.gpioPinList q := by
    intro pins
    induction pins with
    | nil => exact fun s _ => rfl
    | cons p pins ih =>
      intro s hnodup
      obtain ⟨hp, hnodup⟩ := List.nodup_cons.1 hnodup
      have hone : (let s := if s.gpioPinList p = 1 ∧ hwOk p = true then s.setHw p false else s
          s.count p (· - 1)).gpioPinList = Function.update s.gpioPinList p (s.gpioPinList p - 1) := by
        dsimp only
        split_ifs <;> rfl
      rw [List.foldl_cons, ih _ hnodup, hone]
      by_cases hq : q = p
      · subst hq
        rw [if_neg hp, if_pos List.mem_cons_self, Function.update_self]
      · rw [Function.update_of_ne hq]
        simp only [List.mem_cons, hq, false_or]
  rw [Gpio.unregPins, hfold _ s ((List.nodup_finRange 256).filter _)]
  simp only [List.mem_filter, List.mem_finRange, true_and]

/-! ## The other calls -/

theorem regInts_nodes (s : Gpio) (es : List InterruptSensor) : (s.regInts es).headGpioList = s.headGpioList :=
  List.foldlRecOn es _ (motive := fun s' : Gpio => s'.headGpioList = s.headGpioList) rfl fun _ hs' _ _ => hs'

theorem countAll_nodes (s : Gpio) (es : List InterruptSensor) : (s.countAll es).headGpioList = s.headGpioList :=
  List.foldlRecOn es _ (motive := fun s' : Gpio => s'.headGpioList = s.headGpioList) rfl fun _ hs' _ _ => hs'

theorem unregLoop_nodes (hwOk : ℕ → Bool) (es : List InterruptSensor) (i : ℕ) (s : Gpio) :
    (unregLoop hwOk i es s).2.headGpioList = s.headGpioList := by
  induction es generalizing i s with
  | nil => rfl
  | cons e es ih =>
    rw [unregLoop]
    split_ifs
    · rfl
    · rw [ih]
      rfl
    · rw [ih]
      rfl

theorem registerSensorInts_nodes (infos : List InterruptSensor) (a : RegisterAnswers) (s : Gpio) :
    (registerSensorInts infos a s).2.headGpioList = s.headGpioList := by
  rw [registerSensorInts]
  dsimp only
  split_ifs
  · rfl
  · rfl
  · split <;> rfl
  · split
    · rfl
    · rw [countAll_nodes, regInts_nodes]

theorem registerChassisInts_nodes (infos : List InterruptSensor) (a : RegisterAnswers) (s : Gpio) :
    (registerChassisInts infos a s).2.headGpioList = s.headGpioList := by
  rw [registerChassisInts]
  dsimp only
  split_ifs
  · rfl
  · rfl
  · split <;> rfl
  · split
    · rfl
    · split
      · exact regInts_nodes _ _
      · rw [countAll_nodes, regInts_nodes]

theorem unregisterSensorInts_nodes (hwOk : ℕ → Bool) (s : Gpio) :
    (unregisterSensorInts hwOk s).2.headGpioList = s.headGpioList := by
  rw [unregisterSensorInts]
  split
  · rfl
  · dsimp only
    split_ifs <;> exact unregLoop_nodes _ _ _ _

theorem unregisterChassisInts_nodes (hwOk : ℕ → Bool) (s : Gpio) :
    (unregisterChassisInts hwOk s).2.headGpioList = s.headGpioList := by
  rw [unregisterChassisInts]
  split
  · rfl
  · dsimp only
    split_ifs <;> exact unregLoop_nodes _ _ _ _

end BmcGpio
