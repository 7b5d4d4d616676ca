import Bmc.Gpio.Book
import Bmc.Gpio.NodeCalls

/-!
# The pins of processes

* `owns_enable`, `owns_disable`, `owns_blank`: what the processes own when a node changes;
* **`agrees_intRegister`**, **`agrees_intUnregister`**, **`agrees_release`**: careful calls of processes keep what the
  driver and the book agree on.
-/

namespace BmcGpio

open BmcLib

variable {s : Gpio} {b : Book} {p : Pin}

section Enables

variable {enables : List (UInt32 × Pin)} {pid : UInt32}

theorem count_insert (h : (pid, p) ∉ enables) (q : Pin) :
    ((enables.insert (pid, p)).map Prod.snd).count q = (enables.map Prod.snd).count q + [p].count q := by
  rw [List.insert_of_not_mem h, List.map_cons, List.count_cons, List.count_singleton]

theorem count_erase (h : (pid, p) ∈ enables) (q : Pin) :
    ((enables.erase (pid, p)).map Prod.snd).count q + [p].count q = (enables.map Prod.snd).count q := by
  have hperm := ((List.perm_cons_erase h).map Prod.snd).count_eq q
  rw [hperm]
  simp only [List.map_cons, List.count_cons, List.count_nil, zero_add]

/-- The pins of a process. -/
theorem count_filter_ne (hnodup : enables.Nodup) (pid : UInt32) (q : Pin) :
    ((enables.filter fun e => e.1 ≠ pid).map Prod.snd).count q + (if (pid, q) ∈ enables then 1 else 0) =
      (enables.map Prod.snd).count q := by
  induction enables with
  | nil => simp
  | cons e enables ih =>
    obtain ⟨he, hnodup⟩ := List.nodup_cons.1 hnodup
    have ih := ih hnodup
    obtain ⟨pid', p⟩ := e
    by_cases hpid : pid' = pid
    · subst hpid
      rw [List.filter_cons_of_neg (by simp), List.map_cons, List.count_cons]
      by_cases hq : p = q
      · subst hq
        rw [if_pos List.mem_cons_self]
        rw [if_neg he] at ih
        simp only [beq_self_eq_true, if_true]
        omega
      · have hmem : (pid', q) ∈ (pid', p) :: enables ↔ (pid', q) ∈ enables := by
          simp [Ne.symm hq]
        simp only [hmem, beq_iff_eq, hq, if_false]
        exact ih
    · rw [List.filter_cons_of_pos (by simpa using hpid), List.map_cons, List.map_cons, List.count_cons,
        List.count_cons]
      have hmem : (pid, q) ∈ (pid', p) :: enables ↔ (pid, q) ∈ enables := by
        simp [Ne.symm hpid]
      simp only [hmem]
      omega

end Enables

theorem filter_eq_nil_of_count {entries : List InterruptSensor} (h : (pinsOf entries).count p = 0) :
    entries.filter (fun e => e.gpioNumber = p) = [] := by
  refine List.filter_eq_nil_iff.2 fun e he heq => ?_
  have hmem : e.gpioNumber ∈ pinsOf entries := List.mem_map_of_mem he
  rw [of_decide_eq_true heq] at hmem
  exact List.count_eq_zero.1 h hmem

/-- The lists are there, and a pin that is not registered may be. -/
theorem Agrees.allowed (h : Agrees (s, b)) (info : InterruptSensor) :
    (∃ ret, isRegisteredAllowed s info = some ret) ∧
      (b.count info.gpioNumber = 0 → isRegisteredAllowed s info = some 0) := by
  obtain ⟨sensors, hsensors, hpins⟩ := h.sensors.read
  obtain ⟨chassis, hchassis, hpins'⟩ := h.chassis.read
  dsimp only at hsensors hpins hchassis hpins'
  rw [isRegisteredAllowed, hsensors, Option.bind_some, hchassis]
  constructor
  · dsimp only [Option.bind_some]
    split_ifs <;> exact ⟨_, rfl⟩
  · intro hzero
    rw [Book.count] at hzero
    have hno : (s.headGpioList.take s.totalInterruptGpio.toNat).filter (fun n => n.enabled info.gpioNumber) =
        [] := by
      refine List.filter_eq_nil_iff.2 fun n hn hen => ?_
      have hmem : (n.pid, info.gpioNumber) ∈ b.enables :=
        (h.nodes n.pid info.gpioNumber).2 ⟨n, List.mem_of_mem_take hn, rfl, hen⟩
      have hpos : info.gpioNumber ∈ b.enables.map Prod.snd := List.mem_map_of_mem hmem
      exact List.count_eq_zero.1 (by omega) hpos
    have hsensors0 : (pinsOf sensors).count info.gpioNumber = 0 := by rw [hpins]; omega
    have hchassis0 : (pinsOf chassis).count info.gpioNumber = 0 := by rw [hpins']; omega
    simp only [filter_eq_nil_of_count hsensors0, filter_eq_nil_of_count hchassis0, hno, Option.bind_some,
      List.any_nil, List.isEmpty_nil, Bool.and_self, if_true, Bool.false_eq_true, if_false]

/-- A pin is registered once more. -/
theorem Balanced.count_one {b' : Book} (h : Balanced (s, b)) (hcount : ∀ q, b'.count q = b.count q + [p].count q)
    (hne : s.gpioPinList p ≠ 255) :
    Balanced ((if s.gpioPinList p = 0 then s.setHw p true else s).count p (· + 1), b') := by
  have hp : (s.gpioPinList p).toNat = b.count p := h.counts p
  have hlt : (s.gpioPinList p).toNat + 1 < 256 := by
    have hne' : (s.gpioPinList p).toNat ≠ 255 := fun heq => hne (UInt8.toNat_inj.1 heq)
    have := (s.gpioPinList p).toNat_lt
    omega
  have hzero : s.gpioPinList p = 0 ↔ b.count p = 0 := by
    rw [← hp, ← UInt8.toNat_inj]
    rfl
  have hpins : ((if s.gpioPinList p = 0 then s.setHw p true else s).count p (· + 1)).gpioPinList =
      Function.update s.gpioPinList p (s.gpioPinList p + 1) := by
    split_ifs <;> rfl
  constructor
  · intro q
    change (((if s.gpioPinList p = 0 then s.setHw p true else s).count p (· + 1)).gpioPinList q).toNat = b'.count q
    rw [hpins, hcount]
    by_cases hq : q = p
    · subst hq
      rw [Function.update_self, List.count_singleton_self, ← hp]
      exact toNat_add_ofNat (k := 1) hlt
    · rw [Function.update_of_ne hq, List.count_eq_zero.2 fun h => hq (List.mem_singleton.1 h)]
      exact h.counts q
  · intro q
    have hhw : s.hw q = true ↔ 0 < b.count q := h.hardware q
    change (if s.gpioPinList p = 0 then s.setHw p true else s).hw q = true ↔ 0 < b'.count q
    rw [hcount]
    by_cases hq : q = p
    · subst hq
      rw [List.count_singleton_self]
      refine iff_of_true ?_ (Nat.succ_pos _)
      split_ifs with h0
      · exact Function.update_self ..
      · exact hhw.2 (Nat.pos_of_ne_zero fun h1 => h0 (hzero.2 h1))
    · rw [List.count_eq_zero.2 fun h => hq (List.mem_singleton.1 h), add_zero, ← hhw]
      split_ifs with h0
      · exact (congrArg (· = true) (Function.update_of_ne hq ..)).to_iff
      · exact Iff.rfl
  · change (if s.gpioPinList p = 0 then s.setHw p true else s).fault = false
    split_ifs <;> exact h.noFault

theorem enabled_enable (n : GpioNode) (info : InterruptSensor) (q : Pin) :
    (n.enable info).enabled q = true ↔ q = info.gpioNumber ∨ n.enabled q = true := by
  by_cases hq : q = info.gpioNumber
  · subst hq
    simp [GpioNode.enable, GpioNode.enabled]
  · simp [GpioNode.enable, GpioNode.enabled, hq]

theorem enabled_disable (n : GpioNode) (p q : Pin) :
    (n.disable p).enabled q = true ↔ q ≠ p ∧ n.enabled q = true := by
  by_cases hq : q = p
  · subst hq
    simp [GpioNode.disable, GpioNode.enabled, GpioInterrupt.zero]
  · simp [GpioNode.disable, GpioNode.enabled, hq]

section Nodes

variable {l r : List GpioNode} {n : GpioNode} {pid : UInt32}

theorem owns_middle : Owns (l ++ n :: r) pid p ↔ (n.pid = pid ∧ n.enabled p = true) ∨ Owns (l ++ r) pid p := by
  simp only [Owns, List.mem_append, List.mem_cons, or_and_right, exists_or, exists_eq_left]
  exact or_left_comm

theorem single_middle :
    Single (l ++ n :: r) ↔ (∀ p, n.enabled p = true → ¬ Owns (l ++ r) n.pid p) ∧ Single (l ++ r) := by
  rw [Single, List.pairwise_middle fun h hpid q hboth => h hpid.symm q hboth.symm, List.pairwise_cons]
  refine and_congr_left' ⟨fun h q hn => ?_, fun h m hm hpid q hboth => ?_⟩
  · rintro ⟨m, hm, hpid, hen⟩
    exact h m hm hpid.symm q ⟨hn, hen⟩
  · exact h q hboth.1 ⟨m, hm, hpid.symm, hboth.2⟩

/-- The nodes when a node has one more pin. -/
theorem owns_enable {info : InterruptSensor} {q : Pin} : Owns (l ++ n.enable info :: r) pid q ↔
    (pid = n.pid ∧ q = info.gpioNumber) ∨ Owns (l ++ n :: r) pid q := by
  have hpid : (n.enable info).pid = n.pid := rfl
  rw [owns_middle, owns_middle, enabled_enable, hpid, and_or_left, or_assoc, eq_comm (a := pid)]

theorem Single.enable {info : InterruptSensor} (h : Single (l ++ n :: r))
    (hno : ¬ Owns (l ++ n :: r) n.pid info.gpioNumber) : Single (l ++ n.enable info :: r) := by
  rw [single_middle] at h ⊢
  refine ⟨fun q hq => ?_, h.2⟩
  rcases (enabled_enable n info q).1 hq with rfl | hq
  · exact fun howns => hno (owns_middle.2 (.inr howns))
  · exact h.1 q hq

/-- The nodes when a node has one pin less. -/
theorem owns_disable {q : Pin} (h : Single (l ++ n :: r)) (hp : n.enabled p = true) :
    Owns (l ++ n.disable p :: r) pid q ↔ ¬ (pid = n.pid ∧ q = p) ∧ Owns (l ++ n :: r) pid q := by
  have hpid : (n.disable p).pid = n.pid := rfl
  have hother : Owns (l ++ r) n.pid p → False := (single_middle.1 h).1 p hp
  rw [owns_middle, owns_middle, enabled_disable, hpid]
  by_cases hq : pid = n.pid ∧ q = p
  · obtain ⟨rfl, rfl⟩ := hq
    exact iff_of_false (fun h => h.elim (fun h => h.2.1 rfl) hother) fun h => h.1 ⟨rfl, rfl⟩
  · rw [and_iff_right hq]
    refine or_congr_left (and_congr_right fun h => and_iff_right ?_)
    rintro rfl
    exact hq ⟨h.symm, rfl⟩

theorem Single.disable (h : Single (l ++ n :: r)) : Single (l ++ n.disable p :: r) := by
  rw [single_middle] at h ⊢
  exact ⟨fun q hq => h.1 q ((enabled_disable n p q).1 hq).2, h.2⟩

/-- A node without pins does not matter. -/
theorem owns_blank (hn : ∀ q, n.enabled q = false) : Owns (l ++ n :: r) pid p ↔ Owns (l ++ r) pid p := by
  rw [owns_middle, hn]
  exact or_iff_right fun h => Bool.false_ne_true h.2

theorem single_blank (hn : ∀ q, n.enabled q = false) : Single (l ++ n :: r) ↔ Single (l ++ r) := by
  rw [single_middle]
  refine and_iff_right fun q hq => ?_
  rw [hn] at hq
  cases hq

end Nodes

/-- A pin is enabled for a process that had not enabled it. -/
theorem Agrees.enable (h : Agrees (s, b)) {info : InterruptSensor} {l r : List GpioNode} {n : GpioNode}
    (hne : s.gpioPinList info.gpioNumber ≠ 255)
    (howns : ∀ pid q, Owns (l ++ n :: r) pid q ↔ Owns s.headGpioList pid q)
    (hsingle : Single (l ++ n :: r)) (hno : ¬ Owns s.headGpioList n.pid info.gpioNumber) {s1 : Gpio}
    (hs1 : s1 = if s.gpioPinList info.gpioNumber = 0 then s.setHw info.gpioNumber true else s)
    (instList : ℕ → Bool) (total : UInt32) :
    Agrees ({ s1.count info.gpioNumber (· + 1) with
        instList := instList
        totalInterruptGpio := total
        headGpioList := l ++ n.enable info :: r },
      { b with enables := b.enables.insert (n.pid, info.gpioNumber) }) := by
  have hmem : (n.pid, info.gpioNumber) ∉ b.enables := fun hmem => hno ((h.nodes _ _).1 hmem)
  have hbal : Balanced ((if s.gpioPinList info.gpioNumber = 0 then s.setHw info.gpioNumber true else s).count
      info.gpioNumber (· + 1), { b with enables := b.enables.insert (n.pid, info.gpioNumber) }) :=
    h.balanced.count_one (fun q => by simp only [Book.count, count_insert hmem]; omega) hne
  rw [← hs1] at hbal
  have hsame : s1.intrSensors = s.intrSensors ∧ s1.totalInterruptSensors = s.totalInterruptSensors ∧
      s1.intrChassis = s.intrChassis ∧ s1.totalChassisInterrupts = s.totalChassisInterrupts := by
    rw [hs1]
    split_ifs <;> exact ⟨rfl, rfl, rfl, rfl⟩
  constructor
  · exact ⟨hbal.counts, hbal.hardware, hbal.noFault⟩
  · change Holds s1.intrSensors s1.totalInterruptSensors b.sensors
    rw [hsame.1, hsame.2.1]
    exact h.sensors
  · change Holds s1.intrChassis s1.totalChassisInterrupts b.chassis
    rw [hsame.2.2.1, hsame.2.2.2]
    exact h.chassis
  · intro pid q
    change (pid, q) ∈ b.enables.insert (n.pid, info.gpioNumber) ↔ Owns (l ++ n.enable info :: r) pid q
    rw [List.mem_insert_iff, Prod.mk.injEq, owns_enable, howns]
    exact or_congr_right (h.nodes pid q)
  · exact h.nodup.insert
  · exact hsingle.enable fun h' => hno ((howns _ _).1 h')

theorem agrees_intRegister (h : Agrees (s, b)) {pid : UInt32} {comm : Comm} {info : InterruptSensor}
    {a : IntAnswers} (hc : Careful s (.intRegister pid comm info a)) : Agrees (bookStep (s, b) (.intRegister pid comm info a)) := by
  have hsame : ∀ ret, ret ≠ 0 → intRegister pid comm info a s = (ret, s) →
      Agrees (bookStep (s, b) (.intRegister pid comm info a)) := by
    intro ret hret heq
    rw [bookStep, Gpio.call, heq]
    dsimp only
    rw [Book.record, if_pos hret]
    exact h
  have hp : (s.gpioPinList info.gpioNumber).toNat = b.count info.gpioNumber := h.balanced.counts _
  obtain ⟨⟨ret, hret⟩, hzero⟩ := h.allowed info
  by_cases hcopy : a.copy = false
  · exact hsame (-14) (by decide) (by rw [intRegister, if_pos hcopy])
  by_cases hdeny : ret = -1
  · refine hsame (-1) (by decide) ?_
    rw [intRegister, if_neg hcopy, hret]
    exact if_pos hdeny
  obtain ⟨hget, hfirst⟩ := hc (Bool.eq_true_of_not_eq_false hcopy) (by rw [hret]; simpa using hdeny)
  have hasks : (ret = 0 ∧ s.gpioPinList info.gpioNumber = 0) ↔ s.gpioPinList info.gpioNumber = 0 := by
    refine and_iff_right_of_imp fun h0 => ?_
    rw [h0] at hp
    exact Option.some_inj.1 (hret.symm.trans (hzero hp.symm))
  have heq : intRegister pid comm info a s =
      if s.gpioPinList info.gpioNumber = 0 ∧ a.hw = false then (-1, s)
      else enableFor pid comm info a.alloc
        (if s.gpioPinList info.gpioNumber = 0 then s.setHw info.gpioNumber true else s) := by
    rw [intRegister, if_neg hcopy, hret]
    simp only [hdeny, if_false, hasks]
  by_cases hhw : s.gpioPinList info.gpioNumber = 0 ∧ a.hw = false
  · exact hsame (-1) (by decide) (by rw [heq, if_pos hhw])
  rw [if_neg hhw] at heq
  obtain ⟨s1, hs1⟩ : ∃ s1, s1 = if s.gpioPinList info.gpioNumber = 0 then s.setHw info.gpioNumber true else s :=
    ⟨_, rfl⟩
  rw [← hs1] at heq
  have hlist : s1.headGpioList = s.headGpioList := by rw [hs1]; split_ifs <;> rfl
  have hinst : s1.instList = s.instList := by rw [hs1]; split_ifs <;> rfl
  have hgets : (returnAppInst s1 pid comm.1 ≠ -1 ∨ a.alloc = true ∧ getFreeInst s1 ≠ none) ↔
      GetsNode s pid comm a := by
    rw [GetsNode, returnAppInst, getFreeInst, hlist, hinst, returnAppInst, getFreeInst]
  rcases enableFor_cases pid comm info a.alloc s1 with ⟨hno, hcase⟩ | ⟨l, n, r, instList, rfl, hsplit, hyes, hcase⟩
  · -- the hardware was not told, for the pin is registered already
    have hcount : s.gpioPinList info.gpioNumber ≠ 0 := fun h0 =>
      hno (hgets.2 (hfirst h0 (Bool.eq_true_of_not_eq_false fun hhw' => hhw ⟨h0, hhw'⟩)))
    rw [if_neg hcount] at hs1
    exact hsame (-1) (by decide) (by rw [heq, hcase, hs1])
  · obtain ⟨hne, hno⟩ := hget (hgets.1 hyes)
    have hno' : ¬ Owns s.headGpioList n.pid info.gpioNumber := by
      rintro ⟨m, hm, hpid, hen⟩
      rw [hno m hm hpid] at hen
      cases hen
    have hbook : b.record 0 (.intRegister n.pid comm info a) =
        { b with enables := b.enables.insert (n.pid, info.gpioNumber) } := rfl
    rw [bookStep, Gpio.call, heq, hcase]
    dsimp only
    rw [hbook]
    rw [hlist] at hsplit
    rcases hsplit with hsplit | ⟨hsplit, hblank⟩
    · exact h.enable hne (fun _ _ => by rw [hsplit]) (hsplit ▸ h.single) hno' hs1 instList _
    · have hsingle : Single (l ++ n :: r) := (single_blank hblank).2 (hsplit ▸ h.single)
      exact h.enable hne (fun _ _ => by rw [hsplit, owns_blank hblank]) hsingle hno' hs1 instList _

/-- A node without pins is freed. -/
theorem Agrees.freeNode (h : Agrees (s, b)) (pid : UInt32) : Agrees (s.freeNode (s.headGpioList.findIdx
    fun n => n.pid = pid && (List.finRange 256).all fun q => !n.enabled q), b) := by
  rcases freeNode_cases s pid with ⟨heq, -⟩ | ⟨l, n, r, hsplit, -, hblank, heq⟩
  · rw [heq]
    exact h
  · rw [heq]
    refine ⟨⟨h.balanced.counts, h.balanced.hardware, h.balanced.noFault⟩, h.sensors, h.chassis, fun pid q => ?_,
      h.nodup, ?_⟩
    · change (pid, q) ∈ b.enables ↔ Owns (l ++ r) pid q
      rw [← owns_blank hblank, ← hsplit]
      exact h.nodes pid q
    · exact (single_blank hblank).1 (hsplit ▸ h.single)

theorem agrees_intUnregister (h : Agrees (s, b)) (pid : UInt32) (p : Pin) (copy hwOk : Bool) :
    Agrees (bookStep (s, b) (.intUnregister pid p copy hwOk)) := by
  have hsame : ∀ ret, ret ≠ 0 → intUnregister pid p copy hwOk s = (ret, s) →
      Agrees (bookStep (s, b) (.intUnregister pid p copy hwOk)) := by
    intro ret hret heq
    rw [bookStep, Gpio.call, heq]
    dsimp only
    rw [Book.record, if_pos hret]
    exact h
  have hbook : b.record 0 (.intUnregister pid p copy hwOk) = { b with enables := b.enables.erase (pid, p) } := rfl
  rcases intUnregister_cases pid p copy hwOk s with ⟨ret, hret, heq, -⟩ | ⟨-, hnone, -, hstep⟩ |
    ⟨l, n, r, -, hsplit, rfl, hen, -, hhw, hcase⟩
  · exact hsame ret hret heq
  · have hmem : (pid, p) ∉ b.enables := by
      intro hmem
      obtain ⟨n, hn, hown⟩ := (h.nodes pid p).1 hmem
      exact hnone n hn hown
    rw [bookStep, Gpio.call, hstep]
    dsimp only
    rw [hbook, List.erase_of_not_mem hmem]
    exact h.freeNode pid
  · have howns : ∀ pid q, Owns s.headGpioList pid q ↔ Owns (l ++ n :: r) pid q := fun _ _ => by rw [hsplit]
    have hmem : (n.pid, p) ∈ b.enables := (h.nodes _ _).2 ((howns _ _).2 (owns_middle.2 (.inl ⟨rfl, hen⟩)))
    have hsingle : Single (l ++ n :: r) := hsplit ▸ h.single
    have hreg : (if s.gpioPinList p = 1 then s.setHw p false else s).count p (· - 1) = s.unregOne p := by
      split_ifs with hone
      · exact unregOne_of_eq hone
      · exact unregOne_of_ne hone
    rw [bookStep, Gpio.call, hcase, hreg]
    dsimp only
    rw [hbook]
    refine Agrees.freeNode (s := { s.unregOne p with
      totalInterruptGpio := s.totalInterruptGpio - 1, headGpioList := l ++ n.disable p :: r }) ?_ n.pid
    have hle : ∀ q, [p].count q ≤ (s.gpioPinList q).toNat := h.count_le fun q => by
      rw [Book.count, ← count_erase hmem]
      omega
    have hbal : Balanced (s.unregOne p, { b with enables := b.enables.erase (n.pid, p) }) := by
      rw [← unregAll_nil (s.unregOne p), (unregAll_cons hle).1]
      refine h.balanced.unregAll fun q => ?_
      have := count_erase hmem q
      simp only [Book.count]
      omega
    refine ⟨⟨hbal.counts, hbal.hardware, hbal.noFault⟩, h.sensors, h.chassis, fun pid q => ?_, h.nodup.erase _,
      hsingle.disable⟩
    change (pid, q) ∈ b.enables.erase (n.pid, p) ↔ Owns (l ++ n.disable p :: r) pid q
    rw [h.nodup.mem_erase_iff, owns_disable hsingle hen, ← howns]
    exact and_congr (not_congr Prod.mk_inj) (h.nodes pid q)

theorem agrees_release (h : Agrees (s, b)) {pid : UInt32} {hwOk : Pin → Bool} (hc : Careful s (.release pid hwOk)) :
    Agrees (bookStep (s, b) (.release pid hwOk)) := by
  obtain ⟨hone, hok⟩ := hc
  have hbook : b.record 0 (.release pid hwOk) = { b with enables := b.enables.filter fun e => e.1 ≠ pid } := rfl
  rcases release_cases pid hwOk s with ⟨hstep, hnone⟩ | ⟨l, n, r, hsplit, rfl, -, -, hcase⟩
  · have hfilter : b.enables.filter (fun e => e.1 ≠ pid) = b.enables := by
      refine List.filter_eq_self.2 fun e he => decide_eq_true ?_
      rintro rfl
      obtain ⟨n, hn, hpid, -⟩ := (h.nodes e.1 e.2).1 he
      exact hnone n hn hpid
    rw [bookStep, Gpio.call, hstep]
    dsimp only
    rw [hbook, hfilter]
    exact h
  · have hothers : ∀ q, ¬ Owns (l ++ r) n.pid q := by
      rintro q ⟨m, hm, hpid, -⟩
      have hlen : ((l ++ r).filter fun m => m.pid = n.pid).length = 0 := by
        rw [hsplit, List.filter_append, List.filter_cons_of_pos (by simp), List.length_append,
          List.length_cons] at hone
        rw [List.filter_append, List.length_append]
        omega
      exact List.filter_eq_nil_iff.1 (List.length_eq_zero_iff.1 hlen) m hm (decide_eq_true hpid)
    have howns : ∀ pid q, Owns s.headGpioList pid q ↔ Owns (l ++ n :: r) pid q := fun _ _ => by rw [hsplit]
    have hnodup : b.enables.Nodup := h.nodup
    have hmem : ∀ q, (n.pid, q) ∈ b.enables ↔ n.enabled q = true := fun q => by
      rw [h.nodes, howns, owns_middle]
      exact (or_iff_left (hothers q)).trans (and_iff_right rfl)
    have hin : n ∈ s.headGpioList := hsplit ▸ List.mem_append_right l List.mem_cons_self
    have hpins : s.unregPins n hwOk = s.unregAll ((List.finRange 256).filter fun p => n.enabled p) := by
      refine unregPins_eq (hok n hin rfl) fun q hq => ?_
      have hcount := count_filter_ne hnodup n.pid q
      rw [if_pos ((hmem q).2 hq)] at hcount
      have hp : (s.gpioPinList q).toNat = b.count q := h.balanced.counts q
      rw [hp, Book.count]
      omega
    rw [bookStep, Gpio.call, hcase, hpins]
    dsimp only
    rw [hbook]
    have hbal : Balanced (s.unregAll ((List.finRange 256).filter fun p => n.enabled p),
        { b with enables := b.enables.filter fun e => e.1 ≠ n.pid }) := by
      refine h.balanced.unregAll fun q => ?_
      have hcount := count_filter_ne hnodup n.pid q
      have hq : ((List.finRange 256).filter fun p => n.enabled p).count q =
          if (n.pid, q) ∈ b.enables then 1 else 0 := by
        simp only [hmem]
        split_ifs with hen
        · exact List.count_eq_one_of_mem ((List.nodup_finRange 256).filter _)
            (List.mem_filter.2 ⟨List.mem_finRange q, hen⟩)
        · exact List.count_eq_zero.2 fun h => hen (List.mem_filter.1 h).2
      simp only [Book.count, hq]
      omega
    refine ⟨⟨hbal.counts, hbal.hardware, hbal.noFault⟩, h.sensors, h.chassis, fun pid q => ?_, h.nodup.filter _,
      (single_middle.1 (hsplit ▸ h.single)).2⟩
    change (pid, q) ∈ b.enables.filter (fun e => e.1 ≠ n.pid) ↔ Owns (l ++ r) pid q
    rw [List.mem_filter, h.nodes, howns, owns_middle, decide_eq_true_iff]
    constructor
    · rintro ⟨⟨rfl, -⟩ | howns, hne⟩
      · exact absurd rfl hne
      · exact howns
    · intro howns
      refine ⟨.inr howns, ?_⟩
      rintro rfl
      exact hothers q howns

end BmcGpio
