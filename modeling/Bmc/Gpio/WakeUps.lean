import Bmc.Lib.ByteBits
import Bmc.Gpio.Pending

/-!
# Waiting for the interrupts of a process

`IOCTL_GPIO_INT_WAIT_FOR` marks the node of the process as waiting and sleeps until an interrupt of the process is
pending. The wake-up pass after an interrupt signals the nodes that are marked, and resets their marks. The steps of
threads, interrupts and passes may come in any order.

* `WaitState`, `waitStep`: the nodes with their marks, the entries, the pass and the threads;
* `NoLostWakeUp`: a thread that is blocked is marked, and a signal is on its way when an interrupt is pending;
* `KeepsWaking`: what it takes of a step;
* **`noLostWakeUp_iff`**: when no wake-up is lost in a run.
-/

namespace BmcGpio

open BmcLib

/-- `PID_WAITING`. -/
def pidWaiting : UInt8 := (1 : UInt8) <<< 1

/-- `PID_WAKEUP`. -/
def pidWakeup : UInt8 := (1 : UInt8) <<< 0

/-- A node with its `wakeup` byte. -/
structure WakeNode where
  node : GpioNode
  wakeup : UInt8

/-- The node is marked as waiting. -/
def WakeNode.IsWaiting (n : WakeNode) : Prop := n.wakeup &&& pidWaiting = pidWaiting

/-- The node is marked to be woken. -/
def WakeNode.IsWakeup (n : WakeNode) : Prop := n.wakeup &&& pidWakeup = pidWakeup

instance : DecidablePred WakeNode.IsWaiting := fun _ => inferInstanceAs (Decidable (_ = _))

instance : DecidablePred WakeNode.IsWakeup := fun _ => inferInstanceAs (Decidable (_ = _))

/-- Where a thread is: outside of a wait call, or in one, which has found its instance. `SetPIDWaitStatus` loads the
`wakeup` byte of a node and stores it with the mark. `wait_event_interruptible` tests, prepares to wait, tests again and
blocks, unless the thread was woken in between. -/
inductive ThreadPoint
  | running
  | entered (inst : ℕ)
  | marking (inst i : ℕ) (wakeup : UInt8)
  | testing (inst : ℕ)
  | preparing (inst : ℕ)
  | queued (inst : ℕ) (woken : Bool)
  | blocked (inst : ℕ)
  deriving DecidableEq, Repr

/-- The nodes, the entries, the node that the wake-up pass has looked at and not reset yet, and the threads. -/
structure WaitState where
  nodes : List WakeNode
  pending : List PendingEntry
  resetting : Option ℕ
  threads : ℕ → ThreadPoint

/-- No thread waits. -/
def WaitState.start (nodes : List WakeNode) : WaitState := ⟨nodes, [], none, fun _ => .running⟩

/-! ## Steps -/

/-- What can happen: the steps of a thread, the part of an interrupt and of a wake-up pass that is about one node, and
a clear. -/
inductive WaitEvent
  | enter (t : ℕ) (comm : Comm)
  | load (t : ℕ)
  | store (t : ℕ)
  | test (t : ℕ)
  | prepare (t : ℕ)
  | check (t : ℕ)
  | interrupted (t : ℕ)
  | interrupt (i : ℕ) (p : Pin) (state triggerType : UInt8) (alloc : Bool)
  | look (i : ℕ)
  | reset
  | clear (pid : UInt32) (gpioNum : UInt16)

/-- A thread goes on. -/
def WaitState.go (s : WaitState) (t : ℕ) (point : ThreadPoint) : WaitState :=
  { s with threads := Function.update s.threads t point }

/-- The `wakeup` byte of a node changes. -/
def WaitState.setWakeup (s : WaitState) (i : ℕ) (f : UInt8 → UInt8) : WaitState :=
  { s with nodes := s.nodes.modify i fun n => { n with wakeup := f n.wakeup } }

/-- `wake_up_interruptible` on the queue of an instance. -/
def ThreadPoint.wake (inst : ℕ) : ThreadPoint → ThreadPoint
  | .queued inst' woken => if inst' = inst then .queued inst' true else .queued inst' woken
  | .blocked inst' => if inst' = inst then .preparing inst' else .blocked inst'
  | point => point

variable (proc : ℕ → UInt32)

/-- The first node of a process, which `SetPIDWaitStatus` marks. -/
def WaitState.nodeOf (s : WaitState) (pid : UInt32) : ℕ := s.nodes.findIdx fun n => n.node.pid = pid

/-- What an event does. The thread `t` belongs to the process `proc t`. -/
def waitStep (s : WaitState) : WaitEvent → WaitState
  | .enter t comm =>
    match s.threads t, s.nodes.find? fun n => n.node.IsOf (proc t) comm.1 with
    | .running, some n => s.go t (.entered n.node.inst)
    | _, _ => s
  | .load t =>
    match s.threads t with
    | .entered inst =>
      match s.nodes[s.nodeOf (proc t)]? with
      | some n => s.go t (.marking inst (s.nodeOf (proc t)) n.wakeup)
      | none => s.go t (.testing inst)
    | _ => s
  | .store t =>
    match s.threads t with
    | .marking inst i wakeup => (s.setWakeup i fun _ => wakeup ||| pidWaiting).go t (.testing inst)
    | _ => s
  | .test t =>
    match s.threads t with
    | .testing inst => s.go t (if isGPIOIntPendingPID (proc t) s.pending then .running else .preparing inst)
    | _ => s
  | .prepare t =>
    match s.threads t with
    | .preparing inst => s.go t (.queued inst false)
    | _ => s
  | .check t =>
    match s.threads t with
    | .queued inst woken =>
      s.go t (if isGPIOIntPendingPID (proc t) s.pending then .running
        else if woken then .preparing inst else .blocked inst)
    | _ => s
  | .interrupted t =>
    match s.threads t with
    | .preparing _ | .queued _ _ | .blocked _ => s.go t .running
    | _ => s
  | .interrupt i p state triggerType alloc =>
    match s.nodes[i]? with
    | some n =>
      if n.node.enabled p then
        { s.setWakeup i (· ||| pidWakeup) with
          pending := intrNode p state triggerType n.node alloc s.pending }
      else s
    | none => s
  | .look i =>
    match s.resetting, s.nodes[i]? with
    | none, some n =>
      if n.IsWakeup then
        { s with
          resetting := some i
          threads := if n.IsWaiting then fun t => (s.threads t).wake n.node.inst else s.threads }
      else s
    | _, _ => s
  | .reset =>
    match s.resetting with
    | some i => { s.setWakeup i fun _ => 0 with resetting := none }
    | none => s
  | .clear pid gpioNum => { s with pending := removeGpioInterrupt gpioNum pid s.pending }

attribute [local grind =] waitStep

/-! ## What is to hold -/

/-- The node of a process is marked as waiting. -/
def WaitState.Flagged (s : WaitState) (pid : UInt32) : Prop := ∃ n, s.nodes[s.nodeOf pid]? = some n ∧ n.IsWaiting

/-- A node has the instance and both marks, and a wake-up pass is yet to look at it. -/
def WaitState.Signals (s : WaitState) (i inst : ℕ) : Prop :=
  ∃ n, s.nodes[i]? = some n ∧ s.resetting ≠ some i ∧ n.node.inst = inst ∧ n.IsWakeup ∧ n.IsWaiting

/-- The node of the process of each blocked thread is marked as waiting, and a signal to the thread is outstanding when
an interrupt of its process is pending. -/
structure NoLostWakeUp (s : WaitState) : Prop where
  flagged : ∀ t inst, s.threads t = .blocked inst → s.Flagged (proc t)
  signalled : ∀ t inst, s.threads t = .blocked inst → isGPIOIntPendingPID (proc t) s.pending = true →
    ∃ i, s.Signals i inst

/-- A thread that blocks is marked still. A store of a mark overwrites no `PID_WAKEUP` that a blocked thread needs, and
a pass resets no node of a process that has a blocked thread. The first interrupt for a process that has a blocked
thread marks a node of the instance of the thread that is waiting and not being reset. -/
def KeepsWaking (s : WaitState) : WaitEvent → Prop
  | .check t => ∀ inst, s.threads t = .queued inst false → isGPIOIntPendingPID (proc t) s.pending = false →
      s.Flagged (proc t)
  | .store t => ∀ inst i wakeup, s.threads t = .marking inst i wakeup → wakeup &&& pidWakeup = pidWakeup ∨
      ∀ t' inst', s.threads t' = .blocked inst' → isGPIOIntPendingPID (proc t') s.pending = true →
        ∃ j, j ≠ i ∧ s.Signals j inst'
  | .interrupt i p _ _ alloc => ∀ n, s.nodes[i]? = some n → n.node.enabled p = true → alloc = true →
      ∀ t inst, s.threads t = .blocked inst → proc t = n.node.pid →
        isGPIOIntPendingPID (proc t) s.pending = false →
        (s.resetting ≠ some i ∧ n.node.inst = inst ∧ n.IsWaiting) ∨ ∃ j, s.Signals j inst
  | .reset => ∀ i, s.resetting = some i → ∀ t inst, s.threads t = .blocked inst → s.nodeOf (proc t) ≠ i
  | _ => True

/-! ## The marks -/

variable {proc} {s : WaitState} {n : WakeNode} {t : ℕ} {pid : UInt32}

theorem isWaiting_store (n : WakeNode) (v : UInt8) : ({ n with wakeup := v ||| pidWaiting } : WakeNode).IsWaiting :=
  or_and_same v pidWaiting

theorem isWakeup_store {v : UInt8} :
    ({ n with wakeup := v ||| pidWaiting } : WakeNode).IsWakeup ↔ v &&& pidWakeup = pidWakeup := by
  rw [WakeNode.IsWakeup, or_and_of_disjoint v rfl]

theorem isWakeup_intr (n : WakeNode) : ({ n with wakeup := n.wakeup ||| pidWakeup } : WakeNode).IsWakeup :=
  or_and_same n.wakeup pidWakeup

theorem isWaiting_intr : ({ n with wakeup := n.wakeup ||| pidWakeup } : WakeNode).IsWaiting ↔ n.IsWaiting := by
  rw [WakeNode.IsWaiting, WakeNode.IsWaiting, or_and_of_disjoint n.wakeup rfl]

theorem not_isWaiting_zero (n : WakeNode) : ¬ ({ n with wakeup := 0 } : WakeNode).IsWaiting := by
  rw [WakeNode.IsWaiting, UInt8.zero_and]
  decide

/-- The nodes keep their places when a byte changes. -/
theorem nodeOf_setWakeup (s : WaitState) (i : ℕ) (f : UInt8 → UInt8) (pid : UInt32) :
    (s.setWakeup i f).nodeOf pid = s.nodeOf pid := by
  have hmap : ∀ l : List WakeNode, l.findIdx (fun n => n.node.pid = pid) =
      (l.map fun n => n.node.pid).findIdx fun q => q = pid := fun l => by
        rw [List.findIdx_map]
        rfl
  rw [WaitState.nodeOf, WaitState.nodeOf, hmap, hmap]
  exact congrArg _ (map_modify_of_eq s.nodes fun _ => rfl)

theorem getElem?_setWakeup_self {i : ℕ} (f : UInt8 → UInt8) {m : WakeNode} :
    (s.setWakeup i f).nodes[i]? = some m ↔ ∃ n, s.nodes[i]? = some n ∧ { n with wakeup := f n.wakeup } = m := by
  rw [WaitState.setWakeup, List.getElem?_modify_eq]
  exact Option.map_eq_some_iff

theorem getElem?_setWakeup_ne {i j : ℕ} (f : UInt8 → UInt8) (h : j ≠ i) :
    (s.setWakeup i f).nodes[j]? = s.nodes[j]? := by
  rw [WaitState.setWakeup, List.getElem?_modify_ne _ _ (Ne.symm h)]

/-- A change of a byte that keeps the mark. -/
theorem flagged_setWakeup {i : ℕ} {f : UInt8 → UInt8} (h : s.Flagged pid)
    (hf : ∀ n, s.nodes[i]? = some n → n.IsWaiting → ({ n with wakeup := f n.wakeup } : WakeNode).IsWaiting) :
    (s.setWakeup i f).Flagged pid := by
  obtain ⟨n, hn, hw⟩ := h
  rw [WaitState.Flagged, nodeOf_setWakeup]
  by_cases hi : s.nodeOf pid = i
  · rw [hi] at hn ⊢
    exact ⟨_, (getElem?_setWakeup_self f).2 ⟨n, hn, rfl⟩, hf n hn hw⟩
  · exact ⟨n, (getElem?_setWakeup_ne f hi).trans hn, hw⟩

/-- A change of the byte of another node. -/
theorem signals_setWakeup_ne {i j inst : ℕ} (f : UInt8 → UInt8) (h : j ≠ i) :
    (s.setWakeup i f).Signals j inst ↔ s.Signals j inst := by
  rw [WaitState.Signals, WaitState.Signals, getElem?_setWakeup_ne f h]
  rfl

/-- A thread that is blocked after another one has moved, was blocked before. -/
theorem blocked_of_go {point : ThreadPoint} {t' inst : ℕ} (hpoint : ∀ inst, point ≠ .blocked inst)
    (h : (s.go t point).threads t' = .blocked inst) : s.threads t' = .blocked inst := by
  rw [WaitState.go] at h
  dsimp only at h
  by_cases ht : t' = t
  · rw [ht, Function.update_self] at h
    exact absurd h (hpoint inst)
  · rwa [Function.update_of_ne ht] at h

/-- A step of a thread that does not block it. -/
theorem NoLostWakeUp.go (h : NoLostWakeUp proc s) {point : ThreadPoint} (hpoint : ∀ inst, point ≠ .blocked inst) :
    NoLostWakeUp proc (s.go t point) where
  flagged _ inst ht := h.flagged _ inst (blocked_of_go hpoint ht)
  signalled _ inst ht := h.signalled _ inst (blocked_of_go hpoint ht)

/-! ## Steps -/

/-- A thread tests the condition the second time. -/
theorem noLostWakeUp_check (h : NoLostWakeUp proc s) (t : ℕ) :
    NoLostWakeUp proc (waitStep proc s (.check t)) ↔ KeepsWaking proc s (.check t) := by
  rw [waitStep]
  cases ht : s.threads t with
  | queued inst woken =>
    dsimp only
    cases hpending : isGPIOIntPendingPID (proc t) s.pending with
    | true =>
      refine iff_of_true (h.go fun _ => ThreadPoint.noConfusion) fun inst' _ hno => ?_
      exact absurd (hpending.symm.trans hno) (by decide)
    | false =>
      rw [if_neg Bool.false_ne_true]
      cases woken with
      | true =>
        refine iff_of_true (h.go fun _ => ThreadPoint.noConfusion) fun inst' ht' _ => ?_
        exact absurd (ht.symm.trans ht') (by simp)
      | false =>
        rw [if_neg Bool.false_ne_true]
        constructor
        · exact fun hnext inst' _ _ => hnext.flagged t inst (Function.update_self ..)
        · intro hok
          have hcases : ∀ t' inst', (s.go t (.blocked inst)).threads t' = .blocked inst' →
              t' = t ∨ s.threads t' = .blocked inst' := fun t' inst' ht' => by
            by_cases heq : t' = t
            · exact .inl heq
            · rw [WaitState.go] at ht'
              exact .inr ((Function.update_of_ne heq ..).symm.trans ht')
          refine ⟨fun t' inst' ht' => ?_, fun t' inst' ht' hp => ?_⟩
          · rcases hcases t' inst' ht' with rfl | hold
            · exact hok inst ht hpending
            · exact h.flagged t' inst' hold
          · rcases hcases t' inst' ht' with rfl | hold
            · exact absurd (hpending.symm.trans hp) (by decide)
            · exact h.signalled t' inst' hold hp
  | _ => exact iff_of_true h fun inst ht' => absurd (ht.symm.trans ht') (by simp)

/-- A thread stores the mark. -/
theorem noLostWakeUp_store (h : NoLostWakeUp proc s) (t : ℕ) :
    NoLostWakeUp proc (waitStep proc s (.store t)) ↔ KeepsWaking proc s (.store t) := by
  rw [waitStep]
  cases ht : s.threads t with
  | marking inst i v =>
    dsimp only
    have hother : ∀ {j inst'}, j ≠ i →
        (((s.setWakeup i fun _ => v ||| pidWaiting).go t (.testing inst)).Signals j inst' ↔ s.Signals j inst') :=
      fun hj => signals_setWakeup_ne (fun _ => v ||| pidWaiting) hj
    have hold : ∀ {t' inst'}, ((s.setWakeup i fun _ => v ||| pidWaiting).go t (.testing inst)).threads t' =
        .blocked inst' → s.threads t' = .blocked inst' :=
      fun ht' => blocked_of_go (s := s) (fun _ => ThreadPoint.noConfusion) ht'
    constructor
    · intro hnext inst' i' v' ht'
      obtain ⟨-, rfl, rfl⟩ := ThreadPoint.marking.inj (ht.symm.trans ht')
      rw [or_iff_not_imp_left]
      intro hv t₁ inst₁ ht₁ hp
      have hne : t₁ ≠ t := by
        rintro rfl
        exact absurd (ht.symm.trans ht₁) (by simp)
      obtain ⟨j, hj⟩ := hnext.signalled t₁ inst₁ ((Function.update_of_ne hne ..).trans ht₁) hp
      have hji : j ≠ i := by
        rintro rfl
        obtain ⟨m, hm, -, -, hwakeup, -⟩ := hj
        obtain ⟨n, -, rfl⟩ := (getElem?_setWakeup_self fun _ => v ||| pidWaiting).1 hm
        exact hv (isWakeup_store.1 hwakeup)
      exact ⟨j, hji, (hother hji).1 hj⟩
    · intro hok
      refine ⟨fun t' inst' ht' => ?_, fun t' inst' ht' hp => ?_⟩
      · have hflagged : (s.setWakeup i fun _ => v ||| pidWaiting).Flagged (proc t') :=
          flagged_setWakeup (h.flagged t' inst' (hold ht')) fun n _ _ => isWaiting_store n v
        exact hflagged
      · obtain ⟨j, hj⟩ := h.signalled t' inst' (hold ht') hp
        by_cases hji : j = i
        · rcases hok inst i v ht with hv | hsignal
          · obtain ⟨n, hn, hreset, hinst, -, -⟩ := hj
            rw [hji] at hn hreset
            exact ⟨i, { n with wakeup := v ||| pidWaiting },
              (getElem?_setWakeup_self fun _ => v ||| pidWaiting).2 ⟨n, hn, rfl⟩, hreset, hinst,
              isWakeup_store.2 hv, isWaiting_store n v⟩
          · obtain ⟨j', hj', hsignals⟩ := hsignal t' inst' (hold ht') hp
            exact ⟨j', (hother hj').2 hsignals⟩
        · exact ⟨j, (hother hji).2 hj⟩
  | _ => exact iff_of_true h fun inst i v ht' => absurd (ht.symm.trans ht') (by simp)

/-- A wake-up pass resets a node. -/
theorem noLostWakeUp_reset (h : NoLostWakeUp proc s) :
    NoLostWakeUp proc (waitStep proc s .reset) ↔ KeepsWaking proc s .reset := by
  rw [waitStep]
  cases hi : s.resetting with
  | none => exact iff_of_true h fun i hi' => absurd (hi.symm.trans hi') (by simp)
  | some i =>
    dsimp only
    constructor
    · intro hnext i' hi' t inst ht heq
      obtain rfl := Option.some_inj.1 (hi.symm.trans hi')
      obtain ⟨n, hn, hw⟩ := hnext.flagged t inst ht
      change (s.setWakeup i fun _ => 0).nodes[(s.setWakeup i fun _ => 0).nodeOf (proc t)]? = some n at hn
      rw [nodeOf_setWakeup, heq] at hn
      obtain ⟨m, -, rfl⟩ := (getElem?_setWakeup_self fun _ => 0).1 hn
      exact not_isWaiting_zero m hw
    · intro hok
      refine ⟨fun t inst ht => ?_, fun t inst ht hp => ?_⟩
      · obtain ⟨n, hn, hw⟩ := h.flagged t inst ht
        refine ⟨n, ?_, hw⟩
        change (s.setWakeup i fun _ => 0).nodes[(s.setWakeup i fun _ => 0).nodeOf (proc t)]? = some n
        rw [nodeOf_setWakeup, getElem?_setWakeup_ne _ (hok i hi t inst ht)]
        exact hn
      · obtain ⟨j, n, hn, hreset, hrest⟩ := h.signalled t inst ht hp
        have hj : j ≠ i := by
          rintro rfl
          exact hreset hi
        exact ⟨j, n, (getElem?_setWakeup_ne (fun _ => 0) hj).trans hn, (Option.some_ne_none _).symm, hrest⟩

theorem isGPIOIntPendingPID_iff {l : List PendingEntry} :
    isGPIOIntPendingPID pid l = true ↔ ∃ p, PendingFor l pid p := by
  rw [isGPIOIntPendingPID, List.any_eq_true]
  constructor
  · exact fun ⟨e, he, hpid⟩ => ⟨e.gpio, e, he, of_decide_eq_true hpid, rfl⟩
  · exact fun ⟨_, e, he, hpid, _⟩ => ⟨e, he, decide_eq_true hpid⟩

/-- A process has an interrupt pending after the part of an interrupt that is about a node. -/
theorem isGPIOIntPendingPID_intrNode {l : List PendingEntry} {m : GpioNode} {p : Pin} {state triggerType : UInt8}
    {alloc : Bool} (hen : m.enabled p = true) :
    isGPIOIntPendingPID pid (intrNode p state triggerType m alloc l) = true ↔
      isGPIOIntPendingPID pid l = true ∨ (m.pid = pid ∧ alloc = true) := by
  simp only [isGPIOIntPendingPID_iff, pendingFor_intrNode, exists_or, exists_eq_left, hen, true_and]

/-- A node of an interrupt is marked to be woken. -/
theorem signals_intr {i inst : ℕ} (hn : s.nodes[i]? = some n) : (s.setWakeup i (· ||| pidWakeup)).Signals i inst ↔
    s.resetting ≠ some i ∧ n.node.inst = inst ∧ n.IsWaiting := by
  constructor
  · rintro ⟨m, hm, hreset, hinst, -, hwaiting⟩
    obtain ⟨n', hn', rfl⟩ := (getElem?_setWakeup_self (· ||| pidWakeup)).1 hm
    obtain rfl := Option.some_inj.1 (hn.symm.trans hn')
    exact ⟨hreset, hinst, isWaiting_intr.1 hwaiting⟩
  · rintro ⟨hreset, hinst, hwaiting⟩
    exact ⟨_, (getElem?_setWakeup_self (· ||| pidWakeup)).2 ⟨n, hn, rfl⟩, hreset, hinst, isWakeup_intr n,
      isWaiting_intr.2 hwaiting⟩

/-- An interrupt comes to a node. -/
theorem noLostWakeUp_interrupt (h : NoLostWakeUp proc s) (i : ℕ) (p : Pin) (state triggerType : UInt8)
    (alloc : Bool) : NoLostWakeUp proc (waitStep proc s (.interrupt i p state triggerType alloc)) ↔
      KeepsWaking proc s (.interrupt i p state triggerType alloc) := by
  rw [waitStep]
  cases hn : s.nodes[i]? with
  | none => exact iff_of_true h fun n hn' => absurd (hn.symm.trans hn') (by simp)
  | some n =>
    dsimp only
    by_cases hen : n.node.enabled p = true
    · rw [if_pos hen]
      have hother : ∀ {j inst}, j ≠ i → ((s.setWakeup i (· ||| pidWakeup)).Signals j inst ↔ s.Signals j inst) :=
        fun hj => signals_setWakeup_ne _ hj
      constructor
      · intro hnext n' hn' _ halloc t inst ht hpid _
        obtain rfl := Option.some_inj.1 (hn.symm.trans hn')
        obtain ⟨j, hj⟩ := hnext.signalled t inst ht ((isGPIOIntPendingPID_intrNode hen).2 (.inr ⟨hpid.symm, halloc⟩))
        have hj : (s.setWakeup i (· ||| pidWakeup)).Signals j inst := hj
        by_cases hji : j = i
        · rw [hji] at hj
          exact .inl ((signals_intr hn).1 hj)
        · exact .inr ⟨j, (hother hji).1 hj⟩
      · intro hok
        refine ⟨fun t inst ht => ?_, fun t inst ht hp => ?_⟩
        · have hflagged : (s.setWakeup i (· ||| pidWakeup)).Flagged (proc t) :=
            flagged_setWakeup (h.flagged t inst ht) fun n _ hw => isWaiting_intr.2 hw
          exact hflagged
        · have hkept : (∃ j, s.Signals j inst) → ∃ j, (s.setWakeup i (· ||| pidWakeup)).Signals j inst := by
            rintro ⟨j, hj⟩
            by_cases hji : j = i
            · obtain ⟨m, hm, hreset, hinst, -, hwaiting⟩ := hji ▸ hj
              obtain rfl := Option.some_inj.1 (hn.symm.trans hm)
              exact ⟨i, (signals_intr hn).2 ⟨hreset, hinst, hwaiting⟩⟩
            · exact ⟨j, (hother hji).2 hj⟩
          have hsignals : ∃ j, (s.setWakeup i (· ||| pidWakeup)).Signals j inst := by
            cases hold : isGPIOIntPendingPID (proc t) s.pending with
            | true => exact hkept (h.signalled t inst ht hold)
            | false =>
              obtain ⟨hpid, halloc⟩ := ((isGPIOIntPendingPID_intrNode hen).1 hp).resolve_left (by simp [hold])
              rcases hok n hn hen halloc t inst ht hpid.symm hold with hnew | hstale
              · exact ⟨i, (signals_intr hn).2 hnew⟩
              · exact hkept hstale
          exact hsignals
    · rw [if_neg hen]
      refine iff_of_true h fun n' hn' hen' => absurd hen' ?_
      rwa [← Option.some_inj.1 (hn.symm.trans hn')]

/-- A wake-up pass looks at a node: the threads that need its signal get it. -/
theorem noLostWakeUp_look (h : NoLostWakeUp proc s) (i : ℕ) : NoLostWakeUp proc (waitStep proc s (.look i)) := by
  rw [waitStep]
  cases hreset : s.resetting with
  | some j => exact h
  | none =>
    cases hn : s.nodes[i]? with
    | none => exact h
    | some n =>
      dsimp only
      split_ifs with hwakeup hwaiting
      · -- the threads in the queue are woken
        have hold : ∀ {t inst}, (s.threads t).wake n.node.inst = .blocked inst →
            s.threads t = .blocked inst ∧ inst ≠ n.node.inst := by
          intro t inst ht
          cases hpoint : s.threads t with
          | blocked inst' =>
            rw [hpoint, ThreadPoint.wake] at ht
            split_ifs at ht with hinst
            obtain rfl := ThreadPoint.blocked.inj ht
            exact ⟨rfl, hinst⟩
          | queued inst' woken =>
            rw [hpoint, ThreadPoint.wake] at ht
            split_ifs at ht
          | _ =>
            rw [hpoint] at ht
            exact absurd ht ThreadPoint.noConfusion
        refine ⟨fun t inst ht => h.flagged t inst (hold ht).1, fun t inst ht hp => ?_⟩
        obtain ⟨ht, hne⟩ := hold ht
        obtain ⟨j, m, hm, -, hinst, hmarks⟩ := h.signalled t inst ht hp
        refine ⟨j, m, hm, fun hji => hne ?_, hinst, hmarks⟩
        obtain rfl := Option.some_inj.1 hji
        rw [← hinst, Option.some_inj.1 (hn.symm.trans hm)]
      · refine ⟨h.flagged, fun t inst ht hp => ?_⟩
        obtain ⟨j, m, hm, -, hinst, hmarks⟩ := h.signalled t inst ht hp
        refine ⟨j, m, hm, fun hji => hwaiting ?_, hinst, hmarks⟩
        obtain rfl := Option.some_inj.1 hji
        rw [Option.some_inj.1 (hn.symm.trans hm)]
        exact hmarks.2
      · exact h

/-- **Steps.** -/
theorem noLostWakeUp_step (h : NoLostWakeUp proc s) (e : WaitEvent) :
    NoLostWakeUp proc (waitStep proc s e) ↔ KeepsWaking proc s e := by
  cases e with
  | check t => exact noLostWakeUp_check h t
  | store t => exact noLostWakeUp_store h t
  | reset => exact noLostWakeUp_reset h
  | interrupt i p state triggerType alloc => exact noLostWakeUp_interrupt h i p state triggerType alloc
  | look i => exact iff_of_true (noLostWakeUp_look h i) trivial
  | clear pid gpioNum =>
    refine iff_of_true ⟨h.flagged, fun t inst ht hp => ?_⟩ trivial
    obtain ⟨p, hp⟩ := isGPIOIntPendingPID_iff.1 hp
    exact h.signalled t inst ht (isGPIOIntPendingPID_iff.2 ⟨p, (pendingFor_remove.1 hp).1⟩)
  | enter t comm =>
    refine iff_of_true ?_ trivial
    rw [waitStep]
    split
    · exact h.go fun _ => ThreadPoint.noConfusion
    · exact h
  | load t =>
    refine iff_of_true ?_ trivial
    rw [waitStep]
    split
    · split <;> exact h.go fun _ => ThreadPoint.noConfusion
    · exact h
  | test t =>
    refine iff_of_true ?_ trivial
    rw [waitStep]
    split
    · split_ifs <;> exact h.go fun _ => ThreadPoint.noConfusion
    · exact h
  | prepare t =>
    refine iff_of_true ?_ trivial
    rw [waitStep]
    split
    · exact h.go fun _ => ThreadPoint.noConfusion
    · exact h
  | interrupted t =>
    refine iff_of_true ?_ trivial
    rw [waitStep]
    split
    all_goals first
      | exact h.go fun _ => ThreadPoint.noConfusion
      | exact h

/-- **No wake-up is lost in a run exactly when all its steps keep the threads waking.** -/
theorem noLostWakeUp_iff (proc : ℕ → UInt32) (nodes : List WakeNode) (events : List WaitEvent) :
    Always (waitStep proc) (NoLostWakeUp proc) (WaitState.start nodes) events ↔
      AllSteps (waitStep proc) (KeepsWaking proc) (WaitState.start nodes) events := by
  have hstart : NoLostWakeUp proc (WaitState.start nodes) := ⟨fun _ _ ht => ThreadPoint.noConfusion ht,
    fun _ _ ht => ThreadPoint.noConfusion ht⟩
  have hok : ∀ s e, NoLostWakeUp proc s → KeepsWaking proc s e → NoLostWakeUp proc (waitStep proc s e) :=
    fun s e h he => (noLostWakeUp_step h e).2 he
  have hbad : ∀ s e, NoLostWakeUp proc s → ¬ KeepsWaking proc s e → ¬ NoLostWakeUp proc (waitStep proc s e) :=
    fun s e h hno hnext => hno ((noLostWakeUp_step h e).1 hnext)
  exact always_iff_of_inv (fun _ h => h) hok hbad hstart events

/-- A name of one byte fits. -/
theorem commA_fits : [(0x61 : UInt8)].length ≤ 15 := by decide

/-- A thread enters a wait call, finds no interrupt and blocks. -/
def blockThread (t : ℕ) : List WaitEvent :=
  [.enter t ⟨[0x61], commA_fits⟩, .load t, .store t, .test t, .prepare t, .check t]

/-- **Two threads of a process wait, and an interrupt wakes both. The first one clears it, so that the second one finds
none and blocks again. The next interrupt does not wake it.** -/
theorem not_noLostWakeUp_twoThreads : ¬ ∀ (proc : ℕ → UInt32) (nodes : List WakeNode) (events : List WaitEvent),
    Always (waitStep proc) (NoLostWakeUp proc) (WaitState.start nodes) events := by
  intro h
  have hrun := h (fun _ => 7) [⟨newNode 7 ⟨[0x61, 0x62], by decide⟩ (sensorSample 1) 1, 0⟩]
    (blockThread 0 ++ blockThread 1 ++ [.interrupt 0 1 1 0 true, .look 0, .reset, .prepare 0, .check 0, .clear 7 1,
      .prepare 1, .check 1, .interrupt 0 1 1 0 true, .look 0, .reset])
  obtain ⟨i, n, hn, -, -, hwakeup, -⟩ := hrun.foldl.signalled 1 1 rfl rfl
  cases i with
  | zero =>
    obtain rfl := Option.some_inj.1 hn
    exact absurd hwakeup (by decide)
  | succ i => cases hn

end BmcGpio
