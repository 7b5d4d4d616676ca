import Bmc.Lib.Run
import Bmc.Gpio.IntrQueues

/-!
# The delivery of interrupts

* `Served`: the queue is linked, the edge interrupts leave it in the order in which they came, a level interrupt is in
  it once, and each wait call gets the entry of the interrupt that it takes;
* `Prompt`: a wait call that has found the queue not empty finds an interrupt in it still, with its pin in the list;
* **`served_iff`**: the interrupts are served in every state of a run exactly when all its wait calls are prompt.
-/

namespace BmcGpio

open BmcLib

/-- The interrupt is an edge. -/
def PendingInterrupt.isEdge (i : PendingInterrupt) : Bool := !isLevel i.triggerType

/-- The interrupt that leaves the queue. -/
def Departure.interrupt : Departure → Option PendingInterrupt
  | .delivered _ i _ _ => some i
  | .missed _ _ => none
  | .discarded i => some i

/-- A wait call has got the entry of its interrupt. -/
def Departure.Good : Departure → Prop
  | .delivered _ i entry r => ∃ e, r = .success (some e) ∧ entry = some e ∧ e.gpioNumber = i.gpio
  | .missed _ _ => False
  | .discarded _ => True

/-- The interrupts of a kind are served. -/
structure Served (p : IntrPort) (l : IntrLedger) : Prop where
  linked : p.queue.Holds p.queue.toList
  inOrder : l.arrived.filter PendingInterrupt.isEdge =
    (l.departed.filterMap Departure.interrupt ++ p.queue.toList).filter PendingInterrupt.isEdge
  levelOnce : p.queue.toList.Pairwise fun i j =>
    isLevel i.triggerType = true → ¬ (i.gpio = j.gpio ∧ i.triggerType = j.triggerType)
  answered : ∀ d ∈ l.departed, d.Good

/-- The interrupts of both kinds are served. -/
def AllServed (sl : IntrDriver × (IntrKind → IntrLedger)) : Prop := ∀ k, Served (sl.1 k) (sl.2 k)

/-- A wait call that goes on finds an interrupt in the queue, with its pin in the list. -/
def Prompt (s : IntrDriver) : IntrEvent → Prop
  | .take k reader => (s k).woken reader = true →
      ∃ node, (s k).queue.first = some node ∧ ∃ e ∈ (s k).entries, e.gpioNumber = node.val.gpio
  | _ => True

/-! ## What happens to one kind -/

variable {p : IntrPort} {l : IntrLedger}

/-- Only the queue matters. -/
theorem Served.congr {p' : IntrPort} (h : Served p l) (hqueue : p'.queue = p.queue) : Served p' l := by
  obtain ⟨hlinked, horder, hlevel, hanswered⟩ := h
  rw [← hqueue] at hlinked horder hlevel
  exact ⟨hlinked, horder, hlevel, hanswered⟩

/-- **An interrupt comes.** -/
theorem Served.add (h : Served p l) (gpio : ℤ) (state triggerType : UInt8) :
    Served (p.add gpio state triggerType) { l with arrived := l.arrived ++
      [{ gpio := UInt16.ofNat gpio.toNat, state := state, triggerType := triggerType }] } := by
  rw [IntrPort.add, addInterrupt, h.linked.any]
  split_ifs with hdup
  · -- a level that is queued already
    obtain ⟨hlevel, -⟩ := Bool.and_eq_true_iff.1 hdup
    refine ⟨h.linked, ?_, h.levelOnce, h.answered⟩
    rw [List.filter_append, h.inOrder]
    simp [PendingInterrupt.isEdge, hlevel]
  · have hpush := h.linked.push { gpio := UInt16.ofNat gpio.toNat, state := state, triggerType := triggerType }
    refine ⟨?_, ?_, ?_, h.answered⟩
    · dsimp only
      rw [hpush.toList]
      exact hpush
    · dsimp only
      rw [hpush.toList, ← List.append_assoc, List.filter_append, List.filter_append, h.inOrder]
    · dsimp only
      rw [hpush.toList]
      refine List.pairwise_append.2 ⟨h.levelOnce, List.pairwise_singleton .., fun i hi j hj hlevel hsame => ?_⟩
      obtain rfl := List.mem_singleton.1 hj
      obtain ⟨hgpio, htype⟩ := hsame
      rw [htype] at hlevel
      refine hdup (Bool.and_eq_true_iff.2 ⟨hlevel, List.any_eq_true.2 ⟨i, hi, ?_⟩⟩)
      simp [hgpio, htype]

/-- **A wait call takes an interrupt.** -/
theorem Served.take (h : Served p l) (k : IntrKind) (reader : ℕ) {node : Node PendingInterrupt}
    (hfirst : p.queue.first = some node) (hentry : ∃ e ∈ p.entries, e.gpioNumber = node.val.gpio) :
    Served (takePending k reader p).2
      { l with departed := l.departed ++ [departure reader p (takePending k reader p).1] } := by
  have hr : processPendingInterrupt k p = processPending p node.val.gpio := by
    cases k
    · simp only [processPendingInterrupt, processPendingSensorInterrupt, hfirst]
    · simp only [processPendingInterrupt, processPendingChassisInterrupt, hfirst]
  obtain ⟨i, rest, hlist⟩ : ∃ i rest, p.queue.toList = i :: rest := by
    cases hlist : p.queue.toList with
    | nil =>
      have hnil := h.linked
      rw [hlist] at hnil
      exact absurd (hnil.first_nil.symm.trans hfirst) (Option.some_ne_none _).symm
    | cons i rest => exact ⟨i, rest, rfl⟩
  have hcons := h.linked
  rw [hlist] at hcons
  obtain ⟨-, next, hnext⟩ := hcons.first_cons
  obtain rfl := Option.some_inj.1 (hfirst.symm.trans hnext)
  obtain ⟨e, hfind⟩ : ∃ e, p.entryFor i.gpio = some e := by
    obtain ⟨e, he, hgpio⟩ := hentry
    exact Option.isSome_iff_exists.1 (List.find?_isSome.2 ⟨e, he, decide_eq_true hgpio⟩)
  have hpin : e.gpioNumber = i.gpio := by simpa using List.find?_some hfind
  have hdeparture : departure reader p (takePending k reader p).1 =
      .delivered reader i (some e) (.success (some e)) := by
    simp only [departure, hlist, takePending, hr, processPending, hfind]
  have hqueue : (takePending k reader p).2.queue = p.queue.pop := by
    simp only [takePending, hr, processPending]
  have hpop := hcons.pop
  rw [hdeparture]
  refine ⟨?_, ?_, ?_, ?_⟩
  · rw [hqueue, hpop.toList]
    exact hpop
  · rw [hqueue, hpop.toList, h.inOrder, hlist, List.filterMap_append, List.append_assoc]
    rfl
  · rw [hqueue, hpop.toList]
    have hlevel := h.levelOnce
    rw [hlist] at hlevel
    exact (List.pairwise_cons.1 hlevel).2
  · intro d hd
    rcases List.mem_append.1 hd with hd | hd
    · exact h.answered d hd
    · rw [List.mem_singleton.1 hd]
      exact ⟨e, rfl, rfl, hpin⟩

/-- A wait call that is not prompt is not answered. -/
theorem not_good_of_not_prompt (hlinked : p.queue.Holds p.queue.toList) (k : IntrKind) (reader : ℕ)
    (hno : ¬ ∃ node, p.queue.first = some node ∧ ∃ e ∈ p.entries, e.gpioNumber = node.val.gpio) :
    ¬ (departure reader p (takePending k reader p).1).Good := by
  cases hlist : p.queue.toList with
  | nil =>
    rw [departure, hlist]
    exact id
  | cons i rest =>
    rw [hlist] at hlinked
    obtain ⟨-, next, hnext⟩ := hlinked.first_cons
    have hfind : p.entryFor i.gpio = none := by
      refine List.find?_eq_none.2 fun e he hgpio => ?_
      exact hno ⟨_, hnext, e, he, of_decide_eq_true hgpio⟩
    rw [departure, hlist]
    rintro ⟨e, -, hentry, -⟩
    exact Option.some_ne_none e (hentry.symm.trans hfind)

/-- **An unregistration discards what is queued.** -/
theorem Served.unregister (h : Served p l) : Served (unregisterInts true p)
    { l with departed := l.departed ++ p.queue.toList.map Departure.discarded } := by
  have hclear := h.linked.clear
  have hall : ∀ is : List PendingInterrupt, (is.map Departure.discarded).filterMap Departure.interrupt = is := by
    intro is
    induction is with
    | nil => rfl
    | cons i is ih => exact congrArg (i :: ·) ih
  refine ⟨?_, ?_, ?_, ?_⟩
  · change p.queue.clear.Holds p.queue.clear.toList
    rw [hclear.toList]
    exact hclear
  · change _ = (_ ++ p.queue.clear.toList).filter _
    rw [hclear.toList, List.append_nil, List.filterMap_append, hall]
    exact h.inOrder
  · change p.queue.clear.toList.Pairwise _
    rw [hclear.toList]
    exact List.Pairwise.nil
  · intro d hd
    rcases List.mem_append.1 hd with hd | hd
    · exact h.answered d hd
    · obtain ⟨i, -, rfl⟩ := List.mem_map.1 hd
      trivial

/-! ## Runs -/

variable {s : IntrDriver} {ls : IntrKind → IntrLedger}

theorem AllServed.update (h : AllServed (s, ls)) {k : IntrKind} {p : IntrPort} {l : IntrLedger} (hk : Served p l) :
    AllServed (Function.update s k p, Function.update ls k l) := by
  intro k'
  by_cases hkk : k' = k
  · subst hkk
    simpa using hk
  · simpa [hkk] using h k'

theorem AllServed.update_port (h : AllServed (s, ls)) {k : IntrKind} {p : IntrPort} (hk : Served p (ls k)) :
    AllServed (Function.update s k p, ls) := by
  have hboth := h.update (k := k) hk
  rwa [Function.update_eq_self] at hboth

theorem findIdx_lt_iff_any {α : Type*} (f : α → Bool) (es : List α) :
    es.findIdx f < es.length ↔ es.any f = true := by
  rw [List.findIdx_lt_length, List.any_eq_true]

theorem allServed_interrupt (h : AllServed (s, ls)) (gpio : ℤ) (state triggerType : UInt8) :
    AllServed (intrStep (s, ls) (.interrupt gpio state triggerType)) := by
  rw [intrStep, processGpioIntr, kindOf]
  dsimp only
  simp only [findIdx_lt_iff_any]
  split_ifs with hsensor hchassis
  · refine h.update (Served.add ?_ gpio state triggerType)
    exact (h .sensor).congr rfl
  · exact h.update ((h .chassis).add gpio state triggerType)
  · exact h

/-- **Steps.** -/
theorem allServed_step (h : AllServed (s, ls)) {e : IntrEvent} (he : Prompt s e) :
    AllServed (intrStep (s, ls) e) := by
  cases e with
  | interrupt gpio state triggerType => exact allServed_interrupt h gpio state triggerType
  | test k reader =>
    refine h.update_port ((h k).congr ?_)
    rw [testPending]
    split_ifs <;> rfl
  | take k reader =>
    rw [intrStep]
    dsimp only
    split_ifs with hwoken
    · exact h
    · obtain ⟨node, hfirst, hentry⟩ := he (Bool.eq_true_of_not_eq_false hwoken)
      exact h.update ((h k).take k reader hfirst hentry)
  | register k entries => exact h.update_port ((h k).congr rfl)
  | unregister k hwOk =>
    rw [intrStep]
    dsimp only
    cases hwOk with
    | false => exact h.update_port (h k)
    | true => exact h.update (h k).unregister

theorem not_allServed_step (h : AllServed (s, ls)) {e : IntrEvent} (he : ¬ Prompt s e) :
    ¬ AllServed (intrStep (s, ls) e) := by
  cases e with
  | take k reader =>
    obtain ⟨hwoken, hno⟩ := Classical.not_imp.1 he
    intro hserved
    have hstep := (hserved k).answered (departure reader (s k) (takePending k reader (s k)).1) (by
      rw [intrStep]
      dsimp only
      rw [if_neg (by rw [hwoken]; decide)]
      dsimp only
      rw [Function.update_self]
      exact List.mem_append_right _ (List.mem_singleton.2 rfl))
    exact not_good_of_not_prompt (h k).linked k reader hno hstep
  | interrupt gpio state triggerType => exact absurd trivial he
  | test k reader => exact absurd trivial he
  | register k entries => exact absurd trivial he
  | unregister k hwOk => exact absurd trivial he

theorem allServed_start (entries : IntrKind → List IntrEntry) :
    AllServed (IntrDriver.start entries, IntrLedger.start) := fun _ =>
  ⟨LinkedQueue.holds_empty, rfl, List.Pairwise.nil, fun _ hd => absurd hd List.not_mem_nil⟩

/-- **The interrupts are served in every state of a run exactly when all its wait calls are prompt.** -/
theorem served_iff (entries : IntrKind → List IntrEntry) (events : List IntrEvent) :
    Always intrStep AllServed (IntrDriver.start entries, IntrLedger.start) events ↔
      AllSteps intrStep (fun sl e => Prompt sl.1 e) (IntrDriver.start entries, IntrLedger.start) events := by
  refine always_iff_of_inv (fun _ h => h) ?_ ?_ (allServed_start entries) events
  · rintro ⟨s, ls⟩ e h he
    exact allServed_step h he
  · rintro ⟨s, ls⟩ e h he
    exact not_allServed_step h he

/-- An entry for rising edges of a pin. -/
def edgeEntry (gpio : UInt16) : IntrEntry :=
  { gpioNumber := gpio, sensorNumber := 1, triggerMethod := .gpioEdge, triggerType := .risingEdge,
    readingOnAssertion := 0 }

/-- **Two readers are woken by one chassis interrupt.** The second of them reads through a null pointer. -/
theorem not_served_two_readers :
    ¬ Always intrStep AllServed
      (IntrDriver.start fun k => if k = .chassis then [edgeEntry 5] else [], IntrLedger.start)
      [.interrupt 5 1 0, .test .chassis 1, .test .chassis 2, .take .chassis 1, .take .chassis 2] := by
  intro h
  exact (h.foldl .chassis).answered (.missed 2 .nullPointer) (by decide)

end BmcGpio
