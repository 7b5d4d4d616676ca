import Bmc.Asd.Common

/-!
# The handles of the pins

`target_initialize` and `target_deinitialize` of `target_handler.c`, with the chips, the lines, the exports and the file
descriptors that `initialize_gpios` acquires for the pins, built without `SPX_BMC` and with `GPIO_SYSFS_SUPPORT_DEPRECATED`, so
that there are pins of both kinds. Every call may fail.

* `HandleOp`, `Balanced`: what is done with the handles, and when it is balanced;
* `initializeGpio`, `initializeGpiod`, `initializeGpios`, `deinitializeGpios`, `targetPins`: the functions;
* `Reached`, `pinOps_session`: what is done with the handles of one pin;
* **`balanced_iff`**: the exact condition;
* `not_balanced_lookup`: the lookup of the first line fails.
-/

namespace BmcAsd

/-! ## Handles -/

/-- What a pin may hold: its chip, its line, which is held while it is requested, the export of its number, and its file
descriptor. `unset` is the number -1, which no pin holds. -/
inductive HandleKind
  | chip
  | line
  | gpio
  | fd
  | unset
  deriving DecidableEq, Repr

/-- A handle is acquired or released, or a direction is changed through it. -/
inductive HandleVerb
  | acquire
  | release
  | direct
  deriving DecidableEq, Repr

/-- What is done with a handle. -/
structure HandleOp where
  verb : HandleVerb
  kind : HandleKind
  deriving DecidableEq, Repr

/-- Is the handle held? `none` is a handle that has been misused. -/
def HandleOp.track (kind : HandleKind) (held : Option Bool) (op : HandleOp) : Option Bool :=
  if op.kind = kind then
    match op.verb, held with
    | .acquire, some false => some true
    | .release, some true => some false
    | .direct, some true => some true
    | _, _ => none
  else held

/-- A handle of a pin is released once for each time that it is acquired, and is used only in between. -/
def BalancedAt (ops : List HandleOp) (kind : HandleKind) : Prop := ops.foldl (HandleOp.track kind) (some false) = some false

instance (ops : List HandleOp) (kind : HandleKind) : Decidable (BalancedAt ops kind) := inferInstanceAs (Decidable (_ = _))

/-- What is done with the handles of a pin. -/
def pinOps (session : List (ℕ × HandleOp)) (i : ℕ) : List HandleOp := (session.filter fun op => op.1 = i).map Prod.snd

/-- **The handles of all the pins are balanced.** -/
def Balanced (session : List (ℕ × HandleOp)) : Prop := ∀ i kind, BalancedAt (pinOps session i) kind

/-! ## Pins -/

/-- `Pin_Type` -/
inductive PinType
  | pinNone
  | pinGpio
  | pinDbus
  | pinGpiod
  deriving DecidableEq, Repr

/-- `GPIO_DIRECTION` -/
inductive GpioDirection
  | directionIn
  | directionOut
  | directionHigh
  | directionLow
  deriving DecidableEq, Repr

/-- `GPIO_EDGE` -/
inductive GpioEdge
  | edgeNone
  | edgeRising
  | edgeFalling
  | edgeBoth
  deriving DecidableEq, Repr

/-- What is configured of a pin. -/
structure PinConfig where
  type : PinType
  direction : GpioDirection
  edge : GpioEdge
  deriving DecidableEq, Repr

/-- Which of the calls for a pin succeed: for the pins of the file system `find_gpio`, the two attempts to open the value, and the
export in between, and then the settings and the first reading; for the others the lookup of the line, the chip, the line, its
request, and its file descriptor. -/
structure PinAnswers where
  findGpio : Bool
  openValue : Bool
  openExport : Bool
  writeExport : Bool
  reopenValue : Bool
  setActiveLow : Bool
  setDirection : Bool
  setEdge : Bool
  getValue : Bool
  findLine : Bool
  openChip : Bool
  getLine : Bool
  requestLine : Bool
  eventGetFd : Bool
  deriving DecidableEq, Repr

/-- The result of a function for a pin, whether `number` and `fd` have been set, and what it did with the handles. -/
structure PinRun where
  result : Bool
  numbered : Bool
  opened : Bool
  ops : List HandleOp
  deriving DecidableEq, Repr

/-- `gpio_export` -/
def gpioExport (a : PinAnswers) : PinRun :=
  if a.openValue then ⟨true, false, true, [⟨.acquire, .fd⟩]⟩
  else if ¬ a.openExport then ⟨false, false, false, []⟩
  else if ¬ a.writeExport then ⟨false, false, false, []⟩
  else if a.reopenValue then ⟨true, false, true, [⟨.acquire, .gpio⟩, ⟨.acquire, .fd⟩]⟩
  else ⟨false, false, false, [⟨.acquire, .gpio⟩]⟩

/-- `initialize_gpio`, and the first reading. The number is set at the end of `initialize_gpio`. -/
def initializeGpio (a : PinAnswers) : PinRun :=
  if ¬ a.findGpio then ⟨false, false, false, []⟩
  else
    let r := gpioExport a
    if ¬ r.result then r
    else if ¬ a.setActiveLow then { r with result := false }
    else
      let r : PinRun := { r with ops := r.ops ++ [⟨.direct, .gpio⟩] }
      if ¬ a.setDirection then { r with result := false }
      else if ¬ a.setEdge then { r with result := false }
      else { r with result := a.getValue, numbered := true }

/-- A file descriptor is asked for. -/
def PinConfig.wantsFd (c : PinConfig) : Bool := c.direction = .directionIn ∧ c.edge ≠ .edgeNone

/-- `initialize_gpiod`. The file descriptor belongs to the line. -/
def initializeGpiod (c : PinConfig) (a : PinAnswers) : PinRun :=
  if ¬ a.findLine then ⟨false, false, false, []⟩
  else if ¬ a.openChip then ⟨false, false, false, []⟩
  else if ¬ a.getLine then ⟨false, false, false, [⟨.acquire, .chip⟩, ⟨.release, .chip⟩]⟩
  else if ¬ a.requestLine then ⟨false, false, false, [⟨.acquire, .chip⟩, ⟨.release, .chip⟩]⟩
  else if c.wantsFd ∧ ¬ a.eventGetFd then ⟨false, false, false, [⟨.acquire, .chip⟩, ⟨.acquire, .line⟩]⟩
  else ⟨true, true, c.wantsFd, [⟨.acquire, .chip⟩, ⟨.acquire, .line⟩]⟩

/-- A pin in `initialize_gpios`. -/
def initializePin (c : PinConfig) (a : PinAnswers) : PinRun :=
  match c.type with
  | .pinGpio => initializeGpio a
  | .pinGpiod => initializeGpiod c a
  | .pinNone | .pinDbus => ⟨true, false, false, []⟩

/-- A pin in `deinitialize_gpios`. A line is released, and requested as an input, while its chip is open. -/
def deinitializePin (c : PinConfig) (numbered : Bool) : List HandleOp :=
  match c.type with
  | .pinGpio => if numbered then [⟨.direct, .gpio⟩, ⟨.release, .gpio⟩] else [⟨.direct, .unset⟩, ⟨.release, .unset⟩]
  | .pinGpiod => [⟨.release, .line⟩, ⟨.direct, .chip⟩, ⟨.release, .chip⟩]
  | .pinNone | .pinDbus => []

/-! ## The functions -/

/-- `NUM_GPIOS`, without `SPX_BMC` -/
abbrev pinGpios : ℕ := 10

/-- `BMC_DEBUG_EN_N` and `BMC_XDP_PRST_IN` -/
abbrev bmcDebugEnN : ℕ := 8
abbrev bmcXdpPrstIn : ℕ := 9

/-- The pins, the calls for them, the level of the XDP pin, if it can be read, and whether debug enable can be written and D-Bus
connects. -/
structure TargetPins where
  config : ℕ → PinConfig
  answers : ℕ → PinAnswers
  xdp : Option Bool
  writeDebugEn : Bool
  dbus : Bool

/-- The loop of `initialize_gpios`, which is left at the first failure. -/
structure GpioLoop where
  result : Bool
  numbered : ℕ → Bool
  opened : ℕ → Bool
  ops : List (ℕ × HandleOp)

section Target

variable (t : TargetPins)

/-- What the initialisation of a pin does. -/
def TargetPins.run (i : ℕ) : PinRun := initializePin (t.config i) (t.answers i)

/-- A round of the loop. -/
def TargetPins.round (l : GpioLoop) (i : ℕ) : GpioLoop :=
  if l.result then
    { result := (t.run i).result
      numbered := Function.update l.numbered i (t.run i).numbered
      opened := Function.update l.opened i (t.run i).opened
      ops := l.ops ++ (t.run i).ops.map (Prod.mk i) }
  else l

/-- `initialize_gpios`, for the first `n` pins. -/
def TargetPins.initializeGpios (n : ℕ) : GpioLoop :=
  (List.range n).foldl t.round ⟨true, fun _ => false, fun _ => false, []⟩

/-- `deinitialize_gpios` -/
def TargetPins.deinitializeGpios (l : GpioLoop) : List (ℕ × HandleOp) :=
  (List.range pinGpios).flatMap fun i => (deinitializePin (t.config i) (l.numbered i)).map (Prod.mk i)

/-- The file descriptors that `target_deinitialize` closes. -/
def TargetPins.closeFds (l : GpioLoop) : List (ℕ × HandleOp) :=
  (List.range pinGpios).flatMap fun i =>
    (if (t.config i).type = .pinGpio ∧ l.opened i then [⟨.release, .fd⟩] else []).map (Prod.mk i)

/-- `read_pin_value` and `write_pin_value` do something. -/
def TargetPins.hasValue (i : ℕ) : Bool := (t.config i).type = .pinGpio ∨ (t.config i).type = .pinGpiod

/-- The result of `target_initialize`. -/
def TargetPins.initialized (xdpFailEnable : Bool) : Bool :=
  (t.initializeGpios pinGpios).result &&
    (!t.hasValue bmcXdpPrstIn || (match t.xdp with | none => false | some value => !(value && xdpFailEnable))) &&
    (!t.hasValue bmcDebugEnN || t.writeDebugEn) && t.dbus

/-- `target_initialize`, followed by `target_deinitialize` when it succeeds. -/
def TargetPins.session (xdpFailEnable : Bool) : List (ℕ × HandleOp) :=
  let l := t.initializeGpios pinGpios
  if t.initialized xdpFailEnable then l.ops ++ t.closeFds l ++ t.deinitializeGpios l else l.ops ++ t.deinitializeGpios l

/-! ## What is expected -/

/-- The line is requested from its chip. -/
def PinAnswers.Acquired (a : PinAnswers) : Prop := a.findLine = true ∧ a.openChip = true ∧ a.getLine = true ∧ a.requestLine = true

/-- At a failure every pin of a chip has its line, of which only the last one may be without its file descriptor, and there is no
pin of the file system. -/
structure FailsBalanced : Prop where
  noGpio : ∀ i < pinGpios, (t.config i).type ≠ .pinGpio
  acquired : ∀ i < pinGpios, (t.config i).type = .pinGpiod → (t.answers i).Acquired
  files : ∀ i j, i < j → j < pinGpios → (t.config i).type = .pinGpiod → (t.config j).type = .pinGpiod →
    (t.config i).wantsFd = true → (t.answers i).eventGetFd = true

/-- **The condition**: no pin of the file system was exported before, when the initialisation succeeds, or the failure is
balanced. -/
def BalancedWhen (xdpFailEnable : Bool) : Prop :=
  if t.initialized xdpFailEnable then ∀ i < pinGpios, (t.config i).type = .pinGpio → (t.answers i).openValue = false
  else FailsBalanced t

end Target

/-! ## The handles of one pin -/

section Pin

variable {t : TargetPins} {i n : ℕ} {f : ℕ → List HandleOp}

theorem pinOps_append (s s' : List (ℕ × HandleOp)) : pinOps (s ++ s') i = pinOps s i ++ pinOps s' i := by
  rw [pinOps, List.filter_append, List.map_append]
  rfl

theorem pinOps_tag (ops : List HandleOp) (j : ℕ) : pinOps (ops.map (Prod.mk j)) i = if j = i then ops else [] := by
  rw [pinOps]
  split_ifs with h
  · rw [List.filter_eq_self.2 fun op hop => ?_, List.map_map]
    · exact List.map_id ops
    · obtain ⟨_, -, rfl⟩ := List.mem_map.1 hop
      exact decide_eq_true h
  · rw [List.filter_eq_nil_iff.2 fun op hop => ?_, List.map_nil]
    obtain ⟨_, -, rfl⟩ := List.mem_map.1 hop
    exact fun hc => h (of_decide_eq_true hc)

/-- What a loop over all pins does with the handles of one of them. -/
theorem pinOps_flatMap : pinOps ((List.range n).flatMap fun j => (f j).map (Prod.mk j)) i = if i < n then f i else [] := by
  induction n with
  | zero => rfl
  | succ n ih =>
    rw [List.range_succ, List.flatMap_append, pinOps_append, ih, List.flatMap_singleton, pinOps_tag]
    rcases Nat.lt_trichotomy i n with h | rfl | h
    · rw [if_pos h, if_neg h.ne', if_pos (h.trans n.lt_succ_self), List.append_nil]
    · rw [if_neg (lt_irrefl i), if_pos rfl, if_pos i.lt_succ_self, List.nil_append]
    · rw [if_neg h.not_gt, if_neg h.ne, if_neg (by omega)]
      rfl

/-- The loop comes to the pin. -/
def Reached (t : TargetPins) (n i : ℕ) : Prop := i < n ∧ ∀ j < i, (t.run j).result = true

/-- What the loop has come to after `n` pins. -/
structure LoopSpec (t : TargetPins) (n : ℕ) (l : GpioLoop) : Prop where
  result : l.result = true ↔ ∀ j < n, (t.run j).result = true
  reached : ∀ i, Reached t n i →
    l.numbered i = (t.run i).numbered ∧ l.opened i = (t.run i).opened ∧ pinOps l.ops i = (t.run i).ops
  others : ∀ i, ¬ Reached t n i → l.numbered i = false ∧ pinOps l.ops i = []

theorem loopSpec (t : TargetPins) (n : ℕ) : LoopSpec t n (t.initializeGpios n) := by
  induction n with
  | zero => exact ⟨iff_of_true rfl nofun, fun i h => absurd h.1 (Nat.not_lt_zero i), fun i _ => ⟨rfl, rfl⟩⟩
  | succ n ih =>
    have hsucc : t.initializeGpios (n + 1) = t.round (t.initializeGpios n) n := by
      rw [TargetPins.initializeGpios, List.range_succ, List.foldl_append]
      rfl
    rw [hsucc, TargetPins.round]
    split_ifs with hresult
    · have hall := ih.result.1 hresult
      have hn : Reached t (n + 1) n := ⟨n.lt_succ_self, hall⟩
      have hother : ∀ i, i ≠ n → (Reached t (n + 1) i ↔ Reached t n i) := fun i hi =>
        and_congr_left fun _ => ⟨fun h => by omega, fun h => by omega⟩
      have hfresh : pinOps (t.initializeGpios n).ops n = [] := (ih.others n fun h => absurd h.1 (lt_irrefl n)).2
      constructor
      · dsimp only
        rw [Nat.forall_lt_succ_right]
        exact (and_iff_right hall).symm
      · intro i hi
        dsimp only
        rw [pinOps_append, pinOps_tag]
        by_cases hin : i = n
        · subst hin
          rw [Function.update_self, Function.update_self, hfresh, if_pos rfl]
          exact ⟨rfl, rfl, rfl⟩
        · rw [Function.update_of_ne hin, Function.update_of_ne hin, if_neg (Ne.symm hin), List.append_nil]
          exact ih.reached i ((hother i hin).1 hi)
      · intro i hi
        have hin : i ≠ n := fun h => hi (h ▸ hn)
        dsimp only
        rw [pinOps_append, pinOps_tag, Function.update_of_ne hin, if_neg (Ne.symm hin), List.append_nil]
        exact ih.others i fun h => hi ((hother i hin).2 h)
    · have hsame : ∀ i, Reached t (n + 1) i ↔ Reached t n i := by
        intro i
        refine ⟨fun h => ⟨?_, h.2⟩, fun h => ⟨h.1.trans n.lt_succ_self, h.2⟩⟩
        rcases Nat.lt_succ_iff_lt_or_eq.1 h.1 with hi | rfl
        · exact hi
        · exact absurd (ih.result.2 h.2) hresult
      constructor
      · rw [Nat.forall_lt_succ_right, ih.result]
        exact (and_iff_left_of_imp fun hall => absurd (ih.result.2 hall) hresult).symm
      · exact fun i hi => ih.reached i ((hsame i).1 hi)
      · exact fun i hi => ih.others i fun h => hi ((hsame i).2 h)

end Pin

/-! ## A pin of the file system -/

section Gpio

variable {a : PinAnswers} {numbered : Bool}

/-- What `gpio_export` acquires when it succeeds. -/
def exported (a : PinAnswers) : List HandleOp := (if a.openValue then [] else [⟨.acquire, .gpio⟩]) ++ [⟨.acquire, .fd⟩]

/-- What `gpio_export` does. -/
theorem gpioExport_cases (a : PinAnswers) :
    gpioExport a = ⟨true, false, true, exported a⟩ ∨ gpioExport a = ⟨false, false, false, []⟩ ∨
      gpioExport a = ⟨false, false, false, [⟨.acquire, .gpio⟩]⟩ := by
  cases hvalue : a.openValue with
  | true => exact .inl (by simp [gpioExport, exported, hvalue])
  | false =>
    cases hopen : a.openExport with
    | false => exact .inr (.inl (by simp [gpioExport, hvalue, hopen]))
    | true =>
      cases hwrite : a.writeExport with
      | false => exact .inr (.inl (by simp [gpioExport, hvalue, hopen, hwrite]))
      | true =>
        cases hreopen : a.reopenValue with
        | false => exact .inr (.inr (by simp [gpioExport, hvalue, hopen, hwrite, hreopen]))
        | true => exact .inl (by simp [gpioExport, exported, hvalue, hopen, hwrite, hreopen])

/-- A pin that has no file descriptor: no number has been set. -/
structure NotOpened (r : PinRun) : Prop where
  opened : r.opened = false
  numbered : r.numbered = false
  result : r.result = false
  ops : r.ops = [] ∨ r.ops = [⟨.acquire, .gpio⟩]

/-- A pin that has a file descriptor. -/
structure Opened (a : PinAnswers) (r : PinRun) : Prop where
  opened : r.opened = true
  numbered : r.result = true → r.numbered = true
  ops : r.ops = exported a ∧ r.result = false ∨ r.ops = exported a ++ [⟨.direct, .gpio⟩]

/-- What the initialisation does. -/
theorem initializeGpio_cases (a : PinAnswers) : NotOpened (initializeGpio a) ∨ Opened a (initializeGpio a) := by
  rw [initializeGpio]
  by_cases hfind : a.findGpio = true
  · rw [if_neg (not_not.2 hfind)]
    rcases gpioExport_cases a with h | h | h
    · refine .inr ?_
      rw [h]
      dsimp only
      rw [if_neg (by decide)]
      by_cases hlow : a.setActiveLow = true
      · rw [if_neg (not_not.2 hlow)]
        by_cases hdirection : a.setDirection = true
        · rw [if_neg (not_not.2 hdirection)]
          by_cases hedge : a.setEdge = true
          · rw [if_neg (not_not.2 hedge)]
            exact ⟨rfl, fun _ => rfl, .inr rfl⟩
          · rw [if_pos hedge]
            exact ⟨rfl, nofun, .inr rfl⟩
        · rw [if_pos hdirection]
          exact ⟨rfl, nofun, .inr rfl⟩
      · rw [if_pos hlow]
        exact ⟨rfl, nofun, .inl ⟨rfl, rfl⟩⟩
    · rw [h]
      exact .inl ⟨rfl, rfl, rfl, .inl rfl⟩
    · rw [h]
      exact .inl ⟨rfl, rfl, rfl, .inr rfl⟩
  · rw [if_pos hfind]
    exact .inl ⟨rfl, rfl, rfl, .inl rfl⟩

/-- A pin that has been initialised is balanced, with its file descriptor closed, when it was not exported before. -/
theorem gpio_ok_iff (h : (initializeGpio a).result = true) :
    (∀ kind, BalancedAt ((initializeGpio a).ops ++ [⟨.release, .fd⟩] ++
      (if (initializeGpio a).numbered then [⟨.direct, .gpio⟩, ⟨.release, .gpio⟩]
        else [⟨.direct, .unset⟩, ⟨.release, .unset⟩])) kind) ↔ a.openValue = false := by
  rcases initializeGpio_cases a with hno | ⟨-, hnumbered, ⟨-, hfails⟩ | hops⟩
  · rw [hno.result] at h
    cases h
  · rw [hfails] at h
    cases h
  · rw [hops, hnumbered h, if_pos rfl, exported]
    cases a.openValue with
    | true => exact iff_of_false (fun h => absurd (h .gpio) (by decide)) (by decide)
    | false => exact iff_of_true (fun kind => by cases kind <;> decide) rfl

/-- The initialisation does nothing with the number -1, and a file descriptor that it opens stays open. -/
theorem gpio_tracked (a : PinAnswers) : (initializeGpio a).ops.foldl (HandleOp.track .unset) (some false) = some false ∧
    ((initializeGpio a).opened = true → (initializeGpio a).ops.foldl (HandleOp.track .fd) (some false) = some true) := by
  rcases initializeGpio_cases a with ⟨hopened, -, -, hops | hops⟩ | ⟨-, -, ⟨hops, -⟩ | hops⟩
  · rw [hops, hopened]
    exact ⟨rfl, nofun⟩
  · rw [hops, hopened]
    exact ⟨by decide, nofun⟩
  · rw [hops, exported]
    cases a.openValue <;> exact ⟨by decide, fun _ => by decide⟩
  · rw [hops, exported]
    cases a.openValue <;> exact ⟨by decide, fun _ => by decide⟩

/-- A pin of the file system is not balanced after a failure: its file descriptor stays open, or it has no number. -/
theorem gpio_fails (ops : List HandleOp) (numbered : Bool) (h : ops = [] ∧ numbered = false ∨
      ops = (initializeGpio a).ops ∧ numbered = (initializeGpio a).numbered) :
    ∃ kind, ¬ BalancedAt (ops ++ if numbered then [⟨.direct, .gpio⟩, ⟨.release, .gpio⟩]
      else [⟨.direct, .unset⟩, ⟨.release, .unset⟩]) kind := by
  rcases h with ⟨rfl, rfl⟩ | ⟨rfl, rfl⟩
  · exact ⟨.unset, by decide⟩
  · obtain ⟨hunset, hfd⟩ := gpio_tracked a
    cases hopened : (initializeGpio a).opened with
    | true =>
      refine ⟨.fd, fun h => ?_⟩
      rw [BalancedAt, List.foldl_append, hfd hopened] at h
      split_ifs at h
      · exact absurd h (by decide)
      · exact absurd h (by decide)
    | false =>
      have hnumbered : (initializeGpio a).numbered = false := by
        rcases initializeGpio_cases a with hno | hyes
        · exact hno.numbered
        · rw [hyes.opened] at hopened
          cases hopened
      refine ⟨.unset, fun h => ?_⟩
      rw [BalancedAt, List.foldl_append, hunset, hnumbered] at h
      exact absurd h (by decide)

end Gpio

/-! ## A pin of a chip -/

section Gpiod

variable {c : PinConfig} {a : PinAnswers}

/-- What the initialisation does: the line is requested, or it is not, and the function fails. -/
theorem initializeGpiod_cases (c : PinConfig) (a : PinAnswers) :
    (a.Acquired ∧ (initializeGpiod c a).ops = [⟨.acquire, .chip⟩, ⟨.acquire, .line⟩] ∧
        ((initializeGpiod c a).result = true ↔ (c.wantsFd = true → a.eventGetFd = true))) ∨
      (¬ a.Acquired ∧ (initializeGpiod c a).result = false ∧
        ((initializeGpiod c a).ops = [] ∨ (initializeGpiod c a).ops = [⟨.acquire, .chip⟩, ⟨.release, .chip⟩])) := by
  rw [initializeGpiod, PinAnswers.Acquired]
  cases hfind : a.findLine with
  | false => exact .inr ⟨by simp, rfl, .inl rfl⟩
  | true =>
    cases hopen : a.openChip with
    | false => exact .inr ⟨by simp, rfl, .inl rfl⟩
    | true =>
      cases hline : a.getLine with
      | false => exact .inr ⟨by simp, rfl, .inr rfl⟩
      | true =>
        cases hrequest : a.requestLine with
        | false => exact .inr ⟨by simp, rfl, .inr rfl⟩
        | true =>
          refine .inl ⟨⟨rfl, rfl, rfl, rfl⟩, ?_⟩
          cases c.wantsFd <;> cases a.eventGetFd <;> simp

/-- A line that has been requested is balanced. -/
theorem gpiod_balanced (kind : HandleKind) :
    BalancedAt ([⟨.acquire, .chip⟩, ⟨.acquire, .line⟩] ++ [⟨.release, .line⟩, ⟨.direct, .chip⟩, ⟨.release, .chip⟩]) kind := by
  cases kind <;> decide

/-- A line that has not been requested is released all the same. -/
theorem gpiod_unbalanced {ops : List HandleOp} (h : ops = [] ∨ ops = [⟨.acquire, .chip⟩, ⟨.release, .chip⟩]) :
    ¬ BalancedAt (ops ++ [⟨.release, .line⟩, ⟨.direct, .chip⟩, ⟨.release, .chip⟩]) .line := by
  rcases h with rfl | rfl <;> decide

end Gpiod

/-! ## Balance -/

section Balance

variable {t : TargetPins} {xdpFailEnable : Bool} {i : ℕ}

/-- All that is done with the handles of a pin, after a success. -/
def PinRun.whole (c : PinConfig) (r : PinRun) : List HandleOp :=
  r.ops ++ (if c.type = .pinGpio ∧ r.opened then [⟨.release, .fd⟩] else []) ++ deinitializePin c r.numbered

theorem result_of_initialized (h : t.initialized xdpFailEnable = true) : ∀ j < pinGpios, (t.run j).result = true := by
  rw [TargetPins.initialized, Bool.and_eq_true, Bool.and_eq_true, Bool.and_eq_true] at h
  exact (loopSpec t pinGpios).result.1 h.1.1.1

/-- The handles of a pin, after a success. -/
theorem pinOps_of_initialized (h : t.initialized xdpFailEnable = true) (hi : i < pinGpios) :
    pinOps (t.session xdpFailEnable) i = (t.run i).whole (t.config i) := by
  have hreached : Reached t pinGpios i := ⟨hi, fun j hj => result_of_initialized h j (hj.trans hi)⟩
  obtain ⟨hnumbered, hopened, hops⟩ := (loopSpec t pinGpios).reached i hreached
  rw [TargetPins.session, if_pos h, pinOps_append, pinOps_append, hops, TargetPins.closeFds, TargetPins.deinitializeGpios,
    pinOps_flatMap, pinOps_flatMap, if_pos hi, if_pos hi, hnumbered, hopened]
  rfl

/-- The handles of a pin, after a failure. -/
theorem pinOps_of_fails (h : t.initialized xdpFailEnable = false) (hi : i < pinGpios) :
    (Reached t pinGpios i → pinOps (t.session xdpFailEnable) i =
      (t.run i).ops ++ deinitializePin (t.config i) (t.run i).numbered) ∧
    (¬ Reached t pinGpios i → pinOps (t.session xdpFailEnable) i = deinitializePin (t.config i) false) := by
  have hsession : pinOps (t.session xdpFailEnable) i = pinOps (t.initializeGpios pinGpios).ops i ++
      deinitializePin (t.config i) ((t.initializeGpios pinGpios).numbered i) := by
    rw [TargetPins.session, if_neg (by rw [h]; exact Bool.false_ne_true), pinOps_append, TargetPins.deinitializeGpios,
      pinOps_flatMap, if_pos hi]
  constructor
  · intro hreached
    obtain ⟨hnumbered, -, hops⟩ := (loopSpec t pinGpios).reached i hreached
    rw [hsession, hnumbered, hops]
  · intro hreached
    obtain ⟨hnumbered, hops⟩ := (loopSpec t pinGpios).others i hreached
    rw [hsession, hnumbered, hops, List.nil_append]

/-- Nothing is done with other pins. -/
theorem pinOps_of_le (hi : pinGpios ≤ i) : pinOps (t.session xdpFailEnable) i = [] := by
  have hops := ((loopSpec t pinGpios).others i fun h => absurd h.1 (not_lt.2 hi)).2
  have hnone : ∀ f : ℕ → List HandleOp, pinOps ((List.range pinGpios).flatMap fun j => (f j).map (Prod.mk j)) i = [] := by
    intro f
    rw [pinOps_flatMap, if_neg (not_lt.2 hi)]
  rw [TargetPins.session]
  split_ifs
  · rw [pinOps_append, pinOps_append, hops, TargetPins.closeFds, TargetPins.deinitializeGpios, hnone, hnone]
    rfl
  · rw [pinOps_append, hops, TargetPins.deinitializeGpios, hnone]
    rfl

/-- The balance is that of each pin. -/
theorem balanced_iff_pins : Balanced (t.session xdpFailEnable) ↔
    ∀ i < pinGpios, ∀ kind, BalancedAt (pinOps (t.session xdpFailEnable) i) kind := by
  refine ⟨fun h i _ => h i, fun h i => ?_⟩
  rcases Nat.lt_or_ge i pinGpios with hi | hi
  · exact h i hi
  · rw [pinOps_of_le hi]
    exact fun _ => rfl

/-- A pin that has been initialised, and deinitialised. -/
theorem whole_balanced_iff (c : PinConfig) (a : PinAnswers) (h : (initializePin c a).result = true) :
    (∀ kind, BalancedAt ((initializePin c a).whole c) kind) ↔ (c.type = .pinGpio → a.openValue = false) := by
  rw [PinRun.whole, deinitializePin]
  rw [initializePin] at h ⊢
  cases hc : c.type with
  | pinNone => exact iff_of_true (fun _ => rfl) nofun
  | pinDbus => exact iff_of_true (fun _ => rfl) nofun
  | pinGpiod =>
    rw [hc] at h
    dsimp only at h ⊢
    rw [if_neg (fun hgpio => by cases hgpio.1), List.append_nil]
    refine iff_of_true (fun kind => ?_) nofun
    rcases initializeGpiod_cases c a with ⟨-, hops, -⟩ | ⟨-, hfails, -⟩
    · rw [hops]
      exact gpiod_balanced kind
    · rw [hfails] at h
      cases h
  | pinGpio =>
    rw [hc] at h
    dsimp only at h ⊢
    have hopened : (initializeGpio a).opened = true := by
      rcases initializeGpio_cases a with hno | hyes
      · rw [hno.result] at h
        cases h
      · exact hyes.opened
    rw [if_pos ⟨rfl, hopened⟩, gpio_ok_iff h]
    exact ⟨fun h _ => h, fun h => h rfl⟩

/-- A pin after a failure. -/
theorem fails_balanced_iff (h : t.initialized xdpFailEnable = false) (hi : i < pinGpios) :
    (∀ kind, BalancedAt (pinOps (t.session xdpFailEnable) i) kind) ↔
      (t.config i).type ≠ .pinGpio ∧
        ((t.config i).type = .pinGpiod → Reached t pinGpios i ∧ (t.answers i).Acquired) := by
  obtain ⟨hreached, hothers⟩ := pinOps_of_fails h hi
  rw [TargetPins.run, initializePin, deinitializePin] at hreached
  rw [deinitializePin] at hothers
  cases hc : (t.config i).type with
  | pinNone | pinDbus =>
    rw [hc] at hreached hothers
    refine iff_of_true (fun kind => ?_) ⟨nofun, nofun⟩
    by_cases hr : Reached t pinGpios i
    · rw [hreached hr]
      rfl
    · rw [hothers hr]
      rfl
  | pinGpio =>
    rw [hc] at hreached hothers
    refine iff_of_false (fun hall => ?_) fun hno => hno.1 rfl
    by_cases hr : Reached t pinGpios i
    · obtain ⟨kind, hkind⟩ := gpio_fails (initializeGpio (t.answers i)).ops _ (.inr ⟨rfl, rfl⟩)
      exact hkind (hreached hr ▸ hall kind)
    · obtain ⟨kind, hkind⟩ := gpio_fails (a := t.answers i) [] false (.inl ⟨rfl, rfl⟩)
      have hk := hall kind
      rw [hothers hr] at hk
      exact hkind hk
  | pinGpiod =>
    rw [hc] at hreached hothers
    by_cases hr : Reached t pinGpios i
    · rw [hreached hr]
      dsimp only
      rcases initializeGpiod_cases (t.config i) (t.answers i) with ⟨hacquired, hops, -⟩ | ⟨hacquired, -, hops⟩
      · rw [hops]
        exact iff_of_true gpiod_balanced ⟨nofun, fun _ => ⟨hr, hacquired⟩⟩
      · exact iff_of_false (fun hall => gpiod_unbalanced hops (hall .line)) fun hno => hacquired (hno.2 rfl).2
    · rw [hothers hr]
      exact iff_of_false (fun hall => gpiod_unbalanced (.inl rfl) (hall .line)) fun hno => hr (hno.2 rfl).1

/-- The lines are all requested exactly when the initialisation comes to them. -/
theorem reached_iff (hgpio : ∀ i < pinGpios, (t.config i).type ≠ .pinGpio)
    (hacquired : ∀ i < pinGpios, (t.config i).type = .pinGpiod → (t.answers i).Acquired) :
    (∀ i < pinGpios, (t.config i).type = .pinGpiod → Reached t pinGpios i) ↔
      ∀ i j, i < j → j < pinGpios → (t.config i).type = .pinGpiod → (t.config j).type = .pinGpiod →
        (t.config i).wantsFd = true → (t.answers i).eventGetFd = true := by
  have hresult : ∀ i < pinGpios, (t.config i).type = .pinGpiod →
      ((t.run i).result = true ↔ ((t.config i).wantsFd = true → (t.answers i).eventGetFd = true)) := by
    intro i hi htype
    rw [TargetPins.run, initializePin, htype]
    rcases initializeGpiod_cases (t.config i) (t.answers i) with ⟨-, -, h⟩ | ⟨hno, -⟩
    · exact h
    · exact absurd (hacquired i hi htype) hno
  constructor
  · intro h i j hij hj hi' hj'
    exact (hresult i (hij.trans hj) hi').1 ((h j hj hj').2 i hij)
  · intro h j hj hj'
    refine ⟨hj, fun i hij => ?_⟩
    cases htype : (t.config i).type with
    | pinGpio => exact absurd htype (hgpio i (hij.trans hj))
    | pinGpiod => exact (hresult i (hij.trans hj) htype).2 (h i j hij hj htype hj')
    | pinNone | pinDbus =>
      rw [TargetPins.run, initializePin, htype]

/-- **The handles are balanced** exactly when, after a success, no pin of the file system was exported before, and, after a
failure, every line has been requested, and there is no pin of the file system. -/
theorem balanced_iff (t : TargetPins) (xdpFailEnable : Bool) :
    Balanced (t.session xdpFailEnable) ↔ BalancedWhen t xdpFailEnable := by
  rw [balanced_iff_pins, BalancedWhen]
  by_cases h : t.initialized xdpFailEnable = true
  · rw [if_pos h]
    refine forall₂_congr fun i hi => ?_
    rw [pinOps_of_initialized h hi]
    exact whole_balanced_iff _ _ (result_of_initialized h i hi)
  · rw [if_neg h]
    have hfails := Bool.eq_false_of_not_eq_true h
    constructor
    · intro hall
      have hpin := fun i hi => (fails_balanced_iff hfails hi).1 (hall i hi)
      have hgpio := fun i hi => (hpin i hi).1
      have hacquired := fun i hi htype => ((hpin i hi).2 htype).2
      exact ⟨hgpio, hacquired, (reached_iff hgpio hacquired).1 fun i hi htype => ((hpin i hi).2 htype).1⟩
    · rintro ⟨hgpio, hacquired, hfiles⟩ i hi
      have hreached := (reached_iff hgpio hacquired).2 hfiles
      exact (fails_balanced_iff hfails hi).2 ⟨hgpio i hi, fun htype => ⟨hreached i hi htype, hacquired i hi htype⟩⟩

end Balance

/-! ## A line that is not there -/

/-- The pins of chips, of which the first one does not find its line. -/
def lineMissing : TargetPins where
  config _ := ⟨.pinGpiod, .directionIn, .edgeNone⟩
  answers i := ⟨true, true, true, true, true, true, true, true, true, i ≠ 0, true, true, true, true⟩
  xdp := some false
  writeDebugEn := true
  dbus := true

/-- **The line of a pin that was not found is released.** -/
theorem not_balanced_lookup : ¬ Balanced (lineMissing.session false) := by
  intro h
  exact absurd (h 0 .line) (by decide)

end BmcAsd
