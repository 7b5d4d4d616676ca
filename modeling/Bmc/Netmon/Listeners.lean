import Bmc.Lib.Run

/-!
# Waiting for interface changes

`netmonitor.c`: network events are counted, and listeners wait until the count is positive. The last listener that leaves
takes one event back.

* `Pc`, `Netmon`: how far each call has come, and the two counters;
* `Netmon.run`: the next atomic step of a listener; `netmonStep`: events, wake-ups and signals;
* `Ledger`, `ledgerStep`: which events a listener has returned for.
-/

namespace BmcNetmon

open BmcLib

/-- A process that listens. -/
abbrev Listener := ℕ

/-- How far a call of `NETMON_WAIT_FOR_INTERFACE_CHANGE` has come: what the listener does next. -/
inductive Pc
  | idle
  /-- `atomic_read(&net_event) > 0` -/
  | readEvent
  /-- `atomic_read(&listener_count) > 0` -/
  | readCount
  /-- `atomic_inc(&listener_count)` -/
  | join
  /-- the condition of the wait, for the first time -/
  | test
  | asleep (woken : Bool)
  /-- `atomic_read(&listener_count) > 0` -/
  | leave
  /-- `atomic_dec(&listener_count)` -/
  | drop
  /-- `atomic_read(&listener_count) == 0` -/
  | last
  /-- `atomic_dec(&net_event)` -/
  | consume
  deriving DecidableEq, Repr

/-- A listener that sleeps is woken. -/
def Pc.wake : Pc → Pc
  | .asleep _ => .asleep true
  | p => p

/-- The counters, the listeners, and the number of events whose wake-up is still to come. -/
structure Netmon where
  netEvent : ℤ
  listenerCount : ℤ
  pc : Listener → Pc
  wakes : ℕ

namespace Netmon

variable (s : Netmon)

/-- A listener goes on. -/
def goto (t : Listener) (p : Pc) : Netmon := { s with pc := Function.update s.pc t p }

/-- The next step of a listener. -/
def run (t : Listener) : Netmon :=
  match s.pc t with
  | .idle => s
  | .readEvent => s.goto t (if 0 < s.netEvent then .readCount else .join)
  -- the call returns `-EAGAIN` when there are listeners
  | .readCount => s.goto t (if 0 < s.listenerCount then .idle else .join)
  | .join => { s.goto t .test with listenerCount := s.listenerCount + 1 }
  | .test => s.goto t (if 0 < s.netEvent then .leave else .asleep false)
  | .asleep true => s.goto t (if 0 < s.netEvent then .leave else .asleep false)
  | .asleep false => s
  | .leave => s.goto t (if 0 < s.listenerCount then .drop else .last)
  | .drop => { s.goto t .last with listenerCount := s.listenerCount - 1 }
  | .last => s.goto t (if s.listenerCount = 0 then .consume else .idle)
  | .consume => { s.goto t .idle with netEvent := s.netEvent - 1 }

/-- `atomic_inc(&net_event)` in `netmon_netdev_event`. -/
def raise : Netmon := { s with netEvent := s.netEvent + 1, wakes := s.wakes + 1 }

/-- `wake_up_interruptible_all(&monitor_event)`, after an event. -/
def wakeUp : Netmon :=
  match s.wakes with
  | 0 => s
  | n + 1 => { s with pc := fun t => Pc.wake (s.pc t), wakes := n }

/-- The listener is asleep. -/
def Asleep (t : Listener) : Prop := s.pc t = .asleep false ∨ s.pc t = .asleep true

instance (t : Listener) : Decidable (s.Asleep t) := inferInstanceAs (Decidable (_ ∨ _))

/-- A signal ends the wait. What the wait returns is not looked at. -/
def signal (t : Listener) : Netmon := if s.Asleep t then s.goto t .leave else s

/-- A call begins. -/
def call (t : Listener) : Netmon := if s.pc t = .idle then s.goto t .readEvent else s

end Netmon

/-- What happens: a call begins, a listener takes its next step, an event occurs, its wake-up follows, a signal comes. -/
inductive NetmonEvent
  | call (t : Listener)
  | run (t : Listener)
  | raise
  | wakeUp
  | signal (t : Listener)
  deriving DecidableEq, Repr

/-- One step. -/
def netmonStep (s : Netmon) : NetmonEvent → Netmon
  | .call t => s.call t
  | .run t => s.run t
  | .raise => s.raise
  | .wakeUp => s.wakeUp
  | .signal t => s.signal t

/-- The driver when it has been loaded. -/
def Netmon.start : Netmon := ⟨0, 0, fun _ => .idle, 0⟩

/-! ## Which events the listeners have returned for -/

/-- The number of events, the number of them that had occurred when a listener returned the last time, the listeners that
have slept through an event and have not got up, and those that have returned without an event. -/
structure Ledger where
  events : ℕ
  known : Listener → Option ℕ
  owed : Listener → Bool
  invented : List Listener

namespace Ledger

variable (s : Netmon) (l : Ledger)

/-- The next step of the listener is its return with success. -/
def Returns (t : Listener) : Prop := s.pc t = .last ∧ s.listenerCount ≠ 0 ∨ s.pc t = .consume

instance (t : Listener) : Decidable (Returns s t) := inferInstanceAs (Decidable (_ ∨ _))

/-- The number of events that the listener knows of. -/
def knows (t : Listener) : ℕ := (l.known t).getD 0

/-- A listener that calls for the first time knows of the events that have been consumed. -/
def call (t : Listener) : Ledger :=
  if s.pc t = .idle then
    { l with known := Function.update l.known t (some ((l.known t).getD (l.events - s.netEvent.toNat))) }
  else l

/-- A listener that returns knows of all events. It has returned without one when it has known of all before. -/
def run (t : Listener) : Ledger :=
  if Returns s t then
    { l with
      known := Function.update l.known t (some l.events)
      invented := if l.knows t < l.events then l.invented else l.invented ++ [t] }
  else l

/-- An event occurs, and the listeners that sleep should get up for it. -/
def raise : Ledger :=
  { l with events := l.events + 1, owed := fun t => l.owed t || decide (s.Asleep t) }

/-- A listener that is not asleep has got up. -/
def rise : Ledger := { l with owed := fun t => l.owed t && decide (s.Asleep t) }

/-- No calls and no events yet. -/
def start : Ledger := ⟨0, fun _ => none, fun _ => false, []⟩

end Ledger

/-- The ledger is kept along a step. -/
def ledgerStep (s : Netmon) (l : Ledger) (e : NetmonEvent) : Ledger :=
  let l := match e with
    | .call t => l.call s t
    | .run t => l.run s t
    | .raise => l.raise s
    | .wakeUp | .signal _ => l
  l.rise (netmonStep s e)

/-- The driver and its ledger. -/
abbrev NetmonRun := Netmon × Ledger

/-- One step of both. -/
def netmonRun (r : NetmonRun) (e : NetmonEvent) : NetmonRun := (netmonStep r.1 e, ledgerStep r.1 r.2 e)

/-- Events are neither lost nor invented: the count is not negative, nobody has returned without an event, and a listener
that has slept through an event has been woken or will be, and then finds the count positive. -/
structure Faithful (r : NetmonRun) : Prop where
  nonneg : 0 ≤ r.1.netEvent
  real : r.2.invented = []
  heard : ∀ t, r.2.owed t = true → 0 < r.1.netEvent ∧ (r.1.pc t = .asleep true ∨ 0 < r.1.wakes)

end BmcNetmon
