import Bmc.Netmon.Listeners

/-!
# Waiting for link changes

`netmonitor.c`: a link event stores the device and its state in two shared words, sets one of two flags for the direction
and a third one for any change, and wakes the listeners. A listener takes its flag back and reads the words.

* `LinkPc`, `Handler`, `Links`: how far each call and the handler of events have come;
* `Links.run`, `Links.work`: the next atomic step of a listener and of the handler; `linkStep`: all steps;
* `LinkLedger`: which links have come up or gone down, and which event each word is from.
-/

namespace BmcNetmon

open BmcLib

/-- A `net_device`. -/
abbrev NetDev := ℕ

/-- `NETMON_WAIT_FOR_LINK_CHANGE`, `NETMON_WAIT_FOR_LINK_UP` and `NETMON_WAIT_FOR_LINK_DOWN`. -/
inductive LinkWait
  | change
  | up
  | down
  deriving DecidableEq, Repr

/-- The wait for a state of the link. -/
def LinkWait.ofState (linkstate : Bool) : LinkWait := if linkstate then .up else .down

/-- What a listener does next. -/
inductive LinkPc
  | idle
  /-- the condition of the wait, for the first time -/
  | test (k : LinkWait)
  | asleep (k : LinkWait) (woken : Bool)
  /-- `linkchange_wakeup = NETMON_SLEEP`, or that of the other flags -/
  | clear (k : LinkWait)
  /-- `linkinfo.linkstate = linkstate` -/
  | state
  /-- `linkdev != NULL` -/
  | check (linkstate : Bool)
  /-- `linkdev` is read -/
  | load (k : LinkWait) (linkstate : Option Bool)
  /-- the name of the device is copied -/
  | copy (k : LinkWait) (linkstate : Option Bool) (dev : NetDev)
  deriving DecidableEq, Repr

/-- A listener that sleeps is woken. -/
def LinkPc.wake : LinkPc → LinkPc
  | .asleep k _ => .asleep k true
  | p => p

/-- How far the handler of `NETDEV_CHANGE` has come, after `linkdev = dev`. -/
inductive Handler
  | idle
  /-- `linkstate = get_link(dev)` -/
  | state (link : Bool)
  /-- the flag for the direction -/
  | flag
  /-- `linkchange_wakeup = NETMON_WAKE_UP` -/
  | change
  /-- `wake_up_interruptible_all(&link_event)` -/
  | wake
  deriving DecidableEq, Repr

/-- What a wait copies to its caller. -/
structure LinkReport where
  listener : Listener
  wait : LinkWait
  ifname : Option NetDev
  linkstate : Option Bool
  deriving DecidableEq, Repr

/-- A `NETDEV_CHANGE` event: the device, whether it is in a bond and a slave there, and its link. -/
structure NetdevChange where
  dev : NetDev
  bonding : Bool
  slave : Bool
  link : Bool
  deriving DecidableEq, Repr

/-- The shared words, the handler, the listeners, the devices and what has been copied to the callers. -/
structure Links where
  linkdev : Option NetDev
  linkstate : Bool
  wakeup : LinkWait → Bool
  handler : Handler
  pc : Listener → LinkPc
  registered : NetDev → Bool
  reports : List LinkReport

namespace Links

variable (s : Links)

/-- A listener goes on. -/
def goto (t : Listener) (p : LinkPc) : Links := { s with pc := Function.update s.pc t p }

/-- A wait returns. -/
def answer (t : Listener) (k : LinkWait) (ifname : Option NetDev) (linkstate : Option Bool) : Links :=
  { s.goto t .idle with reports := s.reports ++ [⟨t, k, ifname, linkstate⟩] }

/-- The next step of a listener. -/
def run (t : Listener) : Links :=
  match s.pc t with
  | .idle => s
  | .test k => s.goto t (if s.wakeup k then .clear k else .asleep k false)
  | .asleep k true => s.goto t (if s.wakeup k then .clear k else .asleep k false)
  | .asleep _ false => s
  | .clear k =>
    { s.goto t (if k = .change then .state else .load k none) with wakeup := Function.update s.wakeup k false }
  | .state => s.goto t (.check s.linkstate)
  | .check linkstate =>
    if s.linkdev = none then s.answer t .change none (some linkstate) else s.goto t (.load .change (some linkstate))
  | .load k linkstate =>
    match s.linkdev with
    | none => s.answer t k none linkstate
    | some dev => s.goto t (.copy k linkstate dev)
  | .copy k linkstate dev => s.answer t k (some dev) linkstate

/-- The event is handled: no other one is, and slaves of a bond are left out. -/
def Begins (c : NetdevChange) : Prop :=
  s.handler = .idle ∧ s.registered c.dev = true ∧ (c.bonding && c.slave) = false

instance (c : NetdevChange) : Decidable (s.Begins c) := inferInstanceAs (Decidable (_ ∧ _ ∧ _))

/-- The handler begins with `linkdev = dev`. -/
def change (c : NetdevChange) : Links :=
  if s.Begins c then { s with linkdev := some c.dev, handler := .state c.link } else s

/-- The next step of the handler. -/
def work : Links :=
  match s.handler with
  | .idle => s
  | .state link => { s with linkstate := link, handler := .flag }
  | .flag => { s with wakeup := Function.update s.wakeup (.ofState s.linkstate) true, handler := .change }
  | .change => { s with wakeup := Function.update s.wakeup .change true, handler := .wake }
  | .wake => { s with pc := fun t => (s.pc t).wake, handler := .idle }

/-- A device is registered or unregistered while no event is handled. -/
def register (dev : NetDev) (b : Bool) : Links :=
  if s.handler = .idle then { s with registered := Function.update s.registered dev b } else s

/-- A signal ends the wait. What the wait returns is not looked at. -/
def signal (t : Listener) : Links :=
  match s.pc t with
  | .asleep k _ => s.goto t (.clear k)
  | _ => s

/-- A call begins. -/
def call (t : Listener) (k : LinkWait) : Links := if s.pc t = .idle then s.goto t (.test k) else s

/-- The driver when it has been loaded. -/
def start : Links := ⟨none, false, fun _ => false, .idle, fun _ => .idle, fun _ => false, []⟩

end Links

/-- What happens: a device is registered or unregistered, its link changes, the handler or a listener takes its next step,
a call begins, a signal comes. -/
inductive LinkEvent
  | register (dev : NetDev) (b : Bool)
  | change (c : NetdevChange)
  | work
  | call (t : Listener) (k : LinkWait)
  | run (t : Listener)
  | signal (t : Listener)
  deriving DecidableEq, Repr

/-- One step. -/
def linkStep (s : Links) : LinkEvent → Links
  | .register dev b => s.register dev b
  | .change c => s.change c
  | .work => s.work
  | .call t k => s.call t k
  | .run t => s.run t
  | .signal t => s.signal t

/-! ## What the reports are about -/

/-- The number of link events, the links that have come up or gone down since the last report of that, the events that the
two words are from and the one that each listener has read a state of. Then the listeners that have been told of a link
that had not changed so, of a name and a state that do not belong together, and those that have used a device that was gone. -/
structure LinkLedger where
  events : ℕ
  came : LinkWait → NetDev → Bool
  devFrom : ℕ
  stateFrom : ℕ
  took : Listener → ℕ
  misnamed : List Listener
  mispaired : List Listener
  dangling : List Listener

namespace LinkLedger

variable (s : Links) (l : LinkLedger)

/-- A link comes up or goes down. -/
def change (c : NetdevChange) : LinkLedger :=
  if s.Begins c then
    { l with
      events := l.events + 1
      devFrom := l.events + 1
      came := Function.update l.came (.ofState c.link) (Function.update (l.came (.ofState c.link)) c.dev true) }
  else l

/-- The state is from the event that the device is from, once the handler has stored it. -/
def work : LinkLedger :=
  match s.handler with
  | .state _ => { l with stateFrom := l.devFrom }
  | _ => l

/-- A name is reported. A report of a link that came up or went down is the last one of these. -/
def report (t : Listener) (k : LinkWait) (dev : NetDev) : LinkLedger :=
  { l with
    came := if k = .change then l.came else Function.update l.came k fun _ => false
    misnamed := if k = .change ∨ l.came k dev = true then l.misnamed else l.misnamed ++ [t]
    dangling := if s.registered dev then l.dangling else l.dangling ++ [t] }

/-- A step of a listener. -/
def run (t : Listener) : LinkLedger :=
  match s.pc t with
  | .state => { l with took := Function.update l.took t l.stateFrom }
  | .check _ => if s.linkdev = none then { l with mispaired := l.mispaired ++ [t] } else l
  | .load k _ =>
    if k = .change then if l.took t = l.devFrom then l else { l with mispaired := l.mispaired ++ [t] }
    else if s.linkdev = none then { l with misnamed := l.misnamed ++ [t] } else l
  | .copy k _ dev => l.report s t k dev
  | _ => l

/-- No events and no reports yet. -/
def start : LinkLedger := ⟨0, fun _ _ => false, 0, 0, fun _ => 0, [], [], []⟩

end LinkLedger

/-- The ledger is kept along a step. -/
def linkLedgerStep (s : Links) (l : LinkLedger) : LinkEvent → LinkLedger
  | .change c => l.change s c
  | .work => l.work s
  | .run t => l.run s t
  | .register _ _ | .call _ _ | .signal _ => l

/-- The driver and its ledger. -/
abbrev LinkRun := Links × LinkLedger

/-- One step of both. -/
def linkRun (r : LinkRun) (e : LinkEvent) : LinkRun := (linkStep r.1 e, linkLedgerStep r.1 r.2 e)

/-- The reports name links that have come up or gone down as they say, with the state of the same event, and no wait has used
a device that was gone. -/
structure Truthful (r : LinkRun) : Prop where
  named : r.2.misnamed = []
  paired : r.2.mispaired = []
  alive : r.2.dangling = []

end BmcNetmon
