import Bmc.Lib.LinkedQueue
import Bmc.Gpio.Registrations

/-!
# Queues of pending interrupts

An interrupt on a pin that is registered is queued, `process_gpio_intr`, and a wait call takes it from the queue.
Sensors and chassis interrupts have a queue each. A wait call tests the queue first and takes the lock then.

* `addInterrupt`, `processGpioIntr`: an interrupt comes;
* `testPending`, `takePending`: the two parts of a wait call;
* `registerInts`, `unregisterInts`: the lists change;
* `intrStep`: an event, with the ledger of the interrupts that have come and gone.
-/

namespace BmcGpio

open BmcLib

/-- `gpio_interrupt_sensor` as an entry of a list. Here the pin may be any number. -/
structure IntrEntry where
  gpioNumber : UInt16
  sensorNumber : UInt16
  triggerMethod : TriggerMethod
  triggerType : TriggerType
  readingOnAssertion : UInt8
  deriving DecidableEq, Repr

/-- `pending_interrupt_info`. -/
structure PendingInterrupt where
  gpio : UInt16
  state : UInt8
  triggerType : UInt8
  deriving DecidableEq, Repr

/-- The two kinds of interrupts. -/
inductive IntrKind
  | sensor | chassis
  deriving DecidableEq, Repr

/-- The interrupts of a kind: the list, the queue, and the wait calls that have found the queue not empty. -/
structure IntrPort where
  entries : List IntrEntry
  queue : LinkedQueue PendingInterrupt
  woken : ℕ → Bool

/-- The interrupts of the driver. -/
abbrev IntrDriver := IntrKind → IntrPort

/-! ## An interrupt -/

/-- `GPIO_LOW_LEVEL` or `GPIO_HIGH_LEVEL`. -/
def isLevel (triggerType : UInt8) : Bool := triggerType = 3 || triggerType = 2

/-- `add_interrupt`. -/
def addInterrupt (q : LinkedQueue PendingInterrupt) (gpio : UInt16) (state triggerType : UInt8) :
    LinkedQueue PendingInterrupt :=
  if isLevel triggerType && q.any fun node => node.gpio = gpio && node.triggerType = triggerType then q
  else q.push { gpio := gpio, state := state, triggerType := triggerType }

/-- The entry is for the pin. -/
def IntrEntry.IsFor (gpio : ℤ) (e : IntrEntry) : Prop := gpio = e.gpioNumber.toNat

instance (gpio : ℤ) : DecidablePred (IntrEntry.IsFor gpio) := fun _ => inferInstanceAs (Decidable (_ = _))

/-- An interrupt is queued. -/
def IntrPort.add (p : IntrPort) (gpio : ℤ) (state triggerType : UInt8) : IntrPort :=
  { p with queue := addInterrupt p.queue (UInt16.ofNat gpio.toNat) state triggerType }

/-- `process_gpio_intr`, where `gpio` is the number of the pin with its offset. -/
def processGpioIntr (gpio : ℤ) (state triggerType : UInt8) (s : IntrDriver) : IntrDriver :=
  let sensor := s .sensor
  let j := sensor.entries.findIdx fun e => e.IsFor gpio
  if j < sensor.entries.length then
    let entries := sensor.entries.modify j fun e => { e with readingOnAssertion := state }
    Function.update s .sensor (IntrPort.add { sensor with entries := entries } gpio state triggerType)
  else if (s .chassis).entries.any fun e => e.IsFor gpio then
    Function.update s .chassis ((s .chassis).add gpio state triggerType)
  else s

/-! ## Wait calls -/

/-- What a wait call comes to: success, with the entry it has copied, if any, or a null pointer. -/
inductive WaitResult
  | success (filled : Option IntrEntry)
  | nullPointer
  deriving DecidableEq, Repr

/-- The entry for a pin. -/
def IntrPort.entryFor (p : IntrPort) (gpio : UInt16) : Option IntrEntry :=
  p.entries.find? fun e => e.gpioNumber = gpio

/-- The first interrupt is taken, and its entry is copied. -/
def processPending (p : IntrPort) (gpio : UInt16) : WaitResult × IntrPort :=
  (.success (p.entryFor gpio), { p with queue := p.queue.pop })

/-- `process_pending_sensor_interrupt`. -/
def processPendingSensorInterrupt (p : IntrPort) : WaitResult × IntrPort :=
  match p.queue.first with
  | none => (.success none, p)
  | some node => processPending p node.val.gpio

/-- `process_pending_chassis_interrupt`. -/
def processPendingChassisInterrupt (p : IntrPort) : WaitResult × IntrPort :=
  match p.queue.first with
  | none => (.nullPointer, p)
  | some node => processPending p node.val.gpio

/-- What a wait call of a kind does under the lock. -/
def processPendingInterrupt : IntrKind → IntrPort → WaitResult × IntrPort
  | .sensor => processPendingSensorInterrupt
  | .chassis => processPendingChassisInterrupt

/-- `gpio_waitforsensorint` or `gpio_waitforchassisint` of a reader up to the lock: it goes on when there is an
interrupt, and waits otherwise. -/
def testPending (reader : ℕ) (p : IntrPort) : IntrPort :=
  if p.queue.front ≠ none then { p with woken := Function.update p.woken reader true } else p

/-- `gpio_waitforsensorint` or `gpio_waitforchassisint` of a reader from the lock on. -/
def takePending (k : IntrKind) (reader : ℕ) (p : IntrPort) : WaitResult × IntrPort :=
  let r := processPendingInterrupt k p
  (r.1, { r.2 with woken := Function.update p.woken reader false })

/-! ## Lists -/

/-- `REGISTER_SENSOR_INTS` or `REGISTER_CHASSIS_INTS`, when all its steps succeed. -/
def registerInts (entries : List IntrEntry) (p : IntrPort) : IntrPort := { p with entries := entries }

/-- `UNREGISTER_SENSOR_INTS` or `UNREGISTER_CHASSIS_INTS`. It returns early when the hardware refuses. -/
def unregisterInts (hwOk : Bool) (p : IntrPort) : IntrPort :=
  if hwOk = false then p else { p with entries := [], queue := p.queue.clear }

/-! ## Events -/

/-- What happens to the driver. -/
inductive IntrEvent
  | interrupt (gpio : ℤ) (state triggerType : UInt8)
  | test (k : IntrKind) (reader : ℕ)
  | take (k : IntrKind) (reader : ℕ)
  | register (k : IntrKind) (entries : List IntrEntry)
  | unregister (k : IntrKind) (hwOk : Bool)
  deriving DecidableEq, Repr

/-- How an interrupt leaves its queue, or a wait call finds none: a delivery is noted with the entry that the list has
for the pin at that time. -/
inductive Departure
  | delivered (reader : ℕ) (i : PendingInterrupt) (entry : Option IntrEntry) (r : WaitResult)
  | missed (reader : ℕ) (r : WaitResult)
  | discarded (i : PendingInterrupt)
  deriving DecidableEq, Repr

/-- The interrupts of a kind that have come, and what has left the queue. -/
structure IntrLedger where
  arrived : List PendingInterrupt
  departed : List Departure

/-- The kind of interrupt that a pin is registered for. -/
def kindOf (s : IntrDriver) (gpio : ℤ) : Option IntrKind :=
  if (s .sensor).entries.any fun e => e.IsFor gpio then some .sensor
  else if (s .chassis).entries.any fun e => e.IsFor gpio then some .chassis
  else none

/-- What leaves the queue when a wait call takes from it. -/
def departure (reader : ℕ) (p : IntrPort) (r : WaitResult) : Departure :=
  match p.queue.toList with
  | [] => .missed reader r
  | i :: _ => .delivered reader i (p.entryFor i.gpio) r

/-- An event, with the ledgers. -/
def intrStep (sl : IntrDriver × (IntrKind → IntrLedger)) (e : IntrEvent) : IntrDriver × (IntrKind → IntrLedger) :=
  let (s, l) := sl
  match e with
  | .interrupt gpio state triggerType =>
    (processGpioIntr gpio state triggerType s,
      match kindOf s gpio with
      | none => l
      | some k =>
        let i : PendingInterrupt := { gpio := UInt16.ofNat gpio.toNat, state := state, triggerType := triggerType }
        Function.update l k { l k with arrived := (l k).arrived ++ [i] })
  | .test k reader => (Function.update s k (testPending reader (s k)), l)
  | .take k reader =>
    if (s k).woken reader = false then (s, l)
    else
      let r := takePending k reader (s k)
      (Function.update s k r.2,
        Function.update l k { l k with departed := (l k).departed ++ [departure reader (s k) r.1] })
  | .register k entries => (Function.update s k (registerInts entries (s k)), l)
  | .unregister k hwOk =>
    let p := unregisterInts hwOk (s k)
    (Function.update s k p,
      if hwOk = false then l
      else Function.update l k
        { l k with departed := (l k).departed ++ (s k).queue.toList.map Departure.discarded })

/-- The driver with its lists registered, before the first interrupt. -/
def IntrDriver.start (entries : IntrKind → List IntrEntry) : IntrDriver := fun k =>
  { entries := entries k, queue := .empty, woken := fun _ => false }

/-- Nothing has come yet. -/
def IntrLedger.start : IntrKind → IntrLedger := fun _ => { arrived := [], departed := [] }

end BmcGpio
