import Mathlib
import Bmc.Lib.Device
import Bmc.Lib.Indices
import Bmc.Asd.Common

/-!
# The I2C and I3C handlers

`i2c_handler.c` and `i3c_handler.c` with the bus configuration that they share, over an operating
system that may answer every `open`, `flock` and `ioctl` as it likes. A lock belongs to the open
handle and goes away with it.

* `Ixc`: the configuration, both handlers and the operating system;
* `i2cBusFlock`, `i2cBusSelect`, `i2cReadWrite`, and the same for I3C;
* `devFlock`, `busSelect`, `doReadWrite`: the dispatch on the type of a bus in `asd_msg.c`.
-/

namespace BmcAsd

open BmcLib

/-! ## Data -/

abbrev maxIxcBuses : ℕ := 4
abbrev i3cMaxDevHandlers : ℕ := 8
abbrev ast2600I3cBuses : ℕ := 4

/-- `I3C_BUS_ADDRESS_RESERVED`. -/
abbrev i3cBusAddressReserved : UInt8 := 127

/-- `bus_config_type`. -/
inductive BusConfigType where
  | notAllowed | i2c | i3c
  deriving DecidableEq, Repr

/-- The operation of a `flock`. -/
inductive LockOp where
  | ex | un
  deriving DecidableEq, Repr

/-- An open handle: the device it was opened for, and whether it holds the lock. -/
structure OpenFile where
  type : BusConfigType
  bus : UInt8
  index : ℕ
  locked : Bool
  deriving DecidableEq, Repr

/-- `struct i2c_msg`. -/
structure I2cMsg where
  read : Bool
  address : ℕ
  length : ℕ
  buffer : ℕ → UInt8

/-- The calls to the operating system. -/
inductive IxcCall where
  | openMaster (bus : UInt8) (index : ℕ)
  | openDevice (type : BusConfigType) (bus : UInt8) (index : ℕ)
  | flock (file : OpenFile) (op : LockOp)
  | readWrite (file : OpenFile) (msgs : List I2cMsg)

/-- An answer: success, and the bytes that each message of a transaction ends with if it reads. -/
structure IxcAnswer where
  ok : Bool
  data : ℕ → ℕ → UInt8

/-- `bus_config`, `I2C_Handler` and `I3C_Handler`; `none` is a handle with the value `-1`. -/
structure Ixc where
  enableI2c : Bool
  enableI3c : Bool
  defaultBus : UInt8
  busConfigType : Fin maxIxcBuses → BusConfigType
  busConfigMap : Fin maxIxcBuses → UInt8
  i2cBus : UInt8
  i2cDriverHandle : Option OpenFile
  i3cBus : UInt8
  i3cDriverHandlers : Fin i3cMaxDevHandlers → Option OpenFile
  os : Device IxcCall IxcAnswer

namespace Ixc

/-- A call to the operating system. -/
def call (x : Ixc) (c : IxcCall) : IxcAnswer × Ixc := (x.os.answer, { x with os := x.os.call c })

/-- The bus `bus` is configured with the type `type`. -/
def busAllowed (x : Ixc) (type : BusConfigType) (bus : UInt8) : Bool :=
  (List.finRange maxIxcBuses).any fun i => x.busConfigMap i == bus && x.busConfigType i == type

end Ixc

/-- The bytes that a transaction leaves in its messages. -/
def fillMsgs (data : ℕ → ℕ → UInt8) (msgs : List I2cMsg) : List I2cMsg :=
  msgs.mapIdx fun i m => if m.read then { m with buffer := data i } else m

/-- A `flock` on a handle; it fails on the handle `-1`. -/
def flockFile (x : Ixc) (file : Option OpenFile) (op : LockOp) : Bool × Option OpenFile × Ixc :=
  match file with
  | none => (false, none, x)
  | some f =>
    let r := x.call (.flock f op)
    if r.1.ok then (true, some { f with locked := op = .ex }, r.2) else (false, some f, r.2)

/-- A transaction on a handle; it fails on the handle `-1`. -/
def readWriteFile (x : Ixc) (file : Option OpenFile) (msgs : List I2cMsg) :
    Status × List I2cMsg × Ixc :=
  match file with
  | none => (.err, msgs, x)
  | some f =>
    let r := x.call (.readWrite f msgs)
    (if r.1.ok then .ok else .err, fillMsgs r.1.data msgs, r.2)

/-! ## `i2c_handler.c` -/

/-- `i2c_close_driver`. -/
def i2cCloseDriver (x : Ixc) : Ixc := { x with i2cDriverHandle := none }

/-- `i2c_open_driver`. -/
def i2cOpenDriver (x : Ixc) (bus : UInt8) : Status × Ixc :=
  let r := x.call (.openDevice .i2c bus 0)
  if r.1.ok then
    (.ok, { r.2 with i2cDriverHandle := some ⟨.i2c, bus, 0, false⟩, i2cBus := bus, defaultBus := bus })
  else (.err, { r.2 with i2cDriverHandle := none })

/-- `i2c_bus_select`. -/
def i2cBusSelect (x : Ixc) (bus : UInt8) : Status × Ixc :=
  if x.enableI2c then
    if bus = x.i2cBus then (.ok, x)
    else if x.busAllowed .i2c bus then i2cOpenDriver (i2cCloseDriver x) bus
    else (.err, x)
  else (.err, x)

/-- `i2c_initialize`. -/
def i2cInitialize (x : Ixc) : Status × Ixc :=
  if x.enableI2c then i2cBusSelect x x.defaultBus else (.err, x)

/-- `i2c_deinitialize`. -/
def i2cDeinitialize (x : Ixc) : Status × Ixc := (.ok, i2cCloseDriver x)

/-- `i2c_bus_flock`. -/
def i2cBusFlock (x : Ixc) (op : LockOp) : Status × Ixc :=
  let r := flockFile x x.i2cDriverHandle op
  (if r.1 then .ok else .err, { r.2.2 with i2cDriverHandle := r.2.1 })

/-- `i2c_set_sclk`. -/
def i2cSetSclk (x : Ixc) : Status := if x.enableI2c then .ok else .err

/-- `i2c_read_write`. -/
def i2cReadWrite (x : Ixc) (msgs : List I2cMsg) : Status × List I2cMsg × Ixc :=
  if x.enableI2c then readWriteFile x x.i2cDriverHandle msgs else (.err, msgs, x)

/-! ## `i3c_handler.c` -/

/-- `i3c_close_device_drivers`. -/
def i3cCloseDeviceDrivers (x : Ixc) : Ixc := { x with i3cDriverHandlers := fun _ => none }

/-- The search of `i3c_get_dev_name`, with `n` of the master drivers left to try. -/
def i3cFindDev (x : Ixc) (bus : UInt8) : ℕ → Status × Ixc
  | 0 => (.err, x)
  | n + 1 =>
    let r := x.call (.openMaster bus (ast2600I3cBuses - (n + 1)))
    if r.1.ok then (.ok, r.2) else i3cFindDev r.2 bus n

/-- `i3c_get_dev_name`. -/
def i3cGetDevName (x : Ixc) (bus : UInt8) : Status × Ixc :=
  if bus.toNat ≥ ast2600I3cBuses then (.err, x) else i3cFindDev x bus ast2600I3cBuses

/-- The loop of `i3c_open_device_drivers` over the handlers. -/
def i3cOpenHandlers (x : Ixc) (bus : UInt8) : List (Fin i3cMaxDevHandlers) → Status × Ixc
  | [] => (.ok, x)
  | i :: is =>
    let r := x.call (.openDevice .i3c bus i)
    if r.1.ok then
      i3cOpenHandlers
        { r.2 with
          i3cDriverHandlers := Function.update r.2.i3cDriverHandlers i (some ⟨.i3c, bus, i, false⟩)
          i3cBus := bus
          defaultBus := bus } bus is
    else (.err, i3cCloseDeviceDrivers r.2)

/-- `i3c_open_device_drivers`. -/
def i3cOpenDeviceDrivers (x : Ixc) (bus : UInt8) : Status × Ixc :=
  let r := i3cGetDevName x bus
  if r.1 = .ok then i3cOpenHandlers r.2 bus (List.finRange i3cMaxDevHandlers) else (.err, r.2)

/-- `i3c_bus_select`. -/
def i3cBusSelect (x : Ixc) (bus : UInt8) : Status × Ixc :=
  if x.enableI3c then
    if bus = x.i3cBus then (.ok, x)
    else if x.busAllowed .i3c bus then i3cOpenDeviceDrivers (i3cCloseDeviceDrivers x) bus
    else (.err, x)
  else (.err, x)

/-- `i3c_initialize`. -/
def i3cInitialize (x : Ixc) : Status × Ixc :=
  if x.enableI3c then (.ok, { x with i3cBus := i3cBusAddressReserved }) else (.err, x)

/-- `i3c_deinitialize`. -/
def i3cDeinitialize (x : Ixc) : Status × Ixc := (.ok, i3cCloseDeviceDrivers x)

/-- The loop of `i3c_bus_flock` over the handlers. -/
def i3cFlockHandlers (x : Ixc) (op : LockOp) : List (Fin i3cMaxDevHandlers) → Status × Ixc
  | [] => (.ok, x)
  | i :: is =>
    let r := flockFile x (x.i3cDriverHandlers i) op
    let x := { r.2.2 with i3cDriverHandlers := Function.update x.i3cDriverHandlers i r.2.1 }
    if r.1 then i3cFlockHandlers x op is else (.err, x)

/-- `i3c_bus_flock`; the first use of the handler selects the bus. -/
def i3cBusFlock (x : Ixc) (bus : UInt8) (op : LockOp) : Status × Ixc :=
  let r := if x.i3cBus = i3cBusAddressReserved then i3cBusSelect x bus else (.ok, x)
  if r.1 = .ok then i3cFlockHandlers r.2 op (List.finRange i3cMaxDevHandlers) else r

/-- `i3c_set_sclk`. -/
def i3cSetSclk (x : Ixc) : Status := if x.enableI3c then .ok else .err

/-- `i3c_read_write`. -/
def i3cReadWrite (x : Ixc) (msgs : List I2cMsg) : Status × List I2cMsg × Ixc :=
  if x.enableI3c then readWriteFile x (x.i3cDriverHandlers 0) msgs else (.err, msgs, x)

/-! ## Dispatch on the bus type -/

/-- `bus_type`. -/
def Ixc.busType (x : Ixc) (bus : UInt8) : BusConfigType :=
  match (List.finRange maxIxcBuses).find? fun i => x.busConfigMap i == bus with
  | some i => x.busConfigType i
  | none => .notAllowed

/-- `dev_flock`. -/
def devFlock (x : Ixc) (bus : UInt8) (op : LockOp) : Status × Ixc :=
  match x.busType bus with
  | .i2c => i2cBusFlock x op
  | .i3c => i3cBusFlock x bus op
  | .notAllowed => (.err, x)

/-- The last step of `do_bus_select_command`: select the bus at the handler of its type. -/
def busSelect (x : Ixc) (bus : UInt8) : Status × Ixc :=
  match x.busType bus with
  | .i2c => i2cBusSelect x bus
  | .i3c => i3cBusSelect x bus
  | .notAllowed => (.err, x)

/-- The dispatch of `do_set_sclk_command`. -/
def setSclk (x : Ixc) : Status :=
  match x.busType x.defaultBus with
  | .i2c => i2cSetSclk x
  | .i3c => i3cSetSclk x
  | .notAllowed => .err

/-- `do_read_write`. -/
def doReadWrite (x : Ixc) (msgs : List I2cMsg) : Status × List I2cMsg × Ixc :=
  match x.busType x.defaultBus with
  | .i2c => i2cReadWrite x msgs
  | .i3c => i3cReadWrite x msgs
  | .notAllowed => (.err, msgs, x)

end BmcAsd
