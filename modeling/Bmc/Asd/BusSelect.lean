import Bmc.Lib.Loop
import Bmc.Asd.BusFiles
import Bmc.Asd.Msg

/-!
# Bus selection

`do_bus_select_command` behind its operand, and which bus is in force after it.

* `busSelectCommand`: the lock of the old bus is released, the one of the new bus taken, and the
  handler of the new bus selects it;
* `Selected`: the default bus is `bus` and its handler holds open handles for it;
* **`selects_iff`**: in a run of bus selections each one either succeeds with its bus selected or
  fails with the old bus still selected, exactly if every step is `SelectsCleanly`.
-/

namespace BmcAsd

open BmcLib

/-! ## The command -/

/-- What lies where `&packet`, the address of a local pointer, is taken for a message. -/
def AsdMsg.strayHeader (s : AsdMsg) : MessageHeader :=
  .ofBytes (s.stack 0) (s.stack 1) (s.stack 2) (s.stack 3)

/-- The `switch` at the end of `do_bus_select_command`. -/
def busSelectHandler (s : AsdMsg) (bus : UInt8) : Status × AsdMsg :=
  let r := busSelect s.ixc bus
  (r.1, s.setIxc r.2)

/-- The release of the lock on the old bus in `do_bus_select_command`; a failure is only reported. -/
def releaseDefaultBus (s : AsdMsg) : AsdMsg :=
  let u := devFlock s.ixc s.ixc.defaultBus .un
  if u.1 = .ok then s.setIxc u.2
  else sendErrorMessage (s.setIxc u.2) s.strayHeader asdFailureRemoveI2cLock

/-- `do_bus_select_command`, with the operand `bus`. -/
def busSelectCommand (s : AsdMsg) (bus : UInt8) : Status × AsdMsg :=
  if s.ixc.defaultBus ≠ bus then
    let s := releaseDefaultBus s
    let l := devFlock s.ixc bus .ex
    if l.1 = .ok then busSelectHandler (s.setIxc l.2) bus
    else (.err, sendErrorMessage (s.setIxc l.2) s.strayHeader asdFailureProcessI2cLock)
  else busSelectHandler s bus

/-- What `do_bus_select_command` does to the handlers. -/
def busSwitch (x : Ixc) (bus : UInt8) : Status × Ixc :=
  if x.defaultBus ≠ bus then
    let l := devFlock (devFlock x x.defaultBus .un).2 bus .ex
    if l.1 = .ok then busSelect l.2 bus else (.err, l.2)
  else busSelect x bus

theorem releaseDefaultBus_ixc (s : AsdMsg) :
    (releaseDefaultBus s).ixc = (devFlock s.ixc s.ixc.defaultBus .un).2 := by
  unfold releaseDefaultBus
  dsimp only
  split_ifs <;> simp

theorem busSelectCommand_eq (s : AsdMsg) (bus : UInt8) :
    (busSelectCommand s bus).1 = (busSwitch s.ixc bus).1 ∧
      (busSelectCommand s bus).2.ixc = (busSwitch s.ixc bus).2 := by
  unfold busSelectCommand busSwitch
  by_cases hd : s.ixc.defaultBus ≠ bus
  · rw [if_pos hd, if_pos hd]
    dsimp only
    rw [releaseDefaultBus_ixc]
    split_ifs <;> simp [busSelectHandler]
  · rw [if_neg hd, if_neg hd]
    exact ⟨rfl, rfl⟩

/-! ## The bus in force -/

/-- The handle is open for the bus. -/
def OpenOn (type : BusConfigType) (bus : UInt8) (file : Option OpenFile) : Prop :=
  ∃ f ∈ file, f.type = type ∧ f.bus = bus

/-- The handler of the type of `bus` holds open handles for it. -/
def Ixc.Holds (x : Ixc) (bus : UInt8) : Prop :=
  match x.busType bus with
  | .i2c => OpenOn .i2c bus x.i2cDriverHandle
  | .i3c => ∀ i, OpenOn .i3c bus (x.i3cDriverHandlers i)
  | .notAllowed => False

/-- The bus `bus` is selected and usable. -/
structure Selected (x : Ixc) (bus : UInt8) : Prop where
  defaultBus : x.defaultBus = bus
  holds : x.Holds bus

/-- Open handles are open for the bus that their handler remembers. -/
structure Remembers (x : Ixc) : Prop where
  i2c : ∀ f ∈ x.i2cDriverHandle, f.bus = x.i2cBus
  i3c : ∀ i, ∀ f ∈ x.i3cDriverHandlers i, f.bus = x.i3cBus ∧ f.bus ≠ i3cBusAddressReserved

section Relocks

variable {x y : Ixc} {bus : UInt8}

theorem openOn_congr {type : BusConfigType} {file file' : Option OpenFile}
    (h : file'.map OpenFile.unlock = file.map OpenFile.unlock) :
    OpenOn type bus file' ↔ OpenOn type bus file := by
  have hiff (file : Option OpenFile) : OpenOn type bus file ↔
      ∃ f ∈ file.map OpenFile.unlock, f.type = type ∧ f.bus = bus := by
    constructor
    · rintro ⟨f, hf, h⟩
      exact ⟨f.unlock, Option.mem_map_of_mem _ hf, h⟩
    · rintro ⟨f, hf, h⟩
      obtain ⟨g, hg, rfl⟩ := Option.mem_map.mp hf
      exact ⟨g, hg, h⟩
  rw [hiff, hiff, h]

theorem Relocks.holds_iff (h : Relocks x y) : y.Holds bus ↔ x.Holds bus := by
  unfold Ixc.Holds
  rw [h.busType]
  split
  · exact openOn_congr h.i2cHandle
  · exact forall_congr' fun i => openOn_congr (h.i3cHandlers i)
  · rfl

theorem Relocks.selected_iff (h : Relocks x y) : Selected y bus ↔ Selected x bus := by
  constructor
  · rintro ⟨hd, hh⟩
    exact ⟨h.defaultBus ▸ hd, h.holds_iff.mp hh⟩
  · rintro ⟨hd, hh⟩
    exact ⟨h.defaultBus.trans hd, h.holds_iff.mpr hh⟩

theorem Relocks.remembers (h : Relocks x y) (hx : Remembers x) : Remembers y := by
  have hfile {file file' : Option OpenFile}
      (h : file'.map OpenFile.unlock = file.map OpenFile.unlock) {f : OpenFile} (hf : f ∈ file') :
      ∃ g ∈ file, g.bus = f.bus := by
    have hm := Option.mem_map_of_mem OpenFile.unlock hf
    rw [h] at hm
    obtain ⟨g, hg, he⟩ := Option.mem_map.mp hm
    exact ⟨g, hg, show g.unlock.bus = f.unlock.bus by rw [he]⟩
  constructor
  · intro f hf
    obtain ⟨g, hg, hbus⟩ := hfile h.i2cHandle hf
    rw [← hbus, h.i2cBus]
    exact hx.i2c g hg
  · intro i f hf
    obtain ⟨g, hg, hbus⟩ := hfile (h.i3cHandlers i) hf
    rw [← hbus, h.i3cBus]
    exact hx.i3c i g hg

/-- A selected I3C bus is remembered. -/
theorem Selected.i3cBus (h : Selected x bus) (hr : Remembers x) (ht : x.busType bus = .i3c) :
    x.i3cBus = bus ∧ bus ≠ i3cBusAddressReserved := by
  have hh := h.holds
  unfold Ixc.Holds at hh
  rw [ht] at hh
  obtain ⟨f, hf, -, hbus⟩ := hh 0
  have := hr.i3c 0 f hf
  exact ⟨this.1.symm.trans hbus, hbus ▸ this.2⟩

/-- A selected I2C bus is remembered. -/
theorem Selected.i2cBus (h : Selected x bus) (hr : Remembers x) (ht : x.busType bus = .i2c) :
    x.i2cBus = bus := by
  have hh := h.holds
  unfold Ixc.Holds at hh
  rw [ht] at hh
  obtain ⟨f, hf, -, hbus⟩ := hh
  exact (hr.i2c f hf).symm.trans hbus

end Relocks

/-! ## One selection -/

/-- The selection of `bus` does what it says: the bus is selected, or the old one still is. -/
def Selects (s : AsdMsg) (bus : UInt8) : Prop :=
  ((busSelectCommand s bus).1 = .ok → Selected (busSelectCommand s bus).2.ixc bus) ∧
    ((busSelectCommand s bus).1 ≠ .ok →
      Selected (busSelectCommand s bus).2.ixc s.ixc.defaultBus)

/-- Opening the I3C bus `bus` fails before any device of it is open. -/
def OpensNothing (x : Ixc) (bus : UInt8) : Prop :=
  (i3cGetDevName x bus).1 ≠ .ok ∨ (i3cGetDevName x bus).2.os.answer.ok = false

/-- The selection of another bus than the one in force either does not get as far as the handler of
the bus, or the bus is not the one that this handler remembers and can be opened; a failure to open
it does no harm as long as the old bus belongs to the other handler and nothing was opened. At the
first use of the I3C handler the lock itself opens the bus, and must not fail later than that. -/
def SelectsCleanly (x : Ixc) (bus : UInt8) : Prop :=
  bus ≠ x.defaultBus →
    let u := (devFlock x x.defaultBus .un).2
    let l := devFlock u bus .ex
    match x.busType bus with
    | .i2c => l.1 = .ok → x.enableI2c = true → bus ≠ x.i2cBus ∧
      (l.2.os.answer.ok = true ∨ x.busType x.defaultBus = .i3c)
    | .i3c =>
      if x.i3cBus = i3cBusAddressReserved then
        l.1 = .ok ∨ x.enableI3c = false ∨ bus = i3cBusAddressReserved ∨
          OpensNothing (i3cCloseDeviceDrivers u) bus
      else l.1 = .ok → x.enableI3c = true → bus ≠ x.i3cBus ∧
        ((i3cOpenDeviceDrivers (i3cCloseDeviceDrivers l.2) bus).1 = .ok ∨
          OpensNothing (i3cCloseDeviceDrivers l.2) bus ∧ x.busType x.defaultBus = .i2c)
    | .notAllowed => True

section Step

variable {x y : Ixc} {bus : UInt8}

/-- Opening an I3C bus whose devices are all there. -/
theorem i3cOpenDeviceDrivers_ok (h : (i3cOpenDeviceDrivers x bus).1 = .ok) :
    SameI2c x (i3cOpenDeviceDrivers x bus).2 ∧
      (∀ i, (i3cOpenDeviceDrivers x bus).2.i3cDriverHandlers i = some ⟨.i3c, bus, i, false⟩) ∧
      (i3cOpenDeviceDrivers x bus).2.i3cBus = bus ∧
      (i3cOpenDeviceDrivers x bus).2.defaultBus = bus ∧ bus ≠ i3cBusAddressReserved := by
  obtain ⟨os, hos⟩ := i3cGetDevName_eq x bus
  have hres : (i3cGetDevName x bus).1 = .ok → bus ≠ i3cBusAddressReserved := by
    rintro h rfl
    unfold i3cGetDevName at h
    rw [if_pos (by decide)] at h
    cases h
  unfold i3cOpenDeviceDrivers at h ⊢
  dsimp only at h ⊢
  split_ifs at h ⊢ with hname
  rw [hos] at h ⊢
  obtain ⟨hin, -, hbus⟩ := i3cOpenHandlers_ok h
  obtain ⟨hi3c, hdef⟩ := hbus (by decide)
  have hsame := i3cOpenHandlers_same { x with os := os } bus (List.finRange i3cMaxDevHandlers)
  exact ⟨⟨hsame.enableI2c, hsame.enableI3c, hsame.busConfigType, hsame.busConfigMap, hsame.i2cBus,
    hsame.i2cHandle⟩, fun i => hin i (List.mem_finRange i), hi3c, hdef, hres hname⟩

/-- Opening an I3C bus of which some device is missing. -/
theorem i3cOpenDeviceDrivers_err (hx : ∀ i, x.i3cDriverHandlers i = none)
    (h : (i3cOpenDeviceDrivers x bus).1 ≠ .ok) :
    SameI2c x (i3cOpenDeviceDrivers x bus).2 ∧
      (∀ i, (i3cOpenDeviceDrivers x bus).2.i3cDriverHandlers i = none) ∧
      (i3cOpenDeviceDrivers x bus).2.defaultBus =
        if (i3cGetDevName x bus).1 = .ok ∧ (i3cGetDevName x bus).2.os.answer.ok = true then bus
        else x.defaultBus := by
  obtain ⟨os, hos⟩ := i3cGetDevName_eq x bus
  unfold i3cOpenDeviceDrivers at h ⊢
  dsimp only at h ⊢
  by_cases hname : (i3cGetDevName x bus).1 = .ok
  · rw [if_pos hname] at h ⊢
    rw [hos] at h ⊢
    obtain ⟨hnone, -, hdef⟩ := i3cOpenHandlers_err h
    have hsame := i3cOpenHandlers_same { x with os := os } bus (List.finRange i3cMaxDevHandlers)
    refine ⟨⟨hsame.enableI2c, hsame.enableI3c, hsame.busConfigType, hsame.busConfigMap,
      hsame.i2cBus, hsame.i2cHandle⟩, hnone, hdef.trans ?_⟩
    simp only [hname, true_and]
  · rw [if_neg hname, hos, if_neg fun h => hname h.1]
    exact ⟨⟨rfl, rfl, rfl, rfl, rfl, rfl⟩, hx, rfl⟩

/-- The outcome `r` of a selection leaves the bus `bus` selected, or else the bus `old`. -/
def Settles (r : Status × Ixc) (old bus : UInt8) : Prop :=
  (r.1 = .ok → Selected r.2 bus) ∧ (r.1 ≠ .ok → Selected r.2 old)

theorem settles_err {old : UInt8} (h : Selected x old) : Settles (.err, x) old bus :=
  ⟨(fun h => nomatch h), fun _ => h⟩

theorem not_settles_ok {old : UInt8} (h : x.defaultBus ≠ bus) : ¬ Settles (.ok, x) old bus :=
  fun hs => h (hs.1 rfl).defaultBus

theorem i2cBusSelect_settles {old : UInt8} (hx : Selected x old) (ht : x.busType bus = .i2c)
    (hne : bus ≠ old) :
    Settles (i2cBusSelect x bus) old bus ↔
      (x.enableI2c = true → bus ≠ x.i2cBus ∧ (x.os.answer.ok = true ∨ x.busType old = .i3c)) := by
  have hdef : x.defaultBus ≠ bus := fun h => hne (h.symm.trans hx.defaultBus)
  have hallowed := busAllowed_of_busType ht (by decide)
  unfold i2cBusSelect
  by_cases hen : x.enableI2c = true
  swap
  · rw [if_neg hen]
    exact iff_of_true (settles_err hx) fun h => absurd h hen
  rw [if_pos hen]
  by_cases hbus : bus = x.i2cBus
  · rw [if_pos hbus]
    exact iff_of_false (not_settles_ok hdef) fun h => (h hen).1 hbus
  rw [if_neg hbus, if_pos hallowed, i2cOpenDriver_eq]
  by_cases hopen : x.os.answer.ok = true
  · rw [if_pos hopen]
    refine iff_of_true ⟨fun _ => ⟨rfl, ?_⟩, fun h => absurd rfl h⟩ fun _ => ⟨hbus, Or.inl hopen⟩
    unfold Ixc.Holds
    rw [show (x.i2cOpened bus).busType bus = .i2c from ht]
    exact ⟨_, rfl, rfl, rfl⟩
  · rw [if_neg hopen]
    have hold := hx.holds
    have htype : (x.i2cMissing bus).busType old = x.busType old := rfl
    unfold Ixc.Holds at hold
    constructor
    · intro h _
      have hnew := (h.2 fun h => nomatch h).holds
      unfold Ixc.Holds at hnew
      rw [htype] at hnew
      cases ho : x.busType old with
      | i2c =>
        rw [ho] at hnew
        obtain ⟨f, hf, -⟩ := hnew
        cases hf
      | i3c => exact ⟨hbus, Or.inr rfl⟩
      | notAllowed =>
        rw [ho] at hold
        exact hold.elim
    · intro h
      have ho := (h hen).2.resolve_left hopen
      rw [ho] at hold
      refine settles_err ⟨hx.defaultBus, ?_⟩
      unfold Ixc.Holds
      rw [htype, ho]
      exact hold

theorem not_opensNothing_iff :
    ¬ OpensNothing x bus ↔
      (i3cGetDevName x bus).1 = .ok ∧ (i3cGetDevName x bus).2.os.answer.ok = true := by
  simp [OpensNothing]

theorem not_opensNothing_of_ok (h : (i3cOpenDeviceDrivers x bus).1 = .ok) :
    ¬ OpensNothing x bus := by
  rw [not_opensNothing_iff]
  unfold i3cOpenDeviceDrivers at h
  dsimp only at h
  split_ifs at h with hname
  refine ⟨hname, ?_⟩
  rw [show List.finRange i3cMaxDevHandlers = 0 :: (List.finRange i3cMaxDevHandlers).tail from rfl,
    i3cOpenHandlers_cons] at h
  split_ifs at h with ha
  exact ha

theorem i3cOpenDeviceDrivers_settles {old : UInt8} (hx : Selected x old)
    (ht : x.busType bus = .i3c) (hne : bus ≠ old) :
    Settles (i3cOpenDeviceDrivers (i3cCloseDeviceDrivers x) bus) old bus ↔
      (i3cOpenDeviceDrivers (i3cCloseDeviceDrivers x) bus).1 = .ok ∨
        OpensNothing (i3cCloseDeviceDrivers x) bus ∧ x.busType old = .i2c := by
  by_cases hok : (i3cOpenDeviceDrivers (i3cCloseDeviceDrivers x) bus).1 = .ok
  · obtain ⟨hsame, hhandlers, -, hdef, -⟩ := i3cOpenDeviceDrivers_ok hok
    refine iff_of_true ⟨fun _ => ⟨hdef, ?_⟩, fun h => absurd hok h⟩ (Or.inl hok)
    unfold Ixc.Holds
    rw [hsame.busType, show (i3cCloseDeviceDrivers x).busType bus = .i3c from ht]
    exact fun i => ⟨_, hhandlers i, rfl, rfl⟩
  · obtain ⟨hsame, hnone, hdef⟩ := i3cOpenDeviceDrivers_err (fun _ => rfl) hok
    have htype : (i3cCloseDeviceDrivers x).busType = x.busType := rfl
    have hold := hx.holds
    unfold Ixc.Holds at hold
    rw [or_iff_right hok]
    constructor
    · intro h
      obtain ⟨hd, hh⟩ := h.2 hok
      constructor
      · by_contra hopens
        rw [hdef, if_pos (not_opensNothing_iff.mp hopens)] at hd
        exact hne hd
      · unfold Ixc.Holds at hh
        rw [hsame.busType, htype] at hh
        cases ho : x.busType old with
        | i2c => rfl
        | i3c =>
          rw [ho] at hh
          obtain ⟨f, hf, -⟩ := hh 0
          rw [hnone 0] at hf
          cases hf
        | notAllowed =>
          rw [ho] at hold
          exact hold.elim
    · rintro ⟨hnothing, ho⟩
      refine ⟨fun h => absurd h hok, fun _ => ⟨?_, ?_⟩⟩
      · rw [hdef, if_neg fun h => not_opensNothing_iff.mpr h hnothing]
        exact hx.defaultBus
      · rw [ho] at hold
        unfold Ixc.Holds
        rw [hsame.busType, htype, ho, hsame.i2cHandle]
        exact hold

theorem i3cBusSelect_settles {old : UInt8} (hx : Selected x old) (ht : x.busType bus = .i3c)
    (hne : bus ≠ old) :
    Settles (i3cBusSelect x bus) old bus ↔
      (x.enableI3c = true → bus ≠ x.i3cBus ∧
        ((i3cOpenDeviceDrivers (i3cCloseDeviceDrivers x) bus).1 = .ok ∨
          OpensNothing (i3cCloseDeviceDrivers x) bus ∧ x.busType old = .i2c)) := by
  have hdef : x.defaultBus ≠ bus := fun h => hne (h.symm.trans hx.defaultBus)
  have hallowed := busAllowed_of_busType ht (by decide)
  unfold i3cBusSelect
  by_cases hen : x.enableI3c = true
  swap
  · rw [if_neg hen]
    exact iff_of_true (settles_err hx) fun h => absurd h hen
  rw [if_pos hen]
  by_cases hbus : bus = x.i3cBus
  · rw [if_pos hbus]
    exact iff_of_false (not_settles_ok hdef) fun h => (h hen).1 hbus
  rw [if_neg hbus, if_pos hallowed, i3cOpenDeviceDrivers_settles hx ht hne]
  exact ⟨fun h _ => ⟨hbus, h⟩, fun h => (h hen).2⟩

/-- A handle that is missing cannot be locked. -/
theorem i3cFlockHandlers_none {op : LockOp} (h : x.i3cDriverHandlers 0 = none) :
    (i3cFlockHandlers x op (List.finRange i3cMaxDevHandlers)).1 ≠ .ok := by
  rw [show List.finRange i3cMaxDevHandlers = 0 :: (List.finRange i3cMaxDevHandlers).tail from rfl,
    i3cFlockHandlers, h]
  exact fun h => nomatch h

/-- The first use of the I3C handler: the lock of the new bus also selects it. -/
theorem firstUse_settles {old : UInt8} (hx : Selected x old) (hr : Remembers x)
    (ht : x.busType bus = .i3c) (hne : bus ≠ old) (hfirst : x.i3cBus = i3cBusAddressReserved) :
    Settles (if (i3cBusFlock x bus .ex).1 = .ok then i3cBusSelect (i3cBusFlock x bus .ex).2 bus
        else (.err, (i3cBusFlock x bus .ex).2)) old bus ↔
      ((i3cBusFlock x bus .ex).1 = .ok ∨ x.enableI3c = false ∨ bus = i3cBusAddressReserved ∨
        OpensNothing (i3cCloseDeviceDrivers x) bus) := by
  have hold : x.busType old = .i2c := by
    cases ho : x.busType old with
    | i2c => rfl
    | i3c => exact absurd ((hx.i3cBus hr ho).1.symm.trans hfirst) (hx.i3cBus hr ho).2
    | notAllowed =>
      have := hx.holds
      unfold Ixc.Holds at this
      rw [ho] at this
      exact this.elim
  unfold i3cBusFlock
  rw [if_pos hfirst]
  have hdef : x.defaultBus ≠ bus := fun h => hne (h.symm.trans hx.defaultBus)
  have hallowed := busAllowed_of_busType ht (by decide)
  by_cases hen : x.enableI3c = true
  swap
  · have hsel : i3cBusSelect x bus = (.err, x) := by
      unfold i3cBusSelect
      rw [if_neg hen]
    rw [hsel]
    exact iff_of_true (settles_err hx) (Or.inr (Or.inl (by simpa using hen)))
  by_cases hbus : bus = i3cBusAddressReserved
  · have hsel : i3cBusSelect x bus = (.ok, x) := by
      unfold i3cBusSelect
      rw [if_pos hen, if_pos (hbus.trans hfirst.symm)]
    have hnone : x.i3cDriverHandlers 0 = none := by
      cases hf : x.i3cDriverHandlers 0 with
      | none => rfl
      | some f => exact absurd ((hr.i3c 0 f hf).1.trans hfirst) (hr.i3c 0 f hf).2
    rw [hsel]
    dsimp only
    rw [if_pos rfl, if_neg (i3cFlockHandlers_none hnone)]
    refine iff_of_true (settles_err ?_) (Or.inr (Or.inr (Or.inl hbus)))
    exact (i3cFlockHandlers_relocks x .ex _).selected_iff.mpr hx
  have hsel : i3cBusSelect x bus = i3cOpenDeviceDrivers (i3cCloseDeviceDrivers x) bus := by
    unfold i3cBusSelect
    rw [if_pos hen, if_neg fun h => hbus (h.trans hfirst), if_pos hallowed]
  have hopen := i3cOpenDeviceDrivers_settles hx ht hne
  rw [hsel]
  generalize hr : i3cOpenDeviceDrivers (i3cCloseDeviceDrivers x) bus = r at hopen ⊢
  by_cases hok : r.1 = .ok
  · have hsel := (hopen.mpr (Or.inl hok)).1 hok
    obtain ⟨hsame, -, hi3c, -, -⟩ := i3cOpenDeviceDrivers_ok (hr ▸ hok)
    rw [hr] at hsame hi3c
    rw [if_pos hok]
    have hlocks := i3cFlockHandlers_relocks r.2 .ex (List.finRange i3cMaxDevHandlers)
    generalize i3cFlockHandlers r.2 .ex (List.finRange i3cMaxDevHandlers) = l at hlocks ⊢
    by_cases hl : l.1 = .ok
    · rw [if_pos hl]
      refine iff_of_true ?_ (Or.inl hl)
      have hen' : (i3cCloseDeviceDrivers x).enableI3c = true := hen
      have hfast : i3cBusSelect l.2 bus = (.ok, l.2) := by
        unfold i3cBusSelect
        rw [hlocks.enableI3c, hsame.enableI3c, if_pos hen', hlocks.i3cBus, hi3c, if_pos rfl]
      rw [hfast]
      exact ⟨fun _ => hlocks.selected_iff.mpr hsel, fun h => absurd rfl h⟩
    · rw [if_neg hl]
      refine iff_of_false ?_ ?_
      · intro h
        have := (h.2 fun h => nomatch h).defaultBus
        rw [show l.2.defaultBus = bus from hlocks.defaultBus.trans hsel.defaultBus] at this
        exact hne this
      · rintro (h | h | h | h)
        · exact hl h
        · rw [hen] at h
          cases h
        · exact hbus h
        · exact not_opensNothing_of_ok (hr ▸ hok) h
  · rw [if_neg hok, if_neg hok]
    have herr : Settles (.err, r.2) old bus ↔ Settles r old bus :=
      ⟨fun h => ⟨fun h' => absurd h' hok, fun _ => h.2 fun h => nomatch h⟩,
        fun h => settles_err (h.2 hok)⟩
    rw [herr, hopen, or_iff_right hok, or_iff_right hok, and_iff_left hold, hen]
    exact ⟨fun h => Or.inr (Or.inr h), fun h => (h.resolve_left (by simp)).resolve_left hbus⟩

/-- **One selection**, of any bus from any state in which a bus is selected. -/
theorem busSwitch_settles {old : UInt8} (hx : Selected x old) (hr : Remembers x) :
    Settles (busSwitch x bus) old bus ↔ SelectsCleanly x bus := by
  unfold busSwitch SelectsCleanly
  rw [hx.defaultBus]
  by_cases hne : bus = old
  · subst hne
    rw [if_neg (by simp)]
    refine iff_of_true ?_ fun h => absurd rfl h
    have hself : (busSelect x bus).2 = x := by
      unfold busSelect
      cases ht : x.busType bus with
      | notAllowed => rfl
      | i2c =>
        dsimp only
        unfold i2cBusSelect
        rw [if_pos (hx.i2cBus hr ht).symm]
        split_ifs <;> rfl
      | i3c =>
        dsimp only
        unfold i3cBusSelect
        rw [if_pos (hx.i3cBus hr ht).1.symm]
        split_ifs <;> rfl
    exact ⟨fun _ => hself.symm ▸ hx, fun _ => hself.symm ▸ hx⟩
  rw [if_pos (Ne.symm hne)]
  have hu : Relocks x (devFlock x old .un).2 := by
    refine devFlock_relocks .un fun ht => ?_
    obtain ⟨hbus, hres⟩ := hx.i3cBus hr ht
    exact hbus.symm ▸ hres
  generalize devFlock x old .un = u at hu
  have hux := hu.selected_iff.mpr hx
  simp only [ne_eq, hne, not_false_eq_true, forall_const, ← hu.busType, ← hu.enableI2c,
    ← hu.enableI3c, ← hu.i2cBus, ← hu.i3cBus]
  unfold devFlock
  cases ht : u.2.busType bus with
  | notAllowed => exact iff_of_true (settles_err hux) trivial
  | i2c =>
    have hl := i2cBusFlock_relocks u.2 .ex
    dsimp only
    generalize i2cBusFlock u.2 .ex = l at hl
    by_cases hok : l.1 = .ok
    · have hlx := hl.selected_iff.mpr hux
      have hsel : busSelect l.2 bus = i2cBusSelect l.2 bus := by
        unfold busSelect
        rw [hl.busType, ht]
      rw [if_pos hok, hsel, i2cBusSelect_settles hlx (hl.busType ▸ ht) hne, hl.enableI2c, hl.i2cBus,
        hl.busType]
      exact ⟨fun h _ => h, fun h => h hok⟩
    · rw [if_neg hok]
      exact iff_of_true (settles_err (hl.selected_iff.mpr hux)) fun h => absurd h hok
  | i3c =>
    dsimp only
    by_cases hfirst : u.2.i3cBus = i3cBusAddressReserved
    · rw [if_pos hfirst, ← firstUse_settles hux (hu.remembers hr) ht hne hfirst]
      have hsel : busSelect (i3cBusFlock u.2 bus .ex).2 bus =
          i3cBusSelect (i3cBusFlock u.2 bus .ex).2 bus := by
        unfold busSelect
        rw [i3cBusFlock_busType, ht]
      rw [hsel]
    · have hl : Relocks u.2 (i3cBusFlock u.2 bus .ex).2 := by
        unfold i3cBusFlock
        rw [if_neg hfirst]
        exact i3cFlockHandlers_relocks u.2 .ex _
      rw [if_neg hfirst]
      generalize i3cBusFlock u.2 bus .ex = l at hl
      by_cases hok : l.1 = .ok
      · have hlx := hl.selected_iff.mpr hux
        have hsel : busSelect l.2 bus = i3cBusSelect l.2 bus := by
          unfold busSelect
          rw [hl.busType, ht]
        rw [if_pos hok, hsel, i3cBusSelect_settles hlx (hl.busType ▸ ht) hne, hl.enableI3c,
          hl.i3cBus, hl.busType]
        exact ⟨fun h _ => h, fun h => h hok⟩
      · rw [if_neg hok]
        exact iff_of_true (settles_err (hl.selected_iff.mpr hux)) fun h => absurd h hok

theorem i2cBusSelect_remembers (hr : Remembers x) : Remembers (i2cBusSelect x bus).2 := by
  unfold i2cBusSelect
  split_ifs
  · exact hr
  · rw [i2cOpenDriver_eq]
    split_ifs
    · refine ⟨?_, hr.i3c⟩
      rintro f hf
      obtain rfl := Option.mem_some_iff.mp hf
      rfl
    · exact ⟨(fun _ h => nomatch h), hr.i3c⟩
  · exact hr
  · exact hr

theorem i3cBusSelect_remembers (hr : Remembers x) : Remembers (i3cBusSelect x bus).2 := by
  have hopen : Remembers (i3cOpenDeviceDrivers (i3cCloseDeviceDrivers x) bus).2 := by
    by_cases hok : (i3cOpenDeviceDrivers (i3cCloseDeviceDrivers x) bus).1 = .ok
    · obtain ⟨hsame, hhandlers, hi3c, -, hres⟩ := i3cOpenDeviceDrivers_ok hok
      refine ⟨?_, fun i f hf => ?_⟩
      · rw [hsame.i2cHandle, hsame.i2cBus]
        exact hr.i2c
      · rw [hhandlers i] at hf
        obtain rfl := Option.mem_some_iff.mp hf
        exact ⟨hi3c.symm, hres⟩
    · obtain ⟨hsame, hnone, -⟩ := i3cOpenDeviceDrivers_err (fun _ => rfl) hok
      refine ⟨?_, fun i f hf => ?_⟩
      · rw [hsame.i2cHandle, hsame.i2cBus]
        exact hr.i2c
      · rw [hnone i] at hf
        cases hf
  unfold i3cBusSelect
  split_ifs
  · exact hr
  · exact hopen
  · exact hr
  · exact hr

theorem busSelect_remembers (hr : Remembers x) : Remembers (busSelect x bus).2 := by
  unfold busSelect
  split
  · exact i2cBusSelect_remembers hr
  · exact i3cBusSelect_remembers hr
  · exact hr

theorem devFlock_remembers (hr : Remembers x) (bus : UInt8) (op : LockOp) :
    Remembers (devFlock x bus op).2 := by
  have hsel : Remembers
      (if x.i3cBus = i3cBusAddressReserved then i3cBusSelect x bus else (.ok, x)).2 := by
    split_ifs
    · exact i3cBusSelect_remembers hr
    · exact hr
  unfold devFlock
  split
  · exact (i2cBusFlock_relocks x op).remembers hr
  · unfold i3cBusFlock
    dsimp only
    generalize (if x.i3cBus = i3cBusAddressReserved then i3cBusSelect x bus else (.ok, x)) = r
      at hsel
    split_ifs
    · exact (i3cFlockHandlers_relocks r.2 op _).remembers hsel
    · exact hsel
  · exact hr

theorem busSwitch_remembers (hr : Remembers x) : Remembers (busSwitch x bus).2 := by
  unfold busSwitch
  have hl := devFlock_remembers (devFlock_remembers hr x.defaultBus .un) bus .ex
  split
  · dsimp only
    split
    · exact busSelect_remembers hl
    · exact hl
  · exact busSelect_remembers hr

end Step

/-! ## Runs of selections -/

/-- One step of a run of bus selections. -/
def busSelectStep (s : AsdMsg) (bus : UInt8) : AsdMsg := (busSelectCommand s bus).2

/-- **Bus selection.** In every run of bus selections, with any outcome of every call, each
selection leaves its bus selected or fails and leaves the old one selected, exactly if each one is
clean. -/
theorem selects_iff {s : AsdMsg} (hx : Selected s.ixc s.ixc.defaultBus) (hr : Remembers s.ixc)
    (buses : List UInt8) :
    AllSteps busSelectStep Selects s buses ↔
      AllSteps busSelectStep (fun s bus => SelectsCleanly s.ixc bus) s buses := by
  refine allSteps_congr (I := fun s => Selected s.ixc s.ixc.defaultBus ∧ Remembers s.ixc)
    (fun s bus hs => ?_) (fun s bus hs hclean => ?_) ⟨hx, hr⟩
  · obtain ⟨h1, h2⟩ := busSelectCommand_eq s bus
    unfold Selects
    rw [h1, h2]
    exact busSwitch_settles hs.1 hs.2
  · obtain ⟨h1, h2⟩ := busSelectCommand_eq s bus
    have hsettles := (busSwitch_settles hs.1 hs.2).mpr hclean
    unfold busSelectStep
    rw [h2]
    refine ⟨?_, busSwitch_remembers hs.2⟩
    by_cases hok : (busSwitch s.ixc bus).1 = .ok
    · have := hsettles.1 hok
      rwa [this.defaultBus]
    · have := hsettles.2 hok
      rwa [this.defaultBus]

/-- A message layer without failures, with its bus handlers initialised. -/
def busesReady : AsdMsg :=
  let s := asdMsgInit (.quiet .software)
  s.setIxc (i3cInitialize (i2cInitialize s.ixc).2).2

theorem busesReady_selected : Selected busesReady.ixc busesReady.ixc.defaultBus :=
  ⟨rfl, _, rfl, rfl, rfl⟩

theorem busesReady_remembers : Remembers busesReady.ixc := by
  constructor
  · rintro f hf
    obtain rfl := Option.mem_some_iff.mp hf
    rfl
  · exact fun _ _ h => nomatch h

/-- From one I2C bus to another one and back. -/
theorem selects_back_and_forth : AllSteps busSelectStep Selects busesReady [2, 1] := by
  refine (selects_iff busesReady_selected busesReady_remembers [2, 1]).mpr ⟨?_, ?_, trivial⟩
  · exact fun _ _ _ => ⟨by decide, Or.inl rfl⟩
  · exact fun _ _ _ => ⟨by decide, Or.inl rfl⟩

/-- From an I2C bus to an I3C bus and back: the second selection does nothing and succeeds. -/
theorem not_selects_over_i3c : ¬ AllSteps busSelectStep Selects busesReady [3, 1] := by
  rintro ⟨-, ⟨h, -⟩, -⟩
  have hd := (h (by decide +kernel)).defaultBus
  revert hd
  decide +kernel

end BmcAsd
