import Mathlib
import Bmc.Asd.Replies

/-!
# The lock of the I2C bus

`process_message` takes the lock of the default bus around an I2C message. On a platform without I3C:

* `Held`: the invariant while a message is processed; `busSwitch_held`, `doReadWrite_held`: its steps;
* `processI2cMessages_ixc`: what the commands of a packet keep about the bus handlers;
* **`asdRun_locks`**: over any run of messages, no lock outlives its message, and a transaction runs
  under the lock exactly if no bus selection of its message has released it.
-/

namespace BmcAsd

open BmcLib

/-! ## Calls -/

/-- The call releases a lock. -/
def IxcCall.releases : IxcCall → Bool
  | .flock _ op => op = .un
  | _ => false

/-- Some of the calls release a lock. -/
def released (cs : List IxcCall) : Bool := cs.any IxcCall.releases

/-- The call is no transaction, or one on a handle that is locked as `locked` says. -/
def IxcCall.RunsLocked (locked : Bool) : IxcCall → Prop
  | .readWrite f _ => f.locked = locked
  | _ => True

/-- The transactions among the calls run on a locked handle as long as no lock is released, and on an
unlocked one from then on. The flag says that one was released before. -/
def Disciplined : Bool → List IxcCall → Prop
  | _, [] => True
  | r, c :: cs => c.RunsLocked (!r) ∧ Disciplined (r || c.releases) cs

theorem disciplined_append {r : Bool} {cs ds : List IxcCall} :
    Disciplined r (cs ++ ds) ↔ Disciplined r cs ∧ Disciplined (r || released cs) ds := by
  induction cs generalizing r with
  | nil => simp [Disciplined, released]
  | cons c cs ih =>
    have hr : released (c :: cs) = (c.releases || released cs) := List.any_cons
    rw [List.cons_append, Disciplined, ih, Disciplined, hr, and_assoc, Bool.or_assoc]

@[simp] theorem released_append (cs ds : List IxcCall) : released (cs ++ ds) = (released cs || released ds) :=
  List.any_append

/-- Every release of a lock succeeds. -/
def UnlocksSucceed (d : Device IxcCall IxcAnswer) : Prop :=
  ∀ i f, d.log[i]? = some (.flock f .un) → (d.answers i).ok = true

theorem UnlocksSucceed.of_extends {d d' : Device IxcCall IxcAnswer} (h : UnlocksSucceed d') (he : d.Extends d') :
    UnlocksSucceed d := by
  intro i f hi
  obtain ⟨l, hl⟩ := he.2
  rw [← he.1]
  refine h i f ?_
  rw [← hl, List.getElem?_append_left (List.getElem?_eq_some_iff.mp hi).choose]
  exact hi

theorem UnlocksSucceed.answer {d : Device IxcCall IxcAnswer} {f : OpenFile}
    (h : UnlocksSucceed (d.call (.flock f .un))) : d.answer.ok = true :=
  h d.log.length f (by simp)

/-! ## Handlers without I3C -/

/-- The handlers `x` after some more calls, with another handle and another bus. -/
def Ixc.after (x : Ixc) (cs : List IxcCall) (file : Option OpenFile) (i2cBus defaultBus : UInt8) : Ixc :=
  { x with os := x.os.calls cs, i2cDriverHandle := file, i2cBus := i2cBus, defaultBus := defaultBus }

theorem i2cBusFlock_none {x : Ixc} (hf : x.i2cDriverHandle = none) (op : LockOp) : i2cBusFlock x op = (.err, x) := by
  unfold i2cBusFlock flockFile
  rw [hf]
  dsimp only
  rw [if_neg Bool.false_ne_true, ← hf]

theorem i2cBusFlock_some {x : Ixc} {f : OpenFile} (hf : x.i2cDriverHandle = some f) (op : LockOp) :
    i2cBusFlock x op = if x.os.answer.ok = true
      then (.ok, x.after [.flock f op] (some { f with locked := op = .ex }) x.i2cBus x.defaultBus)
      else (.err, x.after [.flock f op] (some f) x.i2cBus x.defaultBus) := by
  unfold i2cBusFlock flockFile
  rw [hf]
  dsimp only [Ixc.call]
  by_cases hok : x.os.answer.ok = true
  · rw [if_pos hok, if_pos hok]
    rfl
  · rw [if_neg hok, if_neg hok]
    rfl

/-- I3C is disabled, and an open handle belongs to the default bus. -/
structure Coherent (x : Ixc) : Prop where
  disabled : x.enableI3c = false
  closed : ∀ i, x.i3cDriverHandlers i = none
  handle : ∀ f ∈ x.i2cDriverHandle, x.enableI2c = true ∧ x.defaultBus = x.i2cBus

section Coherent

variable {x : Ixc} {bus : UInt8} {op : LockOp}

theorem i3cBusFlock_disabled (h : Coherent x) : i3cBusFlock x bus op = (.err, x) := by
  have hselect : i3cBusSelect x bus = (.err, x) := by
    rw [i3cBusSelect, if_neg (by rw [h.disabled]; decide)]
  have hupdate : Function.update x.i3cDriverHandlers 0 none = x.i3cDriverHandlers := by
    rw [Function.update_eq_self_iff, h.closed]
  have hflock : i3cFlockHandlers x op (List.finRange i3cMaxDevHandlers) = (.err, x) := by
    rw [show List.finRange i3cMaxDevHandlers = 0 :: (List.finRange i3cMaxDevHandlers).tail from rfl, i3cFlockHandlers,
      h.closed]
    dsimp only [flockFile]
    rw [hupdate]
    rfl
  unfold i3cBusFlock
  split_ifs
  · rw [hselect]
    rfl
  · exact hflock

theorem devFlock_disabled (h : Coherent x) :
    devFlock x bus op = if x.busType bus = .i2c then i2cBusFlock x op else (.err, x) := by
  unfold devFlock
  cases x.busType bus with
  | i2c => rfl
  | i3c => exact i3cBusFlock_disabled h
  | notAllowed => rfl

theorem busSelect_disabled (h : Coherent x) :
    busSelect x bus = if x.busType bus = .i2c then i2cBusSelect x bus else (.err, x) := by
  unfold busSelect
  cases x.busType bus with
  | i2c => rfl
  | i3c => rw [i3cBusSelect, if_neg (by rw [h.disabled]; decide)]; rfl
  | notAllowed => rfl

end Coherent

/-! ## While a message is processed -/

/-- The handlers `x` while a message is processed for which `d₀` was the operating system. -/
structure Held (d₀ : Device IxcCall IxcAnswer) (x : Ixc) : Prop where
  extends_os : d₀.Extends x.os
  coherent : Coherent x
  type : x.busType x.defaultBus = .i2c
  calls : Disciplined false (d₀.news x.os)
  locked : ∀ f ∈ x.i2cDriverHandle, f.locked = !released (d₀.news x.os)
  missing : x.i2cDriverHandle = none → released (d₀.news x.os) = true

section Held

variable {d₀ : Device IxcCall IxcAnswer} {x : Ixc} {bus : UInt8}

theorem news_after (h : d₀.Extends x.os) (cs : List IxcCall) (file : Option OpenFile) (b d : UInt8) :
    d₀.Extends (x.after cs file b d).os ∧ d₀.news (x.after cs file b d).os = d₀.news x.os ++ cs := by
  have he : x.os.Extends (x.os.calls cs) := ⟨rfl, List.prefix_append _ _⟩
  exact ⟨h.trans he, by rw [Ixc.after, h.news_trans he, Device.news_calls]⟩

/-- A change that keeps the invariant. -/
theorem Held.change (cs : List IxcCall) (file : Option OpenFile) (b d : UInt8) (hx : Held d₀ x)
    (hcs : Disciplined (released (d₀.news x.os)) cs) (hfile : ∀ f ∈ file, x.enableI2c = true ∧ d = b)
    (htype : x.busType d = .i2c) (hlock : ∀ f ∈ file, f.locked = !(released (d₀.news x.os) || released cs))
    (hnone : file = none → (released (d₀.news x.os) || released cs) = true) : Held d₀ (x.after cs file b d) := by
  obtain ⟨he, hn⟩ := news_after hx.extends_os cs file b d
  refine ⟨he, ⟨hx.coherent.disabled, hx.coherent.closed, hfile⟩, htype, ?_, ?_, ?_⟩
  · rw [hn, disciplined_append, Bool.false_or]
    exact ⟨hx.calls, hcs⟩
  · rw [hn, released_append]
    exact hlock
  · rw [hn, released_append]
    exact hnone

/-- A transaction keeps the invariant. -/
theorem doReadWrite_held (hx : Held d₀ x) (msgs : List I2cMsg) : Held d₀ (doReadWrite x msgs).2.2 := by
  rw [doReadWrite_eq, Ixc.transferFile, hx.type]
  dsimp only
  cases hf : x.i2cDriverHandle with
  | none =>
    rw [ite_self]
    exact hx
  | some f =>
    have henable := (hx.coherent.handle f hf).1
    rw [if_pos henable]
    have hlocked := hx.locked f hf
    refine Held.change [.readWrite f msgs] x.i2cDriverHandle x.i2cBus x.defaultBus hx ⟨hlocked, trivial⟩ hx.coherent.handle hx.type ?_ ?_
    · simpa [released, IxcCall.releases] using hx.locked
    · simpa [released, IxcCall.releases] using hx.missing

/-- The release of the lock on the default bus. -/
theorem unlock_held (hx : Held d₀ x) (hu : UnlocksSucceed (devFlock x x.defaultBus .un).2.os) :
    Held d₀ (devFlock x x.defaultBus .un).2 ∧ released (d₀.news (devFlock x x.defaultBus .un).2.os) = true := by
  rw [devFlock_disabled hx.coherent, if_pos hx.type] at hu ⊢
  cases hf : x.i2cDriverHandle with
  | none =>
    rw [i2cBusFlock_none hf]
    exact ⟨hx, hx.missing hf⟩
  | some f =>
    have hreleased : (released (d₀.news x.os) || released [.flock f .un]) = true := by
      simp [released, IxcCall.releases]
    rw [i2cBusFlock_some hf] at hu ⊢
    have hok : x.os.answer.ok = true := by
      refine UnlocksSucceed.answer (d := x.os) (f := f) ?_
      split_ifs at hu <;> exact hu
    rw [if_pos hok]
    refine ⟨hx.change _ _ _ _ ⟨trivial, trivial⟩ (fun _ _ => hx.coherent.handle f hf) hx.type ?_ fun _ => hreleased, ?_⟩
    · rintro _ ⟨⟩
      rw [hreleased]
      rfl
    · rw [(news_after hx.extends_os [.flock f .un] _ _ _).2, released_append]
      exact hreleased

/-- The selection of a bus by its handler, once a lock has been released; the handle is closed and
opened again for the new bus, without a lock. -/
theorem i2cBusSelect_held (cs : List IxcCall) (file : Option OpenFile) (hx : Held d₀ x) (ht : x.busType bus = .i2c)
    (hcs : Disciplined (released (d₀.news x.os)) cs) (hr : (released (d₀.news x.os) || released cs) = true)
    (hkeep : bus = x.i2cBus ∨ x.enableI2c ≠ true → Held d₀ (x.after cs file x.i2cBus x.defaultBus)) :
    Held d₀ (i2cBusSelect (x.after cs file x.i2cBus x.defaultBus) bus).2 := by
  have hallowed : (x.after cs file x.i2cBus x.defaultBus).busAllowed .i2c bus = true :=
    busAllowed_of_busType (x := x.after cs file x.i2cBus x.defaultBus) ht (by decide)
  have hopen : Disciplined (released (d₀.news x.os)) (cs ++ [.openDevice .i2c bus 0]) ∧
      (released (d₀.news x.os) || released (cs ++ [.openDevice .i2c bus 0])) = true := by
    rw [disciplined_append, released_append, ← Bool.or_assoc, hr]
    exact ⟨⟨hcs, trivial, trivial⟩, rfl⟩
  unfold i2cBusSelect
  by_cases hen : x.enableI2c = true
  swap
  · rw [if_neg (show ¬ (x.after cs file x.i2cBus x.defaultBus).enableI2c = true from hen)]
    exact hkeep (Or.inr hen)
  rw [if_pos (show (x.after cs file x.i2cBus x.defaultBus).enableI2c = true from hen)]
  by_cases hbus : bus = x.i2cBus
  · rw [if_pos (show bus = (x.after cs file x.i2cBus x.defaultBus).i2cBus from hbus)]
    exact hkeep (Or.inl hbus)
  rw [if_neg (show ¬ bus = (x.after cs file x.i2cBus x.defaultBus).i2cBus from hbus), if_pos hallowed, i2cOpenDriver_eq]
  split_ifs
  · have hheld := Held.change _ (some ⟨.i2c, bus, 0, false⟩) bus bus hx hopen.1
      (fun _ _ => ⟨hen, rfl⟩) ht ?_ fun _ => hopen.2
    · rw [Ixc.after, ← Device.calls_calls] at hheld
      exact hheld
    · rintro _ ⟨⟩
      rw [hopen.2]
      rfl
  · have hheld := Held.change _ none x.i2cBus x.defaultBus hx hopen.1
      (fun _ h => absurd h (Option.not_mem_none _)) hx.type (fun _ h => absurd h (Option.not_mem_none _)) fun _ => hopen.2
    rw [Ixc.after, ← Device.calls_calls] at hheld
    exact hheld

/-- The second half of a bus selection: the lock is taken on the handle of the old bus, and goes away
when the handle is closed. -/
theorem lockSelect_held (hx : Held d₀ x) (hr : released (d₀.news x.os) = true) (hne : x.defaultBus ≠ bus) :
    Held d₀ (if (devFlock x bus .ex).1 = .ok then busSelect (devFlock x bus .ex).2 bus
      else (.err, (devFlock x bus .ex).2)).2 := by
  rw [devFlock_disabled hx.coherent]
  by_cases ht : x.busType bus = .i2c
  swap
  · rw [if_neg ht, if_neg Status.noConfusion]
    exact hx
  rw [if_pos ht]
  cases hf : x.i2cDriverHandle with
  | none =>
    rw [i2cBusFlock_none hf, if_neg Status.noConfusion]
    exact hx
  | some f =>
    have hcs : Disciplined (released (d₀.news x.os)) [.flock f .ex] := ⟨trivial, trivial⟩
    have hrel : (released (d₀.news x.os) || released [.flock f .ex]) = true := by rw [hr]; rfl
    have hhandle := hx.coherent.handle f hf
    rw [i2cBusFlock_some hf]
    by_cases hok : x.os.answer.ok = true
    · set file : Option OpenFile := some { f with locked := LockOp.ex = .ex } with hfile
      have hc : Coherent (x.after [.flock f .ex] file x.i2cBus x.defaultBus) :=
        ⟨hx.coherent.disabled, hx.coherent.closed, fun _ _ => hhandle⟩
      rw [if_pos hok, if_pos rfl, busSelect_disabled hc,
        if_pos (show (x.after [.flock f .ex] file x.i2cBus x.defaultBus).busType bus = .i2c from ht)]
      refine i2cBusSelect_held _ _ hx ht hcs hrel ?_
      -- the handle is open, so that its bus is the default bus
      rintro (hbus | hen)
      · exact absurd (hhandle.2.trans hbus.symm) hne
      · exact absurd hhandle.1 hen
    · rw [if_neg hok, if_neg Status.noConfusion]
      refine hx.change _ _ _ _ hcs (fun _ _ => hhandle) hx.type ?_ fun _ => hrel
      rintro _ ⟨⟩
      rw [hrel, hx.locked f hf, hr]

/-- A lock or its release only adds a call. -/
theorem devFlock_coherent (hx : Coherent x) (bus : UInt8) (op : LockOp) :
    Coherent (devFlock x bus op).2 ∧ x.os.Extends (devFlock x bus op).2.os := by
  rw [devFlock_disabled hx]
  split_ifs
  · cases hf : x.i2cDriverHandle with
    | none =>
      rw [i2cBusFlock_none hf]
      exact ⟨hx, .refl _⟩
    | some f =>
      rw [i2cBusFlock_some hf]
      split_ifs <;> exact ⟨⟨hx.disabled, hx.closed, fun _ _ => hx.handle f hf⟩, rfl, List.prefix_append _ _⟩
  · exact ⟨hx, .refl _⟩

theorem busSelect_extends (hx : Coherent x) (bus : UInt8) : x.os.Extends (busSelect x bus).2.os := by
  rw [busSelect_disabled hx]
  unfold i2cBusSelect
  rw [i2cOpenDriver_eq]
  split_ifs <;> first | rfl | exact ⟨rfl, List.prefix_append _ _⟩

theorem lockSelect_extends (hx : Coherent x) (bus : UInt8) : x.os.Extends
    (if (devFlock x bus .ex).1 = .ok then busSelect (devFlock x bus .ex).2 bus else (.err, (devFlock x bus .ex).2)).2.os := by
  obtain ⟨hc, he⟩ := devFlock_coherent hx bus .ex
  split_ifs
  · exact he.trans (busSelect_extends hc bus)
  · exact he

/-- A bus selection only adds calls. -/
theorem busSwitch_extends (hx : Coherent x) (bus : UInt8) : x.os.Extends (busSwitch x bus).2.os := by
  unfold busSwitch
  split_ifs
  · obtain ⟨hc, he⟩ := devFlock_coherent hx x.defaultBus .un
    exact he.trans (lockSelect_extends hc bus)
  · exact busSelect_extends hx bus

/-- **A bus selection keeps the invariant.** -/
theorem busSwitch_held (hx : Held d₀ x) (hu : UnlocksSucceed (busSwitch x bus).2.os) : Held d₀ (busSwitch x bus).2 := by
  unfold busSwitch at hu ⊢
  by_cases hne : x.defaultBus ≠ bus
  · rw [if_pos hne] at hu ⊢
    have hc := (devFlock_coherent hx.coherent x.defaultBus .un).1
    obtain ⟨hheld, hr⟩ := unlock_held hx (hu.of_extends (lockSelect_extends hc bus))
    refine lockSelect_held hheld hr ?_
    rw [devFlock_disabled hx.coherent, if_pos hx.type]
    cases hf : x.i2cDriverHandle with
    | none => rwa [i2cBusFlock_none hf]
    | some f =>
      rw [i2cBusFlock_some hf]
      split_ifs <;> exact hne
  · rw [if_neg hne, busSelect_disabled hx.coherent]
    split_ifs with ht
    · cases hf : x.i2cDriverHandle with
      | none =>
        have hx' : x.after [] none x.i2cBus x.defaultBus = x := by
          rw [Ixc.after, Device.calls_nil, ← hf]
        have hsel := i2cBusSelect_held [] none hx ht trivial
          (by rw [hx.missing hf]; rfl) fun _ => hx'.symm ▸ hx
        rwa [hx'] at hsel
      | some f =>
        obtain ⟨hen, hdef⟩ := hx.coherent.handle f hf
        rw [i2cBusSelect, if_pos hen, if_pos ((not_not.mp hne).symm.trans hdef)]
        exact hx
    · exact hx

theorem busSelect_coherent (hx : Coherent x) (bus : UInt8) : Coherent (busSelect x bus).2 := by
  rw [busSelect_disabled hx]
  unfold i2cBusSelect
  rw [i2cOpenDriver_eq]
  split_ifs with _ hen
  · exact hx
  · exact ⟨hx.disabled, hx.closed, fun _ _ => ⟨hen, rfl⟩⟩
  · exact ⟨hx.disabled, hx.closed, fun _ h => absurd h (Option.not_mem_none _)⟩
  · exact hx
  · exact hx
  · exact hx

theorem busSwitch_coherent (hx : Coherent x) (bus : UInt8) : Coherent (busSwitch x bus).2 := by
  unfold busSwitch
  split_ifs
  · have hu := (devFlock_coherent hx x.defaultBus .un).1
    have hl := (devFlock_coherent hu bus .ex).1
    dsimp only
    split_ifs
    · exact busSelect_coherent hl bus
    · exact hl
  · exact busSelect_coherent hx bus

theorem doReadWrite_coherent (hx : Coherent x) (msgs : List I2cMsg) :
    Coherent (doReadWrite x msgs).2.2 ∧ x.os.Extends (doReadWrite x msgs).2.2.os := by
  rw [doReadWrite_eq]
  unfold readWriteFile
  split
  · exact ⟨hx, .refl _⟩
  · exact ⟨⟨hx.disabled, hx.closed, hx.handle⟩, rfl, List.prefix_append _ _⟩

end Held

/-! ## The loop over a packet -/

section Packet

variable {P : Ixc → Prop} {l : I2cLoop}

/-- The bus handlers are used by bus selections and by transactions only. -/
structure KeptByPacket (P : Ixc → Prop) : Prop where
  busSwitch : ∀ x bus, P x → P (busSwitch x bus).2
  doReadWrite : ∀ x msgs, P x → P (doReadWrite x msgs).2.2

theorem withData_ixc (h : P l.st.ixc) {n : ℕ} {k : List UInt8 → I2cLoop → I2cLoop}
    (hk : ∀ bytes l', P l'.st.ixc → P (k bytes l').st.ixc) : P (l.withData n k).st.ixc := by
  unfold I2cLoop.withData
  split
  · exact h
  · exact hk _ _ h

theorem add_ixc (h : P l.st.ixc) (msg : I2cMsg) : P (l.add msg).st.ixc := by
  have hst : (i2cMsgAdd l.st l.builder msg).2.1.ixc = l.st.ixc := by
    unfold i2cMsgAdd
    dsimp only
    split_ifs <;> rfl
  exact (congrArg P hst).mpr h

theorem i2cDispatch_ixc (hP : KeptByPacket P) (h : P l.st.ixc) (cmd : UInt8) : P (i2cDispatch l cmd).st.ixc := by
  have hread : P (doReadCommand l cmd).st.ixc :=
    withData_ixc (l := { l with forceStop := false }) h fun bytes l' h' =>
      add_ixc (l := { l' with forceStop := i2cForceStop (bytes.headD 0) }) h' _
  have hwrite : P (doWriteCommand l cmd).st.ixc :=
    withData_ixc (l := { l with forceStop := false }) h fun bytes l' h' =>
      withData_ixc (l := { l' with forceStop := i2cForceStop (bytes.headD 0) }) h' fun _ _ h'' => add_ixc h'' _
  unfold i2cDispatch
  split_ifs
  · unfold doBusSelectCommand
    split
    · exact h
    · dsimp only
      rw [(busSelectCommand_eq _ _).2]
      exact hP.busSwitch _ _ h
  · exact withData_ixc h fun _ _ h' => h'
  · exact hread
  · exact hwrite
  · exact h

theorem flushI2c_ixc (hP : KeptByPacket P) (h : P l.st.ixc) : P (flushI2c l).st.ixc := by
  have hrw := hP.doReadWrite l.st.ixc l.builder h
  obtain ⟨out, net, acc, hb, -⟩ := buildResponses_frame (l.st.setIxc (doReadWrite l.st.ixc l.builder).2.2) l.responseCnt
    (decide ((doReadWrite l.st.ixc l.builder).1 = .ok)) (doReadWrite l.st.ixc l.builder).2.1
  have hixc := congrArg AsdMsg.ixc hb
  unfold flushI2c
  dsimp only
  split_ifs <;> exact (congrArg P hixc).mpr hrw

theorem i2cCommand_ixc (hP : KeptByPacket P) (h : P l.st.ixc) : P (i2cCommand l).st.ixc := by
  have hd := withData_ixc h (n := 1) fun bytes l' h' => i2cDispatch_ixc (l := l') hP h' (bytes.headD 0)
  unfold i2cCommand i2cRoundEnd
  split_ifs
  · exact hd
  · exact flushI2c_ixc hP hd
  · exact hd

theorem sendResponse_ixc (s : AsdMsg) (m : AsdMessage) : (sendResponse s m).2.ixc = s.ixc := by
  unfold sendResponse
  split <;> rfl

/-- **The rule for a packet.** -/
theorem processI2cMessages_ixc (hP : KeptByPacket P) {s : AsdMsg} (h : P s.ixc) (m : AsdMessage) :
    P (processI2cMessages s m).2.ixc := by
  have hreply : ∀ l : I2cLoop, P l.st.ixc → P (i2cReply l).2.ixc := by
    intro l hl
    unfold i2cReply
    split_ifs
    · dsimp only
      rw [sendResponse_ixc]
      exact hl
    · exact hl
  unfold processI2cMessages
  cases getMessageSize m.header with
  | none =>
    dsimp only
    split_ifs <;> exact h
  | some size =>
    dsimp only
    split_ifs
    · exact hreply _ (whileN_inv (P := fun l : I2cLoop => P l.st.ixc) (fun l hl _ => i2cCommand_ixc hP hl) h _)
    · exact h
    · exact h

end Packet

/-! ## Messages -/

/-- The handlers between two messages: coherent, and nothing is locked if the releases have succeeded. -/
structure Idle (x : Ixc) : Prop where
  coherent : Coherent x
  unlocked : UnlocksSucceed x.os → ∀ f ∈ x.i2cDriverHandle, f.locked = false

/-- What holds after a message that began with `d₀` and now has the handlers `x`. -/
structure Obeys (d₀ : Device IxcCall IxcAnswer) (x : Ixc) : Prop where
  extends_os : d₀.Extends x.os
  idle : Idle x
  calls : UnlocksSucceed x.os → Disciplined false (d₀.news x.os)

section Message

variable {d₀ : Device IxcCall IxcAnswer} {x : Ixc}

/-- The invariant of a packet, as long as the releases succeed. -/
theorem keptByPacket_held (d₀ : Device IxcCall IxcAnswer) :
    KeptByPacket fun x => Coherent x ∧ d₀.Extends x.os ∧ (UnlocksSucceed x.os → Held d₀ x) where
  busSwitch _ bus h :=
    have he := busSwitch_extends h.1 bus
    ⟨busSwitch_coherent h.1 bus, h.2.1.trans he, fun hu => busSwitch_held (h.2.2 (hu.of_extends he)) hu⟩
  doReadWrite _ msgs h :=
    have he := doReadWrite_coherent h.1 msgs
    ⟨he.1, h.2.1.trans he.2, fun hu => doReadWrite_held (h.2.2 (hu.of_extends he.2)) msgs⟩

/-- The lock at the beginning of a message. -/
theorem lock_held (hx : Idle x) (he : d₀.Extends x.os) (hd : Disciplined false (d₀.news x.os))
    (hr : released (d₀.news x.os) = false) : if (devFlock x x.defaultBus .ex).1 = .ok
      then Held d₀ (devFlock x x.defaultBus .ex).2 else Obeys d₀ (devFlock x x.defaultBus .ex).2 := by
  have hstay : Obeys d₀ x := ⟨he, hx, fun _ => hd⟩
  rw [devFlock_disabled hx.coherent]
  by_cases ht : x.busType x.defaultBus = .i2c
  swap
  · rw [if_neg ht, if_neg Status.noConfusion]
    exact hstay
  rw [if_pos ht]
  cases hf : x.i2cDriverHandle with
  | none =>
    rw [i2cBusFlock_none hf, if_neg Status.noConfusion]
    exact hstay
  | some f =>
    have hhandle := hx.coherent.handle f hf
    have hafter : ∀ file : Option OpenFile, Coherent (x.after [.flock f .ex] file x.i2cBus x.defaultBus) ∧
        d₀.Extends (x.after [.flock f .ex] file x.i2cBus x.defaultBus).os ∧
        d₀.news (x.after [.flock f .ex] file x.i2cBus x.defaultBus).os = d₀.news x.os ++ [.flock f .ex] :=
      fun file => ⟨⟨hx.coherent.disabled, hx.coherent.closed, fun _ _ => hhandle⟩, news_after he _ _ _ _⟩
    have hcalls : Disciplined false (d₀.news x.os ++ [.flock f .ex]) := disciplined_append.mpr ⟨hd, trivial, trivial⟩
    have hrel : released (d₀.news x.os ++ [.flock f .ex]) = false := by rw [released_append, hr]; rfl
    rw [i2cBusFlock_some hf]
    by_cases hok : x.os.answer.ok = true
    · obtain ⟨hc, he', hn⟩ := hafter (some { f with locked := LockOp.ex = .ex })
      rw [if_pos hok, if_pos rfl]
      refine ⟨he', hc, ht, by rw [hn]; exact hcalls, ?_, fun h => absurd h (Option.some_ne_none _)⟩
      rintro _ ⟨⟩
      rw [hn, hrel]
      rfl
    · obtain ⟨hc, he', hn⟩ := hafter (some f)
      rw [if_neg hok, if_neg Status.noConfusion]
      refine ⟨he', ⟨hc, fun hu => ?_⟩, fun _ => by rw [hn]; exact hcalls⟩
      rintro _ ⟨⟩
      exact hx.unlocked (hu.of_extends ⟨rfl, List.prefix_append _ _⟩) f hf

/-- The release of the lock at the end of a message. -/
theorem unlock_obeys (hc : Coherent x) (he : d₀.Extends x.os) (hheld : UnlocksSucceed x.os → Held d₀ x) :
    Obeys d₀ (devFlock x x.defaultBus .un).2 := by
  obtain ⟨hc', he'⟩ := devFlock_coherent hc x.defaultBus .un
  have hall : UnlocksSucceed (devFlock x x.defaultBus .un).2.os → Held d₀ (devFlock x x.defaultBus .un).2 ∧
      released (d₀.news (devFlock x x.defaultBus .un).2.os) = true :=
    fun hu => unlock_held (hheld (hu.of_extends he')) hu
  refine ⟨he.trans he', ⟨hc', fun hu f hf => ?_⟩, fun hu => (hall hu).1.calls⟩
  obtain ⟨hh, hr⟩ := hall hu
  rw [hh.locked f hf, hr]
  rfl

section Dispatch

variable {s : AsdMsg} {m : AsdMessage}

theorem processLocked_obeys (hc : Coherent s.ixc) (he : d₀.Extends s.ixc.os) (hheld : Held d₀ s.ixc) :
    Obeys d₀ (processLocked s m).ixc := by
  obtain ⟨hc', he', hh'⟩ := processI2cMessages_ixc (keptByPacket_held d₀) (s := s) ⟨hc, he, fun _ => hheld⟩ m
  have hixc : (if (processI2cMessages s m).1 = .ok then (processI2cMessages s m).2
      else sendErrorMessage (processI2cMessages s m).2 m.header asdFailureProcessI2cMsg).ixc =
      (processI2cMessages s m).2.ixc := by
    split_ifs
    · rfl
    · rw [sendErrorMessage_ixc]
  have hu := unlock_obeys hc' he' hh'
  rw [← hixc] at hu
  unfold processLocked flockDefaultBus
  dsimp only
  generalize (if (processI2cMessages s m).1 = .ok then (processI2cMessages s m).2
    else sendErrorMessage (processI2cMessages s m).2 m.header asdFailureProcessI2cMsg) = t at hu ⊢
  split_ifs
  · exact hu
  · rw [sendErrorMessage_ixc]
    exact hu

theorem processJtag_ixc : (processJtag s m).ixc = s.ixc := by
  have hreply : ∀ l : JtagLoop, (jtagReply l m).2.ixc = l.st.ixc := by
    intro l
    unfold jtagReply
    split_ifs
    · dsimp only
      rw [sendResponse_ixc]
      rfl
    · rfl
  have hproc : (processJtagMessage s m).2.ixc = s.ixc := by
    unfold processJtagMessage
    cases getMessageSize m.header with
    | none => rfl
    | some size =>
      dsimp only
      rw [hreply]
      exact congrArg (fun k => k.2.2) (jtagRun_kept (l := jtagLoopStart s m size) size)
  unfold processJtag
  dsimp only
  split_ifs
  · exact hproc
  · rw [sendErrorMessage_ixc]
    exact hproc

theorem processMessage_obeys (hx : Idle s.ixc) (he : d₀.Extends s.ixc.os) (hd : Disciplined false (d₀.news s.ixc.os))
    (hr : released (d₀.news s.ixc.os) = false) : Obeys d₀ (processMessage s m).ixc := by
  have hstay : Obeys d₀ s.ixc := ⟨he, hx, fun _ => hd⟩
  unfold processMessage
  split_ifs
  · rw [processJtag_ixc]
    exact hstay
  · have hlock := lock_held hx he hd hr
    unfold processI2c flockDefaultBus
    dsimp only
    by_cases hok : (devFlock s.ixc s.ixc.defaultBus .ex).1 = .ok
    · rw [if_pos hok] at hlock ⊢
      split_ifs
      · exact processLocked_obeys hlock.coherent hlock.extends_os hlock
      · rw [sendErrorMessage_ixc]
        exact hstay
    · rw [if_neg hok] at hlock ⊢
      split_ifs
      · rw [sendErrorMessage_ixc]
        exact hlock
      · rw [sendErrorMessage_ixc]
        exact hstay
  · rw [sendErrorMessage_ixc]
    exact hstay

theorem agentControlCommand_ixc (s : AsdMsg) : (agentControlCommand s m).2.ixc = s.ixc := by
  have hconfig : (agentConfiguration s m).ixc = s.ixc := by
    unfold agentConfiguration
    dsimp only
    split
    · rfl
    · split
      · rfl
      · split_ifs <;> rfl
  have hprobes : (remoteProbesConfig s).2.ixc = s.ixc := by
    unfold remoteProbesConfig
    dsimp only
    split_ifs <;> rfl
  have hversion : (obtainDownstreamVersion s).2.ixc = s.ixc := by
    unfold obtainDownstreamVersion
    dsimp only
    split_ifs <;> rfl
  have hbuses : (supportedI2cBuses s).ixc = s.ixc := by
    unfold supportedI2cBuses
    split_ifs <;> rfl
  unfold agentControlCommand
  dsimp only
  split_ifs
  · rfl
  · rfl
  · rfl
  · exact hbuses
  · exact hprobes
  · exact hversion
  · exact hconfig
  · rfl
  · rfl

theorem supportedRemoteProbes_ixc {t : AsdMsg} (ht : supportedRemoteProbes s = some t) : t.ixc = s.ixc := by
  unfold supportedRemoteProbes at ht
  dsimp only at ht
  split_ifs at ht
  all_goals
    obtain rfl := Option.some.inj ht
    rfl

theorem agentControl_ixc : (agentControl s m).2.ixc = s.ixc := by
  have hreply : ∀ r : Status × AsdMsg, (agentControlReply r).2.ixc = r.2.ixc := fun r => sendResponse_ixc r.2 r.2.outMsg
  unfold agentControl
  dsimp only
  split_ifs
  · split
    · rename_i hprobes
      rw [hreply]
      have hixc := supportedRemoteProbes_ixc hprobes
      exact hixc
    · exact sendErrorMessage_ixc _ _ _
  · rw [hreply]
    exact agentControlCommand_ixc _

/-- The initialisation of the buses opens the handle of the default bus, and takes no lock. -/
theorem initializeBuses_idle (hx : Idle x) : Idle (initializeBuses x).2 ∧ x.os.Extends (initializeBuses x).2.os ∧
    Disciplined false (x.os.news (initializeBuses x).2.os) ∧ released (x.os.news (initializeBuses x).2.os) = false := by
  have hstay : Idle x ∧ x.os.Extends x.os ∧ Disciplined false (x.os.news x.os) ∧ released (x.os.news x.os) = false := by
    rw [Device.news_self]
    exact ⟨hx, .refl _, trivial, rfl⟩
  have hbuses : (initializeBuses x).2 = (if x.enableI2c then i2cInitialize x else (.ok, x)).2 := by
    have hi3c : ∀ r : Status × Ixc, r.2.enableI3c = false →
        (if r.1 = .ok then
          (decide ((if r.2.enableI3c = true then i3cInitialize r.2 else (Status.ok, r.2)).1 = Status.ok),
            (if r.2.enableI3c = true then i3cInitialize r.2 else (Status.ok, r.2)).2)
        else (false, r.2)).2 = r.2 := by
      intro r hr
      have hoff : ¬ r.2.enableI3c = true := by
        rw [hr]
        exact Bool.false_ne_true
      rw [if_neg hoff]
      split_ifs <;> rfl
    refine hi3c _ ?_
    unfold i2cInitialize i2cBusSelect
    rw [i2cOpenDriver_eq]
    split_ifs <;> exact hx.coherent.disabled
  rw [hbuses]
  unfold i2cInitialize i2cBusSelect
  rw [i2cOpenDriver_eq]
  by_cases hen : x.enableI2c = true
  swap
  · rw [if_neg hen]
    exact hstay
  rw [if_pos hen, if_pos hen, if_pos hen]
  split_ifs
  · exact hstay
  · refine ⟨⟨⟨hx.coherent.disabled, hx.coherent.closed, fun _ _ => ⟨hen, rfl⟩⟩, ?_⟩,
      ⟨rfl, List.prefix_append _ _⟩, ?_⟩
    · rintro - _ ⟨⟩
      rfl
    · rw [Ixc.i2cOpened, Device.news_call]
      exact ⟨⟨trivial, trivial⟩, rfl⟩
  · refine ⟨⟨⟨hx.coherent.disabled, hx.coherent.closed, fun _ h => absurd h (Option.not_mem_none _)⟩,
      fun _ _ h => absurd h (Option.not_mem_none _)⟩, ⟨rfl, List.prefix_append _ _⟩, ?_⟩
    rw [Ixc.i2cMissing, Device.news_call]
    exact ⟨⟨trivial, trivial⟩, rfl⟩
  · exact hstay

theorem initializeHandlers_ixc (s : AsdMsg) :
    (initializeHandlers s).2.ixc = s.ixc ∨ (initializeHandlers s).2.ixc = (initializeBuses s.ixc).2 := by
  unfold initializeHandlers
  dsimp only
  split_ifs
  · exact Or.inr rfl
  · exact Or.inr rfl
  · exact Or.inr rfl
  · exact Or.inl rfl

/-- **One message.** -/
theorem asdMsgOnMsgRecv_obeys (hx : Idle s.ixc) : Obeys s.ixc.os (asdMsgOnMsgRecv m s).2.ixc := by
  have hself : Disciplined false (s.ixc.os.news s.ixc.os) ∧ released (s.ixc.os.news s.ixc.os) = false := by
    rw [Device.news_self]
    exact ⟨trivial, rfl⟩
  have hstay : Obeys s.ixc.os s.ixc := ⟨.refl _, hx, fun _ => hself.1⟩
  have hinit : Idle (initializeHandlers s).2.ixc ∧ s.ixc.os.Extends (initializeHandlers s).2.ixc.os ∧
      Disciplined false (s.ixc.os.news (initializeHandlers s).2.ixc.os) ∧
      released (s.ixc.os.news (initializeHandlers s).2.ixc.os) = false := by
    rcases initializeHandlers_ixc s with h | h
    · rw [h]
      exact ⟨hx, .refl _, hself⟩
    · rw [h]
      exact initializeBuses_idle hx
  obtain ⟨hidle, he, hd, hr⟩ := hinit
  unfold asdMsgOnMsgRecv
  split_ifs
  · rw [sendErrorMessage_ixc]
    exact hstay
  · rw [agentControl_ixc]
    exact hstay
  · exact processMessage_obeys hx (.refl _) hself.1 hself.2
  · have hreport : (reportXdp (initializeHandlers s).2 m.header).ixc = (initializeHandlers s).2.ixc := by
      unfold reportXdp
      split_ifs
      · exact sendErrorMessage_ixc _ _ _
      · rfl
    dsimp only
    split
    · rw [sendErrorMessage_ixc]
      exact ⟨he, hidle, fun _ => hd⟩
    · rw [← hreport] at hidle he hd hr
      exact processMessage_obeys hidle he hd hr

end Dispatch

end Message

/-! ## Runs -/

/-- The messages that `asd_msg_on_msg_recv` gets one after the other. -/
def asdRun (s : AsdMsg) (ms : List AsdMessage) : AsdMsg := ms.foldl (fun s m => (asdMsgOnMsgRecv m s).2) s

/-- While the message is processed, transactions run locked until a lock is released; afterwards
nothing is locked. -/
def LocksRightly (s : AsdMsg) (m : AsdMessage) : Prop :=
  Disciplined false (s.ixc.os.news (asdMsgOnMsgRecv m s).2.ixc.os) ∧
    ∀ f ∈ (asdMsgOnMsgRecv m s).2.ixc.i2cDriverHandle, f.locked = false

theorem asdRun_extends {s : AsdMsg} (hx : Idle s.ixc) (ms : List AsdMessage) : s.ixc.os.Extends (asdRun s ms).ixc.os := by
  induction ms generalizing s with
  | nil => exact .refl _
  | cons m ms ih =>
    have h := asdMsgOnMsgRecv_obeys (m := m) hx
    exact h.extends_os.trans (ih h.idle)

theorem asdRun_obeys {s : AsdMsg} (hx : Idle s.ixc) (ms : List AsdMessage) (hu : UnlocksSucceed (asdRun s ms).ixc.os) :
    AllSteps (fun s m => (asdMsgOnMsgRecv m s).2) LocksRightly s ms := by
  induction ms generalizing s with
  | nil => trivial
  | cons m ms ih =>
    have h := asdMsgOnMsgRecv_obeys (m := m) hx
    have hu' := hu.of_extends (asdRun_extends h.idle ms)
    exact ⟨⟨h.calls hu', h.idle.unlocked hu'⟩, ih h.idle hu⟩

/-- **The lock of the I2C bus.** On a platform without I3C, over any run of messages in which the
releases of locks succeed: no lock outlives its message, and within a message the transactions run
under the lock up to the first release, which a bus selection makes, and without it from then on. -/
theorem asdRun_locks (p : Platform) (h3 : p.ixc.enableI3c = false) (ms : List AsdMessage)
    (hu : UnlocksSucceed (asdRun (asdMsgInit p) ms).ixc.os) :
    AllSteps (fun s m => (asdMsgOnMsgRecv m s).2) LocksRightly (asdMsgInit p) ms := by
  refine asdRun_obeys ⟨⟨h3, fun _ => rfl, fun _ h => absurd h (Option.not_mem_none _)⟩, ?_⟩ ms hu
  exact fun _ _ h => absurd h (Option.not_mem_none _)

/-- A platform with two I2C buses whose devices never fail. -/
def i2cPlatform : Platform :=
  { Platform.quiet .software with ixc := { quietBuses with enableI3c := false } }

/-- A write on bus 1, the selection of bus 2, and a write there. -/
def switchingMessage : AsdMessage :=
  ⟨{ MessageHeader.zero.withSize 8 with type := i2cType }, block 0 [0x61, 0x41, 7, 1, 2, 0x61, 0x40, 8]⟩

theorem asdRun_locks_switching :
    AllSteps (fun s m => (asdMsgOnMsgRecv m s).2) LocksRightly (asdMsgInit i2cPlatform) [switchingMessage, switchingMessage] :=
  asdRun_locks i2cPlatform rfl [switchingMessage, switchingMessage] fun _ _ _ => rfl

end BmcAsd
