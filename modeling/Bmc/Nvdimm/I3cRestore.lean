import Bmc.Nvdimm.I3cWaits

/-!
# The controller after a read

`wrRdRegular` changes the threshold register of the controller and writes its old field back at the end.

* `writesTo`, `settle`: the writes to a register, and its value after them;
* `Kept`: other configuration registers are written by restarts only; `Keeps`: the runs of a program;
* `Restored`: the register has its old value, or could not be written back;
* `wrRdRegular_keeps`, `wrRdRegular_writes`: what a run writes;
* **`restored_iff`**: when the register is restored.
-/

namespace BmcNvdimm

open BmcLib

/-! ## Registers after a run -/

/-- The writes to a register, with whether they have succeeded. -/
def writesTo (addr : UInt8) (second : Bool) (reg : LpssReg) (t : Transcript) : List (UInt32 × Bool) :=
  t.filterMap fun p => (p.1.writes addr second reg).map fun val => (val, p.2.success)

/-- The value of a register after writes. A write that has failed has reached the register if `landed`. -/
def settle (landed : Bool) (v : UInt32) (ws : List (UInt32 × Bool)) : UInt32 :=
  ws.foldl (fun v w => if w.2 || landed then w.1 else v) v

/-- The ports, through which data and commands go. -/
def LpssReg.Port : LpssReg → Prop
  | .commandQueuePort | .responseQueuePort | .txDataPort => True
  | _ => False

/-- The access writes no register outside `S`. -/
def PeciAccess.Within (S : LpssReg → Prop) : PeciAccess → Prop
  | .wrEndPointConfigMmio _ _ _ reg _ => S reg
  | _ => True

/-- Registers outside `S` are written by restarts of the controller only. -/
inductive Kept (buses : LpssBuses) (l : Lpss) (S : LpssReg → Prop) : Transcript → Prop
  | nil : Kept buses l S []
  | access {p : PeciAccess × PeciAnswer} {t : Transcript} : p.1.Within S → Kept buses l S t → Kept buses l S (p :: t)
  | restart {t₁ t₂ : Transcript} {r : Except PECIStatus Unit} :
      (restartSpdController buses l).Runs t₁ r → Kept buses l S t₂ → Kept buses l S (t₁ ++ t₂)

/-- `data_buffer_thld_ctrl` is as on entry, unless the second write, that is to restore it, has failed. No other
configuration register is written outside of a restart. -/
structure Restored (buses : LpssBuses) (l : Lpss) (landed : Bool) (v : UInt32) (t : Transcript) : Prop where
  value : settle landed v (writesTo l.peciAddr l.second .dataBufferThldCtrl t) = v ∨
    ∃ w w', writesTo l.peciAddr l.second .dataBufferThldCtrl t = [w, (w', false)]
  kept : Kept buses l (fun reg => reg.Port ∨ reg = .dataBufferThldCtrl) t

/-- By the outcomes of the writes to the register: it is not written; it is written once and the field had the value
already, or the write did not reach it; or it is written back, which fails, or the register was `0`. -/
def Harmless (landed : Bool) (v : UInt32) : List Bool → Prop
  | [] => True
  | [success] => setFields v 18 16 1 = v ∨ success = false ∧ landed = false
  | [_, success] => success = false ∨ v = 0
  | _ => False

section

variable {buses : LpssBuses} {l : Lpss} {S S' : LpssReg → Prop} {t t' : Transcript} {β γ : Type}

theorem writesTo_append (addr : UInt8) (second : Bool) (reg : LpssReg) :
    writesTo addr second reg (t ++ t') = writesTo addr second reg t ++ writesTo addr second reg t' :=
  List.filterMap_append ..

theorem writesTo_rd (reg reg' : LpssReg) (a : PeciAnswer) :
    writesTo l.peciAddr l.second reg' ((l.rd buses reg, a) :: t) = writesTo l.peciAddr l.second reg' t := rfl

theorem writesTo_wr (reg : LpssReg) (val : UInt32) (a : PeciAnswer) :
    writesTo l.peciAddr l.second reg ((l.wr buses reg val, a) :: t) =
      (val, a.success) :: writesTo l.peciAddr l.second reg t := by
  refine List.filterMap_cons_some ?_
  rw [writes_wr, if_pos rfl]
  rfl

/-- A register that no access writes. -/
theorem writesTo_eq_nil {addr : UInt8} {second : Bool} {reg : LpssReg}
    (h : ∀ p ∈ t, p.1.writes addr second reg = none) : writesTo addr second reg t = [] := by
  refine List.filterMap_eq_nil_iff.2 fun p hp => ?_
  rw [h p hp]
  rfl

/-! ## What programs keep -/

theorem Kept.append (h : Kept buses l S t) (h' : Kept buses l S t') : Kept buses l S (t ++ t') := by
  induction h with
  | nil => exact h'
  | access hp _ ih => exact .access hp ih
  | restart hrun _ ih =>
    rw [List.append_assoc]
    exact .restart hrun ih

/-- All runs of the program keep the registers outside `S`, but for restarts. -/
def Keeps (buses : LpssBuses) (l : Lpss) (S : LpssReg → Prop) (x : I3cCode β) : Prop :=
  ∀ t r, x.Runs t r → Kept buses l S t

theorem keeps_pure (b : β) : Keeps buses l S (pure b : I3cCode β) := fun _ _ h => h.1 ▸ .nil

theorem keeps_leave (e : PECIStatus) : Keeps buses l S (.leave e : I3cCode β) := fun _ _ h => h.1 ▸ .nil

theorem keeps_bind {x : I3cCode β} {f : β → I3cCode γ} (hx : Keeps buses l S x) (hf : ∀ b, Keeps buses l S (f b)) :
    Keeps buses l S (x >>= f) := by
  intro t r hrun
  rcases Code.runs_bind.1 hrun with ⟨t₁, t₂, b, rfl, h₁, h₂⟩ | ⟨e, he, -⟩
  · exact (hx _ _ h₁).append (hf b _ _ h₂)
  · exact hx _ _ he

theorem keeps_ite {c : Prop} [Decidable c] {x y : I3cCode β} (hx : Keeps buses l S x) (hy : Keeps buses l S y) :
    Keeps buses l S (if c then x else y) := by
  split_ifs
  · exact hx
  · exact hy

theorem keeps_call {c : PeciAccess} (h : c.Within S) : Keeps buses l S (.call c) := by
  intro t r hrun
  obtain ⟨a, rfl, -⟩ := Code.runs_call.1 hrun
  exact .access h .nil

theorem keeps_rd (reg : LpssReg) (e : PECIStatus) : Keeps buses l S (lpssRegRd buses l reg e) :=
  keeps_bind (keeps_call trivial) fun _ => keeps_ite (keeps_pure _) (keeps_leave _)

theorem keeps_wr {reg : LpssReg} (h : S reg) (val : UInt32) (e : PECIStatus) :
    Keeps buses l S (lpssRegWr buses l reg val e) :=
  keeps_bind (keeps_call (c := l.wr buses reg val) h) fun _ => keeps_ite (keeps_pure _) (keeps_leave _)

theorem keeps_restart : Keeps buses l S (restartSpdController buses l) := fun t _ hrun => by
  rw [← List.append_nil t]
  exact .restart hrun .nil

theorem waitForCmdData_keeps (checkCmd checkTx checkRx : Bool) :
    Keeps buses l S (waitForCmdData buses l checkCmd checkTx checkRx) := by
  rw [waitForCmdData]
  induction maxPolls with
  | zero => exact keeps_leave _
  | succ n ih =>
    exact keeps_bind (keeps_rd _ _) fun _ => keeps_ite (keeps_leave _) (keeps_ite ih (keeps_pure _))

theorem responseLoop_keeps (restartOnError isHalted : Bool) (n : ℕ) :
    Keeps buses l S (responseLoop buses l restartOnError isHalted n) := by
  induction n with
  | zero => exact keeps_pure _
  | succ n ih =>
    exact keeps_bind (keeps_rd _ _) fun _ =>
      keeps_ite (keeps_ite (keeps_bind keeps_restart fun _ => keeps_pure _) (keeps_pure _)) (keeps_ite ih (keeps_pure _))

theorem waitForResponse_keeps (restartOnError : Bool) : Keeps buses l S (waitForResponse buses l restartOnError) :=
  keeps_bind (keeps_rd _ _) fun _ => keeps_bind (responseLoop_keeps _ _ _) fun _ => keeps_bind (keeps_rd _ _) fun _ =>
    keeps_ite keeps_restart (keeps_pure _)

theorem sendDwords_keeps (h : S .txDataPort) (e : PECIStatus) (ws : List UInt32) :
    Keeps buses l S (sendDwords buses l e ws) := by
  induction ws with
  | nil => exact keeps_pure _
  | cons w ws ih => exact keeps_bind (keeps_wr h _ _) fun _ => ih

theorem receiveDwords_keeps (e : PECIStatus) (n : ℕ) : Keeps buses l S (receiveDwords buses l e n) := by
  induction n with
  | zero => exact keeps_pure _
  | succ n ih => exact keeps_bind (keeps_rd _ _) fun _ => keeps_bind ih fun _ => keeps_pure _

/-- **The registers.** A read writes the ports and the threshold register only, but for restarts. -/
theorem wrRdRegular_keeps :
    Keeps buses l (fun reg => reg.Port ∨ reg = .dataBufferThldCtrl) (wrRdRegular buses l) := by
  have hcmd := fun val e =>
    @keeps_wr buses l (fun reg => reg.Port ∨ reg = .dataBufferThldCtrl) .commandQueuePort (.inl trivial) val e
  exact keeps_bind (keeps_rd _ _) fun _ => keeps_bind (keeps_wr (.inr rfl) _ _) fun _ =>
    keeps_bind (waitForCmdData_keeps _ _ _) fun _ => keeps_bind (hcmd _ _) fun _ => keeps_bind (hcmd _ _) fun _ =>
    keeps_bind (hcmd _ _) fun _ => keeps_bind (hcmd _ _) fun _ => keeps_bind (sendDwords_keeps (.inl trivial) _ _) fun _ =>
    keeps_bind (waitForResponse_keeps _) fun _ => keeps_bind (receiveDwords_keeps _ _) fun _ =>
    keeps_bind (keeps_wr (.inr rfl) _ _) fun _ => keeps_pure _

/-! ## The threshold register -/

/-- The program makes no call that writes the threshold register. -/
abbrev Spares (l : Lpss) (c : PeciAccess) : Prop := c.writes l.peciAddr l.second .dataBufferThldCtrl = none

theorem calls_rd (reg : LpssReg) (e : PECIStatus) : (lpssRegRd buses l reg e).Calls (Spares l) :=
  Code.calls_bind (Code.calls_call (writes_rd reg _)) fun _ => Code.calls_ite (Code.calls_pure _) (Code.calls_leave _)

theorem calls_wr {reg : LpssReg} (h : reg ≠ .dataBufferThldCtrl) (val : UInt32) (e : PECIStatus) :
    (lpssRegWr buses l reg val e).Calls (Spares l) :=
  Code.calls_bind (Code.calls_call ((writes_wr reg _ val).trans (if_neg h))) fun _ =>
    Code.calls_ite (Code.calls_pure _) (Code.calls_leave _)

/-- A restart does not write the threshold register. -/
theorem restartSpdController_calls : (restartSpdController buses l).Calls (Spares l) := by
  have hloop : ∀ control n, (restartLoop buses l control n).Calls (Spares l) := by
    intro control n
    induction n with
    | zero => exact Code.calls_leave _
    | succ n ih =>
      refine Code.calls_bind (calls_rd _ _) fun data =>
        Code.calls_ite (Code.calls_bind (calls_wr (by decide) _ _) fun _ => ?_) ?_
      · exact Code.calls_ite (Code.calls_leave _) (Code.calls_ite ih (Code.calls_pure _))
      · exact Code.calls_ite (Code.calls_leave _) (Code.calls_ite ih (Code.calls_pure _))
  exact Code.calls_bind (calls_rd _ _) fun _ => Code.calls_bind (calls_wr (by decide) _ _) fun _ =>
    Code.calls_bind (calls_rd _ _) fun _ => Code.calls_bind (calls_wr (by decide) _ _) fun _ =>
    Code.calls_bind (calls_wr (by decide) _ _) fun _ => Code.calls_bind (calls_wr (by decide) _ _) fun _ => hloop _ _

/-- Where only ports are written, the threshold register is not. -/
theorem Kept.writesTo_eq_nil (h : Kept buses l LpssReg.Port t) :
    writesTo l.peciAddr l.second .dataBufferThldCtrl t = [] := by
  induction h with
  | nil => rfl
  | @access p t hp _ ih =>
    have hnone : p.1.writes l.peciAddr l.second .dataBufferThldCtrl = none := by
      obtain ⟨c, a⟩ := p
      cases c with
      | wrEndPointConfigMmio addr bus second reg val =>
        refine if_neg fun h => ?_
        rw [h.2.2] at hp
        exact hp
      | rdEndPointConfigMmio | rdEndPointConfigPciLocal => rfl
    rw [writesTo, List.filterMap_cons_none (by rw [hnone]; rfl)]
    exact ih
  | restart hrun _ ih =>
    rw [writesTo_append, ih, BmcNvdimm.writesTo_eq_nil (hrun.calls restartSpdController_calls)]
    rfl

/-- The threshold register is written at the end of the program at most, with `val`. -/
def WritesLast (l : Lpss) (val : UInt32) (x : I3cCode β) : Prop :=
  ∀ t r, x.Runs t r → writesTo l.peciAddr l.second .dataBufferThldCtrl t = [] ∨
    ∃ success, writesTo l.peciAddr l.second .dataBufferThldCtrl t = [(val, success)]

theorem writesLast_bind {val : UInt32} {x : I3cCode β} {f : β → I3cCode γ} (hx : Keeps buses l LpssReg.Port x)
    (hf : ∀ b, WritesLast l val (f b)) : WritesLast l val (x >>= f) := by
  intro t r hrun
  rcases Code.runs_bind.1 hrun with ⟨t₁, t₂, b, rfl, h₁, h₂⟩ | ⟨e, he, -⟩
  · rw [writesTo_append, (hx _ _ h₁).writesTo_eq_nil, List.nil_append]
    exact hf b _ _ h₂
  · exact .inl (hx _ _ he).writesTo_eq_nil

theorem writesLast_restore (val : UInt32) (e : PECIStatus) (b : β) : WritesLast l val
    (lpssRegWr buses l .dataBufferThldCtrl val e >>= fun _ => (pure b : I3cCode β)) := by
  intro t r hrun
  obtain ⟨a, t', rfl, h⟩ := runs_wr_bind.1 hrun
  have hnil : t' = [] := h.elim (fun h => h.2.1) fun h => h.2.1
  rw [hnil, writesTo_wr]
  exact .inr ⟨a.success, rfl⟩

/-- **The writes of a read.** The register is not written, or it is written with the field set, or it is written back
after that. -/
theorem wrRdRegular_writes {v : UInt32} {r : Except PECIStatus (List UInt32)} (hrun : (wrRdRegular buses l).Runs t r)
    (hentry : ∀ a, (l.rd buses .dataBufferThldCtrl, a) ∈ t → a.success = true → a.val = v) :
    writesTo l.peciAddr l.second .dataBufferThldCtrl t = [] ∨
      (∃ success, writesTo l.peciAddr l.second .dataBufferThldCtrl t = [(setFields v 18 16 1, success)]) ∨
      ∃ success, writesTo l.peciAddr l.second .dataBufferThldCtrl t =
        [(setFields v 18 16 1, true), ((v >>> 16) &&& 0x7, success)] := by
  obtain ⟨a, t', rfl, ⟨ha, hrun⟩ | ⟨-, rfl, -⟩⟩ := runs_rd_bind.1 hrun
  · rw [hentry a List.mem_cons_self ha] at hrun
    obtain ⟨b, t'', rfl, ⟨hb, hrun⟩ | ⟨hb, rfl, -⟩⟩ := runs_wr_bind.1 hrun
    · rw [writesTo_rd, writesTo_wr, hb]
      have hcmd := fun val e => @keeps_wr buses l LpssReg.Port .commandQueuePort trivial val e
      have hlast : writesTo l.peciAddr l.second .dataBufferThldCtrl t'' = [] ∨ ∃ success,
          writesTo l.peciAddr l.second .dataBufferThldCtrl t'' = [((v >>> 16) &&& 0x7, success)] := by
        refine writesLast_bind (waitForCmdData_keeps _ _ _) (fun _ => ?_) _ _ hrun
        refine writesLast_bind (hcmd _ _) fun _ => writesLast_bind (hcmd _ _) fun _ => ?_
        refine writesLast_bind (hcmd _ _) fun _ => writesLast_bind (hcmd _ _) fun _ => ?_
        refine writesLast_bind (sendDwords_keeps trivial _ _) fun _ => writesLast_bind (waitForResponse_keeps _) fun _ => ?_
        exact writesLast_bind (receiveDwords_keeps _ _) fun rdata => writesLast_restore _ _ rdata
      rcases hlast with hnil | ⟨success, hone⟩
      · exact .inr (.inl ⟨true, by rw [hnil]⟩)
      · exact .inr (.inr ⟨success, by rw [hone]⟩)
    · rw [writesTo_rd, writesTo_wr]
      exact .inr (.inl ⟨b.success, rfl⟩)
  · rw [writesTo_rd]
    exact .inl rfl

/-- The old field is the old value only if that is `0`. -/
theorem oldField_eq_iff (v : UInt32) : (v >>> 16) &&& 0x7 = v ↔ v = 0 := by
  refine ⟨fun h => ?_, fun h => by rw [h]; rfl⟩
  have hn := congrArg UInt32.toNat h
  rw [UInt32.toNat_and, UInt32.toNat_shiftRight] at hn
  have hle : v.toNat >>> 16 &&& 7 ≤ 7 := Nat.and_le_right
  have hlt : v.toNat ≤ 7 := by
    rw [← hn]
    exact hle
  refine UInt32.toNat_inj.1 ?_
  rw [← hn, Nat.shiftRight_eq_div_pow, UInt32.toNat_ofNat, Nat.div_eq_of_lt (by norm_num; omega)]
  rfl

/-- **The register.** It is restored exactly when it is not written, when the field had the value already and it is
not written back, when the first write has no effect, or when it is written back and that fails or the register
was `0`. -/
theorem restored_iff (buses : LpssBuses) (l : Lpss) (landed : Bool) (v : UInt32) (t : Transcript)
    (r : Except PECIStatus (List UInt32)) (hrun : (wrRdRegular buses l).Runs t r)
    (hentry : ∀ a, (l.rd buses .dataBufferThldCtrl, a) ∈ t → a.success = true → a.val = v) :
    Restored buses l landed v t ↔
      Harmless landed v ((writesTo l.peciAddr l.second .dataBufferThldCtrl t).map Prod.snd) := by
  have hvalue : Restored buses l landed v t ↔
      (settle landed v (writesTo l.peciAddr l.second .dataBufferThldCtrl t) = v ∨
        ∃ w w', writesTo l.peciAddr l.second .dataBufferThldCtrl t = [w, (w', false)]) :=
    ⟨Restored.value, fun h => ⟨h, wrRdRegular_keeps t r hrun⟩⟩
  rw [hvalue]
  rcases wrRdRegular_writes hrun hentry with hw | ⟨success, hw⟩ | ⟨success, hw⟩
  · rw [hw]
    exact iff_of_true (.inl rfl) trivial
  · rw [hw]
    cases success
    · cases landed
      · exact iff_of_true (.inl rfl) (.inr ⟨rfl, rfl⟩)
      · exact ⟨fun h => .inl (h.resolve_right fun ⟨_, _, h⟩ => nomatch h),
          fun h => .inl (h.resolve_right fun h => nomatch h.2)⟩
    · exact ⟨fun h => .inl (h.resolve_right fun ⟨_, _, h⟩ => nomatch h),
        fun h => .inl (h.resolve_right fun h => nomatch h.1)⟩
  · rw [hw]
    cases success
    · exact iff_of_true (.inr ⟨_, _, rfl⟩) (.inl rfl)
    · have hsettle : settle landed v [(setFields v 18 16 1, true), ((v >>> 16) &&& 0x7, true)] = (v >>> 16) &&& 0x7 := rfl
      rw [hsettle, oldField_eq_iff]
      exact ⟨fun h => .inr (h.resolve_right fun ⟨_, _, h⟩ => nomatch h), fun h => .inl (h.resolve_left nofun)⟩

/-- A register whose field is 1, and a write of it that fails. -/
theorem restored_iff_failing :
    let l : Lpss := ⟨0x30, 0, 0, 0xb0, fun _ => 0, 4, .i3cMode0, ⟨0, 0, 0⟩⟩
    let t : Transcript := [(l.rd (fun _ => 0) .dataBufferThldCtrl, ⟨true, 0x10000⟩),
      (l.wr (fun _ => 0) .dataBufferThldCtrl 0x10000, ⟨false, 0⟩)]
    (wrRdRegular (fun _ => 0) l).Runs t (.error .fail) ∧
      (Restored (fun _ => 0) l true 0x10000 t ↔
        Harmless true 0x10000 ((writesTo l.peciAddr l.second .dataBufferThldCtrl t).map Prod.snd)) := by
  intro l t
  have hrun : (wrRdRegular (fun _ => 0) l).Runs t (.error .fail) :=
    @Code.runs_of_exec _ _ _ _ _ _ [⟨true, 0x10000⟩, ⟨false, 0⟩] _ rfl
  refine ⟨hrun, restored_iff _ l true 0x10000 t _ hrun fun a ha _ => ?_⟩
  rcases List.mem_cons.1 ha with h | h
  · cases h
    rfl
  · cases List.mem_singleton.1 h

/-- The register is 0, and the program is left when the controller does not tell whether it is ready. The field
stays 1. -/
theorem not_restored : ¬ ∀ (buses : LpssBuses) (l : Lpss) (landed : Bool) (v : UInt32) (t : Transcript)
    (r : Except PECIStatus (List UInt32)), (wrRdRegular buses l).Runs t r →
    (∀ a, (l.rd buses .dataBufferThldCtrl, a) ∈ t → a.success = true → a.val = v) → Restored buses l landed v t := by
  intro h
  let l : Lpss := ⟨0x30, 0, 0, 0xb0, fun _ => 0, 4, .i3cMode0, ⟨0, 0, 0⟩⟩
  let t : Transcript := [(l.rd (fun _ => 0) .dataBufferThldCtrl, ⟨true, 0⟩),
    (l.wr (fun _ => 0) .dataBufferThldCtrl 0x10000, ⟨true, 0⟩), (l.rd (fun _ => 0) .intrStatus, ⟨false, 0⟩)]
  have hrun : (wrRdRegular (fun _ => 0) l).Runs t (.error .i3cFail) :=
    @Code.runs_of_exec _ _ _ _ _ _ [⟨true, 0⟩, ⟨true, 0⟩, ⟨false, 0⟩] _ rfl
  have hentry : ∀ a, (l.rd (fun _ => 0) .dataBufferThldCtrl, a) ∈ t → a.success = true → a.val = 0 := by
    intro a ha _
    rcases List.mem_cons.1 ha with h | h
    · cases h
      rfl
    · rcases List.mem_cons.1 h with h | h
      · cases h
      · cases List.mem_singleton.1 h
  rcases (h _ l false 0 t _ hrun hentry).value with hvalue | ⟨w, w', hfail⟩
  · exact absurd hvalue (by decide)
  · have hone : (writesTo l.peciAddr l.second .dataBufferThldCtrl t).length = 1 := by decide
    rw [hfail] at hone
    exact absurd hone (by simp)

end

end BmcNvdimm
