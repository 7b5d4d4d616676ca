import Bmc.Nvdimm.I3c

/-!
# The loops of a transfer

* `writtenTo`, `readFrom`: what a transcript writes to a register and reads from it; `Broken`, `TimedOut`;
* **`waitForCmdData_runs`**, **`restartSpdController_runs`**, **`waitForResponse_runs`**: what the loops that poll come to;
* `sendDwords_runs`: the data.
-/

namespace BmcNvdimm

open BmcLib

/-- The accesses over PECI, with their answers. -/
abbrev Transcript := List (PeciAccess × PeciAnswer)

/-! ## What a transcript does -/

/-- The value that an access writes to a register of a controller. -/
def PeciAccess.writes (addr : UInt8) (second : Bool) (reg : LpssReg) : PeciAccess → Option UInt32
  | .wrEndPointConfigMmio addr' _ second' reg' val =>
    if addr' = addr ∧ second' = second ∧ reg' = reg then some val else none
  | _ => none

/-- The access reads a register of a controller. -/
def PeciAccess.reads (addr : UInt8) (second : Bool) (reg : LpssReg) : PeciAccess → Bool
  | .rdEndPointConfigMmio addr' _ second' reg' => addr' = addr && second' = second && reg' = reg
  | _ => false

section Features

variable (addr : UInt8) (second : Bool) (reg : LpssReg)

/-- The values that are written to a register. -/
def writtenTo (t : Transcript) : List UInt32 := t.filterMap fun p => p.1.writes addr second reg

/-- The answers that are read from a register. -/
def readFrom (t : Transcript) : List PeciAnswer := (t.filter fun p => p.1.reads addr second reg).map Prod.snd

@[simp] theorem writtenTo_nil : writtenTo addr second reg [] = [] := rfl

@[simp] theorem readFrom_nil : readFrom addr second reg [] = [] := rfl

@[simp] theorem writtenTo_append (t t' : Transcript) :
    writtenTo addr second reg (t ++ t') = writtenTo addr second reg t ++ writtenTo addr second reg t' :=
  List.filterMap_append ..

@[simp] theorem readFrom_append (t t' : Transcript) :
    readFrom addr second reg (t ++ t') = readFrom addr second reg t ++ readFrom addr second reg t' := by
  rw [readFrom, List.filter_append, List.map_append]
  rfl

theorem writtenTo_cons (p : PeciAccess × PeciAnswer) (t : Transcript) :
    writtenTo addr second reg (p :: t) = (p.1.writes addr second reg).toList ++ writtenTo addr second reg t := by
  rw [writtenTo, List.filterMap_cons]
  cases p.1.writes addr second reg <;> rfl

theorem readFrom_cons (p : PeciAccess × PeciAnswer) (t : Transcript) :
    readFrom addr second reg (p :: t) =
      (if p.1.reads addr second reg then [p.2] else []) ++ readFrom addr second reg t := by
  rw [readFrom, List.filter_cons]
  split_ifs <;> rfl

end Features

/-- An access has failed. -/
def Broken (t : Transcript) : Prop := ∃ p ∈ t, p.2.success = false

@[simp] theorem not_broken_nil : ¬ Broken [] := by
  rintro ⟨p, hp, -⟩
  cases hp

@[simp] theorem broken_append {t t' : Transcript} : Broken (t ++ t') ↔ Broken t ∨ Broken t' := by
  simp only [Broken, List.mem_append, or_and_right, exists_or]

@[simp] theorem broken_cons {p : PeciAccess × PeciAnswer} {t : Transcript} :
    Broken (p :: t) ↔ p.2.success = false ∨ Broken t := by
  simp only [Broken, List.mem_cons, or_and_right, exists_or, exists_eq_left]

/-- A loop has run out of its turns: the controller has not become ready for a command, or has not been restarted. The
state of the controller is read once outside of a restart. -/
def TimedOut (addr : UInt8) (second : Bool) (t : Transcript) : Prop :=
  maxPolls ≤ (readFrom addr second .intrStatus t).length ∧ writtenTo addr second .commandQueuePort t = [] ∨
    maxPolls + 1 ≤ (readFrom addr second .presentStateDebug t).length

/-- What comes before the first command does not matter. -/
theorem TimedOut.append_left {addr : UInt8} {second : Bool} {t t' : Transcript}
    (h : writtenTo addr second .commandQueuePort t = []) (h' : TimedOut addr second t') :
    TimedOut addr second (t ++ t') := by
  rw [TimedOut, readFrom_append, readFrom_append, List.length_append, List.length_append, writtenTo_append, h]
  rcases h' with ⟨hpolls, hnone⟩ | hpolls
  · exact .inl ⟨by omega, hnone⟩
  · exact .inr (by omega)

/-! ## Accesses -/

section Accesses

variable {buses : LpssBuses} {l : Lpss} {t : Transcript} {reg : LpssReg} {e : PECIStatus}

/-- The number of times that the state of the controller is read. -/
def Lpss.states (l : Lpss) (t : Transcript) : ℕ := (readFrom l.peciAddr l.second .presentStateDebug t).length

@[simp] theorem writes_rd (reg reg' : LpssReg) : (l.rd buses reg).writes l.peciAddr l.second reg' = none := rfl

@[simp] theorem writes_wr (reg reg' : LpssReg) (val : UInt32) :
    (l.wr buses reg val).writes l.peciAddr l.second reg' = if reg = reg' then some val else none := by
  simp [Lpss.wr, PeciAccess.writes]

@[simp] theorem reads_rd (reg reg' : LpssReg) :
    (l.rd buses reg).reads l.peciAddr l.second reg' = decide (reg = reg') := by
  simp [Lpss.rd, PeciAccess.reads]

@[simp] theorem reads_wr (reg reg' : LpssReg) (val : UInt32) :
    (l.wr buses reg val).reads l.peciAddr l.second reg' = false := rfl

@[simp] theorem Lpss.states_append (t t' : Transcript) : l.states (t ++ t') = l.states t + l.states t' := by
  simp [Lpss.states]

/-- **A read first.** -/
theorem runs_rd_bind {β : Type} {f : UInt32 → I3cCode β} {r : Except PECIStatus β} :
    (lpssRegRd buses l reg e >>= f).Runs t r ↔ ∃ a t', t = (l.rd buses reg, a) :: t' ∧
      (a.success = true ∧ (f a.val).Runs t' r ∨ a.success = false ∧ t' = [] ∧ r = .error e) := by
  change (∃ a t', t = (l.rd buses reg, a) :: t' ∧
    ((if a.success then pure a.val else .leave e : I3cCode UInt32) >>= f).Runs t' r) ↔ _
  refine exists_congr fun a => exists_congr fun t' => and_congr_right fun _ => ?_
  cases a.success with
  | true => simp
  | false => simp

/-- **A write first.** -/
theorem runs_wr_bind {β : Type} {val : UInt32} {f : Unit → I3cCode β} {r : Except PECIStatus β} :
    (lpssRegWr buses l reg val e >>= f).Runs t r ↔ ∃ a t', t = (l.wr buses reg val, a) :: t' ∧
      (a.success = true ∧ (f ()).Runs t' r ∨ a.success = false ∧ t' = [] ∧ r = .error e) := by
  change (∃ a t', t = (l.wr buses reg val, a) :: t' ∧
    ((if a.success then pure () else .leave e : I3cCode Unit) >>= f).Runs t' r) ↔ _
  refine exists_congr fun a => exists_congr fun t' => and_congr_right fun _ => ?_
  cases a.success with
  | true => simp
  | false => simp

/-! ## What a program does -/

/-- A program sends commands and data, and ends well with a result in `R` after reading the state of the controller at
most `k` times. Otherwise an access has failed, or the state has been read `n` times, and it has sent the first of the
commands. -/
def Lpss.Does {β : Type} (l : Lpss) (k n : ℕ) (cmds txs : List UInt32) (R : β → Prop) (x : I3cCode β) : Prop :=
  ∀ t r, x.Runs t r →
    (∃ b, r = .ok b ∧ R b ∧ ¬ Broken t ∧ l.states t ≤ k ∧
      writtenTo l.peciAddr l.second .commandQueuePort t = cmds ∧
      writtenTo l.peciAddr l.second .txDataPort t = txs) ∨
    ∃ e, r = .error e ∧ e ≠ .success ∧ (Broken t ∨ n ≤ l.states t) ∧
      writtenTo l.peciAddr l.second .commandQueuePort t <+: cmds

section Does

variable {β γ : Type} {k k' n : ℕ} {cmds cmds' txs txs' : List UInt32} {R : β → Prop} {R' : γ → Prop}
  {x y : I3cCode β} {f : β → I3cCode γ}

theorem does_mono (h : l.Does k n cmds txs R x) (hk : k ≤ k') : l.Does k' n cmds txs R x := by
  intro t r hrun
  rcases h t r hrun with ⟨b, hr, hb, hok, hstates, hsent⟩ | hbad
  · exact .inl ⟨b, hr, hb, hok, hstates.trans hk, hsent⟩
  · exact .inr hbad

theorem does_pure {b : β} (h : R b) : l.Does 0 n [] [] R (pure b) := by
  rintro t r ⟨rfl, rfl⟩
  exact .inl ⟨b, rfl, h, not_broken_nil, le_rfl, rfl, rfl⟩

/-- A program that is left early has failed only when no turns have been promised. -/
theorem does_leave {e : PECIStatus} (he : e ≠ .success) : l.Does k 0 [] [] R (.leave e) := by
  rintro t r ⟨rfl, rfl⟩
  exact .inr ⟨e, rfl, he, .inr (Nat.zero_le _), List.prefix_rfl⟩

theorem does_false (h : l.Does k n cmds txs (fun _ => False) x) : l.Does k' n cmds txs R x := by
  intro t r hrun
  rcases h t r hrun with ⟨b, -, hb, -⟩ | hbad
  · exact hb.elim
  · exact .inr hbad

theorem does_ite {c : Prop} [Decidable c] (hx : l.Does k n cmds txs R x) (hy : l.Does k n cmds txs R y) :
    l.Does k n cmds txs R (if c then x else y) := by
  split_ifs
  · exact hx
  · exact hy

/-- **One program after another.** -/
theorem does_bind (hx : l.Does k n cmds txs R x) (hf : ∀ b, R b → l.Does k' n cmds' txs' R' (f b)) :
    l.Does (k + k') n (cmds ++ cmds') (txs ++ txs') R' (x >>= f) := by
  intro t r hrun
  rcases Code.runs_bind.1 hrun with ⟨t₁, t₂, b, rfl, h₁, h₂⟩ | ⟨e, he, rfl⟩
  · rcases hx t₁ _ h₁ with ⟨b', hb', hR, hok, hstates, hcmds, htxs⟩ | ⟨e, he, -⟩
    · obtain rfl := Except.ok.inj hb'
      rcases hf b hR t₂ r h₂ with ⟨c, rfl, hc, hok', hstates', hcmds', htxs'⟩ | ⟨e, rfl, he, hbad, hcmds'⟩
      · refine .inl ⟨c, rfl, hc, by simp [hok, hok'], ?_, by simp [hcmds, hcmds'], by simp [htxs, htxs']⟩
        rw [Lpss.states_append]
        omega
      · refine .inr ⟨e, rfl, he, ?_, ?_⟩
        · rw [broken_append, Lpss.states_append]
          exact hbad.imp .inr fun h => h.trans (Nat.le_add_left _ _)
        · rw [writtenTo_append, hcmds]
          exact (List.prefix_append_right_inj _).2 hcmds'
    · cases he
  · rcases hx t _ he with ⟨b, hb, -⟩ | ⟨e', he', hne, hbad, hcmds⟩
    · cases hb
    · obtain rfl := Except.error.inj he'
      exact .inr ⟨e, rfl, hne, hbad, hcmds.trans (List.prefix_append _ _)⟩

/-- A program that does not read the state comes first. -/
theorem does_bind_of_zero (hx : l.Does 0 n cmds txs R x) (hf : ∀ b, R b → l.Does k n cmds' txs' R' (f b)) :
    l.Does k n (cmds ++ cmds') (txs ++ txs') R' (x >>= f) := by
  rw [← Nat.zero_add k]
  exact does_bind hx hf

/-- A program that does not send anything either comes first. -/
theorem does_quiet_bind (hx : l.Does 0 n [] [] R x) (hf : ∀ b, R b → l.Does k n cmds txs R' (f b)) :
    l.Does k n cmds txs R' (x >>= f) :=
  does_bind_of_zero hx hf

/-- Such a program comes last. -/
theorem does_bind_quiet (hx : l.Does k n cmds txs R x) (hf : ∀ b, R b → l.Does 0 n [] [] R' (f b)) :
    l.Does k n cmds txs R' (x >>= f) := by
  rw [← List.append_nil cmds, ← List.append_nil txs]
  exact does_bind hx hf

theorem does_rd (hreg : reg ≠ .presentStateDebug) (he : e ≠ .success) :
    l.Does 0 n [] [] (fun _ => True) (lpssRegRd buses l reg e) := by
  intro t r hrun
  obtain ⟨a, t', rfl, h⟩ := hrun
  change (if a.success then pure a.val else .leave e : I3cCode UInt32).Runs t' r at h
  cases hsuccess : a.success with
  | true =>
    rw [hsuccess, if_pos rfl] at h
    obtain ⟨rfl, rfl⟩ := h
    refine .inl ⟨_, rfl, trivial, by simp [hsuccess], ?_, by simp [writtenTo_cons], by simp [writtenTo_cons]⟩
    simp [Lpss.states, readFrom_cons, hreg]
  | false =>
    rw [hsuccess, if_neg Bool.false_ne_true] at h
    obtain ⟨rfl, rfl⟩ := h
    exact .inr ⟨_, rfl, he, .inl (by simp [hsuccess]), by simp [writtenTo_cons]⟩

theorem does_wr {val : UInt32} (he : e ≠ .success) :
    l.Does 0 n (if reg = .commandQueuePort then [val] else []) (if reg = .txDataPort then [val] else [])
      (fun _ => True) (lpssRegWr buses l reg val e) := by
  intro t r hrun
  obtain ⟨a, t', rfl, h⟩ := hrun
  change (if a.success then pure () else .leave e : I3cCode Unit).Runs t' r at h
  have hcmds : writtenTo l.peciAddr l.second .commandQueuePort [(l.wr buses reg val, a)] =
      if reg = .commandQueuePort then [val] else [] := by
    rw [writtenTo_cons, writes_wr]
    split_ifs <;> rfl
  have htxs : writtenTo l.peciAddr l.second .txDataPort [(l.wr buses reg val, a)] =
      if reg = .txDataPort then [val] else [] := by
    rw [writtenTo_cons, writes_wr]
    split_ifs <;> rfl
  cases hsuccess : a.success with
  | true =>
    rw [hsuccess, if_pos rfl] at h
    obtain ⟨rfl, rfl⟩ := h
    exact .inl ⟨_, rfl, trivial, by simp [hsuccess], le_rfl, hcmds, htxs⟩
  | false =>
    rw [hsuccess, if_neg Bool.false_ne_true] at h
    obtain ⟨rfl, rfl⟩ := h
    exact .inr ⟨_, rfl, he, .inl (by simp [hsuccess]), hcmds ▸ List.prefix_rfl⟩

/-- The state of the controller is read first. -/
theorem does_state {f : UInt32 → I3cCode β} (he : e ≠ .success) (hf : ∀ b, l.Does k n cmds txs R (f b)) :
    l.Does (k + 1) (n + 1) cmds txs R (lpssRegRd buses l .presentStateDebug e >>= f) := by
  intro t r hrun
  obtain ⟨a, t', rfl, ⟨hsuccess, h⟩ | ⟨hsuccess, rfl, rfl⟩⟩ := runs_rd_bind.1 hrun
  · have hstates : l.states ((l.rd buses .presentStateDebug, a) :: t') = l.states t' + 1 := by
      simp [Lpss.states, readFrom_cons, Nat.add_comm]
    rw [hstates, writtenTo_cons, writtenTo_cons, writes_rd, writes_rd, broken_cons, hsuccess]
    rcases hf a.val t' r h with ⟨b, rfl, hb, hok, hle, hcmds, htxs⟩ | ⟨e, rfl, hne, hbad, hcmds⟩
    · exact .inl ⟨b, rfl, hb, by simpa using hok, Nat.succ_le_succ hle, hcmds, htxs⟩
    · exact .inr ⟨e, rfl, hne, hbad.imp .inr Nat.succ_le_succ, hcmds⟩
  · exact .inr ⟨e, rfl, he, .inl (broken_cons.2 (.inl hsuccess)), by simp [writtenTo_cons]⟩

end Does

/-- A register that is read only. -/
theorem readFrom_of_rd (h : ∀ p ∈ t, p.1 = l.rd buses reg) (reg' : LpssReg) :
    (readFrom l.peciAddr l.second reg' t).length = if reg = reg' then t.length else 0 := by
  induction t with
  | nil => split_ifs <;> rfl
  | cons p t ih =>
    have hp : p.1 = l.rd buses reg := h p List.mem_cons_self
    rw [readFrom_cons, hp, reads_rd, List.length_append, ih fun q hq => h q (List.mem_cons_of_mem p hq)]
    by_cases hreg : reg = reg'
    · simp [hreg, Nat.add_comm]
    · simp [hreg]

theorem writtenTo_of_rd (h : ∀ p ∈ t, p.1 = l.rd buses reg) (reg' : LpssReg) :
    writtenTo l.peciAddr l.second reg' t = [] := by
  apply List.filterMap_eq_nil_iff.2
  intro p hp
  rw [h p hp]
  rfl

/-! ## Loops -/

/-- The loop reads the interrupt status until it ends. -/
theorem waitForCmdDataLoop_runs {checkCmd checkTx checkRx : Bool} {n : ℕ} {r : Except PECIStatus Unit}
    (h : (waitForCmdDataLoop buses l checkCmd checkTx checkRx n).Runs t r) :
    (∀ p ∈ t, p.1 = l.rd buses .intrStatus) ∧
      ((r = .ok () ∧ ¬ Broken t) ∨ ∃ e, r = .error e ∧ e ≠ .success ∧ (Broken t ∨ t.length = n)) := by
  induction n generalizing t with
  | zero =>
    obtain ⟨rfl, rfl⟩ := h
    exact ⟨fun p hp => absurd hp List.not_mem_nil, .inr ⟨_, rfl, by decide, .inr rfl⟩⟩
  | succ n ih =>
    rw [waitForCmdDataLoop, runs_rd_bind] at h
    obtain ⟨a, t', rfl, ⟨hsuccess, h⟩ | ⟨hsuccess, rfl, rfl⟩⟩ := h
    · split_ifs at h with hn hready
      · obtain ⟨rfl, rfl⟩ := h
        refine ⟨fun p hp => ?_, .inr ⟨_, rfl, by decide, .inr (by rw [hn]; rfl)⟩⟩
        rw [List.mem_singleton.1 hp]
      · obtain ⟨hall, hend⟩ := ih h
        refine ⟨fun p hp => ?_, ?_⟩
        · rcases List.mem_cons.1 hp with rfl | hp
          · rfl
          · exact hall p hp
        · rcases hend with ⟨rfl, hok⟩ | ⟨e, rfl, he, hbad⟩
          · exact .inl ⟨rfl, by simpa [hsuccess] using hok⟩
          · refine .inr ⟨e, rfl, he, ?_⟩
            rcases hbad with hbad | hlen
            · exact .inl (broken_cons.2 (.inr hbad))
            · exact .inr (congrArg (· + 1) hlen)
      · obtain ⟨rfl, rfl⟩ := h
        refine ⟨fun p hp => ?_, .inl ⟨rfl, by simp [hsuccess]⟩⟩
        rw [List.mem_singleton.1 hp]
    · refine ⟨fun p hp => ?_, .inr ⟨_, rfl, by decide, .inl (broken_cons.2 (.inl hsuccess))⟩⟩
      rw [List.mem_singleton.1 hp]

/-- **The controller gets ready for a command.** -/
theorem waitForCmdData_runs {checkCmd checkTx checkRx : Bool} {r : Except PECIStatus Unit}
    (h : (waitForCmdData buses l checkCmd checkTx checkRx).Runs t r) :
    (∀ p ∈ t, p.1 = l.rd buses .intrStatus) ∧
      ((r = .ok () ∧ ¬ Broken t) ∨ ∃ e, r = .error e ∧ e ≠ .success ∧ (Broken t ∨ t.length = maxPolls)) :=
  waitForCmdDataLoop_runs h

/-- The loop reads the state of the controller in each turn. -/
theorem restartLoop_does (control : UInt32) (n : ℕ) :
    l.Does (n - 1) n [] [] (fun _ => True) (restartLoop buses l control n) := by
  induction n with
  | zero => exact does_leave (by decide)
  | succ n ih =>
    rw [restartLoop]
    rcases Nat.eq_zero_or_pos n with rfl | hn
    · -- the last turn does not end well
      refine does_false (k := 1) (does_state (by decide) fun data => ?_)
      have hend : l.Does 0 0 [] [] (fun _ => False) (if 0 = 0 then Code.leave .timeout
          else if halted data then restartLoop buses l control 0 else pure () : I3cCode Unit) :=
        does_leave (by decide)
      exact does_ite (does_quiet_bind (does_wr (by decide)) fun _ _ => hend) hend
    · have hturn : n = n - 1 + 1 := by omega
      rw [Nat.add_sub_cancel, hturn]
      refine does_state (by decide) fun data => ?_
      rw [← hturn]
      have hrest : l.Does (n - 1) n [] [] (fun _ => True) (if n = 0 then Code.leave .timeout
          else if halted data then restartLoop buses l control n else pure () : I3cCode Unit) := by
        rw [if_neg hn.ne']
        exact does_ite ih (does_mono (does_pure trivial) (Nat.zero_le _))
      exact does_ite (does_quiet_bind (does_wr (by decide)) fun _ _ => hrest) hrest

/-- **The controller is restarted.** -/
theorem restartSpdController_does :
    l.Does 500 maxPolls [] [] (fun _ => True) (restartSpdController buses l) := by
  have herr : PECIStatus.i3cRegRdFail ≠ .success ∧ PECIStatus.i3cRegWrFail ≠ .success := by decide
  refine does_quiet_bind (does_rd (by decide) herr.1) fun data _ => ?_
  refine does_quiet_bind (does_wr herr.2) fun _ _ => ?_
  refine does_quiet_bind (does_rd (by decide) herr.1) fun control _ => ?_
  refine does_quiet_bind (does_wr herr.2) fun _ _ => ?_
  refine does_quiet_bind (does_wr herr.2) fun _ _ => ?_
  exact does_quiet_bind (does_wr herr.2) fun _ _ => restartLoop_does _ maxPolls

/-- A controller that is not halted is not restarted in the loop. -/
theorem responseLoop_does {restartOnError : Bool} (n : ℕ) {k : ℕ} :
    l.Does 0 k [] [] (fun _ => True) (responseLoop buses l restartOnError false n) := by
  induction n with
  | zero => exact does_pure trivial
  | succ n ih =>
    rw [responseLoop]
    refine does_quiet_bind (does_rd (by decide) (by decide)) fun data _ => ?_
    rw [if_neg Bool.false_ne_true]
    exact does_ite ih (does_pure trivial)

/-- A controller that is halted is restarted in the first turn, and that ends the loop. -/
theorem responseLoop_halted_does (n : ℕ) :
    l.Does 500 maxPolls [] [] (· = false) (responseLoop buses l true true (n + 2)) := by
  rw [responseLoop]
  refine does_quiet_bind (does_rd (by decide) (by decide)) fun data _ => ?_
  exact does_bind restartSpdController_does fun _ _ => does_pure (by simp)

/-- **A response is awaited.** The controller is restarted once at most. -/
theorem waitForResponse_does :
    l.Does 501 (maxPolls + 1) [] [] (fun _ => True) (waitForResponse buses l true) := by
  refine does_state (by decide) fun data => ?_
  have hqueue : l.Does 0 maxPolls [] [] (fun _ => True) (lpssRegRd buses l .responseQueuePort .i3cRegRdFail) :=
    does_rd (by decide) (by decide)
  cases halted data with
  | true =>
    refine does_bind_quiet (responseLoop_halted_does 499) fun timedOut htimedOut => ?_
    refine does_quiet_bind hqueue fun _ _ => ?_
    rw [htimedOut]
    exact does_pure trivial
  | false =>
    refine does_quiet_bind (responseLoop_does maxPolls) fun timedOut _ => ?_
    refine does_quiet_bind hqueue fun _ _ => ?_
    exact does_ite restartSpdController_does (does_mono (does_pure trivial) (Nat.zero_le _))

/-- **The dwords are sent in order.** -/
theorem sendDwords_does {n : ℕ} (he : e ≠ .success) (ws : List UInt32) :
    l.Does 0 n [] ws (fun _ => True) (sendDwords buses l e ws) := by
  induction ws with
  | nil => exact does_pure trivial
  | cons w ws ih => exact does_bind (does_wr he) fun _ _ => ih

end Accesses

end BmcNvdimm
