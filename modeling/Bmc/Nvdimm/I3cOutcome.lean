import Bmc.Nvdimm.I3cData
import Bmc.Nvdimm.I3cWaits

/-!
# What the sequences come to

* `Outcome`: a program ends well, or it fails; `Silent`, `Lpss.Quiet`: nothing is sent;
* `ends_bind`: a quiet program comes first;
* **`wrRdRegular_ends`**, **`sendAndWait_ends`**: the sequences of a read and of a write.
-/

namespace BmcNvdimm

open BmcLib

/-! ## Sequences -/

section Sequences

variable {buses : LpssBuses} {l l' : Lpss} {β γ : Type} {cmds txs : List UInt32} {R : β → Prop} {R' : γ → Prop}

/-- A program ends well, and has sent all commands and data. Otherwise an access has failed or a loop has run out of its
turns, and it has sent the first of the commands. -/
def Outcome (addr : UInt8) (second : Bool) (cmds txs : List UInt32) (t : Transcript) (r : Except PECIStatus β) :
    Prop :=
  (∃ b, r = .ok b ∧ ¬ Broken t ∧ (readFrom addr second .presentStateDebug t).length ≤ maxPolls ∧
    writtenTo addr second .commandQueuePort t = cmds ∧ writtenTo addr second .txDataPort t = txs) ∨
  ∃ e, r = .error e ∧ e ≠ .success ∧ (Broken t ∨ TimedOut addr second t) ∧
    writtenTo addr second .commandQueuePort t <+: cmds

/-- A transcript without failures in which nothing is sent and the state of the controller is not read. -/
structure Silent (addr : UInt8) (second : Bool) (t : Transcript) : Prop where
  sound : ¬ Broken t
  states : readFrom addr second .presentStateDebug t = []
  commands : writtenTo addr second .commandQueuePort t = []
  data : writtenTo addr second .txDataPort t = []

/-- **Silence first** does not matter. -/
theorem Outcome.append_left {addr : UInt8} {second : Bool} {t t' : Transcript} {r : Except PECIStatus β}
    (h : Silent addr second t) (h' : Outcome addr second cmds txs t' r) : Outcome addr second cmds txs (t ++ t') r := by
  rw [Outcome, readFrom_append, h.states, List.nil_append, writtenTo_append, h.commands, List.nil_append,
    writtenTo_append, h.data, List.nil_append, broken_append]
  rcases h' with ⟨b, hb, hok, hrest⟩ | ⟨e, he, hne, hbad, hpre⟩
  · exact .inl ⟨b, hb, not_or.2 ⟨h.sound, hok⟩, hrest⟩
  · exact .inr ⟨e, he, hne, hbad.imp .inr (TimedOut.append_left h.commands), hpre⟩

/-- All runs of a sequence have such an outcome. -/
def Lpss.Ends (l : Lpss) (cmds txs : List UInt32) (x : I3cCode β) : Prop :=
  ∀ t r, x.Runs t r → Outcome l.peciAddr l.second cmds txs t r

/-- A sequence that polls only the state of the controller. -/
theorem Lpss.Does.ends {x : I3cCode β} (h : l.Does maxPolls (maxPolls + 1) cmds txs R x) : l.Ends cmds txs x := by
  intro t r hrun
  rcases h t r hrun with ⟨b, hb, -, hok⟩ | ⟨e, he, hne, hbad, hcmds⟩
  · exact .inl ⟨b, hb, hok⟩
  · exact .inr ⟨e, he, hne, hbad.imp_right .inr, hcmds⟩

/-- A program sends nothing and does not read the state of the controller. -/
def Lpss.Quiet (l : Lpss) (x : I3cCode β) : Prop :=
  ∀ t r, x.Runs t r →
    (∃ b, r = .ok b ∧ Silent l.peciAddr l.second t) ∨
    ∃ e, r = .error e ∧ e ≠ .success ∧ (Broken t ∨ TimedOut l.peciAddr l.second t) ∧
      writtenTo l.peciAddr l.second .commandQueuePort t = []

theorem Lpss.Does.quiet {x : I3cCode β} (h : l.Does 0 (maxPolls + 1) [] [] R x) : l.Quiet x := by
  intro t r hrun
  rcases h t r hrun with ⟨b, hb, -, hok, hstates, hcmds, htxs⟩ | ⟨e, he, hne, hbad, hcmds⟩
  · exact .inl ⟨b, hb, hok, List.length_eq_zero_iff.1 (Nat.le_zero.1 hstates), hcmds, htxs⟩
  · exact .inr ⟨e, he, hne, hbad.imp_right .inr, List.prefix_nil.1 hcmds⟩

/-- **The controller gets ready**, and nothing is sent to it before. -/
theorem waitForCmdData_quiet {checkCmd checkTx checkRx : Bool} :
    l.Quiet (waitForCmdData buses l checkCmd checkTx checkRx) := by
  intro t r hrun
  obtain ⟨hall, hend⟩ := waitForCmdData_runs hrun
  have hnone : ∀ reg, writtenTo l.peciAddr l.second reg t = [] := fun reg => writtenTo_of_rd hall reg
  rcases hend with ⟨hr, hok⟩ | ⟨e, he, hne, hbad⟩
  · have hstates := readFrom_of_rd hall .presentStateDebug
    rw [if_neg (by decide)] at hstates
    exact .inl ⟨(), hr, hok, List.length_eq_zero_iff.1 hstates, hnone _, hnone _⟩
  · refine .inr ⟨e, he, hne, hbad.imp_right fun hlen => .inl ⟨?_, hnone _⟩, hnone _⟩
    rw [readFrom_of_rd hall, if_pos rfl, hlen]

/-- **A quiet program comes first.** -/
theorem ends_bind {x : I3cCode β} {f : β → I3cCode γ} (hx : l.Quiet x) (hf : ∀ b, l.Ends cmds txs (f b)) :
    l.Ends cmds txs (x >>= f) := by
  intro t r hrun
  rcases Code.runs_bind.1 hrun with ⟨t₁, t₂, b, rfl, h₁, h₂⟩ | ⟨e, he, rfl⟩
  · rcases hx t₁ _ h₁ with ⟨-, -, hsilent⟩ | ⟨e, he, -⟩
    · exact Outcome.append_left hsilent (hf b t₂ r h₂)
    · cases he
  · rcases hx t _ he with ⟨b, hb, -⟩ | ⟨e', he', hne, hbad, hcmds⟩
    · cases hb
    · obtain rfl := Except.error.inj he'
      exact .inr ⟨e, rfl, hne, hbad, hcmds ▸ List.nil_prefix⟩

/-- The result of a sequence is made into another. -/
theorem ends_map {x : I3cCode β} {g : β → γ} (hx : l.Ends cmds txs x) :
    l.Ends cmds txs (x >>= fun b => pure (g b)) := by
  intro t r hrun
  rcases Code.runs_bind.1 hrun with ⟨t₁, t₂, b, rfl, h₁, rfl, rfl⟩ | ⟨e, he, rfl⟩
  · rw [List.append_nil]
    rcases hx t₁ _ h₁ with ⟨-, -, hok⟩ | ⟨e, he, -⟩
    · exact .inl ⟨g b, rfl, hok⟩
    · cases he
  · rcases hx t _ he with ⟨b, hb, -⟩ | ⟨e', he', hbad⟩
    · cases hb
    · obtain rfl := Except.error.inj he'
      exact .inr ⟨e, rfl, hbad⟩

/-- A dword of a command comes first. -/
theorem does_command {k n : ℕ} {val : UInt32} {e : PECIStatus} {f : Unit → I3cCode γ} (he : e ≠ .success)
    (hf : l.Does k n cmds txs R' (f ())) :
    l.Does k n (val :: cmds) txs R' (lpssRegWr buses l .commandQueuePort val e >>= f) :=
  does_bind_of_zero (does_wr he) fun _ _ => hf

/-- The data come first. -/
theorem does_data {k n : ℕ} {e : PECIStatus} {f : Unit → I3cCode γ} (he : e ≠ .success)
    (hf : l.Does k n cmds [] R' (f ())) :
    l.Does k n cmds (leDwords (slice l.wdataList 0 l.wdataSize.toNat)) R'
      (sendDwords buses l e ((List.range l.dwords).map l.wdata) >>= f) := by
  have hsend : l.Does 0 n [] ((List.range l.dwords).map l.wdata) (fun _ => True)
      (sendDwords buses l e ((List.range l.dwords).map l.wdata)) := sendDwords_does he _
  have h := does_bind_of_zero hsend fun _ _ => hf
  rw [← wdata_eq]
  rwa [List.append_nil, List.nil_append] at h

theorem receiveDwords_does {e : PECIStatus} (he : e ≠ .success) {n : ℕ} (k : ℕ) :
    l.Does 0 n [] [] (fun _ => True) (receiveDwords buses l e k) := by
  induction k with
  | zero => exact does_pure trivial
  | succ k ih =>
    refine does_quiet_bind (does_rd (by decide) he) fun _ _ => ?_
    exact does_quiet_bind ih fun _ _ => does_pure trivial

/-- **The sequence of a read.** -/
theorem wrRdRegular_ends :
    l.Ends [l.commandLow 0 0 0, l.commandHigh, l.commandLow 1 1 1, l.commandHigh]
      (leDwords (slice l.wdataList 0 l.wdataSize.toNat)) (wrRdRegular buses l) := by
  have hfail : PECIStatus.fail ≠ .success ∧ PECIStatus.i3cRwFail ≠ .success := by decide
  refine ends_bind (Lpss.Does.quiet (does_rd (by decide) hfail.1)) fun data => ?_
  refine ends_bind (Lpss.Does.quiet (does_wr hfail.1)) fun _ => ?_
  refine ends_bind waitForCmdData_quiet fun _ => Lpss.Does.ends (R := fun _ => True) ?_
  refine does_command hfail.2 (does_command hfail.2 (does_command hfail.2 (does_command hfail.2 ?_)))
  refine does_data hfail.2 (does_bind_quiet waitForResponse_does fun _ _ => ?_)
  refine does_quiet_bind (receiveDwords_does hfail.2 _) fun rdata _ => ?_
  exact does_quiet_bind (does_wr hfail.2) fun _ _ => does_pure trivial

/-- A transcript that ends with a read of one dword from the data port, and with a write of another register. -/
def Lpss.LastRead (l : Lpss) (buses : LpssBuses) (t : Transcript) (rdata : List UInt32) : Prop :=
  ∃ s a a' data, t = s ++ [(l.rd buses .txDataPort, a), (l.wr buses .dataBufferThldCtrl data, a')] ∧
    a.success = true ∧ rdata = [a.val]

theorem Lpss.LastRead.append_left (s t : Transcript) (rdata : List UInt32) (h : l.LastRead buses t rdata) :
    l.LastRead buses (s ++ t) rdata := by
  obtain ⟨s', a, a', data, rfl, h⟩ := h
  exact ⟨s ++ s', a, a', data, by rw [List.append_assoc], h⟩

/-- **What is read last** is the result, when one dword is read. -/
theorem wrRdRegular_last {t : Transcript} {rdata : List UInt32} (hsize : l.wdataSize = 4)
    (h : (wrRdRegular buses l).Runs t (.ok rdata)) : l.LastRead buses t rdata := by
  have hone : (l.wdataSize.toNat - 1) / 4 + 1 = 1 := by rw [hsize]; rfl
  have happend : ∀ s t rdata, l.LastRead buses t rdata → l.LastRead buses (s ++ t) rdata :=
    Lpss.LastRead.append_left
  rw [wrRdRegular, hone] at h
  refine Code.Runs.of_bind happend (fun data t rdata h => ?_) h
  -- the accesses up to the response
  iterate 8 refine Code.Runs.of_bind happend (fun _ t rdata h => ?_) h
  rcases Code.runs_bind.1 h with ⟨t₁, t₂, ws, rfl, h₁, h₂⟩ | ⟨e, -, he⟩
  · obtain ⟨a, t', rfl, ⟨hsuccess, rfl, hws⟩ | ⟨-, -, hws⟩⟩ := runs_rd_bind.1 h₁
    · obtain rfl := Except.ok.inj hws
      obtain ⟨a', t'', rfl, ⟨-, rfl, hrdata⟩ | ⟨-, -, hrdata⟩⟩ := runs_wr_bind.1 h₂
      · exact ⟨[], a, a', _, rfl, hsuccess, Except.ok.inj hrdata⟩
      · cases hrdata
    · cases hws
  · cases he

/-- **The sequence of a write**, when the controller is enabled. -/
theorem sendAndWait_ends :
    l.Ends [l.commandLow 1 1 0, l.commandHigh] (leDwords (slice l.wdataList 0 l.wdataSize.toNat))
      (do
        waitForCmdData buses l true true false
        sendDwords buses l .i3cWFail ((List.range l.dwords).map l.wdata)
        lpssRegWr buses l .commandQueuePort (l.commandLow 1 1 0) .i3cWFail
        lpssRegWr buses l .commandQueuePort l.commandHigh .i3cWFail
        waitForResponse buses l true) := by
  have hfail : PECIStatus.i3cWFail ≠ .success := by decide
  refine ends_bind waitForCmdData_quiet fun _ => Lpss.Does.ends (R := fun _ => True) ?_
  exact does_data hfail (does_command hfail (does_command hfail waitForResponse_does))

end Sequences

end BmcNvdimm
