import Mathlib.Tactic

/-!
# Devices

A device answers the calls of a program. Its future answers are fixed in advance, one for each call,
and it keeps the calls it has received; a statement about every device is then a statement about
every outcome of every call.

* `Device.call`: one call; `Device.Extends`: the calls made by a piece of code;
* `Device.news`: the calls that are new between two states, with `Extends.news_trans`;
* `Device.transcript`: the same with their answers, with `Extends.transcript_trans`;
* `Device.ahead`, `Device.calls`: the answers still to come, and several calls at once;
* `Device.callUntil`: calls up to the first that fails, with `callUntil_of_good`.
-/

namespace BmcLib

/-- A device with calls in `κ` and answers in `α`. -/
structure Device (κ α : Type*) where
  answers : ℕ → α
  log : List κ

namespace Device

variable {κ α : Type*}

/-- The answer to the next call. -/
def answer (d : Device κ α) : α := d.answers d.log.length

/-- The device after the call `c`. -/
def call (d : Device κ α) (c : κ) : Device κ α := { d with log := d.log ++ [c] }

@[simp] theorem answers_call (d : Device κ α) (c : κ) : (d.call c).answers = d.answers := rfl

@[simp] theorem log_call (d : Device κ α) (c : κ) : (d.call c).log = d.log ++ [c] := rfl

/-- `d'` is `d` after some more calls. -/
def Extends (d d' : Device κ α) : Prop := d'.answers = d.answers ∧ d.log <+: d'.log

@[refl] theorem Extends.refl (d : Device κ α) : d.Extends d := ⟨rfl, List.prefix_refl _⟩

theorem Extends.trans {d₁ d₂ d₃ : Device κ α} (h : d₁.Extends d₂) (h' : d₂.Extends d₃) :
    d₁.Extends d₃ :=
  ⟨h'.1.trans h.1, h.2.trans h'.2⟩

theorem extends_call (d : Device κ α) (c : κ) : d.Extends (d.call c) :=
  ⟨rfl, List.prefix_append _ _⟩

/-- The calls of `d'` that `d` has not seen. -/
def news (d d' : Device κ α) : List κ := d'.log.drop d.log.length

@[simp] theorem news_self (d : Device κ α) : d.news d = [] := by simp [news]

@[simp] theorem news_call (d : Device κ α) (c : κ) : d.news (d.call c) = [c] := by simp [news]

theorem Extends.log_eq {d d' : Device κ α} (h : d.Extends d') : d'.log = d.log ++ d.news d' := by
  obtain ⟨-, l, hl⟩ := h
  rw [news, ← hl, List.drop_left]

theorem Extends.news_trans {d₁ d₂ d₃ : Device κ α} (h : d₁.Extends d₂) (h' : d₂.Extends d₃) :
    d₁.news d₃ = d₁.news d₂ ++ d₂.news d₃ := by
  rw [news, h'.log_eq, h.log_eq, List.append_assoc, List.drop_left]

/-- The new calls and their answers. -/
def transcript (d d' : Device κ α) : List (κ × α) :=
  (d.news d').mapIdx fun i c => (c, d.answers (d.log.length + i))

@[simp] theorem transcript_self (d : Device κ α) : d.transcript d = [] := by simp [transcript]

@[simp] theorem transcript_call (d : Device κ α) (c : κ) :
    d.transcript (d.call c) = [(c, d.answer)] := by
  simp [transcript, answer]

theorem Extends.transcript_trans {d₁ d₂ d₃ : Device κ α} (h : d₁.Extends d₂) (h' : d₂.Extends d₃) :
    d₁.transcript d₃ = d₁.transcript d₂ ++ d₂.transcript d₃ := by
  have hlen : d₂.log.length = d₁.log.length + (d₁.news d₂).length := by
    rw [h.log_eq, List.length_append]
  unfold transcript
  rw [h.news_trans h', List.mapIdx_append, h.1, hlen]
  congr 2
  funext i c
  rw [Nat.add_comm i, Nat.add_assoc]

/-! ## Answers to come -/

/-- The answer to the call after `i` more calls. -/
def ahead (d : Device κ α) (i : ℕ) : α := d.answers (d.log.length + i)

/-- The device after the calls `cs`. -/
def calls (d : Device κ α) (cs : List κ) : Device κ α := { d with log := d.log ++ cs }

theorem ahead_zero (d : Device κ α) : d.ahead 0 = d.answer := rfl

@[simp] theorem calls_nil (d : Device κ α) : d.calls [] = d := by simp [calls]

@[simp] theorem log_calls (d : Device κ α) (cs : List κ) : (d.calls cs).log = d.log ++ cs := rfl

theorem call_eq_calls (d : Device κ α) (c : κ) : d.call c = d.calls [c] := rfl

@[simp] theorem calls_calls (d : Device κ α) (cs cs' : List κ) :
    (d.calls cs).calls cs' = d.calls (cs ++ cs') := by
  simp [calls]

@[simp] theorem ahead_calls (d : Device κ α) (cs : List κ) (i : ℕ) :
    (d.calls cs).ahead i = d.ahead (cs.length + i) := by
  simp [ahead, calls, Nat.add_assoc]

@[simp] theorem ahead_call (d : Device κ α) (c : κ) (i : ℕ) : (d.call c).ahead i = d.ahead (i + 1) := by
  rw [call_eq_calls, ahead_calls, List.length_singleton, Nat.add_comm]

theorem calls_injective (d : Device κ α) : Function.Injective d.calls := by
  intro cs cs' h
  exact List.append_cancel_left (congrArg log h)

@[simp] theorem news_calls (d : Device κ α) (cs : List κ) : d.news (d.calls cs) = cs := by
  simp [news]

@[simp] theorem transcript_calls (d : Device κ α) (cs : List κ) :
    d.transcript (d.calls cs) = cs.mapIdx fun i c => (c, d.ahead i) := by
  rw [transcript, news_calls]
  rfl

theorem transcript_calls_range (d : Device κ α) (f : ℕ → κ) (n : ℕ) :
    d.transcript (d.calls ((List.range n).map f)) = (List.range n).map fun i => (f i, d.ahead i) := by
  rw [transcript_calls]
  exact List.ext_getElem (by simp) fun i _ _ => by simp

theorem transcript_calls_append (d : Device κ α) (cs cs' : List κ) :
    d.transcript (d.calls (cs ++ cs')) =
      d.transcript (d.calls cs) ++ (d.calls cs).transcript ((d.calls cs).calls cs') := by
  rw [transcript_calls, transcript_calls, transcript_calls, List.mapIdx_append]
  congr 2
  funext i c
  rw [ahead_calls, Nat.add_comm]

/-! ## Calls up to a failure -/

section CallUntil

variable {bad : α → Prop} [DecidablePred bad]

/-- The calls `cs` up to the first whose answer is bad, with the answers. -/
def callUntil (bad : α → Prop) [DecidablePred bad] : List κ → Device κ α → List α × Device κ α
  | [], d => ([], d)
  | c :: cs, d =>
    if bad d.answer then ([d.answer], d.call c)
    else
      let r := callUntil bad cs (d.call c)
      (d.answer :: r.1, r.2)

theorem callUntil_of_good {cs : List κ} {d : Device κ α} (h : ∀ i < cs.length, ¬ bad (d.ahead i)) :
    callUntil bad cs d = ((List.range cs.length).map d.ahead, d.calls cs) := by
  induction cs generalizing d with
  | nil => simp [callUntil]
  | cons c cs ih =>
    have htail : ∀ i < cs.length, ¬ bad ((d.call c).ahead i) := by
      intro i hi
      rw [ahead_call]
      exact h (i + 1) (Nat.succ_lt_succ hi)
    have hhead : ¬ bad d.answer := h 0 (Nat.succ_pos _)
    have hans : (d.call c).ahead = d.ahead ∘ Nat.succ := funext fun i => ahead_call d c i
    rw [callUntil, if_neg hhead, ih htail, hans, List.length_cons, List.range_succ_eq_map,
      List.map_cons, List.map_map, call_eq_calls, calls_calls]
    rfl

variable (bad) in
theorem callUntil_of_bad {cs : List κ} (d : Device κ α) {i : ℕ} (hi : i < cs.length)
    (h : bad (d.ahead i)) : ∃ a, (callUntil bad cs d).1.getLast? = some a ∧ bad a := by
  induction cs generalizing d i with
  | nil => exact absurd hi (Nat.not_lt_zero _)
  | cons c cs ih =>
    rw [callUntil]
    split_ifs with h0
    · exact ⟨d.answer, rfl, h0⟩
    · obtain _ | i := i
      · exact absurd h h0
      · have h' : bad ((d.call c).ahead i) := by
          rwa [ahead_call]
        obtain ⟨a, ha, hbad⟩ := ih (d.call c) (Nat.lt_of_succ_lt_succ hi) h'
        exact ⟨a, by simp [List.getLast?_cons, ha], hbad⟩

variable (bad) in
/-- The calls that are made are first ones of the list. -/
theorem exists_callUntil_eq (cs : List κ) (d : Device κ α) :
    ∃ cs', cs' <+: cs ∧ (callUntil bad cs d).2 = d.calls cs' := by
  induction cs generalizing d with
  | nil => exact ⟨[], List.prefix_rfl, by simp [callUntil]⟩
  | cons c cs ih =>
    rw [callUntil]
    split_ifs with h0
    · exact ⟨[c], ⟨cs, rfl⟩, call_eq_calls d c⟩
    · obtain ⟨cs', hcs, heq⟩ := ih (d.call c)
      refine ⟨c :: cs', List.cons_prefix_cons.2 ⟨rfl, hcs⟩, ?_⟩
      dsimp only
      rw [heq, call_eq_calls, calls_calls]
      rfl

variable (bad) in
theorem length_callUntil_le (cs : List κ) (d : Device κ α) :
    (callUntil bad cs d).1.length ≤ cs.length := by
  induction cs generalizing d with
  | nil => exact le_rfl
  | cons c cs ih =>
    rw [callUntil]
    split_ifs
    · exact Nat.succ_le_succ (Nat.zero_le _)
    · exact Nat.succ_le_succ (ih (d.call c))

end CallUntil

end Device

end BmcLib
