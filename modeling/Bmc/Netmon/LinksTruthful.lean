import Bmc.Netmon.Links

/-!
# When the reports of link changes are right

* `LinkOrderly`: the condition on a step; `LinkInv`: what then holds;
* `LinkInv.change`, `LinkInv.work`, `LinkInv.run`, `LinkInv.signal`, …: one lemma for each kind of step;
* **`truthful_of_orderly`**: in a run of such steps every report is right and no wait uses a device that is gone.
-/

namespace BmcNetmon

open BmcLib

/-! ## Places in a call -/

namespace LinkPc

/-- The wait is over and the call has not returned. -/
def past : LinkPc → Option LinkWait
  | .clear k | .load k _ | .copy k _ _ => some k
  | .state | .check _ => some .change
  | _ => none

/-- The flag has been taken back. -/
def taken : LinkPc → Option LinkWait
  | .load k _ | .copy k _ _ => some k
  | _ => none

/-- The state has been read and the device has not. -/
def read : LinkPc → Bool
  | .check _ | .load .change _ => true
  | _ => false

/-- The listener is about to look at the flag. -/
def Tests (p : LinkPc) (k : LinkWait) : Prop := p = .test k ∨ p = .asleep k true

/-- The listener sleeps. -/
def Asleep (p : LinkPc) (k : LinkWait) : Prop := p = .asleep k false ∨ p = .asleep k true

theorem past_of_taken {p : LinkPc} {k : LinkWait} (h : p.taken = some k) : p.past = some k := by
  cases p <;> first | exact h | cases h

theorem past_of_read {p : LinkPc} (h : p.read = true) : p.past = some .change := by
  rcases p with _ | _ | _ | _ | _ | _ | ⟨k, _⟩ | _ <;> first | rfl | cases h | skip
  cases k with
  | change => rfl
  | up => cases h
  | down => cases h

@[simp] theorem wake_past (p : LinkPc) : p.wake.past = p.past := by cases p <;> rfl

@[simp] theorem wake_taken (p : LinkPc) : p.wake.taken = p.taken := by cases p <;> rfl

@[simp] theorem wake_read (p : LinkPc) : p.wake.read = p.read := by cases p <;> rfl

end LinkPc

/-- The device, its state and the flag for the direction belong together. -/
def Handler.quiet : Handler → Bool
  | .idle | .change | .wake => true
  | _ => false

/-- The state of the event is still to be stored. -/
def Handler.storing : Handler → Bool
  | .state _ => true
  | _ => false

/-- The flags that the handler will set. -/
def Handler.Sets (linkstate : Bool) (k : LinkWait) : Handler → Prop
  | .state link => k = .ofState link ∨ k = .change
  | .flag => k = .ofState linkstate ∨ k = .change
  | .change => k = .change
  | .idle | .wake => False

theorem Handler.not_storing {h : Handler} (hq : h.quiet = true) : h.storing = false := by
  cases h <;> first | rfl | cases hq

/-! ## The condition -/

section Condition

variable (s : Links) (l : LinkLedger)

/-- Nobody is between the wait and the return. -/
def NonePast : Prop := ∀ t, (s.pc t).past = none

/-- A wait of this kind may end: the handler is not storing an event, and no other report of the same direction is under way. -/
def Passable (k : LinkWait) : Prop := s.handler.quiet = true ∧ (k ≠ .change → ∀ t, (s.pc t).past ≠ some k)

/-- An event is handled when nobody is between the wait and the return, and when the flag of the other direction has been
taken back, or is one that the same device has raised; the device that is stored goes away only when there is no flag and
nobody between wait and return; a wait ends in a quiet moment; and a signal ends one only when the flag is set, or for a
link change, when there is a device to report. -/
def LinkOrderly : LinkEvent → Prop
  | .change c => s.Begins c → NonePast s ∧
      ∀ k, k ≠ .change → s.wakeup k = true → k = .ofState c.link ∨ l.came k c.dev = true
  | .register dev b => b = false → s.handler = .idle → s.linkdev = some dev → (∀ k, s.wakeup k = false) ∧ NonePast s
  | .run t => ∀ k, (s.pc t).Tests k → s.wakeup k = true → Passable s k
  | .signal t => ∀ k, (s.pc t).Asleep k → Passable s k ∧
      (s.wakeup k = true ∨ k = .change ∧ ∃ dev, s.linkdev = some dev ∧ s.registered dev = true)
  | .work | .call _ _ => True

end Condition

/-! ## The invariant -/

section Invariant

variable (s : Links) (l : LinkLedger)

/-- The flag is set, or the handler will set it. -/
def Due (k : LinkWait) : Prop := s.wakeup k = true ∨ s.handler.Sets s.linkstate k

/-- A report of the device that is stored is right. -/
def Fits (k : LinkWait) : Prop :=
  ∃ dev, s.linkdev = some dev ∧ s.registered dev = true ∧ (k = .change ∨ l.came k dev = true)

/-- What holds in a run of orderly steps. -/
structure LinkInv : Prop where
  due : ∀ k, Due s k → Fits s l k
  past : ∀ t k, (s.pc t).past = some k → Fits s l k
  quiet : ∀ t k, (s.pc t).past = some k → s.handler.quiet = true
  sole : ∀ k, k ≠ .change → ∀ t u, (s.pc t).past = some k → (s.pc u).past = some k → t = u
  cleared : ∀ k, k ≠ .change → ∀ t, (s.pc t).taken = some k → s.wakeup k = false
  copied : ∀ t k st dev, s.pc t = .copy k st dev → s.linkdev = some dev
  took : ∀ t, (s.pc t).read = true → l.took t = l.devFrom
  same : s.handler.storing = false → l.stateFrom = l.devFrom
  right : Truthful (s, l)

end Invariant

theorem linkInv_start : LinkInv .start .start where
  due k h := by rcases h with h | h <;> cases h
  past _ _ h := nomatch h
  quiet _ _ h := nomatch h
  sole _ _ _ _ h := nomatch h
  cleared _ _ _ h := nomatch h
  copied _ _ _ _ h := nomatch h
  took _ h := nomatch h
  same _ := rfl
  right := ⟨rfl, rfl, rfl⟩

section Steps

variable {s : Links} {l : LinkLedger} {t u : Listener} {k : LinkWait} {p : LinkPc} {dev : NetDev}

theorem Links.goto_pc (s : Links) (t u : Listener) (p : LinkPc) : (s.goto t p).pc u = if u = t then p else s.pc u :=
  Function.update_apply ..

/-- **A listener goes on.** It may get past its wait, and it has taken its flag back before it reads the device. -/
theorem LinkInv.goto (h : LinkInv s l)
    (hpast : ∀ k, p.past = some k → (s.pc t).past = some k ∨ Fits s l k ∧ Passable s k)
    (htaken : ∀ k, k ≠ .change → p.taken = some k → s.wakeup k = false)
    (hcopy : ∀ k st dev, p = .copy k st dev → s.linkdev = some dev)
    (hread : p.read = true → l.took t = l.devFrom) : LinkInv (s.goto t p) l where
  due := h.due
  past u k hu := by
    rw [Links.goto_pc] at hu
    split_ifs at hu with hut
    · rcases hpast k hu with ht | hfits
      · exact h.past t k ht
      · exact hfits.1
    · exact h.past u k hu
  quiet u k hu := by
    rw [Links.goto_pc] at hu
    split_ifs at hu with hut
    · rcases hpast k hu with ht | hfits
      · exact h.quiet t k ht
      · exact hfits.2.1
    · exact h.quiet u k hu
  sole k hk u v hu hv := by
    -- a listener that was not past its wait before has been alone
    have hother : ∀ w, w ≠ t → p.past = some k → (s.pc w).past = some k → False := by
      intro w hw hp hpw
      rcases hpast k hp with ht | hfits
      · exact hw (h.sole k hk w t hpw ht)
      · exact hfits.2.2 hk w hpw
    rw [Links.goto_pc] at hu hv
    split_ifs at hu hv with hut hvt
    · rw [hut, hvt]
    · exact (hother v hvt hu hv).elim
    · exact (hother u hut hv hu).elim
    · exact h.sole k hk u v hu hv
  cleared k hk u hu := by
    rw [Links.goto_pc] at hu
    split_ifs at hu with hut
    · exact htaken k hk hu
    · exact h.cleared k hk u hu
  copied u k st dev hu := by
    rw [Links.goto_pc] at hu
    split_ifs at hu with hut
    · exact hcopy k st dev hu
    · exact h.copied u k st dev hu
  took u hu := by
    rw [Links.goto_pc] at hu
    split_ifs at hu with hut
    · rw [hut]
      exact hread hu
    · exact h.took u hu
  same := h.same
  right := ⟨h.right.named, h.right.paired, h.right.alive⟩

/-- A listener that returns, or has not got past its wait. -/
theorem LinkInv.goto_outside (h : LinkInv s l) (hp : p.past = none) : LinkInv (s.goto t p) l := by
  refine h.goto ?_ ?_ ?_ ?_
  · intro k hk
    rw [hp] at hk
    cases hk
  · intro k _ hk
    cases p <;> cases hp <;> cases hk
  · rintro k st dev rfl
    cases hp
  · intro hread
    cases p <;> cases hp <;> cases hread

/-- The wait ends, or the listener sleeps on. -/
theorem LinkInv.test (h : LinkInv s l) (hpass : s.wakeup k = true → Passable s k) :
    LinkInv (s.goto t (if s.wakeup k then .clear k else .asleep k false)) l := by
  split_ifs with hflag
  · refine h.goto ?_ (fun _ _ hk => nomatch hk) (fun _ _ _ hk => nomatch hk) (fun hread => nomatch hread)
    rintro _ ⟨⟩
    exact .inr ⟨h.due k (.inl hflag), hpass hflag⟩
  · exact h.goto_outside rfl

/-- A flag is taken back. -/
theorem LinkInv.lower (h : LinkInv s l) (k : LinkWait) :
    LinkInv { s with wakeup := Function.update s.wakeup k false } l := by
  have hle : ∀ k', Function.update s.wakeup k false k' = true → s.wakeup k' = true := by
    intro k' hk'
    rw [Function.update_apply] at hk'
    split_ifs at hk' with heq
    exact hk'
  refine ⟨?_, h.past, h.quiet, h.sole, ?_, h.copied, h.took, h.same, h.right.1, h.right.2, h.right.3⟩
  · intro k' hdue
    exact h.due k' (hdue.imp_left (hle k'))
  · intro k' hk' u hu
    have hflag := h.cleared k' hk' u hu
    rw [Bool.eq_false_iff] at hflag ⊢
    exact fun hk => hflag (hle k' hk)

/-- The event of the state that is read is noted. -/
theorem LinkInv.note (h : LinkInv s l) (hread : (s.pc t).read = false) (n : ℕ) :
    LinkInv s { l with took := Function.update l.took t n } := by
  refine ⟨h.due, h.past, h.quiet, h.sole, h.cleared, h.copied, ?_, h.same, h.right.1, h.right.2, h.right.3⟩
  intro u hu
  have hut : u ≠ t := by
    rintro rfl
    rw [hread] at hu
    cases hu
  change Function.update l.took t n u = _
  rw [Function.update_of_ne hut]
  exact h.took u hu

/-- What has been copied to the callers does not matter. -/
theorem LinkInv.reports (h : LinkInv s l) (rs : List LinkReport) : LinkInv { s with reports := rs } l :=
  ⟨h.due, h.past, h.quiet, h.sole, h.cleared, h.copied, h.took, h.same, h.right.1, h.right.2, h.right.3⟩

theorem LinkInv.answer (h : LinkInv s l) (name : Option NetDev) (st : Option Bool) :
    LinkInv (s.answer t k name st) l :=
  (h.goto_outside rfl).reports _

/-- A report has been made, and nobody else is about to make another one of its direction. -/
theorem LinkInv.told (h : LinkInv s l) (hdue : ¬ Due s k) (hnone : ∀ u, (s.pc u).past ≠ some k) :
    LinkInv s { l with came := Function.update l.came k fun _ => false } := by
  have hfits : ∀ k', k' ≠ k → Fits s l k' → Fits s { l with came := Function.update l.came k fun _ => false } k' := by
    rintro k' hk ⟨dev, hdev, hreg, hcame⟩
    refine ⟨dev, hdev, hreg, hcame.imp_right fun hc => ?_⟩
    change Function.update l.came k (fun _ => false) k' dev = true
    rw [Function.update_of_ne hk]
    exact hc
  refine ⟨?_, ?_, h.quiet, h.sole, h.cleared, h.copied, h.took, h.same, h.right.1, h.right.2, h.right.3⟩
  · intro k' hk'
    refine hfits k' ?_ (h.due k' hk')
    rintro rfl
    exact hdue hk'
  · intro u k' hu
    refine hfits k' ?_ (h.past u k' hu)
    rintro rfl
    exact hnone u hu

/-- In a quiet moment only the flag for any change is still to come. -/
theorem not_due (hquiet : s.handler.quiet = true) (hk : k ≠ .change) (hflag : s.wakeup k = false) : ¬ Due s k := by
  rintro (h | h)
  · rw [hflag] at h
    cases h
  · cases hs : s.handler <;> simp_all [Handler.quiet, Handler.Sets]

/-- The ledger after a report that is right. -/
theorem report_right (hreg : s.registered dev = true) (hcame : k = .change ∨ l.came k dev = true) :
    l.report s t k dev = { l with came := if k = .change then l.came else Function.update l.came k fun _ => false } := by
  rw [LinkLedger.report, if_pos hcame, if_pos hreg]

/-- **A report is made.** -/
theorem LinkInv.report {st : Option Bool} (h : LinkInv s l) (ht : s.pc t = .copy k st dev) :
    LinkInv (s.answer t k (some dev) st) (l.report s t k dev) := by
  have hpast : (s.pc t).past = some k := by rw [ht]; rfl
  obtain ⟨dev', hdev, hreg, hcame⟩ := h.past t k hpast
  rw [h.copied t k st dev ht] at hdev
  cases hdev
  rw [report_right hreg hcame]
  split_ifs with hk
  · exact h.answer (some dev) st
  · apply (h.answer (some dev) st).told
    · exact not_due (s := s) (h.quiet t k hpast) hk (h.cleared k hk t (by rw [ht]; rfl))
    · intro u hu
      change ((s.goto t .idle).pc u).past = some k at hu
      rw [Links.goto_pc] at hu
      split_ifs at hu with hut
      · cases hu
      · exact hut (h.sole k hk u t hu hpast)

/-- **A listener takes its next step.** -/
theorem LinkInv.run (h : LinkInv s l) (ho : LinkOrderly s l (.run t)) : LinkInv (s.run t) (l.run s t) := by
  rw [Links.run, LinkLedger.run]
  cases ht : s.pc t with
  | idle => exact h
  | test k => exact h.test (ho k (.inl ht))
  | asleep k woken =>
    cases woken with
    | false => exact h
    | true => exact h.test (ho k (.inr ht))
  | clear k =>
    refine (h.lower k).goto ?_ ?_ ?_ ?_
    · intro k' hk'
      left
      change (s.pc t).past = some k'
      rw [ht, ← hk']
      split_ifs with hk
      · rw [hk]; rfl
      · rfl
    · intro k' _ hk'
      split_ifs at hk'
      · cases hk'
      · cases hk'
        exact Function.update_self ..
    · intro k' st dev heq
      split_ifs at heq
    · intro hread
      split_ifs at hread with hk
      · cases hread
      · cases k with
        | change => exact absurd rfl hk
        | up => cases hread
        | down => cases hread
  | state =>
    have hpast : (s.pc t).past = some .change := by rw [ht]; rfl
    refine (h.note (by rw [ht]; rfl) l.stateFrom).goto ?_ (fun _ _ hk => nomatch hk) (fun _ _ _ hk => nomatch hk) ?_
    · rintro _ ⟨⟩
      exact .inl hpast
    · intro _
      change Function.update l.took t l.stateFrom t = l.devFrom
      rw [Function.update_self]
      exact h.same (Handler.not_storing (h.quiet t .change hpast))
  | check st =>
    have hpast : (s.pc t).past = some .change := by rw [ht]; rfl
    obtain ⟨dev, hdev, -⟩ := h.past t .change hpast
    have hsome : s.linkdev ≠ none := by rw [hdev]; exact nofun
    simp only [if_neg hsome]
    refine h.goto ?_ ?_ (fun _ _ _ hk => nomatch hk) (fun _ => h.took t (by rw [ht]; rfl))
    · rintro _ ⟨⟩
      exact .inl hpast
    · rintro _ hk ⟨⟩
      exact absurd rfl hk
  | load k st =>
    have hpast : (s.pc t).past = some k := by rw [ht]; rfl
    obtain ⟨dev, hdev, -⟩ := h.past t k hpast
    have hledger : (if k = .change then if l.took t = l.devFrom then l else { l with mispaired := l.mispaired ++ [t] }
        else if s.linkdev = none then { l with misnamed := l.misnamed ++ [t] } else l) = l := by
      split_ifs with hk htook hnone
      · rfl
      · exact absurd (h.took t (by rw [ht, hk]; rfl)) htook
      · rw [hdev] at hnone
        cases hnone
      · rfl
    dsimp only
    rw [hledger, hdev]
    refine h.goto ?_ ?_ ?_ (fun hread => nomatch hread)
    · rintro _ ⟨⟩
      exact .inl hpast
    · rintro _ hk ⟨⟩
      exact h.cleared k hk t (by rw [ht]; rfl)
    · rintro _ _ _ ⟨⟩
      exact hdev
  | copy k st dev => exact h.report ht

/-- **A signal comes** to a listener whose wait could end anyway. -/
theorem LinkInv.signal (h : LinkInv s l) (ho : LinkOrderly s l (.signal t)) : LinkInv (s.signal t) l := by
  rw [Links.signal]
  split
  next k woken ht =>
    obtain ⟨hpass, hflag⟩ := ho k (by
      rw [ht]
      cases woken with
      | false => exact .inl rfl
      | true => exact .inr rfl)
    refine h.goto ?_ (fun _ _ hk => nomatch hk) (fun _ _ _ hk => nomatch hk) (fun hread => nomatch hread)
    rintro _ ⟨⟩
    refine .inr ⟨?_, hpass⟩
    rcases hflag with hflag | ⟨hk, dev, hdev, hreg⟩
    · exact h.due k (.inl hflag)
    · exact ⟨dev, hdev, hreg, .inl hk⟩
  next => exact h

/-- A call begins. -/
theorem LinkInv.call (h : LinkInv s l) : LinkInv (s.call t k) l := by
  rw [Links.call]
  split_ifs
  · exact h.goto_outside rfl
  · exact h

/-- **The handler begins with an event.** -/
theorem LinkInv.change {c : NetdevChange} (h : LinkInv s l) (ho : LinkOrderly s l (.change c)) :
    LinkInv (s.change c) (l.change s c) := by
  rw [Links.change, LinkLedger.change]
  split_ifs with hbegins
  · obtain ⟨hnone, hflags⟩ := ho hbegins
    obtain ⟨hidle, hreg, -⟩ := hbegins
    -- the device of the event has come up or gone down, and that of each flag that is still set
    have hcame : ∀ k, k = .change ∨ k = .ofState c.link ∨ l.came k c.dev = true →
        Fits { s with linkdev := some c.dev, handler := .state c.link }
          { l with
            events := l.events + 1
            devFrom := l.events + 1
            came := Function.update l.came (.ofState c.link)
              (Function.update (l.came (.ofState c.link)) c.dev true) } k := by
      intro k hk
      refine ⟨c.dev, rfl, hreg, hk.imp_right fun hk => ?_⟩
      change Function.update l.came _ _ k c.dev = true
      rw [Function.update_apply]
      split_ifs with heq
      · exact Function.update_self ..
      · exact hk.resolve_left heq
    constructor
    · rintro k (hflag | hk)
      · apply hcame
        by_cases hc : k = .change
        · exact .inl hc
        · exact .inr (hflags k hc hflag)
      · exact hcame k (hk.elim (fun hk => .inr (.inl hk)) .inl)
    · intro t k ht
      exact absurd ((hnone t).symm.trans ht) nofun
    · intro t k ht
      exact absurd ((hnone t).symm.trans ht) nofun
    · intro k _ t u ht
      exact absurd ((hnone t).symm.trans ht) nofun
    · intro k hk t ht
      exact absurd ((hnone t).symm.trans (LinkPc.past_of_taken ht)) nofun
    · intro t k st dev ht
      have hpast := hnone t
      change s.pc t = _ at ht
      rw [ht] at hpast
      cases hpast
    · intro t ht
      exact absurd ((hnone t).symm.trans (LinkPc.past_of_read ht)) nofun
    · exact nofun
    · exact ⟨h.right.1, h.right.2, h.right.3⟩
  · exact h

/-- While the handler is storing an event, nobody is between the wait and the return. -/
theorem LinkInv.nonePast (h : LinkInv s l) (hquiet : s.handler.quiet = false) : NonePast s := by
  intro t
  by_contra hne
  obtain ⟨k, hk⟩ := Option.ne_none_iff_exists'.1 hne
  rw [h.quiet t k hk] at hquiet
  cases hquiet

/-- After a flag has been set, it was due before, or was set before, or is still due. -/
theorem due_of_raise {k' : LinkWait} {h' : Handler}
    (hk : Function.update s.wakeup k' true k = true ∨ h'.Sets s.linkstate k) (hnew : k = k' → Due s k)
    (hsets : h'.Sets s.linkstate k → Due s k) : Due s k := by
  rcases hk with hflag | hk
  · rw [Function.update_apply] at hflag
    split_ifs at hflag with heq
    · exact hnew heq
    · exact .inl hflag
  · exact hsets hk

/-- **The handler takes its next step.** -/
theorem LinkInv.work (h : LinkInv s l) : LinkInv s.work (l.work s) := by
  rw [Links.work, LinkLedger.work]
  cases hs : s.handler with
  | idle => exact h
  | state link =>
    have hnone := h.nonePast (by rw [hs]; rfl)
    refine ⟨?_, h.past, ?_, h.sole, h.cleared, h.copied, h.took, fun _ => rfl, h.right.1, h.right.2, h.right.3⟩
    · intro k hk
      refine h.due k (hk.imp_right fun hk => ?_)
      rw [hs]
      exact hk
    · intro t k ht
      exact absurd ((hnone t).symm.trans ht) nofun
  | flag =>
    have hnone := h.nonePast (by rw [hs]; rfl)
    refine ⟨?_, h.past, fun _ _ _ => rfl, h.sole, ?_, h.copied, h.took, fun _ => ?_, h.right.1, h.right.2, h.right.3⟩
    · intro k hk
      refine h.due k (due_of_raise hk ?_ ?_)
      · rintro rfl
        exact .inr (by rw [hs]; exact .inl rfl)
      · rintro rfl
        exact .inr (by rw [hs]; exact .inr rfl)
    · intro k hk t ht
      exact absurd ((hnone t).symm.trans (LinkPc.past_of_taken ht)) nofun
    · exact h.same (by rw [hs]; rfl)
  | change =>
    refine ⟨?_, h.past, fun _ _ _ => rfl, h.sole, ?_, h.copied, h.took, fun _ => ?_, h.right.1, h.right.2, h.right.3⟩
    · intro k hk
      refine h.due k (due_of_raise hk ?_ nofun)
      rintro rfl
      exact .inr (by rw [hs]; rfl)
    · intro k hk t ht
      exact (Function.update_of_ne hk ..).trans (h.cleared k hk t ht)
    · exact h.same (by rw [hs]; rfl)
  | wake =>
    refine ⟨?_, ?_, fun _ _ _ => rfl, ?_, ?_, ?_, ?_, fun _ => ?_, h.right.1, h.right.2, h.right.3⟩
    · rintro k (hk | hk)
      · exact h.due k (.inl hk)
      · cases hk
    · intro t k ht
      exact h.past t k (by simpa using ht)
    · intro k hk t u ht hu
      exact h.sole k hk t u (by simpa using ht) (by simpa using hu)
    · intro k hk t ht
      exact h.cleared k hk t (by simpa using ht)
    · intro t k st dev ht
      refine h.copied t k st dev ?_
      change (s.pc t).wake = _ at ht
      cases hp : s.pc t <;> rw [hp] at ht <;> first | exact ht | cases ht
    · intro t ht
      exact h.took t (by simpa using ht)
    · exact h.same (by rw [hs]; rfl)

/-- **A device is registered or unregistered.** -/
theorem LinkInv.register {b : Bool} (h : LinkInv s l) (ho : LinkOrderly s l (.register dev b)) :
    LinkInv (s.register dev b) l := by
  rw [Links.register]
  split_ifs with hidle
  · -- the device that is stored stays registered, as long as somebody may report it
    have hfits : ∀ k, (s.wakeup k = true ∨ ∃ t, (s.pc t).past = some k) → Fits s l k →
        Fits { s with registered := Function.update s.registered dev b } l k := by
      rintro k hk ⟨dev', hdev, hreg, hcame⟩
      refine ⟨dev', hdev, ?_, hcame⟩
      change Function.update s.registered dev b dev' = true
      rw [Function.update_apply]
      split_ifs with heq
      · rw [← Bool.not_eq_false]
        intro hb
        obtain ⟨hnoflag, hnone⟩ := ho hb hidle (by rw [hdev, heq])
        rcases hk with hflag | ⟨t, ht⟩
        · rw [hnoflag k] at hflag
          cases hflag
        · rw [hnone t] at ht
          cases ht
      · exact hreg
    refine ⟨?_, ?_, h.quiet, h.sole, h.cleared, h.copied, h.took, h.same, h.right.1, h.right.2, h.right.3⟩
    · intro k hk
      refine hfits k (.inl ?_) (h.due k hk)
      rcases hk with hflag | hk
      · exact hflag
      · change s.handler.Sets s.linkstate k at hk
        rw [hidle] at hk
        exact hk.elim
    · intro t k ht
      exact hfits k (.inr ⟨t, ht⟩) (h.past t k ht)
  · exact h

end Steps

/-! ## Runs -/

/-- One step. -/
theorem linkInv_step {r : LinkRun} {e : LinkEvent} (h : LinkInv r.1 r.2) (ho : LinkOrderly r.1 r.2 e) :
    LinkInv (linkRun r e).1 (linkRun r e).2 := by
  cases e with
  | register dev b => exact h.register ho
  | change c => exact h.change ho
  | work => exact h.work
  | call t k => exact h.call
  | run t => exact h.run ho
  | signal t => exact h.signal ho

/-- A step of a listener that does not look at a flag is orderly. -/
theorem not_tests {s : Links} {l : LinkLedger} {t : Listener}
    (h : ∀ k, s.pc t ≠ .test k ∧ s.pc t ≠ .asleep k true) : LinkOrderly s l (.run t) :=
  fun k hk => (hk.elim (h k).1 (h k).2).elim

end BmcNetmon
