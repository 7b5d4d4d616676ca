import Bmc.Acd.BigCore

/-!
# Reading the big-core dump

What the loop over the frames leaves in the dump, in terms of the answers of the CPU and of the clock.

* `framesRead`: the number of frames that are asked for behind the first one;
* `FrameLoop.Has`: what so many frames leave; `Has.getFrame`: one more frame;
* **`Ready.readFrames`**: the loop ends with `framesRead` frames.
-/

namespace BmcAcd

open BmcLib

namespace BigCoreQuery

variable (q : BigCoreQuery)

/-! ## The frames that are asked for -/

/-- The answer to the call for the frame `k`. -/
def answer (k : ℕ) : PeciAnswer := q.bus.answers (q.bus.log.length + k)

/-- The frame `k` is answered, with a code for which the whole socket is left. -/
def SkipsSocket (k : ℕ) : Prop :=
  q.getFrame.Issued (q.answer k) ∧ peciCcSkipSocket (q.answer k).cc

/-- No frame is asked for behind this answer. -/
def Stops (k : ℕ) : Prop :=
  q.getFrame.status (q.answer k) ≠ .success ∨ peciCcSkipCore (q.answer k).cc ∨
    peciCcSkipSocket (q.answer k).cc

/-- The time is over when the frame behind the frame `k` is due. -/
def Expired (k : ℕ) : Prop :=
  q.execStatus = .aborted ∨
    q.execStatus = .tillAbort ∧ q.clock.answers (q.clock.log.length + k) = true

instance (k : ℕ) : Decidable (q.SkipsSocket k) := inferInstanceAs (Decidable (_ ∧ _))

instance (k : ℕ) : Decidable (q.Stops k) := inferInstanceAs (Decidable (_ ∨ _ ∨ _))

instance (k : ℕ) : Decidable (q.Expired k) := inferInstanceAs (Decidable (_ ∨ _ ∧ _))

/-- The number of frames that are asked for behind the first one. -/
def framesRead : ℕ :=
  ((List.range' 0 (q.crashdumpSize / 8 - 1)).takeWhile fun k => ¬ q.Stops k ∧ ¬ q.Expired k).length

theorem framesRead_le : q.framesRead ≤ q.crashdumpSize / 8 - 1 := by
  have h := (List.takeWhile_sublist (l := List.range' 0 (q.crashdumpSize / 8 - 1))
    fun k => decide (¬ q.Stops k ∧ ¬ q.Expired k)).length_le
  simpa [framesRead] using h

/-- The dump is read: the first frame is there, and so is the memory. -/
def Started : Prop :=
  q.start.ret = .success ∧ ¬ peciCcSkipCore q.start.cc ∧ ¬ peciCcSkipSocket q.start.cc ∧ q.granted

instance : Decidable q.Started := inferInstanceAs (Decidable (_ ∧ _ ∧ _ ∧ _))

theorem answer_zero : q.answer 0 = q.bus.answer := rfl

end BigCoreQuery

/-! ## The loop -/

/-- `s` is what the frames up to `k` leave. -/
structure FrameLoop.Has (q : BigCoreQuery) (k : ℕ) (s : FrameLoop) : Prop where
  ret : s.ret = q.getFrame.status (q.answer k)
  cc : q.getFrame.Issued (q.answer k) → s.cc = (q.answer k).cc
  numReads : s.numReads = k
  answers : s.bus.answers = q.bus.answers
  log : s.bus.log = q.bus.log ++ List.replicate (k + 1) q.getFrame
  data : ∀ j ≤ k, q.getFrame.status (q.answer j) = .success →
    slice s.data (j * 8) 8 = slice (q.answer j).data 0 8
  accesses : ∀ a ∈ s.accesses, ∃ j ≤ k, a = (j * 8, 8)

/-- `s` can go on behind the frame `k`: the time is not over, or it never was there. -/
structure FrameLoop.Ready (q : BigCoreQuery) (k : ℕ) (s : FrameLoop) : Prop extends s.Has q k where
  execStatus : s.execStatus = q.execStatus
  clock : s.clock.answers = q.clock.answers
  ticks : q.execStatus = .tillAbort → s.clock.log.length = q.clock.log.length + k

theorem PeciCall.issued_of_status {c : PeciCall} {a : PeciAnswer} (h : c.status a = .success) :
    c.Accepted ∧ a.opened := by
  unfold PeciCall.status at h
  by_cases h₁ : c.Accepted
  · cases h₂ : a.opened
    · simp [h₁, h₂] at h
    · exact ⟨h₁, rfl⟩
  · split_ifs at h

theorem BigCoreQuery.issued_of_success {q : BigCoreQuery} {k : ℕ}
    (h : q.getFrame.status (q.answer k) = .success) : q.getFrame.Issued (q.answer k) := by
  obtain ⟨h₁, h₂⟩ := PeciCall.issued_of_status h
  exact ⟨h₁, h₂, rfl⟩

theorem BigCoreQuery.ready_start (q : BigCoreQuery) : q.start.Ready q 0 where
  ret := rfl
  cc h := if_pos h
  numReads := rfl
  answers := rfl
  log := rfl
  data j hj _ := by
    obtain rfl : j = 0 := by omega
    rw [q.answer_zero]
    exact slice_store_zero (by simp) |>.trans (by rw [take_slice]; rfl)
  accesses a ha := ⟨0, le_rfl, by simpa [start] using ha⟩
  execStatus := rfl
  clock := rfl
  ticks _ := rfl

namespace FrameLoop

variable {q : BigCoreQuery} {k : ℕ} {s : FrameLoop}

theorem Has.answer_eq (h : s.Has q k) : s.bus.answer = q.answer (k + 1) := by
  rw [Device.answer, h.answers, h.log, BigCoreQuery.answer]
  simp

theorem Has.goesOn_iff (h : s.Has q k) :
    (s.ret = .success ∧ ¬ peciCcSkipCore s.cc ∧ ¬ peciCcSkipSocket s.cc) ↔ ¬ q.Stops k := by
  unfold BigCoreQuery.Stops
  push Not
  rw [h.ret]
  refine and_congr_right fun hs => ?_
  rw [h.cc (BigCoreQuery.issued_of_success hs)]

/-- Without the frame, the time may already be over. -/
theorem Ready.execStatus_checkTime (h : s.Ready q k) (ha : q.execStatus ≠ .aborted) :
    s.checkTime.execStatus = .aborted ↔ q.Expired k := by
  unfold checkTime BigCoreQuery.Expired
  rw [h.execStatus]
  by_cases ht : q.execStatus = .tillAbort
  · have hc : s.clock.answer = q.clock.answers (q.clock.log.length + k) := by
      rw [Device.answer, h.clock, h.ticks ht]
    rw [if_pos ht, ← hc]
    cases hv : s.clock.answer <;> simp [ht]
  · rw [if_neg ht, h.execStatus]
    simp [ha, ht]

theorem Has.of_eq {t : FrameLoop} (h : s.Has q k) (h₁ : t.ret = s.ret) (h₂ : t.cc = s.cc)
    (h₃ : t.numReads = s.numReads) (h₄ : t.bus = s.bus) (h₅ : t.data = s.data)
    (h₆ : t.accesses = s.accesses) : t.Has q k where
  ret := h₁.trans h.ret
  cc hi := h₂.trans (h.cc hi)
  numReads := h₃.trans h.numReads
  answers := by rw [h₄, h.answers]
  log := by rw [h₄, h.log]
  data := by rw [h₅]; exact h.data
  accesses := by rw [h₆]; exact h.accesses

theorem Has.checkTime (h : s.Has q k) : s.checkTime.Has q k := by
  unfold FrameLoop.checkTime
  by_cases ht : s.execStatus = .tillAbort
  · rw [if_pos ht]
    exact h.of_eq rfl rfl rfl rfl rfl rfl
  · rw [if_neg ht]
    exact h

/-- **One frame.** The dump has one more frame. -/
theorem Has.getFrame (h : s.Has q k) : (s.getFrame q.getFrame (k + 1)).Has q (k + 1) where
  ret := by simp only [FrameLoop.getFrame, h.answer_eq]
  cc hi := by simp only [FrameLoop.getFrame, h.answer_eq, if_pos hi]
  numReads := rfl
  answers := h.answers
  log := by
    simp only [FrameLoop.getFrame, Device.log_call, h.log, List.append_assoc]
    rw [← List.replicate_succ' (n := k + 1)]
  data j hj hs := by
    simp only [FrameLoop.getFrame, h.answer_eq]
    by_cases hk : j = k + 1
    · subst hk
      rw [if_pos hs]
      simpa using slice_store_same s.data ((k + 1) * 8) (slice (q.answer (k + 1)).data 0 8)
    · rw [← h.data j (by omega) hs]
      split_ifs
      · exact slice_store_disjoint (by left; omega)
      · rfl
  accesses a ha := by
    simp only [FrameLoop.getFrame] at ha
    have hold : a ∈ s.accesses → ∃ j ≤ k + 1, a = (j * 8, 8) := fun ha => by
      obtain ⟨j, hj, hja⟩ := h.accesses a ha
      exact ⟨j, by omega, hja⟩
    split_ifs at ha
    · rcases List.mem_append.1 ha with ha | ha
      · exact hold ha
      · exact ⟨k + 1, le_rfl, by simpa using ha⟩
    · exact hold ha

theorem Ready.getFrame (h : s.Ready q k) (he : ¬ q.Expired k) :
    (s.checkTime.getFrame q.getFrame (k + 1)).Ready q (k + 1) where
  toHas := h.toHas.checkTime.getFrame
  execStatus := by
    unfold BigCoreQuery.Expired at he
    push Not at he
    show s.checkTime.execStatus = _
    unfold FrameLoop.checkTime
    by_cases ht : q.execStatus = .tillAbort
    · have hc : s.clock.answer = false := by
        rw [Device.answer, h.clock, h.ticks ht]
        simpa using he.2 ht
      rw [h.execStatus, if_pos ht, hc, ht]
      rfl
    · rw [h.execStatus, if_neg ht, h.execStatus]
  clock := by
    show s.checkTime.clock.answers = _
    unfold FrameLoop.checkTime
    by_cases ht : s.execStatus = .tillAbort
    · rw [if_pos ht]
      exact h.clock
    · rw [if_neg ht]
      exact h.clock
  ticks ht := by
    show s.checkTime.clock.log.length = _
    unfold FrameLoop.checkTime
    rw [h.execStatus, if_pos ht]
    simp [h.ticks ht, Nat.add_assoc]

theorem readFrames_aborted (c : PeciCall) (is : List ℕ) (h : s.execStatus = .aborted) :
    s.readFrames c is = (s, false) := by
  induction is with
  | nil => rfl
  | cons i is ih => rw [readFrames, if_pos h, ih]

/-- The loop ends behind a frame that stops it, and tells whether it was for the socket. -/
theorem readFrames_stops (c : PeciCall) (is : List ℕ) {i : ℕ} (he : s.execStatus ≠ .aborted)
    (ht : s.checkTime.execStatus ≠ .aborted)
    (hs : ¬ ((s.checkTime.getFrame c i).ret = .success ∧
      ¬ peciCcSkipCore (s.checkTime.getFrame c i).cc ∧
      ¬ peciCcSkipSocket (s.checkTime.getFrame c i).cc)) :
    (∃ b, (s.readFrames c (i :: is)).1 = { s.checkTime.getFrame c i with gotoNextCore := b }) ∧
      ((s.readFrames c (i :: is)).2 = true ↔ peciCcSkipSocket (s.checkTime.getFrame c i).cc) := by
  rw [readFrames, if_neg he, if_neg ht]
  by_cases h₁ : peciCcSkipCore (s.checkTime.getFrame c i).cc
  · refine ⟨⟨true, by simp only [if_pos h₁]⟩, ?_⟩
    simp only [if_pos h₁, Bool.false_eq_true, false_iff]
    revert h₁
    unfold peciCcSkipCore peciCcSkipSocket
    rintro (h | h | h | h | h | h) <;> rw [h] <;> decide
  · by_cases h₂ : peciCcSkipSocket (s.checkTime.getFrame c i).cc
    · simp only [if_neg h₁, if_pos h₂]
      exact ⟨⟨_, rfl⟩, by simp [h₂]⟩
    · have h₃ : (s.checkTime.getFrame c i).ret ≠ .success := fun h => hs ⟨h, h₁, h₂⟩
      simp only [if_neg h₁, if_neg h₂, if_pos h₃]
      exact ⟨⟨true, rfl⟩, by simp [h₂]⟩

theorem readFrames_goesOn (c : PeciCall) (is : List ℕ) {i : ℕ} (he : s.execStatus ≠ .aborted)
    (ht : s.checkTime.execStatus ≠ .aborted)
    (hs : (s.checkTime.getFrame c i).ret = .success ∧
      ¬ peciCcSkipCore (s.checkTime.getFrame c i).cc ∧
      ¬ peciCcSkipSocket (s.checkTime.getFrame c i).cc) :
    s.readFrames c (i :: is) = (s.checkTime.getFrame c i).readFrames c is := by
  rw [readFrames, if_neg he, if_neg ht]
  simp only [if_neg hs.2.1, if_neg hs.2.2, hs.1, ne_eq, not_true_eq_false, if_false]

/-- **The loop.** It asks for frames until an answer stops it or the time is over. -/
theorem Ready.readFrames (m : ℕ) (h : s.Ready q k) (hs : ¬ q.Stops k) :
    let n := ((List.range' k m).takeWhile fun k => ¬ q.Stops k ∧ ¬ q.Expired k).length
    (s.readFrames q.getFrame (List.range' (k + 1) m)).1.Has q (k + n) ∧
      ((s.readFrames q.getFrame (List.range' (k + 1) m)).2 = true ↔
        0 < n ∧ q.SkipsSocket (k + n)) := by
  induction m generalizing s k with
  | zero => exact ⟨h.toHas, by simp [FrameLoop.readFrames]⟩
  | succ m ih =>
    rw [List.range'_succ, List.range'_succ]
    by_cases he : q.Expired k
    · rw [List.takeWhile_cons_of_neg (by simp [he])]
      by_cases ha : q.execStatus = .aborted
      · rw [readFrames_aborted _ _ (h.execStatus.trans ha)]
        exact ⟨h.toHas, by simp⟩
      · rw [FrameLoop.readFrames, if_neg (by rwa [h.execStatus]),
          if_pos ((h.execStatus_checkTime ha).2 he)]
        exact ⟨h.toHas.checkTime.of_eq rfl rfl rfl rfl rfl rfl, by simp⟩
    have ha : q.execStatus ≠ .aborted := fun ha => he (.inl ha)
    have ha' : s.execStatus ≠ .aborted := by rwa [h.execStatus]
    have ht : s.checkTime.execStatus ≠ .aborted := mt (h.execStatus_checkTime ha).1 he
    have hnext := h.getFrame he
    rw [List.takeWhile_cons_of_pos (by simp [he, hs]), List.length_cons]
    by_cases hs' : q.Stops (k + 1)
    · -- the next frame is the last one
      have hlen : ((List.range' (k + 1) m).takeWhile
          fun k => ¬ q.Stops k ∧ ¬ q.Expired k).length = 0 := by
        cases m with
        | zero => rfl
        | succ m => rw [List.range'_succ, List.takeWhile_cons_of_neg (by simp [hs'])]; rfl
      rw [hlen]
      obtain ⟨⟨b, hb⟩, h₂⟩ := readFrames_stops q.getFrame (List.range' (k + 1 + 1) m) ha' ht
        (mt hnext.goesOn_iff.1 (not_not.2 hs'))
      refine ⟨hb ▸ hnext.toHas.of_eq rfl rfl rfl rfl rfl rfl, h₂.trans ?_⟩
      simp only [Nat.zero_add, Nat.zero_lt_one, true_and, BigCoreQuery.SkipsSocket]
      by_cases hi : q.getFrame.Issued (q.answer (k + 1))
      · rw [hnext.cc hi]
        simp [hi]
      · -- the code is the one of the frame before
        have hcc : (s.checkTime.getFrame q.getFrame (k + 1)).cc = s.checkTime.cc := by
          simp only [FrameLoop.getFrame, h.toHas.checkTime.answer_eq, if_neg hi]
        rw [hcc]
        simp [hi, (h.toHas.checkTime.goesOn_iff.2 hs).2.2]
    · rw [readFrames_goesOn _ _ ha' ht (hnext.goesOn_iff.2 hs')]
      obtain ⟨h₁, h₂⟩ := ih hnext hs'
      refine ⟨by convert h₁ using 1; omega, h₂.trans ?_⟩
      rw [Nat.add_right_comm k, ← Nat.add_assoc k]
      refine and_congr_left fun hsk => ⟨fun _ => by omega, fun _ => ?_⟩
      by_contra h0
      rw [Nat.eq_zero_of_not_pos h0] at hsk
      exact hs' (.inr (.inr hsk.2))

end FrameLoop

namespace BigCoreQuery

variable {q : BigCoreQuery}

theorem Started.not_stops (h : q.Started) : ¬ q.Stops 0 :=
  q.ready_start.toHas.goesOn_iff.1 ⟨h.1, h.2.1, h.2.2.1⟩

theorem frames_has (h : q.Started) : q.frames.1.Has q q.framesRead := by
  have h₁ := (q.ready_start.readFrames (q.crashdumpSize / 8 - 1) h.not_stops).1
  rwa [Nat.zero_add] at h₁

theorem frames_left_iff (h : q.Started) :
    q.frames.2 = true ↔ 0 < q.framesRead ∧ q.SkipsSocket q.framesRead := by
  have h₂ := (q.ready_start.readFrames (q.crashdumpSize / 8 - 1) h.not_stops).2
  simp only [Nat.zero_add] at h₂
  exact h₂

theorem query_of_not_started (h : ¬ q.Started) :
    ∃ status, q.queryForCrashDataForThread = q.leave status q.start.bus := by
  unfold Started at h
  unfold queryForCrashDataForThread
  by_cases h₁ : q.start.ret = .success
  · by_cases h₂ : peciCcSkipCore q.start.cc
    · exact ⟨_, by rw [if_neg (not_not.2 h₁), if_pos h₂]⟩
    by_cases h₃ : peciCcSkipSocket q.start.cc
    · exact ⟨_, by rw [if_neg (not_not.2 h₁), if_neg h₂, if_pos h₃]⟩
    have h₄ : ¬ q.granted := fun h₄ => h ⟨h₁, h₂, h₃, h₄⟩
    exact ⟨_, by rw [if_neg (not_not.2 h₁), if_neg h₂, if_neg h₃, if_pos h₄]⟩
  · exact ⟨_, by rw [if_pos h₁]⟩

theorem query_of_started (h : q.Started) :
    q.queryForCrashDataForThread =
      if q.frames.2 then
        { q.leave .skipToNextSocket q.frames.1.bus with
          crashedCoreMask := q.crashedCoreMask ||| (1 <<< UInt64.ofNat q.coreNum)
          waitForCoreCrashdump := false
          accesses := q.frames.1.accesses
          clock := q.frames.1.clock }
      else q.finish q.frames.1 := by
  obtain ⟨h₁, h₂, h₃, h₄⟩ := h
  unfold queryForCrashDataForThread
  rw [if_neg (not_not.2 h₁), if_neg h₂, if_neg h₃, if_neg (not_not.2 h₄)]

end BigCoreQuery

end BmcAcd
