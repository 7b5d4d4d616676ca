import Bmc.Gpio.Book

/-!
# The lists of sensors and chassis interrupts

Careful registrations of the two lists, and careful unregistrations, keep what the driver and the book agree on.
-/

namespace BmcGpio

variable {s : Gpio} {b : Book}

theorem Agrees.mk_frame {s' : Gpio} {b' : Book} (h : Agrees (s, b)) (hbal : Balanced (s', b'))
    (hsensors : Holds s'.intrSensors s'.totalInterruptSensors b'.sensors)
    (hchassis : Holds s'.intrChassis s'.totalChassisInterrupts b'.chassis)
    (hnodes : s'.headGpioList = s.headGpioList) (henables : b'.enables = b.enables) : Agrees (s', b') where
  balanced := hbal
  sensors := hsensors
  chassis := hchassis
  nodes pid p := by
    change _ ∈ b'.enables ↔ Owns s'.headGpioList pid p
    rw [henables, hnodes]
    exact h.nodes pid p
  nodup := by
    change b'.enables.Nodup
    rw [henables]
    exact h.nodup
  single := by
    change Single s'.headGpioList
    rw [hnodes]
    exact h.single

theorem registerSensorInts_nil (a : RegisterAnswers) (s : Gpio) :
    ∃ ret m, registerSensorInts [] a s = (ret, { s with totalInterruptSensors := 0, intrSensors := m }) := by
  simp only [registerSensorInts, List.length_nil, IntrMemory.read_zero, Gpio.regInts_nil, Gpio.countAll_nil]
  split_ifs <;> exact ⟨_, _, rfl⟩

theorem registerSensorInts_ok {infos : List InterruptSensor} {a : RegisterAnswers} (halloc : a.alloc = true)
    (hcopy : a.copy = true) (hhw : a.hw = true) (hsize : sizeofInterruptSensor * infos.length < 2 ^ 32) (s : Gpio) :
    registerSensorInts infos a s = (0, (Gpio.regInts { s with
      totalInterruptSensors := infos.length, intrSensors := .block infos } infos).countAll infos) := by
  simp only [registerSensorInts, halloc, hcopy, hhw, copied_eq hsize, read_block, Bool.true_eq_false, if_false]

theorem registerChassisInts_nil (a : RegisterAnswers) (s : Gpio) :
    ∃ ret m, registerChassisInts [] a s = (ret, { s with totalChassisInterrupts := 0, intrChassis := m }) := by
  simp only [registerChassisInts, List.length_nil, IntrMemory.read_zero, Gpio.regInts_nil, Gpio.countAll_nil]
  split_ifs <;> exact ⟨_, _, rfl⟩

theorem registerChassisInts_ok {infos sensors : List InterruptSensor} {a : RegisterAnswers}
    (halloc : a.alloc = true) (hcopy : a.copy = true) (hhw : a.hw = true) (hsize : sizeofInterruptSensor * infos.length < 2 ^ 32)
    (hread : s.intrSensors.read infos.length = some sensors) :
    registerChassisInts infos a s = (0, (Gpio.regInts { s with
      totalChassisInterrupts := infos.length, intrChassis := .block infos } infos).countAll sensors) := by
  simp only [registerChassisInts, halloc, hcopy, hhw, copied_eq hsize, read_block, Bool.true_eq_false, if_false,
    regInts_eq, hread]

theorem agrees_registerSensorInts (h : Agrees (s, b)) {infos : List InterruptSensor} {a : RegisterAnswers}
    (hc : Careful s (.registerSensorInts infos a)) : Agrees (bookStep (s, b) (.registerSensorInts infos a)) := by
  obtain ⟨htotal, hreg⟩ := hc
  have hnone : b.sensors = [] := eq_nil_of_holds_zero (htotal ▸ h.sensors)
  rcases hreg with rfl | ⟨halloc, hcopy, hhw, hsize, hlt⟩
  · obtain ⟨ret, m, heq⟩ := registerSensorInts_nil a s
    have hbook : b.record ret (.registerSensorInts [] a) = b := by
      rw [Book.record]
      split_ifs
      · rfl
      · exact congrArg (fun l => { b with sensors := l }) hnone.symm
    rw [bookStep, Gpio.call, heq]
    dsimp only
    rw [hbook]
    refine h.mk_frame ⟨h.balanced.counts, h.balanced.hardware, h.balanced.noFault⟩ ?_ h.chassis rfl rfl
    rw [hnone]
    exact holds_zero m
  · have hbook : b.record 0 (.registerSensorInts infos a) = { b with sensors := pinsOf infos } := rfl
    rw [bookStep, Gpio.call, registerSensorInts_ok halloc hcopy hhw hsize]
    dsimp only
    rw [hbook]
    have hbal : Balanced ({ s with totalInterruptSensors := infos.length, intrSensors := .block infos }, b) :=
      ⟨h.balanced.counts, h.balanced.hardware, h.balanced.noFault⟩
    refine h.mk_frame ?_ ?_ ?_ ?_ rfl
    · refine hbal.regAll infos (fun p => ?_) (List.Perm.refl _) hlt
      simp only [Book.count, hnone, List.count_nil]
      omega
    · rw [regInts_eq, countAll_eq]
      exact ⟨infos, read_block infos, rfl⟩
    · rw [regInts_eq, countAll_eq]
      exact h.chassis
    · rw [regInts_eq, countAll_eq]

theorem agrees_registerChassisInts (h : Agrees (s, b)) {infos : List InterruptSensor} {a : RegisterAnswers}
    (hc : Careful s (.registerChassisInts infos a)) : Agrees (bookStep (s, b) (.registerChassisInts infos a)) := by
  obtain ⟨htotal, hreg, sensors, hread, hperm⟩ := hc
  have hnone : b.chassis = [] := eq_nil_of_holds_zero (htotal ▸ h.chassis)
  rcases hreg with rfl | ⟨halloc, hcopy, hhw, hsize, hlt⟩
  · obtain ⟨ret, m, heq⟩ := registerChassisInts_nil a s
    have hbook : b.record ret (.registerChassisInts [] a) = b := by
      rw [Book.record]
      split_ifs
      · rfl
      · exact congrArg (fun l => { b with chassis := l }) hnone.symm
    rw [bookStep, Gpio.call, heq]
    dsimp only
    rw [hbook]
    refine h.mk_frame ⟨h.balanced.counts, h.balanced.hardware, h.balanced.noFault⟩ h.sensors ?_ rfl rfl
    rw [hnone]
    exact holds_zero m
  · have hbook : b.record 0 (.registerChassisInts infos a) = { b with chassis := pinsOf infos } := rfl
    rw [bookStep, Gpio.call, registerChassisInts_ok halloc hcopy hhw hsize hread]
    dsimp only
    rw [hbook]
    have hbal : Balanced ({ s with totalChassisInterrupts := infos.length, intrChassis := .block infos }, b) :=
      ⟨h.balanced.counts, h.balanced.hardware, h.balanced.noFault⟩
    refine h.mk_frame ?_ ?_ ?_ ?_ rfl
    · refine hbal.regAll sensors (fun p => ?_) hperm hlt
      simp only [Book.count, hnone, List.count_nil]
      omega
    · rw [regInts_eq, countAll_eq]
      exact h.sensors
    · rw [regInts_eq, countAll_eq]
      exact ⟨infos, read_block infos, rfl⟩
    · rw [regInts_eq, countAll_eq]

theorem agrees_unregisterSensorInts (h : Agrees (s, b)) {hwOk : ℕ → Bool}
    (hc : Careful s (.unregisterSensorInts hwOk)) : Agrees (bookStep (s, b) (.unregisterSensorInts hwOk)) := by
  obtain ⟨hlive, hok⟩ := hc
  obtain ⟨entries, hread, hpins⟩ := h.sensors.read
  dsimp only at hread hpins
  have hle : ∀ p, (pinsOf entries).count p ≤ (s.gpioPinList p).toNat := h.count_le fun p => by
    rw [hpins, Book.count, add_assoc]
    exact Nat.le_add_right _ _
  rcases unregLoop_cases (hok entries hread) hle with hloop | hloop
  · have hstep : unregisterSensorInts hwOk s = (-1, s) := by
      simp only [unregisterSensorInts, hread, hloop, if_true]
    have hbook : b.record (-1) (.unregisterSensorInts hwOk) = b := rfl
    rw [bookStep, Gpio.call, hstep]
    dsimp only
    rw [hbook]
    exact h
  · have hstep : ∃ m, unregisterSensorInts hwOk s =
        (0, { s.unregAll (pinsOf entries) with intrSensors := m, totalInterruptSensors := 0 }) := by
      have hlive' : (s.unregAll (pinsOf entries)).intrSensors ≠ .freed := hlive
      simp only [unregisterSensorInts, hread, hloop, Bool.true_eq_false, if_false, hlive']
      exact ⟨_, rfl⟩
    obtain ⟨m, hstep⟩ := hstep
    have hbook : b.record 0 (.unregisterSensorInts hwOk) = { b with sensors := [] } := rfl
    rw [bookStep, Gpio.call, hstep]
    dsimp only
    rw [hbook]
    have hbal : Balanced (s.unregAll (pinsOf entries), { b with sensors := [] }) :=
      h.balanced.unregAll fun p => by
        simp only [Book.count, hpins, List.count_nil]
        omega
    exact h.mk_frame ⟨hbal.counts, hbal.hardware, hbal.noFault⟩ (holds_zero m) h.chassis rfl rfl

theorem agrees_unregisterChassisInts (h : Agrees (s, b)) {hwOk : ℕ → Bool}
    (hc : Careful s (.unregisterChassisInts hwOk)) : Agrees (bookStep (s, b) (.unregisterChassisInts hwOk)) := by
  obtain ⟨entries, hread, hpins⟩ := h.chassis.read
  dsimp only at hread hpins
  have hle : ∀ p, (pinsOf entries).count p ≤ (s.gpioPinList p).toNat := h.count_le fun p => by
    rw [hpins, Book.count, add_comm (b.sensors.count p), add_assoc]
    exact Nat.le_add_right _ _
  rcases unregLoop_cases (hc entries hread) hle with hloop | hloop
  · have hstep : unregisterChassisInts hwOk s = (-1, s) := by
      simp only [unregisterChassisInts, hread, hloop, if_true]
    have hbook : b.record (-1) (.unregisterChassisInts hwOk) = b := rfl
    rw [bookStep, Gpio.call, hstep]
    dsimp only
    rw [hbook]
    exact h
  · have hstep : unregisterChassisInts hwOk s =
        (0, { s.unregAll (pinsOf entries) with intrChassis := .null, totalChassisInterrupts := 0 }) := by
      simp only [unregisterChassisInts, hread, hloop, Bool.true_eq_false, if_false]
    have hbook : b.record 0 (.unregisterChassisInts hwOk) = { b with chassis := [] } := rfl
    rw [bookStep, Gpio.call, hstep]
    dsimp only
    rw [hbook]
    have hbal : Balanced (s.unregAll (pinsOf entries), { b with chassis := [] }) :=
      h.balanced.unregAll fun p => by
        simp only [Book.count, hpins, List.count_nil]
        omega
    exact h.mk_frame ⟨hbal.counts, hbal.hardware, hbal.noFault⟩ h.sensors (holds_zero .null) rfl rfl

end BmcGpio
