import Bmc.Lib.Loop

/-!
# Automatic recovery

`BMCAutoRecovery` of `002-fmh_core.patch`, which `030-AutoFirmwareRecovery.patch` makes count the boots after a time-out of the
watchdog only, and `Firmware_AutoRecovery` of `011-bmc_auto_recovery_feature.patch`, with `022-BMC_recovery_from_sd.patch`. What
they know of earlier boots are the variables of the environment.

* `firmwareAutoRecovery`, `bmcAutoRecovery`: one boot;
* `RecoveryKept`: what a boot should do; `Orderly`: the condition on the variables;
* **`recoveryKept_iff`**: every boot of a run does what it should exactly when the variables meet the condition at every boot.
-/

namespace BmcBoot

open BmcLib

/-! ## The environment -/

/-- The value of a variable. -/
inductive EnvValue
  | yes
  | mmc
  | tftp
  | number (n : UInt8)
  deriving DecidableEq, Repr

/-- `simple_strtoul` -/
def EnvValue.strtoul : EnvValue → UInt8
  | number n => n
  | _ => 0

/-- The variables of the recovery, which may be unset. -/
structure RecoveryEnv where
  forcerecovery : Option EnvValue
  imgheadererr : Option EnvValue
  bootretry : Option EnvValue
  currentbootretry : Option EnvValue
  recoveryretry : Option EnvValue
  recoveryinprog : Option EnvValue
  lastrecoveryboot : Option EnvValue
  recoverysuccess : Option EnvValue
  deriving DecidableEq, Repr

/-- What a boot meets: the time-out status of the watchdog, what `Enable_watchdog` reports, whether the image is copied from the
eMMC at the attempt with so many retries left, whether the copied image is flashed, and whether the image is loaded by TFTP and
flashed. -/
structure BootInputs where
  wdt2TimeoutStatus : UInt32
  wdtResetStatus : UInt32
  copies : ℕ → Bool
  flashed : Bool
  tftp : Bool

namespace RecoveryEnv

variable (env : RecoveryEnv)

/-- `force_recovery` -/
def forced : Bool := env.forcerecovery = some .yes

/-- `imgheadererr` -/
def headerError : Bool := env.imgheadererr = some .yes

/-- `bootretry` -/
def retryLimit (rebootRetryCount : UInt8) : UInt8 := (env.bootretry.map EnvValue.strtoul).getD rebootRetryCount

/-- `currentbootretry`, as it is stored. -/
def storedCount : UInt8 := (env.currentbootretry.map EnvValue.strtoul).getD 0

/-- `retries` -/
def retries : ℕ := (env.recoveryretry.map fun v => v.strtoul.toNat).getD 3

/-- `currentbootretry`, when this boot has been counted. -/
def count (i : BootInputs) : UInt8 := if i.wdt2TimeoutStatus ≠ 0 then env.storedCount + 1 else env.storedCount

end RecoveryEnv

/-! ## Firmware_AutoRecovery -/

/-- A recovery compares a variable that is unset, is left for another reset, fails, or succeeds. -/
inductive RecoveryEnd
  | crashed
  | exited
  | failed
  | succeeded
  deriving DecidableEq, Repr

/-- Where an image comes from. -/
inductive RecoverySource
  | emmc
  | tftp
  deriving DecidableEq, Repr

/-- The environment after a recovery, the sources that it has tried, and how it ends. -/
structure RecoveryResult where
  env : RecoveryEnv
  tried : List RecoverySource
  how : RecoveryEnd
  deriving DecidableEq, Repr

/-- The loop over `CopyRecoveryImage`. -/
def copyRecoveryImage (copies : ℕ → Bool) : ℕ → Bool
  | 0 => false
  | retries + 1 => copies (retries + 1) || copyRecoveryImage copies retries

/-- `success:` -/
def recoverySuccess (force recovers : Bool) (env : RecoveryEnv) (tried : List RecoverySource) : RecoveryResult where
  env :=
    if recovers then
      if force then
        { env with forcerecovery := none, recoverysuccess := some (.number 3), currentbootretry := none }
      else { env with recoverysuccess := some (.number 1), currentbootretry := none }
    else env
  tried := tried
  how := .succeeded

/-- `TFTP:` -/
def tftpRecovery (i : BootInputs) (force recovers : Bool) (env : RecoveryEnv) (tried : List RecoverySource) :
    RecoveryResult :=
  if i.tftp then recoverySuccess force recovers { env with lastrecoveryboot := some .tftp } (tried ++ [.tftp])
  else ⟨env, tried ++ [.tftp], .failed⟩

/-- The image of the eMMC, and TFTP after it. -/
def emmcRecovery (i : BootInputs) (force recovers : Bool) (env : RecoveryEnv) : RecoveryResult :=
  let tried := if env.retries = 0 then [] else [RecoverySource.emmc]
  if copyRecoveryImage i.copies env.retries ∧ i.flashed then
    recoverySuccess force recovers { env with lastrecoveryboot := some .mmc } tried
  else tftpRecovery i force recovers env tried

/-- `Firmware_AutoRecovery` -/
def firmwareAutoRecovery (i : BootInputs) (force imgheadererr : Bool) (env : RecoveryEnv) : RecoveryResult :=
  match env.recoveryinprog with
  | none => ⟨env, [], .crashed⟩
  | some inprog =>
    let wdtResetStatus := if !force && !imgheadererr then i.wdtResetStatus else 0
    let env := if inprog = .yes then env else { env with recoveryinprog := some .yes }
    if inprog ≠ .yes ∧ wdtResetStatus ≠ 0 ∧ force = false then ⟨env, [], .exited⟩
    else if wdtResetStatus ≠ 0 ∨ force ∨ imgheadererr then
      let env := if imgheadererr then { env with imgheadererr := none } else env
      match env.lastrecoveryboot with
      | none => ⟨env, [], .crashed⟩
      | some last =>
        if force = false ∧ last = .tftp then ⟨env, [], .failed⟩
        else if last = .mmc then tftpRecovery i force true env []
        else emmcRecovery i force true env
    else recoverySuccess force false env []

/-! ## BMCAutoRecovery -/

/-- The environment after a boot, the count that it has printed, and the recovery, if there has been one. -/
structure BootResult where
  env : RecoveryEnv
  printed : Option UInt8
  recovery : Option RecoveryResult
  deriving DecidableEq, Repr

/-- What is cleared when both sources have failed. -/
def recoveryGivenUp (force : Bool) (env : RecoveryEnv) : RecoveryEnv :=
  { env with
    forcerecovery := if force then none else env.forcerecovery
    lastrecoveryboot := none
    recoveryinprog := none }

/-- `BMCAutoRecovery` -/
def bmcAutoRecovery (rebootRetryCount : UInt8) (env : RecoveryEnv) (i : BootInputs) : BootResult :=
  let limit := env.retryLimit rebootRetryCount
  let count := env.count i
  let printed := if i.wdt2TimeoutStatus ≠ 0 then some count else none
  let saved := if i.wdt2TimeoutStatus ≠ 0 then { env with currentbootretry := some (.number count) } else env
  if env.forced ∨ env.headerError ∨ limit < count then
    let force := env.forced || limit < count
    let r := firmwareAutoRecovery i force env.headerError saved
    ⟨if r.how = .failed then recoveryGivenUp force r.env else r.env, printed, some r⟩
  else ⟨saved, printed, none⟩

/-! ## What a boot should do -/

/-- The watchdog boots since the last successful recovery, this boot included. -/
def watchdogBoots (n : ℕ) (i : BootInputs) : ℕ := if i.wdt2TimeoutStatus ≠ 0 then n + 1 else n

/-- The number after the boot. -/
def BootResult.boots (r : BootResult) (n : ℕ) (i : BootInputs) : ℕ :=
  if r.recovery.map RecoveryResult.how = some .succeeded then 0 else watchdogBoots n i

/-- A boot, with the number of watchdog boots since the last successful recovery. -/
def bootStep (rebootRetryCount : UInt8) (s : RecoveryEnv × ℕ) (i : BootInputs) : RecoveryEnv × ℕ :=
  let r := bmcAutoRecovery rebootRetryCount s.1 i
  (r.env, r.boots s.2 i)

/-- The retry limit, and nothing else, causes a recovery. -/
def RetryLimited (rebootRetryCount : UInt8) (s : RecoveryEnv × ℕ) (i : BootInputs) : Prop :=
  s.1.forced = false ∧ s.1.headerError = false ∧ (s.1.retryLimit rebootRetryCount).toNat < watchdogBoots s.2 i

/-- The eMMC has a good image. -/
def emmcRecovers (env : RecoveryEnv) (i : BootInputs) : Bool := copyRecoveryImage i.copies env.retries && i.flashed

/-- A recovery tries the eMMC and then TFTP. What has been tried before without success is not tried again, and the recovery is
given up after both. -/
def TriesBoth (env : RecoveryEnv) (i : BootInputs) (r : RecoveryResult) : Prop :=
  if env.lastrecoveryboot = some .tftp then r.tried = [] ∧ r.how = .failed
  else if env.lastrecoveryboot = some .mmc then r.tried = [.tftp] ∧ r.how = if i.tftp then .succeeded else .failed
  else if emmcRecovers env i then r.tried = [.emmc] ∧ r.how = .succeeded
  else r.tried = [.emmc, .tftp] ∧ r.how = if i.tftp then .succeeded else .failed

/-- What a boot should do: no variable that is unset is compared; the count that is printed fits into two bytes, and it is the
number of watchdog boots, as the one that is stored is afterwards; the boot that exceeds the limit recovers, from the eMMC and
then by TFTP; and a recovery that succeeds clears the count and the flag. -/
structure RecoveryKept (rebootRetryCount : UInt8) (s : RecoveryEnv × ℕ) (i : BootInputs) : Prop where
  strings : ∀ r, (bmcAutoRecovery rebootRetryCount s.1 i).recovery = some r → r.how ≠ .crashed
  fits : ∀ n, (bmcAutoRecovery rebootRetryCount s.1 i).printed = some n → (Nat.toDigits 10 n.toNat).length + 1 ≤ 2
  counted : ∀ n, (bmcAutoRecovery rebootRetryCount s.1 i).printed = some n → n.toNat = watchdogBoots s.2 i
  stored : (bmcAutoRecovery rebootRetryCount s.1 i).env.storedCount.toNat =
    (bmcAutoRecovery rebootRetryCount s.1 i).boots s.2 i
  entered : (s.1.retryLimit rebootRetryCount).toNat < watchdogBoots s.2 i →
    (bmcAutoRecovery rebootRetryCount s.1 i).recovery ≠ none
  tries : RetryLimited rebootRetryCount s i →
    ∀ r, (bmcAutoRecovery rebootRetryCount s.1 i).recovery = some r → TriesBoth s.1 i r
  cleared : ∀ r, (bmcAutoRecovery rebootRetryCount s.1 i).recovery = some r → r.how = .succeeded →
    (bmcAutoRecovery rebootRetryCount s.1 i).env.currentbootretry = none ∧
      (bmcAutoRecovery rebootRetryCount s.1 i).env.forced = false

/-- What the variables have to be: the count has one digit, also after a watchdog boot; a recovery finds `recoveryinprog` and
`lastrecoveryboot` set, and one that the retry limit causes is to start anew with the eMMC, at least once, or with TFTP. -/
structure Orderly (rebootRetryCount : UInt8) (s : RecoveryEnv × ℕ) (i : BootInputs) : Prop where
  digit : i.wdt2TimeoutStatus ≠ 0 → s.1.storedCount < 9
  ready : s.1.forced ∨ s.1.headerError ∨ s.1.retryLimit rebootRetryCount < s.1.count i →
    s.1.recoveryinprog ≠ none ∧ s.1.lastrecoveryboot ≠ none
  sources : s.1.forced = false → s.1.headerError = false → s.1.retryLimit rebootRetryCount < s.1.count i →
    s.1.lastrecoveryboot ≠ some .tftp ∧ (s.1.lastrecoveryboot = some .mmc ∨ s.1.retries ≠ 0)

/-! ## The recovery -/

section Recovery

variable {c : UInt8} {s : RecoveryEnv × ℕ} {i : BootInputs} {env : RecoveryEnv} {force err : Bool}
  {tried : List RecoverySource}

/-- The environment in which a recovery looks for the last source. -/
def recoveryStarted (err : Bool) (env : RecoveryEnv) : RecoveryEnv :=
  { env with recoveryinprog := some .yes, imgheadererr := if err then none else env.imgheadererr }

/-- A recovery that is forced, or that a bad header causes. -/
theorem firmwareAutoRecovery_eq (h : force = true ∨ err = true) :
    firmwareAutoRecovery i force err env =
      match env.recoveryinprog, env.lastrecoveryboot with
      | none, _ => ⟨env, [], .crashed⟩
      | some _, none => ⟨recoveryStarted err env, [], .crashed⟩
      | some _, some last =>
        if force = false ∧ last = .tftp then ⟨recoveryStarted err env, [], .failed⟩
        else if last = .mmc then tftpRecovery i force true (recoveryStarted err env) []
        else emmcRecovery i force true (recoveryStarted err env) := by
  have hwdt : (!force && !err) = false := by rcases h with h | h <;> simp [h]
  have hgoes : force = true ∨ err = true ↔ True := iff_of_true h trivial
  rw [firmwareAutoRecovery, hwdt]
  cases hinprog : env.recoveryinprog with
  | none => rfl
  | some inprog =>
    have hstarted : (if err then { (if inprog = .yes then env else { env with recoveryinprog := some .yes }) with
        imgheadererr := none } else if inprog = .yes then env else { env with recoveryinprog := some .yes }) =
        recoveryStarted err env := by
      cases env
      cases hinprog
      rw [recoveryStarted]
      split_ifs with herr hyes <;> simp_all
    have hlast : (recoveryStarted err env).lastrecoveryboot = env.lastrecoveryboot := rfl
    simp only [ne_eq, Bool.false_eq_true, if_false, not_true_eq_false, false_and, and_false, hgoes, or_true, if_true,
      hstarted, hlast]
    cases env.lastrecoveryboot <;> rfl

/-- How a recovery leaves the count and the flag. -/
structure Leaves (env : RecoveryEnv) (force : Bool) (r : RecoveryResult) : Prop where
  left : r.how ≠ .succeeded → r.env.currentbootretry = env.currentbootretry
  done : r.how = .succeeded → r.env.currentbootretry = none ∧ r.env.forced = (env.forced && !force)

theorem leaves_recoverySuccess : Leaves env force (recoverySuccess force true env tried) := by
  refine ⟨fun h => absurd rfl h, fun _ => ?_⟩
  cases force <;> simp [recoverySuccess, RecoveryEnv.forced]

theorem leaves_tftpRecovery : Leaves env force (tftpRecovery i force true env tried) := by
  rw [tftpRecovery]
  split_ifs
  · exact ⟨leaves_recoverySuccess.left, leaves_recoverySuccess.done⟩
  · exact ⟨fun _ => rfl, fun h => by cases h⟩

theorem leaves_emmcRecovery : Leaves env force (emmcRecovery i force true env) := by
  unfold emmcRecovery
  dsimp only
  split_ifs
  all_goals first
    | exact ⟨leaves_recoverySuccess.left, leaves_recoverySuccess.done⟩
    | exact leaves_tftpRecovery

theorem leaves_firmwareAutoRecovery (h : force = true ∨ err = true) :
    Leaves env force (firmwareAutoRecovery i force err env) := by
  rw [firmwareAutoRecovery_eq h]
  split
  · exact ⟨fun _ => rfl, fun h => by cases h⟩
  · exact ⟨fun _ => rfl, fun h => by cases h⟩
  · split_ifs
    · exact ⟨fun _ => rfl, fun h => by cases h⟩
    · exact ⟨leaves_tftpRecovery.left, leaves_tftpRecovery.done⟩
    · exact ⟨leaves_emmcRecovery.left, leaves_emmcRecovery.done⟩

theorem tftpRecovery_how : (tftpRecovery i force true env tried).how = if i.tftp then .succeeded else .failed := by
  rw [tftpRecovery]
  split_ifs <;> rfl

theorem emmcRecovers_iff :
    emmcRecovers env i = true ↔ copyRecoveryImage i.copies env.retries = true ∧ i.flashed = true := Bool.and_eq_true_iff

theorem emmcRecovery_how : (emmcRecovery i force true env).how =
    if emmcRecovers env i ∨ i.tftp then .succeeded else .failed := by
  unfold emmcRecovery
  dsimp only
  by_cases hemmc : copyRecoveryImage i.copies env.retries = true ∧ i.flashed = true
  · simp [emmcRecovers_iff, hemmc, recoverySuccess]
  · simp only [emmcRecovers_iff, hemmc, false_or, if_false, tftpRecovery_how]

/-- A variable is compared that is unset, exactly when one of the two is. -/
theorem crashed_iff (h : force = true ∨ err = true) : (firmwareAutoRecovery i force err env).how = .crashed ↔
    ¬ (env.recoveryinprog ≠ none ∧ env.lastrecoveryboot ≠ none) := by
  rw [firmwareAutoRecovery_eq h]
  cases env.recoveryinprog with
  | none => simp
  | some inprog =>
    cases env.lastrecoveryboot with
    | none => simp
    | some last =>
      dsimp only
      split_ifs
      · simp
      · rw [tftpRecovery_how]
        split_ifs <;> simp
      · rw [emmcRecovery_how]
        split_ifs <;> simp

theorem tftpRecovery_tried : (tftpRecovery i force true env tried).tried = tried ++ [.tftp] := by
  rw [tftpRecovery]
  split_ifs <;> rfl

theorem copyRecoveryImage_zero {copies : ℕ → Bool} {n : ℕ} (h : copyRecoveryImage copies n = true) : n ≠ 0 := by
  rintro rfl
  cases h

theorem emmcRecovery_tried : (emmcRecovery i force true env).tried =
    (if env.retries = 0 then [] else [.emmc]) ++ if emmcRecovers env i then [] else [.tftp] := by
  unfold emmcRecovery
  dsimp only
  by_cases hemmc : copyRecoveryImage i.copies env.retries = true ∧ i.flashed = true
  · simp [emmcRecovers_iff, hemmc, recoverySuccess]
  · simp only [emmcRecovers_iff, hemmc, if_false, tftpRecovery_tried]

/-- A forced recovery tries both sources, exactly when it is to start anew with the eMMC, or with TFTP. -/
theorem triesBoth_iff (hinprog : env.recoveryinprog ≠ none) (hlast : env.lastrecoveryboot ≠ none) :
    TriesBoth env i (firmwareAutoRecovery i true err env) ↔
      env.lastrecoveryboot ≠ some .tftp ∧ (env.lastrecoveryboot = some .mmc ∨ env.retries ≠ 0) := by
  obtain ⟨inprog, hinprog⟩ := Option.ne_none_iff_exists'.1 hinprog
  obtain ⟨last, hlast⟩ := Option.ne_none_iff_exists'.1 hlast
  have hretries : (recoveryStarted err env).retries = env.retries := rfl
  have hemmc : emmcRecovers (recoveryStarted err env) i = emmcRecovers env i := rfl
  rw [firmwareAutoRecovery_eq (.inl rfl), hinprog, hlast, TriesBoth, hlast]
  simp only [Bool.true_eq_false, false_and, if_false, Option.some.injEq]
  by_cases htftp : last = .tftp
  · subst htftp
    simp only [if_true, reduceCtorEq, if_false, emmcRecovery_tried, hretries, hemmc, ne_eq, not_true_eq_false,
      false_and, iff_false, not_and]
    intro htried
    split_ifs at htried with hzero hrecovers
    · exact absurd hzero (copyRecoveryImage_zero (emmcRecovers_iff.1 hrecovers).1)
    all_goals simp at htried
  · by_cases hmmc : last = .mmc
    · subst hmmc
      simp [tftpRecovery_tried, tftpRecovery_how]
    · simp only [htftp, hmmc, if_false, emmcRecovery_tried, emmcRecovery_how, hretries, hemmc]
      by_cases hrecovers : emmcRecovers env i = true
      · have hne := copyRecoveryImage_zero (emmcRecovers_iff.1 hrecovers).1
        simp [hrecovers, hne, htftp]
      · by_cases hzero : env.retries = 0
        · simp [hrecovers, hzero]
        · simp [hrecovers, hzero, htftp]

end Recovery

/-! ## A boot -/

section Boot

variable {c : UInt8} {s : RecoveryEnv × ℕ} {i : BootInputs} {env : RecoveryEnv}

/-- The boot recovers. -/
def Recovers (c : UInt8) (env : RecoveryEnv) (i : BootInputs) : Prop :=
  env.forced ∨ env.headerError ∨ env.retryLimit c < env.count i

instance : Decidable (Recovers c env i) := inferInstanceAs (Decidable (_ ∨ _ ∨ _))

/-- `force_recovery`, as it is handed on. -/
def handedForce (c : UInt8) (env : RecoveryEnv) (i : BootInputs) : Bool := env.forced || env.retryLimit c < env.count i

/-- The environment with the count of this boot. -/
def countSaved (env : RecoveryEnv) (i : BootInputs) : RecoveryEnv :=
  if i.wdt2TimeoutStatus ≠ 0 then { env with currentbootretry := some (.number (env.count i)) } else env

/-- The recovery of the boot. -/
def bootRecovery (c : UInt8) (env : RecoveryEnv) (i : BootInputs) : RecoveryResult :=
  firmwareAutoRecovery i (handedForce c env i) env.headerError (countSaved env i)

theorem bmcAutoRecovery_of_recovers (h : Recovers c env i) : bmcAutoRecovery c env i =
    ⟨if (bootRecovery c env i).how = .failed then recoveryGivenUp (handedForce c env i) (bootRecovery c env i).env
      else (bootRecovery c env i).env,
      if i.wdt2TimeoutStatus ≠ 0 then some (env.count i) else none, some (bootRecovery c env i)⟩ := if_pos h

theorem bmcAutoRecovery_of_not (h : ¬ Recovers c env i) : bmcAutoRecovery c env i =
    ⟨countSaved env i, if i.wdt2TimeoutStatus ≠ 0 then some (env.count i) else none, none⟩ := if_neg h

theorem printed_eq : (bmcAutoRecovery c env i).printed = if i.wdt2TimeoutStatus ≠ 0 then some (env.count i) else none := by
  by_cases h : Recovers c env i
  · rw [bmcAutoRecovery_of_recovers h]
  · rw [bmcAutoRecovery_of_not h]

theorem handed_of_recovers (h : Recovers c env i) : handedForce c env i = true ∨ env.headerError = true := by
  rw [handedForce, Bool.or_eq_true, decide_eq_true_iff]
  rcases h with h | h | h
  · exact .inl (.inl h)
  · exact .inr h
  · exact .inl (.inr h)

theorem countSaved_same : (countSaved env i).recoveryinprog = env.recoveryinprog ∧
    (countSaved env i).lastrecoveryboot = env.lastrecoveryboot ∧ (countSaved env i).recoveryretry = env.recoveryretry ∧
    (countSaved env i).forcerecovery = env.forcerecovery := by
  rw [countSaved]
  split_ifs <;> exact ⟨rfl, rfl, rfl, rfl⟩

theorem storedCount_countSaved : (countSaved env i).storedCount = env.count i := by
  rw [countSaved, RecoveryEnv.count]
  split_ifs <;> rfl

/-- One digit and the end of the text fit. -/
theorem fits_iff (n : UInt8) : (Nat.toDigits 10 n.toNat).length + 1 ≤ 2 ↔ n < 10 := by
  have hall : ∀ k < 256, (Nat.toDigits 10 k).length + 1 ≤ 2 ↔ k < 10 := by decide +kernel
  rw [hall _ n.toNat_lt, UInt8.lt_iff_toNat_lt]
  exact Iff.rfl

/-- The count after a boot of one digit. -/
theorem count_toNat (hdigit : i.wdt2TimeoutStatus ≠ 0 → env.storedCount < 9) :
    (env.count i).toNat = watchdogBoots env.storedCount.toNat i := by
  rw [RecoveryEnv.count, watchdogBoots]
  split_ifs with hw
  · have hlt := UInt8.lt_iff_toNat_lt.1 (hdigit hw)
    rw [UInt8.toNat_add]
    exact Nat.mod_eq_of_lt (by change _ + 1 < 256; change _ < 9 at hlt; omega)
  · rfl

/-- The count that is stored after a boot: none when its recovery succeeds, else that of the boot. -/
theorem storedCount_bmcAutoRecovery : (bmcAutoRecovery c env i).env.storedCount =
    if (bmcAutoRecovery c env i).recovery.map RecoveryResult.how = some .succeeded then 0 else env.count i := by
  by_cases h : Recovers c env i
  · have hleaves : Leaves (countSaved env i) _ (bootRecovery c env i) :=
      leaves_firmwareAutoRecovery (handed_of_recovers h)
    rw [bmcAutoRecovery_of_recovers h]
    simp only [Option.map_some, Option.some.injEq]
    by_cases hdone : (bootRecovery c env i).how = .succeeded
    · rw [if_pos hdone, hdone]
      simp [RecoveryEnv.storedCount, (hleaves.done hdone).1]
    · have hsame : (bootRecovery c env i).env.storedCount = env.count i := by
        rw [RecoveryEnv.storedCount, hleaves.left hdone, ← storedCount_countSaved]
        rfl
      rw [if_neg hdone]
      split_ifs
      · exact hsame
      · exact hsame
  · rw [bmcAutoRecovery_of_not h]
    exact storedCount_countSaved

/-- The flag after a recovery that succeeds. -/
theorem cleared_of_succeeded (hrecovers : Recovers c env i) (hdone : (bootRecovery c env i).how = .succeeded) :
    (bmcAutoRecovery c env i).env.currentbootretry = none ∧ (bmcAutoRecovery c env i).env.forced = false := by
  have hleaves : Leaves (countSaved env i) _ (bootRecovery c env i) :=
    leaves_firmwareAutoRecovery (handed_of_recovers hrecovers)
  obtain ⟨hcount, hflag⟩ := hleaves.done hdone
  rw [bmcAutoRecovery_of_recovers hrecovers, hdone]
  refine ⟨hcount, hflag.trans ?_⟩
  rw [RecoveryEnv.forced, countSaved_same.2.2.2, handedForce, RecoveryEnv.forced]
  cases decide (env.forcerecovery = some .yes) <;> rfl

/-- A recovery that the retry limit causes. -/
theorem triesBoth_bootRecovery (hlimit : env.retryLimit c < env.count i)
    (hready : env.recoveryinprog ≠ none ∧ env.lastrecoveryboot ≠ none) :
    TriesBoth env i (bootRecovery c env i) ↔
      env.lastrecoveryboot ≠ some .tftp ∧ (env.lastrecoveryboot = some .mmc ∨ env.retries ≠ 0) := by
  have hforce : handedForce c env i = true := by simp [handedForce, hlimit]
  have hsame : ∀ r, TriesBoth (countSaved env i) i r ↔ TriesBoth env i r := by
    intro r
    rw [countSaved]
    split_ifs <;> exact Iff.rfl
  have hretries : (countSaved env i).retries = env.retries := by
    rw [RecoveryEnv.retries, countSaved_same.2.2.1, RecoveryEnv.retries]
  rw [bootRecovery, hforce, ← hsame, triesBoth_iff (by rw [countSaved_same.1]; exact hready.1)
    (by rw [countSaved_same.2.1]; exact hready.2), countSaved_same.2.1, hretries]

theorem limit_lt_iff (hdigit : i.wdt2TimeoutStatus ≠ 0 → env.storedCount < 9) :
    (env.retryLimit c).toNat < watchdogBoots env.storedCount.toNat i ↔ env.retryLimit c < env.count i := by
  rw [← count_toNat hdigit, UInt8.lt_iff_toNat_lt]

/-- **What a boot should do, it does exactly when the variables are in order.** -/
theorem recoveryKept_iff_orderly (hs : s.2 = s.1.storedCount.toNat) : RecoveryKept c s i ↔ Orderly c s i := by
  obtain ⟨env, n⟩ := s
  obtain rfl : n = env.storedCount.toNat := hs
  constructor
  · intro h
    have hdigit : i.wdt2TimeoutStatus ≠ 0 → env.storedCount < 9 := by
      intro hw
      have hprinted : (bmcAutoRecovery c env i).printed = some (env.count i) := by rw [printed_eq, if_pos hw]
      have hfits := UInt8.lt_iff_toNat_lt.1 ((fits_iff _).1 (h.fits _ hprinted))
      have hcounted := h.counted _ hprinted
      rw [hcounted, watchdogBoots, if_pos hw] at hfits
      exact UInt8.lt_iff_toNat_lt.2 (Nat.lt_of_succ_lt_succ hfits)
    have hready : Recovers c env i → env.recoveryinprog ≠ none ∧ env.lastrecoveryboot ≠ none := by
      intro hrecovers
      have hcrash := h.strings (bootRecovery c env i) (by rw [bmcAutoRecovery_of_recovers hrecovers])
      rw [bootRecovery, Ne, crashed_iff (handed_of_recovers hrecovers), not_not, countSaved_same.1,
        countSaved_same.2.1] at hcrash
      exact hcrash
    refine ⟨hdigit, hready, fun hforced hheader hlimit => ?_⟩
    have hrecovers : Recovers c env i := .inr (.inr hlimit)
    exact (triesBoth_bootRecovery hlimit (hready hrecovers)).1 (h.tries
      ⟨hforced, hheader, (limit_lt_iff hdigit).2 hlimit⟩ _ (by rw [bmcAutoRecovery_of_recovers hrecovers]))
  · intro h
    have hrecovery : ∀ {r}, (bmcAutoRecovery c env i).recovery = some r → Recovers c env i ∧ r = bootRecovery c env i := by
      intro r hr
      by_cases hrecovers : Recovers c env i
      · rw [bmcAutoRecovery_of_recovers hrecovers] at hr
        exact ⟨hrecovers, (Option.some.inj hr).symm⟩
      · rw [bmcAutoRecovery_of_not hrecovers] at hr
        cases hr
    have hprinted : ∀ {n}, (bmcAutoRecovery c env i).printed = some n → i.wdt2TimeoutStatus ≠ 0 ∧ n = env.count i := by
      intro n hn
      rw [printed_eq] at hn
      split_ifs at hn with hw
      exact ⟨hw, (Option.some.inj hn).symm⟩
    constructor
    · rintro r hr hcrash
      obtain ⟨hrecovers, rfl⟩ := hrecovery hr
      rw [bootRecovery, crashed_iff (handed_of_recovers hrecovers), countSaved_same.1, countSaved_same.2.1] at hcrash
      exact hcrash (h.ready hrecovers)
    · intro n hn
      obtain ⟨hw, rfl⟩ := hprinted hn
      have hlt := UInt8.lt_iff_toNat_lt.1 (h.digit hw)
      rw [fits_iff, UInt8.lt_iff_toNat_lt, count_toNat h.digit, watchdogBoots, if_pos hw]
      exact Nat.succ_lt_succ hlt
    · intro n hn
      obtain ⟨hw, rfl⟩ := hprinted hn
      exact count_toNat h.digit
    · rw [storedCount_bmcAutoRecovery, BootResult.boots]
      split_ifs
      · rfl
      · exact count_toNat h.digit
    · intro hlimit
      have hrecovers : Recovers c env i := .inr (.inr ((limit_lt_iff h.digit).1 hlimit))
      rw [bmcAutoRecovery_of_recovers hrecovers]
      exact Option.some_ne_none _
    · rintro ⟨hforced, hheader, hlimit⟩ r hr
      obtain ⟨hrecovers, rfl⟩ := hrecovery hr
      have hlimit := (limit_lt_iff h.digit).1 hlimit
      exact (triesBoth_bootRecovery hlimit (h.ready hrecovers)).2 (h.sources hforced hheader hlimit)
    · rintro r hr hdone
      obtain ⟨hrecovers, rfl⟩ := hrecovery hr
      exact cleared_of_succeeded hrecovers hdone

/-- **A run recovers as it should exactly when the variables are in order at every boot.** At first the watchdog boots are those
that are stored. -/
theorem recoveryKept_iff (rebootRetryCount : UInt8) (env : RecoveryEnv) (boots : List BootInputs) :
    AllSteps (bootStep rebootRetryCount) (RecoveryKept rebootRetryCount) (env, env.storedCount.toNat) boots ↔
      AllSteps (bootStep rebootRetryCount) (Orderly rebootRetryCount) (env, env.storedCount.toNat) boots := by
  apply allSteps_congr (I := fun s : RecoveryEnv × ℕ => s.2 = s.1.storedCount.toNat)
  · exact fun s i hs => recoveryKept_iff_orderly hs
  · exact fun s i hs horderly => ((recoveryKept_iff_orderly hs).2 horderly).stored.symm
  · rfl

end Boot

/-! ## The first recovery -/

/-- A board that has never recovered, whose limit is no retry. -/
def freshEnv : RecoveryEnv := ⟨none, none, some (.number 0), none, none, none, none, none⟩

/-- **The first recovery compares a variable that is unset.** -/
theorem not_recoveryKept_fresh :
    ¬ AllSteps (bootStep 3) (RecoveryKept 3) (freshEnv, freshEnv.storedCount.toNat)
      [⟨1, 0, fun _ => true, true, true⟩] := by
  intro h
  exact h.1.strings _ rfl rfl

end BmcBoot
