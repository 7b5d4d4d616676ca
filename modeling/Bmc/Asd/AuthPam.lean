import Bmc.Lib.Recent
import Bmc.Asd.Session

/-!
# Authentication

`auth_pam.c`: the handshake with a client, the log of its invalid attempts, and the lockout.

* `authTrackAttempt`: the log; `LogOf`: it holds the last attempts, with **`logOf_track`**;
* `authpamClientHandshake`: the handshake, over a client, a PAM library and a clock that may do as they like;
* `TracksRight`: the lockout of an attempt; `NeverEarly`: nobody is let in before the lockout is over;
* **`authentication_iff`**: both hold in a run, exactly when each invalid attempt is late enough or has others before it.
-/

namespace BmcAsd

open BmcLib

/-! ## The log of invalid attempts -/

/-- `auth_ret_t` -/
inductive AuthRet
  | ok | sysErr | invalidData | unauthorized | lockout
  deriving DecidableEq

abbrev invalidAuthMaxAttempts : ℕ := 3
abbrev invalidAuthPeriodNsecs : ℕ := 60
abbrev invalidAuthLockoutNsecs : ℕ := 60

/-- `err_code == AUTHRET_UNAUTHORIZED || err_code == AUTHRET_INVALIDDATA` -/
def AuthRet.Invalid (r : AuthRet) : Prop := r = .unauthorized ∨ r = .invalidData

instance : DecidablePred AuthRet.Invalid := fun _ => inferInstanceAs (Decidable (_ ∨ _))

/-- `ats_attempts` -/
structure AuthLog where
  attempts : List ℕ
  length_eq : attempts.length = invalidAuthMaxAttempts

/-- The log before anything has happened, and after a success. -/
def AuthLog.clear : AuthLog := ⟨List.replicate invalidAuthMaxAttempts 0, List.length_replicate⟩

/-- `ats_attempts[i]` -/
def AuthLog.get (l : AuthLog) (i : ℕ) : ℕ := l.attempts.getD i 0

/-- The attempt is in the period that ends at `now`; the difference of two times may be negative. -/
def inPeriod (now attempt : ℕ) : Bool := (attempt : ℤ) > (now : ℤ) - invalidAuthPeriodNsecs

/-- The loop of `auth_track_attempt`: `n_oldest_index` and `n_invalid_in_period`. -/
def scanAttempts (l : AuthLog) (now : ℕ) : ℕ × ℕ :=
  (List.range invalidAuthMaxAttempts).foldl (fun s i =>
    (if l.get i < l.get s.1 then i else s.1, if inPeriod now (l.get i) then s.2 + 1 else s.2)) (0, 1)

/-- `auth_track_attempt` -/
def authTrackAttempt (l : AuthLog) (now : ℕ) (errCode : AuthRet) : AuthRet × AuthLog :=
  if errCode = .ok then (errCode, .clear)
  else if errCode.Invalid then
    let s := scanAttempts l now
    (if s.2 > invalidAuthMaxAttempts then .lockout else errCode,
      ⟨l.attempts.set s.1 now, by rw [List.length_set, l.length_eq]⟩)
  else (errCode, l)

/-- An attempt: how it came out, and when. -/
structure AuthAttempt where
  errCode : AuthRet
  time : ℕ

/-- The log after an attempt. -/
def AuthLog.after (l : AuthLog) (a : AuthAttempt) : AuthLog := (authTrackAttempt l a.time a.errCode).2

/-- The times of the invalid attempts since the last success, after some attempts. -/
def sinceSuccess (as : List AuthAttempt) : List ℕ :=
  as.foldl (fun ts a => if a.errCode = .ok then [] else if a.errCode.Invalid then ts ++ [a.time] else ts) []

/-- **The lockout is right** for the attempt `a` after the attempts `before`: it comes exactly when more than three invalid
attempts, this one included, are in the period. -/
def LocksOutRightly (before : List AuthAttempt) (a : AuthAttempt) : Prop :=
  a.errCode.Invalid →
    ((authTrackAttempt (before.foldl AuthLog.after .clear) a.time a.errCode).1 = .lockout ↔
      invalidAuthMaxAttempts < ((sinceSuccess before ++ [a.time]).filter (inPeriod a.time)).length)

/-- The lockout is right for all attempts. -/
def TracksRight (as : List AuthAttempt) : Prop := ∀ before a behind, as = before ++ a :: behind → LocksOutRightly before a

/-- An invalid attempt comes late enough after the beginning of time, or after three others since the last success. -/
def LateEnough (before : List AuthAttempt) (a : AuthAttempt) : Prop :=
  a.errCode.Invalid → invalidAuthPeriodNsecs ≤ a.time ∨ invalidAuthMaxAttempts ≤ (sinceSuccess before).length

/-! ## The loop -/

section Log

variable {l : AuthLog} {now : ℕ}

theorem get_eq_getElem {i : ℕ} (hi : i < l.attempts.length) : l.get i = l.attempts[i] := by
  rw [AuthLog.get, List.getD_eq_getElem?_getD, List.getElem?_eq_getElem hi, Option.getD_some]

/-- What holds after `n` rounds of the loop. -/
theorem scan_range (l : AuthLog) (now : ℕ) {n : ℕ} (hn : n ≤ l.attempts.length) :
    let s := (List.range n).foldl (fun s i =>
      (if l.get i < l.get s.1 then i else s.1, if inPeriod now (l.get i) then s.2 + 1 else s.2)) (0, 1)
    (s.1 < n ∨ s.1 = 0) ∧ (∀ i < n, l.get s.1 ≤ l.get i) ∧ s.2 = 1 + (l.attempts.take n).countP (inPeriod now) := by
  induction n with
  | zero => exact ⟨.inr rfl, fun i hi => absurd hi (Nat.not_lt_zero i), rfl⟩
  | succ n ih =>
    obtain ⟨hlt, hle, hcount⟩ := ih (Nat.le_of_succ_le hn)
    rw [List.range_succ, List.foldl_append, List.foldl_cons, List.foldl_nil]
    set s := (List.range n).foldl (fun s i =>
      (if l.get i < l.get s.1 then i else s.1, if inPeriod now (l.get i) then s.2 + 1 else s.2)) (0, 1)
    refine ⟨?_, fun i hi => ?_, ?_⟩
    · dsimp only
      split_ifs
      · exact .inl n.lt_succ_self
      · exact hlt.imp_left Nat.lt_succ_of_lt
    · dsimp only
      rcases Nat.lt_succ_iff_lt_or_eq.1 hi with hi | rfl
      · split_ifs with hless
        · exact hless.le.trans (hle i hi)
        · exact hle i hi
      · split_ifs with hless
        · exact le_refl _
        · exact not_lt.1 hless
    · dsimp only
      rw [List.take_succ_eq_append_getElem hn, List.countP_append, List.countP_singleton, ← get_eq_getElem hn, hcount]
      split_ifs <;> omega

/-- **The loop** finds an oldest attempt, and counts those in the period. -/
theorem scanAttempts_spec (l : AuthLog) (now : ℕ) :
    ∃ hi : (scanAttempts l now).1 < l.attempts.length,
      (∀ a ∈ l.attempts, l.attempts[(scanAttempts l now).1] ≤ a) ∧
        (scanAttempts l now).2 = 1 + l.attempts.countP (inPeriod now) := by
  obtain ⟨hlt, hle, hcount⟩ := scan_range l now l.length_eq.ge
  have hi : (scanAttempts l now).1 < l.attempts.length := by
    rw [l.length_eq]
    rcases hlt with hlt | hzero
    · exact hlt
    · exact hzero.trans_lt (by decide)
  refine ⟨hi, fun a ha => ?_, ?_⟩
  · obtain ⟨i, hia, rfl⟩ := List.mem_iff_getElem.1 ha
    rw [← get_eq_getElem hi, ← get_eq_getElem hia]
    exact hle i (hia.trans_eq l.length_eq)
  · have htake : l.attempts.take invalidAuthMaxAttempts = l.attempts := by rw [← l.length_eq, List.take_length]
    rw [htake] at hcount
    exact hcount

end Log

/-! ## What the log holds -/

/-- The log holds the last of the attempts at the times `ts`. -/
def LogOf (l : AuthLog) (ts : List ℕ) : Prop := l.attempts.Perm (recent invalidAuthMaxAttempts 0 ts)

theorem logOf_clear : LogOf .clear [] := by
  rw [LogOf, recent_nil]
  rfl

/-- **An invalid attempt** is put into the log, and the lockout depends on the last attempts. -/
theorem track_invalid {l : AuthLog} {ts : List ℕ} {a : AuthAttempt} (h : LogOf l ts) (hs : ts.Pairwise (· ≤ ·))
    (ha : a.errCode.Invalid) :
    LogOf (l.after a) (ts ++ [a.time]) ∧
      ((authTrackAttempt l a.time a.errCode).1 = .lockout ↔
        ∀ t ∈ recent invalidAuthMaxAttempts 0 ts, inPeriod a.time t = true) := by
  obtain ⟨hi, hmin, hcount⟩ := scanAttempts_spec l a.time
  have hok : a.errCode ≠ .ok := by
    rintro hok
    rw [hok] at ha
    rcases ha with ha | ha <;> cases ha
  have hcode : a.errCode ≠ .lockout := by
    rintro hcode
    rw [hcode] at ha
    rcases ha with ha | ha <;> cases ha
  rw [AuthLog.after, authTrackAttempt, if_neg hok, if_pos ha]
  refine ⟨set_perm_recent (by decide) (fun t _ => Nat.zero_le t) hs h hi hmin a.time, ?_⟩
  have hall : (∀ t ∈ recent invalidAuthMaxAttempts 0 ts, inPeriod a.time t = true) ↔
      l.attempts.countP (inPeriod a.time) = invalidAuthMaxAttempts := by
    rw [← l.length_eq, List.countP_eq_length, l.length_eq]
    exact forall_congr' fun t => imp_congr_left h.mem_iff.symm
  have hle : l.attempts.countP (inPeriod a.time) ≤ invalidAuthMaxAttempts := l.length_eq ▸ List.countP_le_length
  rw [hall]
  dsimp only
  rw [hcount]
  split_ifs with hmany
  · exact ⟨fun _ => by omega, fun _ => rfl⟩
  · exact ⟨fun heq => absurd heq hcode, fun heq => absurd heq (by omega)⟩

/-- An attempt that is neither a success nor invalid leaves the log alone. -/
theorem after_other {l : AuthLog} {a : AuthAttempt} (hok : a.errCode ≠ .ok) (ha : ¬ a.errCode.Invalid) : l.after a = l := by
  rw [AuthLog.after, authTrackAttempt, if_neg hok, if_neg ha]

theorem after_ok {l : AuthLog} {a : AuthAttempt} (hok : a.errCode = .ok) : l.after a = .clear := by
  rw [AuthLog.after, authTrackAttempt, if_pos hok]

theorem sinceSuccess_append (as : List AuthAttempt) (a : AuthAttempt) :
    sinceSuccess (as ++ [a]) =
      if a.errCode = .ok then [] else if a.errCode.Invalid then sinceSuccess as ++ [a.time] else sinceSuccess as := by
  rw [sinceSuccess, List.foldl_append, List.foldl_cons, List.foldl_nil]
  rfl

/-- The times since the last success are among the times of the attempts, in their order. -/
theorem sinceSuccess_sublist (as : List AuthAttempt) : (sinceSuccess as).Sublist (as.map AuthAttempt.time) := by
  induction as using List.reverseRecOn with
  | nil => exact List.Sublist.refl _
  | append_singleton as a ih =>
    rw [sinceSuccess_append, List.map_append, List.map_singleton]
    split_ifs with hok hinvalid
    · exact List.nil_sublist _
    · exact ih.append (List.Sublist.refl _)
    · exact ih.trans (List.sublist_append_left _ _)

/-- **The log of a run** holds the last invalid attempts since the last success. -/
theorem logOf_foldl {as : List AuthAttempt} (hs : (as.map AuthAttempt.time).Pairwise (· ≤ ·)) :
    LogOf (as.foldl AuthLog.after .clear) (sinceSuccess as) := by
  induction as using List.reverseRecOn with
  | nil => exact logOf_clear
  | append_singleton as a ih =>
    rw [List.map_append, List.pairwise_append] at hs
    rw [sinceSuccess_append, List.foldl_append, List.foldl_cons, List.foldl_nil]
    split_ifs with hok hinvalid
    · rw [after_ok hok]
      exact logOf_clear
    · exact (track_invalid (ih hs.1) (hs.1.sublist (sinceSuccess_sublist as)) hinvalid).1
    · rw [after_other hok hinvalid]
      exact ih hs.1

/-! ## The lockout -/

theorem inPeriod_self (now : ℕ) : inPeriod now now = true := by
  rw [inPeriod, decide_eq_true_iff]
  exact sub_lt_self _ (by decide)

theorem inPeriod_mono {now a b : ℕ} (hab : a ≤ b) (ha : inPeriod now a = true) : inPeriod now b = true := by
  rw [inPeriod, decide_eq_true_iff] at ha ⊢
  omega

theorem inPeriod_zero (now : ℕ) : inPeriod now 0 = true ↔ now < invalidAuthPeriodNsecs := by
  rw [inPeriod, decide_eq_true_iff, gt_iff_lt, sub_lt_iff_lt_add, Nat.cast_zero, zero_add, Nat.cast_lt]

/-- **One attempt.** Its lockout is right exactly when it comes late enough. -/
theorem locksOutRightly_iff {before : List AuthAttempt} {a : AuthAttempt}
    (hs : ((before ++ [a]).map AuthAttempt.time).Pairwise (· ≤ ·)) : LocksOutRightly before a ↔ LateEnough before a := by
  rw [List.map_append, List.pairwise_append] at hs
  have hsorted := hs.1.sublist (sinceSuccess_sublist before)
  refine forall_congr' fun ha => ?_
  rw [(track_invalid (logOf_foldl hs.1) hsorted ha).2,
    all_recent_iff (fun t _ => Nat.zero_le t) hsorted fun _ _ => inPeriod_mono, List.countP_append, List.countP_replicate,
    ← List.countP_eq_length_filter, List.countP_append, List.countP_singleton, inPeriod_self, if_pos rfl]
  set n := (sinceSuccess before).countP (inPeriod a.time) with hn
  by_cases hzero : inPeriod a.time 0 = true
  · -- the empty places of the log count as attempts, and all attempts are in the period
    rw [if_pos hzero]
    rw [inPeriod_zero] at hzero
    have hall : n = (sinceSuccess before).length :=
      List.countP_eq_length.2 fun t _ => inPeriod_mono (Nat.zero_le t) ((inPeriod_zero a.time).2 hzero)
    omega
  · rw [if_neg hzero]
    rw [inPeriod_zero] at hzero
    omega

/-- **The lockout of a run** is right exactly when all its attempts come late enough. -/
theorem tracksRight_iff {as : List AuthAttempt} (hs : (as.map AuthAttempt.time).Pairwise (· ≤ ·)) :
    TracksRight as ↔ ∀ before a behind, as = before ++ a :: behind → LateEnough before a := by
  refine forall_congr' fun before => forall_congr' fun a => forall_congr' fun behind => forall_congr' fun heq => ?_
  refine locksOutRightly_iff ?_
  rw [heq, List.append_cons, List.map_append] at hs
  exact (List.pairwise_append.1 hs).1

/-! ## The handshake -/

abbrev authHdrVersion : UInt8 := 0x30
abbrev maxPwLen : ℕ := 128

/-- `AUTH_HANDSHAKE_SUCCESS` and its siblings. -/
abbrev authHandshakeSuccess : UInt8 := 0x30
abbrev authHandshakeSyserr : UInt8 := 0x24
abbrev authHandshakeBusy : UInt8 := 0x2b
abbrev authHandshakeFailure : UInt8 := 0x3f

/-- What the PAM library does in one use: `pam_start`, and `pam_authenticate` with the password it is given. -/
structure Pam where
  start : Bool
  authenticate : List UInt8 → Bool

/-- `credentials_are_valid` -/
def credentialsAreValid (pam : Pam) (password : List UInt8) : AuthRet :=
  if pam.start then (if pam.authenticate password then .ok else .unauthorized) else .sysErr

/-- The first newline of the bytes that were read becomes the end of the text. -/
def stripNewline (buf : List UInt8) (nNumRead : ℕ) : List UInt8 :=
  let i := (buf.take nNumRead).idxOf 10
  if i < (buf.take nNumRead).length then buf.set i 0 else buf

/-- `strnlen_s` and `strcpy_s` of `pam_conversation_function`: the text in a buffer. -/
def passwordText (buf : List UInt8) : List UInt8 := (buf.takeWhile (· ≠ 0)).take maxPwLen

/-- The check of `authenticate_client`: the first byte of the request is its version, the others are the password. -/
def checkClient (pam : Pam) (buf : List UInt8) (nNumRead : ℕ) : AuthRet :=
  if maxPwLen + 1 < nNumRead ∨ authHdrVersion < buf.headD 0 then .invalidData
  else credentialsAreValid pam (passwordText ((stripNewline buf nNumRead).drop 1))

/-- `authenticate_client` -/
def authenticateClient (l : AuthLog) (now : ℕ) (pam : Pam) (buf : List UInt8) (nNumRead : ℕ) : AuthRet × AuthLog :=
  authTrackAttempt l now (checkClient pam buf nNumRead)

/-- `RANDOM_ASCII_CHARACTERS` -/
def randomAsciiCharacters : List Char := "abcdefghijklmnopqrstuvwxyzABCDEFGHIJKLMNOPQRSTUVWXYZ0123456789,.-!#$%()+=*".toList

/-- `get_random_string`; `rand` is what `RAND_bytes` fills in, `none` when it fails. -/
def getRandomString (rand : Option (Fin maxPwLen → UInt8)) : Option (List UInt8) :=
  rand.map fun bytes => (List.ofFn fun i =>
    (randomAsciiCharacters.getD ((bytes i).toNat % randomAsciiCharacters.length) 'a').toNat.toUInt8).set (maxPwLen - 1) 0

/-- What a handshake meets: the random bytes, what `extnet_recv` reads (nothing when it fails) and whether more is pending, the
PAM library, the session table, whether the response is sent, and the times at which the clock is read: before the check of the
lockout, in `auth_track_attempt`, and when the lockout is set. -/
structure Handshake where
  rand : Option (Fin maxPwLen → UInt8)
  read : List UInt8
  dataPending : Bool
  pam : Pam
  session : Session
  sent : Bool
  timeCheck : ℕ
  timeTrack : ℕ
  timeLockout : ℕ

/-- `ats_attempts` and `t_lockout` -/
structure AuthState where
  log : AuthLog
  tLockout : ℕ

def AuthState.init : AuthState := ⟨.clear, 0⟩

/-- `authpam_client_handshake` up to its `switch`. -/
def handshakeRet (st : AuthState) (e : Handshake) : AuthRet × AuthLog :=
  match getRandomString e.rand with
  | none => (.invalidData, st.log)
  | some password =>
    if e.read = [] then (.invalidData, st.log)
    -- a random password is validated, and its result dropped
    else if e.timeCheck < st.tLockout then
      (.lockout, (authenticateClient st.log e.timeTrack e.pam (authHdrVersion :: password) 20).2)
    else if e.dataPending then (.invalidData, st.log)
    else authenticateClient st.log e.timeTrack e.pam e.read e.read.length

/-- `authpam_client_handshake`: its status, the response it sends, and the state it leaves. -/
def authpamClientHandshake (st : AuthState) (e : Handshake) : Status × UInt8 × AuthState :=
  let r := handshakeRet st e
  match r.1 with
  | .ok =>
    if (sessionGetAuthenticatedConn e.session false).1 ≠ .ok then
      (if e.sent then .ok else .err, authHandshakeSuccess, ⟨r.2, st.tLockout⟩)
    else (.err, authHandshakeBusy, ⟨r.2, st.tLockout⟩)
  | .sysErr => (.err, authHandshakeSyserr, ⟨r.2, st.tLockout⟩)
  | .lockout => (.err, authHandshakeFailure, ⟨r.2, e.timeLockout + invalidAuthLockoutNsecs⟩)
  | .unauthorized => (.err, authHandshakeFailure, ⟨r.2, st.tLockout⟩)
  | .invalidData => (.err, authHandshakeFailure, ⟨r.2, st.tLockout⟩)

/-- The state after a handshake. -/
def AuthState.after (st : AuthState) (e : Handshake) : AuthState := (authpamClientHandshake st e).2.2

/-- The times of a handshake, in the order of the reads. -/
def Handshake.times (e : Handshake) : List ℕ := [e.timeCheck, e.timeTrack, e.timeLockout]

/-- The clock does not go back in a run of handshakes. -/
def ClockSorted (hs : List Handshake) : Prop := (hs.flatMap Handshake.times).Pairwise (· ≤ ·)

/-- **Nobody is let in early**: after a handshake that ends in a lockout, none succeeds before the lockout time has passed. -/
def NeverEarly (hs : List Handshake) : Prop :=
  ∀ before e between e' behind, hs = before ++ e :: (between ++ e' :: behind) →
    (handshakeRet (before.foldl AuthState.after .init) e).1 = .lockout →
      e'.timeCheck < e.timeLockout + invalidAuthLockoutNsecs →
        (authpamClientHandshake ((before ++ e :: between).foldl AuthState.after .init) e').1 ≠ .ok

/-! ## After a lockout -/

section Handshake

variable {st : AuthState} {e : Handshake}

/-- While the lockout lasts, no handshake succeeds. -/
theorem handshake_locked (h : e.timeCheck < st.tLockout) : (authpamClientHandshake st e).1 ≠ .ok := by
  have hret : (handshakeRet st e).1 = .invalidData ∨ (handshakeRet st e).1 = .lockout := by
    rw [handshakeRet]
    rcases getRandomString e.rand with - | password
    · exact .inl rfl
    · dsimp only
      by_cases hread : e.read = []
      · rw [if_pos hread]
        exact .inl rfl
      · rw [if_neg hread, if_pos h]
        exact .inr rfl
  rw [authpamClientHandshake]
  rcases hret with hret | hret <;> rw [hret] <;> exact fun heq => nomatch heq

/-- A handshake that ends in a lockout sets its time. -/
theorem tLockout_of_lockout (h : (handshakeRet st e).1 = .lockout) :
    (st.after e).tLockout = e.timeLockout + invalidAuthLockoutNsecs := by
  rw [AuthState.after, authpamClientHandshake]
  rw [h]

/-- A handshake leaves the time of the lockout alone, or sets it anew. -/
theorem tLockout_after (st : AuthState) (e : Handshake) :
    (st.after e).tLockout = st.tLockout ∨ (st.after e).tLockout = e.timeLockout + invalidAuthLockoutNsecs := by
  rw [AuthState.after, authpamClientHandshake]
  rcases (handshakeRet st e).1 with - | - | - | - | -
  · dsimp only
    by_cases hconn : (sessionGetAuthenticatedConn e.session false).1 ≠ .ok
    · rw [if_pos hconn]
      exact .inl rfl
    · rw [if_neg hconn]
      exact .inl rfl
  · exact .inl rfl
  · exact .inl rfl
  · exact .inl rfl
  · exact .inr rfl

/-- The time of the lockout does not fall below a bound that later times meet. -/
theorem le_tLockout_foldl {n : ℕ} {hs : List Handshake} (hst : n + invalidAuthLockoutNsecs ≤ st.tLockout)
    (hlater : ∀ e ∈ hs, n ≤ e.timeLockout) : n + invalidAuthLockoutNsecs ≤ (hs.foldl AuthState.after st).tLockout := by
  induction hs generalizing st with
  | nil => exact hst
  | cons e hs ih =>
    refine ih ?_ fun e' he' => hlater e' (List.mem_cons_of_mem e he')
    rcases tLockout_after st e with heq | heq
    · exact heq.symm ▸ hst
    · rw [heq]
      exact Nat.add_le_add_right (hlater e List.mem_cons_self) _

/-- **The lockout lasts**, in every run in which the clock does not go back. -/
theorem neverEarly {hs : List Handshake} (hsorted : ClockSorted hs) : NeverEarly hs := by
  intro before e between e' behind heq hret hearly
  rw [ClockSorted, heq, List.flatMap_append, List.flatMap_cons] at hsorted
  have hsplit := (List.pairwise_append.1 (List.pairwise_append.1 hsorted).2.1).2.2
  -- the lockouts between the two set later times
  have hlater : ∀ e₁ ∈ between, e.timeLockout ≤ e₁.timeLockout := fun e₁ he₁ =>
    hsplit _ (List.mem_cons_of_mem _ (List.mem_cons_of_mem _ List.mem_cons_self)) _
      (List.mem_flatMap.2 ⟨e₁, List.mem_append_left _ he₁,
        List.mem_cons_of_mem _ (List.mem_cons_of_mem _ List.mem_cons_self)⟩)
  refine handshake_locked (hearly.trans_le ?_)
  rw [List.foldl_append, List.foldl_cons]
  exact le_tLockout_foldl (tLockout_of_lockout hret).ge hlater

end Handshake

/-! ## Both together -/

/-- **Authentication.** The lockout of a sequence of attempts is right, and nobody is let in before it is over, exactly when each
invalid attempt comes a period after the beginning of time or after enough others. -/
theorem authentication_iff {as : List AuthAttempt} {hs : List Handshake}
    (has : (as.map AuthAttempt.time).Pairwise (· ≤ ·)) (hhs : ClockSorted hs) :
    TracksRight as ∧ NeverEarly hs ↔ ∀ before a behind, as = before ++ a :: behind → LateEnough before a := by
  rw [tracksRight_iff has, and_iff_left (neverEarly hhs)]

/-- A handshake of a client with the right version, at the time `now`. -/
def someHandshake (now : ℕ) : Handshake :=
  ⟨some fun _ => 0, [0x30, 0x61], false, ⟨true, fun _ => false⟩, sessionInit fun _ => none, true, now, now, now⟩

/-- Two invalid attempts late enough. -/
theorem authentication_two_attempts :
    TracksRight [⟨.unauthorized, 100⟩, ⟨.invalidData, 130⟩] ∧ NeverEarly [someHandshake 100, someHandshake 130] := by
  have hclock : ClockSorted [someHandshake 100, someHandshake 130] := by
    unfold ClockSorted
    decide
  refine (authentication_iff (by decide) hclock).2 fun before a behind heq _ => .inl ?_
  have hmem : a ∈ ([⟨.unauthorized, 100⟩, ⟨.invalidData, 130⟩] : List AuthAttempt) := by
    rw [heq]
    exact List.mem_append_right _ List.mem_cons_self
  rcases List.mem_cons.1 hmem with rfl | hmem
  · decide
  · rw [List.mem_singleton.1 hmem]
    decide

/-- The first invalid attempt, ten seconds after the beginning of time, is locked out. -/
theorem first_attempt_locked_out :
    (authTrackAttempt .clear 10 .unauthorized).1 = .lockout ∧ ¬ TracksRight [⟨.unauthorized, 10⟩] := by
  have hlock : (authTrackAttempt .clear 10 .unauthorized).1 = .lockout := by decide
  refine ⟨hlock, fun h => ?_⟩
  have hright := (h [] ⟨.unauthorized, 10⟩ [] rfl (by decide)).1 hlock
  exact absurd hright (by decide)

end BmcAsd
