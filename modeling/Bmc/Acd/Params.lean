import Bmc.Acd.StaleData

/-!
# The parameters of the PECI calls

`UpdateParams` replaces the elements of `Params` by numbers, each command reads them position by position
into a message, and the fields of the message become the arguments of a call.

* `denote`: the value that an element stands for; `PeciCmd.widths`: the arguments of a command's call;
* `valueint_updateParam`: what the command reads is that value, as an `int`;
* `made_args`: the arguments of the calls that are made;
* **`binds_iff`**: the calls receive the values exactly if the fields of the message hold them.
-/

namespace BmcAcd

open BmcLib

/-! ## What a command should be given -/

/-- The number that hexadecimal digits form. -/
def hexValue (digits : List Char) : ℕ :=
  digits.foldl (fun n c =>
    16 * n + if c.isDigit then c.toNat - '0'.toNat else c.toLower.toNat - 'a'.toNat + 10) 0

/-- The value that an element of `Params` stands for: a number in the range of a parameter of `w` bits,
the value of a variable, an index, or a hexadecimal number. -/
def denote (info : CPUInfo) (vars : List (String × VarValue)) (ctx : Context) (w : ℕ) : Param → Option ℤ
  | .number n => if 0 ≤ n ∧ n < 2 ^ w then some n else none
  | .str t =>
    match vars.lookup t with
    | some (.hex n) => some n
    | some .error => none
    | none =>
      if t = "Target" then some info.clientAddr
      else if t = "CHA" then some ctx.cha.toNat
      else if t = "(CORE*2)+THREAD" then some (ctx.core.toNat * 2 + ctx.thread.toNat)
      else if t = "Core" then some ctx.core.toNat
      else (hexDigits t).map fun digits => (hexValue digits : ℤ)

namespace PeciCmd

/-- The widths of the parameters of a command that makes PECI calls. -/
def widths : PeciCmd → Option (List ℕ)
  | crashDumpDiscovery => some [8, 8, 8, 16, 8, 8]
  | crashDumpGetFrame => some [8, 16, 16, 16, 8]
  | ping => some [8]
  | getCPUID => some [8]
  | rdEndPointConfigMmio => some [8, 8, 8, 8, 8, 8, 8, 64, 8]
  | rdPCIConfigLocal => some [8, 8, 8, 8, 16, 8]
  | rdEndPointConfigPciLocal => some [8, 8, 8, 8, 8, 16, 8]
  | wrEndPointConfigPciLocal => some [8, 8, 8, 8, 8, 16, 8, 32]
  | rdIAMSR => some [8, 8, 16]
  | rdPkgConfig => some [8, 8, 16, 8]
  | rdPkgConfigCore => some [8, 8, 8, 16, 8]
  | telemetryDiscovery => some [8, 8, 8, 16, 8, 8]
  | _ => none

/-- The widths of the fields that a command reads its parameters into. -/
def fields : PeciCmd → List ℕ
  | crashDumpGetFrame => [8, 8, 16, 8, 8]
  | cmd => cmd.widths.getD []

end PeciCmd

/-- The values, reduced to their widths. -/
def reduce (ws : List ℕ) (vs : ℕ → ℤ) : List ℕ := ws.mapIdx fun i w => (vs i % 2 ^ w).toNat

/-- `valueint` of a number. -/
def saturate (v : ℤ) : ℤ := max (-2147483648) (min 2147483647 v)

namespace PeciCall

/-- The arguments of a call. -/
def args : PeciCall → List ℕ
  | crashDumpDiscovery t s p0 p1 p2 n => [t.toNat, s.toNat, p0.toNat, p1.toNat, p2.toNat, n.toNat]
  | crashDumpGetFrame t p0 p1 p2 n => [t.toNat, p0.toNat, p1.toNat, p2.toNat, n.toNat]
  | ping t => [t.toNat]
  | rdIAMSR t id a => [t.toNat, id.toNat, a.toNat]
  | rdPkgConfig t i v n => [t.toNat, i.toNat, v.toNat, n.toNat]
  | rdPCIConfigLocal t b d f r n => [t.toNat, b.toNat, d.toNat, f.toNat, r.toNat, n.toNat]
  | rdEndPointConfigPciLocal t s b d f r n =>
    [t.toNat, s.toNat, b.toNat, d.toNat, f.toNat, r.toNat, n.toNat]
  | wrEndPointPCIConfigLocal t s b d f r n v =>
    [t.toNat, s.toNat, b.toNat, d.toNat, f.toNat, r.toNat, n.toNat, v.toNat]
  | rdEndPointConfigMmio t s b d f bar a o n =>
    [t.toNat, s.toNat, b.toNat, d.toNat, f.toNat, bar.toNat, a.toNat, o.toNat, n.toNat]
  | telemetryDiscovery t s p0 p1 p2 n => [t.toNat, s.toNat, p0.toNat, p1.toNat, p2.toNat, n.toNat]
  | telemetryGetCrashlogSample t i s n => [t.toNat, i.toNat, s.toNat, n.toNat]

end PeciCall

/-- The calls that read `len` bytes of the register `reg`: one for up to four bytes, two for eight. -/
def pciCalls (front : List ℕ) (reg len : ℕ) : List (List ℕ) :=
  if len = 1 ∨ len = 2 ∨ len = 4 then [front ++ [reg, len]]
  else if len = 8 then [front ++ [reg, 4], front ++ [(reg + 4) % 2 ^ 16, 4]]
  else []

/-- The calls of a command, with the arguments that it was given. -/
def PeciCmd.callArgs : PeciCmd → List ℕ → List (List ℕ)
  | getCPUID, [t] => [[t], [t, 0, 0, 4]]
  | rdPkgConfigCore, [t, i, core, p, n] => [[t, i, core <<< 8 ||| p, n]]
  | rdPCIConfigLocal, [t, b, d, f, r, n] => pciCalls [t, b, d, f] r n
  | rdEndPointConfigPciLocal, [t, s, b, d, f, r, n] => pciCalls [t, s, b, d, f] r n
  | _, l => [l]

/-! ## Numbers -/

theorem toNat_ofInt8 (v : ℤ) : (UInt8.ofInt v).toNat = (v % 2 ^ 8).toNat := by
  rw [UInt8.ofInt, UInt8.toNat_ofNat']
  omega

theorem toNat_ofInt16 (v : ℤ) : (UInt16.ofInt v).toNat = (v % 2 ^ 16).toNat := by
  rw [UInt16.ofInt, UInt16.toNat_ofNat']
  omega

theorem toNat_ofInt32 (v : ℤ) : (UInt32.ofInt v).toNat = (v % 2 ^ 32).toNat := by
  rw [UInt32.ofInt, UInt32.toNat_ofNat']
  omega

theorem toNat_ofInt64 (v : ℤ) : (UInt64.ofInt v).toNat = (v % 2 ^ 64).toNat := by
  rw [UInt64.ofInt, UInt64.toNat_ofNat']
  omega

/-- Rounding a number to a `double` leaves it small or large. -/
theorem toDouble_cases (n : ℕ) : toDouble n = n ∨ 2 ^ 53 ≤ n ∧ 2 ^ 53 ≤ toDouble n := by
  unfold toDouble
  split_ifs with h
  · exact Or.inl rfl
  · right
    have hn : n ≠ 0 := by omega
    have hlog : 53 ≤ n.log2 := (Nat.le_log2 hn).mpr (by omega)
    have hu : 2 ^ 53 = 2 ^ 52 * 2 := by norm_num
    have hu2 : 2 ≤ 2 ^ (n.log2 - 52) := by
      calc 2 = 2 ^ 1 := by norm_num
        _ ≤ 2 ^ (n.log2 - 52) := Nat.pow_le_pow_right (by norm_num) (by omega)
    have hq : 2 ^ 52 ≤ n / 2 ^ (n.log2 - 52) := by
      rw [Nat.le_div_iff_mul_le (by positivity), ← pow_add]
      have : 52 + (n.log2 - 52) = n.log2 := by omega
      rw [this]
      exact Nat.log2_self_le hn
    have hprod : 2 ^ 53 ≤ n / 2 ^ (n.log2 - 52) * 2 ^ (n.log2 - 52) := by
      rw [hu]
      exact Nat.mul_le_mul hq hu2
    refine ⟨by omega, ?_⟩
    dsimp only
    split_ifs
    · exact hprod
    · exact hprod.trans (Nat.mul_le_mul_right _ (Nat.le_succ _))

theorem saturate_toDouble (n : ℕ) : saturate (toDouble n) = saturate n := by
  unfold saturate
  rcases toDouble_cases n with h | ⟨h1, h2⟩
  · rw [h]
  · omega

/-! ## What a command reads -/

theorem saturate_strtoull (digits : List Char) :
    saturate (toDouble (strtoull digits)) = saturate (hexValue digits) := by
  rw [saturate_toDouble]
  have h : strtoull digits = min (2 ^ 64 - 1) (hexValue digits) := rfl
  unfold saturate
  omega

/-- A hexadecimal string starts with `0x`. -/
theorem toList_of_hexDigits {t : String} {digits : List Char} (h : hexDigits t = some digits) :
    ∃ l, t.toList = '0' :: l := by
  unfold hexDigits at h
  split at h
  · rename_i l ht
    exact ⟨_, ht⟩
  · simp at h

/-- **A command reads the value that an element stands for**, as an `int`. -/
theorem valueint_updateParam {info : CPUInfo} {vars : List (String × VarValue)} {ctx : Context}
    {w : ℕ} {p : Param} {v : ℤ} (h : denote info vars ctx w p = some v) :
    (updateParam info vars ctx p).valueint = saturate v := by
  cases p with
  | number n =>
    simp only [denote] at h
    split_ifs at h
    obtain rfl := Option.some.inj h
    rfl
  | str t =>
    simp only [denote] at h
    simp only [updateParam]
    cases hvar : vars.lookup t with
    | some x =>
      cases x with
      | hex n =>
        simp only [hvar, Option.some.injEq] at h
        rw [← h]
        exact saturate_toDouble n
      | error =>
        simp only [hvar] at h
        exact absurd h (by simp)
    | none =>
      simp only [hvar] at h ⊢
      split_ifs at h with h1 h2 h3 h4
      · subst h1
        obtain rfl := Option.some.inj h
        rfl
      · subst h2
        obtain rfl := Option.some.inj h
        rfl
      · subst h3
        obtain rfl := Option.some.inj h
        rfl
      · subst h4
        obtain rfl := Option.some.inj h
        rfl
      · obtain ⟨digits, hd, rfl⟩ := Option.map_eq_some_iff.mp h
        obtain ⟨l, hl⟩ := toList_of_hexDigits hd
        have hstart : ∀ c l', c ≠ '0' → (c :: l').isPrefixOf t.toList = false := by
          intro c l' hc
          rw [hl, List.isPrefixOf, beq_eq_false_iff_ne.mpr hc, Bool.false_and]
        rw [if_neg (by simp [hstart]), if_neg (by simp [hstart]), if_neg (by simp [hstart]),
          if_neg (by simp [hstart]), hd]
        exact saturate_strtoull digits

/-! ## The calls that are made -/

section Calls

variable {ps : Params}

theorem toNat_arg8 (i : ℕ) : (ps.arg8 i).toNat = (ps.arg i % 2 ^ 8).toNat := toNat_ofInt8 _

theorem toNat_arg16 (i : ℕ) : (ps.arg16 i).toNat = (ps.arg i % 2 ^ 16).toNat := toNat_ofInt16 _

theorem toNat_arg32 (i : ℕ) : (ps.arg32 i).toNat = (ps.arg i % 2 ^ 32).toNat := toNat_ofInt32 _

/-- The word of `RdPkgConfigCore`. -/
theorem toNat_coreWord (core : UInt8) (p : UInt16) :
    (core.toUInt16 <<< 8 ||| p).toNat = core.toNat <<< 8 ||| p.toNat := by
  have h := core.toNat_lt
  have hlt : core.toNat <<< 8 < 2 ^ 16 := by
    rw [Nat.shiftLeft_eq]
    omega
  rw [UInt16.toNat_or, UInt16.toNat_shiftLeft, UInt8.toNat_toUInt16]
  exact congrArg (· ||| p.toNat) (Nat.mod_eq_of_lt hlt)

theorem toNat_dword_zero (reg : UInt16) : (reg + UInt16.ofNat (0 * 4)).toNat = reg.toNat :=
  congrArg UInt16.toNat (UInt16.add_zero reg)

theorem toNat_dword_one (reg : UInt16) :
    (reg + UInt16.ofNat (1 * 4)).toNat = (reg.toNat + 4) % 2 ^ 16 :=
  UInt16.toNat_add _ _

theorem map_args_oneRead {n pos : ℕ} {k : Keep} {call : UInt8 → PeciCall} (h : ps.length ≤ n) :
    (oneRead ps n pos k call).calls.map PeciCall.args = [(call (ps.arg8 pos)).args] := by
  simp [oneRead, Nat.not_lt.mpr h]

/-- The calls of a command that is one read, or two. -/
theorem map_args_oneOrTwoReads (pos : ℕ) (call : ℕ → UInt8 → PeciCall) (front : List ℕ)
    (reg : UInt16) {n : ℕ} (h : ps.length ≤ n)
    (h0 : ∀ len, (call 0 len).args = front ++ [reg.toNat, len.toNat])
    (h1 : ∀ len, (call 1 len).args = front ++ [(reg.toNat + 4) % 2 ^ 16, len.toNat]) :
    (oneOrTwoReads ps n pos call).calls.map PeciCall.args =
      pciCalls front reg.toNat (ps.arg8 pos).toNat := by
  have heq : ∀ m : UInt8, (ps.arg8 pos).toNat = m.toNat ↔ ps.arg8 pos = m :=
    fun m => UInt8.toNat_inj
  have hsmall : ((ps.arg8 pos).toNat = 1 ∨ (ps.arg8 pos).toNat = 2 ∨ (ps.arg8 pos).toNat = 4) ↔
      (ps.arg8 pos = 1 ∨ ps.arg8 pos = 2 ∨ ps.arg8 pos = 4) :=
    or_congr (heq 1) (or_congr (heq 2) (heq 4))
  have height : (ps.arg8 pos).toNat = 8 ↔ ps.arg8 pos = 8 := heq 8
  unfold oneOrTwoReads pciCalls
  simp only [if_neg (Nat.not_lt.mpr h), hsmall, height]
  split_ifs
  · exact congrArg (fun l => [l]) (h0 _)
  · rw [List.map_cons, List.map_cons, h0, h1]
    rfl
  · rfl

/-- **The arguments of the calls** of a command that is calls. -/
theorem map_args_reads {cmd : PeciCmd} {r : ReadCmd} {v : ℤ} (hr : cmd.reads ps v = some r)
    (hping : cmd ≠ .ping) (hlen : ps.length = cmd.fields.length) :
    r.calls.map PeciCall.args = cmd.callArgs (reduce cmd.fields ps.arg) := by
  cases cmd <;> simp only [PeciCmd.reads, Option.some.injEq, reduceCtorEq] at hr <;> subst hr
  case crashDumpDiscovery =>
    rw [map_args_oneRead (show ps.length ≤ 6 from hlen.le)]
    simp [Params.crashDumpDiscovery, PeciCall.args, PeciCmd.callArgs, PeciCmd.fields, PeciCmd.widths,
      reduce, toNat_arg8, toNat_arg16]
  case crashDumpGetFrame =>
    rw [map_args_oneRead (show ps.length ≤ 5 from hlen.le)]
    simp [Params.crashDumpGetFrame, PeciCall.args, PeciCmd.callArgs, PeciCmd.fields, reduce,
      toNat_arg8, toNat_arg16]
  case ping => exact absurd rfl hping
  case rdEndPointConfigMmio =>
    rw [map_args_oneRead (show ps.length ≤ 9 from hlen.le)]
    simp [Params.rdEndPointConfigMmio, PeciCall.args, PeciCmd.callArgs, PeciCmd.fields,
      PeciCmd.widths, reduce, toNat_arg8, toNat_ofInt64]
  case rdPCIConfigLocal =>
    refine (map_args_oneOrTwoReads 5 ps.rdPCIConfigLocal
      [(ps.arg8 0).toNat, (ps.arg8 1).toNat, (ps.arg8 2).toNat, (ps.arg8 3).toNat] (ps.arg16 4)
      (show ps.length ≤ 6 from hlen.le) (fun len => ?_) fun len => ?_).trans ?_
    · rw [← toNat_dword_zero]
      rfl
    · rw [← toNat_dword_one]
      rfl
    · simp [PeciCmd.callArgs, PeciCmd.fields, PeciCmd.widths, reduce, toNat_arg8, toNat_arg16]
  case rdEndPointConfigPciLocal =>
    refine (map_args_oneOrTwoReads 6 ps.rdEndPointConfigPciLocal
      [(ps.arg8 0).toNat, (ps.arg8 1).toNat, (ps.arg8 2).toNat, (ps.arg8 3).toNat, (ps.arg8 4).toNat]
      (ps.arg16 5) (show ps.length ≤ 7 from hlen.le) (fun len => ?_) fun len => ?_).trans ?_
    · rw [← toNat_dword_zero]
      rfl
    · rw [← toNat_dword_one]
      rfl
    · simp [PeciCmd.callArgs, PeciCmd.fields, PeciCmd.widths, reduce, toNat_arg8, toNat_arg16]
  case wrEndPointConfigPciLocal =>
    rw [map_args_oneRead (show ps.length ≤ 8 from hlen.le)]
    simp [Params.wrEndPointConfigPciLocal, PeciCall.args, PeciCmd.callArgs, PeciCmd.fields,
      PeciCmd.widths, reduce, toNat_arg8, toNat_arg16, toNat_arg32]
  case rdIAMSR =>
    have h3 : ¬ ps.length > 3 := by
      rw [hlen]
      decide
    rw [if_neg h3]
    simp [Params.rdIAMSR, PeciCall.args, PeciCmd.callArgs, PeciCmd.fields, PeciCmd.widths, reduce,
      toNat_arg8, toNat_arg16]
  case rdPkgConfig =>
    rw [map_args_oneRead (show ps.length ≤ 4 from hlen.le)]
    simp [Params.rdPkgConfig, PeciCall.args, PeciCmd.callArgs, PeciCmd.fields, PeciCmd.widths, reduce,
      toNat_arg8, toNat_arg16]
  case rdPkgConfigCore =>
    rw [map_args_oneRead (show ps.length ≤ 5 from hlen.le)]
    have h := toNat_coreWord (ps.arg8 2) (ps.arg16 3)
    rw [toNat_arg8, toNat_arg16] at h
    simp only [Params.rdPkgConfigCore, PeciCall.args, h, toNat_arg8]
    rfl
  case telemetryDiscovery =>
    rw [map_args_oneRead (show ps.length ≤ 6 from hlen.le)]
    simp [Params.telemetryDiscovery, PeciCall.args, PeciCmd.callArgs, PeciCmd.fields, PeciCmd.widths,
      reduce, toNat_arg8, toNat_arg16]

end Calls

/-! ## Repetitions -/

/-- The fields that the commands and the logger leave as they are. -/
structure SameCommand (s t : SectionState) : Prop where
  entry : t.entry = s.entry
  params : t.io.params = s.io.params
  paramsValue : t.io.paramsValue = s.io.paramsValue

theorem params_addVar (io : CmdInOut) (v : VarValue) :
    (io.addVar v).params = io.params ∧ (io.addVar v).paramsValue = io.paramsValue := by
  unfold CmdInOut.addVar
  split <;> exact ⟨rfl, rfl⟩

theorem params_issue (io : CmdInOut) (pos : ℕ) (calls : List PeciCall) :
    (io.issue pos calls).params = io.params ∧ (io.issue pos calls).paramsValue = io.paramsValue := by
  induction calls generalizing io pos with
  | nil => exact ⟨rfl, rfl⟩
  | cons c calls ih => exact ih _ _

theorem params_exec (r : ReadCmd) (io : CmdInOut) :
    (r.exec io).params = io.params ∧ (r.exec io).paramsValue = io.paramsValue := by
  have hissue := params_issue (io.resize r.size) 0 r.calls
  have hsize : (io.resize r.size).params = io.params ∧
      (io.resize r.size).paramsValue = io.paramsValue := by
    cases r.size <;> exact ⟨rfl, rfl⟩
  rw [hsize.1, hsize.2] at hissue
  unfold ReadCmd.exec CmdInOut.keepVar
  split_ifs
  · exact hissue
  · exact ⟨(params_addVar _ _).1.trans hissue.1, (params_addVar _ _).2.trans hissue.2⟩
  · exact ⟨(params_addVar _ _).1.trans hissue.1, (params_addVar _ _).2.trans hissue.2⟩

theorem params_make (io : CmdInOut) (size : UInt8) (bytes : List UInt8) :
    (io.make size bytes).params = io.params ∧ (io.make size bytes).paramsValue = io.paramsValue := by
  unfold CmdInOut.make
  exact params_addVar _ _

/-- A command leaves its parameters as they are. -/
theorem params_execute (cmd : Option PeciCmd) (io : CmdInOut) :
    (execute cmd io).params = io.params ∧ (execute cmd io).paramsValue = io.paramsValue := by
  cases cmd with
  | none => exact ⟨rfl, rfl⟩
  | some cmd =>
    cases hr : cmd.reads io.params io.paramsValue with
    | some r =>
      rw [execute_reads io hr]
      exact params_exec r io
    | none =>
      cases hm : cmd.makes io.params with
      | some m =>
        rw [execute_makes hm]
        exact params_make io _ _
      | none =>
        obtain ⟨o, b, hidle, -⟩ := execute_idle cmd io hr hm
        rw [hidle]
        exact ⟨rfl, rfl⟩

theorem SameCommand.trans {s t u : SectionState} (h : SameCommand s t) (h' : SameCommand t u) :
    SameCommand s u :=
  ⟨h'.entry.trans h.entry, h'.params.trans h.params, h'.paramsValue.trans h.paramsValue⟩

theorem sameCommand_execute (s : SectionState) : SameCommand s s.checkTime.execute := by
  unfold SectionState.execute
  split_ifs
  · exact ⟨rfl, rfl, rfl⟩
  · obtain ⟨h1, h2⟩ := params_execute s.checkTime.entry.cmd
      (s.checkTime.io.setOut (s.checkTime.io.out.setPrintString false))
    exact ⟨rfl, h1, h2⟩

theorem sameCommand_logValue (s : SectionState) : SameCommand s s.logValue.2 := by
  unfold SectionState.logValue
  split_ifs
  · exact ⟨rfl, rfl, rfl⟩
  · unfold SectionState.logTimeouts
    dsimp only
    split_ifs <;> exact ⟨rfl, rfl, rfl⟩

theorem sameCommand_logger (s : SectionState) (n : ℕ) : SameCommand s (s.logger n).2 := by
  unfold SectionState.logger
  cases s.entry.name with
  | none => exact ⟨rfl, rfl, rfl⟩
  | some name =>
    cases s.entry.outputSize with
    | none =>
      have h := sameCommand_logValue (s.setNameSize s.io.out.size)
      exact ⟨h.entry, h.params, h.paramsValue⟩
    | some k =>
      have h := sameCommand_logValue s
      exact ⟨h.entry, h.params, h.paramsValue⟩

/-- A repetition leaves the command as it is. -/
theorem sameCommand_run (s : SectionState) (n : ℕ) : SameCommand s (s.run n).2 := by
  have h := (sameCommand_execute s).trans (sameCommand_logger s.checkTime.execute n)
  unfold SectionState.run
  dsimp only
  split_ifs
  · exact ⟨h.entry, h.params, h.paramsValue⟩
  · exact h

/-- The state behind the first `k` repetitions of a command. -/
def SectionState.repeated (s : SectionState) (k : ℕ) : SectionState :=
  (List.range k).foldl (fun s i => (s.run (i + 1)).2) s

theorem sameCommand_repeated (s : SectionState) (k : ℕ) : SameCommand s (s.repeated k) := by
  induction k with
  | zero => exact ⟨rfl, rfl, rfl⟩
  | succ k ih =>
    have h := sameCommand_run (s.repeated k) (k + 1)
    rw [SectionState.repeated, List.range_succ, List.foldl_append]
    exact ih.trans h

/-! ## The condition -/

/-- The fields of the message hold the values that the arguments should have. -/
def PeciCmd.Holds (cmd : PeciCmd) (ws : List ℕ) (vs : ℕ → ℤ) : Prop :=
  reduce cmd.fields (fun i => saturate (vs i)) = reduce ws vs

/-- The condition for a command. `Ping` and `GetCPUID` do not read the list; `RdPkgConfigCore` joins two
values; with an unknown length `RdPCIConfigLocal` and `RdEndPointConfigPciLocal` make no calls. -/
def PeciCmd.Fits : PeciCmd → List ℕ → (ℕ → ℤ) → Prop
  | ping, _, vs => vs 0 % 2 ^ 8 = 0
  | getCPUID, _, vs => vs 0 % 2 ^ 8 = 0
  | rdPkgConfigCore, ws, vs =>
    rdPkgConfigCore.callArgs (reduce ws fun i => saturate (vs i)) =
      rdPkgConfigCore.callArgs (reduce ws vs)
  | rdPCIConfigLocal, ws, vs =>
    (vs 5 % 2 ^ 8 ≠ 1 ∧ vs 5 % 2 ^ 8 ≠ 2 ∧ vs 5 % 2 ^ 8 ≠ 4 ∧ vs 5 % 2 ^ 8 ≠ 8) ∨
      rdPCIConfigLocal.Holds ws vs
  | rdEndPointConfigPciLocal, ws, vs =>
    (vs 6 % 2 ^ 8 ≠ 1 ∧ vs 6 % 2 ^ 8 ≠ 2 ∧ vs 6 % 2 ^ 8 ≠ 4 ∧ vs 6 % 2 ^ 8 ≠ 8) ∨
      rdEndPointConfigPciLocal.Holds ws vs
  | cmd, ws, vs => cmd.Holds ws vs

/-- The calls `calls` are those of `wanted`, as far as they are made. -/
def Receives (calls wanted : List (List ℕ)) : Prop := calls <+: wanted ∧ (calls = [] → wanted = [])

theorem receives_singleton {a b : List ℕ} : Receives [a] [b] ↔ a = b := by
  unfold Receives
  constructor
  · rintro ⟨h, -⟩
    exact List.singleton_inj.mp (h.eq_of_length rfl)
  · rintro rfl
    exact ⟨List.prefix_rfl, fun h => absurd h (by simp)⟩

theorem receives_cpuid {calls : List (List ℕ)} {a : ℕ}
    (h : calls = [[0]] ∨ calls = [[0], [0, 0, 0, 4]]) :
    Receives calls [[a], [a, 0, 0, 4]] ↔ a = 0 := by
  constructor
  · rintro ⟨hp, -⟩
    rcases h with rfl | rfl
    · exact (List.singleton_inj.mp (List.cons_prefix_cons.mp hp).1).symm
    · exact (List.singleton_inj.mp (List.cons_prefix_cons.mp hp).1).symm
  · rintro rfl
    rcases h with rfl | rfl
    · exact ⟨List.prefix_append _ _, fun h => absurd h (by simp)⟩
    · exact ⟨List.prefix_rfl, fun h => absurd h (by simp)⟩

/-- The calls of a command with one or two reads, whose length may be out of range. -/
theorem receives_pciCalls {front front' : List ℕ} {reg reg' len len' : ℕ}
    (hf : front.length = front'.length) (hlen : len = len' ∨ len = 255 ∨ len = 0) :
    Receives (pciCalls front reg len) (pciCalls front' reg' len') ↔
      (len' ≠ 1 ∧ len' ≠ 2 ∧ len' ≠ 4 ∧ len' ≠ 8) ∨
        front ++ [reg, len] = front' ++ [reg', len'] := by
  by_cases hnone : len' ≠ 1 ∧ len' ≠ 2 ∧ len' ≠ 4 ∧ len' ≠ 8
  · have h' : pciCalls front' reg' len' = [] := by
      unfold pciCalls
      rw [if_neg (by tauto), if_neg (by tauto)]
    have h : pciCalls front reg len = [] := by
      unfold pciCalls
      rw [if_neg (by omega), if_neg (by omega)]
    rw [h, h']
    exact ⟨fun _ => Or.inl hnone, fun _ => ⟨List.prefix_rfl, fun _ => rfl⟩⟩
  rw [or_iff_right hnone]
  have hne : pciCalls front' reg' len' ≠ [] := by
    unfold pciCalls
    split_ifs
    · simp
    · simp
    · omega
  by_cases heq : len = len'
  · subst heq
    unfold pciCalls
    by_cases hsmall : len = 1 ∨ len = 2 ∨ len = 4
    · rw [if_pos hsmall, if_pos hsmall]
      exact receives_singleton
    · have h8 : len = 8 := by omega
      rw [if_neg hsmall, if_neg hsmall, if_pos h8, if_pos h8]
      constructor
      · rintro ⟨h, -⟩
        have h1 := (List.cons.inj (h.eq_of_length rfl)).1
        obtain ⟨rfl, h2⟩ := List.append_inj h1 hf
        obtain rfl := (List.cons.inj h2).1
        rfl
      · intro h
        obtain ⟨rfl, h2⟩ := List.append_inj h hf
        obtain rfl := (List.cons.inj h2).1
        exact ⟨List.prefix_rfl, id⟩
  · have hempty : pciCalls front reg len = [] := by
      unfold pciCalls
      rw [if_neg (by omega), if_neg (by omega)]
    rw [hempty]
    constructor
    · rintro ⟨-, h⟩
      exact absurd (h rfl) hne
    · intro h
      have h2 := (List.append_inj h hf).2
      simp at h2
      exact absurd h2.2 heq

/-! ## The parameters of a command -/

section Bound

variable {s : SectionState} {e : CmdEntry} {cmd : PeciCmd} {ws : List ℕ} {vs : ℕ → ℤ} {k : ℕ}

/-- The parameters of the command denote the values `vs`. -/
def Denotes (s : SectionState) (e : CmdEntry) (ws : List ℕ) (vs : ℕ → ℤ) : Prop :=
  ∀ i w p, ws[i]? = some w → e.params[i]? = some p →
    denote s.io.cpuInfo s.io.internalVarsTracker s.ctx w p = some (vs i)

/-- **What the command reads.** -/
theorem arg_start (hlen : e.params.length = ws.length) (h : Denotes s e ws vs) {i : ℕ}
    (hi : i < ws.length) : (s.start e).io.params.arg i = saturate (vs i) := by
  have hp : i < e.params.length := by omega
  have hd := h i ws[i] e.params[i] (List.getElem?_eq_getElem hi) (List.getElem?_eq_getElem hp)
  have hget : (s.start e).io.params[i]? =
      some (updateParam s.io.cpuInfo s.io.internalVarsTracker s.ctx e.params[i]) := by
    show (e.params.map _)[i]? = _
    rw [List.getElem?_map, List.getElem?_eq_getElem hp]
    rfl
  rw [Params.arg, hget]
  exact valueint_updateParam hd

theorem reduce_congr {ws : List ℕ} {vs vs' : ℕ → ℤ} (h : ∀ i < ws.length, vs i = vs' i) :
    reduce ws vs = reduce ws vs' := by
  refine List.ext_getElem (by simp [reduce]) fun i h1 _ => ?_
  have hi : i < ws.length := by simpa [reduce] using h1
  simp [reduce, h i hi]

theorem length_fields (hws : cmd.widths = some ws) : cmd.fields.length = ws.length := by
  cases cmd <;> simp only [PeciCmd.widths, Option.some.injEq, reduceCtorEq] at hws <;> subst hws <;> rfl

/-- The arguments of the calls that a repetition makes. -/
def SectionState.callArgs (s : SectionState) (n : ℕ) : List (List ℕ) :=
  (s.made n).map fun x => x.1.args

theorem map_args_results (calls : List PeciCall) (answers : ℕ → PeciAnswer) :
    (results calls answers).map (fun x => x.1.args) = calls.map PeciCall.args := by
  induction calls generalizing answers with
  | nil => rfl
  | cons c calls ih => rw [results_cons, List.map_cons, ih, List.map_cons]

/-- **The arguments of a command that is calls.** -/
theorem callArgs_reads {t : SectionState} {r : ReadCmd} (hskip : t.own.skipped = false)
    (hcmd : t.entry.cmd = some cmd) (hr : cmd.reads t.io.params t.io.paramsValue = some r) (n : ℕ) :
    t.callArgs n = r.calls.map PeciCall.args := by
  rw [SectionState.callArgs, made_reads hskip hcmd hr]
  exact map_args_results _ _

/-- `GetCPUID` makes one call or two. -/
theorem bus_getCPUID (io : CmdInOut) :
    (getCPUID io).bus = io.bus.call (.ping (UInt8.ofInt io.paramsValue)) ∨
      (getCPUID io).bus = (io.bus.call (.ping (UInt8.ofInt io.paramsValue))).call
        (.rdPkgConfig (UInt8.ofInt io.paramsValue) 0 0 4) := by
  unfold getCPUID
  dsimp only
  by_cases h : (PeciCall.ping (UInt8.ofInt io.paramsValue)).status io.bus.answer = .success
  · right
    rw [if_neg (not_not.mpr h)]
  · left
    rw [if_pos h]

theorem callArgs_cpuid {t : SectionState} (hskip : t.own.skipped = false)
    (hcmd : t.entry.cmd = some .getCPUID) (hv : t.io.paramsValue = 0) (n : ℕ) :
    t.callArgs n = [[0]] ∨ t.callArgs n = [[0], [0, 0, 0, 4]] := by
  have hexec : t.executed = getCPUID (t.io.setOut (t.io.out.setPrintString false)) := by
    rw [t.executed_run hskip, hcmd]
    rfl
  have hbus := bus_getCPUID (t.io.setOut (t.io.out.setPrintString false))
  have hv' : (t.io.setOut (t.io.out.setPrintString false)).paramsValue = 0 := hv
  have hb' : (t.io.setOut (t.io.out.setPrintString false)).bus = t.io.bus := rfl
  rw [hv', hb'] at hbus
  rw [SectionState.callArgs, t.made_eq, hexec]
  rcases hbus with h | h
  · left
    rw [h, Device.transcript_call]
    rfl
  · right
    rw [h, (Device.extends_call _ _).transcript_trans (Device.extends_call _ _),
      Device.transcript_call, Device.transcript_call]
    rfl

theorem toNat_emod_eq_iff {v : ℤ} {w m : ℕ} : (v % 2 ^ w).toNat = m ↔ v % 2 ^ w = m := by
  have := Int.emod_nonneg v (show (2 : ℤ) ^ w ≠ 0 by positivity)
  omega

theorem reduce_one (w : ℕ) (vs : ℕ → ℤ) : reduce [w] vs = [(vs 0 % 2 ^ w).toNat] := rfl

theorem saturate_emod (v : ℤ) :
    saturate v % 2 ^ 8 = v % 2 ^ 8 ∨ saturate v % 2 ^ 8 = 255 ∨ saturate v % 2 ^ 8 = 0 := by
  unfold saturate
  omega

/-- The calls of a command with one or two reads. -/
theorem receives_pci (front : List ℕ) (vs : ℕ → ℤ) :
    Receives (pciCalls (reduce front fun i => saturate (vs i))
        (saturate (vs front.length) % 2 ^ 16).toNat (saturate (vs (front.length + 1)) % 2 ^ 8).toNat)
      (pciCalls (reduce front vs) (vs front.length % 2 ^ 16).toNat
        (vs (front.length + 1) % 2 ^ 8).toNat) ↔
    (vs (front.length + 1) % 2 ^ 8 ≠ 1 ∧ vs (front.length + 1) % 2 ^ 8 ≠ 2 ∧
        vs (front.length + 1) % 2 ^ 8 ≠ 4 ∧ vs (front.length + 1) % 2 ^ 8 ≠ 8) ∨
      reduce front (fun i => saturate (vs i)) ++
          [(saturate (vs front.length) % 2 ^ 16).toNat,
            (saturate (vs (front.length + 1)) % 2 ^ 8).toNat] =
        reduce front vs ++
          [(vs front.length % 2 ^ 16).toNat, (vs (front.length + 1) % 2 ^ 8).toNat] := by
  have hlen := saturate_emod (vs (front.length + 1))
  refine (receives_pciCalls (by simp [reduce]) (by omega)).trans (or_congr ?_ Iff.rfl)
  omega

/-- **The parameters of the PECI calls.** In every repetition of a command that is not skipped, the calls
receive the values that the elements stand for exactly if the command fits them. -/
theorem binds_iff (s : SectionState) (e : CmdEntry) (cmd : PeciCmd) (ws : List ℕ) (vs : ℕ → ℤ) (k : ℕ)
    (hcmd : e.cmd = some cmd) (hws : cmd.widths = some ws) (hlen : e.params.length = ws.length)
    (hv : e.paramsValue = 0) (hden : Denotes s e ws vs)
    (hskip : ((s.start e).repeated k).own.skipped = false) :
    Receives (((s.start e).repeated k).callArgs (k + 1)) (cmd.callArgs (reduce ws vs)) ↔
      cmd.Fits ws vs := by
  have hsame := sameCommand_repeated (s.start e) k
  generalize (s.start e).repeated k = t at hskip hsame ⊢
  have hcmd' : t.entry.cmd = some cmd := by
    rw [hsame.entry]
    exact hcmd
  have hv' : t.io.paramsValue = 0 := hsame.paramsValue.trans hv
  have hlen' : t.io.params.length = cmd.fields.length := by
    rw [hsame.params, length_fields hws, ← hlen]
    exact List.length_map _
  have harg : ∀ i < ws.length, t.io.params.arg i = saturate (vs i) := by
    intro i hi
    rw [hsame.params]
    exact arg_start hlen hden hi
  have hreduce : reduce cmd.fields t.io.params.arg = reduce cmd.fields fun i => saturate (vs i) :=
    reduce_congr fun i hi => harg i (by rwa [length_fields hws] at hi)
  have hcalls : ∀ r, cmd.reads t.io.params t.io.paramsValue = some r → cmd ≠ .ping →
      t.callArgs (k + 1) = cmd.callArgs (reduce cmd.fields fun i => saturate (vs i)) := by
    intro r hr hping
    rw [callArgs_reads hskip hcmd' hr, map_args_reads hr hping hlen', hreduce]
  cases cmd <;> simp only [PeciCmd.widths, Option.some.injEq, reduceCtorEq] at hws <;> subst hws
  case ping =>
    rw [callArgs_reads hskip hcmd' rfl, hv']
    refine (receives_singleton (a := [0])).trans ?_
    rw [reduce_one, List.singleton_inj]
    exact eq_comm.trans toNat_emod_eq_iff
  case getCPUID =>
    refine Iff.trans ?_ (toNat_emod_eq_iff (w := 8) (m := 0))
    have hwanted : PeciCmd.getCPUID.callArgs (reduce [8] vs) =
      [[(vs 0 % 2 ^ 8).toNat], [(vs 0 % 2 ^ 8).toNat, 0, 0, 4]] := rfl
    rw [hwanted]
    exact receives_cpuid (callArgs_cpuid hskip hcmd' hv' (k + 1))
  case rdPkgConfigCore =>
    rw [hcalls _ rfl (by simp)]
    exact receives_singleton.trans List.singleton_inj.symm
  case rdPCIConfigLocal =>
    rw [hcalls _ rfl (by simp)]
    exact receives_pci [8, 8, 8, 8] vs
  case rdEndPointConfigPciLocal =>
    rw [hcalls _ rfl (by simp)]
    exact receives_pci [8, 8, 8, 8, 8] vs
  all_goals
    rw [hcalls _ rfl (by simp)]
    exact receives_singleton

/-- A read of four bytes, of the core's own MSR. -/
def msrEntry : CmdEntry where
  cmd := some .rdIAMSR
  paramsValue := 0
  params := [.str "Target", .str "(CORE*2)+THREAD", .str "0x401"]
  name := none
  outputSize := none
  repeats := none
  internalVar := none

/-- The answers of a CPU that is there. -/
def goodAnswer : ℕ → PeciAnswer := fun _ => ⟨true, true, 0x40, fun i => UInt8.ofNat i⟩

theorem binds_msr : Receives
    ((((newSection goodAnswer).start msrEntry).repeated 1).callArgs 2) [[0x30, 0, 0x401]] := by
  refine (binds_iff (newSection goodAnswer) msrEntry .rdIAMSR [8, 8, 16]
    (fun i => [0x30, 0, 0x401].getD i 0) 1 rfl rfl rfl rfl ?_ (by decide +kernel)).mpr (by rfl)
  intro i w p hw hp
  rcases i with _ | _ | _ | i
  · obtain rfl := Option.some.inj hp
    rfl
  · obtain rfl := Option.some.inj hp
    rfl
  · obtain rfl := Option.some.inj hp
    obtain rfl := Option.some.inj hw
    decide +kernel
  · simp at hw

/-- A frame of the crashdump. -/
def frameEntry : CmdEntry where
  cmd := some .crashDumpGetFrame
  paramsValue := 0
  params := [.str "Target", .str "0x1234", .number 0, .number 0, .number 8]
  name := none
  outputSize := none
  repeats := none
  internalVar := none

/-- The first parameter of the frame is cut to a byte. -/
theorem not_binds_frame :
    Denotes (newSection goodAnswer) frameEntry [8, 16, 16, 16, 8]
      (fun i => [0x30, 0x1234, 0, 0, 8].getD i 0) ∧
    ¬ Receives ((((newSection goodAnswer).start frameEntry).repeated 0).callArgs 1)
      [[0x30, 0x1234, 0, 0, 8]] := by
  constructor
  · intro i w p hw hp
    rcases i with _ | _ | _ | _ | _ | i
    · obtain rfl := Option.some.inj hp
      rfl
    · obtain rfl := Option.some.inj hp
      obtain rfl := Option.some.inj hw
      decide +kernel
    · obtain rfl := Option.some.inj hp
      rw [← Option.some.inj hw]
      rfl
    · obtain rfl := Option.some.inj hp
      rw [← Option.some.inj hw]
      rfl
    · obtain rfl := Option.some.inj hp
      rw [← Option.some.inj hw]
      rfl
    · simp at hw
  · unfold Receives
    decide +kernel

end Bound

end BmcAcd
