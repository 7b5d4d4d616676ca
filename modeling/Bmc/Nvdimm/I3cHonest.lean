import Bmc.Nvdimm.I3cOutcome

/-!
# Honest transfers

A transfer that succeeds should have sent its header and its data, and should have seen a response after that.

* `BlockArgs.Acknowledged`: data and a command are sent, and then a response without an error is reported;
* `BlockArgs.WriteHonest`, `BlockArgs.ReadHonest`;
* **`i3cBlockWrite_cases`**, **`i3cBlockRead_cases`**: what the transfers come to;
* **`honest_iff`**: which runs are honest.
-/

namespace BmcNvdimm

open BmcLib

/-! ## What a transfer should do -/

namespace BlockArgs

/-- The channel is reached through the second controller. -/
def second (b : BlockArgs) : Bool := (b.channel / 2) >>> 1 ≠ 0

/-- The dwords that are written to the command queue. -/
def commands (b : BlockArgs) (t : Transcript) : List UInt32 := writtenTo b.addr b.second .commandQueuePort t

/-- The dwords that are written to the data port. -/
def data (b : BlockArgs) (t : Transcript) : List UInt32 := writtenTo b.addr b.second .txDataPort t

/-- What the controller reports about itself when it is asked for the `i`-th time. -/
def reported (b : BlockArgs) (t : Transcript) (i : ℕ) : UInt32 :=
  ((readFrom b.addr b.second .deviceControl t).map PeciAnswer.val).getD i 0

/-- The mode that the controller reports first: it is enabled, and there is an I2C slave. -/
def i2c (b : BlockArgs) (t : Transcript) : Bool := checkBit (b.reported t 0) 31 && checkBit (b.reported t 0) 7

/-- The controller reports a response without an error: `RESP_READY_STAT` is set and `TRANSFER_ERR_STAT` is not. -/
def Responds (b : BlockArgs) (p : PeciAccess × PeciAnswer) : Prop :=
  p.1.reads b.addr b.second .intrStatus = true ∧ p.2.success = true ∧
    checkBit p.2.val 4 = true ∧ checkBit p.2.val 9 = false

instance (b : BlockArgs) (p : PeciAccess × PeciAnswer) : Decidable (b.Responds p) :=
  inferInstanceAs (Decidable (_ ∧ _ ∧ _ ∧ _))

/-- Data and commands have been sent, then the controller has reported a response without an error, and `rest` comes
after that. -/
def Acknowledged (b : BlockArgs) (cmds txs : List UInt32) (t rest : Transcript) : Prop :=
  ∃ sent p, t = sent ++ p :: rest ∧ b.Responds p ∧ ¬ Broken sent ∧ b.commands sent = cmds ∧ b.data sent = txs

/-- The commands of a write, where `count` is the number of bytes. -/
def writeCommands (b : BlockArgs) (count : UInt32) (t : Transcript) : List UInt32 :=
  [descriptor b.saddr (b.i2c t) 1 1 0, count <<< 16]

/-- The commands of a read: the header is sent, and then the data are asked for. -/
def readCommands (b : BlockArgs) (t : Transcript) : List UInt32 :=
  [descriptor b.saddr (b.i2c t) 0 0 0, (4 : UInt32) <<< 16, descriptor b.saddr (b.i2c t) 1 1 1, (4 : UInt32) <<< 16]

end BlockArgs

/-- A program returns `PECI_SUCCESS`. -/
def Succeeds {β : Type} (r : Except PECIStatus β) : Prop := ∀ e, r = .error e → e = .success

namespace BlockArgs

/-- An honest write. When it succeeds, header and data have been sent with a command for exactly so many bytes, and the
controller has responded. The commands depend on the arguments and on the reported mode only. -/
structure WriteHonest (b : BlockArgs) (numbytes : UInt8) (val : UInt32) (t : Transcript)
    (r : Except PECIStatus Unit) : Prop where
  sent : Succeeds r → ∃ rest,
    b.Acknowledged (b.writeCommands (UInt32.ofNat (4 + numbytes.toNat)) t) (leDwords (b.bytesToWrite numbytes val)) t rest
  determined : b.commands t <+: b.writeCommands (4 + numbytes).toUInt32 t

/-- An honest read. When it succeeds, the header has been sent, the controller has responded, and the value that is
stored has been read from the data port after that. -/
structure ReadHonest (b : BlockArgs) (t : Transcript) (r : Except PECIStatus UInt32) : Prop where
  sent : Succeeds r → ∃ rest val, b.Acknowledged (b.readCommands t) (leDwords b.readBytes) t rest ∧ r = .ok val ∧
    ∃ p ∈ rest, p.1.reads b.addr b.second .txDataPort = true ∧ p.2 = ⟨true, val⟩
  determined : b.commands t <+: b.readCommands t

/-- The controller reports a response without an error, and nothing is sent after that. -/
def Answered (b : BlockArgs) (t : Transcript) : Prop :=
  ∃ sent p rest, t = sent ++ p :: rest ∧ b.Responds p ∧ b.commands rest = [] ∧ b.data rest = []

end BlockArgs

/-! ## The start of a transfer -/

/-- The accesses are those of configuration registers of the processor. -/
def Aside (t : Transcript) : Prop := ∀ p ∈ t, ∃ addr offset, p.1 = .rdEndPointConfigPciLocal addr offset

theorem Aside.writtenTo {t : Transcript} (h : Aside t) (addr : UInt8) (second : Bool) (reg : LpssReg) :
    writtenTo addr second reg t = [] := by
  apply List.filterMap_eq_nil_iff.2
  intro p hp
  obtain ⟨addr', offset, hp'⟩ := h p hp
  rw [hp']
  rfl

theorem Aside.readFrom {t : Transcript} (h : Aside t) (addr : UInt8) (second : Bool) (reg : LpssReg) :
    readFrom addr second reg t = [] := by
  rw [BmcNvdimm.readFrom, List.filter_eq_nil_iff.2, List.map_nil]
  intro p hp
  obtain ⟨addr', offset, hp'⟩ := h p hp
  rw [hp']
  exact Bool.false_ne_true

theorem aside_cons {addr : UInt8} {offset : ℕ} {a : PeciAnswer} {t : Transcript} (h : Aside t) :
    Aside ((.rdEndPointConfigPciLocal addr offset, a) :: t) := by
  intro p hp
  rcases List.mem_cons.1 hp with rfl | hp
  · exact ⟨addr, offset, rfl⟩
  · exact h p hp

theorem aside_nil : Aside [] := fun _ hp => absurd hp List.not_mem_nil

theorem runs_local_bind {β : Type} {addr : UInt8} {offset : ℕ} {f : UInt32 → I3cCode β} {t : Transcript}
    {r : Except PECIStatus β} :
    (rdPciLocal addr offset >>= f).Runs t r ↔ ∃ a t', t = (.rdEndPointConfigPciLocal addr offset, a) :: t' ∧
      (a.success = true ∧ (f a.val).Runs t' r ∨ a.success = false ∧ t' = [] ∧ r = .error .i3cRwFail) := by
  change (∃ a t', t = (_, a) :: t' ∧
    ((if a.success then pure a.val else .leave .i3cRwFail : I3cCode UInt32) >>= f).Runs t' r) ↔ _
  refine exists_congr fun a => exists_congr fun t' => and_congr_right fun _ => ?_
  cases a.success with
  | true => simp
  | false => simp

/-- **The bus number.** -/
theorem bus30_runs {addr : UInt8} {t : Transcript} {r : Except PECIStatus UInt8}
    (h : (bus30ToPostEnumeratedBus addr).Runs t r) :
    Aside t ∧ ((∃ bus, r = .ok bus ∧ ¬ Broken t) ∨ r = .error .i3cRwFail ∧ Broken t) := by
  obtain ⟨a, t', rfl, ⟨hsuccess, h⟩ | ⟨hsuccess, rfl, rfl⟩⟩ := runs_local_bind.1 h
  · split_ifs at h with hvalid
    · obtain ⟨rfl, rfl⟩ := h
      exact ⟨aside_cons aside_nil, .inl ⟨0, rfl, by simp [hsuccess]⟩⟩
    · obtain ⟨a', t', rfl, ⟨hsuccess', h⟩ | ⟨hsuccess', rfl, rfl⟩⟩ := runs_local_bind.1 h
      · obtain ⟨rfl, rfl⟩ := h
        exact ⟨aside_cons (aside_cons aside_nil), .inl ⟨_, rfl, by simp [hsuccess, hsuccess']⟩⟩
      · exact ⟨aside_cons (aside_cons aside_nil), .inr ⟨rfl, by simp [hsuccess']⟩⟩
  · exact ⟨aside_cons aside_nil, .inr ⟨rfl, by simp [hsuccess]⟩⟩

/-- The controller has been asked about itself, and nothing else has happened. -/
structure Asked (addr : UInt8) (second : Bool) (t : Transcript) (vals : List UInt32) : Prop where
  silent : Silent addr second t
  polls : readFrom addr second .intrStatus t = []
  controls : (readFrom addr second .deviceControl t).map PeciAnswer.val = vals

theorem Aside.asked {t : Transcript} (h : Aside t) (hok : ¬ Broken t) (addr : UInt8) (second : Bool) :
    Asked addr second t [] where
  silent := ⟨hok, h.readFrom .., h.writtenTo .., h.writtenTo ..⟩
  polls := h.readFrom ..
  controls := by rw [h.readFrom, List.map_nil]

/-- The controller is asked once more. -/
theorem Asked.append {buses : LpssBuses} {l : Lpss} {t : Transcript} {vals : List UInt32} {a : PeciAnswer}
    (h : Asked l.peciAddr l.second t vals) (ha : a.success = true) :
    Asked l.peciAddr l.second (t ++ [(l.rd buses .deviceControl, a)]) (vals ++ [a.val]) where
  silent := ⟨by simp [h.silent.sound, ha], by simp [h.silent.states, readFrom_cons],
    by simp [h.silent.commands, writtenTo_cons], by simp [h.silent.data, writtenTo_cons]⟩
  polls := by simp [h.polls, readFrom_cons]
  controls := by simp [h.controls, readFrom_cons]

/-- The fields of the controller. -/
theorem runs_fields_bind {β : Type} {buses : LpssBuses} {l : Lpss} {f : Bool × Bool → I3cCode β} {t : Transcript}
    {r : Except PECIStatus β} :
    (getDeviceControlFields buses l >>= f).Runs t r ↔ ∃ a t', t = (l.rd buses .deviceControl, a) :: t' ∧
      (a.success = true ∧ (f (checkBit a.val 31, checkBit a.val 7)).Runs t' r ∨
        a.success = false ∧ t' = [] ∧ r = .error .i3cFail) := by
  change (∃ a t', t = (_, a) :: t' ∧ (((if a.success then pure a.val else .leave .i3cFail : I3cCode UInt32) >>=
    fun data => pure (checkBit data 31, checkBit data 7)) >>= f).Runs t' r) ↔ _
  refine exists_congr fun a => exists_congr fun t' => and_congr_right fun _ => ?_
  cases a.success with
  | true => simp
  | false => simp

/-- What the controller has reported does not change any more. -/
theorem reported_append {b : BlockArgs} {t t' : Transcript} {vals : List UInt32} (h : Asked b.addr b.second t vals)
    {i : ℕ} (hi : i < vals.length) : b.reported (t ++ t') i = vals[i] := by
  rw [BlockArgs.reported, readFrom_append, List.map_append, h.controls, List.getD_eq_getElem?_getD,
    List.getElem?_append_left hi, List.getElem?_eq_getElem hi]
  rfl

/-- A transfer has failed before it has sent a command. -/
def FailsEarly {β : Type} (b : BlockArgs) (t : Transcript) (r : Except PECIStatus β) : Prop :=
  ∃ e, r = .error e ∧ e ≠ .success ∧ Broken t ∧ b.commands t = []

/-- **The start of a transfer.** -/
theorem start_cases {β : Type} {buses : LpssBuses} {b : BlockArgs} {mem : BlockMemory} {ws : ℕ → UInt8} {n : UInt8}
    {f : UInt8 → Bool × Bool → I3cCode β} {t : Transcript} {r : Except PECIStatus β}
    (h : (bus30ToPostEnumeratedBus b.addr >>= fun bus =>
      getDeviceControlFields (setBuses buses bus) (b.lpss mem ws n false false) >>= f bus).Runs t r) :
    FailsEarly b t r ∨ ∃ bus t₁ t₂ v, t = t₁ ++ t₂ ∧ Asked b.addr b.second t₁ [v] ∧
      (f bus (checkBit v 31, checkBit v 7)).Runs t₂ r := by
  rcases Code.runs_bind.1 h with ⟨t₀, t', bus, rfl, h₀, h'⟩ | ⟨e, he, rfl⟩
  · obtain ⟨haside, ⟨-, -, hok⟩ | ⟨hr, -⟩⟩ := bus30_runs h₀
    · have hasked := haside.asked hok b.addr b.second
      obtain ⟨a, t₂, rfl, ⟨hsuccess, h₂⟩ | ⟨hsuccess, rfl, rfl⟩⟩ := runs_fields_bind.1 h'
      · refine .inr ⟨bus, t₀ ++ [(_, a)], t₂, a.val, by rw [List.append_assoc]; rfl, ?_, h₂⟩
        exact hasked.append (l := b.lpss mem ws n false false) hsuccess
      · refine .inl ⟨_, rfl, by decide, by simp [hsuccess], ?_⟩
        rw [BlockArgs.commands, writtenTo_append, hasked.silent.commands]
        rfl
    · cases hr
  · obtain ⟨haside, ⟨bus, hr, hok⟩ | ⟨hr, hbad⟩⟩ := bus30_runs he
    · cases hr
    · obtain rfl := Except.error.inj hr
      exact .inl ⟨_, rfl, by decide, hbad, haside.writtenTo ..⟩

/-- A transfer returns without a failure and has not asked the controller for anything. -/
def Skipped {β : Type} (b : BlockArgs) (t : Transcript) (r : Except PECIStatus β) : Prop :=
  r = .error .success ∧ ¬ Broken t ∧ ¬ TimedOut b.addr b.second t ∧ b.commands t = []

theorem Asked.skipped {β : Type} {b : BlockArgs} {t : Transcript} {vals : List UInt32}
    (h : Asked b.addr b.second t vals) : Skipped b t (.error .success : Except PECIStatus β) := by
  refine ⟨rfl, h.silent.sound, ?_, h.silent.commands⟩
  rw [TimedOut, h.polls, h.silent.states]
  simp

/-- The transfer of a write, as it has been prepared. -/
def BlockArgs.writeLpss (b : BlockArgs) (mem : BlockMemory) (numbytes : UInt8) (val : UInt32) (t : Transcript) : Lpss :=
  b.lpss mem (b.writeBytes val) (4 + numbytes) (checkBit (b.reported t 0) 31) (checkBit (b.reported t 0) 7)

/-- **What a write comes to.** It fails early, or it is skipped, or its sequence is started. -/
theorem i3cBlockWrite_cases {buses : LpssBuses} {b : BlockArgs} {mem : BlockMemory} {numbytes : UInt8} {val : UInt32}
    {t : Transcript} {r : Except PECIStatus Unit} (h : (i3cBlockWrite buses b mem numbytes val).Runs t r) :
    FailsEarly b t r ∨
      (Skipped b t r ∧ ¬ (mem.wdata = true ∧ mem.rdata = true ∧ checkBit (b.reported t 1) 31 = true)) ∨
      (mem.wdata = true ∧ mem.rdata = true ∧ checkBit (b.reported t 1) 31 = true ∧
        Outcome b.addr b.second
          [(b.writeLpss mem numbytes val t).commandLow 1 1 0, (b.writeLpss mem numbytes val t).commandHigh]
          (leDwords (slice (b.writeBytes val) 0 (4 + numbytes).toNat)) t r) := by
  rcases start_cases h with hfail | ⟨bus, t₁, t₂, v, rfl, hasked, h₂⟩
  · exact .inl hfail
  · have hfirst : b.reported (t₁ ++ t₂) 0 = v := reported_append hasked (Nat.zero_lt_one)
    split_ifs at h₂ with hwdata hrdata
    · obtain ⟨rfl, rfl⟩ := h₂
      refine .inr (.inl ⟨?_, by simp [hwdata]⟩)
      rw [List.append_nil]
      exact hasked.skipped
    · obtain ⟨rfl, rfl⟩ := h₂
      refine .inr (.inl ⟨?_, by simp [hrdata]⟩)
      rw [List.append_nil]
      exact hasked.skipped
    · obtain ⟨a, t₃, rfl, ⟨hsuccess, h₃⟩ | ⟨hsuccess, rfl, rfl⟩⟩ := runs_fields_bind.1 h₂
      · generalize hp : (_, a) = p at hfirst ⊢
        have hasked₂ : Asked b.addr b.second (t₁ ++ [p]) [v, a.val] := by
          rw [← hp]
          exact hasked.append (l := b.lpss mem _ _ _ _) hsuccess
        rw [List.append_cons] at hfirst ⊢
        have hsecond : b.reported (t₁ ++ [p] ++ t₃) 1 = a.val := reported_append hasked₂ Nat.one_lt_two
        rw [hsecond, BlockArgs.writeLpss, hfirst]
        split_ifs at h₃ with henable
        · obtain ⟨rfl, rfl⟩ := h₃
          refine .inr (.inl ⟨?_, by simpa using fun _ _ => henable⟩)
          rw [List.append_nil]
          exact hasked₂.skipped
        · refine .inr (.inr ⟨by simpa using hwdata, by simpa using hrdata, by simpa using henable, ?_⟩)
          exact Outcome.append_left hasked₂.silent (sendAndWait_ends _ _ h₃)
      · refine .inl ⟨_, rfl, by decide, by simp [hsuccess], ?_⟩
        rw [BlockArgs.commands, writtenTo_append, hasked.silent.commands]
        rfl

/-- The transfer of a read, as it has been prepared. -/
def BlockArgs.readLpss (b : BlockArgs) (mem : BlockMemory) (t : Transcript) : Lpss :=
  b.lpss mem (byteOf (b.header 1)) 4 (checkBit (b.reported t 0) 31) (checkBit (b.reported t 0) 7)

/-- **What a read comes to.** -/
theorem i3cBlockRead_cases {buses : LpssBuses} {b : BlockArgs} {mem : BlockMemory} {t : Transcript}
    {r : Except PECIStatus UInt32} (h : (i3cBlockRead buses b mem).Runs t r) :
    FailsEarly b t r ∨ (Skipped b t r ∧ ¬ (mem.wdata = true ∧ mem.rdata = true)) ∨
      (mem.wdata = true ∧ mem.rdata = true ∧
        Outcome b.addr b.second
          [(b.readLpss mem t).commandLow 0 0 0, (b.readLpss mem t).commandHigh,
            (b.readLpss mem t).commandLow 1 1 1, (b.readLpss mem t).commandHigh]
          (leDwords (slice (byteOf (b.header 1)) 0 4)) t r) := by
  rcases start_cases h with hfail | ⟨bus, t₁, t₂, v, rfl, hasked, h₂⟩
  · exact .inl hfail
  · have hfirst : b.reported (t₁ ++ t₂) 0 = v := reported_append hasked (Nat.zero_lt_one)
    split_ifs at h₂ with hwdata hrdata
    · obtain ⟨rfl, rfl⟩ := h₂
      refine .inr (.inl ⟨?_, by simp [hwdata]⟩)
      rw [List.append_nil]
      exact hasked.skipped
    · obtain ⟨rfl, rfl⟩ := h₂
      refine .inr (.inl ⟨?_, by simp [hrdata]⟩)
      rw [List.append_nil]
      exact hasked.skipped
    · rw [BlockArgs.readLpss, hfirst]
      refine .inr (.inr ⟨by simpa using hwdata, by simpa using hrdata, ?_⟩)
      exact Outcome.append_left hasked.silent (ends_map wrRdRegular_ends _ _ h₂)

/-- **The value of a read** is what is read last. -/
theorem i3cBlockRead_last {buses : LpssBuses} {b : BlockArgs} {mem : BlockMemory} {t : Transcript} {val : UInt32}
    (h : (i3cBlockRead buses b mem).Runs t (.ok val)) :
    ∃ buses' enabled i2cSlavePresent,
      (b.lpss mem (byteOf (b.header 1)) 4 enabled i2cSlavePresent).LastRead buses' t [val] := by
  rcases start_cases h with ⟨e, he, -⟩ | ⟨bus, t₁, t₂, v, rfl, -, h₂⟩
  · cases he
  · refine ⟨setBuses buses bus, checkBit v 31, checkBit v 7, Lpss.LastRead.append_left t₁ t₂ [val] ?_⟩
    split_ifs at h₂
    · cases h₂.2
    · cases h₂.2
    · rcases Code.runs_bind.1 h₂ with ⟨t₃, t₄, rdata, rfl, h₃, rfl, hval⟩ | ⟨e, -, he⟩
      · have hlast := wrRdRegular_last rfl h₃
        obtain ⟨s, a, a', data, rfl, hsuccess, rfl⟩ := hlast
        rw [List.append_nil, Except.ok.inj hval]
        exact ⟨s, a, a', data, rfl, hsuccess, rfl⟩
      · cases he

/-! ## Which runs are honest -/

/-- Commands that begin as they should. -/
theorem prefix_iff {c c' : UInt32} {cs cs' cmds : List UInt32} {p : Prop} (hhead : c = c' ↔ p)
    (htail : p → cs = cs') (hpre : cmds <+: c :: cs) : cmds <+: c' :: cs' ↔ (cmds ≠ [] → p) := by
  constructor
  · intro h hne
    cases cmds with
    | nil => exact absurd rfl hne
    | cons d ds =>
      apply hhead.1
      rw [← (List.cons_prefix_cons.1 hpre).1, ← (List.cons_prefix_cons.1 h).1]
  · intro h
    by_cases hnil : cmds = []
    · rw [hnil]
      exact List.nil_prefix
    · have hp := h hnil
      rwa [← hhead.2 hp, ← htail hp]

section Honest

variable {b : BlockArgs} {t rest : Transcript} {cmds txs : List UInt32}

/-- A response is not a write. -/
theorem writtenTo_response {p : PeciAccess × PeciAnswer} (hp : b.Responds p) {sent : Transcript} (reg : LpssReg) :
    writtenTo b.addr b.second reg (sent ++ p :: rest) =
      writtenTo b.addr b.second reg sent ++ writtenTo b.addr b.second reg rest := by
  obtain ⟨c, a⟩ := p
  have hread : c.reads b.addr b.second .intrStatus = true := hp.1
  rw [writtenTo_append, writtenTo_cons]
  cases c with
  | rdEndPointConfigPciLocal addr offset => rfl
  | rdEndPointConfigMmio addr bus second reg' => rfl
  | wrEndPointConfigMmio addr bus second reg' val => cases hread

/-- **An acknowledged transfer** when the commands are as many as they should be. -/
theorem acknowledged_commands (h : b.Acknowledged cmds txs t rest) (hlen : (b.commands t).length = cmds.length) :
    b.commands t = cmds ∧ b.commands rest = [] := by
  obtain ⟨sent, p, rfl, hp, -, rfl, -⟩ := h
  have hsplit : b.commands (sent ++ p :: rest) = b.commands sent ++ b.commands rest := writtenTo_response hp _
  rw [hsplit, List.length_append, Nat.add_eq_left, List.length_eq_zero_iff] at hlen
  rw [hsplit, hlen, List.append_nil]
  exact ⟨rfl, rfl⟩

theorem acknowledged_data (h : b.Acknowledged cmds txs t rest) (hlen : (b.data t).length = txs.length) :
    b.data t = txs ∧ b.data rest = [] := by
  obtain ⟨sent, p, rfl, hp, -, -, rfl⟩ := h
  have hsplit : b.data (sent ++ p :: rest) = b.data sent ++ b.data rest := writtenTo_response hp _
  rw [hsplit, List.length_append, Nat.add_eq_left, List.length_eq_zero_iff] at hlen
  rw [hsplit, hlen, List.append_nil]
  exact ⟨rfl, rfl⟩

/-- **An answered transfer** is acknowledged. -/
theorem acknowledged_of_answered (hok : ¬ Broken t) (h : b.Answered t) :
    ∃ sent p rest, t = sent ++ p :: rest ∧ b.Responds p ∧ b.Acknowledged (b.commands t) (b.data t) t rest := by
  obtain ⟨sent, p, rest, rfl, hp, hcmds, hdata⟩ := h
  refine ⟨sent, p, rest, rfl, hp, sent, p, rfl, hp, fun hbad => hok (broken_append.2 (.inl hbad)), ?_, ?_⟩
  · rw [BlockArgs.commands, BlockArgs.commands, writtenTo_response hp]
    exact (List.append_right_eq_self.2 hcmds).symm
  · rw [BlockArgs.data, BlockArgs.data, writtenTo_response hp]
    exact (List.append_right_eq_self.2 hdata).symm

theorem not_succeeds {β : Type} {e : PECIStatus} (he : e ≠ .success) :
    ¬ Succeeds (.error e : Except PECIStatus β) := fun h => he (h e rfl)

theorem succeeds_ok {β : Type} {c : β} : Succeeds (.ok c : Except PECIStatus β) := fun _ h => nomatch h

/-- A transfer that is skipped is not acknowledged. -/
theorem Skipped.not_acknowledged {β : Type} {r : Except PECIStatus β} (h : Skipped b t r) (hcmds : cmds ≠ []) :
    ¬ b.Acknowledged cmds txs t rest := by
  rintro ⟨sent, p, rfl, hp, -, rfl, -⟩
  have hnone := h.2.2.2
  rw [BlockArgs.commands, writtenTo_response hp] at hnone
  exact hcmds (List.append_eq_nil_iff.1 hnone).1

/-- A transfer that has sent commands and has looked at the state of the controller once or twice has not timed out. -/
theorem not_timedOut (hstates : (readFrom b.addr b.second .presentStateDebug t).length ≤ maxPolls)
    (hcmds : b.commands t ≠ []) : ¬ TimedOut b.addr b.second t := by
  rintro (⟨-, hnone⟩ | hpolls)
  · exact hcmds hnone
  · omega

end Honest

section Write

variable {buses : LpssBuses} {b : BlockArgs} {mem : BlockMemory} {numbytes : UInt8} {val : UInt32} {t : Transcript}

/-- **The commands of a transfer** have the right descriptors when nothing is unassigned. -/
theorem lpss_command_eq_iff {ws : ℕ → UInt8} {n : UInt8} {enabled i2cSlavePresent : Bool} {toc roc rnw : UInt32} :
    (b.lpss mem ws n enabled i2cSlavePresent).commandLow toc roc rnw =
      descriptor b.saddr (enabled && i2cSlavePresent) toc roc rnw ↔ mem.unassigned.bits = 0 := by
  have hmode : decide ((b.lpss mem ws n enabled i2cSlavePresent).mode = .i2cMode0) = (enabled && i2cSlavePresent) := by
    cases enabled <;> cases i2cSlavePresent <;> rfl
  rw [← hmode]
  exact commandLow_eq_iff

theorem commandHigh_eq (l : Lpss) : l.commandHigh = l.wdataSize.toUInt32 <<< 16 := by
  have hlt := l.wdataSize.toNat_lt
  have hmask : l.wdataSize.toUInt32 &&& 0xffff = l.wdataSize.toUInt32 := by
    apply UInt32.toNat_inj.1
    rw [UInt32.toNat_and, UInt8.toNat_toUInt32]
    change l.wdataSize.toNat &&& 2 ^ 16 - 1 = _
    rw [Nat.and_two_pow_sub_one_eq_mod, Nat.mod_eq_of_lt (by omega)]
  rw [Lpss.commandHigh, hmask]

/-- The count in a command is right unless it does not fit into a byte. -/
theorem count_eq_iff : (4 + numbytes).toUInt32 <<< 16 = UInt32.ofNat (4 + numbytes.toNat) <<< 16 ↔
    numbytes.toNat < 252 := by
  have hlt := numbytes.toNat_lt
  have hsum : (4 + numbytes).toNat = (4 + numbytes.toNat) % 256 := by rw [UInt8.toNat_add]; rfl
  have hshift : ∀ x : UInt32, x.toNat < 65536 → (x <<< 16).toNat = x.toNat * 65536 := by
    intro x hx
    rw [UInt32.toNat_shiftLeft]
    change x.toNat <<< 16 % 2 ^ 32 = _
    rw [Nat.shiftLeft_eq, Nat.mod_eq_of_lt (by omega)]
  have hcount : (UInt32.ofNat (4 + numbytes.toNat)).toNat = 4 + numbytes.toNat := by
    rw [UInt32.toNat_ofNat', Nat.mod_eq_of_lt (by omega)]
  rw [← UInt32.toNat_inj, hshift _ (by rw [UInt8.toNat_toUInt32]; omega), hshift _ (by omega), UInt8.toNat_toUInt32,
    hsum, hcount]
  omega

theorem writeCommand_eq_iff :
    (b.writeLpss mem numbytes val t).commandLow 1 1 0 = descriptor b.saddr (b.i2c t) 1 1 0 ↔ mem.unassigned.bits = 0 :=
  lpss_command_eq_iff

theorem write_data_eq (hlt : numbytes.toNat < 252) :
    leDwords (slice (b.writeBytes val) 0 (4 + numbytes).toNat) = leDwords (b.bytesToWrite numbytes val) := by
  have hsum : (4 + numbytes).toNat = 4 + numbytes.toNat := by
    rw [UInt8.toNat_add]
    exact Nat.mod_eq_of_lt (by change 4 + numbytes.toNat < 256; omega)
  rw [hsum, slice_writeBytes]

/-- A write that is acknowledged is answered. -/
theorem write_answered
    (hcommands : b.commands t =
      [(b.writeLpss mem numbytes val t).commandLow 1 1 0, (b.writeLpss mem numbytes val t).commandHigh])
    (hdata : b.data t = leDwords (slice (b.writeBytes val) 0 (4 + numbytes).toNat))
    (h : ∃ rest, b.Acknowledged (b.writeCommands (UInt32.ofNat (4 + numbytes.toNat)) t)
      (leDwords (b.bytesToWrite numbytes val)) t rest) : numbytes.toNat < 252 ∧ b.Answered t := by
  obtain ⟨rest, hack⟩ := h
  have hlen : (b.commands t).length = 2 := by rw [hcommands]; rfl
  obtain ⟨hc, hrest⟩ := acknowledged_commands hack hlen
  have hlt : numbytes.toNat < 252 := by
    rw [hcommands, commandHigh_eq] at hc
    exact count_eq_iff.1 (List.cons.inj (List.cons.inj hc).2).1
  rw [write_data_eq hlt] at hdata
  obtain ⟨-, hdrest⟩ := acknowledged_data hack (congrArg List.length hdata)
  obtain ⟨sent, p, ht, hp, -⟩ := hack
  exact ⟨hlt, sent, p, rest, ht, hp, hrest, hdrest⟩

/-- A write that is answered is acknowledged. -/
theorem write_acknowledged (hok : ¬ Broken t)
    (hcommands : b.commands t =
      [(b.writeLpss mem numbytes val t).commandLow 1 1 0, (b.writeLpss mem numbytes val t).commandHigh])
    (hdata : b.data t = leDwords (slice (b.writeBytes val) 0 (4 + numbytes).toNat))
    (hzero : mem.unassigned.bits = 0) (hlt : numbytes.toNat < 252) (h : b.Answered t) :
    ∃ rest, b.Acknowledged (b.writeCommands (UInt32.ofNat (4 + numbytes.toNat)) t)
      (leDwords (b.bytesToWrite numbytes val)) t rest := by
  obtain ⟨-, -, rest, -, -, hack⟩ := acknowledged_of_answered hok h
  rw [hdata, write_data_eq hlt, hcommands, writeCommand_eq_iff.2 hzero, commandHigh_eq] at hack
  refine ⟨rest, ?_⟩
  rw [BlockArgs.writeCommands, ← count_eq_iff.2 hlt]
  exact hack

/-- When a write is honest: an access fails, a loop runs out of its turns, or nothing is skipped and the controller
responds. Fields that nothing assigns are zero when a command is sent. -/
def BlockArgs.WriteServed (b : BlockArgs) (mem : BlockMemory) (numbytes : UInt8) (t : Transcript) : Prop :=
  (b.commands t ≠ [] → mem.unassigned.bits = 0) ∧
    (Broken t ∨ TimedOut b.addr b.second t ∨
      (mem.wdata = true ∧ mem.rdata = true ∧ checkBit (b.reported t 1) 31 = true) ∧ numbytes.toNat < 252 ∧ b.Answered t)

theorem write_determined_iff
    (hpre : b.commands t <+:
      [(b.writeLpss mem numbytes val t).commandLow 1 1 0, (b.writeLpss mem numbytes val t).commandHigh]) :
    b.commands t <+: b.writeCommands (4 + numbytes).toUInt32 t ↔ (b.commands t ≠ [] → mem.unassigned.bits = 0) :=
  prefix_iff writeCommand_eq_iff (fun _ => by rw [commandHigh_eq]; rfl) hpre

/-- **An honest write.** -/
theorem writeHonest_iff {r : Except PECIStatus Unit} (h : (i3cBlockWrite buses b mem numbytes val).Runs t r) :
    b.WriteHonest numbytes val t r ↔ b.WriteServed mem numbytes t := by
  rcases i3cBlockWrite_cases h with ⟨e, rfl, he, hbad, hnone⟩ | ⟨hskip, hadmit⟩ | ⟨hwdata, hrdata, henable, hout⟩
  · refine iff_of_true ⟨fun hs => absurd hs (not_succeeds he), hnone ▸ List.nil_prefix⟩ ⟨fun hne => ?_, .inl hbad⟩
    exact absurd hnone hne
  · refine iff_of_false (fun hh => ?_) fun hs => ?_
    · have hsucceeds : Succeeds r := by
        rw [hskip.1]
        exact fun e he => (Except.error.inj he).symm
      obtain ⟨rest, hack⟩ := hh.sent hsucceeds
      exact hskip.not_acknowledged (List.cons_ne_nil _ _) hack
    · exact hs.2.elim hskip.2.1 fun hs => hs.elim hskip.2.2.1 fun hs => hadmit hs.1
  · rcases hout with ⟨c, rfl, hok, hstates, hcmds, hdata⟩ | ⟨e, rfl, he, hbad, hpre⟩
    · have hcommands : b.commands t =
        [(b.writeLpss mem numbytes val t).commandLow 1 1 0, (b.writeLpss mem numbytes val t).commandHigh] := hcmds
      have hne : b.commands t ≠ [] := hcommands ▸ List.cons_ne_nil _ _
      have htime := not_timedOut hstates hne
      have hpre : b.commands t <+:
          [(b.writeLpss mem numbytes val t).commandLow 1 1 0, (b.writeLpss mem numbytes val t).commandHigh] := by
        rw [hcommands]
      constructor
      · intro hh
        obtain ⟨hlt, hanswered⟩ := write_answered hcommands hdata (hh.sent succeeds_ok)
        exact ⟨(write_determined_iff hpre).1 hh.determined, .inr (.inr ⟨⟨hwdata, hrdata, henable⟩, hlt, hanswered⟩)⟩
      · rintro ⟨hzero, hs⟩
        obtain ⟨-, hlt, hanswered⟩ := (hs.resolve_left hok).resolve_left htime
        exact ⟨fun _ => write_acknowledged hok hcommands hdata (hzero hne) hlt hanswered,
          (write_determined_iff hpre).2 hzero⟩
    · refine ⟨fun hh => ⟨(write_determined_iff hpre).1 hh.determined, hbad.imp_right .inl⟩, fun hs => ?_⟩
      exact ⟨fun hs => absurd hs (not_succeeds he), (write_determined_iff hpre).2 hs.1⟩

end Write

section Read

variable {buses : LpssBuses} {b : BlockArgs} {mem : BlockMemory} {t rest : Transcript} {cmds txs : List UInt32}

/-- When a read is honest: an access fails, a loop runs out of its turns, or nothing is skipped and the controller
responds. Fields that nothing assigns are zero when a command is sent. -/
def BlockArgs.ReadServed (b : BlockArgs) (mem : BlockMemory) (t : Transcript) : Prop :=
  (b.commands t ≠ [] → mem.unassigned.bits = 0) ∧
    (Broken t ∨ TimedOut b.addr b.second t ∨ (mem.wdata = true ∧ mem.rdata = true) ∧ b.Answered t)

theorem readCommand_eq_iff (toc roc rnw : UInt32) :
    (b.readLpss mem t).commandLow toc roc rnw = descriptor b.saddr (b.i2c t) toc roc rnw ↔ mem.unassigned.bits = 0 :=
  lpss_command_eq_iff

/-- The commands of a read, as the program makes them. -/
def BlockArgs.readDescriptors (b : BlockArgs) (mem : BlockMemory) (t : Transcript) : List UInt32 :=
  [(b.readLpss mem t).commandLow 0 0 0, (b.readLpss mem t).commandHigh,
    (b.readLpss mem t).commandLow 1 1 1, (b.readLpss mem t).commandHigh]

theorem read_determined_iff (hpre : b.commands t <+: b.readDescriptors mem t) :
    b.commands t <+: b.readCommands t ↔ (b.commands t ≠ [] → mem.unassigned.bits = 0) := by
  refine prefix_iff (readCommand_eq_iff 0 0 0) (fun hzero => ?_) hpre
  rw [(readCommand_eq_iff 1 1 1).2 hzero, commandHigh_eq]
  rfl

/-- An element other than the last two comes before them. -/
theorem mem_of_append_eq {α : Type} {sent rest s : List α} {x y z : α} (h : sent ++ x :: rest = s ++ [y, z])
    (hy : x ≠ y) (hz : x ≠ z) : y ∈ rest := by
  rcases List.append_eq_append_iff.1 h with ⟨as, -, has⟩ | ⟨cs, -, hcs⟩
  · cases as with
    | nil => exact absurd (List.cons.inj has).1 hy
    | cons a as =>
      rw [(List.cons.inj has).2]
      simp
  · match cs, hcs with
    | [], hcs => exact absurd (List.cons.inj hcs).1.symm hy
    | [_], hcs => exact absurd (List.cons.inj (List.cons.inj hcs).2).1.symm hz
    | _ :: _ :: cs, hcs =>
      have hlen := congrArg List.length hcs
      simp at hlen

/-- What is read last comes after the response. -/
theorem mem_of_lastRead {l : Lpss} {val : UInt32} (haddr : l.peciAddr = b.addr) (hsecond : l.second = b.second)
    (hlast : l.LastRead buses t [val]) (hack : b.Acknowledged cmds txs t rest) :
    ∃ p ∈ rest, p.1.reads b.addr b.second .txDataPort = true ∧ p.2 = ⟨true, val⟩ := by
  obtain ⟨s, a, a', data, ht, hsuccess, hval⟩ := hlast
  obtain ⟨sent, p, ht', hp, -⟩ := hack
  rw [ht'] at ht
  refine ⟨(l.rd buses .txDataPort, a), ?_, ?_, by rw [(List.cons.inj hval).1, ← hsuccess]⟩
  · -- the response is neither of the last two accesses
    have hstatus := hp.1
    rw [← haddr, ← hsecond] at hstatus
    refine mem_of_append_eq ht (fun hpa => ?_) fun hpa => ?_
    · rw [hpa, reads_rd] at hstatus
      cases hstatus
    · rw [hpa, reads_wr] at hstatus
      cases hstatus
  · rw [← haddr, ← hsecond, reads_rd]
    rfl

/-- **An honest read.** -/
theorem readHonest_iff {r : Except PECIStatus UInt32} (h : (i3cBlockRead buses b mem).Runs t r) :
    b.ReadHonest t r ↔ b.ReadServed mem t := by
  rcases i3cBlockRead_cases h with ⟨e, rfl, he, hbad, hnone⟩ | ⟨hskip, hadmit⟩ | ⟨hwdata, hrdata, hout⟩
  · refine iff_of_true ⟨fun hs => absurd hs (not_succeeds he), hnone ▸ List.nil_prefix⟩ ⟨fun hne => ?_, .inl hbad⟩
    exact absurd hnone hne
  · refine iff_of_false (fun hh => ?_) fun hs => ?_
    · have hsucceeds : Succeeds r := by
        rw [hskip.1]
        exact fun e he => (Except.error.inj he).symm
      obtain ⟨rest, val, hack, -⟩ := hh.sent hsucceeds
      exact hskip.not_acknowledged (List.cons_ne_nil _ _) hack
    · exact hs.2.elim hskip.2.1 fun hs => hs.elim hskip.2.2.1 fun hs => hadmit hs.1
  · rcases hout with ⟨val, rfl, hok, hstates, hcmds, hdata⟩ | ⟨e, rfl, he, hbad, hpre⟩
    · have hcommands : b.commands t = b.readDescriptors mem t := hcmds
      have hne : b.commands t ≠ [] := by
        rw [hcommands]
        exact List.cons_ne_nil _ _
      have htime := not_timedOut hstates hne
      have hpre : b.commands t <+: b.readDescriptors mem t := by rw [hcommands]
      have hsent : b.data t = leDwords b.readBytes := by
        rw [BlockArgs.readBytes, ← slice_byteOf]
        exact hdata
      constructor
      · intro hh
        obtain ⟨rest, -, hack, -⟩ := hh.sent succeeds_ok
        have hlen : (b.commands t).length = 4 := by rw [hcommands]; rfl
        obtain ⟨-, hrest⟩ := acknowledged_commands hack hlen
        obtain ⟨-, hdrest⟩ := acknowledged_data hack (congrArg List.length hsent)
        obtain ⟨sent, p, ht, hp, -⟩ := hack
        exact ⟨(read_determined_iff hpre).1 hh.determined,
          .inr (.inr ⟨⟨hwdata, hrdata⟩, sent, p, rest, ht, hp, hrest, hdrest⟩)⟩
      · rintro ⟨hzero, hs⟩
        obtain ⟨-, hanswered⟩ := (hs.resolve_left hok).resolve_left htime
        obtain ⟨-, -, rest, -, -, hack⟩ := acknowledged_of_answered hok hanswered
        have hcommands' : b.commands t = b.readCommands t := by
          rw [hcommands, BlockArgs.readDescriptors, (readCommand_eq_iff 0 0 0).2 (hzero hne),
            (readCommand_eq_iff 1 1 1).2 (hzero hne), commandHigh_eq]
          rfl
        rw [hcommands', hsent] at hack
        obtain ⟨buses', enabled, i2cSlavePresent, hlast⟩ := i3cBlockRead_last h
        exact ⟨fun _ => ⟨rest, val, hack, rfl, mem_of_lastRead rfl rfl hlast hack⟩,
          (read_determined_iff hpre).2 hzero⟩
    · refine ⟨fun hh => ⟨(read_determined_iff hpre).1 hh.determined, hbad.imp_right .inl⟩, fun hs => ?_⟩
      exact ⟨fun hs => absurd hs (not_succeeds he), (read_determined_iff hpre).2 hs.1⟩

end Read

/-- **Honest transfers.** In every run of a write and of a read, whatever the accesses answer, the transfer is honest
exactly when it is served. -/
theorem transfers_honest_iff (buses : LpssBuses) (b : BlockArgs) (mem : BlockMemory) :
    (∀ (numbytes : UInt8) (val : UInt32) (t : Transcript) (r : Except PECIStatus Unit),
      (i3cBlockWrite buses b mem numbytes val).Runs t r →
        (b.WriteHonest numbytes val t r ↔ b.WriteServed mem numbytes t)) ∧
    ∀ (t : Transcript) (r : Except PECIStatus UInt32),
      (i3cBlockRead buses b mem).Runs t r → (b.ReadHonest t r ↔ b.ReadServed mem t) :=
  ⟨fun _ _ _ _ h => writeHonest_iff h, fun _ _ h => readHonest_iff h⟩

/-- A transfer to the first slave of the first channel. -/
def sampleArgs : BlockArgs := ⟨0x30, 0xb0, 0, 5, 6, 0x004, 8⟩

/-- Nothing goes wrong in memory. -/
def cleanMemory : BlockMemory := ⟨true, true, ⟨0, 0, 0⟩⟩

/-- An access that succeeds with a value. -/
def good (val : UInt32) : PeciAnswer := ⟨true, val⟩

/-- The answers to a write: the bus number, an enabled controller that is ready, and the status before the response. -/
def writeAnswers (second status : UInt32) : List PeciAnswer :=
  [good 0x40000000, good 0x170000, good 0x80000000, good second, good 9, good 0, good 0, good 0, good 0, good 0,
    good status, good 0]

/-- The answers to a read. -/
def readAnswers (status : UInt32) : List PeciAnswer :=
  [good 0x40000000, good 0x170000, good 0x80000000, good 0, good 0, good 9, good 0, good 0, good 0, good 0, good 0,
    good 0, good status, good 0, good 0xabcd, good 0]

/-- The transcript of an execution. -/
def transcriptOf {β : Type} (x : I3cCode β) (as : List PeciAnswer) : Transcript := (x.exec as).elim [] Prod.fst

theorem runs_transcriptOf {β : Type} {x : I3cCode β} {as : List PeciAnswer} {r : Except PECIStatus β}
    (h : (x.exec as).map Prod.snd = some r) : x.Runs (transcriptOf x as) r := by
  obtain ⟨⟨t, r'⟩, hexec, rfl⟩ := Option.map_eq_some_iff.1 h
  rw [transcriptOf, hexec]
  exact Code.runs_of_exec hexec

/-- A write with these answers. -/
abbrev sampleWrite : I3cCode Unit := i3cBlockWrite (fun _ => 0) sampleArgs cleanMemory 4 0x12345678

/-- A read with these answers. -/
abbrev sampleRead : I3cCode UInt32 := i3cBlockRead (fun _ => 0) sampleArgs cleanMemory

theorem answered_sampleWrite :
    sampleArgs.Answered (transcriptOf sampleWrite (writeAnswers 0x80000000 0x10)) := by
  refine ⟨(transcriptOf sampleWrite (writeAnswers 0x80000000 0x10)).take 10, _,
    (transcriptOf sampleWrite (writeAnswers 0x80000000 0x10)).drop 11, rfl, ⟨rfl, rfl, ?_, ?_⟩, rfl, rfl⟩
  · decide
  · decide

theorem answered_sampleRead : sampleArgs.Answered (transcriptOf sampleRead (readAnswers 0x10)) := by
  refine ⟨(transcriptOf sampleRead (readAnswers 0x10)).take 12, _,
    (transcriptOf sampleRead (readAnswers 0x10)).drop 13, rfl, ⟨rfl, rfl, ?_, ?_⟩, rfl, rfl⟩
  · decide
  · decide

/-- A write and a read that are answered. -/
theorem honest_sample :
    sampleArgs.WriteHonest 4 0x12345678 (transcriptOf sampleWrite (writeAnswers 0x80000000 0x10)) (.ok ()) ∧
      sampleArgs.ReadHonest (transcriptOf sampleRead (readAnswers 0x10)) (.ok 0xabcd) := by
  have hbits : cleanMemory.unassigned.bits = 0 := by decide
  constructor
  · refine ((transfers_honest_iff (fun _ => 0) sampleArgs cleanMemory).1 4 0x12345678 _ _ (runs_transcriptOf rfl)).2 ?_
    exact ⟨fun _ => hbits, .inr (.inr ⟨⟨rfl, rfl, by decide⟩, by decide, answered_sampleWrite⟩)⟩
  · refine ((transfers_honest_iff (fun _ => 0) sampleArgs cleanMemory).2 _ _ (runs_transcriptOf rfl)).2 ?_
    exact ⟨fun _ => hbits, .inr (.inr ⟨⟨rfl, rfl⟩, answered_sampleRead⟩)⟩

/-- A write succeeds and has sent nothing, because the controller is not enabled any more when it is asked again. A read
succeeds although the controller has reported an error. -/
theorem not_honest_sample :
    (sampleWrite.Runs (transcriptOf sampleWrite (writeAnswers 0 0x10)) (.error .success) ∧
      ¬ sampleArgs.WriteHonest 4 0x12345678 (transcriptOf sampleWrite (writeAnswers 0 0x10)) (.error .success)) ∧
    sampleRead.Runs (transcriptOf sampleRead (readAnswers 0x210)) (.ok 0xabcd) ∧
      ¬ sampleArgs.ReadHonest (transcriptOf sampleRead (readAnswers 0x210)) (.ok 0xabcd) := by
  refine ⟨⟨runs_transcriptOf rfl, fun h => ?_⟩, runs_transcriptOf rfl, fun h => ?_⟩
  · obtain ⟨rest, sent, p, ht, hp, -⟩ := h.sent fun e he => (Except.error.inj he).symm
    have hnone : ∀ q ∈ transcriptOf sampleWrite (writeAnswers 0 0x10), ¬ sampleArgs.Responds q := by decide
    exact hnone p (ht ▸ List.mem_append_right _ List.mem_cons_self) hp
  · obtain ⟨rest, -, ⟨sent, p, ht, hp, -⟩, -⟩ := h.sent succeeds_ok
    have hnone : ∀ q ∈ transcriptOf sampleRead (readAnswers 0x210), ¬ sampleArgs.Responds q := by decide
    exact hnone p (ht ▸ List.mem_append_right _ List.mem_cons_self) hp

end BmcNvdimm
