import Bmc.Nvdimm.Fw

/-!
# The mailbox of a memory module

What the accesses of either transport do to the device: the registers of the mailbox, and the commands
that it sees when the doorbell rings.

* `Register`, `mailboxRegister`: the registers by their place in the mailbox;
* `MailboxOp`: an access that reaches the device; `Mailbox.run`: the registers after accesses, and the
  commands seen;
* `IsCommand`: a command with the doorbell, with `step_command`;
* `run_of_quiet`, `run_seen`, **`run_inputs`**: what other accesses do.
-/

namespace BmcNvdimm

open BmcLib

/-! ## Registers -/

/-- A register of the mailbox. -/
inductive Register where
  | command
  | input (i : Fin 32)
  | status
  | output (i : Fin 32)
  | other
  deriving DecidableEq, Repr

/-- The register at word `w` of the mailbox: one word, the command, four words of nonce, the input
payload, two words of status and the output payload. -/
def mailboxRegister (w : ℕ) : Register :=
  if w = 1 then .command
  else if h : 6 ≤ w ∧ w < 38 then .input ⟨w - 6, by omega⟩
  else if w = 38 then .status
  else if h : 40 ≤ w ∧ w < 72 then .output ⟨w - 40, by omega⟩
  else .other

theorem mailboxRegister_input {i : ℕ} (hi : i < 32) : mailboxRegister (6 + i) = .input ⟨i, hi⟩ := by
  have h1 : ¬ 6 + i = 1 := by omega
  have h2 : 6 ≤ 6 + i ∧ 6 + i < 38 := by omega
  rw [mailboxRegister, if_neg h1, dif_pos h2]
  congr 1
  exact Fin.ext (Nat.add_sub_cancel_left 6 i)

theorem mailboxRegister_output {i : ℕ} (hi : i < 32) :
    mailboxRegister (40 + i) = .output ⟨i, hi⟩ := by
  have h1 : ¬ 40 + i = 1 := by omega
  have h2 : ¬ (6 ≤ 40 + i ∧ 40 + i < 38) := by omega
  have h3 : ¬ 40 + i = 38 := by omega
  have h4 : 40 ≤ 40 + i ∧ 40 + i < 72 := by omega
  rw [mailboxRegister, if_neg h1, dif_neg h2, if_neg h3, dif_pos h4]
  congr 1
  exact Fin.ext (Nat.add_sub_cancel_left 40 i)

/-! ## What the device sees -/

/-- An access as the device sees it: a read that gave a value, or a write that reached the register. -/
inductive MailboxOp where
  | read (r : Register) (value : UInt32)
  | write (r : Register) (value : UInt32)
  deriving DecidableEq, Repr

/-- The access changes no input register and rings no doorbell. -/
def MailboxOp.Quiet : MailboxOp → Prop
  | .read _ _ => True
  | .write (.input _) _ => False
  | .write .command value => doorbell value = false
  | .write _ _ => True

/-- A command as the device sees it when the doorbell rings. -/
structure Seen where
  opcode : UInt8
  subOpcode : UInt8
  input : Fin 32 → UInt32

/-- The device: its input registers, and the commands that it has seen. -/
structure Mailbox where
  input : Fin 32 → UInt32
  seen : List Seen

/-- The bits of a command with the doorbell. -/
def IsCommand (value : UInt32) (opcode subOpcode : UInt8) : Prop :=
  ∀ i < 17, value.toNat.testBit i =
    (opcode.toNat.testBit i || (decide (8 ≤ i) && subOpcode.toNat.testBit (i - 8) || decide (i = 16)))

theorem testBit_byte (b : UInt8) {i : ℕ} (hi : 8 ≤ i) : b.toNat.testBit i = false :=
  Nat.testBit_lt_two_pow (b.toNat_lt.trans_le (Nat.pow_le_pow_right (by decide) hi))

namespace IsCommand

variable {value : UInt32} {opcode subOpcode : UInt8} (h : IsCommand value opcode subOpcode)

include h

theorem doorbell : BmcNvdimm.doorbell value = true := by
  rw [BmcNvdimm.doorbell, h 16 (by decide)]
  simp

theorem opcode_eq : value.toUInt8 = opcode := by
  rw [← UInt8.toNat_inj, UInt32.toNat_toUInt8]
  refine Nat.eq_of_testBit_eq fun i => ?_
  rw [Nat.testBit_mod_two_pow]
  rcases Nat.lt_or_ge i 8 with hi | hi
  · have h8 : ¬ 8 ≤ i := by omega
    have h16 : ¬ i = 16 := by omega
    simp [h i (by omega), hi, h8, h16]
  · rw [testBit_byte _ hi, decide_eq_false (Nat.not_lt.2 hi), Bool.false_and]

theorem subOpcode_eq : (value >>> 8).toUInt8 = subOpcode := by
  rw [← UInt8.toNat_inj, UInt32.toNat_toUInt8, UInt32.toNat_shiftRight]
  refine Nat.eq_of_testBit_eq fun i => ?_
  rw [Nat.testBit_mod_two_pow, show (8 : UInt32).toNat % 32 = 8 from rfl, Nat.testBit_shiftRight]
  rcases Nat.lt_or_ge i 8 with hi | hi
  · have h16 : ¬ 8 + i = 16 := by omega
    rw [h (8 + i) (by omega), testBit_byte opcode (Nat.le_add_right 8 i)]
    simp [hi, h16]
  · rw [testBit_byte _ hi, decide_eq_false (Nat.not_lt.2 hi), Bool.false_and]

end IsCommand

namespace Mailbox

/-- The device after an access. -/
def step (m : Mailbox) : MailboxOp → Mailbox
  | .write (.input i) value => { m with input := Function.update m.input i value }
  | .write .command value =>
    if doorbell value then
      { m with seen := m.seen ++ [⟨value.toUInt8, (value >>> 8).toUInt8, m.input⟩] }
    else m
  | _ => m

/-- The device after several accesses. -/
def run (m : Mailbox) (ops : List MailboxOp) : Mailbox := ops.foldl step m

@[simp] theorem run_nil (m : Mailbox) : m.run [] = m := rfl

@[simp] theorem run_cons (m : Mailbox) (op : MailboxOp) (ops : List MailboxOp) :
    m.run (op :: ops) = (m.step op).run ops := rfl

theorem run_append (m : Mailbox) (ops ops' : List MailboxOp) :
    m.run (ops ++ ops') = (m.run ops).run ops' := List.foldl_append

theorem step_of_quiet {m : Mailbox} {op : MailboxOp} (h : MailboxOp.Quiet op) : m.step op = m := by
  cases op with
  | read r value => rfl
  | write r value =>
    cases r with
    | command =>
      have h' : ¬ doorbell value = true := by
        rw [Bool.not_eq_true]
        exact h
      exact if_neg h'
    | input i => exact h.elim
    | status => rfl
    | output i => rfl
    | other => rfl

theorem run_of_quiet {m : Mailbox} {ops : List MailboxOp} (h : ∀ op ∈ ops, MailboxOp.Quiet op) :
    m.run ops = m := by
  induction ops with
  | nil => rfl
  | cons op ops ih =>
    rw [run_cons, step_of_quiet (h op List.mem_cons_self)]
    exact ih fun op' hop' => h op' (List.mem_cons_of_mem _ hop')

/-- **The doorbell.** The device sees the command with what its input registers hold. -/
theorem step_command {m : Mailbox} {value : UInt32} {opcode subOpcode : UInt8}
    (h : IsCommand value opcode subOpcode) :
    m.step (.write .command value) = { m with seen := m.seen ++ [⟨opcode, subOpcode, m.input⟩] } := by
  rw [step, if_pos h.doorbell, h.opcode_eq, h.subOpcode_eq]

/-- Accesses to other registers than the command show no command. -/
theorem run_seen {m : Mailbox} {ops : List MailboxOp}
    (h : ∀ value, MailboxOp.write .command value ∈ ops → doorbell value = false) :
    (m.run ops).seen = m.seen := by
  induction ops generalizing m with
  | nil => rfl
  | cons op ops ih =>
    rw [run_cons, ih fun value hmem => h value (List.mem_cons_of_mem _ hmem)]
    cases op with
    | read r value => rfl
    | write r value =>
      cases r with
      | command =>
        have hclear : ¬ doorbell value = true := by
          rw [h value List.mem_cons_self]
          decide
        exact congrArg Mailbox.seen (if_neg hclear)
      | input i => rfl
      | status => rfl
      | output i => rfl
      | other => rfl

/-- **Input registers.** Writes to the first `n` input registers leave the others as they were. -/
theorem run_inputs (m : Mailbox) (value : ℕ → UInt32) {n : ℕ} (hn : n ≤ 32) :
    m.run ((List.range n).map fun i => .write (mailboxRegister (6 + i)) (value i)) =
      { m with input := fun i => if i.val < n then value i else m.input i } := by
  induction n with
  | zero => simp
  | succ n ih =>
    rw [List.range_succ, List.map_append, run_append, ih (by omega), List.map_singleton,
      mailboxRegister_input hn]
    refine congrArg (Mailbox.mk · m.seen) ?_
    funext i
    dsimp only
    rcases Nat.lt_trichotomy i.val n with hlt | heq | hgt
    · have hne : i ≠ ⟨n, hn⟩ := fun h => hlt.ne (congrArg Fin.val h)
      rw [Function.update_of_ne hne, if_pos hlt, if_pos (Nat.lt_succ_of_lt hlt)]
    · obtain rfl : i = ⟨n, hn⟩ := Fin.ext heq
      rw [Function.update_self, if_pos (Nat.lt_succ_self n)]
    · have hne : i ≠ ⟨n, hn⟩ := fun h => hgt.ne' (congrArg Fin.val h)
      rw [Function.update_of_ne hne, if_neg (by omega), if_neg (by omega)]

end Mailbox

end BmcNvdimm
