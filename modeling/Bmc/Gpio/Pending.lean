import Mathlib
import Bmc.Gpio.Processes
import Bmc.Gpio.ProcessNodes

/-!
# Pending interrupts of processes

An interrupt on a pin is put into one list for each process that has enabled the pin, `gpiomain_ext.c`. A process reads
its pins in the list as a bitmap, or one by one, and clears them one by one.

* `addGpioInterrupt`, `processGpioIntrExt`, `removeGpioInterrupt`: the list;
* `processPendingGpioInterrupt`, `intGetStatus`: what a process reads;
* `pendingStep`: an event, with the pins that have interrupted;
* `bitmap_iff`: when the bitmap of a process is right; **`pendingExact_iff`**: when all bitmaps of a run are.
-/

namespace BmcGpio

open BmcLib

/-- `pending_gpio_intr_info`. -/
structure PendingEntry where
  gpio : Pin
  state : UInt8
  triggerType : UInt8
  pid : UInt32
  deriving DecidableEq, Repr

/-! ## The list -/

/-- `add_gpio_interrupt`, where `alloc` is what `kmalloc` answers. -/
def addGpioInterrupt (e : PendingEntry) (alloc : Bool) (l : List PendingEntry) : List PendingEntry :=
  if l.any fun f => f.gpio = e.gpio && f.triggerType = e.triggerType && f.pid = e.pid then l
  else if alloc then e :: l
  else l

/-- What an interrupt does for a node. -/
def intrNode (p : Pin) (state triggerType : UInt8) (n : GpioNode) (alloc : Bool) (l : List PendingEntry) :
    List PendingEntry :=
  if n.enabled p then
    addGpioInterrupt { gpio := p, state := state, triggerType := triggerType, pid := n.pid } alloc l
  else l

/-- `process_gpio_intr_ext`, where `alloc` is what `kmalloc` answers for each node. -/
def processGpioIntrExt (p : Pin) (state triggerType : UInt8) (alloc : ℕ → Bool) (nodes : List GpioNode)
    (l : List PendingEntry) : List PendingEntry :=
  nodes.zipIdx.foldl (fun l n => intrNode p state triggerType n.1 (alloc n.2) l) l

/-- `remove_gpio_interrupt` for the process `tgid`. -/
def removeGpioInterrupt (gpioNum : UInt16) (tgid : UInt32) (l : List PendingEntry) : List PendingEntry :=
  l.filter fun e => !(e.gpio.val = gpioNum.toNat && e.pid = tgid)

/-- `status_gpio_interrupt` for the process `tgid`. -/
def statusGpioInterrupt (gpioNum : UInt16) (tgid : UInt32) (l : List PendingEntry) : UInt8 :=
  if l.any fun e => e.gpio.val = gpioNum.toNat && tgid = e.pid then 1 else 0

/-- `isGPIOIntPendingPID`. -/
def isGPIOIntPendingPID (pid : UInt32) (l : List PendingEntry) : Bool := l.any fun e => e.pid = pid

/-- The place of an entry in the bitmap: a byte, and what is stored in it. -/
def PendingEntry.place (e : PendingEntry) : ℕ × UInt8 :=
  let idx := if 8 ≤ e.gpio.val then e.gpio.val / 8 else 0
  (idx, UInt8.ofNat (1 <<< (e.gpio.val - 8 * idx)))

/-- `process_pending_gpio_interrupt`. -/
def processPendingGpioInterrupt (pid : UInt32) (l : List PendingEntry) (triggeredInts : List UInt8) : List UInt8 :=
  l.foldl (fun b e => if e.pid = pid then b.set e.place.1 e.place.2 else b) triggeredInts

/-- The bitmap that `IOCTL_GPIO_INT_WAIT_FOR` copies to a process. -/
def pendingBitmap (pid : UInt32) (l : List PendingEntry) : List UInt8 :=
  processPendingGpioInterrupt pid l (List.replicate 64 0)

/-- The data that `IOCTL_GPIO_INT_GET_STATUS` copies to a process. -/
def intGetStatus (gpioNum : UInt16) (tgid : UInt32) (l : List PendingEntry) : UInt8 :=
  if l.isEmpty then 0 else statusGpioInterrupt gpioNum tgid l

/-- The entries that a system call leaves: those of the pins that it unregisters are removed. -/
def Call.pending (s : Gpio) (l : List PendingEntry) : Call → List PendingEntry
  | .intUnregister pid p copy hwOk =>
    let i := s.headGpioList.findIdx fun n => n.pid = pid && n.enabled p
    if copy = true ∧ i < s.headGpioList.length ∧ ¬ (s.gpioPinList p = 1 ∧ hwOk = false) then
      removeGpioInterrupt (UInt16.ofNat p.val) pid l
    else l
  | .release pid _ =>
    match s.headGpioList[s.headGpioList.findIdx fun n => n.pid = pid]? with
    | none => l
    | some n => ((List.finRange 256).filter fun p => n.enabled p).foldl
        (fun l p => removeGpioInterrupt (UInt16.ofNat p.val) pid l) l
  | _ => l

/-! ## Events -/

/-- What happens to the list: interrupts, `IOCTL_GPIO_INT_CLEAR`, and the calls that register pins. -/
inductive PendingEvent
  | interrupt (p : Pin) (state triggerType : UInt8) (alloc : ℕ → Bool)
  | clear (pid : UInt32) (gpioNum : UInt16) (copy : Bool)
  | call (c : Call)

/-- The driver with the list, and the pins that have interrupted while a process had them enabled, since the process
has cleared or unregistered them. -/
structure PendingRun where
  gpio : Gpio
  pending : List PendingEntry
  raised : UInt32 → Pin → Bool

/-- The driver when it is loaded. -/
def PendingRun.start : PendingRun := ⟨Gpio.start, [], fun _ _ => false⟩

/-- The pins that a call unregisters, if it succeeds: the one that it is about, or those of the node that is freed. -/
def Call.unregisters (s : Gpio) (pid : UInt32) (p : Pin) : Call → Bool
  | .intUnregister pid' p' copy hwOk => pid = pid' && p = p' && (BmcGpio.intUnregister pid' p' copy hwOk s).1 = 0
  | .release pid' _ => pid = pid' && (s.headGpioList.find? fun n => n.pid = pid').any fun n => n.enabled p
  | _ => false

/-- What an event does. -/
def pendingStep (r : PendingRun) : PendingEvent → PendingRun
  | .interrupt p state triggerType alloc =>
    { r with
      pending := processGpioIntrExt p state triggerType alloc r.gpio.headGpioList r.pending
      raised := fun pid q =>
        r.raised pid q || (q = p && r.gpio.headGpioList.any fun n => n.pid = pid && n.enabled p) }
  | .clear pid gpioNum copy =>
    if copy = false then r
    else { r with
      pending := removeGpioInterrupt gpioNum pid r.pending
      raised := fun pid' q => r.raised pid' q && !(q.val = gpioNum.toNat && pid' = pid) }
  | .call c =>
    { gpio := (r.gpio.call c).2
      pending := c.pending r.gpio r.pending
      raised := fun pid p => r.raised pid p && !c.unregisters r.gpio pid p }

/-! ## What is to hold -/

/-- There is an entry of the process for the pin. -/
def PendingFor (l : List PendingEntry) (pid : UInt32) (p : Pin) : Prop := ∃ e ∈ l, e.pid = pid ∧ e.gpio = p

instance (l : List PendingEntry) (pid : UInt32) (p : Pin) : Decidable (PendingFor l pid p) :=
  inferInstanceAs (Decidable (∃ e ∈ l, _))

/-- The bit of a pin. -/
def bitOf (b : List UInt8) (p : Pin) : Bool := (b.getD (p.val / 8) 0).toNat.testBit (p.val % 8)

/-- The bitmap of each process has the pins of its entries, these are the pins that have interrupted, and the status of
each pin is its bit. -/
structure PendingExact (r : PendingRun) : Prop where
  bitmap : ∀ pid p, bitOf (pendingBitmap pid r.pending) p = true ↔ PendingFor r.pending pid p
  raised : ∀ pid p, PendingFor r.pending pid p ↔ r.raised pid p = true
  status : ∀ pid p, intGetStatus (UInt16.ofNat p.val) pid r.pending = 1 ↔
    bitOf (pendingBitmap pid r.pending) p = true

/-- An interrupt gets an entry for each process that has the pin enabled, if there is none, and none of these has an
entry for another pin of its byte. -/
def Recorded (r : PendingRun) : PendingEvent → Prop
  | .interrupt p _ _ alloc => ∀ pid, Owns r.gpio.headGpioList pid p →
      (PendingFor r.pending pid p ∨
        ∃ n ∈ r.gpio.headGpioList.zipIdx, n.1.pid = pid ∧ n.1.enabled p = true ∧ alloc n.2 = true) ∧
      ∀ q, PendingFor r.pending pid q → q.val / 8 = p.val / 8 → q = p
  | _ => True

/-! ## The list of entries -/

variable {l : List PendingEntry} {pid tgid : UInt32} {p q : Pin}

theorem pendingFor_add {e : PendingEntry} {alloc : Bool} : PendingFor (addGpioInterrupt e alloc l) pid q ↔
    PendingFor l pid q ∨ (e.pid = pid ∧ q = e.gpio ∧ alloc = true) := by
  rw [addGpioInterrupt]
  split_ifs with hdup halloc
  · -- there is one
    refine (or_iff_left_of_imp ?_).symm
    rintro ⟨rfl, rfl, -⟩
    obtain ⟨f, hf, hsame⟩ := List.any_eq_true.1 hdup
    simp only [Bool.and_eq_true, decide_eq_true_eq] at hsame
    exact ⟨f, hf, hsame.2, hsame.1.1⟩
  · constructor
    · rintro ⟨f, hf, rfl, rfl⟩
      rcases List.mem_cons.1 hf with rfl | hf
      · exact .inr ⟨rfl, rfl, halloc⟩
      · exact .inl ⟨f, hf, rfl, rfl⟩
    · rintro (⟨f, hf, rfl, rfl⟩ | ⟨rfl, rfl, -⟩)
      · exact ⟨f, List.mem_cons_of_mem e hf, rfl, rfl⟩
      · exact ⟨e, List.mem_cons_self, rfl, rfl⟩
  · exact (or_iff_left_of_imp fun h => absurd h.2.2 halloc).symm

theorem pendingFor_intrNode {state triggerType : UInt8} {n : GpioNode} {alloc : Bool} :
    PendingFor (intrNode p state triggerType n alloc l) pid q ↔
      PendingFor l pid q ∨ (q = p ∧ n.pid = pid ∧ n.enabled p = true ∧ alloc = true) := by
  rw [intrNode]
  split_ifs with hen
  · rw [pendingFor_add]
    refine or_congr_right ?_
    dsimp only
    tauto
  · exact (or_iff_left_of_imp fun h => absurd h.2.2.1 hen).symm

/-- **The entries after an interrupt.** -/
theorem pendingFor_processGpioIntrExt {state triggerType : UInt8} {alloc : ℕ → Bool} {nodes : List GpioNode} :
    PendingFor (processGpioIntrExt p state triggerType alloc nodes l) pid q ↔
      PendingFor l pid q ∨
        (q = p ∧ ∃ n ∈ nodes.zipIdx, n.1.pid = pid ∧ n.1.enabled p = true ∧ alloc n.2 = true) := by
  rw [processGpioIntrExt]
  induction nodes.zipIdx generalizing l with
  | nil => simp
  | cons n ns ih =>
    rw [List.foldl_cons, ih, pendingFor_intrNode]
    simp only [List.mem_cons, exists_eq_or_imp]
    tauto

/-- **The entries after a removal.** -/
theorem pendingFor_remove {gpioNum : UInt16} : PendingFor (removeGpioInterrupt gpioNum tgid l) pid q ↔
    PendingFor l pid q ∧ ¬ (q.val = gpioNum.toNat ∧ pid = tgid) := by
  simp only [PendingFor, removeGpioInterrupt, List.mem_filter, Bool.not_eq_true', Bool.and_eq_false_iff,
    decide_eq_false_iff_not]
  constructor
  · rintro ⟨e, ⟨he, hne⟩, rfl, rfl⟩
    exact ⟨⟨e, he, rfl, rfl⟩, fun h => hne.elim (· h.1) (· h.2)⟩
  · rintro ⟨⟨e, he, rfl, rfl⟩, hne⟩
    exact ⟨e, ⟨he, not_and_or.1 hne⟩, rfl, rfl⟩

theorem toNat_pin (p : Pin) : (UInt16.ofNat p.val).toNat = p.val := by
  have := p.isLt
  rw [UInt16.toNat_ofNat']
  omega

theorem pendingFor_removePin : PendingFor (removeGpioInterrupt (UInt16.ofNat p.val) tgid l) pid q ↔
    PendingFor l pid q ∧ ¬ (pid = tgid ∧ q = p) := by
  rw [pendingFor_remove, toNat_pin, ← Fin.ext_iff, and_comm (a := q = p)]

theorem pendingFor_removePins {pins : List Pin} :
    PendingFor (pins.foldl (fun l p => removeGpioInterrupt (UInt16.ofNat p.val) tgid l) l) pid q ↔
      PendingFor l pid q ∧ ¬ (pid = tgid ∧ q ∈ pins) := by
  induction pins generalizing l with
  | nil => simp
  | cons p pins ih =>
    rw [List.foldl_cons, ih, pendingFor_removePin, List.mem_cons]
    tauto

/-- **The status of a pin.** -/
theorem intGetStatus_eq_one : intGetStatus (UInt16.ofNat p.val) pid l = 1 ↔ PendingFor l pid p := by
  have hany : (l.any fun e => e.gpio.val = (UInt16.ofNat p.val).toNat && pid = e.pid) = true ↔
      PendingFor l pid p := by
    rw [List.any_eq_true]
    refine exists_congr fun e => and_congr_right fun _ => ?_
    rw [Bool.and_eq_true, decide_eq_true_eq, decide_eq_true_eq, toNat_pin, ← Fin.ext_iff, and_comm,
      eq_comm (a := pid)]
  rw [intGetStatus, statusGpioInterrupt]
  cases l with
  | nil => simp [PendingFor]
  | cons e l =>
    rw [List.isEmpty_cons, if_neg Bool.false_ne_true, ← hany]
    split_ifs with h
    · exact iff_of_true rfl h
    · exact iff_of_false (by decide) h

/-! ## The bitmap -/

/-- The entries of a process in the byte of a pin. -/
def entriesIn (pid : UInt32) (p : Pin) (l : List PendingEntry) : List PendingEntry :=
  l.filter fun e => e.pid = pid && e.gpio.val / 8 = p.val / 8

theorem place_eq (e : PendingEntry) : e.place.1 = e.gpio.val / 8 ∧ e.place.2.toNat = 2 ^ (e.gpio.val % 8) := by
  have hidx : (if 8 ≤ e.gpio.val then e.gpio.val / 8 else 0) = e.gpio.val / 8 := by
    split_ifs with h
    · rfl
    · omega
  refine ⟨hidx, ?_⟩
  have hlt : 2 ^ (e.gpio.val % 8) < 2 ^ 8 := Nat.pow_lt_pow_right (by decide) (Nat.mod_lt _ (by decide))
  change (UInt8.ofNat (1 <<< (e.gpio.val - 8 * (if 8 ≤ e.gpio.val then e.gpio.val / 8 else 0)))).toNat = _
  rw [hidx, show e.gpio.val - 8 * (e.gpio.val / 8) = e.gpio.val % 8 by omega, Nat.one_shiftLeft, UInt8.toNat_ofNat']
  exact Nat.mod_eq_of_lt hlt

theorem length_processPending (b : List UInt8) : (processPendingGpioInterrupt pid l b).length = b.length := by
  rw [processPendingGpioInterrupt]
  refine List.foldlRecOn l _ (motive := fun b' : List UInt8 => b'.length = b.length) rfl fun b' hb' e _ => ?_
  split_ifs
  · rw [List.length_set, hb']
  · exact hb'

/-- **A byte of the bitmap holds the bit of the last entry in it, and no other.** -/
theorem bitOf_pendingBitmap : bitOf (pendingBitmap pid l) p =
    (entriesIn pid p l).getLast?.any fun e => e.gpio = p := by
  induction l using List.reverseRecOn with
  | nil =>
    have hp := p.isLt
    have hzero : (List.replicate 64 (0 : UInt8)).getD (p.val / 8) 0 = 0 := by
      rw [List.getD_eq_getElem?_getD, List.getElem?_replicate]
      split_ifs <;> rfl
    change ((List.replicate 64 (0 : UInt8)).getD (p.val / 8) 0).toNat.testBit (p.val % 8) = false
    rw [hzero]
    exact Nat.zero_testBit _
  | append_singleton l e ih =>
    have hlen : p.val / 8 < (pendingBitmap pid l).length := by
      have := p.isLt
      rw [pendingBitmap, length_processPending, List.length_replicate]
      omega
    have hfold : pendingBitmap pid (l ++ [e]) =
        if e.pid = pid then (pendingBitmap pid l).set e.place.1 e.place.2 else pendingBitmap pid l := by
      rw [pendingBitmap, processPendingGpioInterrupt, List.foldl_append]
      rfl
    obtain ⟨hidx, hbyte⟩ := place_eq e
    have hentries : entriesIn pid p (l ++ [e]) = if e.pid = pid ∧ e.gpio.val / 8 = p.val / 8 then
        entriesIn pid p l ++ [e] else entriesIn pid p l := by
      rw [entriesIn, List.filter_append]
      split_ifs with hin
      · rw [List.filter_cons_of_pos (by simpa using hin), List.filter_nil, entriesIn]
      · rw [List.filter_cons_of_neg (by simpa using hin), List.filter_nil, List.append_nil, entriesIn]
    rw [hfold, hentries]
    by_cases hpid : e.pid = pid
    · rw [if_pos hpid]
      by_cases hsame : e.gpio.val / 8 = p.val / 8
      · rw [if_pos ⟨hpid, hsame⟩, bitOf, List.getD_eq_getElem?_getD, hidx, hsame, List.getElem?_set_self hlen,
          List.getLast?_concat, Option.getD_some, Option.any_some, hbyte, Nat.testBit_two_pow]
        refine decide_eq_decide.2 ⟨fun h => Fin.ext ?_, fun h => by rw [h]⟩
        omega
      · rw [if_neg fun h => hsame h.2, bitOf, List.getD_eq_getElem?_getD, hidx, List.getElem?_set_ne hsame,
          ← List.getD_eq_getElem?_getD, ← bitOf, ih]
    · rw [if_neg hpid, if_neg fun h => hpid h.1, ih]

theorem mem_entriesIn {e : PendingEntry} :
    e ∈ entriesIn pid p l ↔ e ∈ l ∧ e.pid = pid ∧ e.gpio.val / 8 = p.val / 8 := by
  rw [entriesIn, List.mem_filter, Bool.and_eq_true, decide_eq_true_eq, decide_eq_true_eq]

/-- **The bitmap of a process is right exactly when no two pins of its entries share a byte.** -/
theorem bitmap_iff : (∀ p, bitOf (pendingBitmap pid l) p = true ↔ PendingFor l pid p) ↔
    ∀ p q, PendingFor l pid p → PendingFor l pid q → q.val / 8 = p.val / 8 → q = p := by
  constructor
  · intro h p q hp hq hbyte
    have hlast := (h p).2 hp
    have hlast' := (h q).2 hq
    rw [bitOf_pendingBitmap, Option.any_eq_true] at hlast hlast'
    obtain ⟨e, he, hep⟩ := hlast
    obtain ⟨f, hf, hfq⟩ := hlast'
    rw [entriesIn, hbyte, ← entriesIn, he] at hf
    obtain rfl := Option.some_inj.1 hf
    exact (of_decide_eq_true hfq).symm.trans (of_decide_eq_true hep)
  · intro h p
    rw [bitOf_pendingBitmap, Option.any_eq_true]
    constructor
    · rintro ⟨e, he, hep⟩
      obtain ⟨hmem, hpid, -⟩ := mem_entriesIn.1 (List.mem_of_getLast? he)
      exact ⟨e, hmem, hpid, of_decide_eq_true hep⟩
    · intro hp
      obtain ⟨e, he, hpid, rfl⟩ := hp
      have hne : entriesIn pid e.gpio l ≠ [] := List.ne_nil_of_mem (mem_entriesIn.2 ⟨he, hpid, rfl⟩)
      refine ⟨_, List.getLast?_eq_some_getLast hne, decide_eq_true ?_⟩
      obtain ⟨hmem, hpid', hbyte⟩ := mem_entriesIn.1 (List.getLast_mem hne)
      exact h _ _ ⟨e, he, hpid, rfl⟩ ⟨_, hmem, hpid', rfl⟩ hbyte

/-! ## Steps -/

variable {r : PendingRun}

/-- The processes of the entries have their pins enabled. -/
def Enabled (r : PendingRun) : Prop := ∀ pid p, PendingFor r.pending pid p → Owns r.gpio.headGpioList pid p

/-- **The entries after a call.** -/
theorem pendingFor_call (h : Enabled r) (c : Call) : PendingFor (c.pending r.gpio r.pending) pid q ↔
    PendingFor r.pending pid q ∧ c.unregisters r.gpio pid q = false := by
  cases c with
  | intUnregister pid' p' copy hwOk =>
    rw [Call.pending, Call.unregisters]
    rcases intUnregister_cases pid' p' copy hwOk r.gpio with ⟨ret, hret, heq, hwhy⟩ |
      ⟨-, hnone, hidx, heq⟩ | ⟨l, n, t, hcopy, -, -, -, hlt, hhw, heq⟩
    · have hno : ¬ (copy = true ∧ r.gpio.headGpioList.findIdx (fun n => n.pid = pid' && n.enabled p') <
          r.gpio.headGpioList.length ∧ ¬ (r.gpio.gpioPinList p' = 1 ∧ hwOk = false)) := by
        rintro ⟨hcopy, -, hhw⟩
        rcases hwhy with hcopy' | ⟨-, hhw'⟩
        · exact Bool.false_ne_true (hcopy'.symm.trans hcopy)
        · exact hhw hhw'
      rw [if_neg hno, heq, decide_eq_false hret, Bool.and_false]
      exact (and_iff_left rfl).symm
    · rw [hidx, if_neg fun h => lt_irrefl _ h.2.1, heq, decide_eq_true rfl, Bool.and_true]
      refine (and_iff_left_of_imp fun hq => ?_).symm
      obtain ⟨n, hn, hown⟩ := h pid q hq
      rw [Bool.and_eq_false_iff, decide_eq_false_iff_not, decide_eq_false_iff_not]
      by_contra hsame
      rw [not_or, not_not, not_not] at hsame
      obtain ⟨rfl, rfl⟩ := hsame
      exact hnone n hn hown
    · rw [if_pos ⟨hcopy, hlt, hhw⟩, heq, decide_eq_true rfl, Bool.and_true, pendingFor_removePin,
        Bool.and_eq_false_iff, decide_eq_false_iff_not, decide_eq_false_iff_not, not_and_or]
  | release pid' hwOk =>
    rw [Call.pending, Call.unregisters]
    rcases release_cases pid' hwOk r.gpio with ⟨-, hnone⟩ | ⟨l, n, t, hsplit, hpid, hl, hidx, -⟩
    · have hidx : r.gpio.headGpioList.findIdx (fun n => n.pid = pid') = r.gpio.headGpioList.length :=
        List.findIdx_eq_length_of_false fun n hn => decide_eq_false (hnone n hn)
      have hfind : r.gpio.headGpioList.find? (fun n => n.pid = pid') = none :=
        List.find?_eq_none.2 fun n hn => by simpa using hnone n hn
      rw [hidx, List.getElem?_eq_none le_rfl, hfind, Option.any_none, Bool.and_false]
      exact (and_iff_left rfl).symm
    · have hget : r.gpio.headGpioList[l.length]? = some n := by
        rw [hsplit, List.getElem?_append_right le_rfl, Nat.sub_self, List.getElem?_cons_zero]
      have hfind : r.gpio.headGpioList.find? (fun n => n.pid = pid') = some n :=
        List.find?_eq_some_iff_append.2
          ⟨decide_eq_true hpid, l, t, hsplit, fun m hm => by simpa using hl m hm⟩
      rw [hidx, hget, hfind, Option.any_some]
      dsimp only
      rw [pendingFor_removePins, List.mem_filter, Bool.and_eq_false_iff, decide_eq_false_iff_not, not_and_or,
        Bool.eq_false_iff]
      simp only [List.mem_finRange, true_and]
  | _ => exact (and_iff_left rfl).symm

/-- **A pin that a call does not unregister stays enabled.** -/
theorem owns_call (c : Call) (hq : Owns r.gpio.headGpioList pid q) (hno : c.unregisters r.gpio pid q = false) :
    Owns (r.gpio.call c).2.headGpioList pid q := by
  cases c with
  | registerSensorInts infos a =>
    rw [Gpio.call, registerSensorInts_nodes]
    exact hq
  | unregisterSensorInts hwOk =>
    rw [Gpio.call, unregisterSensorInts_nodes]
    exact hq
  | registerChassisInts infos a =>
    rw [Gpio.call, registerChassisInts_nodes]
    exact hq
  | unregisterChassisInts hwOk =>
    rw [Gpio.call, unregisterChassisInts_nodes]
    exact hq
  | intRegister pid' comm info a =>
    rw [Gpio.call]
    rcases intRegister_cases pid' comm info a r.gpio with hsame | ⟨_, l, n, t, _, -, -, -, -, -, -, hsplit, heq⟩
    · rw [hsame.nodes]
      exact hq
    · rw [heq]
      refine owns_enable.2 (.inr ?_)
      rcases hsplit with hsplit | ⟨hsplit, hblank⟩
      · rwa [← hsplit]
      · rwa [owns_blank hblank, ← hsplit]
  | intUnregister pid' p' copy hwOk =>
    rw [Gpio.call]
    have hfree : ∀ s : Gpio, Owns s.headGpioList pid q → Owns (s.freeNode (s.headGpioList.findIdx
        fun n => n.pid = pid' && (List.finRange 256).all fun q => !n.enabled q)).headGpioList pid q := by
      intro s hs
      rcases freeNode_cases s pid' with ⟨heq, -⟩ | ⟨l, n, t, hsplit, -, hblank, heq⟩
      · rw [heq]
        exact hs
      · rw [heq]
        rw [hsplit] at hs
        exact (owns_blank hblank).1 hs
    rw [Call.unregisters] at hno
    rcases intUnregister_cases pid' p' copy hwOk r.gpio with ⟨ret, -, heq, -⟩ | ⟨-, -, -, heq⟩ |
      ⟨l, n, t, -, hsplit, hpid, -, -, -, heq⟩
    · rw [heq]
      exact hq
    · rw [heq]
      exact hfree _ hq
    · rw [heq, decide_eq_true rfl, Bool.and_true, Bool.and_eq_false_iff, decide_eq_false_iff_not,
        decide_eq_false_iff_not] at hno
      rw [heq]
      refine hfree { (if r.gpio.gpioPinList p' = 1 then r.gpio.setHw p' false else r.gpio).count p' (· - 1) with
        totalInterruptGpio := r.gpio.totalInterruptGpio - 1, headGpioList := l ++ n.disable p' :: t } ?_
      rw [hsplit, owns_middle] at hq
      refine owns_middle.2 (hq.imp_left ?_)
      rintro ⟨hn, hen⟩
      refine ⟨hn, (enabled_disable n p' q).2 ⟨fun h => ?_, hen⟩⟩
      exact hno.elim (fun h' => h' (hn.symm.trans hpid)) fun h' => h' h
  | release pid' hwOk =>
    rw [Gpio.call]
    rw [Call.unregisters] at hno
    rcases release_cases pid' hwOk r.gpio with ⟨heq, -⟩ | ⟨l, n, t, hsplit, hpid, hl, -, heq⟩
    · rw [heq]
      exact hq
    · rw [heq]
      have hfind : r.gpio.headGpioList.find? (fun n => n.pid = pid') = some n :=
        List.find?_eq_some_iff_append.2
          ⟨decide_eq_true hpid, l, t, hsplit, fun m hm => by simpa using hl m hm⟩
      rw [hfind, Option.any_some, Bool.and_eq_false_iff, decide_eq_false_iff_not] at hno
      rw [hsplit, owns_middle] at hq
      refine hq.resolve_left ?_
      rintro ⟨hn, hen⟩
      rcases hno with hno | hno
      · exact hno (hn.symm.trans hpid)
      · exact Bool.false_ne_true (hno.symm.trans hen)

/-- What is kept by the steps that record their interrupts. -/
structure Tracked (r : PendingRun) : Prop where
  raised : ∀ pid p, PendingFor r.pending pid p ↔ r.raised pid p = true
  apart : ∀ pid p q, PendingFor r.pending pid p → PendingFor r.pending pid q → q.val / 8 = p.val / 8 → q = p
  enabled : Enabled r

theorem pendingExact_iff_tracked (h : Enabled r) : PendingExact r ↔ Tracked r := by
  constructor
  · exact fun hr => ⟨hr.raised, fun pid => bitmap_iff.1 (hr.bitmap pid), h⟩
  · intro hr
    have hbitmap : ∀ pid p, bitOf (pendingBitmap pid r.pending) p = true ↔ PendingFor r.pending pid p :=
      fun pid => bitmap_iff.2 (hr.apart pid)
    exact ⟨hbitmap, hr.raised, fun pid p => by rw [hbitmap, intGetStatus_eq_one]⟩

/-- **Steps.** The processes of the entries have their pins enabled after an event. -/
theorem enabled_step (h : Enabled r) (e : PendingEvent) : Enabled (pendingStep r e) := by
  intro pid q hq
  cases e with
  | interrupt p state triggerType alloc =>
    rcases pendingFor_processGpioIntrExt.1 hq with hq | ⟨rfl, n, hn, hpid, hen, -⟩
    · exact h pid q hq
    · exact ⟨n.1, List.fst_mem_of_mem_zipIdx hn, hpid, hen⟩
  | clear pid' gpioNum copy =>
    rw [pendingStep] at hq ⊢
    split_ifs at hq ⊢
    · exact h pid q hq
    · exact h pid q (pendingFor_remove.1 hq).1
  | call c =>
    obtain ⟨hq, hno⟩ := (pendingFor_call h c).1 hq
    exact owns_call c (h pid q hq) hno

/-- **Steps that record their interrupts.** -/
theorem tracked_step (h : Tracked r) {e : PendingEvent} (he : Recorded r e) : Tracked (pendingStep r e) := by
  refine ⟨fun pid q => ?_, fun pid p q hp hq hbyte => ?_, enabled_step h.enabled e⟩
  · cases e with
    | interrupt p state triggerType alloc =>
      have howns : (r.gpio.headGpioList.any fun n => n.pid = pid && n.enabled p) = true ↔
          Owns r.gpio.headGpioList pid p := by
        simp only [List.any_eq_true, Bool.and_eq_true, decide_eq_true_eq, Owns]
      rw [pendingStep, pendingFor_processGpioIntrExt, h.raised, Bool.or_eq_true, Bool.and_eq_true, howns,
        decide_eq_true_eq, ← h.raised]
      constructor
      · rintro (hq | ⟨rfl, n, hn, hpid, hen, -⟩)
        · exact .inl hq
        · exact .inr ⟨rfl, n.1, List.fst_mem_of_mem_zipIdx hn, hpid, hen⟩
      · rintro (hq | ⟨rfl, hown⟩)
        · exact .inl hq
        · exact (he pid hown).1.imp_right fun hnew => ⟨rfl, hnew⟩
    | clear pid' gpioNum copy =>
      rw [pendingStep]
      split_ifs
      · exact h.raised pid q
      · rw [pendingFor_remove, h.raised, Bool.and_eq_true, Bool.not_eq_true', Bool.and_eq_false_iff,
          decide_eq_false_iff_not, decide_eq_false_iff_not, not_and_or]
    | call c =>
      rw [pendingStep, pendingFor_call h.enabled, h.raised, Bool.and_eq_true, Bool.not_eq_true']
  · cases e with
    | interrupt p' state triggerType alloc =>
      have hnew : ∀ p, PendingFor (pendingStep r (.interrupt p' state triggerType alloc)).pending pid p →
          PendingFor r.pending pid p ∨ p = p' ∧ Owns r.gpio.headGpioList pid p' := by
        intro p hp
        refine (pendingFor_processGpioIntrExt.1 hp).imp_right ?_
        rintro ⟨heq, n, hn, hpid, hen, -⟩
        exact ⟨heq, n.1, List.fst_mem_of_mem_zipIdx hn, hpid, hen⟩
      rcases hnew p hp with hold | ⟨hp', hown⟩
      · rcases hnew q hq with hold' | ⟨rfl, hown⟩
        · exact h.apart pid p q hold hold' hbyte
        · exact ((he pid hown).2 p hold hbyte.symm).symm
      · rcases hnew q hq with hold' | ⟨hq', -⟩
        · exact ((he pid hown).2 q hold' (hp' ▸ hbyte)).trans hp'.symm
        · exact hq'.trans hp'.symm
    | clear pid' gpioNum copy =>
      rw [pendingStep] at hp hq
      split_ifs at hp hq
      · exact h.apart pid p q hp hq hbyte
      · exact h.apart pid p q (pendingFor_remove.1 hp).1 (pendingFor_remove.1 hq).1 hbyte
    | call c =>
      exact h.apart pid p q ((pendingFor_call h.enabled c).1 hp).1 ((pendingFor_call h.enabled c).1 hq).1 hbyte

/-- **An interrupt that is not recorded.** -/
theorem not_tracked_step {e : PendingEvent} (he : ¬ Recorded r e) : ¬ Tracked (pendingStep r e) := by
  intro hnext
  refine he ?_
  cases e with
  | interrupt p state triggerType alloc =>
    intro pid hown
    have hraised : (pendingStep r (.interrupt p state triggerType alloc)).raised pid p = true := by
      obtain ⟨n, hn, hpid, hen⟩ := hown
      rw [pendingStep, Bool.or_eq_true, Bool.and_eq_true, List.any_eq_true]
      exact .inr ⟨decide_eq_true rfl, n, hn, by rw [hen, Bool.and_true]; exact decide_eq_true hpid⟩
    have hp := (hnext.raised pid p).2 hraised
    constructor
    · exact (pendingFor_processGpioIntrExt.1 hp).imp_right fun hnew => hnew.2
    · intro q hq hbyte
      exact hnext.apart pid p q hp (pendingFor_processGpioIntrExt.2 (.inl hq)) hbyte
  | clear pid' gpioNum copy => exact trivial
  | call c => exact trivial

theorem tracked_start : Tracked PendingRun.start where
  raised pid p := by
    refine iff_of_false ?_ Bool.false_ne_true
    rintro ⟨e, he, -⟩
    cases he
  apart pid p q hp := by
    obtain ⟨e, he, -⟩ := hp
    cases he
  enabled pid p hp := by
    obtain ⟨e, he, -⟩ := hp
    cases he

/-- **The bitmaps, the pins that have interrupted and the statuses agree in every state of a run exactly when each
interrupt of the run gets its entries and no two pins of a process share a byte.** -/
theorem pendingExact_iff (events : List PendingEvent) :
    Always pendingStep PendingExact PendingRun.start events ↔
      AllSteps pendingStep Recorded PendingRun.start events := by
  have hgood : ∀ r, Tracked r → PendingExact r := fun r h => (pendingExact_iff_tracked h.enabled).2 h
  have hstep : ∀ r e, Tracked r → Recorded r e → Tracked (pendingStep r e) := fun r e h he => tracked_step h he
  refine always_iff_of_inv hgood hstep (fun r e h he hexact => ?_) tracked_start events
  exact not_tracked_step he ((pendingExact_iff_tracked (enabled_step h.enabled e)).1 hexact)

/-- **A process has registered the pins 1 and 2, and both interrupt: the bit of pin 2 is lost.** -/
theorem not_pendingExact_byte : ¬ Always pendingStep PendingExact PendingRun.start
    [.call (.intRegister 7 ⟨[0x61, 0x62], by decide⟩ (sensorSample 1) { copy := true, hw := true, alloc := true }),
      .call (.intRegister 7 ⟨[0x61, 0x62], by decide⟩ (sensorSample 2) { copy := true, hw := true, alloc := true }),
      .interrupt 1 1 0 fun _ => true, .interrupt 2 1 0 fun _ => true] := by
  intro h
  have hbit := (h.foldl.status 7 2).1
  exact absurd (hbit (by decide)) (by decide)

end BmcGpio
