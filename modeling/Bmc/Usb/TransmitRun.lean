import Bmc.Usb.Control

/-!
# A whole transmission

One write on an endpoint, followed by a call of `UsbTxHandler` for every completed packet.

* `txRun`: the device after a number of completions; `endOps`: what ends a transmission;
* `Transmits`: the packets of a write are its data, in chunks, and the endpoint becomes idle;
* **`startWrite_transmits_iff`**: this holds exactly for the writes with data or the zero-length flag.
-/

namespace BmcUsb

open BmcLib

/-- The device after `k` completed packets. -/
def txRun (ep : UInt8) (k : ℕ) (d : UsbDev) : UsbDev := (fun d => (usbTxHandler d ep).2)^[k] d

/-- The calls at the end of a transmission, before the interface is told. -/
def endOps (hw : UsbHw) (blocking : Bool) (ep : UInt8) (i : ℕ) : List HwOp :=
  (if hw.usbTxComplete then [.txComplete ep] else []) ++
    if ep ≠ 0 ∧ blocking then [.wakeup i] else []

/-- **A transmission.** The write on the entry `i`, made by the device `d`, leaves the device `d₁` and
is sent as `ps`. -/
structure Transmits (blocking : Bool) (d : UsbDev) (ep : UInt8) (i m : ℕ) (buffer : DataPtr)
    (len : UInt32) (zero : UInt8) (d₁ : UsbDev) (ps : List (List UInt8)) : Prop where
  data : ps.flatten = buffer.bytes 0 len.toNat
  full : ∀ p ∈ ps.dropLast, p.length = m
  trailing : ps.getLast? = some [] ↔ zero ≠ 0 ∧ m ∣ len.toNat
  outstanding : ps = [] → (d₁.endPoint i).Idle
  busy : ∀ k < ps.length, ((txRun ep k d₁).endPoint i).txReady = 0 ∧
    (txRun ep k d₁).ops = d.ops ++ (ps.take (k + 1)).map (.write ep)
  done : ∃ e : UsbDev, (e.endPoint i).Idle ∧
    e.ops = d.ops ++ ps.map (.write ep) ++ endOps d.usbDevice blocking ep i ∧
    txRun ep ps.length d₁ = callInterfaceTxHandler e ep

/-! ## The entry of the endpoint -/

theorem getEndPointIndex_congr {d e : UsbDev} {ep dir : UInt8} (hn : e.usbDevice = d.usbDevice)
    (h : ∀ j, (e.endPoint j).epUsed = (d.endPoint j).epUsed ∧
      (e.endPoint j).dir = (d.endPoint j).dir ∧ (e.endPoint j).epNum = (d.endPoint j).epNum) :
    getEndPointIndex e ep dir = getEndPointIndex d ep dir := by
  unfold getEndPointIndex
  rw [hn]
  congr 1
  funext j
  obtain ⟨h1, h2, h3⟩ := h j
  rw [h1, h2, h3]

section Run

variable {blocking : Bool} {d d₁ : UsbDev} {ep : UInt8} {i m k : ℕ} {buffer : DataPtr}
  {len : UInt32} {zero : UInt8}

theorem getEndPointIndex_sending : getEndPointIndex (sending d ep i m buffer len zero k) ep dirIn =
    getEndPointIndex d ep dirIn := by
  refine getEndPointIndex_congr rfl fun j => ?_
  by_cases hj : j = i
  · subst hj
    rw [sending_endPoint]
    exact ⟨rfl, rfl, rfl⟩
  · have h : (sending d ep i m buffer len zero k).endPoint j = d.endPoint j := d.setEp_of_ne i _ hj
    rw [h]
    exact ⟨rfl, rfl, rfl⟩

/-! ## The completions -/

/-- A completion with a packet left sends it. -/
theorem usbTxHandler_sending (hi : getEndPointIndex d ep dirIn = some i)
    (hmax : (maxSize d ep (d.endPoint i)).toNat = m) (hm : 0 < m)
    (hb : buffer = none → len.toNat = 0) (hk0 : 0 < k)
    (hk : k < (packets m len.toNat buffer zero).length) :
    usbTxHandler (sending d ep i m buffer len zero k) ep =
      (1, sending d ep i m buffer len zero (k + 1)) := by
  have hne : buffer ≠ none := by
    rintro rfl
    -- without data there is at most one packet
    have hone : 1 = (packets m len.toNat none zero).length :=
      (packets_end hm (by rw [hb rfl]; omega) (by omega)).2.2.1
    omega
  have hdata : ((sending d ep i m buffer len zero k).endPoint i).txData.isNone = false := by
    rw [sending_endPoint, sendingEp_data _ hk]
    cases buffer with
    | none => exact absurd rfl hne
    | some b => rfl
  unfold usbTxHandler
  rw [getEndPointIndex_sending, hi]
  simp only [hdata, Bool.false_eq_true, if_false]
  rw [handleTxData_sending hmax hm hb hk]

/-- The completion of the last packet ends the transmission. -/
theorem usbTxHandler_sent (hi : getEndPointIndex d ep dirIn = some i)
    (hk : k = (packets m len.toNat buffer zero).length) (hk0 : 0 < k) :
    usbTxHandler (sending d ep i m buffer len zero k) ep =
      (0, callInterfaceTxHandler (endOfTransmission (sending d ep i m buffer len zero k) ep i) ep) := by
  have hdata : ((sending d ep i m buffer len zero k).endPoint i).txData.isNone = true := by
    rw [sending_endPoint, sendingEp]
    simp only
    rw [if_neg (by omega)]
    rfl
  unfold usbTxHandler
  rw [getEndPointIndex_sending, hi]
  simp only [hdata, if_true]

theorem txRun_sending (hi : getEndPointIndex d ep dirIn = some i)
    (hmax : (maxSize d ep (d.endPoint i)).toNat = m) (hm : 0 < m)
    (hb : buffer = none → len.toNat = 0) (hk : k < (packets m len.toNat buffer zero).length) :
    txRun ep k (sending d ep i m buffer len zero 1) = sending d ep i m buffer len zero (k + 1) := by
  induction k with
  | zero => rfl
  | succ k ih =>
    have ih := ih (by omega)
    unfold txRun at ih ⊢
    rw [Function.iterate_succ_apply', ih, usbTxHandler_sending hi hmax hm hb (by omega) hk]

theorem endOfTransmission_idle (hdata : (d.endPoint i).txData = none) :
    ((endOfTransmission d ep i).endPoint i).Idle := by
  have h : (endOfTransmission d ep i).endPoint i = { d.endPoint i with txReady := 1 } := by
    unfold endOfTransmission
    simp only
    split_ifs <;> simp only [UsbDev.call_endPoint, UsbDev.setEp_self]
  rw [h]
  exact ⟨hdata, rfl⟩

theorem ops_ite_call (c : Prop) [Decidable c] (d : UsbDev) (op : HwOp) :
    (if c then d.call op else d).ops = d.ops ++ if c then [op] else [] := by
  split_ifs
  · rfl
  · exact (List.append_nil _).symm

theorem endOfTransmission_ops : (endOfTransmission d ep i).ops =
    d.ops ++ endOps d.usbDevice d.blockingSend ep i := by
  have hblocking : ∀ (c : Prop) [Decidable c] (e : UsbDev) (op : HwOp),
      (if c then e.call op else e).blockingSend = e.blockingSend := fun c _ e op => by
    split_ifs <;> rfl
  unfold endOfTransmission endOps
  simp only [ops_ite_call, hblocking, UsbDev.setEp_ops, List.append_assoc]
  rfl

/-! ## The transmission -/

theorem startWrite_eq (hi : getEndPointIndex d ep dirIn = some i)
    (hstart : startWrite blocking d ep buffer len zero = some d₁) (m : ℕ) :
    d₁ = handleTxData (sending (d.setBlocking blocking) ep i m buffer len zero 0) ep i := by
  have hload : (loadTx d i buffer len zero).setBlocking blocking =
      sending (d.setBlocking blocking) ep i m buffer len zero 0 := by
    simp [loadTx, sending, sendingEp, UsbDev.setEp, UsbDev.setBlocking]
  unfold startWrite at hstart
  rw [hi] at hstart
  simp only at hstart
  split_ifs at hstart with hc
  rw [← hload, Option.some.inj hstart]

/-- A write with data, or with the zero-length flag, has a packet. -/
theorem length_packets_pos (hm : 0 < m) (h : len ≠ 0 ∨ zero ≠ 0) :
    0 < (packets m len.toNat buffer zero).length := by
  rw [length_packets]
  by_cases hlen : len.toNat = 0
  · have hlen' : len = 0 := by
      rw [← UInt32.toNat_inj, hlen]
      rfl
    rw [if_pos ⟨h.resolve_left (not_not.mpr hlen'), by rw [hlen]; exact dvd_zero m⟩]
    omega
  · have := (lt_length_chunks (b := buffer.getD fun _ => 0) (n := len.toNat) (k := 0) hm).mpr
      (by omega)
    omega

theorem length_bytes (hb : buffer = none → len.toNat = 0) {o n : ℕ} (hn : n ≤ len.toNat) :
    (buffer.bytes o n).length = n := by
  cases buffer with
  | none =>
    have := hb rfl
    exact (show n = 0 by omega) ▸ rfl
  | some b => exact length_slice b o n

/-- Every packet but the last one is full. -/
theorem length_packets_full (hm : 0 < m) (hb : buffer = none → len.toNat = 0)
    (hk : k + 1 < (packets m len.toNat buffer zero).length) :
    (packets m len.toNat buffer zero)[k].length = m := by
  have hsucc : (k + 1) * m = k * m + m := Nat.succ_mul k m
  have hlt : (k + 1) * m ≤ len.toNat := by
    by_contra hc
    have := (packets_end hm (by omega) hk).2.1
    omega
  rw [getElem_packets_lt hm hb (by omega), length_bytes hb (by omega)]
  omega

/-- The last packet is empty exactly if the flag is set and the data fills its packets. -/
theorem getLast_packets_iff (hm : 0 < m) (hb : buffer = none → len.toNat = 0) :
    (packets m len.toNat buffer zero).getLast? = some [] ↔ zero ≠ 0 ∧ m ∣ len.toNat := by
  constructor
  · intro h
    rw [List.getLast?_eq_getElem?, List.getElem?_eq_some_iff] at h
    obtain ⟨hk, h⟩ := h
    have hge : len.toNat ≤ ((packets m len.toNat buffer zero).length - 1) * m := by
      by_contra hc
      have hl := congrArg List.length h
      rw [getElem_packets_lt hm hb (by omega), length_bytes hb (by omega)] at hl
      simp at hl
      omega
    obtain ⟨hz, heq, -, -⟩ := packets_end hm hge hk
    exact ⟨hz, Dvd.intro_left _ heq⟩
  · intro h
    rw [packets, if_pos h, List.getLast?_append]
    rfl

/-- An empty write without the flag sends nothing. -/
theorem handleTxData_empty (hmax : 0 < (maxSize d ep (d.endPoint i)).toNat) :
    handleTxData (sending d ep i m buffer 0 0 0) ep i = sending d ep i m buffer 0 0 0 := by
  have hmax' : ¬ (0 : UInt32) - 0 ≥ maxSize d ep (d.endPoint i) := by
    rw [ge_iff_le, UInt32.le_iff_toNat_le, Nat.not_le]
    exact hmax
  have hpos : (sendingEp (d.endPoint i) m buffer 0 0 0).txDataPos = 0 := by
    simp [sendingEp]
  unfold handleTxData
  simp only [sending_endPoint, maxSize_sending, sendingEp_len, sendingEp_zero, hpos]
  rw [if_neg hmax', if_neg (by decide), if_neg (by decide)]

/-- **The packets of a write.** If a packet goes out, all of them do. -/
theorem startWrite_transmits (hi : getEndPointIndex d ep dirIn = some i)
    (hmax : (maxSize d ep (d.endPoint i)).toNat = m) (hm : 0 < m)
    (hb : buffer = none → len.toNat = 0)
    (hstart : startWrite blocking d ep buffer len zero = some d₁) (h : len ≠ 0 ∨ zero ≠ 0) :
    Transmits blocking d ep i m buffer len zero d₁ (packets m len.toNat buffer zero) := by
  have hpos : 0 < (packets m len.toNat buffer zero).length := length_packets_pos hm h
  set d' := d.setBlocking blocking
  have hi' : getEndPointIndex d' ep dirIn = some i := hi
  have hmax' : (maxSize d' ep (d'.endPoint i)).toNat = m := hmax
  have h1 : d₁ = sending d' ep i m buffer len zero 1 := by
    rw [startWrite_eq hi hstart m, handleTxData_sending hmax' hm hb hpos]
  have hrun : ∀ k < (packets m len.toNat buffer zero).length,
      txRun ep k d₁ = sending d' ep i m buffer len zero (k + 1) := fun k hk => by
    rw [h1, txRun_sending hi' hmax' hm hb hk]
  constructor
  case data => exact flatten_packets hm hb
  case full =>
    intro p hp
    obtain ⟨k, hk, rfl⟩ := List.getElem_of_mem hp
    rw [List.getElem_dropLast]
    rw [List.length_dropLast] at hk
    exact length_packets_full hm hb (by omega)
  case trailing => exact getLast_packets_iff hm hb
  case outstanding =>
    intro hc
    rw [hc] at hpos
    exact absurd hpos (lt_irrefl 0)
  case busy =>
    intro k hk
    rw [hrun k hk, sending_endPoint]
    exact ⟨rfl, rfl⟩
  case done =>
    obtain ⟨n, hn⟩ := Nat.exists_eq_succ_of_ne_zero hpos.ne'
    refine ⟨endOfTransmission (sending d' ep i m buffer len zero (n + 1)) ep i, ?_, ?_, ?_⟩
    · apply endOfTransmission_idle
      rw [sending_endPoint, sendingEp]
      exact if_neg (by omega)
    · rw [endOfTransmission_ops, sending_ops, List.take_of_length_le hn.le]
      rfl
    · have hlast := hrun n (by omega)
      unfold txRun at hlast ⊢
      rw [hn, Nat.succ_eq_add_one, Function.iterate_succ_apply', hlast,
        usbTxHandler_sent hi' hn.symm n.succ_pos]

/-- An empty write without the flag leaves the endpoint busy, with nothing to complete. -/
theorem not_transmits_empty (hi : getEndPointIndex d ep dirIn = some i)
    (hm : 0 < (maxSize d ep (d.endPoint i)).toNat)
    (hstart : startWrite blocking d ep buffer 0 0 = some d₁) {ps : List (List UInt8)} :
    ¬ Transmits blocking d ep i m buffer 0 0 d₁ ps := by
  intro h
  have hm' : 0 < (maxSize (d.setBlocking blocking) ep ((d.setBlocking blocking).endPoint i)).toNat :=
    hm
  have h1 : d₁ = sending (d.setBlocking blocking) ep i m buffer 0 0 0 := by
    rw [startWrite_eq hi hstart m, handleTxData_empty hm']
  have hps : ps = [] := by
    by_contra hc
    have h0 := List.length_pos_of_ne_nil hc
    have hops := (h.busy 0 h0).2
    have hnil : (sending (d.setBlocking blocking) ep i m buffer 0 0 0).ops = d.ops := by
      simp [sending, UsbDev.setBlocking]
    rw [txRun, Function.iterate_zero, id, h1, hnil] at hops
    have := congrArg List.length hops
    simp only [List.length_append, List.length_map, List.length_take] at this
    omega
  have hidle := (h.outstanding hps).2
  rw [h1, sending_endPoint] at hidle
  exact absurd (show (0 : UInt8) = 1 from hidle) (by decide)

end Run

/-- **The packets of a write.** A write that is accepted is cut into full packets and a last one, with
a trailing empty packet if the flag asks for it, and each completion sends the next packet until the
endpoint is idle. This fails exactly for empty writes without the flag, which leave the endpoint busy
with no packet outstanding. -/
theorem startWrite_transmits_iff (blocking : Bool) (d d₁ : UsbDev) (ep : UInt8) (i : ℕ)
    (buffer : DataPtr) (len : UInt32) (zero : UInt8) (hi : getEndPointIndex d ep dirIn = some i)
    (hm : 0 < (maxSize d ep (d.endPoint i)).toNat) (hb : buffer = none → len.toNat = 0)
    (hstart : startWrite blocking d ep buffer len zero = some d₁) :
    (∃ ps, Transmits blocking d ep i (maxSize d ep (d.endPoint i)).toNat buffer len zero d₁ ps) ↔
      len ≠ 0 ∨ zero ≠ 0 := by
  constructor
  · rintro ⟨ps, h⟩
    by_contra hc
    obtain ⟨hlen, hzero⟩ := not_or.mp hc
    obtain rfl := not_not.mp hlen
    obtain rfl := not_not.mp hzero
    exact not_transmits_empty hi hm hstart h
  · exact fun h => ⟨_, startWrite_transmits hi rfl hm hb hstart h⟩

theorem startWrite_transmits_iff_two_packets :
    ∃ ps, Transmits true massDevice 1 2 64 (some fun _ => 7) 100 0
      ((startWrite true massDevice 1 (some fun _ => 7) 100 0).getD massDevice) ps :=
  (startWrite_transmits_iff true massDevice _ 1 2 (some fun _ => 7) 100 0 (by decide) (by decide)
    nofun rfl).mpr (by decide)

/-- **An empty write sends nothing and never ends.** -/
theorem startWrite_empty_stays_busy :
    ∃ d₁, startWrite true massDevice 1 (some fun _ => 7) 0 0 = some d₁ ∧
      (massDevice.endPoint 2).Idle ∧
      ¬ ∃ ps, Transmits true massDevice 1 2 64 (some fun _ => 7) 0 0 d₁ ps :=
  ⟨_, rfl, ⟨rfl, rfl⟩, fun ⟨_, h⟩ => not_transmits_empty (by decide) (by decide) rfl h⟩

end BmcUsb
