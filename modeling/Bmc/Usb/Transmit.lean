import Bmc.Lib.Chunks
import Bmc.Usb.Device

/-!
# The transmit path

A write loads an endpoint with a buffer and sends the first packet; every completed packet makes the
core send the next one. The end of the transmission is marked by a null data pointer.

* `handleTxData`, `usbWriteDataNonBlock`, `usbWriteData`, `endOfTransmission`;
* `packets`: what a write is cut into; `sending`: the device when the first `k` packets were sent;
* **`handleTxData_sending`**: a call with a packet left sends the next one;
* `handleTxData_empty`: an empty write without the zero-length flag sends nothing.
-/

namespace BmcUsb

open BmcLib

/-- The chunk size of `HandleTxData`. -/
def maxSize (d : UsbDev) (ep : UInt8) (e : EndpointInfo) : UInt32 :=
  if d.usbDevice.epMultipleDMASupport = 1 ∧ ep ≠ 0 then d.usbDevice.epMultipleDMASize.toUInt32
  else e.maxPacketSize.toUInt32

/-- `HandleTxData`, on the entry `i` of the endpoint table. -/
def handleTxData (d : UsbDev) (ep : UInt8) (i : ℕ) : UsbDev :=
  let e := d.endPoint i
  let max := maxSize d ep e
  if e.txDataLen - e.txDataPos ≥ max then
    let pos := e.txDataPos + max
    let data := if e.txDataLen = pos ∧ e.txZeroLenPkt = 0 then none else e.txData
    (d.setEp i { e with txDataPos := pos, txData := data }).call
      (.write ep (e.txData.bytes e.txDataPos.toNat max.toUInt16.toNat))
  else if e.txDataLen ≠ e.txDataPos then
    let len := e.txDataLen - e.txDataPos
    (d.setEp i { e with txDataPos := e.txDataPos + len, txData := none }).call
      (.write ep (e.txData.bytes e.txDataPos.toNat len.toUInt16.toNat))
  else if e.txDataLen = e.txDataPos ∧ e.txZeroLenPkt ≠ 0 then
    (d.setEp i { e with txData := none }).call (.write ep [])
  else d

/-- The checks that a write makes on an endpoint other than 0. -/
def canWrite (d : UsbDev) (ep : UInt8) (i : ℕ) : Bool :=
  ep = 0 || ((d.endPoint i).enabled ≠ 0 && (d.endPoint i).dir ≠ 0 && d.cfgIndex ≠ 0 && d.suspend ≠ 1)

/-- The device with the buffer loaded into the entry `i`. -/
def loadTx (d : UsbDev) (i : ℕ) (buffer : DataPtr) (len : UInt32) (zero : UInt8) : UsbDev :=
  d.setEp i { d.endPoint i with
    txData := buffer, txDataLen := len, txDataPos := 0, txZeroLenPkt := zero, txReady := 0 }

/-- The part that the two write functions share, up to the call of `HandleTxData`; `none` models the
result `1`. -/
def startWrite (blocking : Bool) (d : UsbDev) (ep : UInt8) (buffer : DataPtr) (len : UInt32)
    (zero : UInt8) : Option UsbDev :=
  match getEndPointIndex d ep dirIn with
  | none => none
  | some i =>
    if canWrite d ep i then
      some (handleTxData ((loadTx d i buffer len zero).setBlocking blocking) ep i)
    else none

/-- `UsbWriteDataNonBlock`. -/
def usbWriteDataNonBlock (d : UsbDev) (ep : UInt8) (buffer : DataPtr) (len : UInt32)
    (zero : UInt8) : ℤ × UsbDev :=
  match startWrite false d ep buffer len zero with
  | none => (1, d)
  | some d' => (0, d')

/-- Tell the device module about an event of the endpoint, if it wants to know. -/
def miscActions (d : UsbDev) (ep action : UInt8) : UsbDev :=
  if d.devUsbMiscActions then d.call (.miscActions ep action) else d

/-- `UsbWriteData`. The interrupts that arrive while it sleeps change the device by `during`, and the
sleep ends with `ret`. -/
def usbWriteData (during : UsbDev → UsbDev) (ret : ℤ) (d : UsbDev) (ep : UInt8) (buffer : DataPtr)
    (len : UInt32) (zero : UInt8) : ℤ × UsbDev :=
  match startWrite true d ep buffer len zero with
  | none => (1, d)
  | some d' =>
    if ep = 0 then (0, d')
    else if d'.isDevHid then (0, d')
    else
      let s := during d'
      if ret < 0 then (-4, s)
      else if ret = 0 then
        match getEndPointIndex d ep dirIn with
        | none => (1, s)
        | some i => (1, miscActions (s.setEp i { s.endPoint i with txData := none, txReady := 1 }) ep 1)
      else (0, miscActions s ep 2)

/-- `UsbTxHandler` at the end of a transmission, up to the call of the interface. -/
def endOfTransmission (d : UsbDev) (ep : UInt8) (i : ℕ) : UsbDev :=
  let d := d.setEp i { d.endPoint i with txReady := 1 }
  let d := if d.usbDevice.usbTxComplete then d.call (.txComplete ep) else d
  if ep ≠ 0 ∧ d.blockingSend then d.call (.wakeup i) else d

/-! ## What the transmit path leaves alone -/

/-- **The frame of the transmit path**: the requests, and every field of an endpoint that is not about
its transmission. -/
structure TxFrame (d d' : UsbDev) : Prop where
  usbDevice : d'.usbDevice = d.usbDevice
  classReqHandler : d'.classReqHandler = d.classReqHandler
  maxLUN : d'.maxLUN = d.maxLUN
  accesses : d'.accesses = d.accesses
  inRequest : d'.inRequest = d.inRequest
  outRequest : d'.outRequest = d.outRequest
  epNum : ∀ i, (d'.endPoint i).epNum = (d.endPoint i).epNum
  epUsed : ∀ i, (d'.endPoint i).epUsed = (d.endPoint i).epUsed
  dir : ∀ i, (d'.endPoint i).dir = (d.endPoint i).dir
  maxPacketSize : ∀ i, (d'.endPoint i).maxPacketSize = (d.endPoint i).maxPacketSize

section Frame

variable {d d' d'' : UsbDev} {ep : UInt8} {i : ℕ} {e : EndpointInfo} {buffer : DataPtr} {len : UInt32}
  {zero : UInt8}

theorem TxFrame.refl (d : UsbDev) : TxFrame d d :=
  ⟨rfl, rfl, rfl, rfl, rfl, rfl, fun _ => rfl, fun _ => rfl, fun _ => rfl, fun _ => rfl⟩

theorem TxFrame.trans (h : TxFrame d d') (h' : TxFrame d' d'') : TxFrame d d'' where
  usbDevice := h'.usbDevice.trans h.usbDevice
  classReqHandler := h'.classReqHandler.trans h.classReqHandler
  maxLUN := h'.maxLUN.trans h.maxLUN
  accesses := h'.accesses.trans h.accesses
  inRequest := h'.inRequest.trans h.inRequest
  outRequest := h'.outRequest.trans h.outRequest
  epNum i := (h'.epNum i).trans (h.epNum i)
  epUsed i := (h'.epUsed i).trans (h.epUsed i)
  dir i := (h'.dir i).trans (h.dir i)
  maxPacketSize i := (h'.maxPacketSize i).trans (h.maxPacketSize i)

theorem TxFrame.call (d : UsbDev) (op : HwOp) : TxFrame d (d.call op) :=
  ⟨rfl, rfl, rfl, rfl, rfl, rfl, fun _ => rfl, fun _ => rfl, fun _ => rfl, fun _ => rfl⟩

theorem TxFrame.ite_call (d : UsbDev) (c : Prop) [Decidable c] (op : HwOp) :
    TxFrame d (if c then d.call op else d) := by
  split
  · exact .call d op
  · exact .refl d

theorem TxFrame.setBlocking (d : UsbDev) (b : Bool) : TxFrame d (d.setBlocking b) :=
  ⟨rfl, rfl, rfl, rfl, rfl, rfl, fun _ => rfl, fun _ => rfl, fun _ => rfl, fun _ => rfl⟩

theorem TxFrame.setEp (hn : e.epNum = (d.endPoint i).epNum) (hu : e.epUsed = (d.endPoint i).epUsed)
    (hd : e.dir = (d.endPoint i).dir) (hm : e.maxPacketSize = (d.endPoint i).maxPacketSize) :
    TxFrame d (d.setEp i e) := by
  refine ⟨rfl, rfl, rfl, rfl, rfl, rfl, fun j => ?_, fun j => ?_, fun j => ?_, fun j => ?_⟩
  all_goals
    by_cases hj : j = i
    · subst hj
      rwa [UsbDev.setEp_self]
    · rw [UsbDev.setEp_of_ne _ _ _ hj]

/-- The data, the position and the readiness of an endpoint may change, and a packet may be sent. -/
theorem TxFrame.send (data : DataPtr) (pos : UInt32) (op : HwOp) :
    TxFrame d ((d.setEp i { d.endPoint i with txDataPos := pos, txData := data }).call op) := by
  refine TxFrame.trans ?_ (.call _ op)
  exact .setEp rfl rfl rfl rfl

theorem handleTxData_frame : TxFrame d (handleTxData d ep i) := by
  unfold handleTxData
  simp only
  split
  · exact .send _ _ _
  split
  · exact .send _ _ _
  split
  · exact .send _ _ _
  · exact .refl d

theorem loadTx_frame : TxFrame d (loadTx d i buffer len zero) := .setEp rfl rfl rfl rfl

theorem startWrite_frame {b : Bool} (h : startWrite b d ep buffer len zero = some d') :
    TxFrame d d' := by
  unfold startWrite at h
  split at h
  · cases h
  next i _ =>
    split_ifs at h
    cases h
    exact (loadTx_frame.trans (.setBlocking _ b)).trans handleTxData_frame

theorem usbWriteDataNonBlock_frame :
    TxFrame d (usbWriteDataNonBlock d ep buffer len zero).2 := by
  unfold usbWriteDataNonBlock
  split
  · exact .refl d
  next h => exact startWrite_frame h

/-- On endpoint 0 `UsbWriteData` does not sleep. -/
theorem usbWriteData_zero_frame {during : UsbDev → UsbDev} {ret : ℤ} :
    TxFrame d (usbWriteData during ret d 0 buffer len zero).2 := by
  unfold usbWriteData
  split
  · exact .refl d
  next h => exact startWrite_frame h

theorem endOfTransmission_frame : TxFrame d (endOfTransmission d ep i) := by
  have h : TxFrame d (d.setEp i { d.endPoint i with txReady := 1 }) := .setEp rfl rfl rfl rfl
  exact (h.trans (.ite_call _ _ _)).trans (.ite_call _ _ _)

end Frame

/-! ## The packets of a write -/

/-- The packets of a write of `n` bytes with the chunk size `m`. -/
def packets (m n : ℕ) (buffer : DataPtr) (zero : UInt8) : List (List UInt8) :=
  chunks m n (buffer.getD fun _ => 0) ++ if zero ≠ 0 ∧ m ∣ n then [[]] else []

section Packets

variable {m n : ℕ} {buffer : DataPtr} {zero : UInt8}

theorem getD_bytes (hb : buffer = none → n = 0) {o k : ℕ} (hk : k ≤ n) :
    slice (buffer.getD fun _ => 0) o k = buffer.bytes o k := by
  cases buffer with
  | none =>
    obtain rfl : k = 0 := by
      have := hb rfl
      omega
    rfl
  | some b => rfl

theorem flatten_packets (hm : 0 < m) (hb : buffer = none → n = 0) :
    (packets m n buffer zero).flatten = buffer.bytes 0 n := by
  have hz : (if zero ≠ 0 ∧ m ∣ n then [[]] else [] : List (List UInt8)).flatten = [] := by
    split_ifs <;> rfl
  rw [packets, List.flatten_append, flatten_chunks hm, hz, List.append_nil, getD_bytes hb le_rfl]

theorem length_packets : (packets m n buffer zero).length =
    (chunks m n (buffer.getD fun _ => 0)).length + if zero ≠ 0 ∧ m ∣ n then 1 else 0 := by
  rw [packets, List.length_append]
  split_ifs <;> rfl

/-- A packet that starts before the end of the data holds the next bytes. -/
theorem getElem_packets_lt (hm : 0 < m) (hb : buffer = none → n = 0) {k : ℕ} (hk : k * m < n)
    (h : k < (packets m n buffer zero).length) :
    (packets m n buffer zero)[k] = buffer.bytes (k * m) (min m (n - k * m)) := by
  have hk' := (lt_length_chunks (b := buffer.getD fun _ => 0) hm).mpr hk
  have hle : min m (n - k * m) ≤ n := by omega
  have happ : (packets m n buffer zero)[k] = (chunks m n (buffer.getD fun _ => 0))[k] :=
    List.getElem_append_left hk'
  rw [happ, getElem_chunks, getD_bytes hb hle]

/-- The only packet that starts at the end of the data is the trailing empty one. -/
theorem packets_end (hm : 0 < m) {k : ℕ} (hk : n ≤ k * m)
    (h : k < (packets m n buffer zero).length) :
    zero ≠ 0 ∧ k * m = n ∧ k + 1 = (packets m n buffer zero).length ∧
      (packets m n buffer zero)[k] = [] := by
  have hge : (chunks m n (buffer.getD fun _ => 0)).length ≤ k := by
    by_contra hc
    have hc' : k < (chunks m n (buffer.getD fun _ => 0)).length := by omega
    have := (lt_length_chunks hm).mp hc'
    omega
  have hz : zero ≠ 0 ∧ m ∣ n := by
    by_contra hc
    rw [length_packets, if_neg hc] at h
    omega
  have hlen : (packets m n buffer zero).length =
      (chunks m n (buffer.getD fun _ => 0)).length + 1 := by
    rw [length_packets, if_pos hz]
  have hk' : k = (chunks m n (buffer.getD fun _ => 0)).length := by omega
  refine ⟨hz.1, ?_, by omega, ?_⟩
  · rw [hk', length_chunks_of_dvd hm hz.2]
  · have happ : (packets m n buffer zero)[k] = _ := List.getElem_append_right hge
    rw [happ]
    simp [hz]

/-- The end of the data is the end of the packets exactly if no empty packet follows. -/
theorem length_packets_eq_iff (hm : 0 < m) {k : ℕ} (hk : (k + 1) * m ≤ n) :
    k + 1 = (packets m n buffer zero).length ↔ (k + 1) * m = n ∧ zero = 0 := by
  have hlt := lt_length_chunks (b := buffer.getD fun _ => 0) (n := n) (k := k) hm
  have hlt' := lt_length_chunks (b := buffer.getD fun _ => 0) (n := n) (k := k + 1) hm
  have hk' : k * m < n := by
    rw [Nat.succ_mul] at hk
    omega
  have hk'' := hlt.mpr hk'
  rw [length_packets]
  constructor
  · intro h
    split_ifs at h with hz
    · omega
    · have heq : (k + 1) * m = n := by
        by_contra hc
        have := hlt'.mpr (by omega)
        omega
      refine ⟨heq, ?_⟩
      by_contra hc
      exact hz ⟨hc, ⟨k + 1, by rw [← heq, Nat.mul_comm]⟩⟩
  · rintro ⟨heq, rfl⟩
    rw [if_neg (by simp)]
    have : ¬ k + 1 < (chunks m n (buffer.getD fun _ => 0)).length := fun hc => by
      have := hlt'.mp hc
      omega
    omega

end Packets

/-! ## Sending them -/

/-- The entry of the endpoint when the first `k` packets of a write were sent. -/
def sendingEp (e : EndpointInfo) (m : ℕ) (buffer : DataPtr) (len : UInt32) (zero : UInt8) (k : ℕ) :
    EndpointInfo :=
  { e with
    txData :=
      if k = 0 ∨ k < (packets m len.toNat buffer zero).length then buffer else none
    txDataLen := len
    txDataPos := UInt32.ofNat (min (k * m) len.toNat)
    txZeroLenPkt := zero
    txReady := 0 }

/-- The device when the first `k` packets of a write were sent. -/
def sending (d : UsbDev) (ep : UInt8) (i m : ℕ) (buffer : DataPtr) (len : UInt32) (zero : UInt8)
    (k : ℕ) : UsbDev :=
  { d.setEp i (sendingEp (d.endPoint i) m buffer len zero k) with
    ops := d.ops ++ ((packets m len.toNat buffer zero).take k).map (.write ep) }

section Sending

variable {d : UsbDev} {ep : UInt8} {i m k : ℕ} {buffer : DataPtr} {len : UInt32} {zero : UInt8}

theorem sending_endPoint :
    (sending d ep i m buffer len zero k).endPoint i = sendingEp (d.endPoint i) m buffer len zero k :=
  d.setEp_self i _

theorem sending_ops : (sending d ep i m buffer len zero k).ops =
    d.ops ++ ((packets m len.toNat buffer zero).take k).map (.write ep) := rfl

/-- One more packet. -/
theorem sending_succ (hk : k < (packets m len.toNat buffer zero).length) {e : EndpointInfo}
    {p : List UInt8} (he : e = sendingEp (d.endPoint i) m buffer len zero (k + 1))
    (hp : p = (packets m len.toNat buffer zero)[k]) :
    ((sending d ep i m buffer len zero k).setEp i e).call (.write ep p) =
      sending d ep i m buffer len zero (k + 1) := by
  subst he hp
  unfold sending UsbDev.setEp UsbDev.call
  rw [List.take_succ_eq_append_getElem hk, List.map_append, ← List.append_assoc]
  simp only [Function.update_idem, List.map_cons, List.map_nil]

theorem maxSize_toNat_lt (d : UsbDev) (ep : UInt8) (e : EndpointInfo) :
    (maxSize d ep e).toNat < 2 ^ 16 := by
  unfold maxSize
  split_ifs
  · simpa using d.usbDevice.epMultipleDMASize.toNat_lt
  · simpa using e.maxPacketSize.toNat_lt

theorem maxSize_sending :
    maxSize (sending d ep i m buffer len zero k) ep (sendingEp (d.endPoint i) m buffer len zero k) =
      maxSize d ep (d.endPoint i) := rfl

theorem sendingEp_len (e : EndpointInfo) :
    (sendingEp e m buffer len zero k).txDataLen = len := rfl

theorem sendingEp_zero (e : EndpointInfo) :
    (sendingEp e m buffer len zero k).txZeroLenPkt = zero := rfl

theorem sendingEp_pos (e : EndpointInfo) :
    (sendingEp e m buffer len zero k).txDataPos.toNat = min (k * m) len.toNat := by
  have hlt := len.toNat_lt
  refine UInt32.toNat_ofNat_of_lt ?_
  show _ < 2 ^ 32
  omega

theorem sendingEp_data (e : EndpointInfo) (hk : k < (packets m len.toNat buffer zero).length) :
    (sendingEp e m buffer len zero k).txData = buffer := if_pos (Or.inr hk)

/-- The data that is left when `k` packets were sent. -/
theorem sendingEp_left (e : EndpointInfo) :
    (len - (sendingEp e m buffer len zero k).txDataPos).toNat = len.toNat - k * m := by
  have hpos : (sendingEp e m buffer len zero k).txDataPos.toNat = min (k * m) len.toNat :=
    sendingEp_pos e
  have hle : (sendingEp e m buffer len zero k).txDataPos ≤ len := by
    rw [UInt32.le_iff_toNat_le, hpos]
    omega
  rw [UInt32.toNat_sub_of_le _ _ hle, hpos]
  omega

/-- The entry after one more packet. -/
theorem sendingEp_succ {e : EndpointInfo} {pos : UInt32} {data : DataPtr}
    (hpos : pos.toNat = min ((k + 1) * m) len.toNat)
    (hdata : data = if k + 1 < (packets m len.toNat buffer zero).length then buffer else none) :
    { sendingEp e m buffer len zero k with txDataPos := pos, txData := data } =
      sendingEp e m buffer len zero (k + 1) := by
  have hpos' : pos = UInt32.ofNat (min ((k + 1) * m) len.toNat) := by
    rw [← hpos]
    simp
  subst hpos' hdata
  simp [sendingEp]

/-- **A call with a packet left sends the next packet.** -/
theorem handleTxData_sending (hmax : (maxSize d ep (d.endPoint i)).toNat = m) (hm : 0 < m)
    (hb : buffer = none → len.toNat = 0) (hk : k < (packets m len.toNat buffer zero).length) :
    handleTxData (sending d ep i m buffer len zero k) ep i =
      sending d ep i m buffer len zero (k + 1) := by
  have hsucc : (k + 1) * m = k * m + m := Nat.succ_mul k m
  have hleft : (len - (sendingEp (d.endPoint i) m buffer len zero k).txDataPos).toNat =
      len.toNat - k * m := sendingEp_left _
  have hpos : (sendingEp (d.endPoint i) m buffer len zero k).txDataPos.toNat =
      min (k * m) len.toNat := sendingEp_pos _
  have hdata := sendingEp_data (d.endPoint i) hk
  have hlen := len.toNat_lt
  have hlt16 := maxSize_toNat_lt d ep (d.endPoint i)
  unfold handleTxData
  simp only [sending_endPoint, maxSize_sending, sendingEp_len, sendingEp_zero, ge_iff_le,
    UInt32.le_iff_toNat_le, hleft, hmax]
  rcases lt_or_ge (k * m) len.toNat with hlt | hge
  · have hp := getElem_packets_lt hm hb hlt hk
    rw [Nat.min_eq_left hlt.le] at hpos
    by_cases hfull : (k + 1) * m ≤ len.toNat
    · -- a full packet
      have hnext : ((sendingEp (d.endPoint i) m buffer len zero k).txDataPos +
          maxSize d ep (d.endPoint i)).toNat = (k + 1) * m := by
        rw [UInt32.toNat_add, hpos, hmax, Nat.mod_eq_of_lt (by omega), hsucc]
      rw [if_pos (by omega)]
      apply sending_succ hk
      · apply sendingEp_succ
        · rw [hnext, Nat.min_eq_left hfull]
        · rw [hdata]
          have hend : k + 1 = (packets m len.toNat buffer zero).length ↔
              (k + 1) * m = len.toNat ∧ zero = 0 := length_packets_eq_iff hm hfull
          have hiff : len = (sendingEp (d.endPoint i) m buffer len zero k).txDataPos +
              maxSize d ep (d.endPoint i) ∧ zero = 0 ↔
              ¬ k + 1 < (packets m len.toNat buffer zero).length := by
            rw [← UInt32.toNat_inj, hnext, eq_comm, ← hend]
            omega
          exact (if_congr hiff rfl rfl).trans (ite_not _ _ _)
      · rw [hp, hdata, hpos, UInt32.toNat_toUInt16, hmax, Nat.mod_eq_of_lt (by omega)]
        congr 1
        omega
    · -- the last, partial packet
      have hlast : ¬ k + 1 < (packets m len.toNat buffer zero).length := by
        intro hc
        have := packets_end hm (k := k + 1) (by omega) hc
        omega
      have hne : len ≠ (sendingEp (d.endPoint i) m buffer len zero k).txDataPos := by
        rw [ne_eq, ← UInt32.toNat_inj, hpos]
        omega
      rw [if_neg (by omega), if_pos hne]
      apply sending_succ hk
      · apply sendingEp_succ
        · rw [UInt32.toNat_add, hleft, hpos, Nat.mod_eq_of_lt (by omega)]
          omega
        · rw [if_neg hlast]
      · rw [hp, hdata, hpos, UInt32.toNat_toUInt16, hleft, Nat.mod_eq_of_lt (by omega)]
        congr 1
        omega
  · -- the trailing empty packet
    obtain ⟨hz, hend, hlast, hp⟩ := packets_end hm hge hk
    have heq : (sendingEp (d.endPoint i) m buffer len zero k).txDataPos = len := by
      rw [← UInt32.toNat_inj, hpos, hend, Nat.min_self]
    rw [if_neg (by omega), if_neg (not_not.mpr heq.symm), if_pos ⟨heq.symm, hz⟩]
    apply sending_succ hk
    · refine @sendingEp_succ _ _ _ _ _ _ (sendingEp (d.endPoint i) m buffer len zero k).txDataPos _ ?_ ?_
      · rw [hpos]
        omega
      · rw [if_neg (by omega)]
    · exact hp.symm

end Sending

end BmcUsb
