import Bmc.Boot.FwUpdate

/-!
# The responses to the update commands

* `WellFormedResponse`: a completion code, a header and data that belong together; `ResponseKept`: the response is well formed,
  and depends on the request and the state only;
* `AnswerTests`: the tests of a handler that answers; `Answers`: a request passes them, whatever is behind it in its buffer;
* **`responseKept_iff`**: a response is as it should be exactly when the request is answered.
-/

namespace BmcBoot

open BmcLib

/-! ## What a response should be -/

/-- An access that ends the boot loader: a pointer that is `NULL`, a block that is overrun, or a size below zero. -/
def Access.faults : Access → Bool
  | null => true
  | heap size limit => limit < size
  | request _ size | clear _ size | upload _ size | temp size => 2 ^ 31 ≤ size
  | table .. => false

/-- One of the accesses does. -/
def Handling.faults (h : Handling) : Bool := h.accesses.any Access.faults

/-- A completion code, which is normal exactly when the command has been carried out, the number of the request, its command or
that of a refusal, the length of the data, their checksum, and the data. -/
def WellFormedResponse (crc : List UInt8 → UInt32) (bytes response : List UInt8) (done : Bool) : Prop :=
  ∃ code seqnum command data,
    response = code :: (seqnum ++ command ++ leBytes 2 data.length ++ leBytes 4 (crc data).toNat ++ data) ∧
      seqnum.length = 4 ∧ seqnum = bytes.take 4 ∧ command.length = 2 ∧
      (command = (bytes.drop 4).take 2 ∨ command = [0xFF, 0x00]) ∧ data.length < 65536 ∧
      (code = yafuCCNormal ↔ done = true)

/-- What is done with the bytes of a request. Behind them in the buffer is what earlier requests have left, and in the buffer of
the response what earlier commands have. -/
def handleBytes (c : YafuConfig) (x : YafuInputs) (s : YafuState) (k : YafuCommand) (bytes : List UInt8)
    (behind res : ℕ → UInt8) : Handling :=
  processCommand c x s (store behind 0 bytes) bytes.length res (.yafu k)

/-- There is a response, it is well formed, and nothing that is left in the buffers changes it. -/
structure ResponseKept (c : YafuConfig) (x : YafuInputs) (s : YafuState) (k : YafuCommand) (bytes : List UInt8) : Prop where
  sent : ∀ behind res, (handleBytes c x s k bytes behind res).faults = false
  wellFormed : ∀ behind res, WellFormedResponse x.crc bytes ((handleBytes c x s k bytes behind res).response res)
    (handleBytes c x s k bytes behind res).done
  fresh : ∀ behind behind' res res', (handleBytes c x s k bytes behind res).response res =
    (handleBytes c x s k bytes behind' res').response res'

/-- The names that `AMIYAFUGetBootVars` writes to the temporary sector buffer, and how many bytes of them it sends. -/
def bootVarBuffer (x : YafuInputs) : List UInt8 := (getenvvar x.envBlock).flatMap (· ++ [0])
def bootVarlen (x : YafuInputs) : ℕ :=
  ((getenvvar x.envBlock).map List.length).sum + (UInt8.ofNat (getenvvar x.envBlock).length).toNat

/-- The tests of the handlers that answer. -/
def AnswerTests (c : YafuConfig) (x : YafuInputs) (s : YafuState) (req : ℕ → UInt8) : YafuCommand → Prop
  | .getFMHInfo =>
    x.alloc 0 = true ∧ (fmhScan c x s).error = none ∧ (fmhScan c x s).modules.length ≤ 18 ∧ datalen req = 0
  | .eraseCopyFlash => s.activateFlashStatus = true ∧ chksumMatches x req (datalen req) = true ∧ datalen req = 12
  | .writeMemory =>
    s.activateFlashStatus = true ∧ s.newFirmwareAddr ≠ none ∧ chksumMatches x req (datalen req) = true ∧
      5 ≤ datalen req
  | .getBootConfig =>
    s.activateFlashStatus = true ∧ chksumMatches x req (datalen req) = true ∧ datalen req = 65 ∧
      ∃ value, s.envGet (cString req 12) = some value ∧ value.length + 2 < 65536
  | .setBootConfig =>
    s.activateFlashStatus = true ∧ chksumMatches x req (datalen req) = true ∧ 65 ≤ datalen req ∧
      setBootName req ≠ textBytes "baudrate" ∧ x.envSets = true ∧ x.envSaves = true
  | .getBootVars => s.activateFlashStatus = true ∧ bootVarlen x + 1 < 65536 ∧ (bootVarBuffer x).length < 2 ^ 31
  | .deactivateFlashMode => s.activateFlashStatus = true ∧ datalen req = 0
  | .getRecoverySPIDetails => True
  | .getFlashInfo | .getStatus | .activateFlash | .protectFlash | .resetDevice | .dualImageSup => False

/-- The request has the length of the command and the fields that are echoed, and passes the tests, whatever is behind it; the
variable that it names is the same then. -/
structure Answers (c : YafuConfig) (x : YafuInputs) (s : YafuState) (k : YafuCommand) (bytes : List UInt8) : Prop where
  len : k.len.all (· = bytes.length) = true
  echoed : 6 ≤ bytes.length
  passes : ∀ behind, AnswerTests c x s (store behind 0 bytes) k
  named : k = .getBootConfig → ∀ behind behind', s.envGet (cString (store behind 0 bytes) 12) =
    s.envGet (cString (store behind' 0 bytes) 12)

/-! ## Responses -/

section Responses

variable {crc : List UInt8 → UInt32} {bytes response l : List UInt8} {done : Bool} {h : Handling} {res : ℕ → UInt8}

/-- A response whose last field covers it. -/
theorem response_of_last (ws : List (ℕ × List UInt8)) (hw : h.writes = ws ++ [(0, l)]) (hl : h.length = l.length) :
    h.response res = l := by
  rw [Handling.response, hw, hl, patch, List.foldl_append]
  exact slice_store_same _ 0 l

/-- A byte that no field covers. -/
theorem patch_apply_of_not {ws : List (ℕ × List UInt8)} {i : ℕ} (hi : ∀ w ∈ ws, i < w.1 ∨ w.1 + w.2.length ≤ i) :
    patch res ws i = res i := by
  induction ws generalizing res with
  | nil => rfl
  | cons w ws ih =>
    rw [patch, List.foldl_cons, ← patch, ih fun w' hw' => hi w' (List.mem_cons_of_mem _ hw')]
    rcases hi w List.mem_cons_self with hlt | hle
    · exact store_apply_lt hlt
    · exact store_apply_ge hle

/-- A byte that is sent, and that no field covers. -/
theorem response_stale {i : ℕ} (hi : i < h.length) (hw : ∀ w ∈ h.writes, i < w.1 ∨ w.1 + w.2.length ≤ i) :
    (h.response res)[i]? = some (res i) := by
  rw [Handling.response, slice, List.getElem?_map, List.getElem?_range hi, Option.map_some, Nat.zero_add,
    patch_apply_of_not hw]

/-- The length of a well-formed response, and the length that it tells. -/
theorem wellFormed_length (hwell : WellFormedResponse crc bytes response done) :
    13 ≤ response.length ∧ response.length < 13 + 65536 ∧ response[7]? = some (UInt8.ofNat (response.length - 13)) := by
  obtain ⟨code, seqnum, command, data, rfl, hseqnum, -, hcommand, -, hdata, -⟩ := hwell
  have hlength : (code :: (seqnum ++ command ++ leBytes 2 data.length ++ leBytes 4 (crc data).toNat ++ data)).length =
      13 + data.length := by
    simp only [List.length_cons, List.length_append, length_leBytes, hseqnum, hcommand]
    omega
  refine ⟨by omega, by omega, ?_⟩
  rw [hlength, Nat.add_sub_cancel_left, List.getElem?_cons_succ, List.append_assoc, List.append_assoc,
    List.getElem?_append_right (by simp [hseqnum, hcommand])]
  simp [hseqnum, hcommand, leBytes]

theorem length_yafuHeader {req : ℕ → UInt8} {n : ℕ} {sum : UInt32} : (yafuHeader req n sum l).length = 13 + l.length := by
  rw [yafuHeader]
  simp only [List.length_cons, List.length_append, length_leBytes, length_slice]
  omega

/-- A response that is a header and data. -/
theorem response_of_header {req : ℕ → UInt8} {n : ℕ} {sum : UInt32} (hw : h.writes = [(0, yafuHeader req n sum l)])
    (hl : h.length = 13 + l.length) : h.response res = yafuHeader req n sum l :=
  response_of_last [] hw (hl.trans length_yafuHeader.symm)

end Responses

/-! ## Refusals and answers -/

section Forms

variable {x : YafuInputs} {s : YafuState} {req behind res : ℕ → UInt8} {bytes data : List UInt8} {code : UInt16}
  {done : Bool} {h : Handling}

/-- A handling that ends with a refusal. -/
def Refuses (req : ℕ → UInt8) (h : Handling) : Prop :=
  ∃ ws s code, h.writes = ws ++ (yafuNotAck s req code).writes ∧ h.length = 14

/-- The bytes of a refusal are not well formed: there is no completion code, and the length that is told is none. -/
theorem not_wellFormed_of_refuses (hr : Refuses req h) : ¬ WellFormedResponse x.crc bytes (h.response res) done := by
  obtain ⟨ws, s, code, hw, hl⟩ := hr
  have hlength : (slice req 0 4 ++ [0xFF, 0x00, 0x02, 0x00, 0, 0, 0, 0] ++ leBytes 2 code.toNat).length = 14 := by simp
  intro hwell
  rw [response_of_last ws hw (hl.trans hlength.symm)] at hwell
  have h7 := (wellFormed_length hwell).2.2
  rw [hlength, List.append_assoc, List.getElem?_append_right (by simp)] at h7
  simp at h7

theorem refuses_yafuRefuse : Refuses req (yafuRefuse s req code) := ⟨[], s, code, rfl, rfl⟩

theorem Refuses.after (hr : Refuses req h) (accesses : List Access) : Refuses req (h.after accesses) := hr

theorem Refuses.above (hr : Refuses req h) (ws : List (ℕ × List UInt8)) : Refuses req (h.above ws) := by
  obtain ⟨ws', s, code, hw, hl⟩ := hr
  refine ⟨ws ++ ws', s, code, ?_, hl⟩
  rw [Handling.above, hw, List.append_assoc]

/-- What is not refused has passed the tests. -/
theorem activated_of_not_refuses (hr : ¬ Refuses req (whenActivated s req code h)) :
    s.activateFlashStatus = true ∧ ¬ Refuses req h := by
  rw [whenActivated] at hr
  split_ifs at hr with hactive
  · exact ⟨hactive, hr⟩
  · exact absurd refuses_yafuRefuse hr

theorem chksum_of_not_refuses {n : ℕ} (hr : ¬ Refuses req (whenChksum x s req n h)) :
    chksumMatches x req n = true ∧ ¬ Refuses req h := by
  rw [whenChksum] at hr
  split_ifs at hr with hsum
  · exact ⟨hsum, fun hh => hr (hh.after _)⟩
  · exact absurd (refuses_yafuRefuse.after _) hr

theorem datalen_of_not_refuses {n : ℕ} (hr : ¬ Refuses req (whenDatalen s req n h)) :
    datalen req = n ∧ ¬ Refuses req h := by
  rw [whenDatalen] at hr
  split_ifs at hr with hlen
  · exact ⟨hlen, fun hh => hr (hh.after _)⟩
  · exact absurd (refuses_yafuRefuse.after _) hr

/-- The bytes of an answer. -/
def answerBytes (crc : List UInt8 → UInt32) (bytes data : List UInt8) : List UInt8 :=
  yafuCCNormal :: (bytes.take 4 ++ (bytes.drop 4).take 2 ++ leBytes 2 data.length ++ leBytes 4 (crc data).toNat ++ data)

theorem wellFormed_answerBytes (crc : List UInt8 → UInt32) (hbytes : 6 ≤ bytes.length) (hdata : data.length < 65536) :
    WellFormedResponse crc bytes (answerBytes crc bytes data) true := by
  refine ⟨_, _, _, data, rfl, ?_, rfl, ?_, .inl rfl, hdata, iff_of_true rfl rfl⟩
  · rw [List.length_take, Nat.min_eq_left (by omega)]
  · rw [List.length_take, List.length_drop, Nat.min_eq_left (by omega)]

theorem faults_after {accesses : List Access} : (h.after accesses).faults = (accesses.any Access.faults || h.faults) :=
  List.any_append

/-- A handling that answers with these data. -/
structure AnswersWith (x : YafuInputs) (bytes data : List UInt8) (h : Handling) : Prop where
  sent : h.faults = false
  done : h.done = true
  response : ∀ res, h.response res = answerBytes x.crc bytes data

/-- The header of a handler that tells the length of its data and their checksum. -/
theorem yafuHeader_eq {n : ℕ} {sum : UInt32} (hbytes : 6 ≤ bytes.length) (hn : n = data.length)
    (hsum : sum = x.crc data) : yafuHeader (store behind 0 bytes) n sum data = answerBytes x.crc bytes data := by
  rw [yafuHeader, answerBytes, slice_store_inner _ (by omega), slice_store_inner _ (by omega), List.drop_zero, hn, hsum]

/-- Its answer. -/
theorem answersWith_yafuAnswer {n : ℕ} {sum : UInt32} (hbytes : 6 ≤ bytes.length) (hn : n = data.length)
    (hsum : sum = x.crc data) : AnswersWith x bytes data (yafuAnswer s (store behind 0 bytes) n sum data) :=
  ⟨rfl, rfl, fun _ => (response_of_header rfl rfl).trans (yafuHeader_eq hbytes hn hsum)⟩

/-- The tests before an answer. -/
theorem AnswersWith.after (ha : AnswersWith x bytes data h) {accesses : List Access}
    (haccesses : accesses.any Access.faults = false) : AnswersWith x bytes data (h.after accesses) := by
  refine ⟨?_, ha.done, ha.response⟩
  rw [faults_after, haccesses, ha.sent, Bool.or_self]

theorem AnswersWith.whenActivated (ha : AnswersWith x bytes data h) (hactive : s.activateFlashStatus = true) :
    AnswersWith x bytes data (whenActivated s req code h) := by
  rwa [BmcBoot.whenActivated, if_pos hactive]

theorem AnswersWith.whenChksum (ha : AnswersWith x bytes data h) {n : ℕ} (hn : n < 65536)
    (hsum : chksumMatches x req n = true) : AnswersWith x bytes data (whenChksum x s req n h) := by
  rw [BmcBoot.whenChksum, if_pos hsum]
  refine ha.after ?_
  simp only [List.any_cons, List.any_nil, Access.faults]
  rw [decide_eq_false (show ¬ 2 ^ 31 ≤ n by omega)]
  rfl

theorem AnswersWith.whenDatalen (ha : AnswersWith x bytes data h) {n : ℕ} (hn : datalen req = n) :
    AnswersWith x bytes data (whenDatalen s req n h) := by
  rw [BmcBoot.whenDatalen, if_pos hn]
  exact ha.after rfl

/-- A request that is answered in one way, whatever is behind it. -/
theorem responseKept_of_answers {c : YafuConfig} {k : YafuCommand} (data : List UInt8) (hbytes : 6 ≤ bytes.length)
    (hdata : data.length < 65536)
    (hall : ∀ behind res, AnswersWith x bytes data (handleBytes c x s k bytes behind res)) :
    ResponseKept c x s k bytes := by
  constructor
  · exact fun behind res => (hall behind res).sent
  · intro behind res
    rw [(hall behind res).response, (hall behind res).done]
    exact wellFormed_answerBytes x.crc hbytes hdata
  · intro behind behind' res res'
    rw [(hall behind res).response, (hall behind' res').response]

/-- A header that tells another length. -/
theorem not_wellFormed_header {n : ℕ} {sum : UInt32} (hw : h.writes = [(0, yafuHeader req n sum data)])
    (hl : h.length = 13 + data.length) (hne : UInt8.ofNat n ≠ UInt8.ofNat data.length) :
    ¬ WellFormedResponse x.crc bytes (h.response res) done := by
  intro hwell
  rw [response_of_header hw hl] at hwell
  have h7 := (wellFormed_length hwell).2.2
  rw [length_yafuHeader, Nat.add_sub_cancel_left, yafuHeader, List.getElem?_cons_succ, List.append_assoc, List.append_assoc,
    List.getElem?_append_right (by simp)] at h7
  simp only [List.length_append, length_slice, leBytes] at h7
  exact hne (Option.some.inj h7)

/-- A completion code that is normal, of a command that has been carried out. -/
theorem done_of_header {n : ℕ} {sum : UInt32} (hw : h.writes = [(0, yafuHeader req n sum data)])
    (hl : h.length = 13 + data.length) (hwell : WellFormedResponse x.crc bytes (h.response res) done) : done = true := by
  rw [response_of_header hw hl] at hwell
  obtain ⟨code, _, _, _, hresponse, _, _, _, _, _, hcode⟩ := hwell
  exact hcode.1 (List.cons.inj hresponse).1.symm

/-- The data of a response that is well formed fit. -/
theorem lt_of_header {n : ℕ} {sum : UInt32} (hw : h.writes = [(0, yafuHeader req n sum data)])
    (hl : h.length = 13 + data.length) (hwell : WellFormedResponse x.crc bytes (h.response res) done) :
    data.length < 65536 := by
  have hlt := (wellFormed_length hwell).2.1
  rw [response_of_header hw hl, length_yafuHeader] at hlt
  omega

end Forms

/-! ## The commands -/

section Commands

variable {c : YafuConfig} {x : YafuInputs} {s : YafuState} {k : YafuCommand} {bytes : List UInt8} {behind res : ℕ → UInt8}

theorem handleBytes_of_len (hlen : k.len.all (· = bytes.length) = true) :
    handleBytes c x s k bytes behind res = k.handle c x s (store behind 0 bytes) res := if_pos hlen

/-- A request of another length is answered by a code alone. -/
theorem ResponseKept.len (h : ResponseKept c x s k bytes) : k.len.all (· = bytes.length) = true := by
  by_contra hlen
  have hwell := h.wellFormed (fun _ => 0) (fun _ => 0)
  have hcode : handleBytes c x s k bytes (fun _ => 0) (fun _ => 0) = codeOnly s ccReqInvLen := if_neg hlen
  rw [hcode] at hwell
  have hlong := (wellFormed_length hwell).1
  rw [Handling.response, length_slice] at hlong
  exact absurd (show 13 ≤ 1 from hlong) (by decide)

theorem ResponseKept.not_refuses (h : ResponseKept c x s k bytes) (behind res : ℕ → UInt8) :
    ¬ Refuses (store behind 0 bytes) (k.handle c x s (store behind 0 bytes) res) := by
  have hwell := h.wellFormed behind res
  rw [handleBytes_of_len h.len] at hwell
  exact fun hr => not_wellFormed_of_refuses hr hwell

/-- A byte of the response that is left from earlier. -/
theorem not_kept_of_stale (h : ResponseKept c x s k bytes) (behind : ℕ → UInt8) {i : ℕ}
    (hi : ∀ res, i < (k.handle c x s (store behind 0 bytes) res).length ∧
      ∀ w ∈ (k.handle c x s (store behind 0 bytes) res).writes, i < w.1 ∨ w.1 + w.2.length ≤ i) : False := by
  have hfresh := congrArg (·[i]?) (h.fresh behind behind (fun _ => 0) (fun _ => 1))
  simp only [handleBytes_of_len h.len] at hfresh
  rw [response_stale (hi _).1 (hi _).2, response_stale (hi _).1 (hi _).2] at hfresh
  exact absurd (Option.some.inj hfresh) (by decide)

theorem not_kept_getFlashInfo : ¬ ResponseKept c x s .getFlashInfo bytes := by
  intro h
  have hwell := h.wellFormed (fun _ => 0) (fun _ => 0)
  rw [handleBytes_of_len h.len] at hwell
  have hblocks : c.usedFlashSize / c.eraseBlockSize % 65536 = c.blocks := by
    rw [YafuConfig.usedFlashSize, Nat.mul_div_cancel _ c.block_pos, Nat.mod_eq_of_lt c.blocks_lt]
  have hsize : c.blocks * c.eraseBlockSize % 2 ^ 32 = c.usedFlashSize := Nat.mod_eq_of_lt c.size_lt
  refine not_wellFormed_header rfl rfl ?_ hwell
  rw [hblocks, if_pos hsize]
  simp

theorem not_kept_getStatus : ¬ ResponseKept c x s .getStatus bytes := by
  intro h
  refine not_kept_of_stale h (fun _ => 0) (i := 30) fun res => ⟨show 30 < 86 by decide, fun w hw => ?_⟩
  rcases List.mem_cons.1 hw with rfl | hw
  · exact .inr (by simp [yafuHeader])
  · rw [List.mem_singleton.1 hw]
    exact .inr (by decide)

theorem not_kept_activateFlash : ¬ ResponseKept c x s .activateFlash bytes := by
  intro h
  have hwell := h.wellFormed (fun _ => 0) (fun _ => 0)
  obtain ⟨hsum, hr⟩ := chksum_of_not_refuses (h.not_refuses (fun _ => 0) (fun _ => 0))
  obtain ⟨hlen, -⟩ := datalen_of_not_refuses hr
  rw [handleBytes_of_len h.len, YafuCommand.handle, amiYafuActivateFlashMode, whenChksum, if_pos hsum, whenDatalen,
    if_pos hlen] at hwell
  exact not_wellFormed_header rfl rfl (by decide) hwell

/-- A header without data, where data is announced. -/
theorem stale_of_header {req : ℕ → UInt8} {n : ℕ} {sum : UInt32} :
    ∀ w ∈ [(0, yafuHeader req n sum [])], 13 < w.1 ∨ w.1 + w.2.length ≤ 13 := by
  intro w hw
  rw [List.mem_singleton.1 hw]
  exact .inr (by simp [yafuHeader])

theorem not_kept_protectFlash : ¬ ResponseKept c x s .protectFlash bytes := by
  intro h
  obtain ⟨hactive, hr⟩ := activated_of_not_refuses (h.not_refuses (fun _ => 0) (fun _ => 0))
  obtain ⟨hsum, hr⟩ := chksum_of_not_refuses hr
  obtain ⟨hlen, hr⟩ := datalen_of_not_refuses hr
  have hprotect : x.protectOff = true := by
    by_contra hprotect
    rw [if_neg hprotect] at hr
    exact hr (refuses_yafuRefuse.above _)
  refine not_kept_of_stale h (fun _ => 0) (i := 13) fun res => ?_
  rw [YafuCommand.handle, amiYafuProtectFlash, whenActivated, if_pos hactive, whenChksum, if_pos hsum, whenDatalen,
    if_pos hlen, if_pos hprotect]
  exact ⟨show 13 < 14 by decide, stale_of_header⟩

theorem not_kept_resetDevice : ¬ ResponseKept c x s .resetDevice bytes := by
  intro h
  obtain ⟨hsum, hr⟩ := chksum_of_not_refuses (h.not_refuses (fun _ => 0) (fun _ => 0))
  obtain ⟨hlen, -⟩ := datalen_of_not_refuses hr
  refine not_kept_of_stale h (fun _ => 0) (i := 13) fun res => ?_
  rw [YafuCommand.handle, amiYafuResetDevice, whenChksum, if_pos hsum, whenDatalen, if_pos hlen]
  exact ⟨show 13 < 14 by decide, stale_of_header⟩

theorem not_kept_dualImageSup : ¬ ResponseKept c x s .dualImageSup bytes := by
  intro h
  by_cases hsum : chksumMatches x (store (fun _ => 0) 0 bytes) (datalen (store (fun _ => 0) 0 bytes)) = true
  · refine not_kept_of_stale h (fun _ => 0) (i := 1) fun res => ?_
    rw [YafuCommand.handle, amiYafuDualImgSup, if_pos hsum]
    exact ⟨show 1 < 13 by decide, fun w hw => by rw [List.mem_singleton.1 hw]; exact .inr (by decide)⟩
  · refine not_kept_of_stale h (fun _ => 0) (i := 0) fun res => ?_
    rw [YafuCommand.handle, amiYafuDualImgSup, if_neg hsum]
    exact ⟨show 0 < 18 by decide, fun w hw => absurd hw List.not_mem_nil⟩

/-! ## What is not refused -/

/-- A checksum that matches whatever is behind the request covers a field of the request. -/
theorem length_of_chksum
    (hsum : ∀ behind, chksumMatches x (store behind 0 bytes) (datalen (store behind 0 bytes)) = true) :
    12 ≤ bytes.length := by
  by_contra hshort
  -- two requests that differ in the last byte of the checksum only
  have hlast : ∀ b : UInt8, store (fun i => if i = 11 then b else 0) 0 bytes 11 = b := by
    intro b
    rw [store_apply_ge (by omega), if_pos rfl]
  have hrest : ∀ (b : UInt8) (i : ℕ), i ≠ 11 →
      store (fun i => if i = 11 then b else 0) 0 bytes i = store (fun _ => 0) 0 bytes i := by
    intro b i hi
    rw [store_zero_apply, store_zero_apply, if_neg hi]
  have hfield : ∀ b : UInt8, x.crc (slice (store (fun _ => 0) 0 bytes) 12 (datalen (store (fun _ => 0) 0 bytes))) =
      UInt32.ofNat (leNat (slice (store (fun _ => 0) 0 bytes) 8 3 ++ [b])) := by
    intro b
    have hlen : datalen (store (fun i => if i = 11 then b else 0) 0 bytes) = datalen (store (fun _ => 0) 0 bytes) :=
      congrArg leNat (slice_congr fun i _ hlt => hrest b i (by omega))
    have hmatch := of_decide_eq_true (hsum fun i => if i = 11 then b else 0)
    rw [hlen, slice_congr fun i hle _ => hrest b i (by omega), field32, slice_add _ 8 3 1,
      slice_congr (m := store (fun i => if i = 11 then b else 0) 0 bytes) (o := 8) fun i _ hlt => hrest b i (by omega)] at hmatch
    rw [hmatch]
    congr 3
    simp [slice, hlast b]
  have heq := (hfield 0).symm.trans (hfield 1)
  rw [leNat_append, leNat_append, length_slice] at heq
  have hlt := leNat_lt (slice (store (fun _ => 0) 0 bytes) 8 3)
  rw [length_slice] at hlt
  have heq' := congrArg UInt32.toNat heq
  simp [UInt32.toNat_ofNat'] at heq' hlt
  omega

/-- The handler ends. -/
theorem ResponseKept.handled (h : ResponseKept c x s k bytes) (behind res : ℕ → UInt8) :
    (k.handle c x s (store behind 0 bytes) res).faults = false := by
  have hsent := h.sent behind res
  rwa [handleBytes_of_len h.len] at hsent

theorem ResponseKept.handledWell (h : ResponseKept c x s k bytes) (behind res : ℕ → UInt8) :
    WellFormedResponse x.crc bytes ((k.handle c x s (store behind 0 bytes) res).response res)
      (k.handle c x s (store behind 0 bytes) res).done := by
  have hwell := h.wellFormed behind res
  rwa [handleBytes_of_len h.len] at hwell

/-- A difference that is a size of a part of a request. -/
theorem sizeT_of_le {n k : ℕ} (hn : n < 65536) (hk : k ≤ n) : sizeT n k = n - k := by
  rw [sizeT]
  omega

/-- A size below zero. -/
theorem sizeT_of_lt {n k : ℕ} (hn : n < k) (hk : k ≤ 2 ^ 32) : 2 ^ 32 - k ≤ sizeT n k := by
  rw [sizeT]
  omega

/-- It ends the boot loader. -/
theorem le_of_not_faults {n k : ℕ} (hk : k < 65536) (hsize : ¬ 2 ^ 31 ≤ sizeT n k) : k ≤ n := by
  by_contra hlt
  have hlarge := sizeT_of_lt (Nat.not_le.1 hlt) (by omega)
  omega

/-- A text ends in its buffer. -/
theorem length_cString_le (m : ℕ → UInt8) (o : ℕ) : (cString m o).length ≤ 65536 := by
  refine (List.takeWhile_sublist _).length_le.trans ?_
  rw [length_slice]
  omega

theorem datalen_lt (req : ℕ → UInt8) : datalen req < 65536 := by
  have hlt := leNat_lt (slice req 6 2)
  rwa [length_slice] at hlt

theorem passes_getFMHInfo (h : ResponseKept c x s .getFMHInfo bytes) (behind : ℕ → UInt8) :
    AnswerTests c x s (store behind 0 bytes) .getFMHInfo := by
  have halloc : x.alloc 0 = true := by
    by_contra halloc
    refine not_kept_of_stale h behind (i := 0) fun res => ?_
    rw [YafuCommand.handle, amiYafuGetFMHInfo, if_pos (by simp [halloc])]
    exact ⟨show 0 < 2 ^ 32 - 1 by decide, fun w hw => .inl (by rw [List.mem_singleton.1 hw]; decide)⟩
  have hhandle : ∀ res, YafuCommand.getFMHInfo.handle c x s (store behind 0 bytes) res =
      amiYafuGetFMHInfo c x s (store behind 0 bytes) := fun _ => rfl
  have hr := h.not_refuses behind (fun _ => 0)
  have hsent := h.handled behind (fun _ => 0)
  have hwell := h.handledWell behind (fun _ => 0)
  rw [hhandle, amiYafuGetFMHInfo, if_neg (by simp [halloc])] at hr hsent hwell
  cases herror : (fmhScan c x s).error with
  | some code =>
    simp only [herror] at hr
    exact absurd ((Refuses.after ⟨[], _, _, rfl, rfl⟩ _).above _) hr
  | none =>
    simp only [herror] at hsent hwell
    have hlen : datalen (store behind 0 bytes) = 0 := by
      by_contra hlen
      rw [if_pos hlen] at hwell
      have hlong := (wellFormed_length hwell).1
      rw [Handling.response, length_slice] at hlong
      exact absurd (show 13 ≤ 1 from hlong) (by decide)
    refine ⟨halloc, herror, ?_, hlen⟩
    rw [if_neg (not_not_intro hlen), faults_after, Bool.or_eq_false_iff] at hsent
    have hsize := hsent.1
    simp only [List.any_cons, Access.faults, Bool.or_eq_false_iff, decide_eq_false_iff_not] at hsize
    omega

theorem passes_writeMemory (h : ResponseKept c x s .writeMemory bytes) (behind : ℕ → UInt8) :
    AnswerTests c x s (store behind 0 bytes) .writeMemory := by
  obtain ⟨hactive, hr⟩ := activated_of_not_refuses (h.not_refuses behind (fun _ => 0))
  obtain ⟨hsum, -⟩ := chksum_of_not_refuses hr
  have hsent := h.handled behind (fun _ => 0)
  rw [YafuCommand.handle, amiYafuWriteMemory, whenActivated, if_pos hactive, whenChksum, if_pos hsum, faults_after,
    Bool.or_eq_false_iff] at hsent
  cases haddr : s.newFirmwareAddr with
  | none =>
    rw [haddr] at hsent
    exact absurd (show true = false from hsent.2) (by decide)
  | some addr =>
    rw [haddr] at hsent
    have hsize := hsent.2
    dsimp only at hsize
    rw [faults_after, Bool.or_eq_false_iff] at hsize
    have hsize := hsize.1
    simp only [List.any_cons, Access.faults, Bool.or_eq_false_iff, decide_eq_false_iff_not] at hsize
    exact ⟨hactive, fun hnone => absurd (haddr.symm.trans hnone) (Option.some_ne_none _), hsum,
      le_of_not_faults (by decide) hsize.2.1⟩

/-- The variable whose value is sent. -/
theorem response_getBootConfig (h : ResponseKept c x s .getBootConfig bytes) (behind : ℕ → UInt8) :
    s.activateFlashStatus = true ∧ chksumMatches x (store behind 0 bytes) (datalen (store behind 0 bytes)) = true ∧
      datalen (store behind 0 bytes) = 65 ∧ ∃ value, s.envGet (cString (store behind 0 bytes) 12) = some value ∧
        value.length + 2 < 65536 ∧ ∀ res, (handleBytes c x s .getBootConfig bytes behind res).response res =
          yafuHeader (store behind 0 bytes) (value.length + 2)
            (x.crc ((0x01 :: (value ++ [0])).take ((value.length + 2) % 65536))) (0x01 :: (value ++ [0])) := by
  obtain ⟨hactive, hr⟩ := activated_of_not_refuses (h.not_refuses behind (fun _ => 0))
  obtain ⟨hsum, hr⟩ := chksum_of_not_refuses hr
  obtain ⟨hlen, -⟩ := datalen_of_not_refuses hr
  refine ⟨hactive, hsum, hlen, ?_⟩
  have hsent := h.handled behind (fun _ => 0)
  have hwell := h.handledWell behind (fun _ => 0)
  simp only [handleBytes_of_len h.len]
  simp only [YafuCommand.handle, amiYafuGetBootConfig, whenActivated, if_pos hactive, whenChksum, if_pos hsum, whenDatalen,
    if_pos hlen] at hsent hwell ⊢
  cases hvalue : s.envGet (cString (store behind 0 bytes) 12) with
  | none =>
    rw [hvalue, faults_after, faults_after] at hsent
    simp [Handling.faults, Access.faults] at hsent
  | some value =>
    rw [hvalue] at hwell
    have hlt := lt_of_header rfl rfl hwell
    exact ⟨value, rfl, by simpa using hlt, fun res => response_of_header rfl rfl⟩

theorem passes_setBootConfig (h : ResponseKept c x s .setBootConfig bytes) (behind : ℕ → UInt8) :
    AnswerTests c x s (store behind 0 bytes) .setBootConfig := by
  obtain ⟨hactive, hr⟩ := activated_of_not_refuses (h.not_refuses behind (fun _ => 0))
  obtain ⟨hsum, -⟩ := chksum_of_not_refuses hr
  have hsent := h.handled behind (fun _ => 0)
  have hwell := h.handledWell behind (fun _ => 0)
  rw [YafuCommand.handle, amiYafuSetBootConfig, whenActivated, if_pos hactive, whenChksum, if_pos hsum] at hsent hwell
  rw [faults_after, Bool.or_eq_false_iff] at hsent
  have hsize := hsent.2
  simp only [Handling.faults, List.any_cons, Access.faults, Bool.or_eq_false_iff, decide_eq_false_iff_not] at hsize
  have hdone := done_of_header rfl rfl hwell
  simp only [Handling.after, Bool.and_eq_true, Bool.not_eq_true', decide_eq_false_iff_not] at hdone
  exact ⟨hactive, hsum, le_of_not_faults (by decide) hsize.2.1, hdone.1.1, hdone.1.2, hdone.2⟩

/-- The data of `AMIYAFUGetBootVars`. -/
def bootVarData (x : YafuInputs) : List UInt8 :=
  UInt8.ofNat (getenvvar x.envBlock).length :: (bootVarBuffer x).take (bootVarlen x)

theorem length_bootVarData (x : YafuInputs) : (bootVarData x).length = bootVarlen x + 1 := by
  have hbuffer : (bootVarBuffer x).length = ((getenvvar x.envBlock).map List.length).sum + (getenvvar x.envBlock).length := by
    rw [bootVarBuffer, List.length_flatMap]
    simp [List.sum_map_add]
  have hcount : (UInt8.ofNat (getenvvar x.envBlock).length).toNat ≤ (getenvvar x.envBlock).length := by
    rw [UInt8.toNat_ofNat']
    exact Nat.mod_le _ _
  rw [bootVarData, List.length_cons, List.length_take, Nat.min_eq_left]
  rw [hbuffer, bootVarlen]
  omega

theorem response_getBootVars (h : ResponseKept c x s .getBootVars bytes) (behind : ℕ → UInt8) :
    AnswerTests c x s (store behind 0 bytes) .getBootVars ∧
      ∀ res, (handleBytes c x s .getBootVars bytes behind res).response res =
        yafuHeader (store behind 0 bytes) (bootVarlen x + 1) (x.crc ((bootVarData x).take ((bootVarlen x + 1) % 65536)))
          (bootVarData x) := by
  obtain ⟨hactive, -⟩ := activated_of_not_refuses (h.not_refuses behind (fun _ => 0))
  have hsent := h.handled behind (fun _ => 0)
  have hwell := h.handledWell behind (fun _ => 0)
  simp only [handleBytes_of_len h.len]
  simp only [YafuCommand.handle, amiYafuGetBootVars, whenActivated, if_pos hactive] at hsent hwell ⊢
  have hlt : (bootVarData x).length < 65536 := lt_of_header rfl rfl hwell
  rw [length_bootVarData] at hlt
  rw [faults_after, Bool.or_eq_false_iff] at hsent
  have hsize := hsent.1
  simp only [List.any_cons, Access.faults, Bool.or_eq_false_iff, decide_eq_false_iff_not] at hsize
  exact ⟨⟨hactive, hlt, Nat.not_le.1 hsize.1⟩, fun res => response_of_header rfl rfl⟩

/-- **What is as it should be passes the tests**, whatever is behind the request. -/
theorem ResponseKept.passes (h : ResponseKept c x s k bytes) (behind : ℕ → UInt8) :
    AnswerTests c x s (store behind 0 bytes) k := by
  cases k with
  | getFlashInfo => exact not_kept_getFlashInfo h
  | getFMHInfo => exact passes_getFMHInfo h behind
  | getStatus => exact not_kept_getStatus h
  | activateFlash => exact not_kept_activateFlash h
  | protectFlash => exact not_kept_protectFlash h
  | eraseCopyFlash =>
    obtain ⟨hactive, hr⟩ := activated_of_not_refuses (h.not_refuses behind (fun _ => 0))
    obtain ⟨hsum, hr⟩ := chksum_of_not_refuses hr
    exact ⟨hactive, hsum, (datalen_of_not_refuses hr).1⟩
  | writeMemory => exact passes_writeMemory h behind
  | getBootConfig =>
    obtain ⟨hactive, hsum, hlen, value, hvalue, hlt, -⟩ := response_getBootConfig h behind
    exact ⟨hactive, hsum, hlen, value, hvalue, hlt⟩
  | setBootConfig => exact passes_setBootConfig h behind
  | getBootVars => exact (response_getBootVars h behind).1
  | deactivateFlashMode =>
    obtain ⟨hactive, hr⟩ := activated_of_not_refuses (h.not_refuses behind (fun _ => 0))
    exact ⟨hactive, (datalen_of_not_refuses hr).1⟩
  | resetDevice => exact not_kept_resetDevice h
  | dualImageSup => exact not_kept_dualImageSup h
  | getRecoverySPIDetails => trivial

/-- The number and the command that are echoed have been received. -/
theorem ResponseKept.echoed (h : ResponseKept c x s k bytes) : 6 ≤ bytes.length := by
  have hlen := h.len
  cases k with
  | writeMemory => exact le_trans (by decide) (length_of_chksum fun behind => (h.passes behind).2.2.1)
  | setBootConfig => exact le_trans (by decide) (length_of_chksum fun behind => (h.passes behind).2.1)
  | getBootVars =>
    by_contra hshort
    have hfresh := h.fresh (fun _ => 0) (fun _ => 1) (fun _ => 0) (fun _ => 0)
    rw [(response_getBootVars h _).2, (response_getBootVars h _).2] at hfresh
    -- the second byte of the command
    have hbyte := congrArg (·[6]?) hfresh
    simp only [yafuHeader, slice, List.range_succ, List.range_zero, List.nil_append, List.map_cons, List.map_nil,
      List.cons_append, List.getElem?_cons_succ, List.getElem?_cons_zero] at hbyte
    rw [store_apply_ge (by omega), store_apply_ge (by omega)] at hbyte
    exact absurd hbyte (by decide)
  | _ => simp [YafuCommand.len] at hlen; omega

/-- The variable that the request names is the same, whatever is behind it. -/
theorem named_of_kept (h : ResponseKept c x s .getBootConfig bytes) (behind behind' : ℕ → UInt8) :
    s.envGet (cString (store behind 0 bytes) 12) = s.envGet (cString (store behind' 0 bytes) 12) := by
  obtain ⟨-, -, -, value, hvalue, -, hresponse⟩ := response_getBootConfig h behind
  obtain ⟨-, -, -, value', hvalue', -, hresponse'⟩ := response_getBootConfig h behind'
  have hfresh := h.fresh behind behind' (fun _ => 0) (fun _ => 0)
  rw [hresponse, hresponse'] at hfresh
  -- the data of the two responses
  have hdata := (List.append_inj (List.cons.inj hfresh).2 (by simp)).2
  rw [hvalue, hvalue', List.append_cancel_right (List.cons.inj hdata).2]

/-! ## What is answered -/

theorem crc_take {data : List UInt8} {n : ℕ} (hn : n = data.length) (hlt : n < 65536) :
    x.crc (data.take (n % 65536)) = x.crc data := by
  rw [Nat.mod_eq_of_lt hlt, hn, List.take_length]

theorem length_of_mem_modules : ∀ m ∈ (fmhScan c x s).modules, m.length = 64 := by
  refine List.foldlRecOn (motive := fun scan : FMHScan => ∀ m ∈ scan.modules, m.length = 64) _ _
    (fun m hm => absurd hm List.not_mem_nil) fun scan hscan i _ => ?_
  have hadd : ∀ o, ∀ m ∈ (scan.add (slice x.flash o 64)).modules, m.length = 64 := by
    intro o m hm
    rw [FMHScan.add] at hm
    split_ifs at hm
    · rcases List.mem_append.1 hm with hm | hm
      · exact hscan m hm
      · rw [List.mem_singleton.1 hm, length_slice]
    · exact hscan m hm
  unfold fmhRound
  dsimp only
  split_ifs
  all_goals first | exact hscan | exact hadd _

theorem length_flatten_modules : (fmhScan c x s).modules.flatten.length = (fmhScan c x s).modules.length * 64 := by
  have hlengths : (fmhScan c x s).modules.map List.length = List.replicate (fmhScan c x s).modules.length 64 :=
    List.eq_replicate_iff.2 ⟨List.length_map _, by simpa using length_of_mem_modules⟩
  rw [List.length_flatten, hlengths, List.sum_replicate, smul_eq_mul]

theorem answers_getFMHInfo (h : Answers c x s .getFMHInfo bytes) : ResponseKept c x s .getFMHInfo bytes := by
  obtain ⟨halloc, herror, hmodules, -⟩ := h.passes (fun _ => 0)
  have hlength : (leBytes 2 0 ++ leBytes 2 (fmhScan c x s).modules.length ++ (fmhScan c x s).modules.flatten).length =
      4 + (fmhScan c x s).modules.length * 64 := by
    simp only [List.length_append, length_leBytes, length_flatten_modules]
  refine responseKept_of_answers _ h.echoed (hlength.trans_lt (by omega)) fun behind res => ?_
  obtain ⟨-, -, -, hlen⟩ := h.passes behind
  rw [handleBytes_of_len h.len, YafuCommand.handle, amiYafuGetFMHInfo, if_neg (by simp [halloc])]
  simp only [herror]
  rw [if_neg (not_not_intro hlen)]
  refine (answersWith_yafuAnswer h.echoed hlength.symm (crc_take hlength.symm (by omega))).after ?_
  simp only [List.any_cons, List.any_nil, Access.faults, Bool.or_eq_false_iff, decide_eq_false_iff_not]
  exact ⟨by omega, by decide, trivial⟩

theorem answers_writeMemory (h : Answers c x s .writeMemory bytes) : ResponseKept c x s .writeMemory bytes := by
  have hlong := length_of_chksum fun behind => (h.passes behind).2.2.1
  have hdatalen : ∀ behind, datalen (store behind 0 bytes) = leNat ((bytes.drop 6).take 2) := by
    intro behind
    rw [datalen, field16, slice_store_inner _ (by omega)]
  refine responseKept_of_answers (leBytes 2 (sizeT (leNat ((bytes.drop 6).take 2)) 5)) h.echoed
    (by simp) fun behind res => ?_
  obtain ⟨hactive, haddr, hsum, hlen⟩ := h.passes behind
  obtain ⟨addr, haddr⟩ := Option.ne_none_iff_exists'.1 haddr
  rw [handleBytes_of_len h.len, YafuCommand.handle, amiYafuWriteMemory]
  refine AnswersWith.whenActivated (AnswersWith.whenChksum ?_ (datalen_lt _) hsum) hactive
  simp only [haddr]
  have hlt := datalen_lt (store behind 0 bytes)
  have hsize : sizeT (datalen (store behind 0 bytes)) 5 < 2 ^ 31 := by
    rw [sizeT_of_le hlt hlen]
    omega
  rw [hdatalen] at hsize ⊢
  refine (answersWith_yafuAnswer h.echoed (by simp) rfl).after ?_
  simp only [List.any_cons, List.any_nil, Access.faults, Bool.or_eq_false_iff, decide_eq_false_iff_not]
  exact ⟨by decide, Nat.not_le.2 hsize, Nat.not_le.2 hsize, trivial⟩

theorem answers_getBootConfig (h : Answers c x s .getBootConfig bytes) : ResponseKept c x s .getBootConfig bytes := by
  obtain ⟨-, -, -, value, hvalue, hlt⟩ := h.passes (fun _ => 0)
  have hlength : (0x01 :: (value ++ [(0 : UInt8)])).length = value.length + 2 := by simp
  refine responseKept_of_answers _ h.echoed (hlength.trans_lt hlt) fun behind res => ?_
  obtain ⟨hactive, hsum, hlen, -⟩ := h.passes behind
  rw [handleBytes_of_len h.len, YafuCommand.handle, amiYafuGetBootConfig]
  refine AnswersWith.whenActivated (AnswersWith.whenChksum (AnswersWith.whenDatalen ?_ hlen) (datalen_lt _) hsum) hactive
  rw [h.named rfl behind (fun _ => 0), hvalue]
  refine (answersWith_yafuAnswer h.echoed hlength.symm (crc_take hlength.symm hlt)).after ?_
  have hname := length_cString_le (store behind 0 bytes) 12
  simp only [List.any_cons, List.any_nil, Access.faults, Bool.or_eq_false_iff, decide_eq_false_iff_not]
  exact ⟨by omega, trivial⟩

theorem answers_setBootConfig (h : Answers c x s .setBootConfig bytes) : ResponseKept c x s .setBootConfig bytes := by
  refine responseKept_of_answers [0x01] h.echoed (by decide) fun behind res => ?_
  obtain ⟨hactive, hsum, hlen, hname, hsets, hsaves⟩ := h.passes behind
  rw [handleBytes_of_len h.len, YafuCommand.handle, amiYafuSetBootConfig]
  refine AnswersWith.whenActivated (AnswersWith.whenChksum ?_ (datalen_lt _) hsum) hactive
  have hlt := datalen_lt (store behind 0 bytes)
  have hsize : sizeT (datalen (store behind 0 bytes)) 65 < 2 ^ 31 := by
    rw [sizeT_of_le hlt hlen]
    omega
  have hstring : (setBootName (store behind 0 bytes)).length ≤ 65536 := length_cString_le _ 12
  refine ⟨?_, ?_, fun res => (response_of_header rfl rfl).trans (yafuHeader_eq h.echoed rfl rfl)⟩
  · simp only [Handling.faults, List.any_cons, List.any_nil, Access.faults, Bool.or_eq_false_iff, decide_eq_false_iff_not]
    exact ⟨by decide, Nat.not_le.2 hsize, Nat.not_le.2 hsize, Nat.not_le.2 hsize, by omega, trivial⟩
  · simp [hname, hsets, hsaves]

theorem answers_getBootVars (h : Answers c x s .getBootVars bytes) : ResponseKept c x s .getBootVars bytes := by
  obtain ⟨hactive, hlt, hbuffer⟩ := h.passes (fun _ => 0)
  refine responseKept_of_answers _ h.echoed ((length_bootVarData x).trans_lt hlt) fun behind res => ?_
  rw [handleBytes_of_len h.len, YafuCommand.handle, amiYafuGetBootVars]
  refine AnswersWith.whenActivated ?_ hactive
  refine (answersWith_yafuAnswer h.echoed (length_bootVarData x).symm
    (crc_take (length_bootVarData x).symm hlt)).after ?_
  simp only [List.any_cons, List.any_nil, Access.faults, Bool.or_eq_false_iff, decide_eq_false_iff_not]
  exact ⟨Nat.not_le.2 hbuffer, trivial⟩

/-- **Answers are as they should be.** -/
theorem Answers.kept (h : Answers c x s k bytes) : ResponseKept c x s k bytes := by
  have hpasses := h.passes (fun _ => 0)
  cases k with
  | getFMHInfo => exact answers_getFMHInfo h
  | writeMemory => exact answers_writeMemory h
  | getBootConfig => exact answers_getBootConfig h
  | setBootConfig => exact answers_setBootConfig h
  | getBootVars => exact answers_getBootVars h
  | eraseCopyFlash =>
    have hlen : 24 = bytes.length := by simpa [YafuCommand.len] using h.len
    refine responseKept_of_answers ((bytes.drop 20).take 4) h.echoed (by simp) fun behind res => ?_
    obtain ⟨hactive, hsum, hdatalen⟩ := h.passes behind
    rw [handleBytes_of_len h.len, YafuCommand.handle, amiYafuEraseCopyFlash]
    refine AnswersWith.whenActivated (AnswersWith.whenChksum (AnswersWith.whenDatalen ?_ hdatalen) (datalen_lt _) hsum) hactive
    rw [slice_store_inner _ (by omega)]
    exact (answersWith_yafuAnswer h.echoed (by simp; omega) rfl).after rfl
  | deactivateFlashMode =>
    refine responseKept_of_answers [0] h.echoed (by decide) fun behind res => ?_
    obtain ⟨hactive, hdatalen⟩ := h.passes behind
    rw [handleBytes_of_len h.len, YafuCommand.handle, amiYafuDeactivateFlash]
    exact AnswersWith.whenActivated (AnswersWith.whenDatalen (answersWith_yafuAnswer h.echoed rfl rfl) hdatalen) hactive
  | getRecoverySPIDetails =>
    have hlength : (leBytes 2 s.lastStatCode.toNat ++ leBytes 2 0).length = 4 := by simp
    refine responseKept_of_answers _ h.echoed (hlength.trans_lt (by decide)) fun behind res => ?_
    rw [handleBytes_of_len h.len, YafuCommand.handle, amiYafuGetRecoverySPIDetails]
    exact answersWith_yafuAnswer h.echoed hlength.symm rfl
  | _ => exact hpasses.elim

/-- **The responses.** For every configuration, input, state, command and request, the response is well formed and depends on
the request and the state only exactly when the request has the length of the command and the fields that are echoed, and passes
the tests of a command that answers, whatever earlier requests have left behind it. -/
theorem responseKept_iff (c : YafuConfig) (x : YafuInputs) (s : YafuState) (k : YafuCommand) (bytes : List UInt8) :
    ResponseKept c x s k bytes ↔ Answers c x s k bytes := by
  constructor
  · intro h
    refine ⟨h.len, h.echoed, h.passes, ?_⟩
    rintro rfl
    exact named_of_kept h
  · exact Answers.kept

end Commands

/-! ## The status -/

/-- A request of the status. -/
def statusRequest : List UInt8 := [1, 0, 0, 0, 0x04, 0, 0, 0, 0, 0, 0, 0]

/-- **The status is followed by what earlier commands have left.** -/
theorem not_responseKept_status :
    ¬ ResponseKept twoImages.yafu goodInputs activatedState.yafu .getStatus statusRequest := fun h =>
  absurd (h.fresh (fun _ => 0) (fun _ => 0) (fun _ => 0) (fun _ => 1)) (by decide +kernel)

end BmcBoot
