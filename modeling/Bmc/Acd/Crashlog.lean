import Bmc.Acd.Peci
import Bmc.Lib.Base64

/-!
# Crashlogs

`Crashlog.c` and `base64Encode.c`: the samples of an agent are read into a buffer of `crashSpace` double
words, which is logged as a base64 text.

* `base64Encode`, with `base64Chars_eq`: it is the encoding of the library;
* `readSamples`, `storeCrashlog`, `extractCrashlog`: the loop over the samples, the item, and both;
* **`storesReturned_iff`**: when the text stands for what the CPU returned.
-/

namespace BmcAcd

open BmcLib

/-! ## Base64 -/

/-- `encode_table`. -/
def encodeTable : List Char :=
  ['A', 'B', 'C', 'D', 'E', 'F', 'G', 'H', 'I', 'J', 'K', 'L', 'M',
    'N', 'O', 'P', 'Q', 'R', 'S', 'T', 'U', 'V', 'W', 'X', 'Y', 'Z',
    'a', 'b', 'c', 'd', 'e', 'f', 'g', 'h', 'i', 'j', 'k', 'l', 'm',
    'n', 'o', 'p', 'q', 'r', 's', 't', 'u', 'v', 'w', 'x', 'y', 'z',
    '0', '1', '2', '3', '4', '5', '6', '7', '8', '9', '+', '/']

/-- `getEncodedValueFromTable`. -/
def getEncodedValueFromTable (bitstream : UInt8) : Char :=
  if encodeTable.length - 1 < bitstream.toNat then '=' else encodeTable.getD bitstream.toNat '='

/-- The characters of `size` bytes of `src` from `text` on: the loop over groups of three bytes, and
what follows it. -/
def base64Chars (src : ℕ → UInt8) : ℕ → ℕ → List Char
  | _, 0 => []
  | text, 1 =>
    [getEncodedValueFromTable ((src text &&& 0xfc) >>> 2),
      getEncodedValueFromTable ((src text &&& 0x03) <<< 4 ||| 0x00),
      getEncodedValueFromTable 64,
      getEncodedValueFromTable 64]
  | text, 2 =>
    [getEncodedValueFromTable ((src text &&& 0xfc) >>> 2),
      getEncodedValueFromTable ((src text &&& 0x03) <<< 4 ||| (src (text + 1) &&& 0xf0) >>> 4),
      getEncodedValueFromTable ((src (text + 1) &&& 0x0f) <<< 2 ||| 0x00),
      getEncodedValueFromTable 64]
  | text, size + 3 =>
    getEncodedValueFromTable ((src text &&& 0xfc) >>> 2) ::
      getEncodedValueFromTable ((src text &&& 0x03) <<< 4 ||| (src (text + 1) &&& 0xf0) >>> 4) ::
      getEncodedValueFromTable ((src (text + 1) &&& 0x0f) <<< 2 ||| (src (text + 2) &&& 0xc0) >>> 6) ::
      getEncodedValueFromTable (src (text + 2) &&& 0x3f) ::
      base64Chars src (text + 3) size

/-- `base64Encode`: what is written to the string, with its end. -/
def base64Encode (src : ℕ → UInt8) (srcSize : UInt16) : List Char :=
  base64Chars src 0 srcSize.toNat ++ ['\x00']

theorem getEncodedValueFromTable_eq (b : UInt8) : getEncodedValueFromTable b = char64 b.toNat := by
  have htable : encodeTable = alphabet64 := alphabet64_eq.symm
  rw [getEncodedValueFromTable, htable, char64]
  split_ifs with h
  · have hlen := length_alphabet64
    rw [List.getD_eq_getElem?_getD, List.getElem?_eq_none (by omega)]
    rfl
  · rfl

/-- **The encoder.** The text is the base64 encoding of the bytes. -/
theorem base64Chars_eq (src : ℕ → UInt8) (text size : ℕ) :
    base64Chars src text size = encode64 (slice src text size) := by
  have hfill : getEncodedValueFromTable 64 = '=' := rfl
  induction text, size using base64Chars.induct with
  | case1 text => rfl
  | case2 text =>
    rw [base64Chars, hfill]
    simp only [getEncodedValueFromTable_eq, sextet_high, sextet_second_last]
    rfl
  | case3 text =>
    rw [base64Chars, hfill]
    simp only [getEncodedValueFromTable_eq, sextet_high, sextet_second, sextet_third_last]
    rfl
  | case4 text size ih =>
    have hslice : slice src text (size + 3) =
        src text :: src (text + 1) :: src (text + 2) :: slice src (text + 3) size := by
      rw [Nat.add_comm, slice_add]
      rfl
    rw [hslice, encode64, ← ih, base64Chars]
    simp only [getEncodedValueFromTable_eq, sextet_high, sextet_second, sextet_third, sextet_low]

/-! ## Agents -/

/-- `acdStatus`, as far as it is used here. -/
inductive AcdStatus where
  | success
  | failure
  | allocateFailure
  deriving DecidableEq, Repr

/-- `crashlogAgentDetails`. -/
structure CrashlogAgentDetails where
  entryType : UInt8
  crashType : UInt8
  uniqueId : UInt32
  crashSpace : UInt16

/-- `guidCrashlogSectionMapping`. -/
structure GuidCrashlogSectionMapping where
  guid : UInt32
  crashlogSectionName : List Char
  enable : Bool

/-- `agentsInfoInputFile`. -/
structure AgentsInfoInputFile where
  agentMap : List GuidCrashlogSectionMapping
  numberOfCrashlogAgents : UInt8

/-- `CRASHLOG_ERROR_JSON_STRING_LEN`. -/
abbrev crashlogErrorJsonStringLen : ℕ := 256

/-- A string of `snprintf`. -/
def snprintf (s : List Char) : List Char := s.take (crashlogErrorJsonStringLen - 1)

/-- A number as `%x`. -/
def hexChars (n : ℕ) : List Char := Nat.toDigits 16 n

/-- `getAgentName`. -/
def getAgentName (details : CrashlogAgentDetails) (info : AgentsInfoInputFile) : List Char :=
  match (info.agentMap.take info.numberOfCrashlogAgents.toNat).find? (·.guid = details.uniqueId) with
  | some m => snprintf m.crashlogSectionName
  | none => snprintf (hexChars details.uniqueId.toNat)

/-- An item of the log: its objects and name, and its string. -/
structure CrashlogItem where
  path : List (List Char)
  text : List Char

/-- The string that a pointer to these characters stands for. -/
def cString (chars : List Char) : List Char := chars.takeWhile (· ≠ '\x00')

/-- The outcome of `storeCrashlog`. `allocated` is the size of the memory for the string, `written` what
is written to it. -/
structure StoreRun where
  status : AcdStatus
  items : List CrashlogItem
  allocated : ℕ
  written : List Char

/-- `storeCrashlog`; `granted` is whether `malloc` gives memory. -/
def storeCrashlog (granted : Bool) (agent : UInt16) (details : CrashlogAgentDetails)
    (rawCrashlog : ℕ → UInt8) (info : AgentsInfoInputFile) : StoreRun :=
  let guid := snprintf ("agent_id_0x".toList ++ hexChars details.uniqueId.toNat)
  if granted then
    let written := base64Encode rawCrashlog (UInt16.ofNat (details.crashSpace.toNat * 4))
    { status := .success
      items := [⟨[guid, snprintf ("#data_".toList ++ getAgentName details info)], cString written⟩]
      allocated := details.crashSpace.toNat * 4 * 2
      written := written }
  else
    { status := .allocateFailure
      items := [⟨[guid, "_error".toList],
        snprintf ("Memory allocation for storing output string failed for agent 0x".toList ++
          hexChars agent.toNat ++ ", uniqueId=0x".toList ++ hexChars details.uniqueId.toNat)⟩]
      allocated := 0
      written := [] }

/-- The variables of `collectCrashlogForAgent`. -/
structure SampleLoop where
  rawCrashlog : ℕ → UInt8
  bus : Device PeciCall PeciAnswer

/-- The call that asks for a sample. -/
def sampleCall (clientAddr : UInt8) (agent : UInt16) (sampleId : ℕ) : PeciCall :=
  .telemetryGetCrashlogSample clientAddr agent (UInt16.ofNat sampleId) 8

/-- The loop of `collectCrashlogForAgent`. -/
def readSamples (clientAddr : UInt8) (agent : UInt16) : List ℕ → SampleLoop → AcdStatus × SampleLoop
  | [], s => (.success, s)
  | sampleId :: is, s =>
    let call := sampleCall clientAddr agent sampleId
    let a := s.bus.answer
    if call.status a ≠ .success ∨ peciCcUA a.cc then (.failure, { s with bus := s.bus.call call })
    else readSamples clientAddr agent is
      ⟨store s.rawCrashlog (sampleId * 8) (slice a.data 0 8), s.bus.call call⟩

/-- `collectCrashlogForAgent`. -/
def collectCrashlogForAgent (clientAddr : UInt8) (agent : UInt16) (details : CrashlogAgentDetails)
    (s : SampleLoop) : AcdStatus × SampleLoop :=
  readSamples clientAddr agent (List.range' 0 (details.crashSpace.toNat / 2)) s

/-- What `logCrashlogEBG` does for an agent that is not skipped: `grantedRaw` and `grantedString` are
whether there is memory for the samples and for the string, `heap` is what lies behind the samples. -/
structure CrashlogQuery where
  clientAddr : UInt8
  agent : UInt16
  details : CrashlogAgentDetails
  info : AgentsInfoInputFile
  grantedRaw : Bool
  grantedString : Bool
  heap : ℕ → UInt8
  bus : Device PeciCall PeciAnswer

namespace CrashlogQuery

variable (x : CrashlogQuery)

/-- `crashSpace`. -/
def crashSpace : ℕ := x.details.crashSpace.toNat

/-- The samples, in memory from `calloc`. -/
def collect : AcdStatus × SampleLoop :=
  collectCrashlogForAgent x.clientAddr x.agent x.details
    ⟨fun i => if i < x.crashSpace * 4 then 0 else x.heap i, x.bus⟩

/-- The item of the samples. -/
def stored : StoreRun :=
  storeCrashlog x.grantedString x.agent x.details x.collect.2.rawCrashlog x.info

/-- The items that are logged. -/
def extractCrashlog : List CrashlogItem :=
  if ¬ x.grantedRaw then []
  else if x.collect.1 ≠ .success then [⟨["_error".toList], "Error collecting crashlog".toList⟩]
  else x.stored.items

/-! ## The round trip -/

/-- What the CPU returned. -/
def returned : List UInt8 := (x.bus.transcript x.collect.2.bus).flatMap fun t => slice t.2.data 0 8

/-- One item is logged, whose text stands for `crashSpace` double words, which are those that the CPU
returned, and the text lies within its memory. -/
structure StoresReturned : Prop where
  item : ∃ path text, x.extractCrashlog = [⟨path, text⟩] ∧ decode64 text = some x.returned
  length : x.returned.length = x.crashSpace * 4
  within : x.stored.written.length ≤ x.stored.allocated

end CrashlogQuery

/-- **The samples.** What the samples leave in the buffer is what the CPU returned. -/
theorem readSamples_returned (clientAddr : UInt8) (agent : UInt16) (m k : ℕ) (s : SampleLoop)
    (h : (readSamples clientAddr agent (List.range' k m) s).1 = .success) :
    let r := (readSamples clientAddr agent (List.range' k m) s).2
    s.bus.Extends r.bus ∧ (∀ i < k * 8, r.rawCrashlog i = s.rawCrashlog i) ∧
      ((s.bus.transcript r.bus).flatMap fun t => slice t.2.data 0 8) =
        slice r.rawCrashlog (k * 8) (m * 8) := by
  induction m generalizing k s with
  | zero => exact ⟨.refl _, fun _ _ => rfl, by simp [readSamples, slice]⟩
  | succ m ih =>
    rw [List.range'_succ] at h ⊢
    rw [readSamples] at h ⊢
    dsimp only at h ⊢
    by_cases hbad : (sampleCall clientAddr agent k).status s.bus.answer ≠ .success ∨
        peciCcUA s.bus.answer.cc
    · rw [if_pos hbad] at h
      exact absurd h AcdStatus.noConfusion
    rw [if_neg hbad] at h ⊢
    obtain ⟨hext, hold, hnew⟩ := ih (k + 1) _ h
    generalize (readSamples clientAddr agent (List.range' (k + 1) m) _).2 = r at *
    have hcall := Device.extends_call s.bus (sampleCall clientAddr agent k)
    refine ⟨hcall.trans hext, fun i hi => ?_, ?_⟩
    · rw [hold i (by omega)]
      exact store_apply_lt hi
    · have hfirst : slice r.rawCrashlog (k * 8) 8 = slice s.bus.answer.data 0 8 := by
        rw [slice_congr fun i _ hi => hold i (by omega)]
        simpa using slice_store_same s.rawCrashlog (k * 8) (slice s.bus.answer.data 0 8)
      rw [hcall.transcript_trans hext, Device.transcript_call, List.flatMap_append, hnew,
        List.flatMap_singleton, show (m + 1) * 8 = 8 + m * 8 by omega, slice_add, hfirst,
        show (k + 1) * 8 = k * 8 + 8 by omega]

theorem cString_base64Encode (src : ℕ → UInt8) (size : UInt16) :
    cString (base64Encode src size) = encode64 (slice src 0 size.toNat) := by
  have hpos : ∀ c ∈ encode64 (slice src 0 size.toNat), decide (c ≠ '\x00') = true := by
    intro c hc
    refine decide_eq_true ?_
    rintro rfl
    exact nul_notMem_encode64 _ hc
  rw [base64Encode, base64Chars_eq, cString, List.takeWhile_append_of_pos hpos]
  simp

/-- **The round trip.** When all samples were read, the text of an agent stands for what the CPU returned,
and lies within its memory, exactly for an even number of double words below 2 ^ 14: the last one of an
odd number is not read, and the size in bytes is cut to 16 bits. -/
theorem storesReturned_iff (x : CrashlogQuery) (h0 : 0 < x.crashSpace) (hraw : x.grantedRaw)
    (hstring : x.grantedString) (hok : x.collect.1 = .success) :
    x.StoresReturned ↔ x.crashSpace % 2 = 0 ∧ x.crashSpace < 2 ^ 14 := by
  have hsize : (UInt16.ofNat (x.crashSpace * 4)).toNat = x.crashSpace * 4 % 2 ^ 16 :=
    UInt16.toNat_ofNat'
  have hreturned : x.returned = slice x.collect.2.rawCrashlog 0 (x.crashSpace / 2 * 8) := by
    have h := (readSamples_returned x.clientAddr x.agent (x.crashSpace / 2) 0 _ hok).2.2
    rwa [Nat.zero_mul] at h
  have hstored : x.stored.written =
      base64Encode x.collect.2.rawCrashlog (UInt16.ofNat (x.crashSpace * 4)) ∧
      x.stored.allocated = x.crashSpace * 4 * 2 ∧
      ∃ path, x.extractCrashlog = [⟨path, cString x.stored.written⟩] := by
    unfold CrashlogQuery.extractCrashlog CrashlogQuery.stored storeCrashlog
    simp only [hstring, hraw, hok, if_true]
    exact ⟨rfl, rfl, _, rfl⟩
  obtain ⟨hwritten, hallocated, path, hitems⟩ := hstored
  have hdecode : decode64 (cString x.stored.written) =
      some (slice x.collect.2.rawCrashlog 0 (x.crashSpace * 4 % 2 ^ 16)) := by
    rw [hwritten, cString_base64Encode, decode64_encode64, hsize]
  have hlength : x.stored.written.length = 4 * ((x.crashSpace * 4 % 2 ^ 16 + 2) / 3) + 1 := by
    rw [hwritten, base64Encode, base64Chars_eq, List.length_append, length_encode64, length_slice,
      hsize]
    rfl
  constructor
  · rintro ⟨⟨path', text, hitem, htext⟩, hlen, -⟩
    rw [hitems] at hitem
    obtain ⟨-, rfl⟩ : path = path' ∧ cString x.stored.written = text := by simpa using hitem
    rw [hdecode, Option.some_inj] at htext
    have hbytes := congrArg List.length htext
    rw [hlen, length_slice] at hbytes
    rw [hreturned, length_slice] at hlen
    omega
  · rintro ⟨heven, hlt⟩
    refine ⟨⟨path, _, hitems, ?_⟩, ?_, ?_⟩
    · rw [hdecode, hreturned]
      congr 2
      omega
    · rw [hreturned, length_slice]
      omega
    · rw [hlength, hallocated]
      omega

/-- An agent with this number of double words, whose samples are all bytes 1. -/
def plainAgent (crashSpace : UInt16) : CrashlogQuery where
  clientAddr := 0x30
  agent := 0
  details := ⟨0, 0, 0, crashSpace⟩
  info := ⟨[], 0⟩
  grantedRaw := true
  grantedString := true
  heap _ := 0
  bus := ⟨fun _ => ⟨true, true, peciDevCcSuccess, fun _ => 1⟩, []⟩

theorem storesReturned_two : (plainAgent 2).StoresReturned :=
  (storesReturned_iff (plainAgent 2) (by decide) rfl rfl (by decide +kernel)).2 (by decide)

/-- The eight characters for one double word, and their end, are more than the memory for them. -/
theorem not_storesReturned_one :
    ¬ ∀ x : CrashlogQuery, 0 < x.crashSpace → x.grantedRaw → x.grantedString →
      x.collect.1 = .success → x.StoresReturned := by
  intro h
  have hwithin := (h (plainAgent 1) (by decide) rfl rfl (by decide +kernel)).within
  revert hwithin
  decide +kernel

end BmcAcd
