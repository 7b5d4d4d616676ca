import Bmc.Bafi.RetryRegisters

/-!
# What the loops write

Where the registers of a log are numbers, a pass writes at most one entry.

* `MemoryChannel`: the names of the registers of a channel;
* **`whitley_writes`**, **`eaglestream_writes`**, **`bdf_writes`**, **`imc_writes`**: the entry of each pass.
-/

namespace BmcBafi

open BmcLib

/-! ## Registers -/

/-- A channel, with the start of the names of its registers. -/
structure MemoryChannel where
  location : ImcChannel
  base : List Char
  deriving DecidableEq

namespace MemoryChannel

variable (m : MemoryChannel)

def reg (suffix : String) : List Char := m.base ++ suffix.toList

def register (log address1 : String) (address2 : List Char) : LogRegister :=
  ⟨m.location, m.reg log, m.reg address1, address2⟩

end MemoryChannel

/-- The two channels of each controller. -/
def retryChannels (halves : List (List Char × Char)) : List MemoryChannel :=
  imcChannels.flatMap fun c => halves.map fun h => ⟨⟨c.2, h.2⟩, c.1 ++ h.1⟩

def whitleyChannels : List MemoryChannel := retryChannels [("0x22".toList, '0'), ("0x26".toList, '1')]

def eaglestreamChannels : List MemoryChannel := retryChannels [("0x22".toList, '0'), ("0x2a".toList, '1')]

theorem whitleyChannels_spec : ∀ m ∈ whitleyChannels, m.base.length = 15 ∧
    imcChannelWhitley.lookup (m.reg "C60") = some m.location ∧
    imcChannelWhitley.lookup (m.reg "E54") = some m.location ∧
    ¬ "C60".toList <:+: m.reg "E54" := by
  decide +kernel

theorem logs_whitley : (imcChannels.flatMap fun c => offsetsWhitley.map (c.1 ++ ·)) =
    whitleyChannels.flatMap fun m => [m.reg "C60", m.reg "E54"] := by
  rfl

theorem eaglestreamChannels_spec : ∀ m ∈ eaglestreamChannels, m.base.length = 15 ∧
    imcChannelSpr.lookup (m.reg "c60") = some m.location ∧
    imcChannelSpr.lookup (m.reg "e54") = some m.location := by
  decide +kernel

theorem logs_eaglestream : (imcChannels.flatMap fun c => offsetsSpr.map (c.1 ++ ·)) =
    eaglestreamChannels.flatMap fun m => [m.reg "c60", m.reg "e54"] := by
  rfl

theorem reg_ends_with (m : MemoryChannel) (s : String) : s.toList <:+: m.reg s :=
  (List.suffix_append m.base s.toList).isInfix

theorem exists_modeName {n : ℕ} (h : n < 12) : ∃ name, modeNames[n]? = some name :=
  ⟨_, List.getElem?_eq_getElem h⟩

theorem modeName_eq_none {n : ℕ} (h : ¬ n < 12) : modeNames[n]? = none :=
  List.getElem?_eq_none (not_lt.1 h)

section Whitley

variable {x : UncoreSection} {slots : List SilkscreenSlot} {socket : ℕ}

/-- Where a log writes its entry: the class is that of the second log of its channel. -/
def whitleyPlace (x : UncoreSection) (r : LogRegister) : Option (Bool × List Char) :=
  if r.Valid x ∧ r.mode x < 12 then
    some (decide (logUc.of (x.value (replace r.log 15 3 "E54".toList)) ≠ 0),
      errorKey r.location (dimm (x.value r.address1)))
  else none

/-- What it writes: the row is that of the second log. -/
def WhitleyFits (x : UncoreSection) (r : LogRegister) (e : MemoryError) : Prop :=
  Reports whitleyLayout (x.value r.address1) (x.value (replace r.log 15 3 "E5C".toList)) e

theorem mode_eq (st : RetryScan) (r : LogRegister) :
    RetryScan.mode { st with errLog := UInt32.ofNat (x.value r.log) } = modeNames[r.mode x]? := by
  rw [RetryScan.mode, toNat_value]
  rfl

theorem valid_eq (st : RetryScan) (r : LogRegister) :
    RetryScan.valid { st with errLog := UInt32.ofNat (x.value r.log) } = decide (r.Valid x) := by
  rw [RetryScan.valid, toNat_value]
  rfl

theorem whitley_writes {m : MemoryChannel} (hm : m ∈ whitleyChannels) {r : LogRegister}
    (hr : r.log = m.reg "C60" ∧ r.address1 = m.reg "C58" ∨
      r.log = m.reg "E54" ∧ r.address1 = m.reg "E58") (hlocation : r.location = m.location)
    (hnumber : ∀ s ∈ ["C60", "E54", "C58", "E58", "E5C"], (x.number (m.reg s)).isSome = true) :
    WritesAt RetryScan.memoryErrors (whitleyPlace x) (WhitleyFits x)
      (fun st r => st.whitley x slots socket r.log) r := by
  obtain ⟨hlength, hlookup1, hlookup2, hinfix⟩ := whitleyChannels_spec m hm
  have hreplace : ∀ s t : String, s.toList.length = 3 → replace (m.reg s) 15 3 t.toList = m.reg t :=
    fun s t hs => replace_append hlength hs
  have hlookup : imcChannelWhitley.lookup r.log = some r.location := by
    rcases hr with ⟨hlog, -⟩ | ⟨hlog, -⟩
    · rw [hlog, hlocation, hlookup1]
    · rw [hlog, hlocation, hlookup2]
  have hreg1 : (if "C60".toList <:+: r.log then m.reg "C58"
      else if "E54".toList <:+: r.log then m.reg "E58" else r.log) = r.address1 := by
    rcases hr with ⟨hlog, haddress⟩ | ⟨hlog, haddress⟩
    · rw [hlog, haddress, if_pos (reg_ends_with m "C60")]
    · rw [hlog, haddress, if_neg hinfix, if_pos (reg_ends_with m "E54")]
  have haddress : "C58".toList <:+: r.address1 ∨ "E58".toList <:+: r.address1 := by
    rcases hr with ⟨-, haddress⟩ | ⟨-, haddress⟩
    · exact .inl (haddress ▸ reg_ends_with m "C58")
    · exact .inr (haddress ▸ reg_ends_with m "E58")
  have hlog' : ∀ t : String, replace r.log 15 3 t.toList = m.reg t := by
    rcases hr with ⟨hlog, -⟩ | ⟨hlog, -⟩
    · exact fun t => hlog ▸ hreplace "C60" t rfl
    · exact fun t => hlog ▸ hreplace "E54" t rfl
  have haddress' : ∀ t : String, replace r.address1 15 3 t.toList = m.reg t := by
    rcases hr with ⟨-, haddress⟩ | ⟨-, haddress⟩
    · exact fun t => haddress ▸ hreplace "C58" t rfl
    · exact fun t => haddress ▸ hreplace "E58" t rfl
  have hlogNumber : (x.number r.log).isSome = true := by
    rcases hr with ⟨hlog, -⟩ | ⟨hlog, -⟩
    · exact hlog ▸ hnumber "C60" (by simp)
    · exact hlog ▸ hnumber "E54" (by simp)
  have haddressNumber : (x.number r.address1).isSome = true := by
    rcases hr with ⟨-, haddress⟩ | ⟨-, haddress⟩
    · exact haddress ▸ hnumber "C58" (by simp)
    · exact haddress ▸ hnumber "E58" (by simp)
  intro st
  unfold whitleyPlace RetryScan.whitley
  simp only [find_of_number hlogNumber, RetryScan.readLog_eq _ hlogNumber, valid_eq, mode_eq, hlookup,
    hreg1, find_of_number haddressNumber, haddress, if_true, haddress', hlog',
    RetryScan.readAddress1_eq _ haddressNumber, RetryScan.readRow_eq _ (hnumber "E5C" (by simp))]
  by_cases h : r.Valid x ∧ r.mode x < 12
  · obtain ⟨name, hname⟩ := exists_modeName h.2
    have hC60 := hnumber "C60" (by simp)
    have hE54 := hnumber "E54" (by simp)
    simp only [if_pos h, decide_eq_true h.1, hname, Bool.not_true, Bool.or_self, Bool.false_eq_true, if_false,
      RetryScan.memoryErrors_report, RetryScan.memoryErrors_readSystemAddress _ hE54,
      RetryScan.memoryErrors_readSystemAddress _ hC60, RetryScan.ssKey_readSystemAddress _ hE54,
      RetryScan.ssKey_readSystemAddress _ hC60, RetryScan.uc, RetryScan.errLog_readSystemAddress _ hE54,
      toNat_value]
    refine ⟨_, ⟨⟨slotNames slots socket r.location (dimm (x.value r.address1)), false, name, ?_⟩, ?_⟩, rfl⟩
    · rw [RetryScan.location_readSystemAddress _ hE54, RetryScan.location_readSystemAddress _ hC60]
    · rw [RetryScan.row_readSystemAddress _ hE54, RetryScan.row_readSystemAddress _ hC60, hlog']
  · by_cases hv : r.Valid x
    · rw [if_neg h, modeName_eq_none fun hmode => h ⟨hv, hmode⟩, decide_eq_true hv]
      rfl
    · rw [if_neg h, decide_eq_false hv]
      rfl

end Whitley

section Eaglestream

variable {x : UncoreSection} {slots : List SilkscreenSlot} {socket : ℕ}

/-- The address that is read for a log: the first one that is not 0, else the third one. -/
def eaglestreamAddress (x : UncoreSection) (log : List Char) : List Char :=
  if x.text (replace log 15 3 "c58".toList) = "0x0".toList then
    if x.text (replace log 15 3 "e58".toList) = "0x0".toList then replace log 15 3 "d58".toList
    else replace log 15 3 "e58".toList
  else replace log 15 3 "c58".toList

def eaglestreamPlace (x : UncoreSection) (r : LogRegister) : Option (Bool × List Char) :=
  if r.Valid x ∧ r.mode x < 12 then
    some (r.uncorrectable x, errorKey r.location (dimm (x.value (eaglestreamAddress x r.log))))
  else none

def EaglestreamFits (x : UncoreSection) (r : LogRegister) (e : MemoryError) : Prop :=
  Reports eaglestreamLayout (x.value (eaglestreamAddress x r.log))
    (x.value (replace r.log 15 3 "e5c".toList)) e

theorem uc_eq (st : RetryScan) (r : LogRegister) :
    RetryScan.uc { st with errLog := UInt32.ofNat (x.value r.log) } = r.uncorrectable x := by
  rw [RetryScan.uc, toNat_value]
  rfl

theorem eaglestream_writes {m : MemoryChannel} (hm : m ∈ eaglestreamChannels) {r : LogRegister}
    (hr : r.log = m.reg "c60" ∨ r.log = m.reg "e54") (hlocation : r.location = m.location)
    (hnumber : ∀ s ∈ ["c60", "e54", "c58", "e58", "e5c", "d58", "c70"],
      (x.number (m.reg s)).isSome = true) :
    WritesAt RetryScan.memoryErrors (eaglestreamPlace x) (EaglestreamFits x)
      (fun st r => st.eaglestream x slots socket r.log) r := by
  obtain ⟨hlength, hlookup1, hlookup2⟩ := eaglestreamChannels_spec m hm
  have hreplace : ∀ s t : String, s.toList.length = 3 → replace (m.reg s) 15 3 t.toList = m.reg t :=
    fun s t hs => replace_append hlength hs
  have hlookup : imcChannelSpr.lookup r.log = some r.location := by
    rcases hr with hlog | hlog
    · rw [hlog, hlocation, hlookup1]
    · rw [hlog, hlocation, hlookup2]
  have hlog' : ∀ t : String, replace r.log 15 3 t.toList = m.reg t := by
    rcases hr with hlog | hlog
    · exact fun t => hlog ▸ hreplace "c60" t rfl
    · exact fun t => hlog ▸ hreplace "e54" t rfl
  have hlogNumber : (x.number r.log).isSome = true := by
    rcases hr with hlog | hlog
    · exact hlog ▸ hnumber "c60" (by simp)
    · exact hlog ▸ hnumber "e54" (by simp)
  obtain ⟨a, haddress, ha⟩ : ∃ a ∈ ["c58", "e58", "d58"], eaglestreamAddress x r.log = m.reg a := by
    unfold eaglestreamAddress
    simp only [hlog']
    split_ifs
    · exact ⟨"d58", by simp, rfl⟩
    · exact ⟨"e58", by simp, rfl⟩
    · exact ⟨"c58", by simp, rfl⟩
  have hreg1 : (if x.text (m.reg "c58") = "0x0".toList then
      if x.text (m.reg "e58") = "0x0".toList then m.reg "d58" else m.reg "e58" else m.reg "c58") =
      m.reg a := by
    rw [← ha, eaglestreamAddress]
    simp only [hlog']
  have hinfix : "c58".toList <:+: m.reg a ∨ "e58".toList <:+: m.reg a ∨ "d58".toList <:+: m.reg a := by
    rcases List.mem_cons.1 haddress with rfl | haddress
    · exact .inl (reg_ends_with m _)
    rcases List.mem_cons.1 haddress with rfl | haddress
    · exact .inr (.inl (reg_ends_with m _))
    · exact .inr (.inr (List.mem_singleton.1 haddress ▸ reg_ends_with m _))
  have hathree : a.toList.length = 3 := by
    rcases List.mem_cons.1 haddress with rfl | haddress
    · rfl
    rcases List.mem_cons.1 haddress with rfl | haddress
    · rfl
    · exact List.mem_singleton.1 haddress ▸ rfl
  have haddressNumber : (x.number (m.reg a)).isSome = true := by
    refine hnumber a ?_
    simp only [List.mem_cons, List.not_mem_nil, or_false] at haddress ⊢
    tauto
  intro st
  unfold eaglestreamPlace RetryScan.eaglestream
  simp only [find_of_number hlogNumber, RetryScan.readLog_eq _ hlogNumber, valid_eq, mode_eq, uc_eq, hlookup,
    hlog', hreplace "c58" "e58" rfl, hreplace "e58" "d58" rfl, hreg1, find_of_number haddressNumber, hinfix,
    if_true, hreplace a _ hathree, RetryScan.readAddress1_eq _ haddressNumber,
    RetryScan.readRow_eq _ (hnumber "e5c" (by simp)), ha]
  by_cases h : r.Valid x ∧ r.mode x < 12
  · obtain ⟨name, hname⟩ := exists_modeName h.2
    have hC60 := hnumber "c60" (by simp)
    have hE54 := hnumber "e54" (by simp)
    have hC70 := hnumber "c70" (by simp)
    simp only [if_pos h, decide_eq_true h.1, hname, Bool.not_true, Bool.or_self, Bool.false_eq_true, if_false,
      RetryScan.memoryErrors_report, RetryScan.memoryErrors_readSystemAddress _ hC70,
      RetryScan.memoryErrors_readSystemAddress _ hE54, RetryScan.memoryErrors_readSystemAddress _ hC60,
      RetryScan.ssKey_readSystemAddress _ hC70, RetryScan.ssKey_readSystemAddress _ hE54,
      RetryScan.ssKey_readSystemAddress _ hC60]
    refine ⟨_, ⟨⟨slotNames slots socket r.location (dimm (x.value (m.reg a))), true, name, ?_⟩, ?_⟩, rfl⟩
    · rw [RetryScan.location_readSystemAddress _ hC70, RetryScan.location_readSystemAddress _ hE54,
        RetryScan.location_readSystemAddress _ hC60, ha]
    · rw [RetryScan.row_readSystemAddress _ hC70, RetryScan.row_readSystemAddress _ hE54,
        RetryScan.row_readSystemAddress _ hC60, hlog']
  · by_cases hv : r.Valid x
    · rw [if_neg h, modeName_eq_none fun hmode => h ⟨hv, hmode⟩, decide_eq_true hv]
      rfl
    · rw [if_neg h, decide_eq_false hv]
      rfl

end Eaglestream

section Purley

variable {x : UncoreSection} {slots : List SilkscreenSlot} {socket : ℕ}

/-- The six channels that are read by their places on the bus. -/
def purleyChannels : List MemoryChannel :=
  imcChannelPurley.map fun c => ⟨c.2, c.1.take 13⟩

theorem purleyChannels_spec : ∀ m ∈ purleyChannels, m.base.length = 13 ∧
    imcChannelPurley.lookup (m.reg "154") = some m.location := by
  decide +kernel

theorem logs_purley : (imcChannelsPurley.map fun channel => channel ++ "0x154".toList) =
    purleyChannels.map fun m => m.reg "154" := by
  rfl

def purleyPlace (x : UncoreSection) (r : LogRegister) : Option (Bool × List Char) :=
  if r.Valid x ∧ r.mode x < 12 then
    some (r.uncorrectable x, errorKey r.location (dimm (x.value r.address1)))
  else none

def PurleyFits (x : UncoreSection) (r : LogRegister) (e : MemoryError) : Prop :=
  Reports purleyLayout (x.value r.address1) (x.value r.address2) e

/-- The registers of a log are numbers, if it is there. -/
def LogRegister.Readable (x : UncoreSection) (r : LogRegister) : Prop :=
  (x.find r.log).isSome = true →
    (x.number r.log).isSome = true ∧ (x.number r.address1).isSome = true ∧
      (x.number r.address2).isSome = true

theorem not_valid_of_find_eq_none {r : LogRegister} (h : x.find r.log = none) : ¬ r.Valid x := by
  intro hv
  have hnumber := number_isSome_of_valid hv
  rw [UncoreSection.number, h] at hnumber
  exact absurd hnumber (by decide)

theorem bdf_writes {m : MemoryChannel} (hm : m ∈ purleyChannels)
    (h : (m.register "154" "15C" (m.reg "114")).Readable x) :
    WritesAt RetryScan.memoryErrors (purleyPlace x) (PurleyFits x)
      (fun st r => st.bdf x slots socket r.log) (m.register "154" "15C" (m.reg "114")) := by
  obtain ⟨hlength, hlookup⟩ := purleyChannels_spec m hm
  have hreplace : ∀ s t : String, s.toList.length = 3 → replace (m.reg s) 13 3 t.toList = m.reg t :=
    fun s t hs => replace_append hlength hs
  intro st
  generalize hr : m.register "154" "15C" (m.reg "114") = r at h
  have hlocation : imcChannelPurley.lookup r.log = some r.location := by rw [← hr]; exact hlookup
  have haddress1 : replace r.log 13 3 "15C".toList = r.address1 := by
    rw [← hr]; exact hreplace "154" "15C" rfl
  have haddress2 : replace r.address1 13 3 "114".toList = r.address2 := by
    rw [← hr]; exact hreplace "15C" "114" rfl
  have hinfix : "15C".toList <:+: r.address1 := by rw [← hr]; exact reg_ends_with m _
  unfold purleyPlace RetryScan.bdf
  cases hfind : x.find r.log with
  | none =>
    rw [if_neg fun hv => not_valid_of_find_eq_none hfind hv.1]
    simp only [hfind]
    rfl
  | some text =>
    obtain ⟨hlogNumber, haddress1Number, haddress2Number⟩ := h (by rw [hfind]; rfl)
    obtain rfl : x.text r.log = text := Option.some_inj.1 ((find_of_number hlogNumber).symm.trans hfind)
    simp only [hfind, RetryScan.readLog_eq _ hlogNumber, valid_eq, mode_eq, uc_eq, hlocation, haddress1,
      find_of_number haddress1Number, hinfix, if_true, haddress2,
      RetryScan.readAddress1_eq _ haddress1Number, RetryScan.readRow_eq _ haddress2Number]
    by_cases h : r.Valid x ∧ r.mode x < 12
    · obtain ⟨name, hname⟩ := exists_modeName h.2
      simp only [if_pos h, decide_eq_true h.1, hname, Bool.not_true, Bool.or_self, Bool.false_eq_true,
        if_false, RetryScan.memoryErrors_report]
      exact ⟨_, ⟨⟨_, _, _, rfl⟩, rfl⟩, rfl⟩
    · by_cases hv : r.Valid x
      · rw [if_neg h, modeName_eq_none fun hmode => h ⟨hv, hmode⟩, decide_eq_true hv]
        rfl
      · rw [if_neg h, decide_eq_false hv]
        rfl

theorem find_of_mem {item : List Char × List Char} (h : item ∈ x.items) :
    x.find item.1 = some item.2 :=
  lookup_of_mem x.nodup h

/-- A register that is named as a log, with the registers of its address. -/
def imcRegister (item : List Char × List Char) : Option LogRegister :=
  (retryRdErrLogRegex item.1).map fun c =>
    ⟨c, item.1, item.1 ++ "_address1".toList, item.1 ++ "_address2".toList⟩

theorem imc_writes {item : List Char × List Char} (hitem : item ∈ x.items)
    (h : ∀ r, imcRegister item = some r → r.Readable x) :
    WritesAt RetryScan.memoryErrors (fun item => (imcRegister item).bind (purleyPlace x))
      (fun item e => ∃ r, imcRegister item = some r ∧ PurleyFits x r e)
      (fun st item => st.imc x slots socket item) item := by
  intro st
  have hfind := find_of_mem hitem
  unfold RetryScan.imc
  cases hregex : retryRdErrLogRegex item.1 with
  | none =>
    have hnone : imcRegister item = none := by rw [imcRegister, hregex]; rfl
    simp only [hnone, Option.bind_none, hregex]
    rfl
  | some c =>
    have hsome : imcRegister item =
        some ⟨c, item.1, item.1 ++ "_address1".toList, item.1 ++ "_address2".toList⟩ := by
      rw [imcRegister, hregex]; rfl
    generalize hr : LogRegister.mk c item.1 (item.1 ++ "_address1".toList)
      (item.1 ++ "_address2".toList) = r at hsome
    have hlog : item.1 = r.log := by rw [← hr]
    have haddress1 : item.1 ++ "_address1".toList = r.address1 := by rw [← hr]
    have haddress2 : item.1 ++ "_address2".toList = r.address2 := by rw [← hr]
    have hlocation : c = r.location := by rw [← hr]
    rw [hlog] at hfind
    obtain ⟨hlogNumber, haddress1Number, haddress2Number⟩ := h r hsome (by rw [hfind]; rfl)
    have htext : item.2 = x.text r.log :=
      Option.some_inj.1 (hfind.symm.trans (find_of_number hlogNumber))
    simp only [hsome, Option.bind_some, purleyPlace, hregex, htext, RetryScan.readLog_eq _ hlogNumber,
      valid_eq, mode_eq, uc_eq, haddress1, haddress2, RetryScan.readAddress1_eq _ haddress1Number,
      RetryScan.readRow_eq _ haddress2Number]
    by_cases h : r.Valid x ∧ r.mode x < 12
    · obtain ⟨name, hname⟩ := exists_modeName h.2
      simp only [if_pos h, decide_eq_true h.1, hname, Bool.not_true, Bool.or_self, Bool.false_eq_true,
        if_false, RetryScan.memoryErrors_report, hlocation]
      exact ⟨_, ⟨r, rfl, ⟨_, _, _, rfl⟩, rfl⟩, rfl⟩
    · by_cases hv : r.Valid x
      · rw [if_neg h, modeName_eq_none fun hmode => h ⟨hv, hmode⟩, decide_eq_true hv]
        rfl
      · rw [if_neg h, decide_eq_false hv]
        rfl

end Purley

end BmcBafi
