import Bmc.Lib.Lines
import Bmc.Lib.TextSearch

/-!
# The resource file of the HID devices

`hid_vnc.c`: the processes that use the devices are listed in a text file, with their number behind the list.

* `getHidResource`, `handleList`: what is read from the file;
* `hidResourceFile`: what is written;
* `Readable`: a name that is read as it was written;
* **`handleList_file`**, **`getHidResource_file`**: the file of readable names is read back;
* **`not_readBack`**: the file with another name is not.
-/

namespace BmcVnc

open BmcLib

/-! ## The file -/

/-- `MAX_SUPPORT_PROCESS`. -/
def maxSupportProcess : ℕ := 3

/-- The size of a row of the table of processes. -/
def rowSize : ℕ := 20

/-- `MAX_STRING_SIZE`. -/
def maxStringSize : ℕ := 80

/-- The lines of the file. -/
def fileLines (text : List Char) : List (List Char) := fgetsLines (maxStringSize - 1) (maxStringSize - 1) text

/-- The text in front of the number. -/
def hidResource : List Char := "Hid resource :".toList

/-- The number in a line. -/
def scanResource (line : List Char) (resource : UInt8) : UInt8 :=
  if hidResource <:+: line then
    (((matchFormat hidResource line).bind scanDecimal).map UInt8.ofInt).getD resource
  else resource

/-- `get_hid_resource`: the number in the file, or `resource` if there is none. -/
def getHidResource (text : List Char) (resource : UInt8) : UInt8 :=
  (fileLines text).foldl (fun resource line => scanResource line resource) resource

/-- A line with a comma is one of the list. -/
def isListLine (line : List Char) : Bool := ',' ∈ line

/-- The names that `get_hid_handle_list` reads: the first words of the lines of the list. -/
def handleList (text : List Char) : List (List Char) := ((fileLines text).filter isListLine).map firstWord

/-- The line in front of the list. -/
def listStart : List Char := "Handle list:\x7b\n".toList

/-- The line of a process. -/
def listLine (name : List Char) : List Char := name ++ " ,\n".toList

/-- The line of the number. -/
def resourceLine (resource : UInt8) : List Char := hidResource ++ Nat.toDigits 16 resource.toNat ++ ['\n']

/-- The lines behind the list. -/
def listEnd (resource : UInt8) : List Char := "\x7d\n".toList ++ resourceLine resource

/-- The file that is written. -/
def hidResourceFile (names : List (List Char)) (resource : UInt8) : List Char :=
  listStart ++ (names.flatMap listLine ++ listEnd resource)

/-- A name that is read as it was written: a word that fits into the buffer with the comma behind it. -/
structure Readable (name : List Char) : Prop where
  ne_nil : name ≠ []
  word : ∀ c ∈ name, isBlank c = false
  length : name.length + 2 < maxStringSize

/-! ## Readable names -/

variable {name : List Char} {names : List (List Char)} {resource : UInt8}

theorem Readable.newline_notMem (h : Readable name) : '\n' ∉ name := fun hc =>
  absurd (h.word _ hc) (by decide)

theorem fileLines_line {line : List Char} (hline : '\n' ∉ line) (hlen : line.length < maxStringSize - 1)
    (rest : List Char) : fileLines (line ++ '\n' :: rest) = (line ++ ['\n']) :: fileLines rest :=
  fgetsLines_line rest hline hlen

/-- The line of a word has no number. -/
theorem not_infix_listLine (h : ∀ c ∈ name, isBlank c = false) : ¬ hidResource <:+: listLine name := by
  -- the blank in the line is in front of the comma
  refine not_infix_of_isChain (R := fun a b => ¬ (a = ' ' ∧ b = 'r')) ?_ (by decide)
  have hblank : ∀ a ∈ name, a ≠ ' ' := by
    rintro a ha rfl
    exact absurd (h ' ' ha) (by decide)
  rw [listLine, List.isChain_append]
  refine ⟨?_, by decide, fun a ha b _ hab => hblank a (List.mem_of_getLast? ha) hab.1⟩
  have hpairwise : name.Pairwise fun a b => ¬ (a = ' ' ∧ b = 'r') :=
    List.pairwise_of_forall_mem_list fun a ha b _ hab => hblank a ha hab.1
  exact hpairwise.isChain

/-- The lines that are read for the line of a readable name. The longest names leave the end of the line for the
next one. -/
theorem Readable.fileLines_listLine (h : Readable name) (rest : List Char) :
    ∃ lines, fileLines (listLine name ++ rest) = lines ++ fileLines rest ∧
      (lines.filter isListLine).map firstWord = [name] ∧ ∀ line ∈ lines, line <:+: listLine name := by
  have hnot : '\n' ∉ name ++ [' ', ','] := by
    rw [List.mem_append, not_or]
    exact ⟨h.newline_notMem, by decide⟩
  have hlen : (name ++ [' ', ',']).length = name.length + 2 := by rw [List.length_append]; rfl
  have hle : name.length + 2 < 80 := h.length
  have hline : listLine name = (name ++ [' ', ',']) ++ ['\n'] := by
    rw [listLine, List.append_assoc]
    rfl
  have hcomma : ∀ tail : List Char, ',' ∈ tail → isListLine (name ++ tail) = true := fun tail htail =>
    decide_eq_true (List.mem_append_right _ htail)
  have hword : ∀ tail, firstWord (name ++ ' ' :: tail) = name := firstWord_append h.ne_nil h.word (by decide)
  rcases Nat.lt_or_ge (name.length + 2) 79 with hlt | hge
  · refine ⟨[listLine name], ?_, ?_, by simp⟩
    · rw [hline, List.append_assoc, List.singleton_append, fileLines_line hnot (hlen ▸ hlt)]
      rfl
    · rw [listLine, List.filter_cons_of_pos (hcomma _ (by decide)), List.filter_nil, List.map_singleton]
      exact congrArg (fun w => [w]) (hword [',', '\n'])
  · have hfull : fileLines ((name ++ [' ', ',']) ++ ('\n' :: rest)) =
        (name ++ [' ', ',']) :: ['\n'] :: fileLines rest := by
      rw [fileLines, fgetsLines_full _ hnot (by simp) (hlen.trans (by unfold maxStringSize; omega))]
      rfl
    refine ⟨[name ++ [' ', ','], ['\n']], ?_, ?_, ?_⟩
    · rw [hline, List.append_assoc, List.singleton_append, hfull]
      rfl
    · rw [List.filter_cons_of_pos (hcomma _ (by decide)),
        List.filter_cons_of_neg (by decide), List.filter_nil, List.map_singleton]
      exact congrArg (fun w => [w]) (hword [','])
    · rw [List.forall_mem_cons, List.forall_mem_singleton, hline]
      exact ⟨(List.prefix_append _ _).isInfix, (List.suffix_append _ _).isInfix⟩

theorem fileLines_listStart (rest : List Char) : fileLines (listStart ++ rest) = listStart :: fileLines rest := by
  have hnot : '\n' ∉ "Handle list:\x7b".toList := by decide
  exact fileLines_line hnot (by decide) rest

theorem scanResource_of_absent {line : List Char} (h : ¬ hidResource <:+: line) :
    scanResource line resource = resource := if_neg h

/-- **The names.** Readable names are read from the lines of the list. -/
theorem handleList_names (h : ∀ name ∈ names, Readable name) (rest : List Char) :
    handleList (listStart ++ (names.flatMap listLine ++ rest)) = names ++ handleList rest := by
  have hnames : handleList (names.flatMap listLine ++ rest) = names ++ handleList rest := by
    induction names with
    | nil => rfl
    | cons name names ih =>
      obtain ⟨lines, hlines, hwords, -⟩ := (h name List.mem_cons_self).fileLines_listLine
        (names.flatMap listLine ++ rest)
      rw [List.flatMap_cons, List.append_assoc, handleList, hlines, List.filter_append, List.map_append, hwords,
        ← handleList, ih fun name' hname' => h name' (List.mem_cons_of_mem _ hname')]
      rfl
  rw [handleList, fileLines_listStart, List.filter_cons_of_neg (by decide), ← handleList, hnames]

/-- **The number.** The lines of readable names do not change the number. -/
theorem getHidResource_names (h : ∀ name ∈ names, Readable name) (rest : List Char) :
    getHidResource (listStart ++ (names.flatMap listLine ++ rest)) resource = getHidResource rest resource := by
  have hnames : getHidResource (names.flatMap listLine ++ rest) resource = getHidResource rest resource := by
    induction names with
    | nil => rfl
    | cons name names ih =>
      have hname := h name List.mem_cons_self
      obtain ⟨lines, hlines, -, hpart⟩ := hname.fileLines_listLine (names.flatMap listLine ++ rest)
      have hskip : lines.foldl (fun resource line => scanResource line resource) resource = resource := by
        refine List.foldlRecOn (motive := (· = resource)) lines _ rfl fun r hr line hline => ?_
        rw [scanResource_of_absent fun hc => not_infix_listLine hname.word (hc.trans (hpart line hline)), hr]
      rw [List.flatMap_cons, List.append_assoc, getHidResource, hlines, List.foldl_append, hskip,
        ← getHidResource, ih fun name' hname' => h name' (List.mem_cons_of_mem _ hname')]
  rw [getHidResource, fileLines_listStart, List.foldl_cons, scanResource_of_absent (by decide), ← getHidResource, hnames]

/-! ## The file that is written -/

/-- The lines behind the list, for the numbers that occur. -/
theorem listEnd_read (hr : resource.toNat ≤ 4) :
    handleList (listEnd resource) = [] ∧ ∀ r, getHidResource (listEnd resource) r = resource := by
  have hall : ∀ n ≤ 4, handleList (listEnd (UInt8.ofNat n)) = [] ∧
      fileLines (listEnd (UInt8.ofNat n)) = ["\x7d\n".toList, resourceLine (UInt8.ofNat n)] ∧
      hidResource <:+: resourceLine (UInt8.ofNat n) ∧
      ((matchFormat hidResource (resourceLine (UInt8.ofNat n))).bind scanDecimal).map UInt8.ofInt =
        some (UInt8.ofNat n) := by decide +kernel
  obtain ⟨hlist, hlines, hpart, hscan⟩ := hall resource.toNat hr
  rw [UInt8.ofNat_toNat] at hlist hlines hpart hscan
  refine ⟨hlist, fun r => ?_⟩
  rw [getHidResource, hlines, List.foldl_cons, scanResource_of_absent (by decide), List.foldl_cons, List.foldl_nil,
    scanResource, if_pos hpart, hscan]
  rfl

/-- **The list is read back.** -/
theorem handleList_file (h : ∀ name ∈ names, Readable name) (hr : resource.toNat ≤ 4) :
    handleList (hidResourceFile names resource) = names := by
  rw [hidResourceFile, handleList_names h, (listEnd_read hr).1, List.append_nil]

/-- **The number is read back.** -/
theorem getHidResource_file (h : ∀ name ∈ names, Readable name) (hr : resource.toNat ≤ 4) (r : UInt8) :
    getHidResource (hidResourceFile names resource) r = resource := by
  rw [hidResourceFile, getHidResource_names h, (listEnd_read hr).2]

/-! ## Other names -/

/-- What is read is a word that fits into the buffer. -/
theorem of_mem_handleList {text : List Char} (h : name ∈ handleList text) :
    name ≠ [] ∧ (∀ c ∈ name, isBlank c = false) ∧ name.length < maxStringSize := by
  obtain ⟨line, hline, rfl⟩ := List.mem_map.1 h
  obtain ⟨hmem, hcomma⟩ := List.mem_filter.1 hline
  have hlen : line.length ≤ maxStringSize - 1 := length_le_of_mem_fgetsLines (by decide) hmem
  refine ⟨firstWord_ne_nil (c := ',') (by decide) (of_decide_eq_true hcomma), fun c => not_isBlank_of_mem_firstWord, ?_⟩
  exact (length_firstWord_le line).trans_lt (Nat.lt_of_le_pred (by decide) hlen)

/-- A line of the list. -/
theorem mem_handleList_of_mem {text : List Char} (line : List Char) (hline : line ∈ fileLines text) (hcomma : ',' ∈ line) :
    firstWord line ∈ handleList text :=
  List.mem_map_of_mem (List.mem_filter.2 ⟨hline, decide_eq_true hcomma⟩)

/-- A name that nearly fills the buffer leaves a comma for the next line. -/
theorem comma_mem_handleList (hne : name ≠ []) (hword : ∀ c ∈ name, isBlank c = false)
    (hlen : maxStringSize ≤ name.length + 2) (hlt : name.length < maxStringSize) (rest : List Char) :
    [','] ∈ handleList (listLine name ++ rest) := by
  have hnewline : '\n' ∉ name := fun hc => absurd (hword _ hc) (by decide)
  have hline : listLine name ++ rest = name ++ ' ' :: ',' :: '\n' :: rest := by
    rw [listLine, List.append_assoc]
    rfl
  unfold maxStringSize at hlen hlt
  rw [hline]
  rcases Nat.lt_or_ge name.length 79 with hshort | hfull
  · have hnot : '\n' ∉ name ++ [' '] := by
      rw [List.mem_append, not_or]
      exact ⟨hnewline, by decide⟩
    have hlines : fileLines ((name ++ [' ']) ++ (',' :: '\n' :: rest)) =
        (name ++ [' ']) :: [',', '\n'] :: fileLines rest := by
      rw [fileLines, fgetsLines_full _ hnot (by simp)
        (by rw [List.length_append, List.length_singleton]; unfold maxStringSize; omega)]
      exact congrArg _ (fgetsLines_line rest (show '\n' ∉ [','] by decide) (by decide))
    rw [List.append_assoc] at hlines
    exact mem_handleList_of_mem [',', '\n']
      (hlines ▸ List.mem_cons_of_mem _ List.mem_cons_self) (by decide)
  · have hlines : fileLines (name ++ (' ' :: ',' :: '\n' :: rest)) =
        name :: [' ', ',', '\n'] :: fileLines rest := by
      rw [fileLines, fgetsLines_full _ hnewline hne (by unfold maxStringSize; omega)]
      exact congrArg _ (fgetsLines_line rest (show '\n' ∉ [' ', ','] by decide) (by decide))
    exact mem_handleList_of_mem [' ', ',', '\n']
      (hlines ▸ List.mem_cons_of_mem _ List.mem_cons_self) (by decide)

/-- **Other names.** The file with a name that is not readable does not list that name once. -/
theorem not_readBack (h : ∀ name ∈ names, Readable name) (hname : ¬ Readable name)
    (hnodup : (handleList (hidResourceFile (names ++ [name]) resource)).Nodup) :
    (handleList (hidResourceFile (names ++ [name]) resource)).toFinset ≠ insert name names.toFinset := by
  intro hset
  have hmem : name ∈ handleList (hidResourceFile (names ++ [name]) resource) := by
    rw [← List.mem_toFinset, hset]
    exact Finset.mem_insert_self name _
  obtain ⟨hne, hword, hlt⟩ := of_mem_handleList hmem
  have hlen : maxStringSize ≤ name.length + 2 := by
    by_contra hshort
    exact hname ⟨hne, hword, Nat.not_le.1 hshort⟩
  have hcomma := comma_mem_handleList hne hword hlen hlt (listEnd resource)
  have hfile : handleList (hidResourceFile (names ++ [name]) resource) =
      names ++ handleList (listLine name ++ listEnd resource) := by
    rw [hidResourceFile, List.flatMap_append, List.flatMap_singleton, List.append_assoc, handleList_names h]
  rw [hfile] at hnodup hset
  have hnot : [','] ∉ names := fun hc => List.disjoint_of_nodup_append hnodup hc hcomma
  have hin : [','] ∈ insert name names.toFinset := by
    rw [← hset, List.mem_toFinset]
    exact List.mem_append_right _ hcomma
  rcases Finset.mem_insert.1 hin with rfl | hin
  · exact absurd hlen (by decide)
  · exact hnot (List.mem_toFinset.1 hin)

end BmcVnc
