import Bmc.Lib.TextSearch
import Bmc.Bafi.ErrorTables

/-!
# The summary of the errors of a socket

`createSummaryString` writes the first errors of a socket into one text, and `getErrorStrings` reads them off it again.

* `ErrorCtx`, `createSummaryString`: the text from the logging registers; `ErrorCtx.text`: the value that it gives for a first
  error;
* `getErrorStrings`: the values from the text;
* `RoundTrips`: the specification; `Recoverable`: what it takes;
* **`roundTrips_iff`**: for which contexts it is met.
-/

namespace BmcBafi

open BmcLib

/-! ## The text -/

/-- The first errors. -/
inductive FirstError where
  | ierr
  | mcerr
  | rmca
  deriving DecidableEq, Repr

/-- `SocketCtx` -/
structure ErrorCtx extends SocketCtx where
  mcerrErr : UInt32
  mcerrErrSpr : UInt32

/-- The bits of `McerrErrorSource` with their names. -/
def mcerrErrorSource : List (ℕ × String) :=
  [(18, "IntMSMI_MCERR"), (19, "IntMSMI_IERR"), (21, "ExtMSMI_MCERR"), (22, "ExtMSMI_IERR"), (24, "MSMI_MCP_SMBUS_ERR"),
   (26, "IntMCERR"), (27, "IntIERR"), (29, "ExtMCERR"), (30, "ExtIERR")]

/-- The bits of `McerrErrorSourceSpr` with their names. -/
def mcerrErrorSourceSpr : List (ℕ × String) :=
  [(14, "IntRMSMI"), (15, "IntRMCA"), (18, "IntMSMI_MCERR"), (19, "IntMSMI_IERR"), (21, "ExtMSMI_MCERR"),
   (22, "ExtMSMI_IERR"), (24, "MSMI_MCP_SMBUS_ERR"), (25, "CAM_PARITY_ERR"), (26, "IntMCERR"), (27, "IntIERR"),
   (29, "ExtMCERR"), (30, "ExtIERR")]

/-- `0x0`, for a first error that is not valid. -/
abbrev noError : List Char := ['0', 'x', '0']

/-- `N/A`, for one whose source is not in the table. -/
abbrev notDecoded : List Char := ['N', '/', 'A']

/-- The note behind a source that is not among the MCA errors. -/
def note (name : String) : List Char :=
  ", ".toList ++ name.toList ++ " value doesn't match any MCE bank#, manual review may be required".toList

namespace ErrorCtx

variable (cpu : CpuName) (ctx : ErrorCtx)

/-- The sources of errors, in the order in which they are written. -/
def sourceNames : List String :=
  if ctx.mcerrErr = 0 ∧ ctx.mcerrErrSpr = 0 then ["MCA_ERR_SRC_LOG = N/A"]
  else if cpu = .spr then (mcerrErrorSourceSpr.filter fun x => ctx.mcerrErrSpr.toNat.testBit x.1).map Prod.snd
  else (mcerrErrorSource.filter fun x => ctx.mcerrErr.toNat.testBit x.1).map Prod.snd

/-- The identifier of the source of a first error. -/
def srcId : FirstError → ℕ
  | .ierr => if cpu = .spr then firstSrcId 10 ctx.ierrSpr else firstSrcId 8 ctx.ierr
  | .mcerr => if cpu = .spr then firstSrcId 10 ctx.mcerrSpr else firstSrcId 8 ctx.mcerr
  | .rmca => firstSrcId 10 ctx.rMcerrErr

/-- Whether a first error counts as valid. For all but SPR the bits of the layout of SPR are cleared. -/
def valid : FirstError → Bool
  | .ierr => firstValid 8 ctx.ierr || cpu = .spr && firstValid 10 ctx.ierrSpr
  | .mcerr => firstValid 8 ctx.mcerr || cpu = .spr && firstValid 10 ctx.mcerrSpr
  | .rmca => cpu = .spr && firstValid 10 ctx.rMcerrErr

/-- The value of a first error. -/
def text (k : FirstError) : List Char :=
  if ctx.valid cpu k = true then (cpu.firstError.lookup (ctx.srcId cpu k)).getD notDecoded else noError

/-- The note behind a first error is written. -/
def noted (mce : Option (List (List Char))) (k : FirstError) : Bool :=
  ctx.valid cpu k && (cpu.firstError.lookup (ctx.srcId cpu k)).any fun src => !firstMcerrInMce mce src

end ErrorCtx

/-- `createSummaryString`. `mce` are the names of the MCA errors in the summary of the socket. -/
def createSummaryString (cpu : CpuName) (ctx : ErrorCtx) (mce : Option (List (List Char))) : List Char :=
  let output := (ctx.sourceNames cpu).flatMap (fun name => name.toList ++ ", ".toList) ++
    "FirstIERR = ".toList ++ ctx.text cpu .ierr ++ ", ".toList ++
    "FirstMCERR = ".toList ++ ctx.text cpu .mcerr ++ (if ctx.noted cpu mce .mcerr = true then note "FirstMCERR" else []) ++
    ", ".toList ++
    if cpu.isSpr = true then
      "RMCA_FirstMCERR = ".toList ++ ctx.text cpu .rmca ++
        if ctx.noted cpu mce .rmca = true then note "RMCA_FirstMCERR" else []
    else []
  if cpu.isSpr = true then output else output.take (output.length - 2)

/-! ## The values -/

/-- The values of the first errors. -/
structure ErrorStrings where
  ierr : List Char
  mcerr : List Char
  rmcaMcerr : List Char

/-- The text from `key` to `stop`, or to the end, without its first `skip` letters. A key that is not there is an
exception. -/
def errorString (entry key : List Char) (stop : Option (List Char)) (skip : ℕ) : Option (List Char) := do
  let left ← findText key entry
  let text := match stop.bind fun stop => findText stop (entry.drop left) with
    | some right => (entry.drop left).take right
    | none => entry.drop left
  if skip ≤ text.length then some (text.drop skip) else none

/-- `getErrorStrings`. `old` are the values before, of which that of RMCA stays except for SPR. -/
def getErrorStrings (cpu : CpuName) (entry : List Char) (old : ErrorStrings) : Option ErrorStrings := do
  let ierr ← errorString entry "FirstIERR".toList (some ", FirstMCERR".toList) 12
  let mcerr ← errorString entry "FirstMCERR".toList (some ", RMCA_FirstMCERR".toList) 13
  let rmcaMcerr ← if cpu = .spr then errorString entry "RMCA_FirstMCERR".toList none 18 else some old.rmcaMcerr
  some ⟨ierr, mcerr, rmcaMcerr⟩

/-! ## Specification -/

/-- The valid bit of a first error in the register that the CPU has. -/
def ErrorCtx.validBit (cpu : CpuName) (ctx : ErrorCtx) : FirstError → Bool
  | .ierr => if cpu.isSpr = true then firstValid 10 ctx.ierrSpr else firstValid 8 ctx.ierr
  | .mcerr => if cpu.isSpr = true then firstValid 10 ctx.mcerrSpr else firstValid 8 ctx.mcerr
  | .rmca => firstValid 10 ctx.rMcerrErr

/-- The first errors that are written: RMCA only for the SPR types. -/
def CpuName.writes (cpu : CpuName) (k : FirstError) : Prop := k = .rmca → cpu.isSpr = true

/-- **Round trip.** The values are `0x0` exactly where the valid bit is clear, and those that were written are read off the
text. -/
structure RoundTrips (cpu : CpuName) (ctx : ErrorCtx) (mce : Option (List (List Char))) (old : ErrorStrings) : Prop where
  zero : ∀ k, cpu.writes k → (ctx.text cpu k = noError ↔ ctx.validBit cpu k = false)
  recovered : ∃ r, getErrorStrings cpu (createSummaryString cpu ctx mce) old = some r ∧
    r.ierr = ctx.text cpu .ierr ∧ r.mcerr = ctx.text cpu .mcerr ∧
      (cpu.isSpr = true → r.rmcaMcerr = ctx.text cpu .rmca)

/-- The bits of the two layouts agree as far as the summary mixes them: for SPR a bit of the common layout counts as well, and
for SPR-HBM only those of the common layout count. -/
def LayoutsMatch (ctx : ErrorCtx) : CpuName → Prop
  | .spr => (firstValid 8 ctx.ierr = true → firstValid 10 ctx.ierrSpr = true) ∧
      (firstValid 8 ctx.mcerr = true → firstValid 10 ctx.mcerrSpr = true)
  | .sprHbm => firstValid 8 ctx.ierr = firstValid 10 ctx.ierrSpr ∧ firstValid 8 ctx.mcerr = firstValid 10 ctx.mcerrSpr ∧
      firstValid 10 ctx.rMcerrErr = false
  | _ => True

/-- What it takes: the layouts match, no note was written that is read as well, and for SPR-HBM the value of RMCA was `0x0`
before. -/
structure Recoverable (cpu : CpuName) (ctx : ErrorCtx) (mce : Option (List (List Char))) (old : ErrorStrings) : Prop where
  layouts : LayoutsMatch ctx cpu
  mcerr : ctx.noted cpu mce .mcerr = false
  rmca : cpu = .spr → ctx.noted cpu mce .rmca = false
  hbm : cpu = .sprHbm → old.rmcaMcerr = noError

/-! ## Texts -/

/-- The neighbours that tell the marks of the summary from the values. -/
def markPairs : List (Char × Char) := [(' ', 'F'), ('t', 'M'), ('A', '_'), (' ', 'R')]

/-- No mark of the summary begins in the text. -/
structure Plain (s : List Char) : Prop where
  head : ∀ c ∈ s.head?, c ≠ 'F' ∧ c ≠ 'R'
  chain : s.IsChain fun a b => (a, b) ∉ markPairs

theorem plain_iff {s : List Char} : Plain s ↔
    s.head?.all (fun c => decide (c ≠ 'F' ∧ c ≠ 'R')) = true ∧ s.IsChain fun a b => (a, b) ∉ markPairs := by
  rw [Option.all_eq_true]
  simp only [decide_eq_true_iff]
  exact ⟨fun h => ⟨h.head, h.chain⟩, fun h => ⟨h.1, h.2⟩⟩

instance (s : List Char) : Decidable (Plain s) := decidable_of_iff' _ plain_iff

/-- The letters that marks go on with. -/
def markLetters : List Char := ['F', 'M', '_', 'R']

theorem isChain_of_notMem : ∀ {s : List Char}, (∀ c ∈ s, c ∉ markLetters) → s.IsChain fun a b => (a, b) ∉ markPairs
  | [], _ => .nil
  | [_], _ => .singleton _
  | a :: b :: s, h => by
    refine .cons_cons (fun hmark => ?_) (isChain_of_notMem fun c hc => h c (List.mem_cons_of_mem a hc))
    have hletters : ∀ p ∈ markPairs, p.2 ∈ markLetters := by decide
    exact h b (List.mem_cons_of_mem a List.mem_cons_self) (hletters (a, b) hmark)

theorem plain_of_notMem {s : List Char} (h : ∀ c ∈ s, c ∉ markLetters) : Plain s := by
  refine ⟨fun c hc => ?_, isChain_of_notMem h⟩
  have hc' := h c (List.mem_of_mem_head? hc)
  constructor
  · rintro rfl
    exact hc' (by decide)
  · rintro rfl
    exact hc' (by decide)

theorem notMem_markLetters_of_isDigit {c : Char} (h : c.isDigit = true) : c ∉ markLetters := by
  intro hc
  have hno : ∀ c ∈ markLetters, c.isDigit = false := List.forall_iff_forall_mem.1 (by decide)
  rw [hno c hc] at h
  cases h

theorem notMem_markLetters_toDigits (n : ℕ) : ∀ c ∈ Nat.toDigits 10 n, c ∉ markLetters :=
  fun _ hc => notMem_markLetters_of_isDigit (Nat.isDigit_of_mem_toDigits (by decide) (by decide) hc)

/-- A value of the table: no mark begins in it, and it is not `0x0`. -/
def SourceOk (s : List Char) : Prop := Plain s ∧ ∃ c ∈ s.head?, c ≠ '0'

theorem sourceOk_iff {s : List Char} : SourceOk s ↔ Plain s ∧ s.head?.any (fun c => decide (c ≠ '0')) = true := by
  rw [Option.any_eq_true]
  simp only [decide_eq_true_iff]
  rfl

instance (s : List Char) : Decidable (SourceOk s) := decidable_of_iff' _ sourceOk_iff

theorem sourceOk_at (t : SourceText) (ht : ∀ s, t = .text s → SourceOk s.toList) (n : ℕ) : SourceOk (t.at n) := by
  have hcore : ∀ c ∈ "Core".toList, c ∉ markLetters := List.forall_iff_forall_mem.1 (by decide)
  have hrange : ∀ c ∈ ", bank 0-3".toList, c ∉ markLetters := List.forall_iff_forall_mem.1 (by decide)
  have hcha : ∀ c ∈ "CHA".toList, c ∉ markLetters := List.forall_iff_forall_mem.1 (by decide)
  have hbank : ∀ c ∈ ", bank ".toList, c ∉ markLetters := List.forall_iff_forall_mem.1 (by decide)
  cases t with
  | core =>
    have hstart := List.forall_mem_append.2 ⟨hcore, notMem_markLetters_toDigits n⟩
    exact ⟨plain_of_notMem (List.forall_mem_append.2 ⟨hstart, hrange⟩), 'C', rfl, by decide⟩
  | cha =>
    refine ⟨plain_of_notMem (List.forall_mem_append.2 ⟨?_, notMem_markLetters_toDigits _⟩), 'C', rfl, by decide⟩
    exact List.forall_mem_append.2 ⟨List.forall_mem_append.2 ⟨hcha, notMem_markLetters_toDigits _⟩, hbank⟩
  | chaFrom first =>
    exact ⟨plain_of_notMem (List.forall_mem_append.2 ⟨hcha, notMem_markLetters_toDigits _⟩), 'C', rfl, by decide⟩
  | text s => exact ht s rfl

/-- The text of a row that has only one. -/
def SourceText.single : SourceText → Option String
  | text s => some s
  | _ => none

/-- The codes of `markPairs`. -/
def markCodes : List (ℕ × ℕ) := [(32, 70), (116, 77), (65, 95), (32, 82)]

/-- What is asked of a value, by the codes of its letters. -/
def CodesOk (codes : List ℕ) : Prop :=
  codes.head?.any (fun n => !(n == 70 || n == 82 || n == 48)) = true ∧ codes.IsChain fun a b => (a, b) ∉ markCodes

instance (codes : List ℕ) : Decidable (CodesOk codes) := inferInstanceAs (Decidable (_ ∧ _))

theorem sourceOk_of_codes {s : List Char} (h : CodesOk (s.map Char.toNat)) : SourceOk s := by
  obtain ⟨hhead, hchain⟩ := h
  have hpairs : ∀ p ∈ markPairs, (p.1.toNat, p.2.toNat) ∈ markCodes := by decide
  refine sourceOk_iff.2 ⟨⟨fun c hc => ?_, ?_⟩, ?_⟩
  · rw [List.head?_map, Option.mem_def.1 hc] at hhead
    constructor
    · rintro rfl
      exact absurd hhead (by decide)
    · rintro rfl
      exact absurd hhead (by decide)
  · rw [List.isChain_map] at hchain
    exact hchain.imp fun a b hab hmem => hab (hpairs _ hmem)
  · rw [List.head?_map, Option.any_map] at hhead
    rw [Option.any_eq_true] at hhead ⊢
    obtain ⟨c, hc, hcode⟩ := hhead
    refine ⟨c, hc, decide_eq_true ?_⟩
    rintro rfl
    exact absurd hcode (by decide)

theorem rows_ok (cpu : CpuName) : ∀ row ∈ cpu.firstErrorRows, ∀ s ∈ row.2.2.single, SourceOk s.toList := by
  cases cpu
  all_goals
    simp only [CpuName.firstErrorRows, icxfirstError, cpxfirstError, skxfirstError, sprfirstError,
      List.forall_mem_cons, SourceText.single, Option.mem_def, reduceCtorEq, Option.some.injEq, forall_eq',
      false_implies, implies_true, true_and, List.not_mem_nil, and_true]
    constructorm* _ ∧ _
  -- a literal is compared by the list of its letters
  all_goals
    rw [String.toList_ofList]
    exact sourceOk_of_codes (by decide)

/-- **The values of the tables** cannot be taken for marks. -/
theorem sourceOk_of_lookup {cpu : CpuName} {id : ℕ} {src : List Char} (h : cpu.firstError.lookup id = some src) :
    SourceOk src := by
  have hmem : (id, src) ∈ cpu.firstError := by
    obtain ⟨l, l', hl, -⟩ := List.lookup_eq_some_iff.1 h
    rw [hl]
    exact List.mem_append_right l List.mem_cons_self
  obtain ⟨row, hrow, hentry⟩ := List.mem_flatMap.1 hmem
  obtain ⟨n, -, hn⟩ := List.mem_map.1 hentry
  rw [← (Prod.mk.inj hn).2]
  refine sourceOk_at _ (fun s hs => rows_ok cpu row hrow s ?_) n
  rw [hs]
  rfl

namespace ErrorCtx

variable (cpu : CpuName) (ctx : ErrorCtx)

theorem text_of_valid {k : FirstError} (h : ctx.valid cpu k = true) :
    (∃ src, cpu.firstError.lookup (ctx.srcId cpu k) = some src ∧ ctx.text cpu k = src) ∨ ctx.text cpu k = notDecoded := by
  rw [text, if_pos h]
  cases cpu.firstError.lookup (ctx.srcId cpu k) with
  | none => exact .inr rfl
  | some src => exact .inl ⟨src, rfl, rfl⟩

/-- A value is `0x0` exactly if the first error does not count as valid. -/
theorem text_eq_noError_iff (k : FirstError) : ctx.text cpu k = noError ↔ ctx.valid cpu k = false := by
  cases hvalid : ctx.valid cpu k with
  | false => exact iff_of_true (by rw [text, hvalid]; rfl) rfl
  | true =>
    refine iff_of_false (fun h => ?_) Bool.noConfusion
    rcases ctx.text_of_valid cpu hvalid with ⟨src, hsrc, htext⟩ | htext
    · obtain ⟨-, c, hc, hzero⟩ := sourceOk_of_lookup hsrc
      rw [← htext, h] at hc
      exact hzero (Option.some.inj hc).symm
    · rw [htext] at h
      exact absurd h (by decide)

theorem plain_text (k : FirstError) : Plain (ctx.text cpu k) := by
  cases hvalid : ctx.valid cpu k with
  | false =>
    rw [(ctx.text_eq_noError_iff cpu k).2 hvalid]
    decide
  | true =>
    rcases ctx.text_of_valid cpu hvalid with ⟨src, hsrc, htext⟩ | htext
    · rw [htext]
      exact (sourceOk_of_lookup hsrc).1
    · rw [htext]
      decide

/-- What stands behind `FirstMCERR = ` up to the next mark. -/
def mcerrField (mce : Option (List (List Char))) : List Char :=
  ctx.text cpu .mcerr ++ if ctx.noted cpu mce .mcerr = true then note "FirstMCERR" else []

/-- What stands behind `RMCA_FirstMCERR = `. -/
def rmcaField (mce : Option (List (List Char))) : List Char :=
  ctx.text cpu .rmca ++ if ctx.noted cpu mce .rmca = true then note "RMCA_FirstMCERR" else []

end ErrorCtx

/-! ## Marks -/

/-- Two letters are nowhere neighbours. -/
def NoPair (p : Char × Char) (s : List Char) : Prop := s.IsChain fun a b => (a, b) ≠ p

instance (p : Char × Char) (s : List Char) : Decidable (NoPair p s) := inferInstanceAs (Decidable (s.IsChain _))

theorem Plain.noPair {s : List Char} (h : Plain s) {p : Char × Char} (hp : p ∈ markPairs) : NoPair p s :=
  h.chain.imp fun _ _ hab heq => hab (heq ▸ hp)

theorem NoPair.append {p : Char × Char} {s t : List Char} (hs : NoPair p s) (ht : NoPair p t)
    (hst : ∀ a ∈ s.getLast?, ∀ b ∈ t.head?, (a, b) ≠ p) : NoPair p (s ++ t) :=
  List.IsChain.append hs ht hst

/-- A mark does not begin in a value between a blank and a comma. -/
theorem not_infix_between {p : Char × Char} {q u s w : List Char} (hq : ¬ NoPair p q) (hu : NoPair p u)
    (hblank : u.getLast? = some ' ') (hw : NoPair p w) (hcomma : w.head? = some ',') (hp : p.2 ≠ ',') (hs : NoPair p s)
    (hhead : ∀ c ∈ s.head?, (' ', c) ≠ p) : ¬ q <:+: u ++ (s ++ w) := by
  have hne : ∀ a, (a, ',') ≠ p := fun a h => hp (h ▸ rfl)
  refine not_infix_of_isChain (NoPair.append hu (hs.append hw fun a _ b hb => ?_) fun a ha b hb => ?_) hq
  · obtain rfl := Option.some.inj (hcomma.symm.trans hb)
    exact hne a
  · obtain rfl := Option.some.inj (hblank.symm.trans ha)
    cases s with
    | nil =>
      obtain rfl := Option.some.inj (hcomma.symm.trans hb)
      exact hne ' '
    | cons c s => exact hhead b hb

/-- All the names of sources of errors. -/
def allSourceNames : List String :=
  "MCA_ERR_SRC_LOG = N/A" :: (mcerrErrorSource ++ mcerrErrorSourceSpr).map Prod.snd

theorem sourceNames_subset (cpu : CpuName) (ctx : ErrorCtx) : ∀ name ∈ ctx.sourceNames cpu, name ∈ allSourceNames := by
  intro name hname
  unfold ErrorCtx.sourceNames at hname
  split_ifs at hname
  · exact List.mem_singleton.1 hname ▸ List.mem_cons_self
  · obtain ⟨x, hx, rfl⟩ := List.mem_map.1 hname
    exact List.mem_cons_of_mem _ (List.mem_map_of_mem (List.mem_append_right _ (List.mem_of_mem_filter hx)))
  · obtain ⟨x, hx, rfl⟩ := List.mem_map.1 hname
    exact List.mem_cons_of_mem _ (List.mem_map_of_mem (List.mem_append_left _ (List.mem_of_mem_filter hx)))

/-- The names of the sources, as they are written. -/
def sourceText (names : List String) : List Char := names.flatMap fun name => name.toList ++ ", ".toList

/-- A mark without a blank is not in the names. -/
theorem infix_sourceText_iff {q w : List Char} (hblank : ' ' ∉ q) : ∀ {names : List String},
    (∀ name ∈ names, ¬ q <:+: name.toList ++ [',']) → (q <:+: sourceText names ++ w ↔ q <:+: w)
  | [], _ => Iff.rfl
  | name :: names, h => by
    have hcons : sourceText (name :: names) ++ w = (name.toList ++ [',']) ++ ' ' :: (sourceText names ++ w) := by
      simp [sourceText]
    rw [hcons, infix_append_cons_iff hblank, infix_sourceText_iff hblank fun n hn => h n (List.mem_cons_of_mem name hn)]
    exact or_iff_right (h name List.mem_cons_self)

theorem marks_not_in_names : ∀ q ∈ ["FirstI".toList, "FirstM".toList, "RMCA_".toList], ' ' ∉ q ∧
    ∀ name ∈ allSourceNames, ¬ q <:+: name.toList ++ [','] := by
  decide +kernel

/-- The marks are behind the names of the sources. -/
theorem infix_names_iff {cpu : CpuName} {ctx : ErrorCtx} {q w : List Char}
    (hq : q ∈ ["FirstI".toList, "FirstM".toList, "RMCA_".toList]) :
    q <:+: sourceText (ctx.sourceNames cpu) ++ w ↔ q <:+: w := by
  obtain ⟨hblank, hnames⟩ := marks_not_in_names q hq
  exact infix_sourceText_iff hblank fun name hname => hnames name (sourceNames_subset cpu ctx name hname)

/-! ## Reading -/

section Reading

variable {cpu : CpuName} {ctx : ErrorCtx} {mce : Option (List (List Char))} {old : ErrorStrings}

/-- The part from RMCA on. -/
def rmcaPart (cpu : CpuName) (ctx : ErrorCtx) (mce : Option (List (List Char))) : List Char :=
  if cpu.isSpr = true then ", RMCA_FirstMCERR".toList ++ (" = ".toList ++ ctx.rmcaField cpu mce) else []

/-- The part from MCERR on, without its comma. -/
def mcerrPart (cpu : CpuName) (ctx : ErrorCtx) (mce : Option (List (List Char))) : List Char :=
  "FirstMCERR = ".toList ++ (ctx.mcerrField cpu mce ++ rmcaPart cpu ctx mce)

/-- The summary is the names of the sources, and the first errors behind them. -/
theorem createSummaryString_eq : createSummaryString cpu ctx mce = sourceText (ctx.sourceNames cpu) ++
    ("FirstIERR = ".toList ++ (ctx.text cpu .ierr ++ (", ".toList ++ mcerrPart cpu ctx mce))) := by
  have hcut : ∀ l : List Char, (l ++ ", ".toList).take ((l ++ ", ".toList).length - 2) = l := by
    intro l
    rw [List.length_append]
    exact List.take_left' rfl
  unfold createSummaryString mcerrPart rmcaPart
  by_cases hspr : cpu.isSpr = true
  · simp only [if_pos hspr]
    simp [sourceText, ErrorCtx.mcerrField, ErrorCtx.rmcaField]
  · simp only [if_neg hspr, List.append_nil, hcut]
    simp [sourceText, ErrorCtx.mcerrField]

/-- A value that is found behind its key. -/
theorem errorString_eq {front key sep value back entry : List Char} {stop : Option (List Char)} {skip : ℕ}
    (hentry : entry = front ++ (key ++ (sep ++ (value ++ back)))) (hkey : findText key entry = some front.length)
    (hskip : key.length + sep.length = skip)
    (hstop : (stop.bind fun stop => findText stop (key ++ (sep ++ (value ++ back)))) = some (key ++ (sep ++ value)).length ∨
      back = [] ∧ (stop.bind fun stop => findText stop (key ++ (sep ++ (value ++ back)))) = none) :
    errorString entry key stop skip = some value := by
  have hdrop : entry.drop front.length = key ++ (sep ++ (value ++ back)) := by
    rw [hentry, List.drop_left]
  have htext : key ++ (sep ++ (value ++ back)) = key ++ (sep ++ value) ++ back := by
    simp only [List.append_assoc]
  have hvalue : (key ++ (sep ++ value)).drop skip = value := by
    rw [← List.append_assoc, ← hskip, ← List.length_append, List.drop_left]
  have hlen : skip ≤ (key ++ (sep ++ value)).length := by
    rw [List.length_append, List.length_append]
    omega
  rw [errorString, hkey]
  simp only [Option.bind_eq_bind, Option.bind_some, hdrop]
  rcases hstop with h | ⟨rfl, h⟩
  · simp only [h]
    rw [htext, List.take_left, if_pos hlen, hvalue]
  · simp only [h]
    rw [List.append_nil, if_pos hlen, hvalue]

theorem noPair_note : NoPair (' ', 'R') (note "FirstMCERR") ∧ NoPair ('A', '_') (note "FirstMCERR") := by
  decide +kernel

theorem noPair_mcerrField {p : Char × Char} (hp : p ∈ markPairs) (hcomma : p.2 ≠ ',') (hnote : NoPair p (note "FirstMCERR")) :
    NoPair p (ctx.mcerrField cpu mce) := by
  rw [ErrorCtx.mcerrField]
  split_ifs
  · refine ((ctx.plain_text cpu .mcerr).noPair hp).append hnote fun a _ b hb h => hcomma ?_
    rw [← h]
    exact (Option.some.inj hb).symm
  · rw [List.append_nil]
    exact (ctx.plain_text cpu .mcerr).noPair hp

theorem head_mcerrField : ∀ c ∈ (ctx.mcerrField cpu mce).head?, c ≠ 'R' := by
  intro c hc
  rw [ErrorCtx.mcerrField, List.head?_append] at hc
  cases htext : (ctx.text cpu .mcerr).head? with
  | some c' =>
    rw [htext, Option.some_or] at hc
    exact Option.some.inj hc ▸ ((ctx.plain_text cpu .mcerr).head c' htext).2
  | none =>
    rw [htext, Option.none_or] at hc
    split_ifs at hc
    · obtain rfl := Option.some.inj hc
      decide
    · cases hc

/-- The marks with what is written around them. -/
theorem marks_split : "FirstIERR = ".toList = "FirstIERR".toList ++ " = ".toList ∧
    "FirstMCERR = ".toList = "FirstMCERR".toList ++ " = ".toList ∧
    ", FirstMCERR".toList = ", ".toList ++ "FirstMCERR".toList ∧
    ", RMCA_FirstMCERR".toList = ", ".toList ++ "RMCA_FirstMCERR".toList := by
  decide

/-- A mark is found at the end of a text in which it does not begin. -/
theorem findText_mark {entry front mark : List Char} (q v rest : List Char) (hmark : mark = q ++ v)
    (hentry : entry = front ++ (mark ++ rest)) (hno : ¬ q <:+: front ++ q.dropLast) :
    findText mark entry = some front.length := by
  rw [hentry, hmark]
  exact findText_append v rest front hno

/-- The value of IERR is read off. -/
theorem errorString_ierr : errorString (createSummaryString cpu ctx mce) "FirstIERR".toList (some ", FirstMCERR".toList) 12 =
    some (ctx.text cpu .ierr) := by
  have hplain := ctx.plain_text cpu .ierr
  have hentry : createSummaryString cpu ctx mce = sourceText (ctx.sourceNames cpu) ++ ("FirstIERR".toList ++
      (" = ".toList ++ (ctx.text cpu .ierr ++ (", ".toList ++ mcerrPart cpu ctx mce)))) := by
    simp only [createSummaryString_eq, marks_split.1, List.append_assoc]
  refine errorString_eq hentry (findText_mark "FirstI".toList "ERR".toList _ (by decide) hentry ?_) rfl (.inl ?_)
  · rw [infix_names_iff (by decide)]
    decide
  · have hno : ¬ ", F".toList <:+: "FirstIERR = ".toList ++ (ctx.text cpu .ierr ++ ", ".toList) :=
      not_infix_between (p := (' ', 'F')) (by decide) (by decide) (by decide) (by decide) (by decide) (by decide)
        (hplain.noPair (by decide)) fun c hc h => (hplain.head c hc).1 (Prod.mk.inj h).2
    refine findText_mark ", F".toList "irstMCERR".toList
      (" = ".toList ++ (ctx.mcerrField cpu mce ++ rmcaPart cpu ctx mce)) (by decide) ?_ ?_
    · unfold mcerrPart
      simp only [marks_split.2.1, marks_split.2.2.1, List.append_assoc]
    · rw [List.append_assoc, List.append_assoc]
      exact hno

/-- The mark of MCERR is behind IERR. -/
theorem not_infix_before_mcerr (cpu : CpuName) (ctx : ErrorCtx) : ¬ "FirstM".toList <:+:
    sourceText (ctx.sourceNames cpu) ++ ("FirstIERR = ".toList ++ (ctx.text cpu .ierr ++ ", First".toList)) := by
  have hplain := ctx.plain_text cpu .ierr
  rw [infix_names_iff (by decide)]
  exact not_infix_between (p := ('t', 'M')) (by decide) (by decide) (by decide) (by decide) (by decide) (by decide)
    (hplain.noPair (by decide)) fun c _ h => absurd (Prod.mk.inj h).1 (by decide)

/-- The value of MCERR is read off, with its note. -/
theorem errorString_mcerr : errorString (createSummaryString cpu ctx mce) "FirstMCERR".toList
    (some ", RMCA_FirstMCERR".toList) 13 = some (ctx.mcerrField cpu mce) := by
  have hentry : createSummaryString cpu ctx mce =
      (sourceText (ctx.sourceNames cpu) ++ ("FirstIERR = ".toList ++ (ctx.text cpu .ierr ++ ", ".toList))) ++
        ("FirstMCERR".toList ++ (" = ".toList ++ (ctx.mcerrField cpu mce ++ rmcaPart cpu ctx mce))) := by
    rw [createSummaryString_eq]
    unfold mcerrPart
    simp only [marks_split.2.1, List.append_assoc]
  have hno : ¬ ", R".toList <:+: "FirstMCERR = ".toList ++ (ctx.mcerrField cpu mce ++ ", ".toList) :=
    not_infix_between (p := (' ', 'R')) (by decide) (by decide) (by decide) (by decide) (by decide) (by decide)
      (noPair_mcerrField (by decide) (by decide) noPair_note.1) fun c hc h => head_mcerrField c hc (Prod.mk.inj h).2
  refine errorString_eq hentry (findText_mark "FirstM".toList "CERR".toList _ (by decide) hentry ?_) rfl ?_
  · have hmark : ", First".toList = ", ".toList ++ "FirstM".toList.dropLast := by decide
    have h := not_infix_before_mcerr cpu ctx
    rw [hmark] at h
    simpa only [List.append_assoc] using h
  · rw [Option.bind_some]
    unfold rmcaPart
    split_ifs
    · refine .inl (findText_mark ", R".toList "MCA_FirstMCERR".toList (" = ".toList ++ ctx.rmcaField cpu mce)
        (by decide) ?_ ?_)
      · simp only [List.append_assoc]
      · rw [List.append_assoc, List.append_assoc]
        exact hno
    · refine .inr ⟨rfl, findText_eq_none_iff.2 fun h => hno ?_⟩
      have hq : ", R".toList <:+: ", RMCA_FirstMCERR".toList := ⟨[], "MCA_FirstMCERR".toList, by decide⟩
      refine hq.trans (h.trans ⟨[], ", ".toList, ?_⟩)
      simp only [marks_split.2.1, List.append_assoc, List.append_nil, List.nil_append]

/-- The value of RMCA is read off, with its note. -/
theorem errorString_rmca (hspr : cpu.isSpr = true) : errorString (createSummaryString cpu ctx mce) "RMCA_FirstMCERR".toList
    none 18 = some (ctx.rmcaField cpu mce) := by
  have hentry : createSummaryString cpu ctx mce =
      (sourceText (ctx.sourceNames cpu) ++ ("FirstIERR = ".toList ++ (ctx.text cpu .ierr ++ (", ".toList ++
        ("FirstMCERR = ".toList ++ (ctx.mcerrField cpu mce ++ ", ".toList)))))) ++
        ("RMCA_FirstMCERR".toList ++ (" = ".toList ++ (ctx.rmcaField cpu mce ++ []))) := by
    rw [createSummaryString_eq]
    unfold mcerrPart rmcaPart
    simp only [if_pos hspr, marks_split.2.2.2, List.append_assoc, List.append_nil]
  have hierr : ¬ "RMCA_".toList <:+: "FirstIERR = ".toList ++ (ctx.text cpu .ierr ++ [',']) :=
    not_infix_between (p := ('A', '_')) (by decide) (by decide) (by decide) (by decide) (by decide) (by decide)
      ((ctx.plain_text cpu .ierr).noPair (by decide)) fun c _ h => absurd (Prod.mk.inj h).1 (by decide)
  have hmcerr : ¬ "RMCA_".toList <:+: "FirstMCERR = ".toList ++ (ctx.mcerrField cpu mce ++ ", RMCA".toList) :=
    not_infix_between (p := ('A', '_')) (by decide) (by decide) (by decide) (by decide) (by decide) (by decide)
      (noPair_mcerrField (by decide) (by decide) noPair_note.2) fun c _ h => absurd (Prod.mk.inj h).1 (by decide)
  refine errorString_eq hentry (findText_mark "RMCA_".toList "FirstMCERR".toList _ (by decide) hentry ?_) rfl
    (.inr ⟨rfl, rfl⟩)
  have hmark : ", RMCA".toList = ", ".toList ++ "RMCA_".toList.dropLast := by decide
  have hblank : ", ".toList = [','] ++ [' '] := by decide
  have hsplit : "FirstIERR = ".toList ++ (ctx.text cpu .ierr ++ (", ".toList ++ ("FirstMCERR = ".toList ++
      (ctx.mcerrField cpu mce ++ ", ".toList)))) ++ "RMCA_".toList.dropLast =
        ("FirstIERR = ".toList ++ (ctx.text cpu .ierr ++ [','])) ++
          ' ' :: ("FirstMCERR = ".toList ++ (ctx.mcerrField cpu mce ++ ", RMCA".toList)) := by
    rw [hmark]
    conv_lhs => rw [hblank]
    simp only [List.append_assoc, List.cons_append, List.nil_append, hblank]
  rw [List.append_assoc, infix_names_iff (by decide), hsplit, infix_append_cons_iff (by decide), not_or]
  exact ⟨hierr, hmcerr⟩

/-- **What is read off**: the values with their notes. -/
theorem getErrorStrings_eq : getErrorStrings cpu (createSummaryString cpu ctx mce) old =
    some ⟨ctx.text cpu .ierr, ctx.mcerrField cpu mce, if cpu = .spr then ctx.rmcaField cpu mce else old.rmcaMcerr⟩ := by
  rw [getErrorStrings, errorString_ierr, errorString_mcerr]
  simp only [Option.bind_eq_bind, Option.bind_some]
  split_ifs with hspr
  · rw [errorString_rmca (by rw [hspr]; rfl)]
    rfl
  · rfl

theorem append_note_eq_iff {s : List Char} {name : String} {b : Bool} :
    s ++ (if b = true then note name else []) = s ↔ b = false := by
  rw [List.append_right_eq_self]
  cases b with
  | false => exact iff_of_true rfl rfl
  | true => exact iff_of_false (List.cons_ne_nil ',' _) Bool.noConfusion

/-! ## Round trips -/

theorem CpuName.forall_writes_iff {P : FirstError → Prop} :
    (∀ k, cpu.writes k → P k) ↔ P .ierr ∧ P .mcerr ∧ (cpu.isSpr = true → P .rmca) := by
  constructor
  · intro h
    refine ⟨h .ierr ?_, h .mcerr ?_, fun hspr => h .rmca fun _ => hspr⟩
    · exact fun h => FirstError.noConfusion h
    · exact fun h => FirstError.noConfusion h
  · rintro ⟨hierr, hmcerr, hrmca⟩ k hk
    cases k with
    | ierr => exact hierr
    | mcerr => exact hmcerr
    | rmca => exact hrmca (hk rfl)

/-- The values are `0x0` where they should be exactly if the layouts match. -/
theorem zero_iff_layoutsMatch : (∀ k, cpu.writes k → (ctx.text cpu k = noError ↔ ctx.validBit cpu k = false)) ↔
    LayoutsMatch ctx cpu := by
  simp only [ErrorCtx.text_eq_noError_iff, CpuName.forall_writes_iff]
  cases cpu with
  | icx | cpx | clx | skx | spr | sprHbm =>
    simp only [ErrorCtx.valid, ErrorCtx.validBit, LayoutsMatch, CpuName.isSpr]
    generalize firstValid 8 ctx.ierr = ierr
    generalize firstValid 10 ctx.ierrSpr = ierrSpr
    generalize firstValid 8 ctx.mcerr = mcerr
    generalize firstValid 10 ctx.mcerrSpr = mcerrSpr
    generalize firstValid 10 ctx.rMcerrErr = rmca
    revert ierr ierrSpr mcerr mcerrSpr rmca
    decide

/-- **Round trip.** The values are `0x0` where they should be and are read off the summary exactly if the layouts match, no
note was written that is read as part of a value, and for SPR-HBM, whose value of RMCA is not read, it was `0x0` before. -/
theorem roundTrips_iff (cpu : CpuName) (ctx : ErrorCtx) (mce : Option (List (List Char))) (old : ErrorStrings) :
    RoundTrips cpu ctx mce old ↔ Recoverable cpu ctx mce old := by
  have hfields : (∃ r, getErrorStrings cpu (createSummaryString cpu ctx mce) old = some r ∧
      r.ierr = ctx.text cpu .ierr ∧ r.mcerr = ctx.text cpu .mcerr ∧ (cpu.isSpr = true → r.rmcaMcerr = ctx.text cpu .rmca)) ↔
        ctx.noted cpu mce .mcerr = false ∧
          (cpu.isSpr = true → (if cpu = .spr then ctx.rmcaField cpu mce else old.rmcaMcerr) = ctx.text cpu .rmca) := by
    rw [getErrorStrings_eq]
    constructor
    · rintro ⟨r, hr, -, hmcerr, hrmca⟩
      obtain rfl := Option.some.inj hr
      exact ⟨append_note_eq_iff.1 hmcerr, hrmca⟩
    · rintro ⟨hmcerr, hrmca⟩
      exact ⟨_, rfl, rfl, append_note_eq_iff.2 hmcerr, hrmca⟩
  have hrmca : (cpu.isSpr = true → (if cpu = .spr then ctx.rmcaField cpu mce else old.rmcaMcerr) = ctx.text cpu .rmca) ↔
      (cpu = .spr → ctx.noted cpu mce .rmca = false) ∧ (cpu = .sprHbm → old.rmcaMcerr = noError) := by
    cases cpu with
    | spr =>
      have hnote : ctx.rmcaField .spr mce = ctx.text .spr .rmca ↔ ctx.noted .spr mce .rmca = false := append_note_eq_iff
      simp [CpuName.isSpr, hnote]
    | sprHbm =>
      have hzero : ctx.text .sprHbm .rmca = noError := (ctx.text_eq_noError_iff _ _).2 rfl
      simp [CpuName.isSpr, hzero]
    | icx | cpx | clx | skx => simp [CpuName.isSpr]
  constructor
  · rintro ⟨hzero, hrecovered⟩
    obtain ⟨hmcerr, hr⟩ := hfields.1 hrecovered
    obtain ⟨hspr, hhbm⟩ := hrmca.1 hr
    exact ⟨zero_iff_layoutsMatch.1 hzero, hmcerr, hspr, hhbm⟩
  · rintro ⟨hlayouts, hmcerr, hspr, hhbm⟩
    exact ⟨zero_iff_layoutsMatch.2 hlayouts, hfields.2 ⟨hmcerr, hrmca.2 ⟨hspr, hhbm⟩⟩⟩

end Reading

/-- A context with a valid IERR, and one with a valid MCERR of the same source. -/
def ierrOnCore (mcerrSpr : UInt32) : ErrorCtx := ⟨⟨0, 0x405, 0, mcerrSpr, 0⟩, 0, 0⟩

/-- On SPR-HBM the summary has no first error, and on SPR the note behind a source without MCA error is read as a part
of it. -/
theorem hbm_not_roundTrips : ¬ RoundTrips .sprHbm (ierrOnCore 0) none ⟨noError, noError, noError⟩ ∧
    ¬ RoundTrips .spr (ierrOnCore 0x405) none ⟨noError, noError, noError⟩ := by
  constructor
  · intro h
    exact absurd (zero_iff_layoutsMatch.1 h.zero).1 (by decide)
  · intro h
    obtain ⟨r, hr, -, hmcerr, -⟩ := h.recovered
    rw [getErrorStrings_eq] at hr
    obtain rfl := Option.some.inj hr
    have hnoted : (ierrOnCore 0x405).noted .spr none .mcerr = false := append_note_eq_iff.1 hmcerr
    exact absurd hnoted (by decide +kernel)

end BmcBafi
