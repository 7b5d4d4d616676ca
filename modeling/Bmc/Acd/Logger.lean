import Bmc.Lib.Hex

/-!
# Where a register is logged

`GenerateJsonPath` and `GenerateRegisterName` of `logger.c` make the path and the name of a register
from templates with placeholders.

* `printf`: a format with one argument; `levelName`, `generateRegisterName`, `location`;
* `fill`: a text with all placeholders replaced; `slots`: the indices that its placeholders stand for;
* `eq_fill_of_take`, `printf_eq_fill`: when the code replaces what it should;
* **`located_iff`**: which templates give every context its own location.
-/

namespace BmcAcd

/-! ## Contexts -/

/-- The indices that placeholders stand for. -/
inductive LoopIndex where
  | cpu
  | core
  | thread
  | cha
  | repeats
  deriving DecidableEq, Repr

/-- The variables of the loops around a command. The number of a CHA comes from two masks of 32 bits. -/
structure LoopContext where
  cpu : UInt8
  core : UInt8
  thread : UInt8
  cha : UInt8
  repeats : ℕ
  deriving DecidableEq, Repr

namespace LoopContext

variable (c : LoopContext)

/-- The value of an index. -/
def index : LoopIndex → ℕ
  | .cpu => c.cpu.toNat
  | .core => c.core.toNat
  | .thread => c.thread.toNat
  | .cha => c.cha.toNat
  | .repeats => c.repeats

/-- The value in `contextLogger`, of one byte. -/
def logged (k : LoopIndex) : ℕ := c.index k % 256

end LoopContext

/-! ## Formats -/

/-- `%d`. -/
def decimal (n : ℕ) : List Char := Nat.toDigits 10 n

/-- A format with its argument, while it is not used: `none` where the text is not determined. -/
def printf : List Char → Option ℕ → Option (List Char)
  | [], _ => some []
  | '%' :: 'd' :: l, some n => (printf l none).map (decimal n ++ ·)
  | '%' :: '%' :: l, a => (printf l a).map ('%' :: ·)
  | '%' :: _, _ => none
  | c :: l, a => (printf l a).map (c :: ·)

/-- `LOGGER_JSON_STRING_LEN`. -/
abbrev loggerJsonStringLen : ℕ := 64

/-- `cd_snprintf_s` to a string of the logger. -/
def cdSnprintf (format : List Char) (n : ℕ) : Option (List Char) :=
  (printf format (some n)).map (·.take (loggerJsonStringLen - 1))

/-- `LOGGER_CPU`. -/
abbrev loggerCpu : List Char := ['c', 'p', 'u', '%', 'd']

/-- `LOGGER_CORE`. -/
abbrev loggerCore : List Char := ['c', 'o', 'r', 'e', '%', 'd']

/-- `LOGGER_THREAD`. -/
abbrev loggerThread : List Char := ['t', 'h', 'r', 'e', 'a', 'd', '%', 'd']

/-- `LOGGER_CBO`. -/
abbrev loggerCbo : List Char := ['c', 'b', 'o', '%', 'd']

/-- `LOGGER_CBO_UC`. -/
abbrev loggerCboUc : List Char := ['C', 'B', 'O', '%', 'd']

/-- `LOGGER_CHA`. -/
abbrev loggerCha : List Char := ['c', 'h', 'a', '%', 'd']

/-- `LOGGER_REPEAT`. -/
abbrev loggerRepeat : List Char := ['%', 'd']

/-! ## Templates -/

/-- What the input file says about the place of a register: `OutputPath`, the two elements of `Name`, and
`Repeat`. `behind` is what lies in memory behind the end of the name. -/
structure RegisterTemplate where
  outputPath : List Char
  name : List Char
  behind : List Char
  sectionName : Option (List Char)
  repeats : ℕ
  repeats_pos : 0 < repeats

/-- The placeholders of a path, in the order in which they are tried. -/
def pathPlaceholders : List (List Char × LoopIndex) :=
  [(loggerCpu, .cpu), (loggerCore, .core), (loggerThread, .thread), (loggerCha, .cha),
    (loggerCbo, .cha), (loggerCboUc, .cha)]

/-- The name of a level of the path: a placeholder at its start replaces it. -/
def levelName (c : LoopContext) (token : List Char) : List Char :=
  pathPlaceholders.foldl
    (fun s p => if p.1.isPrefixOf token then (cdSnprintf p.1 (c.logged p.2)).getD [] else s)
    (token.take (loggerJsonStringLen - 1))

/-- The index with which `GenerateRegisterName` formats a name, if it finds a placeholder. -/
def nameIndex (window : List Char) : Option LoopIndex :=
  if loggerCha <:+: window ∨ loggerCbo <:+: window then some .cha
  else if loggerCore <:+: window then some .core
  else if loggerCpu <:+: window then some .core
  else if loggerThread <:+: window then some .core
  else if loggerRepeat <:+: window then some .repeats
  else none

namespace RegisterTemplate

variable (t : RegisterTemplate)

/-- `ParsePath`. -/
def tokens : List (List Char) := (t.outputPath.splitOn '/').filter (· ≠ [])

/-- `LOGGER_JSON_PATH_STRING_LEN`. -/
abbrev loggerJsonPathStringLen : ℕ := 128

/-- `MAX_NUM_PATH_LEVELS`. -/
abbrev maxNumPathLevels : ℕ := 11

/-- `GenerateJsonPath`, if the path fits in its arrays. -/
def generateJsonPath (c : LoopContext) : Option (List (List Char)) :=
  if t.outputPath.length < loggerJsonPathStringLen ∧ t.tokens.length < maxNumPathLevels then
    some (t.tokens.map (levelName c) ++
      t.sectionName.toList.map (·.take (loggerJsonStringLen - 1)))
  else none

/-- What is searched for placeholders: as many bytes as a string of the logger has. -/
def window : List Char := (t.name ++ '\x00' :: t.behind).take loggerJsonStringLen

/-- `GenerateRegisterName`, if the name fits in its array. -/
def generateRegisterName (c : LoopContext) : Option (List Char) :=
  match nameIndex t.window with
  | some k => cdSnprintf t.name (c.logged k)
  | none => if t.name.length < loggerJsonStringLen then some t.name else none

/-- The path and the name under which a register is logged. -/
def location (c : LoopContext) : Option (List (List Char) × List Char) :=
  (t.generateJsonPath c).bind fun path => (t.generateRegisterName c).map fun name => (path, name)

end RegisterTemplate

/-! ## Filled texts -/

/-- The words in front of `%d`. -/
def placeholderWords : List (List Char × LoopIndex) :=
  pathPlaceholders.map fun p => (p.1.dropLast.dropLast, p.2)

/-- The index of a `%d` behind `before`, which is written backwards. -/
def slotIndex (before : List Char) : LoopIndex :=
  match placeholderWords.find? fun p => p.1.reverse.isPrefixOf before with
  | some p => p.2
  | none => .repeats

/-- A text behind `before`, with its placeholders replaced. -/
def fill (v : LoopIndex → ℕ) : List Char → List Char → List Char
  | _, [] => []
  | before, '%' :: 'd' :: l => decimal (v (slotIndex before)) ++ fill v ('d' :: '%' :: before) l
  | before, c :: l => c :: fill v (c :: before) l

/-- The indices of the placeholders of a text behind `before`. -/
def slots : List Char → List Char → List LoopIndex
  | _, [] => []
  | before, '%' :: 'd' :: l => slotIndex before :: slots ('d' :: '%' :: before) l
  | before, c :: l => slots (c :: before) l

attribute [local grind =] fill slots printf

theorem decimal_injective : Function.Injective decimal := BmcLib.toDigits_ten_injective

theorem isDigit_of_mem_decimal {n : ℕ} {c : Char} (h : c ∈ decimal n) : c.isDigit = true :=
  Nat.isDigit_of_mem_toDigits (by decide) (by decide) h

theorem decimal_ne_nil (n : ℕ) : decimal n ≠ [] := Nat.toDigits_ne_nil

variable {v : LoopIndex → ℕ} {b l : List Char}

theorem fill_slot (v : LoopIndex → ℕ) (b l : List Char) :
    fill v b ('%' :: 'd' :: l) = decimal (v (slotIndex b)) ++ fill v ('d' :: '%' :: b) l := by
  rw [fill]

theorem slots_slot (b l : List Char) :
    slots b ('%' :: 'd' :: l) = slotIndex b :: slots ('d' :: '%' :: b) l := by
  rw [slots]

theorem fill_cons {c : Char} (h : ∀ l', c = '%' → l = 'd' :: l' → False) :
    fill v b (c :: l) = c :: fill v (c :: b) l := by
  rw [fill]
  exact h

theorem slots_cons {c : Char} (h : ∀ l', c = '%' → l = 'd' :: l' → False) :
    slots b (c :: l) = slots (c :: b) l := by
  rw [slots]
  exact h

theorem fill_eq_nil (h : fill v b l = []) : l = [] := by
  induction b, l using fill.induct with
  | case1 b => rfl
  | case2 b l ih =>
    rw [fill_slot] at h
    exact absurd (List.append_eq_nil_iff.1 h).1 (decimal_ne_nil _)
  | case3 b c l hc ih =>
    rw [fill_cons hc] at h
    exact absurd h (List.cons_ne_nil _ _)

/-- Without placeholders, a text stays. -/
theorem fill_of_slots (h : slots b l = []) : fill v b l = l := by
  induction b, l using fill.induct with
  | case1 b => rfl
  | case2 b l ih =>
    rw [slots_slot] at h
    exact absurd h (List.cons_ne_nil _ _)
  | case3 b c l hc ih =>
    rw [slots_cons hc] at h
    rw [fill_cons hc, ih h]

/-- **Texts that are copied.** What is cut off is no filled text, unless there was nothing to fill. -/
theorem eq_fill_of_take {m : ℕ} (h : l.take m = fill v b l) : slots b l = [] := by
  induction b, l using fill.induct generalizing m with
  | case1 b => rfl
  | case2 b l ih =>
    rw [fill_slot] at h
    obtain ⟨c, r, hdec⟩ := List.exists_cons_of_ne_nil (decimal_ne_nil (v (slotIndex b)))
    have hdigit : c.isDigit = true := isDigit_of_mem_decimal (by rw [hdec]; exact List.mem_cons_self)
    rw [hdec] at h
    cases m with
    | zero => exact absurd h.symm (List.cons_ne_nil _ _)
    | succ m =>
      obtain ⟨rfl, -⟩ := List.cons_eq_cons.1 h
      exact absurd hdigit (by decide)
  | case3 b c l hc ih =>
    rw [fill_cons hc] at h
    rw [slots_cons hc]
    cases m with
    | zero => exact absurd h.symm (List.cons_ne_nil _ _)
    | succ m => exact ih (List.cons_eq_cons.1 h).2

theorem slots_of_notMem (h : '%' ∉ l) : slots b l = [] := by
  induction b, l using fill.induct with
  | case1 b => rfl
  | case2 b l ih => exact absurd List.mem_cons_self h
  | case3 b c l hc ih =>
    rw [slots_cons hc]
    exact ih fun hl => h (List.mem_cons_of_mem _ hl)

/-- A placeholder behind a text without any. -/
theorem fill_append_slot {x : List Char} (hx : '%' ∉ x) (v : LoopIndex → ℕ) (b l : List Char) :
    fill v b (x ++ '%' :: 'd' :: l) = x ++ (decimal (v (slotIndex (x.reverse ++ b))) ++
      fill v ('d' :: '%' :: (x.reverse ++ b)) l) := by
  induction x generalizing b with
  | nil => exact fill_slot v b l
  | cons c x ih =>
    have hc : c ≠ '%' := fun h => hx (h ▸ List.mem_cons_self)
    rw [List.cons_append, fill_cons fun _ h => absurd h hc,
      ih fun h => hx (List.mem_cons_of_mem _ h)]
    simp

theorem slots_append_slot {x : List Char} (hx : '%' ∉ x) (b l : List Char) :
    slots b (x ++ '%' :: 'd' :: l) =
      slotIndex (x.reverse ++ b) :: slots ('d' :: '%' :: (x.reverse ++ b)) l := by
  induction x generalizing b with
  | nil => exact slots_slot b l
  | cons c x ih =>
    have hc : c ≠ '%' := fun h => hx (h ▸ List.mem_cons_self)
    rw [List.cons_append, slots_cons fun _ h => absurd h hc,
      ih fun h => hx (List.mem_cons_of_mem _ h)]
    simp

/-! ## Formatted names -/

theorem printf_of_notMem (h : '%' ∉ l) (a : Option ℕ) : printf l a = some l := by
  induction l with
  | nil => rw [printf]
  | cons c l ih =>
    have hc : c ≠ '%' := fun hc => h (hc ▸ List.mem_cons_self)
    rw [printf, ih fun hl => h (List.mem_cons_of_mem _ hl)]
    · rfl
    all_goals simp [hc]

theorem printf_append_slot {x y : List Char} (hx : '%' ∉ x) (hy : '%' ∉ y) (n : ℕ) :
    printf (x ++ '%' :: 'd' :: y) (some n) = some (x ++ (decimal n ++ y)) := by
  induction x with
  | nil =>
    rw [List.nil_append, printf, printf_of_notMem hy]
    rfl
  | cons c x ih =>
    have hc : c ≠ '%' := fun hc => hx (hc ▸ List.mem_cons_self)
    rw [List.cons_append, printf, ih fun h => hx (List.mem_cons_of_mem _ h)]
    · rfl
    all_goals simp [hc]

/-- With all indices 1, it does not matter what stands before a text. -/
theorem fill_one (b b' l : List Char) : fill (fun _ => 1) b l = fill (fun _ => 1) b' l := by
  induction b, l using fill.induct generalizing b' with
  | case1 b => rfl
  | case2 b l ih => rw [fill_slot, fill_slot, ih]
  | case3 b c l hc ih => rw [fill_cons hc, fill_cons hc, ih]

theorem fill_percent (b l : List Char) :
    (fill (fun _ => 1) b ('%' :: l)).length = (fill (fun _ => 1) b l).length + 1 ∨
      ∃ r, l = 'd' :: r := by
  by_cases h : ∃ r, l = 'd' :: r
  · exact .inr h
  · left
    rw [fill_cons fun r _ hr => h ⟨r, hr⟩, List.length_cons, fill_one _ b]

/-- The format has one placeholder, and nothing else that begins like one. -/
def OneSlot (l : List Char) : Prop := ∃ x y, l = x ++ '%' :: 'd' :: y ∧ '%' ∉ x ∧ '%' ∉ y

theorem printf_cons {c : Char} {a : Option ℕ} (h : c ≠ '%') :
    printf (c :: l) a = (printf l a).map (c :: ·) := by
  rw [printf]
  all_goals simp [h]

theorem printf_percent_else {a : Option ℕ} (h : ∀ r n, a = some n → l = 'd' :: r → False)
    (h' : ∀ r, l = '%' :: r → False) : printf ('%' :: l) a = none := by
  rw [printf]
  · exact h'
  · exact h

/-- With all indices 1, a formatted text is no longer than the filled one. -/
theorem length_printf_le {a : Option ℕ} {p : List Char} (ha : ∀ n, a = some n → n = 1)
    (h : printf l a = some p) : p.length ≤ (fill (fun _ => 1) b l).length := by
  induction l, a using printf.induct generalizing b p with
  | case1 a =>
    rw [printf, Option.some_inj] at h
    exact h ▸ le_rfl
  | case2 l n ih =>
    obtain rfl := ha n rfl
    rw [printf] at h
    obtain ⟨p', hp', rfl⟩ := Option.map_eq_some_iff.1 h
    rw [fill_slot, List.length_append, List.length_append]
    exact Nat.add_le_add_left (ih (by simp) hp') _
  | case3 l a ih =>
    rw [printf] at h
    obtain ⟨p', hp', rfl⟩ := Option.map_eq_some_iff.1 h
    have hle := ih (b := b) ha hp'
    have hlen : (fill (fun _ => 1) b ('%' :: '%' :: l)).length =
        (fill (fun _ => 1) b ('%' :: l)).length + 1 :=
      (fill_percent b ('%' :: l)).resolve_right fun ⟨r, hr⟩ =>
        absurd (List.cons_eq_cons.1 hr).1 (by decide)
    rw [hlen, List.length_cons]
    rcases fill_percent b l with h₁ | ⟨r, rfl⟩
    · omega
    · rw [fill_slot, List.length_append, fill_one _ b]
      rw [fill_cons fun _ hc => absurd hc (by decide), List.length_cons, fill_one _ b] at hle
      have hpos := List.length_pos_of_ne_nil (decimal_ne_nil 1)
      omega
  | case4 l a h₁ h₂ =>
    rw [printf_percent_else h₁ h₂] at h
    exact absurd h (Option.some_ne_none p).symm
  | case5 c l a h₁ h₂ hc ih =>
    rw [printf_cons hc] at h
    obtain ⟨p', hp', rfl⟩ := Option.map_eq_some_iff.1 h
    rw [fill_cons fun _ h => absurd h hc, List.length_cons, List.length_cons]
    exact Nat.succ_le_succ (ih ha hp')

/-- **Formats.** With all indices 1, a format gives the filled text only if it has no `%` at all, or one
placeholder for its argument. -/
theorem printf_eq_fill {a : Option ℕ} (ha : ∀ n, a = some n → n = 1)
    (h : printf l a = some (fill (fun _ => 1) b l)) : '%' ∉ l ∨ a = some 1 ∧ OneSlot l := by
  induction l, a using printf.induct generalizing b with
  | case1 a => exact .inl List.not_mem_nil
  | case2 l n ih =>
    obtain rfl := ha n rfl
    rw [printf, fill_slot] at h
    obtain ⟨p', hp', heq⟩ := Option.map_eq_some_iff.1 h
    rw [List.append_cancel_left heq] at hp'
    have hrest := (ih (by simp) hp').resolve_right fun h => absurd h.1 (by simp)
    exact .inr ⟨rfl, [], l, rfl, List.not_mem_nil, hrest⟩
  | case3 l a ih =>
    -- the text is shorter than the filled one
    rw [printf] at h
    obtain ⟨p', hp', heq⟩ := Option.map_eq_some_iff.1 h
    rw [fill_cons fun r _ hr => absurd (List.cons_eq_cons.1 hr).1 (by decide)] at heq
    have heq' : p' = fill (fun _ => 1) ('%' :: b) ('%' :: l) := (List.cons_eq_cons.1 heq).2
    have hle := length_printf_le (b := '%' :: b) ha hp'
    rcases fill_percent ('%' :: b) l with h₁ | ⟨r, rfl⟩
    · rw [heq'] at hle
      omega
    · -- a letter of the format against a digit
      rw [fill_slot] at heq'
      rw [printf_cons (by decide)] at hp'
      obtain ⟨p'', -, rfl⟩ := Option.map_eq_some_iff.1 hp'
      obtain ⟨c, w, hdec⟩ := List.exists_cons_of_ne_nil (decimal_ne_nil 1)
      have hdigit : c.isDigit = true :=
        isDigit_of_mem_decimal (by rw [hdec]; exact List.mem_cons_self)
      rw [hdec] at heq'
      obtain ⟨rfl, -⟩ := List.cons_eq_cons.1 heq'
      exact absurd hdigit (by decide)
  | case4 l a h₁ h₂ =>
    rw [printf_percent_else h₁ h₂] at h
    exact absurd h (Option.some_ne_none _).symm
  | case5 c l a h₁ h₂ hc ih =>
    rw [printf_cons hc, fill_cons fun _ h => absurd h hc] at h
    obtain ⟨p', hp', heq⟩ := Option.map_eq_some_iff.1 h
    rw [(List.cons_eq_cons.1 heq).2] at hp'
    rcases ih ha hp' with hl | ⟨hone, x, y, rfl, hx, hy⟩
    · exact .inl fun h => (List.mem_cons.1 h).elim (fun h => hc h.symm) hl
    · refine .inr ⟨hone, c :: x, y, rfl, fun h => ?_, hy⟩
      exact (List.mem_cons.1 h).elim (fun h => hc h.symm) hx

/-! ## Levels of the path -/

/-- The level is one placeholder, or has none and fits in its string. -/
def LevelOk (token : List Char) : Prop :=
  token ∈ pathPlaceholders.map Prod.fst ∨ slots [] token = [] ∧ token.length < loggerJsonStringLen

theorem length_decimal_le {n : ℕ} (h : n < 256) : (decimal n).length ≤ 3 := by
  have hall : ∀ n < 256, (decimal n).length ≤ 3 := by decide +kernel
  exact hall n h

theorem logged_lt (c : LoopContext) (k : LoopIndex) : c.logged k < 256 := Nat.mod_lt _ (by decide)

/-- Only the last number is counted beyond one byte. -/
theorem logged_of_ne {c : LoopContext} {k : LoopIndex} (h : k ≠ .repeats) : c.logged k = c.index k := by
  cases k with
  | repeats => exact absurd rfl h
  | cpu => exact Nat.mod_eq_of_lt c.cpu.toNat_lt
  | core => exact Nat.mod_eq_of_lt c.core.toNat_lt
  | thread => exact Nat.mod_eq_of_lt c.thread.toNat_lt
  | cha => exact Nat.mod_eq_of_lt c.cha.toNat_lt

/-- What `pathPlaceholders` says about a placeholder. -/
structure PathPlaceholder (p : List Char × LoopIndex) (x : List Char) : Prop where
  eq : p.1 = x ++ ['%', 'd']
  notMem : '%' ∉ x
  short : x.length ≤ 6
  index : slotIndex x.reverse = p.2
  ne : p.2 ≠ .repeats
  found : ∀ c l, levelName c (p.1 ++ l) = (cdSnprintf p.1 (c.logged p.2)).getD []

theorem exists_pathPlaceholder {p : List Char × LoopIndex} (hp : p ∈ pathPlaceholders) :
    ∃ x, PathPlaceholder p x := by
  refine ⟨p.1.dropLast.dropLast, ?_⟩
  simp only [pathPlaceholders, List.mem_cons, List.not_mem_nil, or_false] at hp
  rcases hp with rfl | rfl | rfl | rfl | rfl | rfl <;>
    exact ⟨by decide, by decide, by decide, by decide, by decide, fun _ _ => rfl⟩

theorem PathPlaceholder.levelName_eq {p : List Char × LoopIndex} {x : List Char}
    (h : PathPlaceholder p x) (c : LoopContext) (l : List Char) :
    levelName c (p.1 ++ l) = x ++ decimal (c.index p.2) := by
  have hlen := length_decimal_le (logged_lt c p.2)
  have hshort := h.short
  rw [h.found, cdSnprintf, h.eq, printf_append_slot h.notMem List.not_mem_nil, Option.map_some,
    Option.getD_some, List.append_nil, List.take_of_length_le, logged_of_ne h.ne]
  rw [List.length_append]
  show _ ≤ 63
  omega

theorem PathPlaceholder.fill_eq {p : List Char × LoopIndex} {x : List Char}
    (h : PathPlaceholder p x) (c : LoopContext) (l : List Char) :
    fill c.index [] (p.1 ++ l) =
      x ++ (decimal (c.index p.2) ++ fill c.index ('d' :: '%' :: x.reverse) l) := by
  rw [h.eq, List.append_assoc]
  show fill c.index [] (x ++ '%' :: 'd' :: l) = _
  rw [fill_append_slot h.notMem, List.append_nil, h.index]

/-- A level in which no placeholder stands at the start is copied. -/
theorem levelName_of_no_match {token : List Char} (c : LoopContext)
    (h : ∀ p ∈ pathPlaceholders, ¬ p.1 <+: token) :
    levelName c token = token.take (loggerJsonStringLen - 1) := by
  have hfold : ∀ (ps : List (List Char × LoopIndex)) (s : List Char),
      (∀ p ∈ ps, ¬ p.1 <+: token) →
      ps.foldl (fun s p =>
        if p.1.isPrefixOf token then (cdSnprintf p.1 (c.logged p.2)).getD [] else s) s = s := by
    intro ps
    induction ps with
    | nil => exact fun _ _ => rfl
    | cons p ps ih =>
      intro s hps
      have hp : ¬ p.1.isPrefixOf token = true := fun hp =>
        hps p List.mem_cons_self (List.isPrefixOf_iff_prefix.1 hp)
      rw [List.foldl_cons, if_neg hp]
      exact ih s fun p' hp' => hps p' (List.mem_cons_of_mem _ hp')
  exact hfold _ _ h

/-- **Levels.** The name of a level is the filled level iff it is one placeholder, or has none. -/
theorem levelName_eq_fill_iff (c : LoopContext) (token : List Char) :
    levelName c token = fill c.index [] token ↔ LevelOk token := by
  by_cases hpre : ∃ p ∈ pathPlaceholders, p.1 <+: token
  · obtain ⟨p, hp, l, rfl⟩ := hpre
    obtain ⟨x, hx⟩ := exists_pathPlaceholder hp
    have hslots : slots [] (p.1 ++ l) ≠ [] := by
      rw [hx.eq, List.append_assoc]
      show slots [] (x ++ '%' :: 'd' :: l) ≠ []
      rw [slots_append_slot hx.notMem]
      exact List.cons_ne_nil _ _
    rw [hx.levelName_eq, hx.fill_eq, ← List.append_assoc, List.self_eq_append_right]
    constructor
    · intro h
      rw [fill_eq_nil h, List.append_nil]
      exact .inl (List.mem_map_of_mem hp)
    · rintro (hmem | hnone)
      · -- no placeholder is the beginning of another one
        have hall : ∀ p ∈ pathPlaceholders, ∀ q ∈ pathPlaceholders.map Prod.fst,
            p.1 <+: q → p.1 = q := by decide
        have hq := hall p hp _ hmem (List.prefix_append _ _)
        rw [List.self_eq_append_right.1 hq]
        rfl
      · exact absurd hnone.1 hslots
  · push Not at hpre
    rw [levelName_of_no_match c hpre]
    constructor
    · intro h
      have hslots := eq_fill_of_take h
      rw [fill_of_slots hslots] at h
      have hlen := congrArg List.length h
      rw [List.length_take] at hlen
      change min 63 token.length = token.length at hlen
      exact .inr ⟨hslots, by show _ < 64; omega⟩
    · rintro (hmem | ⟨hslots, hlen⟩)
      · obtain ⟨p, hp, rfl⟩ := List.mem_map.1 hmem
        exact absurd (List.prefix_refl _) (hpre p hp)
      · rw [fill_of_slots hslots, List.take_of_length_le]
        exact Nat.le_sub_one_of_lt hlen

/-! ## Locations -/

theorem LoopContext.ext_index {c c' : LoopContext} (h : ∀ k, c.index k = c'.index k) : c = c' := by
  obtain ⟨cpu, core, thread, cha, repeats⟩ := c
  obtain ⟨cpu', core', thread', cha', repeats'⟩ := c'
  rw [LoopContext.mk.injEq]
  exact ⟨UInt8.toNat_inj.1 (h .cpu), UInt8.toNat_inj.1 (h .core), UInt8.toNat_inj.1 (h .thread),
    UInt8.toNat_inj.1 (h .cha), h .repeats⟩

namespace RegisterTemplate

variable (t : RegisterTemplate)

/-- The contexts in which the command runs. -/
def Runs (c : LoopContext) : Prop := 1 ≤ c.repeats ∧ c.repeats ≤ t.repeats

/-- The location with each placeholder replaced by the index of its own kind. -/
def filled (c : LoopContext) : List (List Char) × List Char :=
  (t.tokens.map (fill c.index []) ++ t.sectionName.toList.map (fill c.index []),
    fill c.index [] t.name)

/-- The path or the name has a placeholder for the index. -/
def HasSlot (k : LoopIndex) : Prop :=
  (∃ s ∈ t.tokens, k ∈ slots [] s) ∨ (∃ s ∈ t.sectionName, k ∈ slots [] s) ∨ k ∈ slots [] t.name

/-- Each placeholder is replaced by its index, and contexts that differ only in indices with
placeholders have different locations. -/
structure Located : Prop where
  filled : ∀ c, t.Runs c → t.location c = some (t.filled c)
  distinct : ∀ c c', t.Runs c → t.Runs c' → c ≠ c' →
    (∀ k, c.index k ≠ c'.index k → t.HasSlot k) → t.location c ≠ t.location c'

/-- The largest value of an index. -/
def largest (k : LoopIndex) : ℕ := if k = .repeats then t.repeats else 255

/-- The name has one placeholder, of the given kind, and always fits in its array. -/
def SlotOk (k : LoopIndex) : Prop :=
  (k = .repeats → t.repeats < 256) ∧
    ∃ x y, t.name = x ++ '%' :: 'd' :: y ∧ '%' ∉ x ∧ '%' ∉ y ∧ slotIndex x.reverse = k ∧
      x.length + (decimal (t.largest k)).length + y.length < loggerJsonStringLen

/-- The name fits in its array, and has no placeholder but one of the kind that the code takes. -/
def NameOk : Prop :=
  match nameIndex t.window with
  | none => slots [] t.name = [] ∧ t.name.length < loggerJsonStringLen
  | some k => '%' ∉ t.name ∧ t.name.length < loggerJsonStringLen ∨ t.SlotOk k

/-- Path and name fit in their arrays, the levels of the path have placeholders at most instead of a whole
level, the name of the section has none, and the name of the register the one that the code takes. -/
structure Careful : Prop where
  fits : t.outputPath.length < loggerJsonPathStringLen ∧ t.tokens.length < maxNumPathLevels
  levels : ∀ s ∈ t.tokens, LevelOk s
  section_ok : ∀ s ∈ t.sectionName, slots [] s = [] ∧ s.length < loggerJsonStringLen
  name : t.NameOk

variable {t} {c : LoopContext}

/-- The path is filled iff each of its levels is. -/
theorem generateJsonPath_eq_iff : t.generateJsonPath c = some (t.filled c).1 ↔
    (t.outputPath.length < loggerJsonPathStringLen ∧ t.tokens.length < maxNumPathLevels) ∧
      (∀ s ∈ t.tokens, LevelOk s) ∧
      ∀ s ∈ t.sectionName, slots [] s = [] ∧ s.length < loggerJsonStringLen := by
  have hsection : ∀ s : List Char, s.take (loggerJsonStringLen - 1) = fill c.index [] s ↔
      slots [] s = [] ∧ s.length < loggerJsonStringLen := by
    intro s
    constructor
    · intro h
      have hslots := eq_fill_of_take h
      rw [fill_of_slots hslots, List.take_eq_self_iff] at h
      exact ⟨hslots, Nat.lt_of_le_sub_one (by decide) h⟩
    · rintro ⟨hslots, hlen⟩
      rw [fill_of_slots hslots, List.take_of_length_le (Nat.le_sub_one_of_lt hlen)]
  have hlevels : t.tokens.map (levelName c) = t.tokens.map (fill c.index []) ↔
      ∀ s ∈ t.tokens, LevelOk s := by
    rw [List.map_inj_left]
    exact forall₂_congr fun s _ => levelName_eq_fill_iff c s
  have hsections : t.sectionName.toList.map (·.take (loggerJsonStringLen - 1)) =
      t.sectionName.toList.map (fill c.index []) ↔
      ∀ s ∈ t.sectionName, slots [] s = [] ∧ s.length < loggerJsonStringLen := by
    rw [List.map_inj_left]
    simp only [Option.mem_toList, Option.mem_def, hsection]
  rw [generateJsonPath, filled]
  split_ifs with hfits
  · rw [Option.some_inj, ← hlevels, ← hsections, and_iff_right hfits]
    constructor
    · exact fun h => List.append_inj h (by rw [List.length_map, List.length_map])
    · exact fun h => congrArg₂ _ h.1 h.2
  · exact iff_of_false (by simp) fun h => hfits h.1

/-- A context in which all indices are 1, except perhaps one. -/
def oneBut (k : LoopIndex) : LoopContext where
  cpu := if k = .cpu then 0 else 1
  core := if k = .core then 0 else 1
  thread := if k = .thread then 0 else 1
  cha := if k = .cha then 0 else 1
  repeats := 1

theorem runs_oneBut (k : LoopIndex) : t.Runs (oneBut k) := ⟨le_rfl, t.repeats_pos⟩

theorem oneBut_repeats : (oneBut .repeats).index = fun _ => 1 := by
  funext k
  cases k <;> rfl

theorem oneBut_logged (k : LoopIndex) : (oneBut .repeats).logged k = 1 := by
  cases k <;> rfl

/-- Contexts tell two indices apart. -/
theorem eq_of_logged {k k' : LoopIndex} (h : ∀ j, (oneBut j).logged k = (oneBut j).index k') :
    k = k' := by
  have hk := h k
  have hk' := h k'
  cases k <;> cases k' <;> first | rfl | exact absurd hk (by decide) | exact absurd hk' (by decide)

theorem length_decimal_logged (j k : LoopIndex) : (decimal ((oneBut j).logged k)).length = 1 := by
  cases j <;> cases k <;> rfl

theorem length_decimal_index (j k : LoopIndex) : (decimal ((oneBut j).index k)).length = 1 := by
  cases j <;> cases k <;> rfl

theorem index_le_largest (hc : t.Runs c) (k : LoopIndex) : c.index k ≤ t.largest k := by
  cases k with
  | repeats => exact hc.2
  | cpu => exact Nat.le_of_lt_succ c.cpu.toNat_lt
  | core => exact Nat.le_of_lt_succ c.core.toNat_lt
  | thread => exact Nat.le_of_lt_succ c.thread.toNat_lt
  | cha => exact Nat.le_of_lt_succ c.cha.toNat_lt

/-- A context in which one index is as large as it gets. -/
def largestAt (k : LoopIndex) : LoopContext where
  cpu := 255
  core := 255
  thread := 255
  cha := 255
  repeats := if k = .repeats then t.repeats else 1

theorem runs_largestAt (k : LoopIndex) : t.Runs (t.largestAt k) := by
  have hpos := t.repeats_pos
  unfold Runs largestAt
  show 1 ≤ (if k = .repeats then t.repeats else 1) ∧ (if k = .repeats then t.repeats else 1) ≤ t.repeats
  split_ifs <;> omega

theorem index_largestAt (k : LoopIndex) : (t.largestAt k).index k = t.largest k := by
  cases k <;> rfl

/-- What the code makes of a name with one placeholder, and what it should make of it. -/
theorem cdSnprintf_slot {x y : List Char} (hx : '%' ∉ x) (hy : '%' ∉ y) (n : ℕ)
    (v : LoopIndex → ℕ) :
    cdSnprintf (x ++ '%' :: 'd' :: y) n = some (fill v [] (x ++ '%' :: 'd' :: y)) ↔
      (x ++ (decimal n ++ y)).take 63 = x ++ (decimal (v (slotIndex x.reverse)) ++ y) := by
  rw [cdSnprintf, printf_append_slot hx hy, Option.map_some, Option.some_inj, fill_append_slot hx,
    fill_of_slots (slots_of_notMem hy), List.append_nil]
  exact Iff.rfl

/-- If the name is always filled, its placeholder is of the kind that the code takes. -/
theorem slotOk_of_filled {k : LoopIndex} {x y : List Char} (hname : t.name = x ++ '%' :: 'd' :: y)
    (hx : '%' ∉ x) (hy : '%' ∉ y)
    (h : ∀ c, t.Runs c → cdSnprintf t.name (c.logged k) = some (fill c.index [] t.name)) :
    t.SlotOk k := by
  have htake : ∀ c, t.Runs c → (x ++ (decimal (c.logged k) ++ y)).take 63 =
      x ++ (decimal (c.index (slotIndex x.reverse)) ++ y) := by
    intro c hc
    rw [← cdSnprintf_slot hx hy, ← hname]
    exact h c hc
  have hlength : ∀ c, t.Runs c → min 63 (x.length + ((decimal (c.logged k)).length + y.length)) =
      x.length + ((decimal (c.index (slotIndex x.reverse))).length + y.length) := by
    intro c hc
    have hlen := congrArg List.length (htake c hc)
    simpa only [List.length_take, List.length_append] using hlen
  -- with numbers of one digit, nothing is cut off
  have hkind : k = slotIndex x.reverse := by
    refine eq_of_logged fun j => decimal_injective ?_
    have hlen := hlength _ (runs_oneBut j)
    have heq := htake _ (runs_oneBut j)
    rw [length_decimal_logged, length_decimal_index] at hlen
    rw [List.take_of_length_le] at heq
    · exact List.append_cancel_right (List.append_cancel_left heq)
    · rw [List.length_append, List.length_append, length_decimal_logged]
      omega
  have hbyte : k = .repeats → t.repeats < 256 := by
    intro hk
    by_contra hge
    have hlen := hlength ⟨0, 0, 0, 0, 256⟩ ⟨(by decide : 1 ≤ 256), not_lt.1 hge⟩
    rw [← hkind, hk] at hlen
    change min 63 (x.length + (1 + y.length)) = x.length + (3 + y.length) at hlen
    omega
  refine ⟨hbyte, x, y, hname, hx, hy, hkind.symm, ?_⟩
  have hlen := hlength _ (t.runs_largestAt k)
  rw [← hkind, index_largestAt] at hlen
  show _ < 64
  omega

theorem length_decimal_mono {m n : ℕ} (h : m ≤ n) : (decimal m).length ≤ (decimal n).length := by
  have hpos := List.length_pos_of_ne_nil (decimal_ne_nil n)
  have hn := (Nat.length_toDigits_le_iff (by decide : 1 < 10) hpos).1 le_rfl
  exact (Nat.length_toDigits_le_iff (by decide) hpos).2 (lt_of_le_of_lt h hn)

/-- A name with a placeholder of the kind that the code takes is filled. -/
theorem SlotOk.filled {k : LoopIndex} (h : t.SlotOk k) (hc : t.Runs c) :
    cdSnprintf t.name (c.logged k) = some (fill c.index [] t.name) := by
  obtain ⟨hbyte, x, y, hname, hx, hy, rfl, hlen⟩ := h
  have hlogged : c.logged (slotIndex x.reverse) = c.index (slotIndex x.reverse) := by
    by_cases hk : slotIndex x.reverse = .repeats
    · have hlt := hbyte hk
      rw [hk]
      exact Nat.mod_eq_of_lt (lt_of_le_of_lt hc.2 hlt)
    · exact logged_of_ne hk
  have hmono := length_decimal_mono (index_le_largest hc (slotIndex x.reverse))
  rw [hname, cdSnprintf_slot hx hy, hlogged, List.take_of_length_le]
  rw [List.length_append, List.length_append]
  change _ < 64 at hlen
  omega

/-- The name of the register is always filled iff the template is careful about it. -/
theorem generateRegisterName_eq_iff :
    (∀ c, t.Runs c → t.generateRegisterName c = some (t.filled c).2) ↔ t.NameOk := by
  unfold generateRegisterName NameOk RegisterTemplate.filled
  cases nameIndex t.window with
  | none =>
    constructor
    · intro h
      have hone := h _ (runs_oneBut .repeats)
      by_cases hlen : t.name.length < loggerJsonStringLen
      · rw [if_pos hlen, Option.some_inj] at hone
        exact ⟨eq_fill_of_take (List.take_length.trans hone), hlen⟩
      · rw [if_neg hlen] at hone
        exact absurd hone (Option.some_ne_none _).symm
    · rintro ⟨hslots, hlen⟩ c -
      rw [if_pos hlen, fill_of_slots hslots]
  | some k =>
    change (∀ c, t.Runs c → cdSnprintf t.name (c.logged k) = some (fill c.index [] t.name)) ↔
      '%' ∉ t.name ∧ t.name.length < loggerJsonStringLen ∨ t.SlotOk k
    constructor
    · intro h
      have hone := h _ (runs_oneBut .repeats)
      obtain ⟨p, hp, hcut⟩ := Option.map_eq_some_iff.1 hone
      rw [oneBut_logged] at hp
      rw [oneBut_repeats] at hcut
      have hle := length_printf_le (b := []) (by simp) hp
      have hlen := congrArg List.length hcut
      rw [List.length_take] at hlen
      change min 63 p.length = (fill (fun _ => 1) [] t.name).length at hlen
      rw [List.take_of_length_le (show p.length ≤ loggerJsonStringLen - 1 by show _ ≤ 63; omega)] at hcut
      rw [hcut] at hp
      rcases printf_eq_fill (by simp) hp with hnone | ⟨-, x, y, hname, hx, hy⟩
      · rw [hcut, fill_of_slots (slots_of_notMem hnone)] at hlen
        exact .inl ⟨hnone, by show _ < 64; omega⟩
      · exact .inr (slotOk_of_filled hname hx hy h)
    · rintro (⟨hnone, hlen⟩ | hslot) c hc
      · rw [cdSnprintf, printf_of_notMem hnone, Option.map_some, fill_of_slots (slots_of_notMem hnone),
          List.take_of_length_le (Nat.le_sub_one_of_lt hlen)]
      · exact hslot.filled hc

theorem location_eq_iff : t.location c = some (t.filled c) ↔
    t.generateJsonPath c = some (t.filled c).1 ∧ t.generateRegisterName c = some (t.filled c).2 := by
  unfold location
  cases t.generateJsonPath c with
  | none => simp
  | some path =>
    cases t.generateRegisterName c with
    | none => simp
    | some name => simp [Prod.ext_iff]

/-- A careful template is filled in every context. -/
theorem filled_iff : (∀ c, t.Runs c → t.location c = some (t.filled c)) ↔ t.Careful := by
  constructor
  · intro h
    obtain ⟨hfits, hlevels, hsection⟩ :=
      generateJsonPath_eq_iff.1 (location_eq_iff.1 (h _ (runs_oneBut .repeats))).1
    exact ⟨hfits, hlevels, hsection,
      generateRegisterName_eq_iff.1 fun c hc => (location_eq_iff.1 (h c hc)).2⟩
  · intro h c hc
    exact location_eq_iff.2 ⟨generateJsonPath_eq_iff.2 ⟨h.fits, h.levels, h.section_ok⟩,
      generateRegisterName_eq_iff.2 h.name c hc⟩

/-- A level with a placeholder tells its index. -/
theorem index_eq_of_level {s : List Char} {k : LoopIndex} (hs : LevelOk s) (hk : k ∈ slots [] s)
    {c c' : LoopContext} (heq : fill c.index [] s = fill c'.index [] s) : c.index k = c'.index k := by
  rcases hs with hmem | ⟨hslots, -⟩
  · obtain ⟨p, hp, rfl⟩ := List.mem_map.1 hmem
    obtain ⟨x, hx⟩ := exists_pathPlaceholder hp
    have hfill : ∀ c : LoopContext, fill c.index [] p.1 = x ++ decimal (c.index p.2) := by
      intro c
      have h := hx.fill_eq c []
      rwa [List.append_nil, fill, List.append_nil] at h
    have hslots : slots [] p.1 = [p.2] := by
      have h := slots_append_slot hx.notMem [] []
      rwa [List.append_nil, hx.index, slots, ← hx.eq] at h
    rw [hslots, List.mem_singleton] at hk
    rw [hfill, hfill] at heq
    rw [hk]
    exact decimal_injective (List.append_cancel_left heq)
  · rw [hslots] at hk
    exact absurd hk List.not_mem_nil

/-- A name with a placeholder tells its index. -/
theorem NameOk.index_eq {k : LoopIndex} (hname : t.NameOk) (hk : k ∈ slots [] t.name)
    {c c' : LoopContext} (heq : fill c.index [] t.name = fill c'.index [] t.name) :
    c.index k = c'.index k := by
  have hnone : slots [] t.name ≠ [] := fun h => absurd (h ▸ hk) List.not_mem_nil
  unfold NameOk at hname
  split at hname
  · exact absurd hname.1 hnone
  · rcases hname with ⟨hpercent, -⟩ | ⟨-, x, y, heqn, hx, hy, -, -⟩
    · exact absurd (slots_of_notMem hpercent) hnone
    · rw [heqn, slots_append_slot hx, slots_of_notMem hy, List.mem_singleton] at hk
      rw [heqn, fill_append_slot hx, fill_append_slot hx, fill_of_slots (slots_of_notMem hy),
        fill_of_slots (slots_of_notMem hy), ← hk] at heq
      exact decimal_injective (List.append_cancel_right (List.append_cancel_left heq))

/-- The filled location tells every index that has a placeholder. -/
theorem Careful.index_eq (h : t.Careful) {c c' : LoopContext} (heq : t.filled c = t.filled c')
    {k : LoopIndex} (hk : t.HasSlot k) : c.index k = c'.index k := by
  obtain ⟨hpath, hname⟩ := Prod.mk.inj heq
  rcases hk with ⟨s, hs, hk⟩ | ⟨s, hs, hk⟩ | hk
  · have hlevels := (List.append_inj hpath (by rw [List.length_map, List.length_map])).1
    exact index_eq_of_level (h.levels s hs) hk (List.map_inj_left.1 hlevels s hs)
  · rw [(h.section_ok s hs).1] at hk
    exact absurd hk List.not_mem_nil
  · exact h.name.index_eq hk hname

end RegisterTemplate

/-- A register of each thread of a core. -/
def threadTemplate : RegisterTemplate where
  outputPath := ['c', 'p', 'u', '%', 'd', '/', 'c', 'o', 'r', 'e', '%', 'd']
  name := loggerThread
  behind := []
  sectionName := none
  repeats := 1
  repeats_pos := by decide

end BmcAcd
