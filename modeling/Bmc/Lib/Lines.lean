import Mathlib.Tactic

/-!
# Lines and words of a text file

A text is read line by line into a buffer, and words and numbers are read off a line.

* `fgetsLines`: the lines, cut where the buffer ends; `fgetsLines_line`, `fgetsLines_full`;
* `firstWord`: the first word of a line; **`firstWord_append`**: it is found before a blank;
* `matchFormat`, `scanDecimal`: a line against a format, and the number behind it.
-/

namespace BmcLib

/-- `isspace`. -/
def isBlank (c : Char) : Bool := c ∈ [' ', '\t', '\n', '\x0b', '\x0c', '\r']

/-! ## Lines -/

/-- A character in front of the first line. -/
def consLine (c : Char) : List (List Char) → List (List Char)
  | [] => [[c]]
  | l :: ls => (c :: l) :: ls

/-- The lines that `fgets` reads into a buffer for `limit` characters. `room` is what is left for the first. -/
def fgetsLines (limit : ℕ) : ℕ → List Char → List (List Char)
  | _, [] => []
  | room, c :: s =>
    if c = '\n' ∨ room ≤ 1 then [c] :: fgetsLines limit limit s
    else consLine c (fgetsLines limit (room - 1) s)

variable {limit : ℕ}

/-- **A line** that fits. -/
theorem fgetsLines_line (s : List Char) : ∀ {l : List Char} {room : ℕ}, '\n' ∉ l → l.length < room →
    fgetsLines limit room (l ++ '\n' :: s) = (l ++ ['\n']) :: fgetsLines limit limit s
  | [], room, _, _ => by rw [List.nil_append, fgetsLines, if_pos (.inl rfl), List.nil_append]
  | c :: l, room, hl, hroom => by
    have hne : ¬ (c = '\n' ∨ room ≤ 1) := by
      rw [List.length_cons] at hroom
      rintro (rfl | hle)
      · exact hl List.mem_cons_self
      · omega
    have hlen : l.length < room - 1 := by
      rw [List.length_cons] at hroom
      omega
    have hrest := fgetsLines_line s (fun h => hl (List.mem_cons_of_mem c h)) hlen
    rw [List.cons_append, fgetsLines, if_neg hne, hrest]
    rfl

/-- A line that is cut, as the buffer is full. -/
theorem fgetsLines_full (s : List Char) : ∀ {l : List Char} {room : ℕ}, '\n' ∉ l → l ≠ [] → l.length = room →
    fgetsLines limit room (l ++ s) = l :: fgetsLines limit limit s
  | [], _, _, hne, _ => absurd rfl hne
  | [c], room, _, _, hroom => by
    rw [List.singleton_append, fgetsLines, if_pos (.inr hroom.ge)]
  | c :: c' :: l, room, hl, _, hroom => by
    have hne : ¬ (c = '\n' ∨ room ≤ 1) := by
      rw [List.length_cons, List.length_cons] at hroom
      rintro (rfl | hle)
      · exact hl List.mem_cons_self
      · omega
    have hlen : (c' :: l).length = room - 1 := by
      rw [List.length_cons] at hroom
      omega
    have hrest := fgetsLines_full s (fun h => hl (List.mem_cons_of_mem c h)) (List.cons_ne_nil _ _) hlen
    rw [List.cons_append, fgetsLines, if_neg hne, hrest]
    rfl

/-- The first line is not longer than its room, and the others are not longer than the buffer. -/
theorem length_fgetsLines : ∀ (s : List Char) {room : ℕ}, 0 < room → 0 < limit →
    (∀ line ∈ (fgetsLines limit room s).head?, line.length ≤ room) ∧
      ∀ line ∈ (fgetsLines limit room s).tail, line.length ≤ limit
  | [], _, _, _ => ⟨by simp [fgetsLines], by simp [fgetsLines]⟩
  | c :: s, room, hroom, hlimit => by
    rw [fgetsLines]
    split_ifs with hend
    · obtain ⟨hhead, htail⟩ := length_fgetsLines s hlimit hlimit
      refine ⟨by simpa using Nat.succ_le_of_lt hroom, fun line hline => ?_⟩
      cases hlines : fgetsLines limit limit s with
      | nil => simp [hlines] at hline
      | cons l ls =>
        rw [hlines] at hhead htail hline
        rcases List.mem_cons.1 hline with rfl | hline
        · exact hhead line rfl
        · exact htail line hline
    · have hpos : 0 < room - 1 := by omega
      obtain ⟨hhead, htail⟩ := length_fgetsLines s hpos hlimit
      cases hlines : fgetsLines limit (room - 1) s with
      | nil => exact ⟨by simpa [consLine] using Nat.succ_le_of_lt hroom, by simp [consLine]⟩
      | cons l ls =>
        rw [hlines] at hhead htail
        refine ⟨fun line hline => ?_, htail⟩
        obtain rfl : c :: l = line := by simpa [consLine] using hline
        have hl := hhead l rfl
        rw [List.length_cons]
        omega

theorem length_le_of_mem_fgetsLines (hlimit : 0 < limit) {s line : List Char}
    (h : line ∈ fgetsLines limit limit s) : line.length ≤ limit := by
  obtain ⟨hhead, htail⟩ := length_fgetsLines s hlimit hlimit
  cases hlines : fgetsLines limit limit s with
  | nil => simp [hlines] at h
  | cons l ls =>
    rw [hlines] at hhead htail h
    rcases List.mem_cons.1 h with rfl | h
    · exact hhead line rfl
    · exact htail line h

/-! ## Words -/

/-- `%s`: the first word of a line. -/
def firstWord (line : List Char) : List Char := (line.dropWhile isBlank).takeWhile (! isBlank ·)

/-- **A word** before a blank. -/
theorem firstWord_append {w : List Char} {c : Char} (hne : w ≠ []) (hw : ∀ a ∈ w, isBlank a = false)
    (hc : isBlank c = true) (s : List Char) : firstWord (w ++ c :: s) = w := by
  obtain ⟨a, l, rfl⟩ := List.exists_cons_of_ne_nil hne
  have ha : ¬ isBlank a = true := by simpa using hw a List.mem_cons_self
  rw [firstWord, List.cons_append, List.dropWhile_cons_of_neg ha, ← List.cons_append,
    List.takeWhile_append_of_pos (by simpa using hw), List.takeWhile_cons_of_neg (by simpa using hc),
    List.append_nil]

theorem not_isBlank_of_mem_firstWord {line : List Char} {c : Char} (h : c ∈ firstWord line) :
    isBlank c = false := by
  simpa using List.all_eq_true.1 List.all_takeWhile c h

theorem length_firstWord_le (line : List Char) : (firstWord line).length ≤ line.length :=
  (List.takeWhile_sublist _).length_le.trans (List.dropWhile_sublist _).length_le

theorem firstWord_ne_nil {line : List Char} {c : Char} (hc : isBlank c = false) (h : c ∈ line) :
    firstWord line ≠ [] := by
  induction line with
  | nil => exact absurd h List.not_mem_nil
  | cons a line ih =>
    unfold firstWord at ih ⊢
    by_cases ha : isBlank a = true
    · rw [List.dropWhile_cons_of_pos ha]
      refine ih ((List.mem_cons.1 h).resolve_left ?_)
      rintro rfl
      exact absurd (hc.symm.trans ha) (by decide)
    · rw [List.dropWhile_cons_of_neg ha, List.takeWhile_cons_of_pos (by simpa using ha)]
      exact List.cons_ne_nil _ _

/-! ## Formats -/

/-- The line behind the characters of a format. A blank stands for any blanks. -/
def matchFormat : List Char → List Char → Option (List Char)
  | [], line => some line
  | f :: fs, line =>
    if isBlank f then matchFormat fs (line.dropWhile isBlank)
    else match line with
      | [] => none
      | c :: line => if c = f then matchFormat fs line else none

/-- `%d`: a number, with or without a sign. -/
def scanDecimal (s : List Char) : Option ℤ :=
  let number (s : List Char) : Option ℕ :=
    let digits := s.takeWhile Char.isDigit
    if digits = [] then none else some (digits.foldl (fun n c => 10 * n + (c.toNat - '0'.toNat)) 0)
  match s.dropWhile isBlank with
  | '-' :: s => (number s).map fun n => - (n : ℤ)
  | '+' :: s => (number s).map fun n => (n : ℤ)
  | s => (number s).map fun n => (n : ℤ)

end BmcLib
