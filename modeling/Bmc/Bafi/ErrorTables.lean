import Bmc.Bafi.TorMarks

/-!
# Sources of first errors

The tables that give the source of a first error for its identifier, and the search of its bank among the MCA errors.

* `CpuName.firstError`: the table of each type of CPU;
* `firstMcerrInMce`: whether a bank of the source is in the report.
-/

namespace BmcBafi

open BmcLib

/-! ## Tables -/

/-- The sources of consecutive identifiers: cores, CHAs with their banks, CHAs from a number on, or one source. -/
inductive SourceText where
  | core
  | cha
  | chaFrom (first : ℕ)
  | text (s : String)

/-- The source of a core. -/
def coreText (n : ℕ) : List Char := "Core".toList ++ Nat.toDigits 10 n ++ ", bank 0-3".toList

/-- The name of a CHA. -/
def chaName (n : ℕ) : List Char := "CHA".toList ++ Nat.toDigits 10 n

/-- The source of a CHA, which shares one of three banks. -/
def chaText (n : ℕ) : List Char := chaName n ++ ", bank ".toList ++ Nat.toDigits 10 (9 + n % 3)

/-- The source of an identifier in a row. -/
def SourceText.at (t : SourceText) (n : ℕ) : List Char :=
  match t with
  | core => coreText n
  | cha => chaText n
  | chaFrom first => chaName (first + n)
  | text s => s.toList

/-- `IcxfirstError` -/
def icxfirstError : List (ℕ × ℕ × SourceText) :=
  [(0x0, 38, .core), (0x30, 1, .text "Chassis_Punit_FSM, bank 4"), (0x31, 1, .text "Chassis_Punit_FSM2, bank 4"),
   (0x32, 1, .text "Chassis_Punit_CR, bank 4"), (0x40, 38, .cha), (0x6d, 1, .text "Intel UPI 0, bank 5"),
   (0x6e, 1, .text "Intel UPI 1, bank 7"), (0x6f, 1, .text "Intel UPI 2, bank 8"),
   (0x80, 1, .text "IMC 0 - CH0-CH1, bank 13, 14"), (0x81, 1, .text "IMC 1 - CH0-CH1, bank 17, 18"),
   (0x82, 1, .text "IMC 2 - CH0-CH1, bank 21, 22"), (0x83, 1, .text "IMC 3 - CH0-CH1, bank 25, 26"),
   (0x86, 1, .text "M2MEM 0, bank 12"), (0x87, 1, .text "M2MEM 1, bank 16"), (0x88, 1, .text "M2MEM 2, bank 20"),
   (0x89, 1, .text "M2MEM 3, bank 24"), (0xc7, 1, .text "Global IEH/UBOX (IOMCA), bank 6")]

/-- `CpxfirstError` -/
def cpxfirstError : List (ℕ × ℕ × SourceText) :=
  [(0x2, 1, .text "UPI 0, bank 5"), (0x3, 1, .text "UPI 1, bank 12"), (0x6, 1, .text "UPI 2, bank 19"),
   (0x7, 1, .text "UPI 3, bank 20"), (0xa, 1, .text "UPI 4, bank 21"), (0xb, 1, .text "UPI 5, bank 22"),
   (0x44, 1, .text "PCU, bank 4"), (0x60, 1, .text "IMC 0, bank 13, 14, 17"), (0x62, 1, .text "M2MEM0, bank 7"),
   (0x64, 1, .text "IMC 1, bank 15, 16, 18"), (0x66, 1, .text "M2MEM1, bank 8"), (0xa0, 4, .text "IIO0, bank 6"),
   (0xa4, 4, .text "IIO1, bank 6"), (0xa8, 4, .text "IIO2, bank 6"), (0xac, 4, .text "CBDMA, bank 6"),
   (0xb0, 4, .text "MCP0, bank 6"), (0xb4, 4, .text "MCP1, bank 6"), (0xc0, 28, .cha), (0xdc, 36, .chaFrom 28)]

/-- `SkxfirstError` -/
def skxfirstError : List (ℕ × ℕ × SourceText) :=
  [(0x2, 1, .text "UPI 0, bank 5"), (0x3, 1, .text "UPI 1, bank 12"), (0x6, 1, .text "UPI 2, bank 19"),
   (0x7, 1, .text "UPI 3"), (0xa, 1, .text "UPI 4"), (0xb, 1, .text "UPI 5"), (0x44, 1, .text "PCU, bank 4"),
   (0x60, 1, .text "IMC 0, bank 13, 14, 17"), (0x62, 1, .text "M2MEM0, bank 7"),
   (0x64, 1, .text "IMC 1, bank 15, 16, 18"), (0x66, 1, .text "M2MEM1, bank 8"), (0xa0, 4, .text "IIO0, bank 6"),
   (0xa4, 4, .text "IIO1, bank 6"), (0xa8, 4, .text "IIO2, bank 6"), (0xac, 4, .text "CBDMA, bank 6"),
   (0xb0, 4, .text "MCP0, bank 6"), (0xb4, 4, .text "MCP1, bank 6"), (0xc0, 28, .cha), (0xdc, 36, .chaFrom 28)]

/-- `SprfirstError` -/
def sprfirstError : List (ℕ × ℕ × SourceText) :=
  [(0x0, 72, .core), (0x80, 72, .cha), (0x180, 6, .text "PUNIT, bank 4"), (0x186, 1, .text "OOBMSM"),
   (0x1cc, 3, .text "UBOX, bank 6"), (0x1da, 1, .text "OOBMSM"), (0x237, 1, .text "PCIeg4_DMI_0, bank 6"),
   (0x238, 4, .text "PCIeg4_0, bank 6"), (0x23c, 4, .text "PCIeg5_0, bank 6"), (0x24b, 5, .text "PCIeg4_1, bank 6"),
   (0x250, 4, .text "PCIeg5_1, bank 6"), (0x25f, 5, .text "PCIeg4_3, bank 6"), (0x264, 4, .text "PCIeg5_3, bank 6"),
   (0x273, 5, .text "PCIeg4_5, bank 6"), (0x278, 4, .text "PCIeg5_5, bank 6"), (0x287, 5, .text "PCIeg4_4, bank 6"),
   (0x28c, 4, .text "PCIeg5_4, bank 6"), (0x29b, 5, .text "PCIeg4_7, bank 6"), (0x2a0, 4, .text "PCIeg5_7, bank 6"),
   (0x2a6, 5, .text "PCIeg4_2, bank 6"), (0x2ab, 2, .text "PCIeg5_2, bank 6"), (0x2e3, 2, .text "PCIeg5_2, bank 6"),
   (0x306, 5, .text "PCIeg4_6, bank 6"), (0x30b, 4, .text "PCIeg5_6, bank 6"), (0x344, 5, .text "UPI0, bank 5"),
   (0x34a, 5, .text "UPI2, bank 5"), (0x350, 5, .text "UPI1, bank 5"), (0x356, 5, .text "UPI3, bank 5"),
   (0x3be, 1, .text "M2MEM0, bank 12"), (0x3bf, 1, .text "M2MEM1, bank 12"), (0x3c0, 1, .text "M2MEM2, bank 12"),
   (0x3c1, 1, .text "M2MEM3, bank 12"), (0x3c6, 1, .text "MCDDR0, bank 13, 14"),
   (0x3c7, 1, .text "MCDDR1, bank 15, 16"), (0x3c8, 1, .text "MCDDR2, bank 17, 18"),
   (0x3c9, 1, .text "MCDDR3, bank 19, 20")]

/-- The rows of `FirstError`: the first identifier, the number of them and their sources. -/
def CpuName.firstErrorRows : CpuName → List (ℕ × ℕ × SourceText)
  | icx => icxfirstError
  | cpx | clx => cpxfirstError
  | skx => skxfirstError
  | spr | sprHbm => sprfirstError

/-- `FirstError` -/
def CpuName.firstError (cpu : CpuName) : List (ℕ × List Char) :=
  cpu.firstErrorRows.flatMap fun row => (List.range row.2.1).map fun n => (row.1 + n, row.2.2.at n)

/-! ## Banks -/

/-- `coreRegex`: the first two digits that are a range of banks. -/
def coreBanks : List Char → Option (ℕ × ℕ)
  | [] => none
  | c :: s =>
    match (c :: s).drop 5 with
    | x :: '-' :: y :: _ =>
      if "bank ".toList.isPrefixOf (c :: s) = true ∧ x.isDigit = true ∧ y.isDigit = true then
        some (hexValue x, hexValue y)
      else coreBanks s
    | _ => coreBanks s

/-- `[, ]*` -/
def dropCommas (s : List Char) : List Char := s.dropWhile fun c => c = ',' || c = ' '

/-- The three groups of `bankRegex`, from behind the word `bank`. -/
def bankGroups (s : List Char) : List (List Char) :=
  let s₁ := dropCommas (s.dropWhile Char.isDigit)
  let s₂ := dropCommas (s₁.dropWhile Char.isDigit)
  [s.takeWhile Char.isDigit, s₁.takeWhile Char.isDigit, s₂.takeWhile Char.isDigit]

/-- `bankRegex`: the numbers of the first banks. -/
def bankNumbers : List Char → Option (List (List Char))
  | [] => none
  | c :: s => if "bank ".toList.isPrefixOf (c :: s) = true then some (bankGroups ((c :: s).drop 5)) else bankNumbers s

/-- One of the MCA errors has a text in its name. -/
def inMce (mce : List (List Char)) (text : List Char) : Bool := mce.any fun key => decide (text <:+: key)

/-- `firstMcerrInMce`. `mce` are the names of the MCA errors in the first part of the summary, if it has any. -/
def firstMcerrInMce (mce : Option (List (List Char))) (firstMcerrSrc : List Char) : Bool :=
  match mce with
  | none => false
  | some mce =>
    match coreBanks firstMcerrSrc with
    | some (first, last) =>
      (List.range' first (last + 1 - first)).any fun i => inMce mce ("bank ".toList ++ Nat.toDigits 10 i ++ [' '])
    | none =>
      match bankNumbers firstMcerrSrc with
      | some groups =>
        ((groups.takeWhile (· ≠ [])).any fun n => inMce mce ("bank ".toList ++ n ++ [' '])) ||
          inMce mce ("bank ".toList ++ firstMcerrSrc.takeWhile (· ≠ ','))
      | none => false

example : firstMcerrInMce (some ["bank 9 (CHA)".toList]) (chaText 3) = true := by decide

end BmcBafi
