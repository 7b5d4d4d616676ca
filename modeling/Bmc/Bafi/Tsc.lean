import Bmc.Bafi.Text

/-!
# First errors

Each socket has a register with the time of its first IERR, its first MCERR and, for some types of CPU, its
first RMCA.

* `getTscData`, `tscSummary`, `findFirstErrorSocket`: from the registers to the socket with the first error;
* `TscSections`, `IsFirst`: the values of the registers, and the first ones of all sockets;
* `Marked`, `FirstErrors`: the entries that are reported as first, and what the report should say.
-/

namespace BmcBafi

open BmcLib

/-! ## Registers -/

/-- The kinds of errors with a time. -/
inductive TscKind where
  | ierr
  | mcerr
  | rmca
  deriving DecidableEq, Repr

/-- The two classes that read the registers; the first one does not know RMCA. -/
inductive TscPlatform where
  | whitley
  | eaglestream
  deriving DecidableEq, Repr

/-- The kinds that a platform reads. -/
def TscPlatform.kinds : TscPlatform → List TscKind
  | whitley => [.ierr, .mcerr]
  | eaglestream => [.ierr, .mcerr, .rmca]

/-- The texts of the lower and the upper half of a register, if it is in the `uncore` section as a string. -/
structure TscRegister where
  lo : Option (List Char)
  hi : Option (List Char)

/-- The registers of a socket. -/
abbrev TscSection := TscKind → TscRegister

/-- `getUncoreData`. -/
def getUncoreData (text : Option (List Char)) : Option (List Char) :=
  text.filter fun s => !checkInproperValue s

/-- The text of a half, where a missing one is 0. -/
def tscText (text : Option (List Char)) : List Char := (getUncoreData text).getD ['0', 'x', '0']

/-- `TscData`, without the texts: the value for each kind. -/
structure TscData where
  cfg : TscKind → ℕ

/-- `countTscCfg`. No text is one of a value that was not read, so the variables are always set. -/
def countTscCfg (platform : TscPlatform) (registers : TscSection) : Option TscData :=
  let read := fun text => str2uint (tscText text) 0
  if ∀ k ∈ platform.kinds, (read (registers k).lo).1 = true ∧ (read (registers k).hi).1 = true then
    some ⟨fun k => if k ∈ platform.kinds then
      (read (registers k).lo).2.toNat ||| (read (registers k).hi).2.toNat <<< 32 else 0⟩
  else none

/-- `getTscDataForProcessorType`: the sockets with their values. -/
def getTscData (platform : TscPlatform) (sections : List (ℕ × TscSection)) : List (ℕ × TscData) :=
  sections.filterMap fun s => (countTscCfg platform s.2).map fun d => (s.1, d)

/-! ## The summary -/

/-- The values of a socket that are not 0. -/
def TscData.values (d : TscData) : List ℕ :=
  [d.cfg .mcerr, d.cfg .ierr, d.cfg .rmca].filter (· ≠ 0)

/-- `smallestValuesFromSockets`. -/
def smallestValuesFromSockets (tsc : List (ℕ × TscData)) : List ℕ :=
  tsc.filterMap fun s => s.2.values.min?

/-- What marks the first error. -/
def occurredFirst : List Char := "(Occurred first between all TSCs)".toList

/-- The name of a register in the summary. -/
def TscKind.key : TscKind → List Char
  | ierr => "pcu_first_ierr_tsc_cfg".toList
  | mcerr => "pcu_first_mcerr_tsc_cfg".toList
  | rmca => "pcu_first_rmca_tsc_cfg".toList

/-- The name of the flag of a kind. -/
def TscKind.occurred : TscKind → List Char
  | ierr => "IERR occurred".toList
  | mcerr => "MCERR occurred".toList
  | rmca => "RMCA occurred".toList

/-- The text of a register. For IERR the code also asks that the value is not 0. -/
def cfgText (smallest : Option ℕ) (k : TscKind) (value : ℕ) : List Char :=
  if smallest = some value ∧ (k = .ierr → value ≠ 0) then intToHex 8 value ++ ' ' :: occurredFirst
  else intToHex 8 value

/-- `std::boolalpha`. -/
def boolText (b : Bool) : List Char := if b then "true".toList else "false".toList

/-- The entry of a socket, in the order of its keys. -/
def tscEntry (platform : TscPlatform) (smallest : Option ℕ) (d : TscData) :
    List (List Char × List Char) :=
  (platform.kinds.map fun k => (k.occurred, boolText (d.cfg k ≠ 0))) ++
    platform.kinds.map fun k => (k.key, cfgText smallest k (d.cfg k))

/-- The name of a socket. -/
def socketName (id : ℕ) : List Char := "socket".toList ++ Nat.toDigits 10 id

/-- The codes of a name, by which the keys of an object are ordered. -/
def codes (name : List Char) : List ℕ := name.map Char.toNat

/-- The entries of the sockets with an error, in the order of their names. -/
def tscSummary (platform : TscPlatform) (tsc : List (ℕ × TscData)) :
    List (List Char × List (List Char × List Char)) :=
  ((tsc.filter fun s => s.2.values ≠ []).map fun s =>
      (socketName s.1, tscEntry platform (smallestValuesFromSockets tsc).min? s.2)).mergeSort
    fun x y => decide (codes x.1 ≤ codes y.1)

/-! ## The first socket -/

/-- The variables of `findFirstErrorSocket`. -/
structure FirstErrorScan where
  firstError : List Char
  firstSocket : List Char
  ierr : Bool
  mcerr : Bool
  rmcaMcerr : Bool

/-- One text. The kind is looked up in the text, not in its key. -/
def FirstErrorScan.text (socket : List Char) (st : FirstErrorScan) (tscVal : List Char) :
    FirstErrorScan :=
  if occurredFirst <:+: tscVal then
    if TscKind.ierr.key <:+: tscVal then
      { st with firstError := "FirstIERR".toList, ierr := true, firstSocket := socket }
    else if TscKind.mcerr.key <:+: tscVal then
      { st with firstError := "FirstMCERR".toList, mcerr := true, firstSocket := socket }
    else if TscKind.rmca.key <:+: tscVal then
      { st with firstError := "RMCA_FirstMCERR".toList, rmcaMcerr := true, firstSocket := socket }
    else { st with firstError := "FirstMCERR".toList, mcerr := true, firstSocket := socket }
  else st

/-- The texts of a socket. -/
def FirstErrorScan.socket (st : FirstErrorScan) (s : List Char × List (List Char × List Char)) :
    FirstErrorScan :=
  s.2.foldl (fun st entry => st.text s.1 entry.2) st

/-- `findFirstErrorSocket`: the name of the socket, and the kind in `firstError`. -/
def findFirstErrorSocket (summary : List (List Char × List (List Char × List Char)))
    (firstError : List Char) : List Char × List Char :=
  let st := summary.foldl FirstErrorScan.socket ⟨firstError, [], false, false, false⟩
  (if st.ierr ∨ st.mcerr ∨ st.rmcaMcerr then st.firstSocket else [], st.firstError)

/-! ## What the registers say -/

/-- The registers of a set of sockets. -/
structure TscSections where
  list : List (ℕ × TscSection)
  nodup : (list.map Prod.fst).Nodup

/-- The number in a half of a register: 0 where it is missing, `none` where it is no number. -/
def halfNumber (text : Option (List Char)) : Option ℕ :=
  match text with
  | none => some 0
  | some s => if checkInproperValue s then some 0 else (stoull 16 s).map (· % 2 ^ 32)

/-- The number in a register. -/
def TscRegister.number (r : TscRegister) : Option ℕ :=
  (halfNumber r.lo).bind fun lo => (halfNumber r.hi).map fun hi => lo + 2 ^ 32 * hi

/-- The kind of an error in the triage. -/
def TscKind.firstError : TscKind → List Char
  | ierr => "FirstIERR".toList
  | mcerr => "FirstMCERR".toList
  | rmca => "RMCA_FirstMCERR".toList

namespace TscSections

variable (platform : TscPlatform) (x : TscSections)

/-- A socket has an error of a kind, at a time. -/
def HasTsc (socket : ℕ) (k : TscKind) (value : ℕ) : Prop :=
  ∃ registers, (socket, registers) ∈ x.list ∧ k ∈ platform.kinds ∧
    (registers k).number = some value ∧ value ≠ 0

/-- It is the first of all errors. -/
def IsFirst (socket : ℕ) (k : TscKind) : Prop :=
  ∃ value, x.HasTsc platform socket k value ∧
    ∀ socket' k' value', x.HasTsc platform socket' k' value' → value ≤ value'

/-- The summary of the sockets. -/
def summary : List (List Char × List (List Char × List Char)) :=
  tscSummary platform (getTscData platform x.list)

/-- The summary marks the error as the first one. -/
def Marked (socket : ℕ) (k : TscKind) : Prop :=
  ∃ entry, (socketName socket, entry) ∈ x.summary platform ∧
    ∃ text, (k.key, text) ∈ entry ∧ occurredFirst <:+: text

/-- The first errors are marked, and the triage finds a socket and the kind of one of them. -/
structure FirstErrors : Prop where
  marked : ∀ socket k, x.Marked platform socket k ↔ x.IsFirst platform socket k
  none : (∀ socket k, ¬ x.IsFirst platform socket k) →
    ∀ firstError, (findFirstErrorSocket (x.summary platform) firstError).1 = []
  found : ∀ socket k, x.IsFirst platform socket k → ∀ firstError, ∃ socket' k',
    findFirstErrorSocket (x.summary platform) firstError = (socketName socket', k'.firstError) ∧
      x.IsFirst platform socket' k'

end TscSections

end BmcBafi
