import Mathlib.Tactic

/-!
# Numerals as indices

Small tables are functions of an index, and a numeral is an index when the table has entries.

* `neZero_three`, `neZero_eight`: the tables of three and of eight entries.
-/

namespace BmcLib

/-- A table of three entries has entries. -/
instance (priority := 2000) neZero_three : NeZero 3 := ⟨by decide⟩

/-- A table of eight entries has entries. -/
instance (priority := 2000) neZero_eight : NeZero 8 := ⟨by decide⟩

end BmcLib
