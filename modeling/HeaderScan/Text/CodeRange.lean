namespace HeaderScan
namespace Text

/-!
Ranges of code points, in which the character properties of a standard are tabulated.
-/

/-- The code points from `first` to `last`, both ends included. -/
abbrev CodeRange := Nat × Nat

namespace CodeRange

/-- Whether a character lies in the range. -/
def holds (range : CodeRange) (c : Char) : Bool :=
  range.1 ≤ c.toNat && c.toNat ≤ range.2

/-- Whether a character lies in one of the ranges of a table. -/
def anyHolds (table : List CodeRange) (c : Char) : Bool :=
  table.any (holds · c)

/-- A character is in a table exactly when one of its ranges bounds the code point. -/
theorem anyHolds_iff {table : List CodeRange} {c : Char} :
    anyHolds table c = true ↔ ∃ range ∈ table, range.1 ≤ c.toNat ∧ c.toNat ≤ range.2 := by
  simp [anyHolds, holds]

end CodeRange

end Text
end HeaderScan
