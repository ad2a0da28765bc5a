import HeaderScan.Command

namespace HeaderScan

/-!
What can be seen from outside while commands are performed one after the other.

Lines are counted in 32 bits.  A count that does not fit stops everything like a breach does; the
caller alone can bring this about, by setting the line.
-/

/-- The result of a command and what the scanner shows after it. -/
structure Observation (α : Type) where
  result : Except ScanError α
  position : Position
  atEnd : Bool
  comments : List Comment

namespace Observation

variable {source : List Char} {α : Type}

/-- What is seen of a scanner that an operation has left with a result; nothing after a
breach, and nothing where the count of lines does not fit. -/
def ofScanner? (result : Except Stop α) (scanner : Scanner source) : Option (Observation α) :=
  if scanner.cursor.line < countLimit then
    match result with
    | .error .breach => none
    | .error (.failure error) =>
      some ⟨.error error, scanner.position, scanner.isAtEnd, scanner.shownComments⟩
    | .ok value =>
      some ⟨.ok value, scanner.position, scanner.isAtEnd, scanner.shownComments⟩
  else none

/-- Something is seen exactly where the line fits and there was no breach. -/
theorem isSome_ofScanner?_iff {result : Except Stop α} {scanner : Scanner source} :
    (ofScanner? result scanner).isSome = true ↔
      scanner.cursor.line < countLimit ∧ result ≠ .error .breach := by
  unfold ofScanner?
  split
  next fits => split <;> simp [fits]
  next past => simp [past]

end Observation
end HeaderScan
