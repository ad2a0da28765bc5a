import HeaderScan.CharClass
import HeaderScan.Condition.Basic
import HeaderScan.Text.Blank

namespace HeaderScan
namespace Condition

/-!
Conditions as they are written.

A text is cut at the operators that stand outside of parentheses, the weakest first, and each
piece is read in the same way once its blanks, a negation or a pair of parentheses are taken
off.  A text that is not understood is the unknown condition; nothing is refused.
-/

open CharClass (isIdentifierStart isIdentifierContinue isIntegerSuffix)

/-- Adds a character in front of the first of several pieces. -/
def consHead (c : Char) : List (List Char) → List (List Char)
  | [] => [[c]]
  | piece :: pieces => (c :: piece) :: pieces

/-- Cuts a text at the doubled sign of an operator, wherever it stands outside of parentheses.
The depth of parentheses may fall below zero, and then nothing is cut until it is zero again. -/
def splitTopLevel (operator : Char) (depth : Int) : List Char → List (List Char)
  | [] => [[]]
  | '(' :: later => consHead '(' (splitTopLevel operator (depth + 1) later)
  | ')' :: later => consHead ')' (splitTopLevel operator (depth - 1) later)
  | [c] => [[c]]
  | c :: d :: later =>
    if depth = 0 ∧ c = operator ∧ d = operator then [] :: splitTopLevel operator depth later
    else consHead c (splitTopLevel operator depth (d :: later))

/-- The words of a text: the runs of identifier characters that can be identifiers. -/
def words (text : List Char) : List String :=
  go [] text
where
  /-- The word that has been read so far, if it is one. -/
  finish (run : List Char) : List String :=
    if run.head?.any isIdentifierStart then [String.ofList run] else []
  /-- The words of a text behind a run of identifier characters. -/
  go (run : List Char) : List Char → List String
    | [] => finish run
    | c :: later =>
      if isIdentifierContinue c then go (run ++ [c]) later
      else finish run ++ go [] later

/-- The number that digits write, each digit worth ten times the next. -/
def decimalValue (digits : List Char) : Nat :=
  digits.foldl (fun value digit => 10 * value + (digit.toNat - '0'.toNat)) 0

/-- An integer: digits, and behind them any suffix letters.  A number that does not fit into
sixty-four bits is not understood. -/
def ofInteger (text : List Char) : Condition :=
  let digits := Text.dropEndWhile isIntegerSuffix text
  if digits.all Char.isDigit && decimalValue digits < UInt64.size then
    literal (decimalValue digits != 0)
  else unknown

/-- An integer or a symbol. -/
def ofAtom (text : List Char) : Condition :=
  if text.head?.any Char.isDigit then ofInteger text
  else if text.head?.any isIdentifierStart && text.all isIdentifierContinue then
    symbol (String.ofList text)
  else unknown

/-- The name that a test for definition asks about, bare or in parentheses. -/
def testedName (text : List Char) : List Char :=
  Text.trim (Text.dropEndWhile (· == ')') ((Text.trim text).dropWhile (· == '(')))

/-- What stands behind a negation. -/
def negated? : List Char → Option (List Char)
  | '!' :: later => some (Text.trimStart later)
  | _ => none

/-- What stands in a pair of parentheses that begins and ends a text. -/
def parenthesized? : List Char → Option (List Char)
  | '(' :: later => if later.getLast? = some ')' then some (Text.trim later.dropLast) else none
  | _ => none

/-- What stands behind the word that tests for definition. -/
def definitionTest? (text : List Char) : Option (List Char) :=
  if "defined".toList.isPrefixOf text then
    let later := text.drop "defined".length
    if later.head?.any isIdentifierContinue then none else some later
  else none

theorem length_of_mem_splitTopLevel {operator : Char} {depth : Int} {text piece : List Char}
    (isPiece : piece ∈ splitTopLevel operator depth text) : piece.length ≤ text.length := by
  have consHead_le : ∀ {c : Char} {bound : Nat} {pieces : List (List Char)} {piece : List Char},
      (∀ other ∈ pieces, other.length ≤ bound) → piece ∈ consHead c pieces →
        piece.length ≤ bound + 1 := by
    intro c bound pieces piece bounded isPiece
    cases pieces with
    | nil =>
      simp only [consHead, List.mem_singleton] at isPiece
      simp [isPiece]
    | cons first others =>
      simp only [consHead, List.mem_cons] at isPiece
      rcases isPiece with rfl | isOther
      · simpa using bounded first (by simp)
      · exact Nat.le_succ_of_le (bounded piece (by simp [isOther]))
  fun_induction splitTopLevel operator depth text generalizing piece with
  | case1 => simp_all
  | case2 depth later ih => exact consHead_le (fun other => ih) isPiece
  | case3 depth later ih => exact consHead_le (fun other => ih) isPiece
  | case4 => simp_all
  | case5 depth c d later _ _ _ ih =>
    rcases List.mem_cons.mp isPiece with rfl | isLater
    · simp
    · have := ih isLater
      simp only [List.length_cons]
      omega
  | case6 depth c d later _ _ _ ih => exact consHead_le (fun other => ih) isPiece

theorem length_of_negated? {text later : List Char} (found : negated? text = some later) :
    later.length < text.length := by
  unfold negated? at found
  split at found
  · rcases Option.some.inj found with rfl
    exact Nat.lt_succ_of_le (Text.length_trimStart_le _)
  · simp at found

theorem length_of_parenthesized? {text inner : List Char}
    (found : parenthesized? text = some inner) : inner.length + 1 < text.length := by
  unfold parenthesized? at found
  split at found
  · split at found
    next later closed =>
      rcases Option.some.inj found with rfl
      have := Text.length_trim_le later.dropLast
      have nonempty : later ≠ [] := by
        rintro rfl
        simp at closed
      have := List.length_pos_iff.mpr nonempty
      simp only [List.length_dropLast] at *
      simp only [List.length_cons]
      omega
    · simp at found
  · simp at found

mutual

/-- The condition that a text without blanks around it writes. -/
def ofText (text : List Char) : Condition :=
  any <| (splitTopLevel '|' 0 text).attach.map fun ⟨side, isSide⟩ =>
    have := length_of_mem_splitTopLevel isSide
    have := Text.length_trim_le side
    all <| (splitTopLevel '&' 0 (Text.trim side)).attach.map fun ⟨operand, isOperand⟩ =>
      have := length_of_mem_splitTopLevel isOperand
      have := Text.length_trim_le operand
      ofOperand (Text.trim operand)
termination_by 2 * text.length + 1

/-- The condition that an operand without blanks around it writes. -/
def ofOperand (text : List Char) : Condition :=
  match _negated : negated? text with
  | some later => not (ofOperand later)
  | none =>
    match _parenthesized : parenthesized? text with
    | some inner => ofText inner
    | none =>
      match definitionTest? text with
      | some later => symbol (String.ofList (testedName later))
      | none => ofAtom text
termination_by 2 * text.length
decreasing_by
  · have := length_of_negated? _negated
    omega
  · have := length_of_parenthesized? _parenthesized
    omega

end

/-- The condition that a text writes, blanks around it aside. -/
def parse (text : List Char) : Condition :=
  ofText (Text.trim text)

end Condition
end HeaderScan
