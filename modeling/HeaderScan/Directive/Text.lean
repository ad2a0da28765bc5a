import HeaderScan.Condition.Text
import HeaderScan.Line

namespace HeaderScan

/-!
The text of a directive: what stands behind its sign, up to the end of its logical line.

A logical line goes on over the end of a physical line that a backslash or an open block comment
precedes.  Comments are no part of the text; those within double quotes are no comments.
-/

namespace Directive

/-- Where a text stands with respect to strings and comments. -/
inductive Nesting
  | plain
  | string
  | comment
  deriving DecidableEq, Repr

/-- A text without its comments, and whether a block comment is left open.  A closed block comment
leaves a space. -/
def stripComments : Nesting → List Char → List Char × Bool
  | .plain, '/' :: '/' :: _ => ([], false)
  | .plain, '/' :: '*' :: later => stripComments .comment later
  | .plain, '"' :: later => keep '"' (stripComments .string later)
  | .plain, c :: later => keep c (stripComments .plain later)
  | .string, '\\' :: escaped :: later =>
    keep '\\' (keep escaped (stripComments .string later))
  | .string, '"' :: later => keep '"' (stripComments .plain later)
  | .string, c :: later => keep c (stripComments .string later)
  | .comment, '*' :: '/' :: later => keep ' ' (stripComments .plain later)
  | .comment, _ :: later => stripComments .comment later
  | .comment, [] => ([], true)
  | .plain, [] => ([], false)
  | .string, [] => ([], false)
where
  keep (c : Char) (stripped : List Char × Bool) : List Char × Bool :=
    (c :: stripped.1, stripped.2)

/-- A text from its start on, without its comments. -/
def withoutComments (text : List Char) : List Char :=
  (stripComments .plain text).1

/-- Whether a text leaves a block comment open. -/
def leavesCommentOpen (text : List Char) : Bool :=
  (stripComments .plain text).2

/-- What one more physical line makes of the text gathered so far: a text that goes on, or the
whole text. -/
def gather (text line : List Char) : List Char × Bool :=
  let text := text ++ line
  if text.getLast? = some '\\' then (text.dropLast ++ [' '], true)
  else if leavesCommentOpen text then (text ++ ['\n'], true)
  else (text, false)

variable {source : List Char}

/-- Gathers physical lines behind a text until the logical line ends. -/
def gatherLines (text : List Char) (cursor : Cursor source) : List Char × Cursor source :=
  if _atEnd : cursor.isAtEnd then (text, cursor)
  else
    let (gathered, goesOn) := gather text cursor.lineText
    if goesOn then gatherLines gathered cursor.readLine.2
    else (gathered, cursor.readLine.2)
termination_by cursor.rest.length
decreasing_by exact Cursor.length_rest_readLine_lt (Bool.eq_false_iff.mpr _atEnd)

/-- Reads the text of a directive without its comments. -/
def readText (cursor : Cursor source) : List Char × Cursor source :=
  let (text, after) := gatherLines [] cursor
  (withoutComments text, after)

/-- Gathering lines moves the cursor unless it is at the end. -/
theorem length_rest_gatherLines_lt (text : List Char) (cursor : Cursor source) :
    (gatherLines text cursor).2.rest.length < cursor.rest.length ∨
      (gatherLines text cursor).2.rest = [] := by
  fun_induction gatherLines text cursor with
  | case1 text cursor atEnd => exact Or.inr (by simpa [Cursor.isAtEnd] using atEnd)
  | case2 text cursor unread _ _ ih =>
    have moved := Cursor.length_rest_readLine_lt (Bool.eq_false_iff.mpr unread)
    exact ih.imp (Nat.lt_trans · moved) id
  | case3 text cursor unread =>
    exact Or.inl (Cursor.length_rest_readLine_lt (Bool.eq_false_iff.mpr unread))

/-- Reading the text of a directive moves the cursor unless it is at the end. -/
theorem length_rest_readText_lt (cursor : Cursor source) :
    (readText cursor).2.rest.length < cursor.rest.length ∨ (readText cursor).2.rest = [] :=
  length_rest_gatherLines_lt [] cursor

/-- Reading the text of a directive never goes back. -/
theorem length_rest_readText_le (cursor : Cursor source) :
    (readText cursor).2.rest.length ≤ cursor.rest.length := by
  rcases length_rest_readText_lt cursor with moved | atEnd
  · exact Nat.le_of_lt moved
  · simp [atEnd]

end Directive

/-- A directive: its name and what stands behind the name. -/
structure Directive where
  name : String
  argument : List Char

namespace Directive

/-- The directive that a text writes. -/
def ofText (text : List Char) : Directive :=
  let text := Text.trim text
  let name := text.takeWhile CharClass.isIdentifierContinue
  ⟨String.ofList name, Text.trim (text.drop name.length)⟩

end Directive
end HeaderScan
