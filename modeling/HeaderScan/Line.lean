import HeaderScan.Cursor
import HeaderScan.Text.Blank
import HeaderScan.Token

namespace HeaderScan

/-!
Physical lines, read as tokens of their own.
-/

namespace Text

/-- The first line of a text, without the carriage returns at its end. -/
def trimmedLine (text : List Char) : List Char :=
  dropEndWhile (· == '\r') (text.takeWhile (· != '\n'))

@[simp]
theorem trimmedLine_nil : trimmedLine [] = [] :=
  rfl

@[simp]
theorem trimmedLine_feed (later : List Char) : trimmedLine ('\n' :: later) = [] :=
  rfl

/-- A carriage return is kept only if something behind it is. -/
theorem trimmedLine_return (later : List Char) :
    trimmedLine ('\r' :: later) =
      if trimmedLine later = [] then [] else '\r' :: trimmedLine later := by
  unfold trimmedLine
  rw [List.takeWhile_cons_of_pos (by decide), dropEndWhile_cons]
  simp only [beq_self_eq_true, and_true]

theorem trimmedLine_cons {c : Char} (notReturn : c ≠ '\r') (notFeed : c ≠ '\n')
    (later : List Char) : trimmedLine (c :: later) = c :: trimmedLine later := by
  unfold trimmedLine
  rw [List.takeWhile_cons_of_pos (p := (· != '\n')) (bne_iff_ne.mpr notFeed), dropEndWhile_cons]
  simp [notReturn]

theorem trimmedLine_isPrefix (text : List Char) :
    trimmedLine text <+: text.takeWhile (· != '\n') :=
  dropEndWhile_isPrefix _ _

end Text

namespace Cursor

variable {source : List Char}

/-- Passes characters up to and including the next line feed, or all that are left, and says where
the last one ended that is no carriage return: at the given offset, if there is none. -/
def passLine (cursor : Cursor source) (last : Nat) : Nat × Cursor source :=
  match _shape : cursor.rest with
  | [] => (last, cursor)
  | c :: _ =>
    if c = '\r' then cursor.bump.passLine last
    else if c = '\n' then (last, cursor.bump)
    else cursor.bump.passLine cursor.bump.offset
termination_by cursor.rest.length
decreasing_by all_goals simp [bump, advance, _shape]

/-- The text of the line that starts here: the source up to where its last character ended that is
no carriage return. -/
def lineText (cursor : Cursor source) : List Char :=
  (cursor.slice? cursor.offset (cursor.passLine cursor.offset).1).getD []

/-- Reads the rest of the line and passes the line feed behind it.  At the end of the source
there is no line but the end of the file. -/
def readLine (cursor : Cursor source) : Token × Cursor source :=
  if cursor.isAtEnd then
    (.atStart .endOfFile (.point cursor.offset) cursor.line cursor.line "", cursor)
  else
    let (last, behind) := cursor.passLine cursor.offset
    (.atStart .line ⟨cursor.offset, last⟩ cursor.line cursor.line (String.ofList cursor.lineText),
      behind)

/-- From behind a character that is no line feed the way leads to the same end of the line. -/
theorem toLineEnd_bump {cursor : Cursor source} {c : Char} {later : List Char}
    (shape : cursor.rest = c :: later) (notFeed : c ≠ '\n') :
    cursor.bump.toLineEnd = cursor.toLineEnd := by
  have isIndex : (c :: later).idxOf '\n' = later.idxOf '\n' + 1 := by
    rw [List.idxOf_cons, beq_eq_false_iff_ne.mpr notFeed, cond_false]
  have rest : cursor.bump.rest = later := by simp [bump, shape]
  rw [toLineEnd, toLineEnd, rest, shape, isIndex, bump, advance_advance, Nat.add_comm]

/-- The loop ends behind the line feed, if there is one. -/
theorem passLine_snd (cursor : Cursor source) (last : Nat) :
    (cursor.passLine last).2 = cursor.toLineEnd.bump := by
  fun_induction passLine cursor last with
  | case1 cursor last atEnd =>
    rw [toLineEnd, bump, advance_advance, advance_of_length_le (by simp [atEnd]), toEnd, atEnd,
      List.length_nil, advance_zero]
  | case2 cursor last later shape inductionHypothesis =>
    rw [inductionHypothesis, toLineEnd_bump shape (by decide)]
  | case3 cursor last later shape notReturn => simp [toLineEnd, bump, shape, advance_zero]
  | case4 cursor last c later shape notReturn notFeed inductionHypothesis =>
    rw [inductionHypothesis, toLineEnd_bump shape notFeed]

/-- The offset that the loop has kept lies in front of the carriage returns at the end of the line;
it is the given one if the line consists of nothing else. -/
theorem passLine_fst (cursor : Cursor source) (last : Nat) :
    (cursor.passLine last).1 =
      if Text.trimmedLine cursor.rest = [] then last
      else cursor.offset + Text.byteLength (Text.trimmedLine cursor.rest) := by
  fun_induction passLine cursor last with
  | case1 cursor last atEnd => simp [atEnd]
  | case2 cursor last later shape inductionHypothesis =>
    rw [inductionHypothesis]
    by_cases nothing : Text.trimmedLine later = []
    · simp [bump, shape, Text.trimmedLine_return, nothing]
    · simp [bump, shape, Text.trimmedLine_return, nothing, Nat.add_assoc]
  | case3 cursor last later shape notReturn => simp [shape]
  | case4 cursor last c later shape notReturn notFeed inductionHypothesis =>
    rw [inductionHypothesis]
    by_cases nothing : Text.trimmedLine later = []
    · simp [bump, shape, Text.trimmedLine_cons notReturn notFeed, nothing]
    · simp [bump, shape, Text.trimmedLine_cons notReturn notFeed, nothing, Nat.add_assoc]

/-- A line stops behind its text. -/
theorem passLine_offset (cursor : Cursor source) :
    (cursor.passLine cursor.offset).1 =
      cursor.offset + Text.byteLength (Text.trimmedLine cursor.rest) := by
  rw [passLine_fst]
  split
  next nothing => rw [nothing, Text.byteLength_nil, Nat.add_zero]
  next => rfl

/-- The source can be cut where a line stops, and its text lies in front of that. -/
theorem slice?_passLine (cursor : Cursor source) :
    cursor.slice? cursor.offset (cursor.passLine cursor.offset).1 =
      some (Text.trimmedLine cursor.rest) := by
  have isFront := (Text.trimmedLine_isPrefix cursor.rest).trans (List.takeWhile_prefix _)
  have slice := cursor.slice?_advance (Text.trimmedLine cursor.rest).length
  rw [offset_advance, ← List.prefix_iff_eq_take.mp isFront] at slice
  rw [passLine_offset]
  exact slice

theorem lineText_eq (cursor : Cursor source) : cursor.lineText = Text.trimmedLine cursor.rest := by
  rw [lineText, slice?_passLine, Option.getD_some]

/-- What the loop reads, all at once. -/
theorem readLine_eq (cursor : Cursor source) :
    cursor.readLine =
      if cursor.isAtEnd then
        (.atStart .endOfFile (.point cursor.offset) cursor.line cursor.line "", cursor)
      else
        (.atStart .line ⟨cursor.offset, cursor.offset + Text.byteLength cursor.lineText⟩ cursor.line
            cursor.line (String.ofList cursor.lineText),
          cursor.toLineEnd.bump) := by
  rw [readLine, ← passLine_snd cursor cursor.offset, lineText_eq, ← passLine_offset]

/-- Reading a line moves the cursor unless it is at the end. -/
theorem length_rest_readLine_lt {cursor : Cursor source} (unread : cursor.isAtEnd = false) :
    cursor.readLine.2.rest.length < cursor.rest.length := by
  have nonempty : cursor.rest ≠ [] := by simpa [isAtEnd] using unread
  have := List.length_pos_iff.mpr nonempty
  simp [readLine_eq, unread, toLineEnd, bump]
  omega

end Cursor

namespace Text

/-- Whether only spaces and tabs stand between an offset and the start of its line.  A place
inside a character has that character before it, and a place past the end has all of the
text before it. -/
def startsLine (text : List Char) (offset : Nat) : Bool :=
  go true text offset
where
  /-- The same, given whether only spaces and tabs have come since the last start of a line. -/
  go (fresh : Bool) : List Char → Nat → Bool
    | [], _ => fresh
    | _ :: _, 0 => fresh
    | c :: later, offset =>
      if offset < c.utf8Size then false
      else go (c == '\n' || c == '\r' || (fresh && (c == ' ' || c == '\t'))) later
        (offset - c.utf8Size)

end Text
end HeaderScan
