import HeaderScan.Span
import HeaderScan.Text.Utf8

namespace HeaderScan

/-!
A cursor in a source.  It stands between two characters, so that its offset is always one at
which the source can be cut, and it counts the lines that it passes.

All movement forwards is `advance`: whoever moves the cursor says how many characters are
passed, and the offset and the line follow from the characters themselves.  The line itself is
counted without a limit; whether the count still fits is for those to ask who show it.
-/

/-- The number from which on a count does not fit in 32 bits. -/
def countLimit : Nat :=
  4294967296

/-- A place between two characters of `source`: the characters before it, the last one first,
the characters after it, the number of bytes before it and the current line. -/
structure Cursor (source : List Char) where
  passed : List Char
  rest : List Char
  offset : Nat
  line : Nat
  passed_append_rest : passed.reverse ++ rest = source
  offset_eq : offset = Text.byteLength passed

namespace Cursor

variable {source : List Char}

/-- The start of a source, on line one. -/
def start (source : List Char) : Cursor source :=
  ⟨[], source, 0, 1, rfl, rfl⟩

/-- The offset and the line of the cursor. -/
def position (cursor : Cursor source) : Position :=
  ⟨cursor.offset, cursor.line⟩

def isAtEnd (cursor : Cursor source) : Bool :=
  cursor.rest.isEmpty

/-- Continues to count lines from another line. -/
def withLine (cursor : Cursor source) (line : Nat) : Cursor source :=
  { cursor with line := line }

/-- Passes a number of characters, or all that are left. -/
def advance (cursor : Cursor source) (count : Nat) : Cursor source where
  passed := (cursor.rest.take count).reverse ++ cursor.passed
  rest := cursor.rest.drop count
  offset := cursor.offset + Text.byteLength (cursor.rest.take count)
  line := cursor.line + (cursor.rest.take count).count '\n'
  passed_append_rest := by
    simpa using cursor.passed_append_rest
  offset_eq := by
    simp [cursor.offset_eq, Nat.add_comm]

/-- Passes everything that is left. -/
def toEnd (cursor : Cursor source) : Cursor source :=
  cursor.advance cursor.rest.length

/-- Passes one character. -/
def bump (cursor : Cursor source) : Cursor source :=
  cursor.advance 1

/-- Goes back over one character.  The line counter never goes below one by this. -/
def stepBack (cursor : Cursor source) : Cursor source :=
  match equation : cursor.passed with
  | [] => cursor
  | c :: earlier =>
    { passed := earlier
      rest := c :: cursor.rest
      offset := cursor.offset - c.utf8Size
      line := if c = '\n' then max (cursor.line - 1) 1 else cursor.line
      passed_append_rest := by
        simpa [equation] using cursor.passed_append_rest
      offset_eq := by
        simp [cursor.offset_eq, equation] }

/-- The cursor at a byte offset, if the source can be cut there. -/
def at? (source : List Char) (offset line : Nat) : Option (Cursor source) :=
  match equation : Text.splitAt? source offset with
  | none => none
  | some (front, back) =>
    some
      { passed := front.reverse
        rest := back
        offset := offset
        line := line
        passed_append_rest := by
          simpa using (Text.splitAt?_eq_some_iff.mp equation).1
        offset_eq := by
          simpa using (Text.splitAt?_eq_some_iff.mp equation).2.symm }

/-- The next character, NUL at the end. -/
def currentChar (cursor : Cursor source) : Char :=
  cursor.rest.head?.getD '\x00'

/-- The byte a number of bytes ahead, zero past the end. -/
def byteAhead (cursor : Cursor source) (distance : Nat) : UInt8 :=
  ((Text.bytes (cursor.rest.take (distance + 1)))[distance]?).getD 0

/-- The byte just before the cursor, zero at the start. -/
def byteBefore (cursor : Cursor source) : UInt8 :=
  ((Text.bytes (cursor.passed.take 1)).getLast?).getD 0

/-- Passes the next character if its first byte is the given one, and says whether it did. -/
def eatByte (cursor : Cursor source) (byte : UInt8) : Bool × Cursor source :=
  if !cursor.isAtEnd && cursor.byteAhead 0 == byte then (true, cursor.bump) else (false, cursor)

/-- Passes characters one by one as long as they are in a class, and says how many. -/
def eatWhile (cursor : Cursor source) (inClass : Char → Bool) : Nat × Cursor source :=
  match _shape : cursor.rest with
  | [] => (0, cursor)
  | c :: _ =>
    if inClass c then
      let (count, last) := cursor.bump.eatWhile inClass
      (count + 1, last)
    else (0, cursor)
termination_by cursor.rest.length
decreasing_by simp [bump, advance, _shape]

/-- Passes the rest of the line at once, but not the line feed that ends it. -/
def toLineEnd (cursor : Cursor source) : Cursor source :=
  cursor.advance (cursor.rest.idxOf '\n')

/-- The source between two offsets, if it can be cut at both. -/
def slice? (_ : Cursor source) (start stop : Nat) : Option (List Char) :=
  Text.slice? source start stop

/-- The source from an offset up to the cursor. -/
def sliceFrom? (cursor : Cursor source) (start : Nat) : Option (List Char) :=
  cursor.slice? start cursor.offset

@[simp]
theorem rest_advance (cursor : Cursor source) (count : Nat) :
    (cursor.advance count).rest = cursor.rest.drop count :=
  rfl

@[simp]
theorem line_advance (cursor : Cursor source) (count : Nat) :
    (cursor.advance count).line = cursor.line + (cursor.rest.take count).count '\n' :=
  rfl

@[simp]
theorem offset_advance (cursor : Cursor source) (count : Nat) :
    (cursor.advance count).offset = cursor.offset + Text.byteLength (cursor.rest.take count) :=
  rfl

/-- No more is left than there is in the source. -/
theorem length_rest_le (cursor : Cursor source) : cursor.rest.length ≤ source.length := by
  have := congrArg List.length cursor.passed_append_rest
  simp only [List.length_append, List.length_reverse] at this
  omega

/-- Two moves forwards make one. -/
theorem advance_advance (cursor : Cursor source) (first second : Nat) :
    (cursor.advance first).advance second = cursor.advance (first + second) := by
  have shape : cursor.rest.take (first + second) =
      cursor.rest.take first ++ (cursor.rest.drop first).take second := List.take_add
  simp only [advance, shape, List.drop_drop, List.reverse_append, List.append_assoc,
    Text.byteLength_append, List.count_append, Nat.add_assoc]

theorem advance_zero (cursor : Cursor source) : cursor.advance 0 = cursor := by
  simp [advance]

theorem advance_of_length_le {cursor : Cursor source} {count : Nat}
    (past : cursor.rest.length ≤ count) : cursor.advance count = cursor.toEnd := by
  simp only [toEnd, advance, List.take_of_length_le past, List.drop_of_length_le past,
    List.take_length, List.drop_length]

theorem toEnd_advance (cursor : Cursor source) (count : Nat) :
    (cursor.advance count).toEnd = cursor.toEnd := by
  rw [toEnd, advance_advance]
  refine advance_of_length_le ?_
  rw [rest_advance, List.length_drop]
  omega

/-- Passing characters one by one comes to the same as passing their whole run. -/
theorem eatWhile_eq_advance (cursor : Cursor source) (inClass : Char → Bool) :
    cursor.eatWhile inClass =
      ((cursor.rest.takeWhile inClass).length,
        cursor.advance (cursor.rest.takeWhile inClass).length) := by
  fun_induction cursor.eatWhile inClass with
  | case1 cursor atEnd => simp [atEnd, advance_zero]
  | case2 cursor c later shape inside count last passed ih =>
    rw [passed] at ih
    have rest : cursor.bump.rest = later := by simp [bump, shape]
    rw [rest] at ih
    rcases Prod.mk.inj ih with ⟨rfl, rfl⟩
    simp [shape, inside, bump, advance_advance, Nat.add_comm]
  | case3 cursor c later shape outside => simp [shape, outside, advance_zero]

/-- What is passed in one move is the source between the two offsets. -/
theorem slice?_advance (cursor : Cursor source) (count : Nat) :
    Text.slice? source cursor.offset (cursor.advance count).offset =
      some (cursor.rest.take count) := by
  rw [Text.slice?_eq_some_iff]
  refine ⟨cursor.passed.reverse, cursor.rest.drop count, ?_, ?_, rfl⟩
  · simpa using cursor.passed_append_rest
  · simp [cursor.offset_eq]

/-- The source can be cut at a cursor. -/
theorem splitAt?_offset (cursor : Cursor source) :
    Text.splitAt? source cursor.offset = some (cursor.passed.reverse, cursor.rest) := by
  rw [Text.splitAt?_eq_some_iff, Text.byteLength_reverse]
  exact ⟨cursor.passed_append_rest, cursor.offset_eq.symm⟩

theorem offset_of_rest_eq_nil {cursor : Cursor source} (atEnd : cursor.rest = []) :
    cursor.offset = Text.byteLength source := by
  have whole := congrArg Text.byteLength cursor.passed_append_rest
  rw [cursor.offset_eq]
  simpa [atEnd] using whole

theorem offset_lt_of_rest_ne_nil {cursor : Cursor source} (unread : cursor.rest ≠ []) :
    cursor.offset < Text.byteLength source := by
  have whole := congrArg Text.byteLength cursor.passed_append_rest
  have left := Nat.lt_of_lt_of_le (List.length_pos_iff.mpr unread)
    (Text.length_le_byteLength cursor.rest)
  rw [Text.byteLength_append, Text.byteLength_reverse, ← cursor.offset_eq] at whole
  omega

end Cursor
end HeaderScan
