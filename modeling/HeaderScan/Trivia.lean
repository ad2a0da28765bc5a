import HeaderScan.CharClass
import HeaderScan.Cursor
import HeaderScan.ScanError
import HeaderScan.Text.Front

namespace HeaderScan

/-!
Trivia: the white space and the comments that may stand between tokens.

Trivia are read from a text alone, item by item, until something else comes.  A block comment
that is never closed is no item, so that the items end in front of it; `isOpenComment` tells this
end from the others.
-/

/-- One piece of what may stand between tokens. -/
inductive TriviaItem
  /-- A space, a tab or a carriage return. -/
  | blank (c : Char)
  | newline
  /-- Two slashes and the rest of the line; `ended` tells whether a line feed follows, which then
  belongs to the item. -/
  | lineComment (text : List Char) (ended : Bool)
  /-- A block comment, both of its marks included. -/
  | blockComment (text : List Char)
  deriving DecidableEq, Repr

namespace TriviaItem

/-- The characters of an item. -/
def chars : TriviaItem → List Char
  | blank c => [c]
  | newline => ['\n']
  | lineComment text ended => text ++ if ended then ['\n'] else []
  | blockComment text => text

/-- The inside of a block comment up to and with the mark that closes it. -/
def blockBody? : List Char → Option (List Char)
  | [] => none
  | '*' :: '/' :: _ => some ['*', '/']
  | c :: later => (blockBody? later).map (c :: ·)

/-- The line comment at the front of a text that begins with its two slashes. -/
def readLineComment (text : List Char) : TriviaItem :=
  lineComment (text.takeWhile (· != '\n')) (text.dropWhile (· != '\n') != [])

/-- The item at the front of a text, if there is one. -/
def first? : List Char → Option TriviaItem
  | '\n' :: _ => some newline
  | ' ' :: _ => some (blank ' ')
  | '\t' :: _ => some (blank '\t')
  | '\r' :: _ => some (blank '\r')
  | '/' :: '*' :: later => (blockBody? later).map fun body => blockComment ('/' :: '*' :: body)
  | '/' :: '/' :: later => some (readLineComment ('/' :: '/' :: later))
  | _ => none

/-- Whether a text begins with the mark that opens a block comment. -/
def isOpenComment (text : List Char) : Bool :=
  text.take 2 == ['/', '*']

theorem blockBody?_isPrefix {text body : List Char} (found : blockBody? text = some body) :
    body <+: text := by
  fun_induction blockBody? text generalizing body with
  | case1 => simp at found
  | case2 =>
    rcases Option.some.inj found with rfl
    simp
  | case3 c later _ ih =>
    rcases Option.map_eq_some_iff.mp found with ⟨inner, isInner, rfl⟩
    simpa using ih isInner

private theorem readLineComment_isPrefix (text : List Char) :
    (readLineComment text).chars <+: text := by
  simp only [readLineComment, chars]
  split
  next ended =>
    apply Text.prefix_append_drop (List.takeWhile_prefix _)
    have stops : text.drop (text.takeWhile (· != '\n')).length = text.dropWhile (· != '\n') := by
      have joined := List.takeWhile_append_dropWhile (p := (· != '\n')) (l := text)
      calc text.drop (text.takeWhile (· != '\n')).length
          = (text.takeWhile (· != '\n') ++ text.dropWhile (· != '\n')).drop
              (text.takeWhile (· != '\n')).length := by rw [joined]
        _ = text.dropWhile (· != '\n') := List.drop_left
    rw [stops]
    cases shape : text.dropWhile (· != '\n') with
    | nil => simp [shape] at ended
    | cons c later =>
      have := List.head?_dropWhile_not (· != '\n') text
      simp [shape] at this
      simp [this]
  · simpa using List.takeWhile_prefix _

/-- An item is a front of the text. -/
theorem first?_isPrefix {text : List Char} {item : TriviaItem} (found : first? text = some item) :
    item.chars <+: text := by
  unfold first? at found
  split at found
  case h_5 later =>
    rcases Option.map_eq_some_iff.mp found with ⟨body, isBody, rfl⟩
    simpa [chars] using blockBody?_isPrefix isBody
  case h_6 later =>
    rcases Option.some.inj found with rfl
    exact readLineComment_isPrefix _
  case h_7 => simp at found
  all_goals
    rcases Option.some.inj found with rfl
    simp [chars]

/-- No item is empty. -/
theorem first?_ne_nil {text : List Char} {item : TriviaItem} (found : first? text = some item) :
    item.chars ≠ [] := by
  unfold first? at found
  split at found
  case h_5 later =>
    rcases Option.map_eq_some_iff.mp found with ⟨body, isBody, rfl⟩
    simp [chars]
  case h_7 => simp at found
  all_goals
    rcases Option.some.inj found with rfl
    simp [chars, readLineComment]

end TriviaItem

namespace Trivia

/-- The items at the front of a text, as many as there are. -/
def read (text : List Char) : List TriviaItem :=
  match _found : TriviaItem.first? text with
  | none => []
  | some item => item :: read (text.drop item.chars.length)
termination_by text.length
decreasing_by
  exact Text.length_drop_lt (TriviaItem.first?_isPrefix _found) (TriviaItem.first?_ne_nil _found)

/-- The characters of several items. -/
def chars (items : List TriviaItem) : List Char :=
  items.flatMap TriviaItem.chars

/-- The items are a front of the text. -/
theorem read_isPrefix (text : List Char) : chars (read text) <+: text := by
  fun_induction read text with
  | case1 => exact List.nil_prefix
  | case2 text item found ih =>
    simpa [chars] using Text.prefix_append_drop (TriviaItem.first?_isPrefix found) ih

end Trivia

namespace Cursor

variable {source : List Char}

/-- Passes the inside of a block comment and the mark that closes it, or everything if there is
none, and says whether there was one. -/
def eatBlockBody (cursor : Cursor source) : Bool × Cursor source :=
  match TriviaItem.blockBody? cursor.rest with
  | some body => (true, cursor.advance body.length)
  | none => (false, cursor.toEnd)

/-- Passes the trivia in front of the next token. -/
def afterTrivia (cursor : Cursor source) : Cursor source :=
  cursor.advance (Trivia.chars (Trivia.read cursor.rest)).length

theorem length_rest_afterTrivia_le (cursor : Cursor source) :
    cursor.afterTrivia.rest.length ≤ cursor.rest.length := by
  simp [afterTrivia]

/-- Whether the trivia end at a block comment that is never closed. -/
def hasOpenComment (cursor : Cursor source) : Bool :=
  TriviaItem.isOpenComment cursor.afterTrivia.rest

/-- Passes the trivia in front of the next token, or everything if they end at a block comment
that is never closed. -/
def passTrivia (cursor : Cursor source) : Except ScanError Unit × Cursor source :=
  if cursor.hasOpenComment then
    (.error ⟨.unterminatedComment, cursor.afterTrivia.position⟩, cursor.afterTrivia.toEnd)
  else (.ok (), cursor.afterTrivia)

theorem length_rest_passTrivia_le (cursor : Cursor source) :
    cursor.passTrivia.2.rest.length ≤ cursor.rest.length := by
  have := cursor.length_rest_afterTrivia_le
  unfold passTrivia
  split
  · simp [toEnd]
  · exact this

end Cursor
end HeaderScan
