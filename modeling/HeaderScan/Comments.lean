import HeaderScan.Trivia

namespace HeaderScan

/-!
The comments that a reader has collected.

Comments in front of a token stay pending until the token is consumed; only committed comments
are shown.  A block comment, and a line comment that a blank line separates from the line comment
before it, begin a new group: all that was collected before is dropped, committed or not.
-/

/-- A comment and the offset at which it starts.  The text of a line comment goes without the
end of its line. -/
structure Comment where
  offset : Nat
  text : String
  deriving DecidableEq, Repr

/-- Collected comments, each list with the oldest comment first. -/
structure Comments where
  committed : List Comment
  pending : List Comment
  deriving DecidableEq, Repr

namespace Comments

def empty : Comments :=
  ⟨[], []⟩

/-- All comments, the committed ones first. -/
def toList (comments : Comments) : List Comment :=
  comments.committed ++ comments.pending

/-- Adds a pending comment. -/
def push (comments : Comments) (comment : Comment) : Comments :=
  { comments with pending := comments.pending ++ [comment] }

/-- Commits the pending comments. -/
def commit (comments : Comments) : Comments :=
  ⟨comments.committed ++ comments.pending, []⟩

/-- Drops the pending comments but for a number of the oldest. -/
def keepPending (comments : Comments) (count : Nat) : Comments :=
  { comments with pending := comments.pending.take count }

/-- Drops all pending comments. -/
def dropPending (comments : Comments) : Comments :=
  { comments with pending := [] }

/-- Drops the committed comments. -/
def dropCommitted (comments : Comments) : Comments :=
  { comments with committed := [] }

@[simp]
theorem toList_push (comments : Comments) (comment : Comment) :
    (comments.push comment).toList = comments.toList ++ [comment] := by
  simp [push, toList]

@[simp]
theorem toList_commit (comments : Comments) : comments.commit.toList = comments.toList := by
  simp [commit, toList]

end Comments

/-- The collection of comments under way.  `afterLineComment` is set from the first line comment
on; it outlives a directive, so that a blank line behind the directive still counts.
`afterGap` is set when a blank line has come since the last line comment. -/
structure CommentCapture where
  comments : Comments
  offset : Nat
  afterLineComment : Bool
  afterGap : Bool
  deriving DecidableEq, Repr

namespace CommentCapture

/-- The text of a line comment without the carriage return of its line's end. -/
def withoutReturn (text : List Char) : List Char :=
  if text.getLast? = some '\r' then text.dropLast else text

/-- Goes past one item. -/
def step (capture : CommentCapture) (item : TriviaItem) : CommentCapture :=
  let offset := capture.offset + Text.byteLength item.chars
  match item with
  | .blank _ => { capture with offset := offset }
  | .newline =>
    { capture with
      offset := offset
      afterGap := capture.afterGap || capture.afterLineComment }
  | .lineComment text _ =>
    let kept := if capture.afterGap then Comments.empty else capture.comments
    { comments := kept.push ⟨capture.offset, String.ofList (withoutReturn text)⟩
      offset := offset
      afterLineComment := true
      afterGap := false }
  | .blockComment text =>
    { capture with
      comments := Comments.empty.push ⟨capture.offset, String.ofList text⟩
      offset := offset }

/-- Goes past several items. -/
def run (capture : CommentCapture) (items : List TriviaItem) : CommentCapture :=
  items.foldl step capture

end CommentCapture
end HeaderScan
