import HeaderScan.Comments
import HeaderScan.Line
import HeaderScan.RawText
import HeaderScan.RawToken

namespace HeaderScan

/-!
The scanner: tokens with their comments, one token of lookahead, a place to go back to and a
recording.  It knows nothing of directives; to it the sign that begins one is a symbol.

Every operation gives its result together with the scanner that it leaves, since a failing
operation may have moved on as well.
-/

/-- A token that has been read and not consumed, and the place in front of its trivia. -/
structure Lookahead (source : List Char) where
  token : Token
  before : Cursor source

/-- A place to go back to, with the comments collected there. -/
structure Snapshot (source : List Char) where
  cursor : Cursor source
  comments : Comments

/-- The state of reading a source. -/
structure Scanner (source : List Char) where
  cursor : Cursor source
  lookahead : Option (Lookahead source)
  comments : Comments
  /-- How often comments have been disabled and not enabled again. -/
  disabled : Nat
  /-- How many pending comments belong to the code in front of the directive under way. -/
  reserved : Nat
  saved : Option (Snapshot source)
  /-- The recorded tokens, if a recording is under way. -/
  recording : Option (List Token)

/-- Why an operation has no result: an error of the scan, or a breach of a rule whose keeping is
the caller's own affair.  After a breach nothing more can be asked. -/
inductive Stop
  | failure (error : ScanError)
  | breach
  deriving DecidableEq, Repr

namespace Scanner

variable {source : List Char}

/-- A scanner at the start of a source. -/
def ofSource (source : List Char) : Scanner source where
  cursor := .start source
  lookahead := none
  comments := .empty
  disabled := 0
  reserved := 0
  saved := none
  recording := none

/-- Where reading goes on: in front of the lookahead, if there is one. -/
def inputCursor (scanner : Scanner source) : Cursor source :=
  match scanner.lookahead with
  | some lookahead => lookahead.before
  | none => scanner.cursor

/-- The offset and line at which reading goes on. -/
def position (scanner : Scanner source) : Position :=
  scanner.inputCursor.position

/-- Whether the next token is the end of the file, as far as can be told without reading on. -/
def isAtEnd (scanner : Scanner source) : Bool :=
  match scanner.lookahead with
  | some lookahead => lookahead.token.isEnd
  | none => scanner.cursor.isAtEnd

/-- The same scanner with its cursor elsewhere. -/
def withCursor (scanner : Scanner source) (cursor : Cursor source) : Scanner source :=
  { scanner with cursor := cursor }

/-- The comments that are shown. -/
def shownComments (scanner : Scanner source) : List Comment :=
  scanner.comments.committed

/-- Puts the lookahead back, together with the pending comments. -/
def rewind (scanner : Scanner source) : Scanner source :=
  match scanner.lookahead with
  | none => scanner
  | some lookahead =>
    { scanner with
      cursor := lookahead.before
      lookahead := none
      comments := scanner.comments.dropPending }

theorem rewind_of_lookahead_none {scanner : Scanner source}
    (noLookahead : scanner.lookahead = none) :
    scanner.rewind = scanner := by
  rw [rewind, noLookahead]

/-- Putting the lookahead back leaves none. -/
theorem lookahead_rewind (scanner : Scanner source) : scanner.rewind.lookahead = none := by
  unfold rewind
  split
  next none => exact none
  · rfl

/-- Reading goes on from the same place. -/
theorem cursor_rewind (scanner : Scanner source) :
    scanner.rewind.cursor = scanner.inputCursor := by
  unfold rewind inputCursor
  cases scanner.lookahead <;> rfl

theorem disabled_rewind (scanner : Scanner source) :
    scanner.rewind.disabled = scanner.disabled := by
  unfold rewind
  split <;> rfl

/-- Puts the lookahead back and continues to count lines from another line. -/
def withLine (scanner : Scanner source) (line : Nat) : Scanner source :=
  scanner.rewind.withCursor (scanner.rewind.cursor.withLine line)

/-! ### Trivia and tokens -/

/-- The collection of the comments in the trivia in front of the next token. -/
def capture (scanner : Scanner source) (afterLineComment : Bool) : CommentCapture :=
  let capture := CommentCapture.run
    ⟨scanner.comments, scanner.cursor.offset, afterLineComment, false⟩
    (Trivia.read scanner.cursor.rest)
  if scanner.cursor.hasOpenComment then { capture with comments := .empty } else capture

/-- Passes the trivia in front of the next token and collects their comments. -/
def passTrivia (scanner : Scanner source) : Except ScanError Unit × Scanner source :=
  let (result, cursor) := scanner.cursor.passTrivia
  (result, { scanner with cursor := cursor, comments := (scanner.capture false).comments })

/-- Reads the next token behind the cursor, whatever the lookahead. -/
def readToken (scanner : Scanner source) (afterLineComment : Bool) :
    Except ScanError Token × Scanner source :=
  let (result, cursor) := scanner.cursor.readToken
  (result,
    { scanner with cursor := cursor, comments := (scanner.capture afterLineComment).comments })

/-- The next token, which stays unconsumed. -/
def peek (scanner : Scanner source) : Except ScanError Token × Scanner source :=
  match scanner.lookahead with
  | some lookahead => (.ok lookahead.token, scanner)
  | none =>
    match scanner.readToken false with
    | (.error error, after) => (.error error, after)
    | (.ok token, after) => (.ok token, { after with lookahead := some ⟨token, scanner.cursor⟩ })

/-- Consumes the lookahead.  Its comments are committed, or dropped while comments are disabled;
the token is recorded if it is not an end. -/
def consume (scanner : Scanner source) : Scanner source :=
  { scanner with
    lookahead := none
    comments :=
      if scanner.disabled = 0 then scanner.comments.commit
      else scanner.comments.keepPending scanner.reserved
    recording :=
      match scanner.recording, scanner.lookahead with
      | some tokens, some lookahead =>
        some (if lookahead.token.isEnd then tokens else tokens ++ [lookahead.token])
      | recording, _ => recording }

/-- Takes the next token. -/
def next (scanner : Scanner source) : Except ScanError Token × Scanner source :=
  match scanner.peek with
  | (.error error, after) => (.error error, after)
  | (.ok token, after) => (.ok token, after.consume)

/-! ### Lines and raw text -/

/-- Takes the rest of the current line. -/
def readLine (scanner : Scanner source) : Token × Scanner source :=
  let (token, cursor) := scanner.rewind.cursor.readLine
  (token, scanner.rewind.withCursor cursor)

/-- Takes the raw text behind the trivia in front of it. -/
def readRawText (scanner : Scanner source) (terminator : Char) (options : RawTextOptions) :
    Except ScanError String × Scanner source :=
  match scanner.rewind.passTrivia with
  | (.error error, after) => (.error error, after)
  | (.ok (), after) =>
    let (result, cursor) := after.cursor.readRawText terminator options
    (result.map String.ofList, after.withCursor cursor)

/-! ### Comments -/

def clearComments (scanner : Scanner source) : Scanner source :=
  { scanner with comments := scanner.comments.dropCommitted }

def commitComments (scanner : Scanner source) : Scanner source :=
  { scanner with comments := scanner.comments.commit }

def disableComments (scanner : Scanner source) : Scanner source :=
  { scanner with disabled := scanner.disabled + 1 }

/-- Reserves the pending comments for the code in front of a directive. -/
def reservePending (scanner : Scanner source) : Scanner source :=
  { scanner with reserved := scanner.comments.pending.length }

/-- Takes back one disabling.  It is a breach to do so when there is none. -/
def enableComments (scanner : Scanner source) : Except Stop (Scanner source) :=
  if scanner.disabled = 0 then .error .breach
  else .ok { scanner with disabled := scanner.disabled - 1 }

/-! ### Going back -/

/-- An error about a misuse of the scanner, at the place where it reads on. -/
def misuse (scanner : Scanner source) (cause : ScanError.Cause) : ScanError :=
  ⟨cause, scanner.position⟩

/-- Remembers the place where reading goes on.  The comments pending for a lookahead are not
remembered, since reading from that place on finds them again. -/
def save (scanner : Scanner source) : Except ScanError (Scanner source) :=
  match scanner.saved with
  | some _ => .error (scanner.misuse .stateAlreadySaved)
  | none =>
    let comments :=
      if scanner.lookahead.isSome then scanner.comments.dropPending else scanner.comments
    .ok { scanner with saved := some ⟨scanner.inputCursor, comments⟩ }

theorem save_of_ok {scanner after : Scanner source} (saved : scanner.save = .ok after) :
    after.lookahead = scanner.lookahead ∧ after.cursor = scanner.cursor ∧
      after.disabled = scanner.disabled := by
  unfold save at saved
  split at saved
  · cases saved
  · rw [← Except.ok.inj saved]
    exact ⟨rfl, rfl, rfl⟩

/-- Goes back to the remembered place and forgets it. -/
def restore (scanner : Scanner source) : Except ScanError (Scanner source) :=
  match scanner.saved with
  | none => .error (scanner.misuse .noSavedState)
  | some snapshot =>
    .ok
      { scanner with
        cursor := snapshot.cursor
        lookahead := none
        comments := snapshot.comments
        saved := none }

/-- Forgets the remembered place and stays.  The lookahead is put back. -/
def abandon (scanner : Scanner source) : Except ScanError (Scanner source) :=
  match scanner.saved with
  | none => .error (scanner.misuse .noSavedState)
  | some _ => .ok { scanner.rewind with saved := none }

/-! ### Recording -/

/-- Starts a recording of the tokens that are consumed from now on. -/
def enableRecording (scanner : Scanner source) : Except ScanError (Scanner source) :=
  match scanner.recording with
  | some _ => .error (scanner.misuse .recordingAlreadyEnabled)
  | none => .ok { scanner with recording := some [] }

/-- Adds a token to the recording. -/
def record (scanner : Scanner source) (token : Token) : Except ScanError (Scanner source) :=
  match scanner.recording with
  | none => .error (scanner.misuse .recordingNotEnabled)
  | some tokens => .ok { scanner with recording := some (tokens ++ [token]) }

/-- Ends the recording and drops it. -/
def disableRecording (scanner : Scanner source) : Except ScanError (Scanner source) :=
  match scanner.recording with
  | none => .error (scanner.misuse .recordingNotEnabled)
  | some _ => .ok { scanner with recording := none }

/-- The recorded tokens. -/
def recorded (scanner : Scanner source) : Except ScanError (List Token) :=
  match scanner.recording with
  | none => .error (scanner.misuse .recordingNotEnabled)
  | some tokens => .ok tokens

/-! ### The source -/

/-- A piece of the source, given by its offset and its size.  It is a breach to ask for a piece
that the source does not have. -/
def view (_ : Scanner source) (offset size : Nat) : Except Stop String :=
  match Text.slice? source offset (offset + size) with
  | none => .error .breach
  | some piece => .ok (String.ofList piece)

/-- Whether only spaces and tabs stand between a token and the start of its line. -/
def isFirstInLine (_ : Scanner source) (token : Token) : Bool :=
  Text.startsLine source token.span.start

end Scanner
end HeaderScan
