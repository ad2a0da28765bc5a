import HeaderScan.Proofs.Reader.Flow
import HeaderScan.Session.Script

namespace HeaderScan

/-!
Handlers that look ahead.

A handler takes the line of its directive and may look at the token behind the line.  The reader
does not keep what the handler leaves unconsumed, but goes on behind it, so that a token that was
looked at is lost (`Reader.drain_looking_lost`).  Nothing is lost if the handler puts the token
back, or has seen the end of the file (`Reader.drain_looking`).
-/

/-- The same token, wherever the trivia in front of it begin. -/
def Token.withoutUnget (token : Token) : Token :=
  { token with unget := ⟨0, 0⟩ }

namespace Scanner

variable {source : List Char}

/-- What a scanner can become by looking ahead any number of times, and putting back what was seen
any number of times. -/
inductive Looks (scanner : Scanner source) : Scanner source → Prop
  | nowhere : Looks scanner scanner
  | peeks {current : Scanner source} {token : Token} : Looks scanner current ->
      current.peek.1 = .ok token -> Looks scanner current.peek.2
  | putsBack {current : Scanner source} : Looks scanner current ->
      Looks scanner (current.withLine current.position.line)

/-- The scanner takes a line. -/
def TakesLine (scanner left : Scanner source) : Prop :=
  left = scanner.readLine.2

/-- The scanner takes a line, and looks ahead in front of it and behind it. -/
def TakesLineLooking (scanner left : Scanner source) : Prop :=
  ∃ before, scanner.Looks before ∧ before.readLine.2.Looks left

/-- All that is left unconsumed satisfies a condition. -/
def LeavesOnly (condition : Token → Prop) (scanner : Scanner source) : Prop :=
  ∀ lookahead, scanner.lookahead = some lookahead -> condition lookahead.token

/-- Looking ahead leaves a scanner in front of the same text, at most with the next token read. -/
structure LookedFrom (cursor : Cursor source) (left : Scanner source) : Prop where
  inputCursor : left.inputCursor = cursor
  read : ∀ lookahead, left.lookahead = some lookahead ->
    cursor.readToken = (.ok lookahead.token, left.cursor)

theorem lookedFrom_of_lookahead_none {scanner : Scanner source}
    (noLookahead : scanner.lookahead = none) : LookedFrom scanner.cursor scanner where
  inputCursor := by
    rw [inputCursor, noLookahead]
  read := by
    intro lookahead isLookahead
    rw [noLookahead] at isLookahead
    cases isLookahead

/-- The next token, read ahead from the cursor. -/
theorem peek_of_readToken {scanner : Scanner source} {token : Token}
    (noLookahead : scanner.lookahead = none) (read : scanner.cursor.readToken.1 = .ok token) :
    scanner.peek.1 = .ok token ∧ scanner.peek.2.cursor = scanner.cursor.readToken.2 ∧
      scanner.peek.2.lookahead = some ⟨token, scanner.cursor⟩ := by
  have shape : scanner.readToken false = (.ok token, (scanner.readToken false).2) := by
    rw [← read]
    rfl
  rw [peek, noLookahead, shape]
  exact ⟨rfl, rfl, rfl⟩

theorem LookedFrom.peek {cursor : Cursor source} {scanner : Scanner source} {token : Token}
    (looked : LookedFrom cursor scanner) (peeked : scanner.peek.1 = .ok token) :
    LookedFrom cursor scanner.peek.2 := by
  cases isLookahead : scanner.lookahead with
  | some lookahead =>
    have stays : scanner.peek.2 = scanner := by
      rw [Scanner.peek, isLookahead]
    rw [stays]
    exact looked
  | none =>
    have place : scanner.cursor = cursor := by
      rw [← looked.inputCursor, Scanner.inputCursor, isLookahead]
    subst place
    cases read : scanner.cursor.readToken.1 with
    | error error =>
      have shape : scanner.readToken false = (.error error, (scanner.readToken false).2) := by
        rw [← read]
        rfl
      rw [Scanner.peek, isLookahead, shape] at peeked
      cases peeked
    | ok next =>
      rcases peek_of_readToken isLookahead read with ⟨_, isCursor, isNext⟩
      refine ⟨?_, ?_⟩
      · rw [Scanner.inputCursor, isNext]
      · intro lookahead isAhead
        rw [← Option.some.inj (isNext.symm.trans isAhead), isCursor, ← read]

theorem LookedFrom.putBack {cursor : Cursor source} {scanner : Scanner source}
    (looked : LookedFrom cursor scanner) :
    LookedFrom cursor (scanner.withLine scanner.position.line) := by
  have place : (scanner.withLine scanner.position.line).cursor = cursor := by
    rw [withLine, withCursor, cursor_rewind, position, looked.inputCursor]
    rfl
  have noneAhead : (scanner.withLine scanner.position.line).lookahead = none :=
    scanner.lookahead_rewind
  have put := lookedFrom_of_lookahead_none noneAhead
  rwa [place] at put

theorem Looks.lookedFrom {scanner left : Scanner source} (looks : scanner.Looks left)
    (noLookahead : scanner.lookahead = none) : LookedFrom scanner.cursor left := by
  induction looks with
  | nowhere => exact lookedFrom_of_lookahead_none noLookahead
  | peeks _ peeked inductionHypothesis => exact inductionHypothesis.peek peeked
  | putsBack _ inductionHypothesis => exact inductionHypothesis.putBack

theorem lookahead_readLine (scanner : Scanner source) : scanner.readLine.2.lookahead = none :=
  scanner.lookahead_rewind

theorem cursor_readLine {scanner : Scanner source} (noLookahead : scanner.lookahead = none) :
    scanner.readLine.2.cursor = scanner.cursor.readLine.2 := by
  change scanner.rewind.cursor.readLine.2 = _
  rw [rewind_of_lookahead_none noLookahead]

/-- Whatever is seen in front of a line, the line is the same. -/
theorem TakesLineLooking.lookedFrom {scanner left : Scanner source}
    (takes : scanner.TakesLineLooking left) (noLookahead : scanner.lookahead = none) :
    LookedFrom scanner.cursor.readLine.2 left := by
  rcases takes with ⟨before, looksBefore, looksBehind⟩
  have samePlace : before.readLine.2.cursor = scanner.cursor.readLine.2 := by
    change before.rewind.cursor.readLine.2 = _
    rw [cursor_rewind, (looksBefore.lookedFrom noLookahead).inputCursor]
  rw [← samePlace]
  exact looksBehind.lookedFrom before.lookahead_readLine

end Scanner

/-! ## What a handler does with the directives of a source -/

/-- A scanner behind the sign of a directive, which is the next token behind a cursor. -/
structure Cursor.Begins {source : List Char} (cursor : Cursor source) (directive : Token)
    (scanner : Scanner source) : Prop where
  read : cursor.readToken.1 = .ok directive
  begins : directive.beginsDirective source = true
  place : scanner.cursor = cursor.readToken.2
  noLookahead : scanner.lookahead = none

section Handlers

variable {source : List Char} {σ τ : Type} [DirectiveHandler σ] [DirectiveHandler τ]

namespace DirectiveHandler

/-- The states of a handler and the places at which it may meet a directive, as long as it takes
the lines of the directives and includes what is behind them. -/
inductive Meets (first : σ) : σ → Cursor source → Prop
  | start : Meets first first (.start source)
  | passes {handler : σ} {cursor : Cursor source} {token : Token} : Meets first handler cursor ->
      cursor.readToken.1 = .ok token -> token.beginsDirective source = false ->
      Meets first handler cursor.readToken.2
  | handles {handler next : σ} {cursor : Cursor source} {directive : Token}
      {scanner left : Scanner source} {result : Except Stop Outcome} :
      Meets first handler cursor -> cursor.Begins directive scanner ->
      DirectiveHandler.handle handler scanner directive .included = (result, next, left) ->
      Meets first next cursor.readToken.2.readLine.2

/-- With each directive that it meets, a handler includes what is behind it, and does so to the
scanner. -/
def Includes (source : List Char) (first : σ) (does : Scanner source → Scanner source → Prop) :
    Prop :=
  ∀ ⦃handler : σ⦄ ⦃cursor : Cursor source⦄ ⦃directive : Token⦄ ⦃scanner : Scanner source⦄,
    Meets first handler cursor -> cursor.Begins directive scanner ->
    ∃ outcome next left,
      DirectiveHandler.handle handler scanner directive .included = (.ok outcome, next, left) ∧
        outcome.includes = true ∧ does scanner left

end DirectiveHandler

open DirectiveHandler (Meets Includes)

namespace Reader

/-- Two readers that have come to the same place, the first with a handler that began as `plain`,
the second with one that began as `looking`. -/
structure Level (plain : σ) (looking : τ) (reader : Reader source σ)
    (other : Reader source τ) : Prop where
  place : other.scanner.cursor = reader.scanner.cursor
  noLookahead : reader.scanner.lookahead = none
  noOtherLookahead : other.scanner.lookahead = none
  meets : ∃ handler, reader.handler = some handler ∧ Meets plain handler reader.scanner.cursor
  otherMeets : ∃ handler, other.handler = some handler ∧
    Meets looking handler reader.scanner.cursor

/-- Two readings of a token that come to the same, but for the place from which the end of the file
was read. -/
inductive SameReading (plain : σ) (looking : τ) :
    Except Stop (Lookahead source) × Reader source σ →
      Except Stop (Lookahead source) × Reader source τ → Prop
  | stopped {stop : Stop} {after : Reader source σ} {other : Reader source τ} :
      SameReading plain looking (.error stop, after) (.error stop, other)
  | ended {last otherLast : Lookahead source} {after : Reader source σ}
      {other : Reader source τ} : last.token.kind = .endOfFile ->
      last.token.withoutUnget = otherLast.token.withoutUnget ->
      SameReading plain looking (.ok last, after) (.ok otherLast, other)
  | level {lookahead : Lookahead source} {after : Reader source σ} {other : Reader source τ} :
      Level plain looking after other ->
      SameReading plain looking (.ok lookahead, after) (.ok lookahead, other)

omit [DirectiveHandler σ] in
theorem beginsDirective_of_handlerFor {reader : Reader source σ} {token : Token} {handler : σ}
    (attached : reader.handlerFor token = some handler) : token.beginsDirective source = true := by
  unfold handlerFor at attached
  split at attached
  next begins => exact begins
  · cases attached

omit [DirectiveHandler σ] in
/-- Behind a directive, reading goes on with what the handler has left. -/
theorem place_resume (reader : Reader source σ) (next : σ) (left : Scanner source) (drops : Bool) :
    let behind := (reader.resume next left []).dropPendingIf drops
    behind.scanner.cursor = left.cursor ∧ behind.scanner.lookahead = left.lookahead ∧
      behind.handler = some next := by
  cases drops <;> exact ⟨rfl, rfl, rfl⟩

variable {plain : σ} {looking : τ} {reader : Reader source σ} {other : Reader source τ}

/-- Behind a token that begins no directive, the readers are at the same place again. -/
theorem Level.afterToken (level : Level plain looking reader other) {token : Token}
    (read : reader.scanner.cursor.readToken.1 = .ok token)
    (noDirective : token.beginsDirective source = false) (flag otherFlag : Bool) :
    Level plain looking (reader.afterToken flag) (other.afterToken otherFlag) where
  place := by
    change other.scanner.cursor.readToken.2 = reader.scanner.cursor.readToken.2
    rw [level.place]
  noLookahead := level.noLookahead
  noOtherLookahead := level.noOtherLookahead
  meets := by
    rcases level.meets with ⟨handler, attached, meets⟩
    exact ⟨handler, attached, meets.passes read noDirective⟩
  otherMeets := by
    rcases level.otherMeets with ⟨handler, attached, meets⟩
    exact ⟨handler, attached, meets.passes read noDirective⟩

omit [DirectiveHandler σ] in
theorem handlerFor_of_not_beginsDirective {token : Token}
    (noDirective : token.beginsDirective source = false) : reader.handlerFor token = none := by
  rw [handlerFor, noDirective, if_neg Bool.false_ne_true]

/-- A reader at the end of a source reads the end of the file once more. -/
theorem readToken_of_rest_eq_nil (atEnd : reader.scanner.cursor.rest = []) (flag : Bool) :
    reader.readToken flag =
      (.ok ⟨Flow.endToken reader.scanner.cursor, reader.scanner.cursor⟩,
        reader.afterToken flag) :=
  readToken_of_handlerFor_none (congrArg Prod.fst (Flow.readToken_of_rest_eq_nil atEnd))
    (handlerFor_of_not_beginsDirective rfl)

/-- The end of the file is the same wherever it is read from. -/
theorem withoutUnget_endToken {cursor : Cursor source} {token : Token}
    (read : cursor.readToken.1 = .ok token) (atEnd : token.kind = .endOfFile) :
    token.withoutUnget = (Flow.endToken cursor.readToken.2).withoutUnget := by
  have nothing : cursor.afterTrivia.rest = [] := (Cursor.place_readToken read).2.2.2.mp atEnd
  cases isOpen : cursor.hasOpenComment with
  | true =>
    rw [Cursor.readToken_of_hasOpenComment isOpen] at read
    cases read
  | false =>
    have lexeme : Lexeme.read cursor.afterTrivia.rest = ⟨[], .ok .endOfFile⟩ := by
      rw [nothing]
      rfl
    rw [Cursor.readToken_of_not_hasOpenComment isOpen, Cursor.readLexeme, lexeme] at read ⊢
    rw [← Except.ok.inj read]
    simp [Token.withoutUnget, Flow.endToken, Token.atStart, Span.point]

/-- Where nothing but the end of the file is left, it is read the same from in front of the trivia
and from behind them. -/
theorem sameReading_of_endOfFile {token : Token}
    (read : reader.scanner.cursor.readToken = (.ok token, other.scanner.cursor))
    (atEnd : token.kind = .endOfFile) (flag otherFlag : Bool) :
    SameReading plain looking (reader.readToken flag) (other.readToken otherFlag) := by
  have isRead := congrArg Prod.fst read
  have nothing := Cursor.rest_readToken_of_endOfFile isRead atEnd
  have same := withoutUnget_endToken isRead atEnd
  have noDirective : token.beginsDirective source = false := by
    rw [Token.beginsDirective, Token.isSymbol, atEnd]
    rfl
  rw [read] at nothing same
  rw [readToken_of_handlerFor_none isRead (handlerFor_of_not_beginsDirective noDirective),
    readToken_of_rest_eq_nil nothing]
  exact .ended atEnd same

/-- A handler that includes makes the reader go on from the scanner that it leaves. -/
theorem handleDirective_of_includes {first handler : σ}
    {does : Scanner source → Scanner source → Prop}
    (includes : Includes source first does) (meets : Meets first handler reader.scanner.cursor)
    (noLookahead : reader.scanner.lookahead = none) {token : Token}
    (read : reader.scanner.cursor.readToken.1 = .ok token)
    (begins : token.beginsDirective source = true) (flag : Bool) :
    let after := reader.afterToken flag
    ∃ clears next left,
      after.handleDirective handler token = (.ok clears, after.resume next left []) ∧
        Meets first next reader.scanner.cursor.readToken.2.readLine.2 ∧
        does after.scanner.reservePending left := by
  intro after
  have beginning : reader.scanner.cursor.Begins token after.scanner.reservePending :=
    ⟨read, begins, rfl, noLookahead⟩
  rcases includes meets beginning with ⟨outcome, next, left, handled, isIncluded, done⟩
  refine ⟨outcome.clearsComments, next, left, ?_, meets.handles beginning handled, done⟩
  rw [handleDirective_of_ok handled, if_pos isIncluded]

/-- Behind a directive, the readers are at the same place again, or the second one is already behind
the end of the file. -/
theorem Level.resume (level : Level plain looking reader other) {next : σ} {otherNext : τ}
    {left otherLeft : Scanner source} (flag otherFlag : Bool)
    (meets : Meets plain next reader.scanner.cursor.readToken.2.readLine.2)
    (otherMeets : Meets looking otherNext other.scanner.cursor.readToken.2.readLine.2)
    (takes : (reader.afterToken flag).scanner.reservePending.TakesLine left)
    (looks : (other.afterToken otherFlag).scanner.reservePending.TakesLineLooking otherLeft)
    (leaves : otherLeft.LeavesOnly fun token => token.kind = .endOfFile) (drops otherDrops : Bool) :
    let after := ((reader.afterToken flag).resume next left []).dropPendingIf drops
    let otherAfter :=
      ((other.afterToken otherFlag).resume otherNext otherLeft []).dropPendingIf otherDrops
    Level plain looking after otherAfter ∨
      ∃ last : Token, last.kind = .endOfFile ∧
        after.scanner.cursor.readToken = (.ok last, otherAfter.scanner.cursor) := by
  intro after otherAfter
  have isPlace : left.cursor = reader.scanner.cursor.readToken.2.readLine.2 := by
    rw [takes]
    exact Scanner.cursor_readLine level.noLookahead
  have noneLeft : left.lookahead = none := by
    rw [takes]
    exact Scanner.lookahead_readLine _
  have looked : otherLeft.LookedFrom left.cursor := by
    rw [isPlace, ← level.place]
    exact looks.lookedFrom level.noOtherLookahead
  rw [← isPlace] at meets
  rw [level.place, ← isPlace] at otherMeets
  rcases (reader.afterToken flag).place_resume next left drops with ⟨place, lookahead, handler⟩
  rcases (other.afterToken otherFlag).place_resume otherNext otherLeft otherDrops with
    ⟨otherPlace, otherLookahead, otherHandler⟩
  rw [← place] at meets otherMeets looked
  rw [noneLeft] at lookahead
  cases unconsumed : otherLeft.lookahead with
  | none =>
    rw [unconsumed] at otherLookahead
    have samePlace : otherLeft.cursor = after.scanner.cursor := by
      rw [← looked.inputCursor, Scanner.inputCursor, unconsumed]
    exact Or.inl ⟨otherPlace.trans samePlace, lookahead, otherLookahead, ⟨next, handler, meets⟩,
      ⟨otherNext, otherHandler, otherMeets⟩⟩
  | some last =>
    have read := looked.read last unconsumed
    rw [← otherPlace] at read
    exact Or.inr ⟨last.token, leaves last unconsumed, read⟩

section Draining

variable (takesLine : Includes source plain Scanner.TakesLine)
  (looksAhead : Includes source looking fun scanner left => scanner.TakesLineLooking left ∧
    left.LeavesOnly fun token => token.kind = .endOfFile)

include takesLine looksAhead

/-- Readers at the same place read the same, if the second handler leaves nothing unconsumed but
the end of the file. -/
theorem Level.sameReading (flag : Bool) : ∀ {other : Reader source τ} (otherFlag : Bool),
      Level plain looking reader other ->
      SameReading plain looking (reader.readToken flag) (other.readToken otherFlag) := by
  fun_induction reader.readToken flag
  case case1 reader flag after error failed =>
    intro other otherFlag level
    have alsoFailed : other.scanner.cursor.readToken.1 = .error error := by
      rw [level.place]
      exact failed
    rw [readToken_of_error alsoFailed]
    exact .stopped
  case case2 reader flag after token read unhandled =>
    intro other otherFlag level
    have alsoRead : other.scanner.cursor.readToken.1 = .ok token := by
      rw [level.place]
      exact read
    have noDirective : token.beginsDirective source = false := by
      rcases level.meets with ⟨handler, attached, _⟩
      cases begins : token.beginsDirective source with
      | false => rfl
      | true =>
        rw [handlerFor, begins, attached] at unhandled
        cases unhandled
    rw [readToken_of_handlerFor_none alsoRead (handlerFor_of_not_beginsDirective noDirective),
      level.place]
    exact .level (level.afterToken read noDirective flag otherFlag)
  case case3 reader flag after token read handler attached handled stop failed =>
    intro other otherFlag level
    rcases level.meets with ⟨_, isAttached, meets⟩
    have begins := beginsDirective_of_handlerFor attached
    rw [(handler_of_handlerFor attached).1] at isAttached
    rw [← Option.some.inj isAttached] at meets
    rcases handleDirective_of_includes takesLine meets level.noLookahead read begins flag with
      ⟨clears, next, left, result, _⟩
    have impossible := failed.symm.trans (congrArg Prod.fst result)
    cases impossible
  case case4 reader flag after token read handler attached handled clears ok inductionHypothesis =>
    intro other otherFlag level
    rcases level.meets with ⟨_, isAttached, meets⟩
    rcases level.otherMeets with ⟨otherHandler, otherAttached, otherMeets⟩
    have begins := beginsDirective_of_handlerFor attached
    rw [(handler_of_handlerFor attached).1] at isAttached
    rw [← Option.some.inj isAttached] at meets
    rcases handleDirective_of_includes takesLine meets level.noLookahead read begins flag with
      ⟨_, next, left, result, meetsNext, takes⟩
    have alsoRead : other.scanner.cursor.readToken.1 = .ok token := by
      rw [level.place]
      exact read
    rw [← level.place] at otherMeets
    rcases handleDirective_of_includes looksAhead otherMeets level.noOtherLookahead alsoRead begins
      otherFlag with ⟨otherClears, otherNext, otherLeft, otherResult, otherMeetsNext, looks, leaves⟩
    have alsoAttached : other.handlerFor token = some otherHandler := by
      rw [handlerFor, if_pos begins, otherAttached]
    rw [readToken_of_handlerFor alsoRead alsoAttached, otherResult]
    have isHandled : handled = (.ok _, after.resume next left []) := result
    rw [isHandled] at inductionHypothesis ⊢
    rcases level.resume flag otherFlag meetsNext otherMeetsNext takes looks leaves clears
      otherClears with stillLevel | ⟨last, isEnd, readEnd⟩
    · exact inductionHypothesis _ stillLevel
    · exact sameReading_of_endOfFile readEnd isEnd _ _

/-- Two readers at the same place take the same next token, and come to the same place. -/
theorem Level.next (level : Level plain looking reader other) :
    (∃ stop, reader.next.1 = .error stop ∧ other.next.1 = .error stop) ∨
      ∃ token otherToken, reader.next.1 = .ok token ∧ other.next.1 = .ok otherToken ∧
        token.withoutUnget = otherToken.withoutUnget ∧
        (token.kind ≠ .endOfFile -> Level plain looking reader.next.2 other.next.2) := by
  have same := level.sameReading takesLine looksAhead false false
  unfold Reader.next peek
  rw [level.noLookahead, level.noOtherLookahead]
  generalize reader.readToken false = reading at same
  generalize other.readToken false = otherReading at same
  cases same with
  | stopped => exact Or.inl ⟨_, rfl, rfl⟩
  | ended atEnd sameEnd => exact Or.inr ⟨_, _, rfl, rfl, sameEnd, fun notEnd => absurd atEnd notEnd⟩
  | level behind =>
    exact Or.inr ⟨_, _, rfl, rfl, rfl, fun _ =>
      ⟨behind.place, rfl, rfl, behind.meets, behind.otherMeets⟩⟩

/-- Two readers at the same place drain the same. -/
theorem Level.drain :
    ∀ {other : Reader source τ}, Level plain looking reader other ->
      reader.drain.1.tokens.map Token.withoutUnget = other.drain.1.tokens.map Token.withoutUnget ∧
        reader.drain.1.stop = other.drain.1.stop := by
  fun_induction Reader.drain reader
  case case1 reader after stop failed =>
    intro other level
    rcases level.next takesLine looksAhead with ⟨_, fails, otherFails⟩ | ⟨_, _, taken, _⟩
    · rw [drain_of_error otherFails, Except.error.inj (failed.symm.trans fails)]
      exact ⟨rfl, rfl⟩
    · cases failed.symm.trans taken
  case case2 reader after token taken first atEnd =>
    intro other level
    rcases level.next takesLine looksAhead with
      ⟨_, fails, _⟩ | ⟨_, otherToken, isTaken, otherTaken, same, _⟩
    · cases taken.symm.trans fails
    · rw [← Except.ok.inj (taken.symm.trans isTaken)] at same
      have otherAtEnd : otherToken.kind = .endOfFile :=
        (congrArg Token.kind same).symm.trans atEnd
      rw [drain_of_endOfFile otherTaken otherAtEnd]
      exact ⟨congrArg (fun token => [token]) same, rfl⟩
  case case3 reader after token taken first notEnd later last drained inductionHypothesis =>
    intro other level
    rcases level.next takesLine looksAhead with
      ⟨_, fails, _⟩ | ⟨_, otherToken, isTaken, otherTaken, same, goesOn⟩
    · cases taken.symm.trans fails
    · rw [← Except.ok.inj (taken.symm.trans isTaken)] at same goesOn
      have otherNotEnd : otherToken.kind ≠ .endOfFile := by
        intro otherAtEnd
        exact notEnd ((congrArg Token.kind same).trans otherAtEnd)
      rcases inductionHypothesis (goesOn notEnd) with ⟨sameTokens, sameStop⟩
      rw [drained] at sameTokens sameStop
      rw [drain_of_token otherTaken otherNotEnd]
      exact ⟨List.cons_eq_cons.mpr ⟨same, sameTokens⟩, sameStop⟩

end Draining

/-- A handler that takes the line of each directive and includes what is behind it may look ahead
any number of times in front of the line and behind it: the reader comes to the same tokens and the
same end, if the handler leaves nothing unconsumed but the end of the file. -/
theorem drain_looking (source : List Char) (plain : σ) (looking : τ)
    (takesLine : Includes source plain Scanner.TakesLine)
    (looksAhead : Includes source looking fun scanner left => scanner.TakesLineLooking left ∧
      left.LeavesOnly fun token => token.kind = .endOfFile) :
    let drained := (ofSource source (some plain)).drain.1
    let ahead := (ofSource source (some looking)).drain.1
    drained.tokens.map Token.withoutUnget = ahead.tokens.map Token.withoutUnget ∧
      drained.stop = ahead.stop := by
  have level : Level plain looking (ofSource source (some plain))
      (ofSource source (some looking)) :=
    ⟨rfl, rfl, rfl, ⟨plain, rfl, .start⟩, ⟨looking, rfl, .start⟩⟩
  exact level.drain takesLine looksAhead

end Reader

/-! ## A source with one directive -/

theorem exists_of_any {ε α : Type} {result : Except ε α} {holds : α → Bool}
    (any : result.toOption.any holds = true) :
    ∃ value, result = .ok value ∧ holds value = true := by
  cases result with
  | error => cases any
  | ok value => exact ⟨value, rfl, any⟩

/-- Behind the line of the sign with which a source begins. -/
def behindLine (source : List Char) : Cursor source :=
  (Cursor.start source).readToken.2.readLine.2

/-- A source that begins with the sign of a directive and has no other sign behind its line. -/
structure BeginsWithDirective (source : List Char) : Prop where
  begins : (Cursor.start source).readToken.1.toOption.any (Token.beginsDirective source) = true
  only : '#' ∉ (behindLine source).rest
  counts : (behindLine source).line < countLimit

theorem sign_mem_of_beginsDirective {cursor : Cursor source} {token : Token}
    (read : cursor.readToken.1 = .ok token) (begins : token.beginsDirective source = true) :
    '#' ∈ cursor.rest := by
  have isText := (Cursor.place_readToken read).2.1
  have isSign : token.text = "#" := by
    simp only [Token.beginsDirective, Token.isSymbol, Bool.and_eq_true, beq_iff_eq] at begins
    exact begins.1.2
  have inLexeme : '#' ∈ (Lexeme.read cursor.afterTrivia.rest).text := by
    rw [← isText, isSign]
    decide
  exact List.mem_of_mem_drop ((Lexeme.read_text_isPrefix _).subset inLexeme)

/-- Only the first state of a handler meets the directive. -/
theorem DirectiveHandler.Meets.of_beginsWithDirective {first handler : σ} {cursor : Cursor source}
    (single : BeginsWithDirective source) (meets : Meets first handler cursor) :
    (handler = first ∧ cursor = .start source) ∨ '#' ∉ cursor.rest := by
  induction meets with
  | start => exact Or.inl ⟨rfl, rfl⟩
  | passes meets read noDirective inductionHypothesis =>
    rcases inductionHypothesis with ⟨rfl, rfl⟩ | noSign
    · rcases exists_of_any single.begins with ⟨sign, isSign, begins⟩
      rw [Except.ok.inj (read.symm.trans isSign), begins] at noDirective
      cases noDirective
    · right
      rw [(Cursor.place_readToken read).2.2.1]
      intro isSign
      exact noSign (List.mem_of_mem_drop (List.mem_of_mem_drop isSign))
  | handles meets beginning _ inductionHypothesis =>
    rcases inductionHypothesis with ⟨rfl, rfl⟩ | noSign
    · exact Or.inr single.only
    · exact absurd (sign_mem_of_beginsDirective beginning.read beginning.begins) noSign

theorem DirectiveHandler.includes_of_beginsWithDirective {first : σ}
    {does : Scanner source → Scanner source → Prop} (single : BeginsWithDirective source)
    (handles : ∀ (directive : Token) (scanner : Scanner source),
      scanner.cursor = (Cursor.start source).readToken.2 -> scanner.lookahead = none ->
      ∃ outcome next left,
        DirectiveHandler.handle first scanner directive .included = (.ok outcome, next, left) ∧
          outcome.includes = true ∧ does scanner left) :
    Includes source first does := by
  intro handler cursor directive scanner meets beginning
  rcases meets.of_beginsWithDirective single with ⟨rfl, rfl⟩ | noSign
  · exact handles directive scanner beginning.place beginning.noLookahead
  · exact absurd (sign_mem_of_beginsDirective beginning.read beginning.begins) noSign

end Handlers

namespace Script

open DirectiveHandler (Includes)

variable {source : List Char} {scanner after left : Scanner source}

theorem performAll_cons {last : Token} {command : Command} {later : List Command} {reply : Reply}
    (performed : scanner.perform last command = (.ok reply, after))
    (counts : after.cursor.line < countLimit)
    (performs : ∀ last, ∃ observations, performAll last after later = (some observations, left)) :
    ∃ observations, performAll last scanner (command :: later) = (some observations, left) := by
  rcases performs (reply.latest.getD last) with ⟨observations, isPerformed⟩
  have latest : ((Except.ok reply : Except Stop Reply).toOption.bind Reply.latest).getD last =
      reply.latest.getD last := rfl
  unfold performAll
  simp only [performed, Observation.ofScanner?, if_pos counts, latest, isPerformed]
  exact ⟨_, rfl⟩

theorem handle_of_performAll {commands : List Command} {outcome : Outcome} {directive : Token}
    {region : Region}
    (performs : ∃ observations, performAll .absent scanner commands = (some observations, left)) :
    ∃ next, handle (ofSteps [⟨commands, none, outcome⟩]) scanner directive region =
      (.ok outcome, next, left) := by
  rcases performs with ⟨observations, isPerformed⟩
  have played : ∃ next, play ⟨commands, none, outcome⟩ (ofSteps []) scanner directive region =
      (.ok outcome, next, left) := by
    unfold play
    simp only [isPerformed]
    exact ⟨_, rfl⟩
  exact played

theorem performAll_readLine {later : List Command} {last : Token}
    (counts : scanner.readLine.2.cursor.line < countLimit)
    (performs : ∀ last, ∃ observations,
      performAll last scanner.readLine.2 later = (some observations, left)) :
    ∃ observations, performAll last scanner (.readLine :: later) = (some observations, left) := by
  have performed : scanner.perform last .readLine =
      (.ok (.token scanner.readLine.1), scanner.readLine.2) := rfl
  exact performAll_cons performed counts performs

/-- A script that takes the line of the only directive of a source. -/
theorem includes_readLine (single : BeginsWithDirective source) :
    Includes source (ofSteps [⟨[.readLine], none, .including⟩]) Scanner.TakesLine := by
  refine DirectiveHandler.includes_of_beginsWithDirective single ?_
  intro directive scanner place noLookahead
  have counts : scanner.readLine.2.cursor.line < countLimit := by
    rw [Scanner.cursor_readLine noLookahead, place]
    exact single.counts
  have performs : ∃ observations, performAll .absent scanner [.readLine] =
      (some observations, scanner.readLine.2) :=
    performAll_readLine counts fun _ => ⟨[], rfl⟩
  rcases handle_of_performAll performs with ⟨next, handled⟩
  exact ⟨_, next, _, handled, rfl, rfl⟩

/-- A script that takes the line of the only directive of a source, looks at the token behind it,
and then does something more. -/
theorem includes_readLine_peek {later : List Command}
    {does : Scanner source → Scanner source → Prop} {token : Token}
    (single : BeginsWithDirective source)
    (read : (behindLine source).readToken.1 = .ok token)
    (counts : (behindLine source).readToken.2.line < countLimit)
    (performs : ∀ scanner : Scanner source, scanner.readLine.2.cursor = behindLine source ->
      scanner.readLine.2.peek.1 = .ok token ->
      scanner.readLine.2.peek.2.lookahead = some ⟨token, behindLine source⟩ ->
      ∃ left, does scanner left ∧ ∀ last, ∃ observations,
        performAll last scanner.readLine.2.peek.2 later = (some observations, left)) :
    Includes source (ofSteps [⟨.readLine :: .peek :: later, none, .including⟩]) does := by
  refine DirectiveHandler.includes_of_beginsWithDirective single ?_
  intro directive scanner place noLookahead
  have isBehind : scanner.readLine.2.cursor = behindLine source := by
    rw [Scanner.cursor_readLine noLookahead, place, behindLine]
  have alsoRead := read
  rw [← isBehind] at alsoRead
  rcases Scanner.peek_of_readToken scanner.lookahead_readLine alsoRead with
    ⟨isToken, isCursor, isLookahead⟩
  rw [isBehind] at isCursor isLookahead
  rcases performs scanner isBehind isToken isLookahead with ⟨left, done, performs⟩
  have performed : ∀ last, scanner.readLine.2.perform last .peek =
      (.ok (.token token), scanner.readLine.2.peek.2) := by
    intro last
    rw [Scanner.perform, isToken]
    rfl
  have counted : scanner.readLine.2.cursor.line < countLimit := by
    rw [isBehind]
    exact single.counts
  rw [← isCursor] at counts
  rcases handle_of_performAll (performAll_readLine counted fun _ =>
    performAll_cons (performed _) counts performs) with ⟨next, handled⟩
  exact ⟨_, next, left, handled, rfl, done⟩

end Script

namespace Reader

open DirectiveHandler (Includes)

/-- The hypotheses hold for a script that puts the token behind the line back. -/
theorem drain_looking_putBack :
    let source := "#a\nx".toList
    let plain := Script.ofSteps [⟨[.readLine], none, .including⟩]
    let looking := Script.ofSteps [⟨[.readLine, .peek, .setLine 2], none, .including⟩]
    let drained := (ofSource source (some plain)).drain.1
    let ahead := (ofSource source (some looking)).drain.1
    Includes source plain Scanner.TakesLine ∧
      (Includes source looking fun scanner left => scanner.TakesLineLooking left ∧
        left.LeavesOnly fun token => token.kind = .endOfFile) ∧
      drained.tokens.map Token.withoutUnget = ahead.tokens.map Token.withoutUnget ∧
      drained.stop = ahead.stop := by
  intro source plain looking drained ahead
  have single : BeginsWithDirective source :=
    ⟨by decide +kernel, by decide +kernel, by decide +kernel⟩
  have takesLine : Includes source plain Scanner.TakesLine := Script.includes_readLine single
  have behind : (behindLine source).readToken.1.toOption.any (fun _ => true) = true := by
    decide +kernel
  rcases exists_of_any behind with ⟨token, read, _⟩
  have looksAhead : Includes source looking fun scanner left => scanner.TakesLineLooking left ∧
      left.LeavesOnly fun token => token.kind = .endOfFile := by
    refine Script.includes_readLine_peek single read (by decide +kernel) ?_
    intro scanner place peeked lookahead
    have isLine : scanner.readLine.2.peek.2.position.line = 2 := by
      rw [Scanner.position, Scanner.inputCursor, lookahead]
      change (behindLine source).line = 2
      decide +kernel
    have putsBack : scanner.readLine.2.Looks (scanner.readLine.2.peek.2.withLine 2) := by
      rw [← isLine]
      exact .putsBack (.peeks .nowhere peeked)
    have noneLeft : (scanner.readLine.2.peek.2.withLine 2).lookahead = none :=
      Scanner.lookahead_rewind _
    refine ⟨scanner.readLine.2.peek.2.withLine 2, ⟨⟨scanner, .nowhere, putsBack⟩, ?_⟩, ?_⟩
    · intro unconsumed isUnconsumed
      cases noneLeft.symm.trans isUnconsumed
    · have counts : (scanner.readLine.2.peek.2.withLine 2).cursor.line < countLimit := by
        change 2 < countLimit
        decide
      exact fun last => Script.performAll_cons rfl counts fun _ => ⟨[], rfl⟩
  exact ⟨takesLine, looksAhead, drain_looking source plain looking takesLine looksAhead⟩

/-- A token is lost that a handler has looked at and not put back. -/
theorem drain_looking_lost :
    let source := "#a\nx\ny".toList
    let plain := Script.ofSteps [⟨[.readLine], none, .including⟩]
    let looking := Script.ofSteps [⟨[.readLine, .peek], none, .including⟩]
    Includes source plain Scanner.TakesLine ∧
      (Includes source looking fun scanner left => scanner.TakesLineLooking left ∧
        left.LeavesOnly fun token => token.beginsDirective source = false) ∧
      (ofSource source (some plain)).drain.1.tokens.map Token.text = ["x", "y", ""] ∧
      (ofSource source (some looking)).drain.1.tokens.map Token.text = ["y", ""] := by
  intro source plain looking
  have single : BeginsWithDirective source :=
    ⟨by decide +kernel, by decide +kernel, by decide +kernel⟩
  have behind : (behindLine source).readToken.1.toOption.any
      (fun token => !token.beginsDirective source) = true := by
    decide +kernel
  rcases exists_of_any behind with ⟨token, read, noDirective⟩
  refine ⟨Script.includes_readLine single,
    Script.includes_readLine_peek single read (by decide +kernel) ?_, by decide +kernel,
    by decide +kernel⟩
  intro scanner place peeked lookahead
  refine ⟨_, ⟨⟨scanner, .nowhere, .peeks .nowhere peeked⟩, ?_⟩, fun _ => ⟨[], rfl⟩⟩
  intro unconsumed isUnconsumed
  rw [← Option.some.inj (lookahead.symm.trans isUnconsumed)]
  simpa using noDirective

end Reader
end HeaderScan
