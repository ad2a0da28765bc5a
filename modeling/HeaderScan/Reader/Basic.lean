import HeaderScan.Directive.Exclusion

namespace HeaderScan

/-!
The reader: a scanner with a handler for directives and the findings made in excluded code.

While a handler is attached, a sign that begins a directive never comes out as a token.  The
handler reads the directive, excluded code is passed, and the reader goes on behind it.
-/

/-- The state of reading a source whose directives are handled by a `σ`. -/
structure Reader (source : List Char) (σ : Type) where
  scanner : Scanner source
  handler : Option σ
  findings : List Diagnostic

namespace Reader

variable {source : List Char} {σ : Type}

/-- A reader at the start of a source. -/
def ofSource (source : List Char) (handler : Option σ) : Reader source σ :=
  ⟨.ofSource source, handler, []⟩

/-- Attaches a handler in the place of any other. -/
def attach (reader : Reader source σ) (handler : σ) : Reader source σ :=
  { reader with handler := some handler }

/-- Detaches the handler.  Without one, the sign of a directive is a symbol. -/
def detach (reader : Reader source σ) : Reader source σ :=
  { reader with handler := none }

def withScanner (reader : Reader source σ) (scanner : Scanner source) : Reader source σ :=
  { reader with scanner := scanner }

/-- The reader after a directive that has left this handler and this scanner. -/
def resume (reader : Reader source σ) (handler : σ) (scanner : Scanner source)
    (findings : List Diagnostic) : Reader source σ where
  scanner := { scanner with reserved := 0 }
  handler := some handler
  findings := reader.findings ++ findings

/-- The handler for a token, if the token begins a directive and a handler is attached. -/
def handlerFor (reader : Reader source σ) (token : Token) : Option σ :=
  if token.beginsDirective source then reader.handler else none

theorem handler_of_handlerFor {reader : Reader source σ} {token : Token} {handler : σ}
    (found : reader.handlerFor token = some handler) :
    reader.handler = some handler ∧ token.kind ≠ .endOfFile := by
  unfold handlerFor at found
  split at found
  next begins => exact ⟨found, Token.kind_of_beginsDirective begins⟩
  · simp at found

variable [DirectiveHandler σ]

/-- Passes the code that a directive excludes.  Comments are disabled meanwhile; those that are
pending behind the directive are dropped with the excluded code. -/
def passExcluded (reader : Reader source σ) (handler : σ) (scanner : Scanner source)
    (outcome : Outcome) : Except Stop Bool × Reader source σ :=
  let exclusion := Exclusion.run handler scanner.disableComments outcome.checksContent .nothing
  match exclusion.scanner.enableComments with
  | .error stop =>
    (.error stop, reader.resume exclusion.handler exclusion.scanner exclusion.findings)
  | .ok enabled =>
    let kept := { enabled with comments := enabled.comments.keepPending enabled.reserved }
    (exclusion.result.map fun () => outcome.clearsComments,
      reader.resume exclusion.handler kept exclusion.findings)

/-- Lets a handler read a directive in included code and passes the code that it excludes.  The
result says whether the comments in front of the directive are dropped.

The comments pending at the directive are reserved meanwhile, so that no token consumed on its
behalf takes them. -/
def handleDirective (reader : Reader source σ) (handler : σ) (directive : Token) :
    Except Stop Bool × Reader source σ :=
  let handled := DirectiveHandler.handle handler reader.scanner.reservePending directive .included
  match handled.1 with
  | .error stop => (.error stop, reader.resume handled.2.1 handled.2.2 [])
  | .ok outcome =>
    if outcome.includes then
      (.ok outcome.clearsComments, reader.resume handled.2.1 handled.2.2 [])
    else reader.passExcluded handled.2.1 handled.2.2 outcome

/-- Drops the pending comments, if they are to be dropped. -/
def dropPendingIf (reader : Reader source σ) (drops : Bool) : Reader source σ :=
  if drops then
    reader.withScanner { reader.scanner with comments := reader.scanner.comments.dropPending }
  else reader

/-- What is left to read, with the rewinding that the handler may still do. -/
def effort (reader : Reader source σ) : Effort :=
  reader.scanner.effort (reader.handler.elim 0 DirectiveHandler.rewinds)

/-- What is left to read, in one number. -/
def weight (reader : Reader source σ) : Nat :=
  reader.scanner.weight (reader.handler.elim 0 DirectiveHandler.rewinds)

theorem weight_lt {before after : Reader source σ} (less : after.effort < before.effort) :
    after.weight < before.weight :=
  Scanner.weight_lt less

theorem handleDirective_of_error {reader : Reader source σ} {handler next : σ}
    {directive : Token} {stop : Stop} {scanner : Scanner source}
    (handled : DirectiveHandler.handle handler reader.scanner.reservePending directive .included =
      (.error stop, next, scanner)) :
    reader.handleDirective handler directive = (.error stop, reader.resume next scanner []) := by
  simp only [handleDirective, handled]

theorem handleDirective_of_ok {reader : Reader source σ} {handler next : σ} {directive : Token}
    {outcome : Outcome} {scanner : Scanner source}
    (handled : DirectiveHandler.handle handler reader.scanner.reservePending directive .included =
      (.ok outcome, next, scanner)) :
    reader.handleDirective handler directive =
      if outcome.includes then (.ok outcome.clearsComments, reader.resume next scanner [])
      else reader.passExcluded next scanner outcome := by
  simp only [handleDirective, handled]

theorem effort_passExcluded_le (reader : Reader source σ) (handler : σ)
    (scanner : Scanner source) (outcome : Outcome) :
    (reader.passExcluded handler scanner outcome).2.effort ≤
      scanner.effort (DirectiveHandler.rewinds handler) := by
  have excluded := Exclusion.effort_run_le handler scanner.disableComments
    outcome.checksContent .nothing
  unfold passExcluded
  simp only
  split
  · exact excluded
  · next enabled isEnabled =>
    unfold Scanner.enableComments at isEnabled
    split at isEnabled
    · simp at isEnabled
    · rcases Except.ok.inj isEnabled with rfl
      exact excluded

theorem effort_handleDirective_le (reader : Reader source σ) (handler : σ) (directive : Token) :
    (reader.handleDirective handler directive).2.effort ≤
      reader.scanner.effort (DirectiveHandler.rewinds handler) := by
  have handled := DirectiveHandler.handle_le handler reader.scanner.reservePending directive
    .included
  unfold handleDirective
  simp only
  split
  · exact handled
  · split
    · exact handled
    · exact Effort.le_trans (effort_passExcluded_le _ _ _ _) handled

theorem effort_dropPendingIf (reader : Reader source σ) (drops : Bool) :
    (reader.dropPendingIf drops).effort = reader.effort := by
  unfold dropPendingIf
  split <;> rfl

/-- The reader behind the next token or directive sign. -/
def afterToken (reader : Reader source σ) (afterLineComment : Bool) : Reader source σ :=
  reader.withScanner (reader.scanner.readToken afterLineComment).2

theorem effort_afterToken_lt {reader : Reader source σ} {afterLineComment : Bool} {token : Token}
    (read : (reader.scanner.readToken afterLineComment).1 = .ok token)
    (notEnd : token.kind ≠ .endOfFile) :
    (reader.afterToken afterLineComment).effort < reader.effort :=
  Scanner.effort_withCursor_lt (Cursor.length_rest_readToken_lt read notEnd) _

/-- Reads on to the next token behind the cursor, through any number of directives. -/
def readToken (reader : Reader source σ) (afterLineComment : Bool) :
    Except Stop (Lookahead source) × Reader source σ :=
  let after := reader.afterToken afterLineComment
  match _read : (reader.scanner.readToken afterLineComment).1 with
  | .error error => (.error (.failure error), after)
  | .ok token =>
    match _attached : reader.handlerFor token with
    | none => (.ok ⟨token, reader.scanner.cursor⟩, after)
    | some handler =>
      let handled := after.handleDirective handler token
      match handled.1 with
      | .error stop => (.error stop, handled.2)
      | .ok clears =>
        readToken (handled.2.dropPendingIf clears)
          ((reader.scanner.capture afterLineComment).afterLineComment && !clears)
termination_by reader.weight
decreasing_by
  have attached := handler_of_handlerFor _attached
  have moved := effort_afterToken_lt _read attached.2
  apply weight_lt
  rw [effort_dropPendingIf]
  apply Effort.lt_of_le_of_lt (effort_handleDirective_le _ _ _)
  simpa [effort, afterToken, withScanner, attached.1] using moved

theorem readToken_of_error {reader : Reader source σ} {afterLineComment : Bool}
    {error : ScanError} (failed : reader.scanner.cursor.readToken.1 = .error error) :
    reader.readToken afterLineComment =
      (.error (.failure error), reader.afterToken afterLineComment) := by
  rw [readToken]
  split
  next other isOther =>
    have same := failed.symm.trans isOther
    rw [Except.error.inj same]
  next found => exact nomatch failed.symm.trans found

theorem readToken_of_handlerFor_none {reader : Reader source σ} {afterLineComment : Bool}
    {token : Token} (read : reader.scanner.cursor.readToken.1 = .ok token)
    (unhandled : reader.handlerFor token = none) :
    reader.readToken afterLineComment =
      (.ok ⟨token, reader.scanner.cursor⟩, reader.afterToken afterLineComment) := by
  rw [readToken]
  split
  next failed => exact nomatch read.symm.trans failed
  next other isOther =>
    have same := Except.ok.inj (read.symm.trans isOther)
    subst same
    split
    · rfl
    next attached => exact nomatch unhandled.symm.trans attached

theorem readToken_of_handlerFor {reader : Reader source σ} {afterLineComment : Bool}
    {token : Token} {handler : σ} (read : reader.scanner.cursor.readToken.1 = .ok token)
    (attached : reader.handlerFor token = some handler) :
    reader.readToken afterLineComment =
      let handled := (reader.afterToken afterLineComment).handleDirective handler token
      match handled.1 with
      | .error stop => (.error stop, handled.2)
      | .ok clears =>
        readToken (handled.2.dropPendingIf clears)
          ((reader.scanner.capture afterLineComment).afterLineComment && !clears) := by
  rw [readToken]
  split
  next failed => exact nomatch read.symm.trans failed
  next other isOther =>
    have same := Except.ok.inj (read.symm.trans isOther)
    subst same
    split
    next unhandled => exact nomatch attached.symm.trans unhandled
    next other isHandler => rw [Option.some.inj (attached.symm.trans isHandler)]

/-- The next token, which stays unconsumed. -/
def peek (reader : Reader source σ) : Except Stop Token × Reader source σ :=
  match reader.scanner.lookahead with
  | some lookahead => (.ok lookahead.token, reader)
  | none =>
    match reader.readToken false with
    | (.error stop, after) => (.error stop, after)
    | (.ok lookahead, after) =>
      (.ok lookahead.token,
        after.withScanner { after.scanner with lookahead := some lookahead })

/-- Takes the next token. -/
def next (reader : Reader source σ) : Except Stop Token × Reader source σ :=
  match reader.peek with
  | (.error stop, after) => (.error stop, after)
  | (.ok token, after) => (.ok token, after.withScanner after.scanner.consume)

/-- Remembers the place where reading goes on; the handler remembers its own. -/
def save (reader : Reader source σ) : Except ScanError (Reader source σ) :=
  reader.scanner.save.map fun scanner =>
    { reader with scanner := scanner, handler := reader.handler.map DirectiveHandler.save }

/-- Goes back to the remembered place, and so does the handler. -/
def restore (reader : Reader source σ) : Except ScanError (Reader source σ) :=
  reader.scanner.restore.map fun scanner =>
    { reader with scanner := scanner, handler := reader.handler.map DirectiveHandler.restore }

end Reader
end HeaderScan
