import HeaderScan.Proofs.Handler.Journal

namespace HeaderScan

/-!
The reader as one loop.

A reader takes tokens in a loop, in which a loop over directives looks for a token, in which a
loop over excluded code looks for its end.  `Flow.run` is a single loop over the raw tokens of a
source, whose mode tells whether the code is included; it has neither a scanner nor comments, nor
a lookahead.  `Reader.flowFrom_readToken` says that the reader follows it.
-/

/-- All that becomes of the rest of a source: the tokens that come out of it, the error that ends
them, the findings, the directives that are applied, and the last state of the handler, if there
is a handler. -/
structure Flow where
  tokens : List Token
  stop : Option ScanError
  findings : List Diagnostic
  boundaries : List Boundary
  state : Option Conditional.State
  deriving DecidableEq, Repr

namespace Flow

/-- The code in which the loop is; excluded code is searched as far as it says. -/
inductive Mode
  | included
  | excluded (checks : Bool) (progress : HiddenContent.Progress)
  deriving DecidableEq, Repr

namespace Mode

def region : Mode → Region
  | included => .included
  | excluded _ _ => .excluded

/-- The code behind a directive.  A search goes on over the directives within excluded code. -/
def after (mode : Mode) (outcome : Outcome) : Mode :=
  if outcome.includes then included
  else
    match mode with
    | included => excluded outcome.checksContent .nothing
    | excluded _ progress => excluded outcome.checksContent progress

end Mode

/-- What comes of a source in which nothing more is read. -/
def halted (stop : Option ScanError) (state : Option Conditional.State) : Flow :=
  ⟨[], stop, [], [], state⟩

/-- Adds a token in front of the others. -/
def emit (token : Token) (flow : Flow) : Flow :=
  { flow with tokens := token :: flow.tokens }

/-- Adds findings and directives in front of the others. -/
def behind (findings : List Diagnostic) (boundaries : List Boundary) (flow : Flow) : Flow :=
  { flow with
    findings := findings ++ flow.findings
    boundaries := boundaries ++ flow.boundaries }

@[simp]
theorem behind_nil (flow : Flow) : flow.behind [] [] = flow :=
  rfl

@[simp]
theorem behind_behind (flow : Flow) (first second : List Diagnostic)
    (earlier later : List Boundary) :
    (flow.behind second later).behind first earlier =
      flow.behind (first ++ second) (earlier ++ later) := by
  simp [behind]

theorem emit_behind (flow : Flow) (token : Token) (findings : List Diagnostic)
    (boundaries : List Boundary) :
    (flow.emit token).behind findings boundaries = (flow.behind findings boundaries).emit token :=
  rfl

variable {source : List Char}

/-- The token of the end of the file, read where nothing is left. -/
def endToken (cursor : Cursor source) : Token :=
  .atStart .endOfFile (.point cursor.offset) cursor.line cursor.line ""

/-- The state that decides about a token, if the token begins a directive and is handled. -/
def deciding (source : List Char) (state : Option Conditional.State) (token : Token) :
    Option Conditional.State :=
  if token.beginsDirective source then state else none

/-- The one loop.  Behind excluded code that goes on up to the end, the end of the file is read
once more. -/
def run (state : Option Conditional.State) (mode : Mode) (cursor : Cursor source) : Flow :=
  let after := cursor.readToken.2
  match _read : cursor.readToken.1 with
  | .error error => halted (some error) state
  | .ok token =>
    if _atEnd : token.kind = .endOfFile then
      (halted none state).emit (if mode = .included then token else endToken after)
    else
      match deciding source state token with
      | some current =>
        let text := Directive.readText after
        match current.apply (.ofText text.1) mode.region with
        | none =>
          halted (some ⟨.unmatchedDirective, ⟨token.span.start, token.startLine⟩⟩) state
        | some (outcome, next) =>
          (run (some next) (mode.after outcome) text.2).behind [] [⟨token.span.start, next⟩]
      | none =>
        match mode with
        | .included => (run state .included after).emit token
        | .excluded checks progress =>
          let searched := progress.stepIf checks token
          (run state (.excluded checks searched.2) after).behind searched.1.toList []
termination_by cursor.rest.length
decreasing_by
  all_goals have moved := Cursor.length_rest_readToken_lt _read _atEnd
  · exact Nat.lt_of_le_of_lt (Directive.length_rest_readText_le _) moved
  · exact moved
  · exact moved

/-! ## One turn of the loop -/

variable {state : Option Conditional.State} {mode : Mode} {cursor : Cursor source} {token : Token}

theorem deciding_of_not_beginsDirective (state : Option Conditional.State)
    (noDirective : token.beginsDirective source = false) :
    deciding source state token = none := by
  rw [deciding, noDirective, if_neg Bool.false_ne_true]

theorem deciding_of_beginsDirective (state : Option Conditional.State)
    (begins : token.beginsDirective source = true) : deciding source state token = state :=
  if_pos begins

theorem run_of_error {error : ScanError} (failed : cursor.readToken.1 = .error error) :
    run state mode cursor = halted (some error) state := by
  rw [run]
  split
  next other isOther => rw [Except.error.inj (failed.symm.trans isOther)]
  next found => exact nomatch failed.symm.trans found

theorem run_of_endOfFile (read : cursor.readToken.1 = .ok token)
    (atEnd : token.kind = .endOfFile) :
    run state mode cursor =
      (halted none state).emit
        (if mode = .included then token else endToken cursor.readToken.2) := by
  rw [run]
  split
  next failed => exact nomatch read.symm.trans failed
  next other isOther =>
    have same := Except.ok.inj (read.symm.trans isOther)
    subst same
    rw [dif_pos atEnd]

theorem run_of_read (read : cursor.readToken.1 = .ok token) (notEnd : token.kind ≠ .endOfFile) :
    run state mode cursor =
      match deciding source state token with
      | some current =>
        match current.apply (.ofText (Directive.readText cursor.readToken.2).1) mode.region with
        | none =>
          halted (some ⟨.unmatchedDirective, ⟨token.span.start, token.startLine⟩⟩) state
        | some (outcome, next) =>
          (run (some next) (mode.after outcome)
            (Directive.readText cursor.readToken.2).2).behind [] [⟨token.span.start, next⟩]
      | none =>
        match mode with
        | .included => (run state .included cursor.readToken.2).emit token
        | .excluded checks progress =>
          (run state (.excluded checks (progress.stepIf checks token).2)
            cursor.readToken.2).behind (progress.stepIf checks token).1.toList [] := by
  rw [run]
  split
  next failed => exact nomatch read.symm.trans failed
  next other isOther =>
    have same := Except.ok.inj (read.symm.trans isOther)
    subst same
    rw [dif_neg notEnd]

variable {current next : Conditional.State} {outcome : Outcome}

theorem run_of_unmatched (read : cursor.readToken.1 = .ok token)
    (notEnd : token.kind ≠ .endOfFile) (decides : deciding source state token = some current)
    (unmatched : current.apply (.ofText (Directive.readText cursor.readToken.2).1) mode.region =
      none) :
    run state mode cursor =
      halted (some ⟨.unmatchedDirective, ⟨token.span.start, token.startLine⟩⟩) state := by
  simp only [run_of_read read notEnd, decides, unmatched]

theorem run_of_applied (read : cursor.readToken.1 = .ok token)
    (notEnd : token.kind ≠ .endOfFile) (decides : deciding source state token = some current)
    (applied : current.apply (.ofText (Directive.readText cursor.readToken.2).1) mode.region =
      some (outcome, next)) :
    run state mode cursor =
      (run (some next) (mode.after outcome) (Directive.readText cursor.readToken.2).2).behind []
        [⟨token.span.start, next⟩] := by
  simp only [run_of_read read notEnd, decides, applied]

theorem run_of_token (read : cursor.readToken.1 = .ok token) (notEnd : token.kind ≠ .endOfFile)
    (unhandled : deciding source state token = none) :
    run state .included cursor = (run state .included cursor.readToken.2).emit token := by
  simp only [run_of_read read notEnd, unhandled]

theorem run_of_excluded_token {checks : Bool} {progress : HiddenContent.Progress}
    (read : cursor.readToken.1 = .ok token) (notEnd : token.kind ≠ .endOfFile)
    (unhandled : deciding source state token = none) :
    run state (.excluded checks progress) cursor =
      (run state (.excluded checks (progress.stepIf checks token).2) cursor.readToken.2).behind
        (progress.stepIf checks token).1.toList [] := by
  simp only [run_of_read read notEnd, unhandled]

/-- At the end of a source, reading gives the end of the file and does not move. -/
theorem readToken_of_rest_eq_nil (atEnd : cursor.rest = []) :
    cursor.readToken = (.ok (endToken cursor), cursor) := by
  have nothing : Trivia.read cursor.rest = [] := by
    rw [atEnd, Trivia.read]
    rfl
  have atToken : cursor.afterTrivia = cursor := by
    rw [Cursor.afterTrivia, nothing]
    exact cursor.advance_zero
  have closed : cursor.hasOpenComment = false := by
    rw [Cursor.hasOpenComment, atToken, atEnd]
    rfl
  have lexeme : Lexeme.read cursor.rest = ⟨[], .ok .endOfFile⟩ := by
    rw [atEnd]
    rfl
  rw [Cursor.readToken_of_not_hasOpenComment closed, atToken, Cursor.readLexeme]
  simp only [lexeme, List.length_nil, cursor.advance_zero]
  rfl

theorem run_of_rest_eq_nil (atEnd : cursor.rest = []) :
    run state mode cursor = (halted none state).emit (endToken cursor) := by
  have read := readToken_of_rest_eq_nil atEnd
  rw [run_of_endOfFile (congrArg Prod.fst read) rfl, read]
  split <;> rfl

end Flow

/-! ## The reader follows the loop -/

namespace Journaled

variable {source : List Char}

/-- What comes of the rest of a source, behind all that the handler has recorded. -/
def flow (journaled : Journaled) (findings : List Diagnostic) (mode : Flow.Mode)
    (cursor : Cursor source) : Flow :=
  (Flow.run (some journaled.conditional.state) mode cursor).behind findings journaled.boundaries

/-- What comes of a source in which an error ends everything. -/
def halt (journaled : Journaled) (findings : List Diagnostic) (error : ScanError) : Flow :=
  (Flow.halted (some error) (some journaled.conditional.state)).behind findings
    journaled.boundaries

/-- A directive is the same step of the handler and of the loop. -/
theorem flow_of_beginsDirective (journaled : Journaled) {cursor : Cursor source} {token : Token}
    (read : cursor.readToken.1 = .ok token) (begins : token.beginsDirective source = true)
    (scanner : Scanner source) (noLookahead : scanner.lookahead = none)
    (place : scanner.cursor = cursor.readToken.2) (mode : Flow.Mode)
    (findings : List Diagnostic) :
    ∃ next behind,
      (∃ error,
        DirectiveHandler.handle journaled scanner token mode.region =
            (.error (.failure error), next, scanner.withCursor behind) ∧
          journaled.flow findings mode cursor = next.halt findings error) ∨
      ∃ outcome,
        DirectiveHandler.handle journaled scanner token mode.region =
            (.ok outcome, next, scanner.withCursor behind) ∧
          journaled.flow findings mode cursor =
            next.flow findings (mode.after outcome) behind := by
  have notEnd := Token.kind_of_beginsDirective begins
  have decides := Flow.deciding_of_beginsDirective (some journaled.conditional.state) begins
  cases applied : journaled.conditional.state.apply
      (.ofText (Directive.readText scanner.cursor).1) mode.region with
  | none =>
    refine ⟨_, _, Or.inl ⟨_, handle_of_unmatched noLookahead applied, ?_⟩⟩
    rw [place] at applied
    rw [flow, Flow.run_of_unmatched read notEnd decides applied, halt]
  | some after =>
    rcases after with ⟨outcome, next⟩
    refine ⟨_, _, Or.inr ⟨outcome, handle_of_applied noLookahead applied, ?_⟩⟩
    rw [place] at applied
    rw [flow, Flow.run_of_applied read notEnd decides applied, Flow.behind_behind,
      List.append_nil, place]
    rfl

end Journaled

/-- What an exclusion must have made of a flow. -/
structure Exclusion.Follows {source : List Char} (exclusion : Exclusion source Journaled)
    (scanner : Scanner source) (findings : List Diagnostic) (flow : Flow) : Prop where
  scanner : ∃ behind, exclusion.scanner = scanner.withCursor behind
  result : (exclusion.result = .ok () ∧
      flow = exclusion.handler.flow (findings ++ exclusion.findings) .included
        exclusion.scanner.cursor) ∨
    ∃ error, exclusion.result = .error (.failure error) ∧
      flow = exclusion.handler.halt (findings ++ exclusion.findings) error

namespace Exclusion

variable {source : List Char}

theorem follows_run (journaled : Journaled) (scanner : Scanner source)
    (noLookahead : scanner.lookahead = none) (checks : Bool) (progress : HiddenContent.Progress)
    (findings : List Diagnostic) :
    (run journaled scanner checks progress).Follows scanner findings
      (journaled.flow findings (.excluded checks progress) scanner.cursor) := by
  fun_induction run journaled scanner checks progress generalizing findings with
  | case1 journaled scanner checks progress after error failed =>
    refine ⟨⟨_, rfl⟩, Or.inr ⟨error, rfl, ?_⟩⟩
    rw [Journaled.flow, Flow.run_of_error failed, List.append_nil]
    rfl
  | case2 journaled scanner checks progress after token read atEnd =>
    have nothing := Cursor.rest_readToken_of_endOfFile read atEnd
    have place : after.cursor = scanner.cursor.readToken.2 := rfl
    refine ⟨⟨_, rfl⟩, Or.inl ⟨rfl, ?_⟩⟩
    rw [Journaled.flow, Flow.run_of_endOfFile read atEnd, List.append_nil, Journaled.flow, place,
      Flow.run_of_rest_eq_nil nothing]
    rfl
  | case3 journaled scanner checks progress after token read notEnd begins handled stop failed =>
    rcases journaled.flow_of_beginsDirective read begins after noLookahead rfl
      (.excluded checks progress) findings with
      ⟨next, behind, ⟨error, result, halts⟩ | ⟨_, result, _⟩⟩
    · have result : handled = (.error (.failure error), next, after.withCursor behind) := result
      rw [result] at failed ⊢
      rw [← Except.error.inj failed]
      refine ⟨⟨behind, rfl⟩, Or.inr ⟨error, rfl, ?_⟩⟩
      rw [List.append_nil]
      exact halts
    · have impossible := failed.symm.trans (congrArg Prod.fst result)
      cases impossible
  | case4 journaled scanner checks progress after token read notEnd begins handled outcome ok
      includes =>
    rcases journaled.flow_of_beginsDirective read begins after noLookahead rfl
      (.excluded checks progress) findings with
      ⟨next, behind, ⟨_, result, _⟩ | ⟨other, result, goesOn⟩⟩
    · have impossible := ok.symm.trans (congrArg Prod.fst result)
      cases impossible
    · have result : handled = (.ok other, next, after.withCursor behind) := result
      rw [result] at ok ⊢
      rw [Except.ok.inj ok, Flow.Mode.after, if_pos includes] at goesOn
      refine ⟨⟨behind, rfl⟩, Or.inl ⟨rfl, ?_⟩⟩
      rw [List.append_nil]
      exact goesOn
  | case5 journaled scanner checks progress after token read notEnd begins handled outcome ok
      excludes inductionHypothesis =>
    rcases journaled.flow_of_beginsDirective read begins after noLookahead rfl
      (.excluded checks progress) findings with
      ⟨next, behind, ⟨_, result, _⟩ | ⟨other, result, goesOn⟩⟩
    · have impossible := ok.symm.trans (congrArg Prod.fst result)
      cases impossible
    · have result : handled = (.ok other, next, after.withCursor behind) := result
      rw [result] at ok inductionHypothesis ⊢
      rw [Except.ok.inj ok, Flow.Mode.after, if_neg excludes] at goesOn
      have follows := inductionHypothesis noLookahead findings
      rw [goesOn]
      exact ⟨follows.scanner, follows.result⟩
  | case6 journaled scanner checks progress after token read notEnd noDirective searched
      inductionHypothesis =>
    have noDirective : token.beginsDirective source = false := Bool.eq_false_iff.mpr noDirective
    have unhandled := Flow.deciding_of_not_beginsDirective
      (some journaled.conditional.state) noDirective
    have follows := inductionHypothesis noLookahead (findings ++ searched.1.toList)
    have goesOn : journaled.flow findings (.excluded checks progress) scanner.cursor =
        journaled.flow (findings ++ searched.1.toList) (.excluded checks searched.2)
          after.cursor := by
      rw [Journaled.flow, Flow.run_of_excluded_token read notEnd unhandled, Flow.behind_behind,
        List.append_nil]
      rfl
    refine ⟨follows.scanner, ?_⟩
    rw [goesOn]
    have result := follows.result
    rw [List.append_assoc] at result
    exact result

end Exclusion
namespace Scanner

variable {source : List Char}

/-- Two scanners that differ at most in what reading on changes. -/
structure Keeps (before after : Scanner source) : Prop where
  lookahead : after.lookahead = before.lookahead
  disabled : after.disabled = before.disabled
  saved : after.saved = before.saved
  recording : after.recording = before.recording

theorem Keeps.refl (scanner : Scanner source) : scanner.Keeps scanner :=
  ⟨rfl, rfl, rfl, rfl⟩

theorem Keeps.trans {first second third : Scanner source} (early : first.Keeps second)
    (late : second.Keeps third) : first.Keeps third where
  lookahead := late.lookahead.trans early.lookahead
  disabled := late.disabled.trans early.disabled
  saved := late.saved.trans early.saved
  recording := late.recording.trans early.recording

end Scanner

namespace Reader

variable {source : List Char}

/-- The directives that have been applied, if a handler is attached. -/
def boundaries (reader : Reader source Journaled) : List Boundary :=
  reader.handler.elim [] Journaled.boundaries

/-- The state of the handler, if one is attached. -/
def state (reader : Reader source Journaled) : Option Conditional.State :=
  reader.handler.map (·.conditional.state)

/-- What comes of the source behind a cursor, and before it all that the reader has found. -/
def flowFrom (reader : Reader source Journaled) (cursor : Cursor source) : Flow :=
  (Flow.run reader.state .included cursor).behind reader.findings reader.boundaries

/-- What comes of a source if an error ends everything here. -/
def halt (reader : Reader source Journaled) (error : ScanError) : Flow :=
  (Flow.halted (some error) reader.state).behind reader.findings reader.boundaries

/-- How a reader that has handled a directive must stand to a flow. -/
inductive Carries (flow : Flow) :
    Except Stop Bool × Reader source Journaled → Prop
  | halt {reader : Reader source Journaled} {error : ScanError} : flow = reader.halt error ->
      Carries flow (.error (.failure error), reader)
  | goOn {reader : Reader source Journaled} {clears : Bool} :
      flow = reader.flowFrom reader.scanner.cursor -> Carries flow (.ok clears, reader)

theorem Carries.of_error {flow : Flow} {result : Except Stop Bool × Reader source Journaled}
    {stop : Stop} (carries : Carries flow result) (failed : result.1 = .error stop) :
    ∃ error, stop = .failure error ∧ flow = result.2.halt error := by
  cases carries with
  | halt halts => exact ⟨_, (Except.error.inj failed).symm, halts⟩
  | goOn => cases failed

theorem Carries.of_ok {flow : Flow} {result : Except Stop Bool × Reader source Journaled}
    {clears : Bool} (carries : Carries flow result) (ok : result.1 = .ok clears) :
    flow = result.2.flowFrom result.2.scanner.cursor := by
  cases carries with
  | halt => cases ok
  | goOn goesOn => exact goesOn

/-- Passing excluded code ends where the loop comes to included code again. -/
theorem carries_passExcluded (reader : Reader source Journaled) (journaled : Journaled)
    (scanner : Scanner source) (noLookahead : scanner.lookahead = none) (outcome : Outcome) :
    scanner.Keeps (reader.passExcluded journaled scanner outcome).2.scanner ∧
      Carries
        (journaled.flow reader.findings (.excluded outcome.checksContent .nothing) scanner.cursor)
        (reader.passExcluded journaled scanner outcome) := by
  have follows := Exclusion.follows_run journaled scanner.disableComments noLookahead
    outcome.checksContent .nothing reader.findings
  rcases follows.scanner with ⟨behind, moved⟩
  have enabled : (Exclusion.run journaled scanner.disableComments outcome.checksContent
      .nothing).scanner.enableComments = .ok (scanner.withCursor behind) := by
    rw [moved]
    rfl
  have place : (Exclusion.run journaled scanner.disableComments outcome.checksContent
      .nothing).scanner.cursor = behind := congrArg Scanner.cursor moved
  unfold passExcluded
  simp only [enabled]
  refine ⟨⟨rfl, rfl, rfl, rfl⟩, ?_⟩
  rcases follows.result with ⟨result, goesOn⟩ | ⟨error, result, halts⟩
  · rw [result]
    rw [place] at goesOn
    exact .goOn goesOn
  · rw [result]
    exact .halt halts

/-- Handling a directive is what the loop does with it. -/
theorem carries_handleDirective (reader : Reader source Journaled) (journaled : Journaled)
    (cursor : Cursor source) {token : Token} (read : cursor.readToken.1 = .ok token)
    (begins : token.beginsDirective source = true)
    (noLookahead : reader.scanner.lookahead = none)
    (place : reader.scanner.cursor = cursor.readToken.2) :
    reader.scanner.Keeps (reader.handleDirective journaled token).2.scanner ∧
      Carries (journaled.flow reader.findings .included cursor)
        (reader.handleDirective journaled token) := by
  rcases journaled.flow_of_beginsDirective read begins
    reader.scanner.reservePending noLookahead place .included reader.findings with
    ⟨next, behind, ⟨error, result, halts⟩ | ⟨outcome, result, goesOn⟩⟩
  · rw [handleDirective_of_error result]
    refine ⟨⟨rfl, rfl, rfl, rfl⟩, .halt ?_⟩
    rw [halts]
    simp [Journaled.halt, halt, resume, state, boundaries]
  · rw [handleDirective_of_ok result]
    by_cases includes : outcome.includes = true
    · rw [if_pos includes]
      refine ⟨⟨rfl, rfl, rfl, rfl⟩, .goOn ?_⟩
      rw [goesOn, Flow.Mode.after, if_pos includes]
      simp [Journaled.flow, flowFrom, resume, state, boundaries, Scanner.withCursor]
    · rw [if_neg includes]
      rw [Flow.Mode.after, if_neg includes] at goesOn
      have passed := reader.carries_passExcluded next
        (reader.scanner.reservePending.withCursor behind) noLookahead outcome
      refine ⟨⟨passed.1.lookahead, passed.1.disabled, passed.1.saved, passed.1.recording⟩, ?_⟩
      rw [goesOn]
      exact passed.2

/-- How a reader that has come to a token must stand to a flow.  The token is at the cursor in
front of the lookahead, and no directive lies between them. -/
inductive Reaches (flow : Flow) :
    Except Stop (Lookahead source) × Reader source Journaled → Prop
  | halt {reader : Reader source Journaled} {error : ScanError} : flow = reader.halt error ->
      Reaches flow (.error (.failure error), reader)
  | token {reader : Reader source Journaled} {lookahead : Lookahead source} :
      lookahead.before.readToken = (.ok lookahead.token, reader.scanner.cursor) ->
      Flow.deciding source reader.state lookahead.token = none ->
      flow = reader.flowFrom lookahead.before -> Reaches flow (.ok lookahead, reader)

theorem deciding_state (reader : Reader source Journaled) (token : Token) :
    Flow.deciding source reader.state token =
      (reader.handlerFor token).map (·.conditional.state) := by
  unfold Flow.deciding handlerFor
  split <;> rfl

theorem flowFrom_of_handler {reader : Reader source Journaled} {journaled : Journaled}
    (attached : reader.handler = some journaled) (cursor : Cursor source) :
    reader.flowFrom cursor = journaled.flow reader.findings .included cursor := by
  simp [flowFrom, Journaled.flow, state, boundaries, attached]

theorem begins_of_handlerFor {reader : Reader source Journaled} {token : Token}
    {journaled : Journaled} (attached : reader.handlerFor token = some journaled) :
    token.beginsDirective source = true := by
  unfold handlerFor at attached
  split at attached
  next begins => exact begins
  · cases attached

theorem keeps_dropPendingIf (reader : Reader source Journaled) (drops : Bool) :
    reader.scanner.Keeps (reader.dropPendingIf drops).scanner := by
  unfold dropPendingIf
  split <;> exact ⟨rfl, rfl, rfl, rfl⟩

theorem flowFrom_dropPendingIf (reader : Reader source Journaled) (drops : Bool) :
    (reader.dropPendingIf drops).flowFrom (reader.dropPendingIf drops).scanner.cursor =
      reader.flowFrom reader.scanner.cursor := by
  unfold dropPendingIf
  split <;> rfl

/-- The reader follows the loop up to the next token that comes out of it. -/
theorem flowFrom_readToken (reader : Reader source Journaled)
    (noLookahead : reader.scanner.lookahead = none) (afterLineComment : Bool) :
    reader.scanner.Keeps (reader.readToken afterLineComment).2.scanner ∧
      Reaches (reader.flowFrom reader.scanner.cursor) (reader.readToken afterLineComment) := by
  fun_induction readToken reader afterLineComment with
  | case1 reader afterLineComment after error failed =>
    refine ⟨⟨rfl, rfl, rfl, rfl⟩, .halt ?_⟩
    have failed : reader.scanner.cursor.readToken.1 = .error error := failed
    rw [flowFrom, Flow.run_of_error failed]
    rfl
  | case2 reader afterLineComment after token read unhandled =>
    refine ⟨⟨rfl, rfl, rfl, rfl⟩, .token ?_ ?_ rfl⟩
    · exact Prod.ext read rfl
    · have decides := reader.deciding_state token
      rw [unhandled] at decides
      exact decides
  | case3 reader afterLineComment after token read journaled attached handled stop failed =>
    have carries := carries_handleDirective after journaled reader.scanner.cursor read
      (begins_of_handlerFor attached) noLookahead rfl
    have moved : reader.scanner.Keeps after.scanner := ⟨rfl, rfl, rfl, rfl⟩
    rcases carries.2.of_error failed with ⟨error, rfl, halts⟩
    rw [flowFrom_of_handler (handler_of_handlerFor attached).1]
    exact ⟨moved.trans carries.1, .halt halts⟩
  | case4 reader afterLineComment after token read journaled attached handled clears ok
      inductionHypothesis =>
    have carries := carries_handleDirective after journaled reader.scanner.cursor read
      (begins_of_handlerFor attached) noLookahead rfl
    have moved : reader.scanner.Keeps after.scanner := ⟨rfl, rfl, rfl, rfl⟩
    have keeps := (moved.trans carries.1).trans (handled.2.keeps_dropPendingIf clears)
    have later := inductionHypothesis (keeps.lookahead.trans noLookahead)
    refine ⟨keeps.trans later.1, ?_⟩
    rw [flowFrom_of_handler (handler_of_handlerFor attached).1]
    have goesOn := carries.2.of_ok ok
    rw [show after.findings = reader.findings from rfl] at goesOn
    rw [goesOn, ← flowFrom_dropPendingIf _ clears]
    exact later.2

/-- How a reader that has taken a token must stand to a flow. -/
inductive Takes (flow : Flow) : Except Stop Token × Reader source Journaled → Prop
  | halt {reader : Reader source Journaled} {error : ScanError} : flow = reader.halt error ->
      Takes flow (.error (.failure error), reader)
  | last {reader : Reader source Journaled} {token : Token} : token.kind = .endOfFile ->
      flow = ((Flow.halted none reader.state).emit token).behind reader.findings
        reader.boundaries -> Takes flow (.ok token, reader)
  | token {reader : Reader source Journaled} {token : Token} : token.kind ≠ .endOfFile ->
      flow = (reader.flowFrom reader.scanner.cursor).emit token -> Takes flow (.ok token, reader)

theorem next_of_lookahead_none {reader : Reader source Journaled}
    (noLookahead : reader.scanner.lookahead = none) :
    reader.next =
      match reader.readToken false with
      | (.error stop, after) => (.error stop, after)
      | (.ok lookahead, after) =>
        (.ok lookahead.token,
          after.withScanner
            (Scanner.consume { after.scanner with lookahead := some lookahead })) := by
  unfold next peek
  rw [noLookahead]
  cases reader.readToken false with
  | mk result after => cases result <;> rfl

theorem takes_next {reader : Reader source Journaled}
    (noLookahead : reader.scanner.lookahead = none) :
    reader.next.2.scanner.lookahead = none ∧
      Takes (reader.flowFrom reader.scanner.cursor) reader.next := by
  have follows := reader.flowFrom_readToken noLookahead false
  rw [next_of_lookahead_none noLookahead]
  rcases shape : reader.readToken false with ⟨result, after⟩
  rw [shape] at follows
  rcases follows with ⟨keeps, reaches⟩
  generalize reader.flowFrom reader.scanner.cursor = flow at reaches
  cases reaches with
  | halt halts => exact ⟨keeps.lookahead.trans noLookahead, .halt halts⟩
  | @token _ lookahead read unhandled goesOn =>
    have found := congrArg Prod.fst read
    have place := congrArg Prod.snd read
    refine ⟨rfl, ?_⟩
    by_cases atEnd : lookahead.token.kind = .endOfFile
    · refine .last atEnd ?_
      rw [goesOn, flowFrom, Flow.run_of_endOfFile found atEnd, if_pos rfl]
      rfl
    · refine .token atEnd ?_
      rw [goesOn, flowFrom, Flow.run_of_token found atEnd unhandled, Flow.emit_behind, place]
      rfl

theorem Takes.of_error {flow : Flow} {result : Except Stop Token × Reader source Journaled}
    {stop : Stop} (takes : Takes flow result) (failed : result.1 = .error stop) :
    ∃ error, stop = .failure error ∧ flow = result.2.halt error := by
  cases takes with
  | halt halts => exact ⟨_, (Except.error.inj failed).symm, halts⟩
  | last | token => cases failed

theorem Takes.of_endOfFile {flow : Flow} {result : Except Stop Token × Reader source Journaled}
    {token : Token} (takes : Takes flow result) (taken : result.1 = .ok token)
    (atEnd : token.kind = .endOfFile) :
    flow = ((Flow.halted none result.2.state).emit token).behind result.2.findings
      result.2.boundaries := by
  cases takes with
  | halt => cases taken
  | last _ ends => exact Except.ok.inj taken ▸ ends
  | token notEnd => exact absurd (Except.ok.inj taken ▸ atEnd) notEnd

theorem Takes.of_token {flow : Flow} {result : Except Stop Token × Reader source Journaled}
    {token : Token} (takes : Takes flow result) (taken : result.1 = .ok token)
    (notEnd : token.kind ≠ .endOfFile) :
    flow = (result.2.flowFrom result.2.scanner.cursor).emit token := by
  cases takes with
  | halt => cases taken
  | last atEnd => exact absurd (Except.ok.inj taken ▸ atEnd) notEnd
  | token _ goesOn => exact Except.ok.inj taken ▸ goesOn

/-- How a reader that has been drained must stand to a flow. -/
structure Drains (flow : Flow) (result : Drained × Reader source Journaled) : Prop where
  tokens : result.1.tokens = flow.tokens
  stop : result.1.stop = flow.stop.map Stop.failure
  findings : result.2.findings = flow.findings
  boundaries : result.2.boundaries = flow.boundaries
  state : result.2.state = flow.state

/-- A drain gives what comes of the source in the loop. -/
theorem drains_drain (reader : Reader source Journaled)
    (noLookahead : reader.scanner.lookahead = none) :
    Drains (reader.flowFrom reader.scanner.cursor) reader.drain := by
  fun_induction drain reader with
  | case1 reader after stop failed =>
    rcases (takes_next noLookahead).2.of_error failed with ⟨error, rfl, halts⟩
    rw [halts]
    constructor <;> simp [halt, Flow.halted, Flow.behind, Drained.tokens, after]
  | case2 reader after token taken first atEnd =>
    rw [(takes_next noLookahead).2.of_endOfFile taken atEnd]
    constructor <;> simp [Flow.halted, Flow.emit, Flow.behind, Drained.tokens, after, first]
  | case3 reader after token taken first notEnd later last rest inductionHypothesis =>
    have stillNone := (takes_next noLookahead).1
    have drains := inductionHypothesis stillNone
    rw [rest] at drains
    rw [(takes_next noLookahead).2.of_token taken notEnd]
    exact ⟨congrArg (token :: ·) drains.tokens, drains.stop, drains.findings, drains.boundaries,
      drains.state⟩

/-- A drain with a handler for conditional compilation follows the loop as well: with a journal it
gives the same. -/
theorem exists_drains (source : List Char) (symbols : SymbolTable) :
    ∃ journal : Drained × Reader source Journaled,
      (ofSource source (some (Conditional.ofSymbols symbols))).drain =
          (journal.1, journal.2.map Journaled.conditional) ∧
        Drains (Flow.run (some (Conditional.State.ofSymbols symbols)) .included (.start source))
          journal := by
  let start := ofSource source (some (Journaled.ofSymbols symbols))
  have isFlow : start.flowFrom start.scanner.cursor =
      Flow.run (some (Conditional.State.ofSymbols symbols)) .included (.start source) :=
    Flow.behind_nil _
  exact ⟨start.drain, Journaled.projection.drain_map start, isFlow ▸ start.drains_drain rfl⟩

end Reader
end HeaderScan
