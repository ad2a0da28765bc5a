import HeaderScan.Proofs.Handler.Commands
import HeaderScan.Proofs.Reader.Steps

namespace HeaderScan

/-!
The moments of a run.

On its way to a token a reader may come through several directives, and whatever their handlers ask
of the scanner meanwhile is done in the middle of one request.  The moments of a run are the
scanners between its operations, those of the handlers included; the run goes through them one
after the other, and from each of them to the next by one change (`Reader.follows_course`).
-/

variable {source : List Char}

/-- An operation: a piece of the reader's own work, or a command of the caller or of a handler. -/
inductive Operation
  | reading
  | asked (command : Command)
  | handling (command : Command)
  deriving DecidableEq, Repr

namespace Operation

/-- The operation commits the pending comments, whoever asks for it. -/
def commits : Operation → Bool
  | .reading => false
  | .asked command | .handling command => command = .commitComments

end Operation

/-- An operation and the scanner behind it. -/
structure Moment (source : List Char) where
  operation : Operation
  scanner : Scanner source

namespace Scanner

/-- The moments behind several commands of a handler. -/
def handlingMoments (scanner : Scanner source) : List (Token × Command) → List (Moment source)
  | [] => []
  | (about, command) :: later =>
    let after := (scanner.perform about command).2
    ⟨.handling command, after⟩ :: after.handlingMoments later

end Scanner

/-- The moments behind the commands for a directive. -/
def Scanner.directiveMoments {σ : Type} [DirectiveHandler σ] [ActsByCommands σ]
    (scanner : Scanner source) (handler : σ) (directive : Token) (region : Region) :
    List (Moment source) :=
  scanner.handlingMoments (ActsByCommands.commands handler scanner directive region)

section Handlers

variable {σ : Type} [DirectiveHandler σ] [ActsByCommands σ]

/-- The moments of passing excluded code. -/
def Exclusion.moments (handler : σ) (scanner : Scanner source) : List (Moment source) :=
  let after := scanner.withCursor scanner.cursor.readToken.2
  match _read : scanner.cursor.readToken.1 with
  | .error _ => [⟨.reading, after⟩]
  | .ok token =>
    if _atEnd : token.kind = .endOfFile then [⟨.reading, after⟩]
    else if token.beginsDirective source then
      let handled := DirectiveHandler.handle handler after token .excluded
      let handling := ⟨.reading, after⟩ :: after.directiveMoments handler token .excluded
      match handled.1 with
      | .error _ => handling
      | .ok outcome =>
        if outcome.includes then handling else handling ++ moments handled.2.1 handled.2.2
    else ⟨.reading, after⟩ :: moments handler after
termination_by scanner.weight (DirectiveHandler.rewinds handler)
decreasing_by
  all_goals
    have moved := Scanner.effort_withCursor_lt
      (Cursor.length_rest_readToken_lt _read _atEnd) (DirectiveHandler.rewinds handler)
  · exact Scanner.weight_lt
      (Effort.lt_of_le_of_lt (DirectiveHandler.handle_le handler after token .excluded) moved)
  · exact Scanner.weight_lt moved

namespace Reader

/-- The moments of excluding the code behind a directive. -/
def exclusionMoments (handler : σ) (scanner : Scanner source) (outcome : Outcome) :
    List (Moment source) :=
  let disabled := scanner.disableComments
  let exclusion := Exclusion.run handler disabled outcome.checksContent .nothing
  ⟨.reading, disabled⟩ :: Exclusion.moments handler disabled ++
    match exclusion.scanner.enableComments with
    | .error _ => []
    | .ok enabled =>
      let kept := { enabled with comments := enabled.comments.keepPending enabled.reserved }
      [⟨.reading, enabled⟩, ⟨.reading, kept⟩]

/-- The moments of handling a directive. -/
def directiveMoments (reader : Reader source σ) (handler : σ) (directive : Token) :
    List (Moment source) :=
  let reserved := reader.scanner.reservePending
  let handled := DirectiveHandler.handle handler reserved directive .included
  let excluded := match handled.1 with
    | .error _ => []
    | .ok outcome =>
      if outcome.includes then [] else exclusionMoments handled.2.1 handled.2.2 outcome
  ⟨.reading, reserved⟩ :: reserved.directiveMoments handler directive .included ++ excluded ++
    [⟨.reading, (reader.handleDirective handler directive).2.scanner⟩]

/-- The moments of reading on to the next token, which is looked at. -/
def readingMoments (reader : Reader source σ) (afterLineComment : Bool) : List (Moment source) :=
  let after := reader.afterToken afterLineComment
  match _read : (reader.scanner.readToken afterLineComment).1 with
  | .error _ => [⟨.reading, after.scanner⟩]
  | .ok token =>
    match _attached : reader.handlerFor token with
    | none =>
      let lookahead : Lookahead source := ⟨token, reader.scanner.cursor⟩
      [⟨.reading, { after.scanner with lookahead := some lookahead }⟩]
    | some handler =>
      let handled := after.handleDirective handler token
      let handling := ⟨.reading, after.scanner⟩ :: after.directiveMoments handler token
      match handled.1 with
      | .error _ => handling
      | .ok clears =>
        handling ++ ⟨.reading, (handled.2.dropPendingIf clears).scanner⟩ ::
          readingMoments (handled.2.dropPendingIf clears)
            ((reader.scanner.capture afterLineComment).afterLineComment && !clears)
termination_by reader.weight
decreasing_by
  have attached := handler_of_handlerFor _attached
  have moved := effort_afterToken_lt _read attached.2
  apply weight_lt
  rw [effort_dropPendingIf]
  apply Effort.lt_of_le_of_lt (effort_handleDirective_le _ _ _)
  simpa [effort, afterToken, withScanner, attached.1] using moved

def peekMoments (reader : Reader source σ) : List (Moment source) :=
  match reader.scanner.lookahead with
  | some _ => []
  | none => reader.readingMoments false

/-- A token is taken by looking at it and consuming it. -/
def nextMoments (reader : Reader source σ) : List (Moment source) :=
  reader.peekMoments ++
    match reader.peek.1 with
    | .error _ => []
    | .ok _ => [⟨.asked .consume, reader.next.2.scanner⟩]

def drainMoments (reader : Reader source σ) : List (Moment source) :=
  match _taken : reader.next.1 with
  | .error _ => reader.nextMoments
  | .ok token =>
    if _atEnd : token.kind = .endOfFile then reader.nextMoments
    else reader.nextMoments ++ drainMoments reader.next.2
termination_by reader.weight
decreasing_by exact weight_lt (effort_next_lt _taken _atEnd)

/-- The moments of a request. -/
def requestMoments (reader : Reader source σ) : Request σ → List (Moment source)
  | .command _ .next => reader.nextMoments
  | .command _ .peek => reader.peekMoments
  | .command _ .drain => reader.drainMoments
  | .command about command => [⟨.asked command, (reader.perform about command).2.scanner⟩]
  | .attach _ | .detach => []

/-- The moments of several requests. -/
def moments (reader : Reader source σ) : List (Request σ) → List (Moment source)
  | [] => []
  | request :: later =>
    reader.requestMoments request ++ (reader.answer request).reader.moments later

end Reader
end Handlers

/-! ## Reserved comments -/

namespace Command

/-- The command reads tokens. -/
def readsTokens : Command → Bool
  | .next | .peek | .drain => true
  | _ => false

end Command

namespace Reader

variable {σ : Type} [DirectiveHandler σ]

/-- Apart from reading tokens, what a reader does to its scanner the scanner does itself. -/
theorem scanner_perform (reader : Reader source σ) (about : Token) {command : Command}
    (noTokens : command.readsTokens = false) :
    (reader.perform about command).2.scanner = (reader.scanner.perform about command).2 := by
  cases command with
  | next | peek | drain => cases noTokens
  | save =>
    simp only [perform, Scanner.perform, save]
    cases reader.scanner.save <;> rfl
  | restore =>
    simp only [perform, Scanner.perform, restore]
    cases reader.scanner.restore <;> rfl
  | _ => rfl

theorem reserved_handleDirective (reader : Reader source σ) (handler : σ) (directive : Token) :
    (reader.handleDirective handler directive).2.scanner.reserved = 0 := by
  unfold handleDirective
  simp only
  split
  · rfl
  · split
    · rfl
    · unfold passExcluded
      simp only
      split <;> rfl

/-- Behind a token no pending comments are reserved. -/
theorem reserved_readToken (reader : Reader source σ) (afterLineComment : Bool)
    (noneReserved : reader.scanner.reserved = 0) :
    (reader.readToken afterLineComment).2.scanner.reserved = 0 := by
  fun_induction readToken reader afterLineComment with
  | case1 => exact noneReserved
  | case2 => exact noneReserved
  | case3 reader afterLineComment after token _ handler =>
    exact after.reserved_handleDirective handler token
  | case4 reader afterLineComment after token read handler attached handled clears ok
      inductionHypothesis =>
    have none : handled.2.scanner.reserved = 0 := after.reserved_handleDirective handler token
    apply inductionHypothesis
    cases clears <;> exact none

theorem reserved_peek {reader : Reader source σ} (noneReserved : reader.scanner.reserved = 0) :
    reader.peek.2.scanner.reserved = 0 := by
  have read := reserved_readToken reader false noneReserved
  unfold peek
  split
  · exact noneReserved
  · rcases shape : reader.readToken false with ⟨result, after⟩
    rw [shape] at read
    cases result <;> exact read

theorem reserved_next {reader : Reader source σ} (noneReserved : reader.scanner.reserved = 0) :
    reader.next.2.scanner.reserved = 0 := by
  have peeked := reserved_peek noneReserved
  unfold next
  rcases shape : reader.peek with ⟨result, after⟩
  rw [shape] at peeked
  cases result <;> exact peeked

theorem reserved_drain {reader : Reader source σ} (noneReserved : reader.scanner.reserved = 0) :
    reader.drain.2.scanner.reserved = 0 := by
  fun_induction drain reader with
  | case1 => exact reserved_next noneReserved
  | case2 => exact reserved_next noneReserved
  | case3 reader after token taken first notEnd later last rest inductionHypothesis =>
    have drained := inductionHypothesis (reserved_next noneReserved)
    rw [rest] at drained
    exact drained

/-- Between two requests no comments are reserved. -/
theorem reserved_perform (reader : Reader source σ) (about : Token) (command : Command)
    (noneReserved : reader.scanner.reserved = 0) :
    (reader.perform about command).2.scanner.reserved = 0 := by
  by_cases readsTokens : command.readsTokens = true
  · cases command with
    | next => exact reserved_next noneReserved
    | peek => exact reserved_peek noneReserved
    | drain => exact reserved_drain noneReserved
    | _ => cases readsTokens
  · rw [reader.scanner_perform about (Bool.eq_false_iff.mpr readsTokens)]
    exact (reader.scanner.reserved_perform about command).trans noneReserved

theorem reserved_answer (reader : Reader source σ) (request : Request σ)
    (noneReserved : reader.scanner.reserved = 0) :
    (reader.answer request).reader.scanner.reserved = 0 := by
  cases request with
  | attach | detach => exact noneReserved
  | command about command => exact reserved_perform reader about command noneReserved

end Reader

/-! ## From moment to moment -/

/-- What an operation does to the scanner in front of it. -/
structure Scanner.Follows (before : Scanner source) (moment : Moment source) : Prop where
  changes : moment.operation.commits = false -> before.Changes moment.scanner
  /-- Where the caller consumes a token, no pending comments are reserved. -/
  consumes : moment.operation = .asked .consume ->
    before.reserved = 0 ∧ moment.scanner = before.consume

/-- A scanner is led through several moments, one after the other, to another one. -/
inductive Scanner.Leads : Scanner source → List (Moment source) → Scanner source → Prop
  | nil {scanner : Scanner source} : Leads scanner [] scanner
  | cons {before after : Scanner source} {moment : Moment source} {later : List (Moment source)} :
      before.Follows moment -> Leads moment.scanner later after ->
      Leads before (moment :: later) after

namespace Scanner

variable {before between after : Scanner source}

theorem Leads.append {early late : List (Moment source)} (first : before.Leads early between)
    (second : between.Leads late after) : before.Leads (early ++ late) after := by
  induction first with
  | nil => exact second
  | cons follows _ inductionHypothesis => exact .cons follows (inductionHypothesis second)

/-- From every moment to the next one leads an operation. -/
theorem Leads.follows {moments : List (Moment source)} (leads : before.Leads moments after)
    {operation : Operation} {time : Nat} {earlier later : Moment source}
    (isEarlier : (⟨operation, before⟩ :: moments)[time]? = some earlier)
    (isLater : (⟨operation, before⟩ :: moments)[time + 1]? = some later) :
    earlier.scanner.Follows later := by
  induction leads generalizing operation time with
  | nil =>
    rw [List.getElem?_cons_succ, List.getElem?_nil] at isLater
    cases isLater
  | cons follows _ inductionHypothesis =>
    rw [List.getElem?_cons_succ] at isLater
    cases time with
    | zero =>
      rw [← Option.some.inj isEarlier, ← Option.some.inj isLater]
      exact follows
    | succ time => exact inductionHypothesis isEarlier isLater

theorem Leads.getLast? {moments : List (Moment source)} (leads : before.Leads moments after)
    (operation : Operation) :
    (⟨operation, before⟩ :: moments).getLast?.map Moment.scanner = some after := by
  induction leads generalizing operation with
  | nil => rfl
  | cons _ _ inductionHypothesis =>
    rw [List.getLast?_cons_cons]
    exact inductionHypothesis _

/-- The reader's own work takes small steps. -/
theorem Changes.follows (changes : before.Changes after) : before.Follows ⟨.reading, after⟩ where
  changes _ := changes
  consumes impossible := nomatch impossible

theorem Changes.leads (changes : before.Changes after) : before.Leads [⟨.reading, after⟩] after :=
  .cons changes.follows .nil

theorem leads_handlingMoments (scanner : Scanner source) (commands : List (Token × Command)) :
    scanner.Leads (scanner.handlingMoments commands) (scanner.performEach commands) := by
  induction commands generalizing scanner with
  | nil => exact .nil
  | cons asked later inductionHypothesis =>
    refine .cons ⟨?_, fun impossible => nomatch impossible⟩ (inductionHypothesis _)
    exact fun noCommit => scanner.changes_perform asked.1 (of_decide_eq_false noCommit)

variable {σ : Type} [DirectiveHandler σ] [ActsByCommands σ]

theorem leads_directiveMoments (scanner : Scanner source) (handler : σ) (directive : Token)
    (region : Region) :
    scanner.Leads (scanner.directiveMoments handler directive region)
      (DirectiveHandler.handle handler scanner directive region).2.2 := by
  rw [ActsByCommands.performed]
  exact scanner.leads_handlingMoments _

end Scanner

section Handlers

variable {σ : Type} [DirectiveHandler σ] [ActsByCommands σ]

theorem Exclusion.leads_moments (handler : σ) (scanner : Scanner source) (checks : Bool)
    (progress : HiddenContent.Progress) :
    scanner.Leads (Exclusion.moments handler scanner)
      (Exclusion.run handler scanner checks progress).scanner := by
  have passes : ∀ scanner : Scanner source,
      scanner.Changes (scanner.withCursor scanner.cursor.readToken.2) := fun scanner =>
    .steps (.single (.moves scanner.cursor.precedes_readToken.offset_le))
  fun_induction Exclusion.moments handler scanner generalizing checks progress with
  | case1 handler scanner after error failed =>
    rw [run_of_error failed]
    exact (passes scanner).leads
  | case2 handler scanner after token read atEnd =>
    rw [run_of_endOfFile read atEnd]
    exact (passes scanner).leads
  | case3 handler scanner after token read notEnd begins handled handling stop failed =>
    simp only [handled, after] at failed
    simp only [run_of_beginsDirective read begins, failed]
    exact .cons (passes scanner).follows (after.leads_directiveMoments handler token .excluded)
  | case4 handler scanner after token read notEnd begins handled handling outcome ok includes =>
    simp only [handled, after] at ok
    simp only [run_of_beginsDirective read begins, ok, if_pos includes]
    exact .cons (passes scanner).follows (after.leads_directiveMoments handler token .excluded)
  | case5 handler scanner after token read notEnd begins handled handling outcome ok excludes
      inductionHypothesis =>
    simp only [handled, after] at ok
    simp only [run_of_beginsDirective read begins, ok, if_neg excludes]
    have handles := after.leads_directiveMoments handler token .excluded
    exact .cons (passes scanner).follows (handles.append (inductionHypothesis _ _))
  | case6 handler scanner after token read notEnd noDirective inductionHypothesis =>
    rw [run_of_token read notEnd (Bool.eq_false_iff.mpr noDirective)]
    exact .cons (passes scanner).follows (inductionHypothesis _ _)

namespace Reader

/-- Behind excluded code, only the reserved comments are still to be released. -/
theorem leads_exclusionMoments (reader : Reader source σ) (handler : σ) (scanner : Scanner source)
    (outcome : Outcome) :
    ∃ left, scanner.Leads (exclusionMoments handler scanner outcome) left ∧
      (reader.passExcluded handler scanner outcome).2.scanner = { left with reserved := 0 } := by
  have disables : scanner.Changes scanner.disableComments := .disables rfl
  have excludes := Scanner.Leads.cons disables.follows
    (Exclusion.leads_moments handler scanner.disableComments outcome.checksContent .nothing)
  unfold exclusionMoments passExcluded
  simp only
  cases enables : (Exclusion.run handler scanner.disableComments outcome.checksContent
    .nothing).scanner.enableComments with
  | error stop => exact ⟨_, excludes.append .nil, rfl⟩
  | ok enabled =>
    have keeps : enabled.Changes
        { enabled with comments := enabled.comments.keepPending enabled.reserved } :=
      .steps (.single (.keepsPending enabled.reserved))
    have behind := Scanner.Leads.cons (Scanner.Changes.enables enables).follows keeps.leads
    exact ⟨_, excludes.append behind, rfl⟩

theorem leads_directiveMoments (reader : Reader source σ) (handler : σ) (directive : Token) :
    reader.scanner.Leads (reader.directiveMoments handler directive)
      (reader.handleDirective handler directive).2.scanner := by
  have reserves : reader.scanner.Changes reader.scanner.reservePending := .reserves _ rfl
  have handles := reader.scanner.reservePending.leads_directiveMoments handler directive .included
  have met := Scanner.Leads.cons reserves.follows handles
  unfold directiveMoments handleDirective
  simp only
  rcases shape : DirectiveHandler.handle handler reader.scanner.reservePending directive .included
    with ⟨result, next, left⟩
  rw [shape] at met
  have resumes : ∀ left : Scanner source, left.Changes { left with reserved := 0 } :=
    fun left => .reserves 0 rfl
  cases result with
  | error stop => exact (met.append .nil).append (resumes left).leads
  | ok outcome =>
    by_cases includes : outcome.includes = true
    · simp only [if_pos includes]
      exact (met.append .nil).append (resumes left).leads
    · simp only [if_neg includes]
      rcases reader.leads_exclusionMoments next left outcome with ⟨kept, excludes, final⟩
      rw [final]
      exact (met.append excludes).append (resumes kept).leads

omit [DirectiveHandler σ] [ActsByCommands σ] in
theorem changes_afterToken (reader : Reader source σ) (afterLineComment : Bool) :
    reader.scanner.Changes (reader.afterToken afterLineComment).scanner :=
  .steps (.single (.collects afterLineComment
    reader.scanner.cursor.precedes_readToken_afterTrivia.offset_le))

omit [DirectiveHandler σ] [ActsByCommands σ] in
theorem changes_dropPendingIf (reader : Reader source σ) (drops : Bool) :
    reader.scanner.Changes (reader.dropPendingIf drops).scanner := by
  cases drops with
  | false => exact .steps .refl
  | true => exact .steps (.single (.keepsPending 0))

/-- The scanner behind a reading of a token, which is looked at if there is one. -/
def lookedAt (reading : Except Stop (Lookahead source) × Reader source σ) : Scanner source :=
  match reading.1 with
  | .error _ => reading.2.scanner
  | .ok lookahead => { reading.2.scanner with lookahead := some lookahead }

theorem leads_readingMoments (reader : Reader source σ) (afterLineComment : Bool) :
    reader.scanner.Leads (reader.readingMoments afterLineComment)
      (lookedAt (reader.readToken afterLineComment)) := by
  fun_induction readingMoments reader afterLineComment with
  | case1 reader afterLineComment after error failed =>
    rw [readToken_of_error failed]
    exact (reader.changes_afterToken afterLineComment).leads
  | case2 reader afterLineComment after token read unhandled lookahead =>
    rw [readToken_of_handlerFor_none read unhandled]
    have looks : Scanner.Step reader.scanner { after.scanner with lookahead := some lookahead } :=
      .looks afterLineComment token
        reader.scanner.cursor.precedes_readToken_afterTrivia.offset_le
    exact (Scanner.Changes.steps (.single looks)).leads
  | case3 reader afterLineComment after token read handler attached handled handling stop failed =>
    simp only [handled, after] at failed
    simp only [readToken_of_handlerFor read attached, failed]
    exact .cons (reader.changes_afterToken afterLineComment).follows
      (after.leads_directiveMoments handler token)
  | case4 reader afterLineComment after token read handler attached handled handling clears ok
      inductionHypothesis =>
    simp only [handled, after] at ok
    simp only [readToken_of_handlerFor read attached, ok]
    have handles := Scanner.Leads.cons (reader.changes_afterToken afterLineComment).follows
      (after.leads_directiveMoments handler token)
    exact handles.append (.cons (handled.2.changes_dropPendingIf clears).follows
      inductionHypothesis)

theorem leads_peekMoments (reader : Reader source σ) :
    reader.scanner.Leads reader.peekMoments reader.peek.2.scanner := by
  have reads := reader.leads_readingMoments false
  cases cached : reader.scanner.lookahead with
  | some lookahead =>
    simp only [peekMoments, peek, cached]
    exact .nil
  | none =>
    rcases shape : reader.readToken false with ⟨result, after⟩
    rw [shape] at reads
    simp only [peekMoments, peek, cached, shape]
    cases result <;> exact reads

theorem leads_nextMoments {reader : Reader source σ} (noneReserved : reader.scanner.reserved = 0) :
    reader.scanner.Leads reader.nextMoments reader.next.2.scanner := by
  have peeks := reader.leads_peekMoments
  have stillNone := reserved_peek noneReserved
  unfold nextMoments next
  rcases shape : reader.peek with ⟨result, after⟩
  rw [shape] at peeks stillNone
  cases result with
  | error stop => exact peeks.append .nil
  | ok token =>
    have consumes : after.scanner.Follows ⟨.asked .consume, after.scanner.consume⟩ :=
      ⟨fun _ => .steps (.single .consumes), fun _ => ⟨stillNone, rfl⟩⟩
    exact peeks.append (.cons consumes .nil)

theorem leads_drainMoments {reader : Reader source σ} (noneReserved : reader.scanner.reserved = 0) :
    reader.scanner.Leads reader.drainMoments reader.drain.2.scanner := by
  fun_induction drainMoments reader with
  | case1 reader stop failed =>
    rw [drain_of_error failed]
    exact leads_nextMoments noneReserved
  | case2 reader token taken atEnd =>
    rw [drain_of_endOfFile taken atEnd]
    exact leads_nextMoments noneReserved
  | case3 reader token taken notEnd inductionHypothesis =>
    rw [drain_of_token taken notEnd]
    exact (leads_nextMoments noneReserved).append (inductionHypothesis (reserved_next noneReserved))

theorem leads_requestMoments {reader : Reader source σ}
    (noneReserved : reader.scanner.reserved = 0) (request : Request σ) :
    reader.scanner.Leads (reader.requestMoments request)
      (reader.answer request).reader.scanner := by
  cases request with
  | attach | detach => exact .nil
  | command about command =>
    have performs : ∀ {command : Command}, command.readsTokens = false ->
        reader.scanner.Follows ⟨.asked command, (reader.perform about command).2.scanner⟩ := by
      intro command noTokens
      rw [reader.scanner_perform about noTokens]
      refine ⟨?_, ?_⟩
      · exact fun noCommit =>
          reader.scanner.changes_perform about (of_decide_eq_false noCommit)
      · intro consumes
        rw [Operation.asked.inj consumes]
        exact ⟨noneReserved, rfl⟩
    cases command with
    | next => exact leads_nextMoments noneReserved
    | peek => exact reader.leads_peekMoments
    | drain => exact leads_drainMoments noneReserved
    | _ => exact .cons (performs rfl) .nil

theorem leads_moments {reader : Reader source σ} (noneReserved : reader.scanner.reserved = 0)
    (requests : List (Request σ)) :
    reader.scanner.Leads (reader.moments requests) (reader.after requests).scanner := by
  induction requests generalizing reader with
  | nil => exact .nil
  | cons request later inductionHypothesis =>
    exact (leads_requestMoments noneReserved request).append
      (inductionHypothesis (reserved_answer reader request noneReserved))

/-- The course of a run: all its moments, from the one in which it begins. -/
def course (reader : Reader source σ) (requests : List (Request σ)) : List (Moment source) :=
  ⟨.reading, reader.scanner⟩ :: reader.moments requests

theorem follows_course {reader : Reader source σ} (noneReserved : reader.scanner.reserved = 0)
    {requests : List (Request σ)} {time : Nat} {earlier later : Moment source}
    (isEarlier : (reader.course requests)[time]? = some earlier)
    (isLater : (reader.course requests)[time + 1]? = some later) :
    earlier.scanner.Follows later :=
  (leads_moments noneReserved requests).follows isEarlier isLater

/-- The handler for conditional compilation reads the line of its directive in the middle of a
request. -/
example :
    let reader := ofSource "#if 1\nx".toList (some (Conditional.ofSymbols .initial))
    (reader.course [.command .absent .next]).map Moment.operation =
      [.reading, .reading, .reading, .handling (.setLine 1), .handling .readLine, .reading,
        .reading, .reading, .asked .consume] := by
  decide +kernel

end Reader
end Handlers
end HeaderScan
