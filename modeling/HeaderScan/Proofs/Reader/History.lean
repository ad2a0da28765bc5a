import HeaderScan.Proofs.Reader.Moments
import HeaderScan.Proofs.Report.Order

namespace HeaderScan

/-!
The history of a run: what becomes of the tokens that a reader scans.

On its way to a token a reader scans others: the signs of directives, which it delegates to its
handler, and the tokens of excluded code.  The token that it comes to is looked at; after that it is
handed over to the caller or put back.  A history lists all this in its order, together with what
the caller does about recording.  What a handler scans itself is no part of it; the conditional one
reads lines and no tokens.
-/

variable {source : List Char}

/-- What becomes of a token when it is scanned. -/
inductive Fate
  /-- It is the next token, and stays unconsumed. -/
  | lookedAt
  /-- It is the sign of a directive, which is left to the handler. -/
  | delegated
  /-- It stands in excluded code. -/
  | excluded
  deriving DecidableEq, Repr

/-- What happens in a run that concerns a token or a recording. -/
inductive Event
  | scans (fate : Fate) (token : Token)
  /-- The token that was looked at is given to the caller as consumed. -/
  | handsOver (token : Token)
  /-- The token that was looked at is forgotten, to be scanned again. -/
  | putsBack (token : Token)
  /-- The caller adds a token to a recording. -/
  | adds (token : Token)
  | begins
  | ends
  deriving DecidableEq, Repr

namespace Event

/-- The token, if one is scanned. -/
def scanned? : Event → Option Token
  | scans _ token => some token
  | _ => none

/-- A token is scanned, and not to be looked at. -/
def Passes (event : Event) : Prop :=
  ∃ fate token, event = scans fate token ∧ fate ≠ .lookedAt

end Event

/-! ## What is scanned -/

section Handlers

variable {σ : Type} [DirectiveHandler σ]

/-- The events of passing excluded code.  A directive in it goes to the handler. -/
def Exclusion.events (handler : σ) (scanner : Scanner source) : List Event :=
  let after := scanner.withCursor scanner.cursor.readToken.2
  match _read : scanner.cursor.readToken.1 with
  | .error _ => []
  | .ok token =>
    if _atEnd : token.kind = .endOfFile then [.scans .excluded token]
    else if token.beginsDirective source then
      let handled := DirectiveHandler.handle handler after token .excluded
      match handled.1 with
      | .error _ => [.scans .delegated token]
      | .ok outcome =>
        if outcome.includes then [.scans .delegated token]
        else .scans .delegated token :: events handled.2.1 handled.2.2
    else .scans .excluded token :: events handler after
termination_by scanner.weight (DirectiveHandler.rewinds handler)
decreasing_by
  all_goals
    have moved := Scanner.effort_withCursor_lt
      (Cursor.length_rest_readToken_lt _read _atEnd) (DirectiveHandler.rewinds handler)
  · exact Scanner.weight_lt
      (Effort.lt_of_le_of_lt (DirectiveHandler.handle_le handler after token .excluded) moved)
  · exact Scanner.weight_lt moved

namespace Reader

/-- The events of handling a directive, from its sign on. -/
def directiveEvents (reader : Reader source σ) (handler : σ) (directive : Token) : List Event :=
  let handled := DirectiveHandler.handle handler reader.scanner.reservePending directive
    .included
  let excluded := match handled.1 with
    | .error _ => []
    | .ok outcome =>
      if outcome.includes then []
      else Exclusion.events handled.2.1 handled.2.2.disableComments
  .scans .delegated directive :: excluded

/-- The events of reading on to the next token, in front of that token. -/
def passingEvents (reader : Reader source σ) (afterLineComment : Bool) : List Event :=
  let after := reader.afterToken afterLineComment
  match _read : (reader.scanner.readToken afterLineComment).1 with
  | .error _ => []
  | .ok token =>
    match _attached : reader.handlerFor token with
    | none => []
    | some handler =>
      let handled := after.handleDirective handler token
      let handling := after.directiveEvents handler token
      match handled.1 with
      | .error _ => handling
      | .ok clears =>
        handling ++ passingEvents (handled.2.dropPendingIf clears)
          ((reader.scanner.capture afterLineComment).afterLineComment && !clears)
termination_by reader.weight
decreasing_by
  have attached := handler_of_handlerFor _attached
  have moved := effort_afterToken_lt _read attached.2
  apply weight_lt
  rw [effort_dropPendingIf]
  apply Effort.lt_of_le_of_lt (effort_handleDirective_le _ _ _)
  simpa [effort, afterToken, withScanner, attached.1] using moved

def peekEvents (reader : Reader source σ) : List Event :=
  match reader.scanner.lookahead with
  | some _ => []
  | none =>
    reader.passingEvents false ++
      match reader.peek.1 with
      | .error _ => []
      | .ok token => [.scans .lookedAt token]

def nextEvents (reader : Reader source σ) : List Event :=
  reader.peekEvents ++
    match reader.next.1 with
    | .error _ => []
    | .ok token => [.handsOver token]

def drainEvents (reader : Reader source σ) : List Event :=
  match _taken : reader.next.1 with
  | .error _ => reader.nextEvents
  | .ok token =>
    if _atEnd : token.kind = .endOfFile then reader.nextEvents
    else reader.nextEvents ++ drainEvents reader.next.2
termination_by reader.weight
decreasing_by exact weight_lt (effort_next_lt _taken _atEnd)

end Reader
end Handlers

namespace Command

/-- What a command does about a recording, if it is not refused. -/
def recordingEvent (about : Token) : Command → Option Event
  | .enableRecording => some .begins
  | .disableRecording => some .ends
  | .record => some (.adds about)
  | _ => none

/-- Nothing about a recording scans a token. -/
theorem scanned?_recordingEvent {about : Token} {command : Command} {event : Event}
    (found : command.recordingEvent about = some event) : event.scanned? = none := by
  cases command <;> cases found <;> rfl

/-- The command takes tokens, or the one that was looked at. -/
def takesTokens (command : Command) : Bool :=
  command.readsTokens || command = .consume

end Command

/-- The events of a command that takes no token.  It may put back the one that was looked at. -/
def Scanner.eventsBetween (before after : Scanner source) (recording : Option Event) :
    List Event :=
  (before.lookahead.filter fun _ => after.lookahead.isNone).toList.map (.putsBack ·.token) ++
    recording.toList

namespace Reader

variable {σ : Type} [DirectiveHandler σ]

/-- The events of a request. -/
def requestEvents (reader : Reader source σ) : Request σ → List Event
  | .command _ .next => reader.nextEvents
  | .command _ .peek => reader.peekEvents
  | .command _ .drain => reader.drainEvents
  | .command _ .consume => reader.scanner.lookahead.toList.map (.handsOver ·.token)
  | .command about command =>
    let performed := reader.perform about command
    reader.scanner.eventsBetween performed.2.scanner
      (if performed.1.isOk then command.recordingEvent about else none)
  | .attach _ | .detach => []

theorem requestEvents_of_not_takesTokens (reader : Reader source σ) (about : Token)
    {command : Command} (takesNone : command.takesTokens = false) :
    let performed := reader.perform about command
    reader.requestEvents (.command about command) =
      reader.scanner.eventsBetween performed.2.scanner
        (if performed.1.isOk then command.recordingEvent about else none) := by
  cases command with
  | next | peek | drain | consume => cases takesNone
  | _ => rfl

/-- The events of several requests. -/
def history (reader : Reader source σ) : List (Request σ) → List Event
  | [] => []
  | request :: later =>
    reader.requestEvents request ++ (reader.answer request).reader.history later

end Reader

/-! ## Tokens on the way -/

section Handlers

variable {σ : Type} [DirectiveHandler σ]

theorem Exclusion.passes_events (handler : σ) (scanner : Scanner source) :
    ∀ event ∈ events handler scanner, event.Passes := by
  have excludes : ∀ token, Event.Passes (.scans .excluded token) := fun token =>
    ⟨_, token, rfl, Fate.noConfusion⟩
  have delegates : ∀ token, Event.Passes (.scans .delegated token) := fun token =>
    ⟨_, token, rfl, Fate.noConfusion⟩
  fun_induction events handler scanner with
  | case1 => exact List.forall_mem_nil _
  | case2 => exact List.forall_mem_singleton.mpr (excludes _)
  | case3 | case4 => exact List.forall_mem_singleton.mpr (delegates _)
  | case5 handler scanner after token read notEnd begins handled outcome ok notIncludes
      inductionHypothesis =>
    exact List.forall_mem_cons.mpr ⟨delegates token, inductionHypothesis⟩
  | case6 handler scanner after token read notEnd noDirective inductionHypothesis =>
    exact List.forall_mem_cons.mpr ⟨excludes token, inductionHypothesis⟩

namespace Reader

theorem passes_directiveEvents (reader : Reader source σ) (handler : σ) (directive : Token) :
    ∀ event ∈ reader.directiveEvents handler directive, event.Passes := by
  unfold directiveEvents
  refine List.forall_mem_cons.mpr ⟨⟨_, directive, rfl, Fate.noConfusion⟩, ?_⟩
  split
  · exact List.forall_mem_nil _
  · split
    · exact List.forall_mem_nil _
    · exact Exclusion.passes_events _ _

/-- No token on the way to the next one is looked at. -/
theorem passes_passingEvents (reader : Reader source σ) (afterLineComment : Bool) :
    ∀ event ∈ reader.passingEvents afterLineComment, event.Passes := by
  fun_induction passingEvents reader afterLineComment with
  | case1 | case2 => exact List.forall_mem_nil _
  | case3 reader afterLineComment after token read handler =>
    exact after.passes_directiveEvents handler token
  | case4 reader afterLineComment after token read handler attached handled handling clears ok
      inductionHypothesis =>
    exact List.forall_mem_append.mpr
      ⟨after.passes_directiveEvents handler token, inductionHypothesis⟩

end Reader
end Handlers

/-! ## The order of what is scanned -/

/-- Events happen on the way from one cursor to another, and what they scan is read there. -/
inductive Cursor.Reads : Cursor source → List Event → Cursor source → Prop
  | nil {first last : Cursor source} : first.Precedes last -> Reads first [] last
  | scans {first place last : Cursor source} {fate : Fate} {token : Token} {later : List Event} :
      first.Precedes place -> place.readToken.1 = .ok token ->
      Reads place.readToken.2 later last -> Reads first (.scans fate token :: later) last
  | other {first last : Cursor source} {event : Event} {later : List Event} :
      event.scanned? = none -> Reads first later last -> Reads first (event :: later) last

namespace Cursor.Reads

variable {first second last : Cursor source} {events later : List Event}

theorem of_precedes (precedes : first.Precedes second) (reads : second.Reads events last) :
    first.Reads events last := by
  induction reads generalizing first with
  | nil moves => exact .nil (precedes.trans moves)
  | scans moves read behind _ => exact .scans (precedes.trans moves) read behind
  | other notScanned _ inductionHypothesis =>
    exact .other notScanned (inductionHypothesis precedes)

theorem append (early : first.Reads events second) (late : second.Reads later last) :
    first.Reads (events ++ later) last := by
  induction early with
  | nil moves => exact late.of_precedes moves
  | scans moves read _ inductionHypothesis => exact .scans moves read (inductionHypothesis late)
  | other notScanned _ inductionHypothesis => exact .other notScanned (inductionHypothesis late)

/-- Tokens that are scanned on one way stand one behind the other. -/
theorem pairwise (reads : first.Reads events last) :
    (∀ token ∈ events.filterMap Event.scanned?, first.offset ≤ token.span.start) ∧
      (events.filterMap Event.scanned?).Pairwise fun earlier later =>
        earlier.span.stop ≤ later.span.start := by
  induction reads with
  | nil => simp
  | @scans first place last fate token later moves read _ inductionHypothesis =>
    have span := (Cursor.place_readToken read).1
    have starts : first.offset ≤ token.span.start := by
      rw [span]
      exact (moves.trans place.precedes_afterTrivia).offset_le
    have stops : token.span.stop = place.readToken.2.offset := congrArg Span.stop span
    have passed := (moves.trans place.precedes_readToken).offset_le
    refine ⟨?_, List.pairwise_cons.mpr ⟨?_, inductionHypothesis.2⟩⟩
    · intro other member
      rcases List.mem_cons.mp member with rfl | isLater
      · exact starts
      · exact Nat.le_trans passed (inductionHypothesis.1 other isLater)
    · intro other isLater
      rw [stops]
      exact inductionHypothesis.1 other isLater
  | other notScanned _ inductionHypothesis =>
    rw [List.filterMap_cons_none notScanned]
    exact inductionHypothesis

end Cursor.Reads

/-- A directive that has been handled stands in front of what comes behind its text. -/
theorem Cursor.Reads.directive {first place last : Cursor source} {conditional : Conditional}
    {scanner : Scanner source} {directive : Token} {later : List Event}
    {handled : Except Stop Outcome × Conditional × Scanner source}
    (forward : conditional.GoesForward scanner directive handled)
    (moves : first.Precedes place) (read : place.readToken = (.ok directive, scanner.cursor))
    (behind : handled.2.2.cursor.Reads later last) :
    first.Reads (.scans .delegated directive :: later) last := by
  refine .scans moves (congrArg Prod.fst read) ?_
  rw [read]
  rw [forward.moved] at behind
  exact behind.of_precedes (Directive.precedes_readText scanner.cursor)

theorem Exclusion.reads_events (conditional : Conditional) (scanner : Scanner source)
    (noLookahead : scanner.lookahead = none) (checks : Bool) (progress : HiddenContent.Progress) :
    scanner.cursor.Reads (events conditional scanner)
      (run conditional scanner checks progress).scanner.cursor := by
  have handles : ∀ (conditional : Conditional) (scanner : Scanner source) (token : Token),
      scanner.lookahead = none -> conditional.GoesForward
        (scanner.withCursor scanner.cursor.readToken.2) token
        (DirectiveHandler.handle conditional (scanner.withCursor scanner.cursor.readToken.2) token
          .excluded) := fun conditional scanner token noLookahead =>
    conditional.forward_handle (scanner.withCursor scanner.cursor.readToken.2) noLookahead token
      .excluded
  fun_induction events conditional scanner generalizing checks progress with
  | case1 conditional scanner error failed =>
    rw [run_of_error failed]
    exact .nil scanner.cursor.precedes_readToken
  | case2 conditional scanner token read atEnd =>
    rw [run_of_endOfFile read atEnd]
    exact .scans (.refl _) read (.nil (.refl _))
  | case3 conditional scanner after token read notEnd begins handled stop failed =>
    have forward := handles conditional scanner token noLookahead
    simp only [handled, after] at failed
    simp only [run_of_beginsDirective read begins, failed]
    exact .directive forward (.refl _) (Prod.ext read rfl) (.nil (.refl _))
  | case4 conditional scanner after token read notEnd begins handled outcome ok includes =>
    have forward := handles conditional scanner token noLookahead
    simp only [handled, after] at ok
    simp only [run_of_beginsDirective read begins, ok, if_pos includes]
    exact .directive forward (.refl _) (Prod.ext read rfl) (.nil (.refl _))
  | case5 conditional scanner after token read notEnd begins handled outcome ok excludes
      inductionHypothesis =>
    have forward := handles conditional scanner token noLookahead
    have stillNone : handled.2.2.lookahead = none := by
      rw [forward.moved]
      exact noLookahead
    simp only [handled, after] at ok
    simp only [run_of_beginsDirective read begins, ok, if_neg excludes]
    exact .directive forward (.refl _) (Prod.ext read rfl) (inductionHypothesis stillNone _ _)
  | case6 conditional scanner after token read notEnd noDirective inductionHypothesis =>
    rw [run_of_token read notEnd (Bool.eq_false_iff.mpr noDirective)]
    exact .scans (.refl _) read (inductionHypothesis noLookahead _ _)

namespace Reader

variable {first place : Cursor source} {directive : Token}

theorem cursor_passExcluded {σ : Type} [DirectiveHandler σ] (reader : Reader source σ) (handler : σ)
    (scanner : Scanner source) (outcome : Outcome) :
    (reader.passExcluded handler scanner outcome).2.scanner.cursor =
      (Exclusion.run handler scanner.disableComments outcome.checksContent
        .nothing).scanner.cursor := by
  unfold passExcluded
  simp only
  cases enables : (Exclusion.run handler scanner.disableComments outcome.checksContent
    .nothing).scanner.enableComments with
  | error stop => rfl
  | ok enabled =>
    have same := congrArg Scanner.cursor (Scanner.enableComments_of_ok enables)
    exact same

theorem reads_directiveEvents (reader : Reader source Conditional) (conditional : Conditional)
    (noLookahead : reader.scanner.lookahead = none) (moves : first.Precedes place)
    (read : place.readToken = (.ok directive, reader.scanner.cursor)) :
    first.Reads (reader.directiveEvents conditional directive)
      (reader.handleDirective conditional directive).2.scanner.cursor := by
  have forward := conditional.forward_handle reader.scanner.reservePending noLookahead directive
    .included
  have directs : ∀ {later last}, (DirectiveHandler.handle conditional reader.scanner.reservePending
      directive .included).2.2.cursor.Reads later last ->
      first.Reads (.scans .delegated directive :: later) last := fun behind =>
    .directive forward moves read behind
  have stillNone : (DirectiveHandler.handle conditional reader.scanner.reservePending directive
      .included).2.2.lookahead = none := by
    rw [forward.moved]
    exact noLookahead
  unfold directiveEvents handleDirective
  rcases handled : DirectiveHandler.handle conditional reader.scanner.reservePending directive
    .included with ⟨result, next, scanner⟩
  rw [handled] at directs stillNone
  cases result with
  | error stop => exact directs (.nil (.refl _))
  | ok outcome =>
    by_cases includes : outcome.includes = true
    · simp only [if_pos includes]
      exact directs (.nil (.refl _))
    · simp only [if_neg includes]
      rw [cursor_passExcluded]
      exact directs (Exclusion.reads_events next scanner.disableComments stillNone _ _)

/-- On the way to a token, the others are scanned in front of it. -/
theorem reads_passingEvents (reader : Reader source Conditional)
    (noLookahead : reader.scanner.lookahead = none) (afterLineComment : Bool) :
    ∃ place, reader.scanner.cursor.Reads (reader.passingEvents afterLineComment) place ∧
      place.Precedes (reader.readToken afterLineComment).2.scanner.cursor ∧
      ∀ lookahead, (reader.readToken afterLineComment).1 = .ok lookahead ->
        lookahead.before = place := by
  fun_induction passingEvents reader afterLineComment with
  | case1 reader afterLineComment error failed =>
    rw [readToken_of_error failed]
    exact ⟨_, .nil (.refl _), reader.scanner.cursor.precedes_readToken, by rintro _ ⟨⟩⟩
  | case2 reader afterLineComment token read unhandled =>
    rw [readToken_of_handlerFor_none read unhandled]
    refine ⟨_, .nil (.refl _), reader.scanner.cursor.precedes_readToken, ?_⟩
    intro lookahead found
    rw [← Except.ok.inj found]
  | case3 reader afterLineComment after token read conditional attached handled handling stop
      failed =>
    have reads := after.reads_directiveEvents conditional noLookahead (.refl _)
      (Prod.ext read rfl)
    simp only [handled, after] at failed
    simp only [readToken_of_handlerFor read attached, failed]
    exact ⟨_, reads, .refl _, by rintro _ ⟨⟩⟩
  | case4 reader afterLineComment after token read conditional attached handled handling clears ok
      inductionHypothesis =>
    have passed := reader.forward_afterToken afterLineComment
    have forward := after.forward_handleDirective (handler_of_handlerFor attached).1 noLookahead
      passed.cursor (Cursor.liesBehind_readToken read)
    have drops := handled.2.forward_dropPendingIf clears
    have keeps := passed.keeps.trans (forward.forward.keeps.trans drops.keeps)
    have reads := after.reads_directiveEvents conditional noLookahead (.refl _)
      (Prod.ext read rfl)
    rcases inductionHypothesis (keeps.lookahead.trans noLookahead) with
      ⟨place, later, precedes, isBefore⟩
    simp only [handled, after] at ok
    simp only [readToken_of_handlerFor read attached, ok]
    exact ⟨place, reads.append (later.of_precedes drops.cursor), precedes, isBefore⟩

theorem reads_peekEvents (reader : Reader source Conditional) :
    reader.scanner.cursor.Reads reader.peekEvents reader.peek.2.scanner.cursor := by
  cases cached : reader.scanner.lookahead with
  | some lookahead =>
    simp only [peekEvents, peek, cached]
    exact .nil (.refl _)
  | none =>
    have forward := reader.forward_readToken cached false
    rcases reader.reads_passingEvents cached false with ⟨place, passes, precedes, isBefore⟩
    rcases shape : reader.readToken false with ⟨result, after⟩
    rw [shape] at forward precedes isBefore
    simp only [peekEvents, peek, cached, shape]
    cases result with
    | error stop => exact passes.append (.nil precedes)
    | ok lookahead =>
      have read := (forward.lookahead lookahead rfl).2
      rw [isBefore lookahead rfl] at read
      refine passes.append (.scans (.refl place) (congrArg Prod.fst read) ?_)
      rw [read]
      exact .nil (.refl _)

theorem reads_nextEvents (reader : Reader source Conditional) :
    reader.scanner.cursor.Reads reader.nextEvents reader.next.2.scanner.cursor := by
  have peeks := reader.reads_peekEvents
  unfold nextEvents next
  rcases shape : reader.peek with ⟨result, after⟩
  rw [shape] at peeks
  cases result with
  | error stop => exact peeks.append (.nil (.refl _))
  | ok token => exact peeks.append (.other rfl (.nil (.refl _)))

theorem reads_drainEvents (reader : Reader source Conditional) :
    reader.scanner.cursor.Reads reader.drainEvents reader.drain.2.scanner.cursor := by
  fun_induction drainEvents reader with
  | case1 reader stop failed =>
    rw [drain_of_error failed]
    exact reader.reads_nextEvents
  | case2 reader token taken atEnd =>
    rw [drain_of_endOfFile taken atEnd]
    exact reader.reads_nextEvents
  | case3 reader token taken notEnd inductionHypothesis =>
    rw [drain_of_token taken notEnd]
    exact reader.reads_nextEvents.append inductionHypothesis

/-- A command that takes no token scans none. -/
theorem scanned?_eventsBetween (before after : Scanner source) (about : Token) (command : Command)
    (done : Bool) :
    (before.eventsBetween after (if done then command.recordingEvent about else none)).filterMap
      Event.scanned? = [] := by
  rw [Scanner.eventsBetween, List.filterMap_append, List.append_eq_nil_iff,
    List.filterMap_eq_nil_iff, List.filterMap_eq_nil_iff]
  constructor
  · intro event member
    rcases List.mem_map.mp member with ⟨lookahead, _, rfl⟩
    rfl
  · intro event member
    cases done with
    | false => cases member
    | true => exact Command.scanned?_recordingEvent (Option.mem_toList.mp member)

/-- The tokens that are scanned for one request stand one behind the other. -/
theorem pairwise_requestEvents (reader : Reader source Conditional)
    (request : Request Conditional) :
    ((reader.requestEvents request).filterMap Event.scanned?).Pairwise fun earlier later =>
      earlier.span.stop ≤ later.span.start := by
  cases request with
  | attach | detach => exact .nil
  | command about command =>
    by_cases takes : command.takesTokens = true
    · cases command with
      | next => exact reader.reads_nextEvents.pairwise.2
      | peek => exact reader.reads_peekEvents.pairwise.2
      | drain => exact reader.reads_drainEvents.pairwise.2
      | consume =>
        unfold requestEvents
        cases reader.scanner.lookahead <;> exact .nil
      | _ => cases takes
    · rw [requestEvents_of_not_takesTokens _ _ (Bool.eq_false_iff.mpr takes),
        scanned?_eventsBetween]
      exact .nil

end Reader
end HeaderScan
