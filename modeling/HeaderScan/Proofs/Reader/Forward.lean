import HeaderScan.Proofs.Comments.Origin
import HeaderScan.Proofs.Reader.Flow

namespace HeaderScan

/-!
A reader of conditional directives goes forwards.

Reading on to a token, through directives and excluded code, moves the cursor forwards, leaves the
remembered places alone and speaks of no place but those on the way.  `Reader.ReadsForward` is all
that later modules need to know of the loops of the reader.
-/

variable {source : List Char}

/-- What stops the reading is an error about a place on the way of a cursor. -/
def Stop.IsBehind (stop : Stop) (cursor : Cursor source) : Prop :=
  ∃ error, stop = .failure error ∧ error.position.IsBehind cursor

theorem Stop.IsBehind.trans {stop : Stop} {first second : Cursor source}
    (isBehind : stop.IsBehind second) (precedes : first.Precedes second) :
    stop.IsBehind first := by
  rcases isBehind with ⟨error, rfl, behind⟩
  exact ⟨error, rfl, behind.trans precedes⟩

/-! ## One directive -/

namespace Conditional

/-- A conditional handler moves the cursor behind the text of the directive.  It keeps the state
that it remembers, and can only fail because of a directive without a region. -/
structure GoesForward (conditional : Conditional) (scanner : Scanner source) (directive : Token)
    (handled : Except Stop Outcome × Conditional × Scanner source) : Prop where
  moved : handled.2.2 = scanner.withCursor (Directive.readText scanner.cursor).2
  saved : handled.2.1.saved = conditional.saved
  stop : ∀ stop, handled.1 = .error stop ->
    stop = .failure ⟨.unmatchedDirective, directive.startPosition⟩

theorem forward_handle (conditional : Conditional) (scanner : Scanner source)
    (noLookahead : scanner.lookahead = none) (directive : Token) (region : Region) :
    conditional.GoesForward scanner directive
      (DirectiveHandler.handle conditional scanner directive region) := by
  change conditional.GoesForward scanner directive (conditional.handle scanner directive region)
  cases applied : conditional.state.apply (.ofText (Directive.readText scanner.cursor).1)
      region with
  | none =>
    rw [handle_of_unmatched directive noLookahead applied]
    exact ⟨rfl, rfl, fun stop failed => (Except.error.inj failed).symm⟩
  | some _ =>
    rw [handle_of_applied directive noLookahead applied]
    exact ⟨rfl, rfl, fun stop failed => nomatch failed⟩

end Conditional

/-! ## Excluded code -/

namespace Exclusion

/-- Passing excluded code moves the cursor forwards and changes nothing else about the scanner. -/
structure GoesForward (exclusion : Exclusion source Conditional) (conditional : Conditional)
    (scanner : Scanner source) : Prop where
  moved : ∃ place, scanner.cursor.Precedes place ∧ exclusion.scanner = scanner.withCursor place
  saved : exclusion.handler.saved = conditional.saved
  stop : ∀ stop, exclusion.result = .error stop -> stop.IsBehind scanner.cursor
  findings : ∀ finding ∈ exclusion.findings, finding.position.IsBehind scanner.cursor

theorem GoesForward.trans {exclusion : Exclusion source Conditional}
    {conditional next : Conditional} {scanner : Scanner source} {place : Cursor source}
    (forward : exclusion.GoesForward next (scanner.withCursor place))
    (precedes : scanner.cursor.Precedes place) (sameSaved : next.saved = conditional.saved) :
    exclusion.GoesForward conditional scanner where
  moved := by
    rcases forward.moved with ⟨last, late, moved⟩
    exact ⟨last, precedes.trans late, moved⟩
  saved := forward.saved.trans sameSaved
  stop stop stopped := (forward.stop stop stopped).trans precedes
  findings finding found := (forward.findings finding found).trans precedes

/-- Where the handler puts an end to it, a directive has been passed and nothing found at it. -/
theorem forward_of_handled {conditional : Conditional} {scanner : Scanner source}
    {place : Cursor source} {directive : Token}
    {handled : Except Stop Outcome × Conditional × Scanner source} {result : Except Stop Unit}
    (forward : conditional.GoesForward (scanner.withCursor place) directive handled)
    (precedes : scanner.cursor.Precedes (Directive.readText place).2)
    (isBehind : ∀ stop, result = .error stop -> stop.IsBehind scanner.cursor) :
    GoesForward ⟨result, handled.2.1, handled.2.2, []⟩ conditional scanner where
  moved := ⟨_, precedes, forward.moved⟩
  saved := forward.saved
  stop := isBehind
  findings _ found := nomatch found

theorem forward_run (conditional : Conditional) (scanner : Scanner source)
    (noLookahead : scanner.lookahead = none) (checks : Bool)
    (progress : HiddenContent.Progress) :
    (run conditional scanner checks progress).GoesForward conditional scanner := by
  fun_induction run conditional scanner checks progress with
  | case1 conditional scanner checks progress after error failed =>
    refine ⟨⟨_, scanner.cursor.precedes_readToken, rfl⟩, rfl, ?_, by rintro _ ⟨⟩⟩
    intro stop stopped
    rw [← Except.error.inj stopped]
    exact ⟨error, rfl, Cursor.isBehind_failure failed⟩
  | case2 conditional scanner checks progress after token read atEnd =>
    exact ⟨⟨_, scanner.cursor.precedes_readToken, rfl⟩, rfl, by rintro _ ⟨⟩,
      by rintro _ ⟨⟩⟩
  | case3 conditional scanner checks progress after token read notEnd begins handled stop failed =>
    have forward : conditional.GoesForward after token handled :=
      conditional.forward_handle after noLookahead token .excluded
    have precedes := Directive.precedes_passed scanner.cursor
    refine forward_of_handled forward precedes ?_
    intro other stopped
    rw [← Except.error.inj stopped, forward.stop stop failed]
    exact ⟨_, rfl, (Cursor.liesBehind_readToken read).startPosition⟩
  | case4 conditional scanner checks progress after token read notEnd begins handled outcome ok
      includes =>
    have forward : conditional.GoesForward after token handled :=
      conditional.forward_handle after noLookahead token .excluded
    have precedes := Directive.precedes_passed scanner.cursor
    exact forward_of_handled forward precedes (by rintro _ ⟨⟩)
  | case5 conditional scanner checks progress after token read notEnd begins handled outcome ok
      excludes inductionHypothesis =>
    have forward : conditional.GoesForward after token handled :=
      conditional.forward_handle after noLookahead token .excluded
    have precedes := Directive.precedes_passed scanner.cursor
    have place : handled.2.2 = scanner.withCursor (Directive.readText after.cursor).2 :=
      forward.moved
    rw [place] at inductionHypothesis ⊢
    exact (inductionHypothesis noLookahead).trans precedes forward.saved
  | case6 conditional scanner checks progress after token read notEnd noDirective searched
      inductionHypothesis =>
    have forward := (inductionHypothesis noLookahead).trans
      scanner.cursor.precedes_readToken rfl
    refine ⟨forward.moved, forward.saved, forward.stop, ?_⟩
    intro finding isFound
    rcases List.mem_append.mp isFound with here | later
    · rw [HiddenContent.position_of_stepIf (Option.mem_toList.mp here)]
      exact (Cursor.liesBehind_readToken read).startPosition
    · exact forward.findings finding later

end Exclusion

/-! ## The reader -/

namespace Reader

/-- What reading on changes about a reader: the cursor moves forwards, comments and findings come
from the way, and what is remembered stays. -/
structure GoesForward (before after : Reader source Conditional) : Prop where
  keeps : before.scanner.Keeps after.scanner
  cursor : before.scanner.cursor.Precedes after.scanner.cursor
  comments : before.scanner.comments.AreFrom source -> after.scanner.comments.AreFrom source
  reserved : before.scanner.reserved = 0 -> after.scanner.reserved = 0
  saved : after.handler.map Conditional.saved = before.handler.map Conditional.saved
  findings : ∃ found, after.findings = before.findings ++ found ∧
    ∀ finding ∈ found, finding.position.IsBehind before.scanner.cursor

theorem GoesForward.trans {first second third : Reader source Conditional}
    (early : first.GoesForward second) (late : second.GoesForward third) :
    first.GoesForward third where
  keeps := early.keeps.trans late.keeps
  cursor := early.cursor.trans late.cursor
  comments areFrom := late.comments (early.comments areFrom)
  reserved none := late.reserved (early.reserved none)
  saved := late.saved.trans early.saved
  findings := by
    rcases early.findings with ⟨found, before, foundBehind⟩
    rcases late.findings with ⟨more, after, moreBehind⟩
    refine ⟨found ++ more, ?_, ?_⟩
    · rw [after, before, List.append_assoc]
    · intro finding isFound
      rcases List.mem_append.mp isFound with isEarly | isLate
      · exact foundBehind finding isEarly
      · exact (moreBehind finding isLate).trans early.cursor

theorem forward_afterToken (reader : Reader source Conditional) (afterLineComment : Bool) :
    reader.GoesForward (reader.afterToken afterLineComment) where
  keeps := ⟨rfl, rfl, rfl, rfl⟩
  cursor := reader.scanner.cursor.precedes_readToken
  comments := reader.scanner.areFrom_capture afterLineComment
  reserved none := none
  saved := rfl
  findings := ⟨[], (List.append_nil _).symm, fun _ found => nomatch found⟩

theorem forward_dropPendingIf (reader : Reader source Conditional) (drops : Bool) :
    reader.GoesForward (reader.dropPendingIf drops) := by
  have noFindings : ∀ found ∈ ([] : List Diagnostic),
      found.position.IsBehind reader.scanner.cursor := fun _ found => nomatch found
  unfold dropPendingIf
  split
  · exact ⟨⟨rfl, rfl, rfl, rfl⟩, .refl _, fun areFrom => areFrom.dropPending, id, rfl,
      ⟨[], (List.append_nil _).symm, noFindings⟩⟩
  · exact ⟨.refl _, .refl _, id, id, rfl, ⟨[], (List.append_nil _).symm, noFindings⟩⟩

/-- What an operation of the reader does if it goes forwards: an error is about a place on the way
of a cursor. -/
structure HandlesForward (before : Reader source Conditional) (cursor : Cursor source)
    (result : Except Stop Bool × Reader source Conditional) : Prop where
  forward : before.GoesForward result.2
  stop : ∀ stop, result.1 = .error stop -> stop.IsBehind cursor

theorem forward_passExcluded (reader : Reader source Conditional) {conditional : Conditional}
    (sameSaved : some conditional.saved = reader.handler.map Conditional.saved)
    (noLookahead : reader.scanner.lookahead = none) {place : Cursor source}
    (precedes : reader.scanner.cursor.Precedes place) (outcome : Outcome) :
    reader.HandlesForward reader.scanner.cursor
      (reader.passExcluded conditional (reader.scanner.reservePending.withCursor place)
        outcome) := by
  have forward := Exclusion.forward_run conditional
    (reader.scanner.reservePending.withCursor place).disableComments noLookahead
    outcome.checksContent .nothing
  rcases forward.moved with ⟨last, late, moved⟩
  unfold passExcluded
  simp only [moved]
  refine ⟨⟨⟨rfl, rfl, rfl, rfl⟩, precedes.trans late, fun areFrom => areFrom.keepPending _,
    fun _ => rfl, ?_, ⟨_, rfl, ?_⟩⟩, ?_⟩
  · exact (congrArg some forward.saved).trans sameSaved
  · intro finding isFound
    exact (forward.findings finding isFound).trans precedes
  · intro stop stopped
    cases result : (Exclusion.run conditional
        (reader.scanner.reservePending.withCursor place).disableComments outcome.checksContent
        .nothing).result with
    | error other =>
      rw [result] at stopped
      rw [← Except.error.inj stopped]
      exact (forward.stop other result).trans precedes
    | ok =>
      rw [result] at stopped
      cases stopped

/-- Handling a directive goes forwards from the place behind its sign. -/
theorem forward_handleDirective (reader : Reader source Conditional) {conditional : Conditional}
    (attached : reader.handler = some conditional) (noLookahead : reader.scanner.lookahead = none)
    {cursor : Cursor source} (precedes : cursor.Precedes reader.scanner.cursor)
    {directive : Token} (liesBehind : directive.LiesBehind cursor) :
    reader.HandlesForward cursor (reader.handleDirective conditional directive) := by
  have handling := conditional.forward_handle reader.scanner.reservePending noLookahead directive
    .included
  rcases handled : DirectiveHandler.handle conditional reader.scanner.reservePending directive
    .included with ⟨result, next, scanner⟩
  rw [handled] at handling
  have sameSaved : some next.saved = reader.handler.map Conditional.saved := by
    rw [attached]
    exact congrArg some handling.saved
  have isRead : scanner =
      reader.scanner.reservePending.withCursor (Directive.readText reader.scanner.cursor).2 :=
    handling.moved
  have behindText := Directive.precedes_readText reader.scanner.cursor
  have resumed : reader.GoesForward (reader.resume next scanner []) := by
    rw [isRead]
    exact ⟨⟨rfl, rfl, rfl, rfl⟩, behindText, id, fun _ => rfl, sameSaved,
      ⟨[], rfl, fun _ found => nomatch found⟩⟩
  cases result with
  | error stop =>
    rw [handleDirective_of_error handled]
    refine ⟨resumed, ?_⟩
    intro other stopped
    rw [← Except.error.inj stopped, handling.stop stop rfl]
    exact ⟨_, rfl, liesBehind.startPosition⟩
  | ok outcome =>
    rw [handleDirective_of_ok handled]
    split
    · exact ⟨resumed, fun _ stopped => nomatch stopped⟩
    · rw [isRead]
      have passed := reader.forward_passExcluded sameSaved noLookahead behindText outcome
      exact ⟨passed.forward, fun stop stopped => (passed.stop stop stopped).trans precedes⟩

/-- What reading on to a token does: the token is read where the lookahead begins, and up to the
cursor.  An error is about a place on the way. -/
structure ReadsForward (before : Reader source Conditional)
    (result : Except Stop (Lookahead source) × Reader source Conditional) : Prop where
  forward : before.GoesForward result.2
  stop : ∀ stop, result.1 = .error stop -> stop.IsBehind before.scanner.cursor
  lookahead : ∀ lookahead, result.1 = .ok lookahead ->
    before.scanner.cursor.Precedes lookahead.before ∧
      lookahead.before.readToken = (.ok lookahead.token, result.2.scanner.cursor)

theorem ReadsForward.trans {first second : Reader source Conditional}
    {result : Except Stop (Lookahead source) × Reader source Conditional}
    (early : first.GoesForward second) (late : second.ReadsForward result) :
    first.ReadsForward result where
  forward := early.trans late.forward
  stop stop stopped := (late.stop stop stopped).trans early.cursor
  lookahead lookahead found :=
    (late.lookahead lookahead found).imp early.cursor.trans id

/-- Reading on goes forwards, through any number of directives. -/
theorem forward_readToken (reader : Reader source Conditional)
    (noLookahead : reader.scanner.lookahead = none) (afterLineComment : Bool) :
    reader.ReadsForward (reader.readToken afterLineComment) := by
  fun_induction readToken reader afterLineComment with
  | case1 reader afterLineComment after error failed =>
    refine ⟨reader.forward_afterToken afterLineComment, ?_, by rintro _ ⟨⟩⟩
    intro stop stopped
    rw [← Except.error.inj stopped]
    exact ⟨error, rfl, Cursor.isBehind_failure failed⟩
  | case2 reader afterLineComment after token read unhandled =>
    refine ⟨reader.forward_afterToken afterLineComment, by rintro _ ⟨⟩, ?_⟩
    intro lookahead found
    rw [← Except.ok.inj found]
    exact ⟨.refl _, Prod.ext read rfl⟩
  | case3 reader afterLineComment after token read conditional attached handled stop failed =>
    have passed := reader.forward_afterToken afterLineComment
    have handling := after.forward_handleDirective (handler_of_handlerFor attached).1 noLookahead
      passed.cursor (Cursor.liesBehind_readToken read)
    refine ⟨passed.trans handling.forward, ?_, by rintro _ ⟨⟩⟩
    intro other stopped
    rw [← Except.error.inj stopped]
    exact handling.stop stop failed
  | case4 reader afterLineComment after token read conditional attached handled clears ok
      inductionHypothesis =>
    have passed := reader.forward_afterToken afterLineComment
    have handling := after.forward_handleDirective (handler_of_handlerFor attached).1 noLookahead
      passed.cursor (Cursor.liesBehind_readToken read)
    have moved := (passed.trans handling.forward).trans
      (handled.2.forward_dropPendingIf clears)
    exact .trans moved (inductionHypothesis (moved.keeps.lookahead.trans noLookahead))

/-! ## Taking tokens -/

/-- What taking tokens leaves alone: what is remembered, and how often comments are disabled. -/
structure Keeps (before after : Reader source Conditional) : Prop where
  place : after.scanner.saved = before.scanner.saved
  state : after.handler.map Conditional.saved = before.handler.map Conditional.saved
  disabled : after.scanner.disabled = before.scanner.disabled

theorem Keeps.trans {first second third : Reader source Conditional}
    (early : first.Keeps second) (late : second.Keeps third) : first.Keeps third :=
  ⟨late.place.trans early.place, late.state.trans early.state,
    late.disabled.trans early.disabled⟩

theorem keeps_peek (reader : Reader source Conditional) : reader.Keeps reader.peek.2 := by
  unfold peek
  cases cached : reader.scanner.lookahead with
  | some lookahead => exact ⟨rfl, rfl, rfl⟩
  | none =>
    have forward := (reader.forward_readToken cached false).forward
    rcases shape : reader.readToken false with ⟨result, after⟩
    rw [shape] at forward
    cases result <;> exact ⟨forward.keeps.saved, forward.saved, forward.keeps.disabled⟩

theorem next_fst (reader : Reader source Conditional) : reader.next.1 = reader.peek.1 := by
  unfold next
  rcases reader.peek with ⟨result, after⟩
  cases result <;> rfl

/-- A token that is looked at is the lookahead then. -/
theorem lookahead_peek {reader : Reader source Conditional} {token : Token}
    (found : reader.peek.1 = .ok token) :
    ∃ before, reader.peek.2.scanner.lookahead = some ⟨token, before⟩ := by
  unfold peek at found ⊢
  cases cached : reader.scanner.lookahead with
  | some lookahead =>
    simp only [cached] at found
    rw [← Except.ok.inj found]
    exact ⟨lookahead.before, cached⟩
  | none =>
    simp only [cached] at found ⊢
    rcases shape : reader.readToken false with ⟨result, behind⟩
    rw [shape] at found
    cases result with
    | error stop => cases found
    | ok lookahead =>
      rw [← Except.ok.inj found]
      exact ⟨lookahead.before, rfl⟩

theorem keeps_next (reader : Reader source Conditional) : reader.Keeps reader.next.2 := by
  have keeps := reader.keeps_peek
  unfold next
  rcases shape : reader.peek with ⟨result, after⟩
  rw [shape] at keeps
  cases result <;> exact ⟨keeps.place, keeps.state, keeps.disabled⟩

theorem keeps_drain (reader : Reader source Conditional) : reader.Keeps reader.drain.2 := by
  fun_induction drain reader with
  | case1 reader after => exact reader.keeps_next
  | case2 reader after => exact reader.keeps_next
  | case3 reader after token taken first notEnd later last rest inductionHypothesis =>
    rw [rest] at inductionHypothesis
    exact reader.keeps_next.trans inductionHypothesis

end Reader
end HeaderScan
