import HeaderScan.Reader.Drain
import HeaderScan.Conditional

namespace HeaderScan

/-!
What a reader remembers plays no part in reading.

A reader remembers a place, its handler a state; both keep what has been recorded and found.
Tokens are read without a look at any of it: `Reader.readToken_keeping` says that a reader with
another memory reads the same.  `Reader.stream_of_bare` is what follows for the tokens to come and
the comments shown with them.
-/

/-- What a reader and its handler remember, the recorded tokens, and the findings so far. -/
structure Memory (source : List Char) where
  snapshot : Option (Snapshot source)
  state : Option Conditional.State
  recording : Option (List Token)
  findings : List Diagnostic

variable {source : List Char}

/-- The same scanner with another memory. -/
def Scanner.keeping (scanner : Scanner source) (memory : Memory source) : Scanner source :=
  { scanner with saved := memory.snapshot, recording := memory.recording }

/-- The same handler with another memory. -/
def Conditional.keeping (conditional : Conditional) (memory : Memory source) : Conditional :=
  { conditional with saved := memory.state }

/-- The same exclusion with another memory. -/
def Exclusion.keeping (exclusion : Exclusion source Conditional) (memory : Memory source) :
    Exclusion source Conditional where
  result := exclusion.result
  handler := exclusion.handler.keeping memory
  scanner := exclusion.scanner.keeping memory
  findings := exclusion.findings

/-- The same reader with another memory, to which its own findings are added. -/
def Reader.keeping (reader : Reader source Conditional) (memory : Memory source) :
    Reader source Conditional where
  scanner := reader.scanner.keeping memory
  handler := reader.handler.map (·.keeping memory)
  findings := memory.findings ++ reader.findings

variable (memory : Memory source)

/-! ## Directives -/

theorem Scanner.rewind_keeping (scanner : Scanner source) :
    (scanner.keeping memory).rewind = scanner.rewind.keeping memory := by
  rcases scanner with ⟨_, lookahead⟩
  cases lookahead <;> rfl

theorem Scanner.enableComments_keeping (scanner : Scanner source) :
    (scanner.keeping memory).enableComments =
      scanner.enableComments.map (·.keeping memory) := by
  have sameDisabled : (scanner.keeping memory).disabled = scanner.disabled := rfl
  unfold enableComments
  rw [sameDisabled]
  split <;> rfl

theorem Conditional.handle_keeping (conditional : Conditional) (scanner : Scanner source)
    (directive : Token) (region : Region) :
    let handled := DirectiveHandler.handle conditional scanner directive region
    DirectiveHandler.handle (conditional.keeping memory) (scanner.keeping memory) directive
        region =
      (handled.1, handled.2.1.keeping memory, handled.2.2.keeping memory) := by
  change Conditional.handle _ _ _ _ =
    ((conditional.handle scanner directive region).1,
      (conditional.handle scanner directive region).2.1.keeping memory,
      (conditional.handle scanner directive region).2.2.keeping memory)
  have sameState : (conditional.keeping memory).state = conditional.state := rfl
  have sameCursor : (scanner.rewind.keeping memory).cursor = scanner.rewind.cursor := rfl
  unfold handle
  simp only [Scanner.rewind_keeping, sameState, sameCursor]
  split <;> rfl

theorem Exclusion.run_keeping (conditional : Conditional) (scanner : Scanner source)
    (checks : Bool) (progress : HiddenContent.Progress) :
    run (conditional.keeping memory) (scanner.keeping memory) checks progress =
      (run conditional scanner checks progress).keeping memory := by
  -- The scanner behind the sign of a directive, where the handler takes over, keeps it too.
  have handledBy : ∀ (conditional : Conditional) (scanner : Scanner source) (token : Token),
      let handled := DirectiveHandler.handle conditional
        (scanner.withCursor scanner.cursor.readToken.2) token .excluded
      DirectiveHandler.handle (conditional.keeping memory)
          ((scanner.keeping memory).withCursor (scanner.keeping memory).cursor.readToken.2) token
          .excluded =
        (handled.1, handled.2.1.keeping memory, handled.2.2.keeping memory) :=
    fun conditional scanner token =>
      conditional.handle_keeping memory (scanner.withCursor scanner.cursor.readToken.2) token
        .excluded
  fun_induction run conditional scanner checks progress with
  | case1 conditional scanner checks progress after error failed =>
    have failed : (scanner.keeping memory).cursor.readToken.1 = .error error := failed
    rw [run_of_error failed]
    rfl
  | case2 conditional scanner checks progress after token read atEnd =>
    have read : (scanner.keeping memory).cursor.readToken.1 = .ok token := read
    rw [run_of_endOfFile read atEnd]
    rfl
  | case3 conditional scanner checks progress after token read notEnd begins handled stop failed =>
    have read : (scanner.keeping memory).cursor.readToken.1 = .ok token := read
    rw [run_of_beginsDirective read begins]
    simp only [handledBy, failed, handled, after]
    rfl
  | case4 conditional scanner checks progress after token read notEnd begins handled outcome ok
      includes =>
    have read : (scanner.keeping memory).cursor.readToken.1 = .ok token := read
    rw [run_of_beginsDirective read begins]
    simp only [handledBy, ok, handled, after, includes, if_true]
    rfl
  | case5 conditional scanner checks progress after token read notEnd begins handled outcome ok
      excludes inductionHypothesis =>
    have read : (scanner.keeping memory).cursor.readToken.1 = .ok token := read
    rw [run_of_beginsDirective read begins]
    simp only [handledBy, ok, handled, after, excludes]
    exact inductionHypothesis
  | case6 conditional scanner checks progress after token read notEnd noDirective searched
      inductionHypothesis =>
    have read : (scanner.keeping memory).cursor.readToken.1 = .ok token := read
    rw [run_of_token read notEnd (Bool.eq_false_iff.mpr noDirective)]
    exact congrArg (found (progress.stepIf checks token).1) inductionHypothesis

/-! ## Tokens -/

namespace Reader

theorem passExcluded_keeping (reader : Reader source Conditional) (conditional : Conditional)
    (scanner : Scanner source) (outcome : Outcome) :
    (reader.keeping memory).passExcluded (conditional.keeping memory) (scanner.keeping memory)
        outcome =
      ((reader.passExcluded conditional scanner outcome).1,
        (reader.passExcluded conditional scanner outcome).2.keeping memory) := by
  have disabled : (scanner.keeping memory).disableComments =
      scanner.disableComments.keeping memory := rfl
  unfold passExcluded
  simp only [disabled, Exclusion.run_keeping, Exclusion.keeping, Scanner.enableComments_keeping]
  generalize Exclusion.run conditional scanner.disableComments outcome.checksContent
    .nothing = exclusion
  cases exclusion.scanner.enableComments with
  | error stop => simp [resume, keeping, Scanner.keeping, Except.map]
  | ok enabled => simp [resume, keeping, Scanner.keeping, Except.map]

theorem handleDirective_keeping (reader : Reader source Conditional) (conditional : Conditional)
    (directive : Token) :
    (reader.keeping memory).handleDirective (conditional.keeping memory) directive =
      ((reader.handleDirective conditional directive).1,
        (reader.handleDirective conditional directive).2.keeping memory) := by
  have reserved : (reader.keeping memory).scanner.reservePending =
      reader.scanner.reservePending.keeping memory := rfl
  have resumed : ∀ (conditional : Conditional) (scanner : Scanner source),
      (reader.keeping memory).resume (conditional.keeping memory) (scanner.keeping memory) [] =
        (reader.resume conditional scanner []).keeping memory := by
    intro conditional scanner
    simp [resume, keeping, Scanner.keeping]
  unfold handleDirective
  simp only [reserved, Conditional.handle_keeping, passExcluded_keeping, resumed]
  split
  · rfl
  · split <;> rfl

theorem handlerFor_keeping (reader : Reader source Conditional) (token : Token) :
    (reader.keeping memory).handlerFor token =
      (reader.handlerFor token).map (·.keeping memory) := by
  unfold handlerFor
  split <;> rfl

theorem dropPendingIf_keeping (reader : Reader source Conditional) (drops : Bool) :
    (reader.keeping memory).dropPendingIf drops = (reader.dropPendingIf drops).keeping memory := by
  unfold dropPendingIf
  split <;> rfl

theorem readToken_keeping (reader : Reader source Conditional) (afterLineComment : Bool) :
    (reader.keeping memory).readToken afterLineComment =
      ((reader.readToken afterLineComment).1,
        (reader.readToken afterLineComment).2.keeping memory) := by
  have attachedBy : ∀ {reader : Reader source Conditional} {token : Token}
      {conditional : Conditional}, reader.handlerFor token = some conditional ->
        (reader.keeping memory).handlerFor token = some (conditional.keeping memory) := by
    intro reader token conditional attached
    rw [handlerFor_keeping, attached, Option.map_some]
  have handledBy : ∀ (reader : Reader source Conditional) (afterLineComment : Bool)
      (conditional : Conditional) (token : Token),
      let handled := (reader.afterToken afterLineComment).handleDirective conditional token
      ((reader.keeping memory).afterToken afterLineComment).handleDirective
          (conditional.keeping memory) token =
        (handled.1, handled.2.keeping memory) := fun reader afterLineComment =>
    handleDirective_keeping memory (reader.afterToken afterLineComment)
  fun_induction readToken reader afterLineComment with
  | case1 reader afterLineComment after error failed =>
    have failed : (reader.keeping memory).scanner.cursor.readToken.1 = .error error := failed
    rw [readToken_of_error failed]
    rfl
  | case2 reader afterLineComment after token read unhandled =>
    have read : (reader.keeping memory).scanner.cursor.readToken.1 = .ok token := read
    have unhandled : (reader.keeping memory).handlerFor token = none := by
      rw [handlerFor_keeping, unhandled, Option.map_none]
    rw [readToken_of_handlerFor_none read unhandled]
    rfl
  | case3 reader afterLineComment after token read conditional attached handled stop failed =>
    have read : (reader.keeping memory).scanner.cursor.readToken.1 = .ok token := read
    rw [readToken_of_handlerFor read (attachedBy attached)]
    simp only [handledBy, failed, handled, after]
  | case4 reader afterLineComment after token read conditional attached handled clears ok
      inductionHypothesis =>
    have read : (reader.keeping memory).scanner.cursor.readToken.1 = .ok token := read
    rw [readToken_of_handlerFor read (attachedBy attached)]
    simp only [handledBy, ok, handled, after, dropPendingIf_keeping]
    exact inductionHypothesis

theorem peek_keeping (reader : Reader source Conditional) :
    (reader.keeping memory).peek = (reader.peek.1, reader.peek.2.keeping memory) := by
  have sameLookahead : (reader.keeping memory).scanner.lookahead = reader.scanner.lookahead := rfl
  unfold peek
  rw [sameLookahead, readToken_keeping]
  cases reader.scanner.lookahead with
  | some lookahead => rfl
  | none =>
    cases reader.readToken false with
    | mk result after => cases result <;> rfl

/-- Taking a token may add it to the memory, but does not look at what is there. -/
theorem next_keeping (reader : Reader source Conditional) :
    ∃ later, (reader.keeping memory).next = (reader.next.1, reader.next.2.keeping later) := by
  unfold next
  rw [peek_keeping]
  cases reader.peek with
  | mk result after =>
    cases result with
    | error stop => exact ⟨memory, rfl⟩
    | ok token =>
      exact ⟨{ memory with recording := (after.keeping memory).scanner.consume.recording }, rfl⟩

/-! ## The tokens to come -/

/-- What comes of taking a number of tokens, errors included, and the comments shown after
each. -/
def stream (reader : Reader source Conditional) : Nat → List (Except Stop Token × List Comment)
  | 0 => []
  | count + 1 =>
    (reader.next.1, reader.next.2.scanner.shownComments) :: reader.next.2.stream count

theorem stream_keeping (reader : Reader source Conditional) (count : Nat) :
    (reader.keeping memory).stream count = reader.stream count := by
  induction count generalizing reader memory with
  | zero => rfl
  | succ count inductionHypothesis =>
    rcases reader.next_keeping memory with ⟨later, taken⟩
    rw [stream, stream, taken, inductionHypothesis]
    rfl

/-- A reader without a memory. -/
def bare (reader : Reader source Conditional) : Reader source Conditional where
  scanner := { reader.scanner with saved := none, recording := none }
  handler := reader.handler.map fun conditional => { conditional with saved := none }
  findings := []

/-- Its memory apart, a reader is nothing but a reader without one. -/
theorem bare_keeping (reader : Reader source Conditional) :
    ∃ memory, reader.bare.keeping memory = reader := by
  refine ⟨⟨reader.scanner.saved, reader.handler.bind Conditional.saved,
    reader.scanner.recording, reader.findings⟩, ?_⟩
  rcases reader with ⟨scanner, handler, findings⟩
  cases handler <;> simp [bare, keeping, Scanner.keeping, Conditional.keeping]

/-- Readers that differ in their memory only have the same tokens to come. -/
theorem stream_of_bare {first second : Reader source Conditional}
    (same : first.bare = second.bare) (count : Nat) :
    first.stream count = second.stream count := by
  rcases first.bare_keeping with ⟨memory, isFirst⟩
  rcases second.bare_keeping with ⟨other, isSecond⟩
  rw [← isFirst, ← isSecond, stream_keeping, stream_keeping, same]

end Reader
end HeaderScan
