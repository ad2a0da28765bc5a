import HeaderScan.Proofs.Reader.Ahead
import HeaderScan.Proofs.Reader.Requests
import HeaderScan.Session.Observation
import Mathlib.Data.List.Forall2
import Mathlib.Data.List.Infix

namespace HeaderScan

/-!
Taking tokens, however the caller looks ahead.

Between two tokens a caller may look at the next one, pass trivia, set the line, manage comments
and recordings, and remember its place and stay.  None of this changes the tokens that are taken,
the findings, or the directives that are applied: `Reader.Consistent.performs` says for each
command that it keeps the invariant.

The one way to be stopped is to set a line from which the line feeds ahead cannot be counted:
nothing is seen behind the line whose count does not fit, and nothing is taken there.
-/

/-! ## Commands one after the other -/

namespace Command

/-- The commands that take tokens in their order or take none, and go back to no earlier place. -/
def keepsOrder : Command → Bool
  | next | peek | consume | setLine _ | passTrivia | clearComments | commitComments
  | disableComments | enableComments | save | abandon | enableRecording | disableRecording
  | record | recorded | sourceSize | isFirst | isFirstAt _ => true
  | _ => false

/-- The commands about a remembered place or a recording, which there may be or not be. -/
def isRefusable : Command → Bool
  | save | restore | abandon | enableRecording | disableRecording | record | recorded => true
  | _ => false

/-- A reply is a result; only a refusable command may be refused, and by the caller's own fault. -/
def Answers (command : Command) (reply : Except Stop Reply) : Prop :=
  ∀ stop, reply = .error stop ->
    command.isRefusable = true ∧ ∃ error, stop = .failure error ∧ error.cause.isInternal = true

theorem Answers.ne_breach {command : Command} {reply : Except Stop Reply}
    (answers : command.Answers reply) : reply ≠ .error .breach := by
  intro isBreach
  rcases answers _ isBreach with ⟨_, _, isFailure, _⟩
  cases isFailure

/-- How often comments are disabled after a command. -/
def disabledAfter (disabled : Nat) : Command → Nat
  | disableComments => disabled + 1
  | enableComments => disabled - 1
  | _ => disabled

/-- Comments are never enabled more often than they have been disabled. -/
def Balanced (disabled : Nat) (commands : List Command) : Prop :=
  ∀ front, front <+: commands ->
    front.count .enableComments ≤ disabled + front.count .disableComments

instance (disabled : Nat) (commands : List Command) : Decidable (Balanced disabled commands) :=
  decidable_of_iff
    (∀ front ∈ commands.inits,
      front.count .enableComments ≤ disabled + front.count .disableComments)
    (by simp only [List.mem_inits, Balanced])

theorem Balanced.head {disabled : Nat} {command : Command} {later : List Command}
    (balanced : Balanced disabled (command :: later)) (enables : command = .enableComments) :
    0 < disabled := by
  have first := balanced [command] (by simp)
  subst enables
  have once : 1 ≤ disabled := by simpa using first
  exact once

theorem Balanced.tail {disabled : Nat} {command : Command} {later : List Command}
    (balanced : Balanced disabled (command :: later)) :
    Balanced (command.disabledAfter disabled) later := by
  intro front isFront
  have whole := balanced (command :: front) (List.cons_prefix_cons.mpr ⟨rfl, isFront⟩)
  have positive := balanced.head
  cases command <;> simp [disabledAfter] at whole positive ⊢ <;> omega

end Command

/-- What comes of several commands: the replies, the tokens that are taken, and the reader that
is left. -/
structure Course (source : List Char) (σ : Type) where
  replies : List (Except Stop Reply)
  taken : List Token
  reader : Reader source σ

/-- The same course with another handler. -/
def Course.map {source : List Char} {σ τ : Type} (f : σ → τ) (course : Course source σ) :
    Course source τ where
  replies := course.replies
  taken := course.taken
  reader := course.reader.map f

namespace Reader

variable {source : List Char} {σ τ : Type} [DirectiveHandler σ] [DirectiveHandler τ]

/-- The token that a command takes, if it takes one. -/
def takenBy (reader : Reader source σ) : Command → Option Token
  | .next => reader.next.1.toOption
  | .consume => reader.scanner.lookahead.map Lookahead.token
  | _ => none

/-- Performs commands one after the other, given the token that was returned last, up to one behind
which nothing is seen. -/
def performAll (reader : Reader source σ) (last : Token) : List Command → Course source σ
  | [] => ⟨[], [], reader⟩
  | command :: later =>
    let performed := reader.perform last command
    match Observation.ofScanner? performed.1 performed.2.scanner with
    | none => ⟨[], [], performed.2⟩
    | some _ =>
      let course :=
        performed.2.performAll ((performed.1.toOption.bind Reply.latest).getD last) later
      ⟨performed.1 :: course.replies, (reader.takenBy command).toList ++ course.taken,
        course.reader⟩

/-- A command behind which something is seen is answered, and the others follow. -/
theorem performAll_cons {reader : Reader source σ} {last : Token} {command : Command}
    (seen : (Observation.ofScanner? (reader.perform last command).1
      (reader.perform last command).2.scanner).isSome = true) (later : List Command) :
    let performed := reader.perform last command
    let course := performed.2.performAll ((performed.1.toOption.bind Reply.latest).getD last) later
    reader.performAll last (command :: later) =
      ⟨performed.1 :: course.replies, (reader.takenBy command).toList ++ course.taken,
        course.reader⟩ := by
  rcases Option.isSome_iff_exists.mp seen with ⟨observation, isSeen⟩
  simp only [performAll, isSeen]

theorem takenBy_map (projection : Projection σ τ) (reader : Reader source σ) (command : Command) :
    (reader.map projection.toFun).takenBy command = reader.takenBy command := by
  cases command
  case next =>
    have same := congrArg (·.1.toOption) (projection.next_map reader)
    exact same
  all_goals rfl

/-- What a handler keeps for itself changes nothing about a course. -/
theorem performAll_map (projection : Projection σ τ) (reader : Reader source σ) (last : Token)
    (commands : List Command) :
    (reader.map projection.toFun).performAll last commands =
      (reader.performAll last commands).map projection.toFun := by
  induction commands generalizing reader last with
  | nil => rfl
  | cons command later inductionHypothesis =>
    have sameScanner : ((reader.perform last command).2.map projection.toFun).scanner =
        (reader.perform last command).2.scanner := rfl
    simp only [performAll, takenBy_map, projection.perform_map, sameScanner, inductionHypothesis]
    cases Observation.ofScanner? (reader.perform last command).1
      (reader.perform last command).2.scanner <;> rfl

end Reader

/-! ## One command -/

namespace Reader

variable {source : List Char} {plain : Flow} {taken : List Token}
  {reader : Reader source Journaled} {command : Command}

/-- What a command makes of the invariant: it holds with what the command takes, comments are
disabled as the command says, and the reply answers it. -/
structure Performs (plain : Flow) (taken : List Token) (reader : Reader source Journaled)
    (command : Command) (performed : Except Stop Reply × Reader source Journaled) : Prop where
  consistent : Consistent plain (taken ++ (reader.takenBy command).toList) performed.2
  disabled : performed.2.scanner.disabled = command.disabledAfter reader.scanner.disabled
  answers : command.Answers performed.1

theorem answers_ok (command : Command) (reply : Reply) : command.Answers (.ok reply) :=
  fun _ failed => nomatch failed

/-- A command that takes nothing. -/
theorem Performs.of_takenBy_none {performed : Except Stop Reply × Reader source Journaled}
    (nothing : reader.takenBy command = none) (consistent : Consistent plain taken performed.2)
    (disabled : performed.2.scanner.disabled = command.disabledAfter reader.scanner.disabled)
    (answers : command.Answers performed.1) : Performs plain taken reader command performed where
  consistent := by
    rw [nothing, Option.toList_none, List.append_nil]
    exact consistent
  disabled := disabled
  answers := answers

/-- A command that leaves the cursor and the lookahead alone. -/
theorem Consistent.performs_ok (consistent : Consistent plain taken reader)
    (nothing : reader.takenBy command = none) {scanner : Scanner source} (reply : Reply)
    (sameLookahead : scanner.lookahead = reader.scanner.lookahead)
    (sameCursor : scanner.cursor = reader.scanner.cursor)
    (disabled : scanner.disabled = command.disabledAfter reader.scanner.disabled) :
    Performs plain taken reader command (.ok reply, reader.withScanner scanner) := by
  have sameAhead : reader.scanner.cursor.SameAhead scanner.cursor :=
    Cursor.sameAhead_of_rest (congrArg Cursor.rest sameCursor.symm)
  exact .of_takenBy_none nothing (consistent.withScanner sameLookahead sameAhead) disabled
    (answers_ok command reply)

/-- A command of the scanner that is refused or done. -/
theorem Consistent.performs_attempt (consistent : Consistent plain taken reader)
    (nothing : reader.takenBy command = none) (refusable : command.isRefusable = true)
    (stays : command.disabledAfter reader.scanner.disabled = reader.scanner.disabled)
    {result : Except ScanError (Scanner source)}
    (internal : ∀ error, result = .error error -> error.cause.isInternal = true)
    (done : ∀ after, result = .ok after ->
      Consistent plain taken (reader.withScanner after) ∧
        after.disabled = reader.scanner.disabled) :
    Performs plain taken reader command
      ((reader.scanner.attempt (result.mapError .failure)).1,
        reader.withScanner (reader.scanner.attempt (result.mapError .failure)).2) := by
  cases result with
  | error error =>
    refine .of_takenBy_none nothing consistent stays.symm ?_
    intro stop failed
    exact ⟨refusable, error, (Except.error.inj failed).symm, internal error rfl⟩
  | ok after =>
    rcases done after rfl with ⟨stillConsistent, disabled⟩
    exact .of_takenBy_none nothing stillConsistent (disabled.trans stays.symm)
      (answers_ok command .done)

theorem Consistent.performs_next (consistent : Consistent plain taken reader) (last : Token) :
    Performs plain taken reader .next (reader.perform last .next) := by
  rcases consistent.peek with ⟨disabled, lookahead, peeked, cached, stillConsistent⟩
  have moves : reader.next =
      (.ok lookahead.token, reader.peek.2.withScanner reader.peek.2.scanner.consume) := by
    unfold next
    rw [show reader.peek = (.ok lookahead.token, reader.peek.2) from Prod.ext peeked rfl]
  have takes : reader.takenBy .next = some lookahead.token := by
    rw [takenBy, moves]
    rfl
  have performed : reader.perform last .next = (.ok (.token lookahead.token), reader.next.2) := by
    rw [perform, moves]
    rfl
  rw [performed, moves]
  refine ⟨?_, disabled, answers_ok .next _⟩
  rw [takes, Option.toList_some]
  exact stillConsistent.consume cached

theorem Consistent.performs_peek (consistent : Consistent plain taken reader) (last : Token) :
    Performs plain taken reader .peek (reader.perform last .peek) := by
  rcases consistent.peek with ⟨disabled, lookahead, peeked, _, stillConsistent⟩
  have performed : reader.perform last .peek =
      (.ok (.token lookahead.token), reader.peek.2) := by
    rw [perform, peeked]
    rfl
  rw [performed]
  exact .of_takenBy_none rfl stillConsistent disabled (answers_ok .peek _)

theorem Consistent.performs_consume (consistent : Consistent plain taken reader) (last : Token) :
    Performs plain taken reader .consume (reader.perform last .consume) := by
  refine ⟨?_, rfl, answers_ok .consume .done⟩
  change Consistent plain (taken ++ (reader.scanner.lookahead.map Lookahead.token).toList)
    (reader.withScanner reader.scanner.consume)
  cases shape : reader.scanner.lookahead with
  | none =>
    rw [Option.map_none, Option.toList_none, List.append_nil]
    exact consistent.withScanner shape.symm (Cursor.sameAhead_of_rest rfl)
  | some lookahead => exact consistent.consume shape

/-- Trivia are passed behind a lookahead as well, and none is open. -/
theorem Consistent.performs_passTrivia (consistent : Consistent plain taken reader)
    (last : Token) :
    Performs plain taken reader .passTrivia (reader.perform last .passTrivia) := by
  have closed : reader.scanner.cursor.hasOpenComment = false := by
    cases isOpen : reader.scanner.cursor.hasOpenComment with
    | false => rfl
    | true =>
      have failed := congrArg Prod.fst (Cursor.readToken_of_hasOpenComment isOpen)
      have noError := consistent.noError_cursor
      rw [flowFrom, Flow.run_of_error failed] at noError
      cases noError
  have passed : reader.scanner.cursor.passTrivia = (.ok (), reader.scanner.cursor.afterTrivia) := by
    rw [Cursor.passTrivia, closed, if_neg Bool.false_ne_true]
  have performed : reader.perform last .passTrivia =
      (.ok .done, reader.withScanner reader.scanner.passTrivia.2) := by
    simp only [perform, Scanner.perform, Scanner.passTrivia, passed]
    rfl
  rw [performed]
  refine .of_takenBy_none rfl (consistent.withScanner rfl ?_) rfl (answers_ok _ _)
  have moved : reader.scanner.passTrivia.2.cursor = reader.scanner.cursor.afterTrivia := by
    simp only [Scanner.passTrivia, passed]
  rw [moved]
  exact Cursor.sameAhead_afterTrivia _

theorem Consistent.performs_setLine (consistent : Consistent plain taken reader) (last : Token)
    (line : Nat) :
    Performs plain taken reader (.setLine line) (reader.perform last (.setLine line)) := by
  have sameRest := (congrArg Cursor.rest reader.scanner.cursor_rewind).symm
  have stillConsistent : Consistent plain taken
      (reader.withScanner (reader.scanner.withLine line)) :=
    consistent.moveTo reader.scanner.lookahead_rewind (Cursor.sameAhead_of_rest sameRest)
  exact .of_takenBy_none rfl stillConsistent reader.scanner.disabled_rewind (answers_ok _ _)

theorem Consistent.performs_abandon (consistent : Consistent plain taken reader) (last : Token) :
    Performs plain taken reader .abandon (reader.perform last .abandon) := by
  refine consistent.performs_attempt rfl rfl rfl ?_ ?_
  · intro error failed
    unfold Scanner.abandon at failed
    split at failed
    · rw [← Except.error.inj failed]
      rfl
    · cases failed
  · intro after done
    unfold Scanner.abandon at done
    split at done
    · cases done
    · rw [← Except.ok.inj done]
      have sameRest := (congrArg Cursor.rest reader.scanner.cursor_rewind).symm
      have sameAhead := Cursor.sameAhead_of_rest sameRest
      exact ⟨consistent.moveTo reader.scanner.lookahead_rewind sameAhead,
        reader.scanner.disabled_rewind⟩

/-- A handler that remembers its own place does the same about what is ahead. -/
theorem Consistent.saveHandler (consistent : Consistent plain taken reader) :
    Consistent plain taken
      { reader with handler := reader.handler.map DirectiveHandler.save } := by
  have sameFlow : ∀ cursor,
      flowFrom { reader with handler := reader.handler.map DirectiveHandler.save } cursor =
        reader.flowFrom cursor := by
    intro cursor
    unfold flowFrom state boundaries
    cases reader.handler <;> rfl
  have sameState : state { reader with handler := reader.handler.map DirectiveHandler.save } =
      reader.state := by
    unfold state
    cases reader.handler <;> rfl
  refine ⟨?_, ?_, consistent.finished, ?_⟩
  · rw [ahead, sameFlow]
    exact consistent.flow
  · rw [ahead, sameFlow]
    exact consistent.noError
  · rw [sameState]
    exact consistent.cached

theorem Consistent.performs_save (consistent : Consistent plain taken reader) (last : Token) :
    Performs plain taken reader .save (reader.perform last .save) := by
  change Performs plain taken reader .save (reader.attempt reader.save)
  cases shape : reader.scanner.save with
  | error error =>
    have refused : reader.attempt reader.save = (.error (.failure error), reader) := by
      rw [Reader.save, shape]
      rfl
    rw [refused]
    refine .of_takenBy_none rfl consistent rfl ?_
    intro stop failed
    refine ⟨rfl, error, (Except.error.inj failed).symm, ?_⟩
    unfold Scanner.save at shape
    split at shape
    · rw [← Except.error.inj shape]
      rfl
    · cases shape
  | ok scanner =>
    rcases Scanner.save_of_ok shape with ⟨sameLookahead, sameCursor, sameDisabled⟩
    have sameAhead := Cursor.sameAhead_of_rest (congrArg Cursor.rest sameCursor.symm)
    have stillConsistent := (consistent.withScanner sameLookahead sameAhead).saveHandler
    have done : reader.attempt reader.save =
        (.ok .done,
          { reader with
            scanner := scanner
            handler := reader.handler.map DirectiveHandler.save }) := by
      rw [Reader.save, shape]
      rfl
    rw [done]
    exact .of_takenBy_none rfl stillConsistent sameDisabled (answers_ok _ _)

/-- The commands about a recording do nothing else. -/
theorem Consistent.performs_recording (consistent : Consistent plain taken reader)
    (nothing : reader.takenBy command = none) (refusable : command.isRefusable = true)
    (stays : command.disabledAfter reader.scanner.disabled = reader.scanner.disabled)
    {result : Except ScanError (Scanner source)}
    (only : (∃ recording, result = .ok { reader.scanner with recording := recording }) ∨
      ∃ cause, cause.isInternal = true ∧ result = .error (reader.scanner.misuse cause)) :
    Performs plain taken reader command
      ((reader.scanner.attempt (result.mapError .failure)).1,
        reader.withScanner (reader.scanner.attempt (result.mapError .failure)).2) := by
  refine consistent.performs_attempt nothing refusable stays ?_ ?_
  · intro error failed
    rcases only with ⟨recording, isOk⟩ | ⟨cause, internal, isError⟩
    · exact nomatch isOk.symm.trans failed
    · rw [← Except.error.inj (isError.symm.trans failed)]
      exact internal
  · intro after done
    rcases only with ⟨recording, isOk⟩ | ⟨cause, _, isError⟩
    · rw [← Except.ok.inj (isOk.symm.trans done)]
      exact ⟨consistent.withScanner rfl (Cursor.sameAhead_of_rest rfl), rfl⟩
    · exact nomatch isError.symm.trans done

/-- Every command that keeps the order keeps the invariant. -/
theorem Consistent.performs (consistent : Consistent plain taken reader) (last : Token)
    (keepsOrder : command.keepsOrder = true)
    (enables : command = .enableComments -> 0 < reader.scanner.disabled) :
    Performs plain taken reader command (reader.perform last command) := by
  cases command with
  | next => exact consistent.performs_next last
  | peek => exact consistent.performs_peek last
  | consume => exact consistent.performs_consume last
  | setLine line => exact consistent.performs_setLine last line
  | passTrivia => exact consistent.performs_passTrivia last
  | save => exact consistent.performs_save last
  | abandon => exact consistent.performs_abandon last
  | sourceSize | isFirst | isFirstAt | clearComments | disableComments | commitComments =>
    exact consistent.performs_ok rfl _ rfl rfl rfl
  | enableComments =>
    have positive := enables rfl
    have enabled : reader.scanner.enableComments =
        .ok { reader.scanner with disabled := reader.scanner.disabled - 1 } :=
      if_neg (Nat.pos_iff_ne_zero.mp positive)
    have performed : reader.perform last .enableComments =
        (.ok .done,
          reader.withScanner
            { reader.scanner with disabled := reader.scanner.disabled - 1 }) := by
      simp only [perform, Scanner.perform, enabled]
      rfl
    rw [performed]
    exact consistent.performs_ok rfl _ rfl rfl rfl
  | enableRecording =>
    apply consistent.performs_recording rfl rfl rfl
    unfold Scanner.enableRecording
    split
    · exact Or.inr ⟨_, rfl, rfl⟩
    · exact Or.inl ⟨_, rfl⟩
  | disableRecording =>
    apply consistent.performs_recording rfl rfl rfl
    unfold Scanner.disableRecording
    split
    · exact Or.inr ⟨_, rfl, rfl⟩
    · exact Or.inl ⟨_, rfl⟩
  | record =>
    apply consistent.performs_recording rfl rfl rfl
    unfold Scanner.record
    split
    · exact Or.inr ⟨_, rfl, rfl⟩
    · exact Or.inl ⟨_, rfl⟩
  | recorded =>
    refine .of_takenBy_none rfl (consistent.withScanner rfl (Cursor.sameAhead_of_rest rfl)) rfl ?_
    change Command.Answers .recorded
      ((reader.scanner.recorded.mapError Stop.failure).map Reply.recorded)
    unfold Scanner.recorded
    split
    · intro stop failed
      exact ⟨rfl, _, (Except.error.inj failed).symm, rfl⟩
    · exact answers_ok _ _
  | drain | readLine | readRawText | view | restore => cases keepsOrder

/-! ## Any number of commands -/

/-- Wherever the reader stands without its journal, all lines ahead can be counted. -/
def HasRoom (reader : Reader source Journaled) : Prop :=
  (reader.map Journaled.conditional).Stands Cursor.HasRoom fun _ => True

/-- A command leaves room for lines, if it sets none from which they cannot be counted. -/
theorem HasRoom.perform (hasRoom : reader.HasRoom) (last : Token)
    (lines : ∀ line, command = .setLine line -> line + source.count '\n' < countLimit) :
    (reader.perform last command).2.HasRoom := by
  have respects : Request.Respects (Cursor.HasRoom : Cursor source → Prop) (fun _ => True)
      (.command last command : Request Conditional) :=
    Request.respects_hasRoom fun _ line setsLine => lines line (Request.command.inj setsLine).2
  have same : ((reader.map Journaled.conditional).perform last command).2 =
      (reader.perform last command).2.map Journaled.conditional :=
    congrArg Prod.snd (Journaled.projection.perform_map reader last command)
  rw [HasRoom, ← same]
  exact (Stands.stands_answer hasRoom Cursor.keptForwards_hasRoom respects).reader

/-- Commands that keep the order keep the invariant, and each of them is answered as long as the
lines can be counted. -/
theorem Consistent.performAll (consistent : Consistent plain taken reader)
    (hasRoom : reader.HasRoom) (last : Token) {commands : List Command}
    (keepsOrder : ∀ command ∈ commands, command.keepsOrder = true)
    (balanced : Command.Balanced reader.scanner.disabled commands)
    (lines : ∀ line, .setLine line ∈ commands -> line + source.count '\n' < countLimit) :
    Consistent plain (taken ++ (reader.performAll last commands).taken)
        (reader.performAll last commands).reader ∧
      List.Forall₂ Command.Answers commands (reader.performAll last commands).replies := by
  induction commands generalizing taken reader last with
  | nil =>
    refine ⟨?_, .nil⟩
    change Consistent plain (taken ++ []) reader
    rw [List.append_nil]
    exact consistent
  | cons command later inductionHypothesis =>
    have first := keepsOrder command List.mem_cons_self
    have others : ∀ other ∈ later, other.keepsOrder = true := fun other isLater =>
      keepsOrder other (List.mem_cons_of_mem command isLater)
    have otherLines : ∀ line, .setLine line ∈ later -> line + source.count '\n' < countLimit :=
      fun line isLater => lines line (List.mem_cons_of_mem command isLater)
    have performs := consistent.performs last first balanced.head
    have stillRoom := hasRoom.perform last fun line isSetLine =>
      lines line (isSetLine ▸ List.mem_cons_self)
    have seen := Observation.isSome_ofScanner?_iff.mpr
      ⟨stillRoom.scanner.cursor.line_lt, performs.answers.ne_breach⟩
    have stillBalanced := balanced.tail
    rw [← performs.disabled] at stillBalanced
    have goesOn := inductionHypothesis performs.consistent stillRoom
      (((reader.perform last command).1.toOption.bind Reply.latest).getD last) others stillBalanced
      otherLines
    rw [List.append_assoc] at goesOn
    rw [performAll_cons seen later]
    exact ⟨goesOn.1, .cons performs.answers goesOn.2⟩

/-- A course agrees with a plain drain, up to lines: it takes the same tokens in the same order and
comes to the same findings, in part before it has taken the end of the file, and in full after it.
The end of the file may be taken again. -/
structure Follows {σ : Type} (course : Course source σ) (plain : Drained × Reader source σ) :
    Prop where
  inOrder : ends course.taken = 0 ->
    course.taken.map Token.content <+: plain.1.tokens.map Token.content
  complete : 0 < ends course.taken ->
    course.taken.map Token.content =
      plain.1.tokens.map Token.content ++
        List.replicate (ends course.taken - 1) (lastToken source).content
  findings : course.reader.findings.map Diagnostic.content <+:
    plain.2.findings.map Diagnostic.content
  allFindings : 0 < ends course.taken ->
    course.reader.findings.map Diagnostic.content = plain.2.findings.map Diagnostic.content

/-- What a handler keeps for itself plays no part in the agreement. -/
theorem Follows.map {σ τ : Type} {course : Course source σ} {plain : Drained × Reader source σ}
    (follows : Follows course plain) (f : σ → τ) :
    Follows (course.map f) (plain.1, plain.2.map f) where
  inOrder := follows.inOrder
  complete := follows.complete
  findings := follows.findings
  allFindings := follows.allFindings

/-- A course that keeps the invariant agrees with the drain that it is about. -/
theorem Consistent.follows {drained : Drained × Reader source Journaled}
    {course : Course source Journaled} (drains : Drains plain drained)
    (consistent : Consistent plain course.taken course.reader) : Follows course drained where
  inOrder unfinished := by
    rw [drains.tokens]
    exact consistent.taken_prefix unfinished
  complete finished := by
    rw [drains.tokens]
    exact consistent.taken_eq finished
  findings := by
    rw [drains.findings]
    exact consistent.findings_prefix
  allFindings finished := by
    rw [drains.findings]
    exact consistent.findings_eq finished

end Reader
end HeaderScan
