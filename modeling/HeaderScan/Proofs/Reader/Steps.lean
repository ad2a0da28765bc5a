import HeaderScan.Proofs.Reader.Collection
import Mathlib.Logic.Relation

namespace HeaderScan

/-!
Small steps of a scanner.

Whatever reads from a scanner makes it take a few kinds of steps, each of which changes little:
`Scanner.Step` lists them.  None of them decides whether comments count, remembers a place or goes
back to one; operations that do so make a change of their own (`Scanner.Changes`).  What every step
keeps is then kept by every command but the one that commits the pending comments
(`Scanner.changes_perform`).
-/

variable {source : List Char}

namespace Command

/-- The command neither makes comments count or not, nor remembers a place, nor goes back to one. -/
def readsOnly : Command → Bool
  | .commitComments | .disableComments | .enableComments | .save | .restore => false
  | _ => true

end Command

namespace Scanner

/-- A small step of a scanner. -/
inductive Step (scanner : Scanner source) : Scanner source → Prop
  | moves {cursor : Cursor source} : scanner.cursor.offset ≤ cursor.offset ->
      Step scanner (scanner.withCursor cursor)
  /-- The trivia in front of the cursor are passed, and their comments collected. -/
  | collects {cursor : Cursor source} (afterLineComment : Bool) :
      scanner.cursor.afterTrivia.offset ≤ cursor.offset ->
      Step scanner
        { scanner with
          cursor := cursor
          comments := (scanner.capture afterLineComment).comments }
  /-- The same, and the token behind the trivia is looked at. -/
  | looks {cursor : Cursor source} (afterLineComment : Bool) (token : Token) :
      scanner.cursor.afterTrivia.offset ≤ cursor.offset ->
      Step scanner
        { scanner with
          cursor := cursor
          lookahead := some ⟨token, scanner.cursor⟩
          comments := (scanner.capture afterLineComment).comments }
  | putsBack : Step scanner scanner.rewind
  | consumes : Step scanner scanner.consume
  | keepsPending (count : Nat) :
      Step scanner { scanner with comments := scanner.comments.keepPending count }
  | clears : Step scanner scanner.clearComments
  | records (recording : Option (List Token)) :
      Step scanner { scanner with recording := recording }
  | forgets : Step scanner { scanner with saved := none }

/-- Any number of steps. -/
abbrev Steps : Scanner source → Scanner source → Prop :=
  Relation.ReflTransGen Step

/-- What an operation does to a scanner, unless pending comments are committed by it. -/
inductive Changes (before after : Scanner source) : Prop
  | steps : Steps before after -> Changes before after
  | reserves (count : Nat) : after = { before with reserved := count } -> Changes before after
  | disables : after = before.disableComments -> Changes before after
  | enables : before.enableComments = .ok after -> Changes before after
  | saves : before.save = .ok after -> Changes before after
  | restores : before.restore = .ok after -> Changes before after

variable {scanner after : Scanner source}

/-- No step changes whether comments count, or how many are reserved. -/
theorem Step.disabled_reserved (step : Step scanner after) :
    after.disabled = scanner.disabled ∧ after.reserved = scanner.reserved := by
  cases step with
  | putsBack =>
    unfold rewind
    split <;> exact ⟨rfl, rfl⟩
  | _ => exact ⟨rfl, rfl⟩

theorem Steps.disabled_reserved (steps : Steps scanner after) :
    after.disabled = scanner.disabled ∧ after.reserved = scanner.reserved := by
  induction steps with
  | refl => exact ⟨rfl, rfl⟩
  | tail _ step inductionHypothesis =>
    rw [step.disabled_reserved.1, step.disabled_reserved.2]
    exact inductionHypothesis

/-! ## Commands -/

theorem steps_passTrivia (scanner : Scanner source) : Steps scanner scanner.passTrivia.2 :=
  .single (.collects false scanner.cursor.precedes_passTrivia_afterTrivia.offset_le)

theorem steps_peek (scanner : Scanner source) : Steps scanner scanner.peek.2 := by
  have reaches := scanner.cursor.precedes_readToken_afterTrivia.offset_le
  unfold peek
  split
  · exact .refl
  · split
    next error after shape =>
      rw [← congrArg Prod.snd shape]
      exact .single (.collects false reaches)
    next token after shape =>
      have isAfter : (scanner.readToken false).2 = after := congrArg Prod.snd shape
      rw [← isAfter]
      exact .single (.looks false token reaches)

theorem steps_next (scanner : Scanner source) : Steps scanner scanner.next.2 := by
  have peeked := steps_peek scanner
  unfold next
  rcases shape : scanner.peek with ⟨result, after⟩
  rw [shape] at peeked
  cases result with
  | error error => exact peeked
  | ok token => exact peeked.tail .consumes

theorem steps_drain (scanner : Scanner source) : Steps scanner scanner.drain.2 := by
  fun_induction drain scanner with
  | case1 scanner => exact steps_next scanner
  | case2 scanner => exact steps_next scanner
  | case3 scanner after token taken first notEnd later last rest inductionHypothesis =>
    rw [rest] at inductionHypothesis
    exact (steps_next scanner).trans inductionHypothesis

theorem steps_rewind_withCursor {cursor : Cursor source}
    (reaches : scanner.rewind.cursor.offset ≤ cursor.offset) :
    Steps scanner (scanner.rewind.withCursor cursor) :=
  .tail (.single .putsBack) (.moves reaches)

theorem steps_readRawText (scanner : Scanner source) (terminator : Char)
    (options : RawTextOptions) :
    Steps scanner (scanner.readRawText terminator options).2 := by
  have passed : Steps scanner scanner.rewind.passTrivia.2 :=
    .head .putsBack (steps_passTrivia scanner.rewind)
  unfold readRawText
  rcases shape : scanner.rewind.passTrivia with ⟨result, after⟩
  rw [shape] at passed
  cases result with
  | error error => exact passed
  | ok =>
    exact passed.tail (.moves (after.cursor.precedes_readRawText terminator options).offset_le)

theorem steps_abandon (done : scanner.abandon = .ok after) : Steps scanner after := by
  rw [abandon_of_ok done]
  exact .tail (.single .putsBack) .forgets

theorem steps_recording (same : ∃ recording, after = { scanner with recording := recording }) :
    Steps scanner after := by
  rcases same with ⟨recording, rfl⟩
  exact .single (.records recording)

/-- An operation that may be refused. -/
theorem steps_attempt {result : Except ScanError (Scanner source)}
    (ok : ∀ after, result = .ok after -> Steps scanner after) :
    Steps scanner (scanner.attempt (result.mapError .failure)).2 := by
  cases result with
  | error error => exact .refl
  | ok after => exact ok after rfl

/-- A command that only reads takes small steps. -/
theorem steps_perform (scanner : Scanner source) (about : Token) {command : Command}
    (readsOnly : command.readsOnly = true) :
    Steps scanner (scanner.perform about command).2 := by
  cases command with
  | next => exact steps_next scanner
  | peek => exact steps_peek scanner
  | drain => exact steps_drain scanner
  | consume => exact .single .consumes
  | setLine line => exact steps_rewind_withCursor (Nat.le_refl _)
  | passTrivia => exact steps_passTrivia scanner
  | readLine => exact steps_rewind_withCursor scanner.rewind.cursor.precedes_readLine.offset_le
  | readRawText terminator options => exact steps_readRawText scanner terminator options
  | view | sourceSize | isFirst | isFirstAt | recorded => exact .refl
  | clearComments => exact .single .clears
  | abandon => exact steps_attempt fun _ done => steps_abandon done
  | enableRecording =>
    exact steps_attempt fun _ done => steps_recording (enableRecording_of_ok done)
  | disableRecording =>
    exact steps_attempt fun _ done => steps_recording (disableRecording_of_ok done)
  | record => exact steps_attempt fun _ done => steps_recording (record_of_ok done)
  | commitComments | disableComments | enableComments | save | restore => cases readsOnly

/-- An operation that changes the scanner if it is not refused. -/
theorem changes_attempt {result : Except ScanError (Scanner source)}
    (ok : ∀ after, result = .ok after -> scanner.Changes after) :
    scanner.Changes (scanner.attempt (result.mapError .failure)).2 := by
  cases result with
  | error error => exact .steps .refl
  | ok after => exact ok after rfl

theorem changes_enableComments (scanner : Scanner source) :
    scanner.Changes (scanner.attempt scanner.enableComments).2 := by
  cases enabled : scanner.enableComments with
  | error stop => exact .steps .refl
  | ok after => exact .enables enabled

/-- Every command but the one that commits the pending comments makes a change. -/
theorem changes_perform (scanner : Scanner source) (about : Token) {command : Command}
    (noCommit : command ≠ .commitComments) :
    scanner.Changes (scanner.perform about command).2 := by
  by_cases readsOnly : command.readsOnly = true
  · exact .steps (scanner.steps_perform about readsOnly)
  cases command with
  | commitComments => exact absurd rfl noCommit
  | disableComments => exact .disables rfl
  | enableComments => exact scanner.changes_enableComments
  | save => exact changes_attempt fun _ done => .saves done
  | restore => exact changes_attempt fun _ done => .restores done
  | _ => exact absurd rfl readsOnly

/-! ## Operations that are not refused -/

theorem enableComments_of_ok (done : scanner.enableComments = .ok after) :
    after = { scanner with disabled := scanner.disabled - 1 } := by
  unfold enableComments at done
  split at done
  · cases done
  · exact (Except.ok.inj done).symm

/-- What is remembered is the place from which reading goes on, and what is shown there. -/
theorem saved_of_save (done : scanner.save = .ok after) :
    ∃ comments, after = { scanner with saved := some ⟨scanner.inputCursor, comments⟩ } ∧
      comments.committed = scanner.comments.committed := by
  unfold save at done
  split at done
  · cases done
  · refine ⟨_, (Except.ok.inj done).symm, ?_⟩
    split <;> rfl

theorem reserved_restore (done : scanner.restore = .ok after) :
    after.reserved = scanner.reserved := by
  unfold restore at done
  split at done
  · cases done
  · rw [← Except.ok.inj done]

/-- No command reserves comments. -/
theorem reserved_perform (scanner : Scanner source) (about : Token) (command : Command) :
    (scanner.perform about command).2.reserved = scanner.reserved := by
  by_cases readsOnly : command.readsOnly = true
  · exact (scanner.steps_perform about readsOnly).disabled_reserved.2
  cases command with
  | commitComments | disableComments => rfl
  | enableComments =>
    rw [perform]
    cases done : scanner.enableComments with
    | error stop => rfl
    | ok after =>
      rw [enableComments_of_ok done]
      rfl
  | save =>
    rw [perform]
    cases done : scanner.save with
    | error error => rfl
    | ok after =>
      rcases saved_of_save done with ⟨_, rfl, _⟩
      rfl
  | restore =>
    rw [perform]
    cases done : scanner.restore with
    | error error => rfl
    | ok after => exact reserved_restore done
  | _ => exact absurd rfl readsOnly

end Scanner
end HeaderScan
