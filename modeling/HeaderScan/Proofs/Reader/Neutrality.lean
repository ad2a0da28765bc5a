import HeaderScan.Proofs.Reader.Requests

namespace HeaderScan

/-!
What is left of a directive when it has been handled.

While a directive is handled, the pending comments are reserved; while the code that it excludes is
passed, comments are disabled as well, and an error at any token of that code can put an end to it.
However it ends, the scanner behind the directive is the one in front of it with its cursor moved
on, and a handler is attached again (`Reader.handleDirective_neutral`).
-/

namespace Reader

variable {source : List Char} (reader : Reader source Conditional) (conditional : Conditional)

/-- What is left of a scanner when a directive behind it has been handled: only the cursor has moved
on, and nothing stays reserved; a handler is attached, no finding is lost, and nothing but an error
of the source puts an end to it. -/
structure Leaves (scanner : Scanner source) (findings : List Diagnostic)
    (handled : Except Stop Bool × Reader source Conditional) : Prop where
  reader : ∃ place next found, scanner.cursor.Precedes place ∧
    handled.2 =
      { scanner := { scanner with cursor := place, reserved := 0 }
        handler := some next
        findings := findings ++ found }
  stop : ∀ stop, handled.1 = .error stop -> ∃ error, stop = .failure error

/-- A scanner that has reserved its pending comments and moved on. -/
theorem Leaves.of_reserved {scanner : Scanner source} {place : Cursor source}
    {findings : List Diagnostic} {handled : Except Stop Bool × Reader source Conditional}
    (moves : scanner.cursor.Precedes place)
    (leaves : Leaves (scanner.reservePending.withCursor place) findings handled) :
    Leaves scanner findings handled where
  reader := by
    rcases leaves.reader with ⟨last, next, found, precedes, same⟩
    exact ⟨last, next, found, moves.trans precedes, same⟩
  stop := leaves.stop

/-- Passing excluded code leaves a scanner whose pending comments are all reserved as it was, but
for its cursor: no comments are collected, and they are enabled as often as they were disabled. -/
theorem leaves_passExcluded {scanner : Scanner source} (noLookahead : scanner.lookahead = none)
    (reserved : scanner.reserved = scanner.comments.pending.length) (outcome : Outcome) :
    Leaves scanner reader.findings (reader.passExcluded conditional scanner outcome) := by
  let exclusion := Exclusion.run conditional scanner.disableComments outcome.checksContent
    .nothing
  have forward := Exclusion.forward_run conditional scanner.disableComments noLookahead
    outcome.checksContent .nothing
  rcases forward.moved with ⟨place, precedes, moved⟩
  have enabled : (scanner.disableComments.withCursor place).enableComments =
      .ok (scanner.withCursor place) := rfl
  have kept : scanner.comments.keepPending scanner.reserved = scanner.comments := by
    rw [reserved, Comments.keepPending, List.take_length]
  have resumed : ∀ comments, comments = scanner.comments ->
      reader.resume exclusion.handler
          { scanner.withCursor place with comments := comments } exclusion.findings =
        { scanner := { scanner with cursor := place, reserved := 0 }
          handler := some exclusion.handler
          findings := reader.findings ++ exclusion.findings } := by
    rintro _ rfl
    rfl
  unfold passExcluded
  simp only [moved, enabled]
  refine ⟨⟨place, _, _, precedes, resumed _ kept⟩, ?_⟩
  intro stop stopped
  cases result : exclusion.result with
  | ok =>
    rw [result] at stopped
    cases stopped
  | error other =>
    rw [result] at stopped
    rcases forward.stop other result with ⟨error, isFailure, _⟩
    exact ⟨error, (Except.error.inj stopped).symm.trans isFailure⟩

/-- Handling a directive moves the cursor on, changes the handler and may add findings. -/
theorem leaves_handleDirective (noLookahead : reader.scanner.lookahead = none)
    (directive : Token) :
    Leaves reader.scanner reader.findings (reader.handleDirective conditional directive) := by
  have forward := conditional.forward_handle reader.scanner.reservePending noLookahead directive
    .included
  have behindText := Directive.precedes_readText reader.scanner.cursor
  rcases handled : DirectiveHandler.handle conditional reader.scanner.reservePending directive
    .included with ⟨result, next, scanner⟩
  rw [handled] at forward
  have moved : scanner = reader.scanner.reservePending.withCursor
      (Directive.readText reader.scanner.cursor).2 := forward.moved
  subst moved
  cases result with
  | error stop =>
    rw [handleDirective_of_error handled]
    refine ⟨⟨_, next, [], behindText, rfl⟩, ?_⟩
    intro other stopped
    exact ⟨_, (Except.error.inj stopped).symm.trans (forward.stop stop rfl)⟩
  | ok outcome =>
    rw [handleDirective_of_ok handled]
    split
    · exact ⟨⟨_, next, [], behindText, rfl⟩, fun _ => nofun⟩
    · refine .of_reserved behindText (reader.leaves_passExcluded next ?_ rfl outcome)
      exact noLookahead

/-- Whatever becomes of a directive, its text or any token of the code that it excludes, behind it
the scanner has the same comments, committed and pending, which are disabled as often as before,
the same remembered place, no lookahead and the same recording; none of the comments stay reserved,
a handler is attached, and no finding is lost. -/
theorem handleDirective_neutral (noLookahead : reader.scanner.lookahead = none)
    (directive : Token) :
    let handled := reader.handleDirective conditional directive
    (∃ place next found, reader.scanner.cursor.Precedes place ∧
      handled.2 =
        { scanner := { reader.scanner with cursor := place, reserved := 0 }
          handler := some next
          findings := reader.findings ++ found }) ∧
      ∀ stop, handled.1 = .error stop -> ∃ error, stop = .failure error :=
  let leaves := reader.leaves_handleDirective conditional noLookahead directive
  ⟨leaves.reader, leaves.stop⟩

/-- An error within two regions of excluded code, while comments are disabled, a place is remembered
and tokens are recorded. -/
theorem handleDirective_neutral_behind_failure :
    let source := "// a\n#if 0\nUCLASS // b\n#if 1\n'".toList
    let conditional := Conditional.ofSymbols .initial
    let requests : List (Request Conditional) :=
      [.command .absent .enableRecording, .command .absent .save, .command .absent .disableComments]
    let reader := ((ofSource source (some conditional)).after requests).afterToken false
    let sign : Token := ⟨.symbol, ⟨5, 6⟩, 2, 2, ⟨0, 1⟩, "#"⟩
    let handled := reader.handleDirective conditional.save sign
    reader.scanner.lookahead = none ∧ reader.handlerFor sign = some conditional.save ∧
      reader.scanner.comments = ⟨[], [⟨0, "// a"⟩]⟩ ∧ handled.1.isOk = false ∧
      handled.2.findings.length = 1 ∧
      (∃ place next found, reader.scanner.cursor.Precedes place ∧
        handled.2 =
          { scanner := { reader.scanner with cursor := place, reserved := 0 }
            handler := some next
            findings := reader.findings ++ found }) ∧
      ∀ stop, handled.1 = .error stop -> ∃ error, stop = .failure error := by
  intro source conditional requests reader sign handled
  have noLookahead : reader.scanner.lookahead = none :=
    Option.isNone_iff_eq_none.mp (by decide +kernel)
  have neutral := reader.handleDirective_neutral conditional.save noLookahead sign
  exact ⟨noLookahead, by decide +kernel, by decide +kernel, by decide +kernel, by decide +kernel,
    neutral⟩

end Reader
end HeaderScan
