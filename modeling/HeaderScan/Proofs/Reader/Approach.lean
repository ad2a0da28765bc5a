import HeaderScan.Proofs.Comments.Addition
import HeaderScan.Proofs.Reader.Neutrality

namespace HeaderScan

/-!
Looking at a token, remembering the place, and going back to it.

The reader remembers the place in front of the trivia of the token that it has looked at, behind
all directives before the token, and trusts that reading on from there finds the token and its
comments again.  The token it always finds.  The comments it finds if none were pending when the
trivia of the token began (`Reader.next_behind_return`); pending comments in front of that place
are lost (`Reader.shownComments_behind_return_lost`).
-/

namespace Reader

variable {source : List Char} {σ : Type} [DirectiveHandler σ]

/-! ## The place in front of a token -/

/-- The reader in front of the trivia of the next token, behind all directives before it, and
whether a line comment is remembered there. -/
def approach (reader : Reader source σ) (afterLineComment : Bool) : Reader source σ × Bool :=
  match _read : (reader.scanner.readToken afterLineComment).1 with
  | .error _ => (reader, afterLineComment)
  | .ok token =>
    match _attached : reader.handlerFor token with
    | none => (reader, afterLineComment)
    | some handler =>
      let handled := (reader.afterToken afterLineComment).handleDirective handler token
      match handled.1 with
      | .error _ => (reader, afterLineComment)
      | .ok clears =>
        approach (handled.2.dropPendingIf clears)
          ((reader.scanner.capture afterLineComment).afterLineComment && !clears)
termination_by reader.weight
decreasing_by
  have attached := handler_of_handlerFor _attached
  have moved := effort_afterToken_lt _read attached.2
  apply weight_lt
  rw [effort_dropPendingIf]
  apply Effort.lt_of_le_of_lt (effort_handleDirective_le _ _ _)
  simpa [effort, afterToken, withScanner, attached.1] using moved

variable {reader after : Reader source σ} {afterLineComment : Bool} {token : Token}
  {lookahead : Lookahead source}

theorem approach_of_handlerFor_none (read : reader.scanner.cursor.readToken.1 = .ok token)
    (unhandled : reader.handlerFor token = none) :
    reader.approach afterLineComment = (reader, afterLineComment) := by
  rw [approach]
  split
  next failed => rfl
  next other isOther =>
    have same := Except.ok.inj (read.symm.trans isOther)
    subst same
    split
    · rfl
    next attached => exact nomatch unhandled.symm.trans attached

theorem approach_of_handlerFor {handler : σ} {clears : Bool}
    (read : reader.scanner.cursor.readToken.1 = .ok token)
    (attached : reader.handlerFor token = some handler)
    (handled : ((reader.afterToken afterLineComment).handleDirective handler token).1 =
      .ok clears) :
    reader.approach afterLineComment =
      approach
        (((reader.afterToken afterLineComment).handleDirective handler token).2.dropPendingIf
          clears)
        ((reader.scanner.capture afterLineComment).afterLineComment && !clears) := by
  rw [approach]
  split
  next failed => exact nomatch read.symm.trans failed
  next other isOther =>
    have same := Except.ok.inj (read.symm.trans isOther)
    subst same
    split
    next unhandled => exact nomatch attached.symm.trans unhandled
    next other isHandler =>
      have same := Option.some.inj (attached.symm.trans isHandler)
      subst same
      simp only [handled]

/-- A token is read in one step from the reader in front of it, which no handler takes over. -/
structure IsInFront (front : Reader source σ) (afterLineComment : Bool)
    (lookahead : Lookahead source) (after : Reader source σ) : Prop where
  read : front.scanner.cursor.readToken.1 = .ok lookahead.token
  unhandled : front.handlerFor lookahead.token = none
  place : front.scanner.cursor = lookahead.before
  after : front.afterToken afterLineComment = after

theorem isInFront_approach (found : reader.readToken afterLineComment = (.ok lookahead, after)) :
    (reader.approach afterLineComment).1.IsInFront (reader.approach afterLineComment).2 lookahead
      after := by
  fun_induction readToken reader afterLineComment with
  | case1 => cases (Prod.mk.inj found).1
  | case2 reader afterLineComment passed token read unhandled =>
    have approached : reader.approach afterLineComment = (reader, afterLineComment) :=
      approach_of_handlerFor_none read unhandled
    have same := Prod.mk.inj found
    rw [approached, ← Except.ok.inj same.1]
    exact ⟨read, unhandled, rfl, same.2⟩
  | case3 => cases (Prod.mk.inj found).1
  | case4 reader afterLineComment passed token read handler attached handled clears ok
      inductionHypothesis =>
    rw [approach_of_handlerFor read attached ok]
    exact inductionHypothesis found

/-! ## The comments in front of a token -/

/-- Where a token is read, no comment is left open in front of it. -/
theorem capture_of_readToken (scanner : Scanner source) (afterLineComment : Bool)
    (read : scanner.cursor.readToken.1 = .ok token) :
    scanner.capture afterLineComment =
      CommentCapture.run ⟨scanner.comments, scanner.cursor.offset, afterLineComment, false⟩
        (Trivia.read scanner.cursor.rest) := by
  rw [Scanner.capture]
  apply if_neg
  intro isOpen
  rw [Cursor.readToken_of_hasOpenComment isOpen] at read
  cases read

/-- A conditional handler leaves the comments in front of a directive alone. -/
theorem comments_handleDirective (reader : Reader source Conditional)
    (noLookahead : reader.scanner.lookahead = none) (conditional : Conditional)
    (directive : Token) :
    (reader.handleDirective conditional directive).2.scanner.comments =
      reader.scanner.comments := by
  rcases (reader.leaves_handleDirective conditional noLookahead directive).reader with
    ⟨_, _, _, _, left⟩
  rw [left]

/-- A line comment that is remembered in front of a token is still pending there. -/
theorem holdsLineComment_approach {reader : Reader source Conditional} {afterLineComment : Bool}
    (noLookahead : reader.scanner.lookahead = none)
    (holds : afterLineComment = true -> reader.scanner.comments.pending ≠ []) :
    (reader.approach afterLineComment).2 = true ->
      (reader.approach afterLineComment).1.scanner.comments.pending ≠ [] := by
  fun_induction approach reader afterLineComment with
  | case1 => exact holds
  | case2 => exact holds
  | case3 => exact holds
  | case4 reader afterLineComment token read handler attached handled clears ok
      inductionHypothesis =>
    have passed := reader.forward_afterToken afterLineComment
    have handling := (reader.afterToken afterLineComment).forward_handleDirective
      (handler_of_handlerFor attached).1 noLookahead passed.cursor
      (Cursor.liesBehind_readToken read)
    have dropped := handled.2.forward_dropPendingIf clears
    have kept : handled.2.scanner.comments =
        (reader.scanner.capture afterLineComment).comments :=
      comments_handleDirective (reader.afterToken afterLineComment) noLookahead handler token
    have captured : (reader.scanner.capture afterLineComment).HoldsLineComment := by
      have before : CommentCapture.HoldsLineComment
          ⟨reader.scanner.comments, reader.scanner.cursor.offset, afterLineComment, false⟩ := holds
      rw [capture_of_readToken reader.scanner afterLineComment read]
      exact before.run _
    apply inductionHypothesis
    · have moved := (passed.trans handling.forward).trans dropped
      exact moved.keeps.lookahead.trans noLookahead
    · -- A directive that drops the comments makes their lines be forgotten too.
      intro remembered
      rw [Bool.and_eq_true, Bool.not_eq_true'] at remembered
      rw [remembered.2]
      change handled.2.scanner.comments.pending ≠ []
      rw [kept]
      exact captured remembered.1

/-! ## Going back to a token -/

variable {reader : Reader source Conditional} {token : Token} {lookahead : Lookahead source}

theorem peek_of_readToken_ok {after : Reader source Conditional}
    (noLookahead : reader.scanner.lookahead = none)
    (found : reader.readToken false = (.ok lookahead, after)) :
    reader.peek =
      (.ok lookahead.token,
        after.withScanner { after.scanner with lookahead := some lookahead }) := by
  rw [peek, noLookahead]
  simp only [found]

theorem next_of_readToken_ok {after : Reader source Conditional}
    (noLookahead : reader.scanner.lookahead = none)
    (found : reader.readToken false = (.ok lookahead, after)) :
    reader.next =
      (.ok lookahead.token,
        after.withScanner
          (Scanner.consume { after.scanner with lookahead := some lookahead })) := by
  rw [next, peek_of_readToken_ok noLookahead found]
  rfl

/-- The reader that has looked at a token, remembered the place and gone back to it: it stands in
front of the trivia of the token, without any pending comments. -/
def returned (after : Reader source Conditional) (lookahead : Lookahead source) :
    Reader source Conditional where
  scanner :=
    { after.scanner with
      cursor := lookahead.before
      lookahead := none
      comments := after.scanner.comments.dropPending
      saved := none }
  handler := after.handler.map fun conditional => conditional.save.restore
  findings := after.findings

theorem restore_of_peek {after : Reader source Conditional}
    (notSaved : after.scanner.saved = none) (lookahead : Lookahead source) :
    (after.withScanner { after.scanner with lookahead := some lookahead }).save.bind restore =
      .ok (after.returned lookahead) := by
  rw [save, Scanner.save]
  simp only [withScanner, notSaved, Option.isSome_some, if_true]
  change Reader.restore _ = _
  rw [restore, Scanner.restore, returned]
  simp only [Option.map_map]
  rfl

/-- Looked at again, the token is the same, and no handler takes it over. -/
theorem readToken_returned {front after : Reader source Conditional} {afterLineComment : Bool}
    (inFront : front.IsInFront afterLineComment lookahead after) :
    (after.returned lookahead).readToken false =
      (.ok lookahead, (after.returned lookahead).afterToken false) := by
  have read : (after.returned lookahead).scanner.cursor.readToken.1 = .ok lookahead.token := by
    change lookahead.before.readToken.1 = _
    rw [← inFront.place]
    exact inFront.read
  have unhandled : (after.returned lookahead).handlerFor lookahead.token = none := by
    have unhandled := inFront.unhandled
    rw [returned, ← inFront.after]
    unfold handlerFor at unhandled ⊢
    split at unhandled
    next begins =>
      rw [if_pos begins]
      exact Option.map_eq_none_iff.mpr unhandled
    next noDirective => rw [if_neg noDirective]
  rw [readToken_of_handlerFor_none read unhandled]
  rfl

/-- Without comments pending in front of its trivia, a token is read again with all its comments. -/
theorem scanner_afterToken_returned {front after : Reader source Conditional}
    (inFront : front.IsInFront false lookahead after)
    (nonePending : front.scanner.comments.pending = [])
    (noLookahead : after.scanner.lookahead = none) (notSaved : after.scanner.saved = none) :
    ((after.returned lookahead).afterToken false).scanner = after.scanner := by
  rcases Scanner.capture_adds lookahead.before false with ⟨drops, added, collected⟩
  have cursor : lookahead.before.readToken.2 = after.scanner.cursor := by
    rw [← inFront.after, ← inFront.place]
    rfl
  have comments : after.scanner.comments = front.scanner.comments.adding drops added := by
    rw [← inFront.after]
    exact collected front.scanner inFront.place
  have again : ((after.returned lookahead).scanner.capture false).comments =
      after.scanner.comments := by
    rw [collected (after.returned lookahead).scanner rfl]
    change after.scanner.comments.dropPending.adding drops added = after.scanner.comments
    rw [comments]
    exact Comments.adding_dropPending nonePending drops added
  have whole : ∀ scanner : Scanner source, scanner.lookahead = none -> scanner.saved = none ->
      { scanner with
        cursor := scanner.cursor
        lookahead := none
        comments := scanner.comments
        saved := none } = scanner := by
    rintro ⟨⟩ rfl rfl
    rfl
  calc ((after.returned lookahead).afterToken false).scanner
      = { after.scanner with
          cursor := lookahead.before.readToken.2
          lookahead := none
          comments := ((after.returned lookahead).scanner.capture false).comments
          saved := none } := rfl
    _ = _ := by rw [cursor, again, whole after.scanner noLookahead notSaved]

/-- A reader that looks at a token, remembers the place and goes back to it takes the same token
next as if it had not, and stands at the same directives.  It is left the same altogether, its
comments included, if no comment was pending in front of the trivia of the token. -/
theorem next_behind_return (noLookahead : reader.scanner.lookahead = none)
    (notSaved : reader.scanner.saved = none) (peeked : reader.peek.1 = .ok token) :
    ∃ returned, reader.peek.2.save.bind restore = .ok returned ∧
      returned.next.1 = .ok token ∧ reader.next.1 = .ok token ∧
      returned.next.2.handler.map Conditional.state =
        reader.next.2.handler.map Conditional.state ∧
      returned.next.2.findings = reader.next.2.findings ∧
      ((reader.approach false).1.scanner.comments.pending = [] ->
        returned.next.2.scanner = reader.next.2.scanner) := by
  rcases shape : reader.readToken false with ⟨result, after⟩
  cases result with
  | error stop =>
    rw [peek, noLookahead] at peeked
    simp only [shape] at peeked
    cases peeked
  | ok lookahead =>
    have forward := (reader.forward_readToken noLookahead false).forward
    rw [shape] at forward
    have inFront := isInFront_approach shape
    have again := readToken_returned inFront
    have isToken : lookahead.token = token := by
      rw [peek_of_readToken_ok noLookahead shape] at peeked
      exact Except.ok.inj peeked
    rw [peek_of_readToken_ok noLookahead shape, next_of_readToken_ok noLookahead shape]
    refine ⟨after.returned lookahead, restore_of_peek (forward.keeps.saved.trans notSaved) _, ?_⟩
    rw [next_of_readToken_ok rfl again, isToken]
    refine ⟨rfl, rfl, ?_, rfl, ?_⟩
    · change (after.handler.map fun conditional => conditional.save.restore).map
        Conditional.state = after.handler.map Conditional.state
      rw [Option.map_map]
      rfl
    · intro nonePending
      have forgotten : (reader.approach false).2 = false := by
        apply Bool.eq_false_iff.mpr
        intro remembered
        exact holdsLineComment_approach noLookahead
          (fun never => absurd never Bool.false_ne_true) remembered nonePending
      rw [forgotten] at inFront
      have same := scanner_afterToken_returned inFront nonePending
        (forward.keeps.lookahead.trans noLookahead) (forward.keeps.saved.trans notSaved)
      change Scanner.consume { ((after.returned lookahead).afterToken false).scanner with
        lookahead := some lookahead } = _
      rw [same]
      rfl

/-- A comment behind a directive and in front of the token. -/
theorem next_behind_return_behind_directive :
    let source := "#if 1\n// a\nx".toList
    let reader := ofSource source (some (Conditional.ofSymbols .initial))
    reader.scanner.lookahead = none ∧ reader.scanner.saved = none ∧
      reader.peek.1.toOption.isSome = true ∧
      (reader.approach false).1.scanner.comments.pending = [] ∧
      ∃ returned, reader.peek.2.save.bind restore = .ok returned ∧
        returned.next.2.scanner.shownComments = [⟨6, "// a"⟩] := by
  intro source reader
  have succeeds : reader.peek.1.toOption.isSome = true := by decide +kernel
  have nonePending : (reader.approach false).1.scanner.comments.pending = [] := by decide +kernel
  have shown : reader.next.2.scanner.shownComments = [⟨6, "// a"⟩] := by decide +kernel
  refine ⟨rfl, rfl, succeeds, nonePending, ?_⟩
  cases peeked : reader.peek.1 with
  | error stop =>
    rw [peeked] at succeeds
    cases succeeds
  | ok token =>
    rcases next_behind_return rfl rfl peeked with ⟨returned, isReturned, _, _, _, _, same⟩
    exact ⟨returned, isReturned, by rw [same nonePending, shown]⟩

/-- A comment in front of a directive is lost when the reader goes back to the token behind it. -/
theorem shownComments_behind_return_lost :
    let source := "// a\n#if 1\nx".toList
    let reader := ofSource source (some (Conditional.ofSymbols .initial))
    reader.scanner.lookahead = none ∧ reader.scanner.saved = none ∧
      reader.scanner.disabled = 0 ∧ reader.peek.1.toOption.isSome = true ∧
      reader.next.2.scanner.shownComments = [⟨0, "// a"⟩] ∧
      (reader.peek.2.save.bind restore).toOption.map
        (fun returned => returned.next.2.scanner.shownComments) = some [] := by
  intro source reader
  exact ⟨rfl, rfl, rfl, by decide +kernel, by decide +kernel, by decide +kernel⟩

end Reader
end HeaderScan
