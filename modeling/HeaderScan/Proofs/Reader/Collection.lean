import HeaderScan.Proofs.Comments.Sequence
import HeaderScan.Proofs.Reader.Approach
import HeaderScan.Proofs.Reader.Requests

namespace HeaderScan

/-!
The comments of a reader, whatever is asked of it.

What is read may be read again: a lookahead can be put back, and a remembered place be gone back
to.  The comments behind such a place are then dropped if they are pending, and collected again.
So they stay whole comments in the order of the source (`Reader.comments_ascend`), as long as no
pending comment is committed behind the place to which a lookahead can be put back.  A comment that
is committed there can come to be shown twice (`Reader.shownComments_twice`).
-/

variable {source : List Char}

namespace Scanner

variable {scanner after : Scanner source}

/-! ## What a scanner has collected -/

/-- The comments lie in front of the cursor, and those that are kept when the scanner goes back lie
in front of the place to which it goes. -/
structure Collects (scanner : Scanner source) : Prop where
  cursor : LieBefore source scanner.cursor.offset scanner.comments.toList
  lookahead : ∀ lookahead, scanner.lookahead = some lookahead ->
    lookahead.before.offset ≤ scanner.cursor.offset ∧
      PartAt lookahead.before.offset scanner.comments
  saved : ∀ snapshot, scanner.saved = some snapshot ->
    LieBefore source snapshot.cursor.offset snapshot.comments.toList

theorem collects_ofSource (source : List Char) : (ofSource source).Collects where
  cursor := .nil
  lookahead _ impossible := nomatch impossible
  saved _ impossible := nomatch impossible

/-- Every pending comment begins in front of the place to which the lookahead can be put back. -/
def PendingPassed (scanner : Scanner source) : Prop :=
  scanner.lookahead.isSome = true ->
    ∀ comment ∈ scanner.comments.pending, comment.offset < scanner.position.offset

instance (scanner : Scanner source) : Decidable scanner.PendingPassed :=
  inferInstanceAs (Decidable (_ -> ∀ comment ∈ scanner.comments.pending, _))

/-! ## The operations of a scanner -/

theorem Collects.rewind (collects : scanner.Collects) : scanner.rewind.Collects := by
  cases cached : scanner.lookahead with
  | none =>
    rw [rewind_of_lookahead_none cached]
    exact collects
  | some lookahead =>
    have parted := (collects.lookahead lookahead cached).2
    unfold Scanner.rewind
    rw [cached]
    exact { collects with
      cursor := parted.lieBefore collects.cursor
      lookahead := fun _ impossible => nomatch impossible }

/-- With the lookahead put back, the cursor moves forwards. -/
theorem Collects.rewind_withCursor (collects : scanner.Collects) {cursor : Cursor source}
    (reaches : scanner.rewind.cursor.offset ≤ cursor.offset) :
    (scanner.rewind.withCursor cursor).Collects where
  cursor := collects.rewind.cursor.mono reaches
  lookahead lookahead cached := by
    have none := scanner.lookahead_rewind
    exact nomatch none.symm.trans cached
  saved := collects.rewind.saved

theorem Collects.passTrivia (collects : scanner.Collects) : scanner.passTrivia.2.Collects where
  cursor := by
    apply (scanner.lieBefore_capture false collects.cursor).mono
    exact scanner.cursor.precedes_passTrivia_afterTrivia.offset_le
  lookahead lookahead cached := by
    rcases collects.lookahead lookahead cached with ⟨behind, parted⟩
    have moved := scanner.cursor.precedes_passTrivia.offset_le
    exact ⟨Nat.le_trans behind moved, scanner.partAt_capture false behind parted⟩
  saved := collects.saved

theorem Collects.consume (collects : scanner.Collects) : scanner.consume.Collects where
  cursor := by
    unfold Scanner.consume
    simp only
    split
    · rw [Comments.toList_commit]
      exact collects.cursor
    · exact collects.cursor.sublist (scanner.comments.keepPending_sublist _)
  lookahead _ impossible := nomatch impossible
  saved := collects.saved

theorem Collects.readRawText (collects : scanner.Collects) (terminator : Char)
    (options : RawTextOptions) : (scanner.readRawText terminator options).2.Collects := by
  have atTrivia := collects.rewind.passTrivia
  unfold Scanner.readRawText
  rcases passed : scanner.rewind.passTrivia with ⟨result, after⟩
  rw [passed] at atTrivia
  cases result with
  | error error => exact atTrivia
  | ok =>
    have noLookahead : after.lookahead = none := by
      have kept := congrArg (fun result => result.2.lookahead) passed
      exact kept.symm.trans scanner.lookahead_rewind
    have moved := (after.cursor.precedes_readRawText terminator options).offset_le
    exact { atTrivia with
      cursor := atTrivia.cursor.mono moved
      lookahead := fun _ cached => nomatch noLookahead.symm.trans cached }

theorem Collects.clearComments (collects : scanner.Collects) :
    scanner.clearComments.Collects where
  cursor := collects.cursor.sublist scanner.comments.dropCommitted_sublist
  lookahead lookahead cached := by
    rcases collects.lookahead lookahead cached with ⟨behind, parted⟩
    exact ⟨behind, { parted with committed := fun _ member => nomatch member }⟩
  saved := collects.saved

theorem Collects.commitComments (collects : scanner.Collects) (passed : scanner.PendingPassed) :
    scanner.commitComments.Collects where
  cursor := by
    change LieBefore source _ scanner.comments.commit.toList
    rw [Comments.toList_commit]
    exact collects.cursor
  lookahead lookahead cached := by
    change scanner.lookahead = some lookahead at cached
    rcases collects.lookahead lookahead cached with ⟨behind, parted⟩
    have place : scanner.position.offset = lookahead.before.offset := by
      rw [position, inputCursor, cached]
      rfl
    have isSome : scanner.lookahead.isSome = true := by
      rw [cached]
      rfl
    refine ⟨behind, parted.commit ?_⟩
    rw [← place]
    exact passed isSome
  saved := collects.saved

theorem Collects.save (collects : scanner.Collects) (done : scanner.save = .ok after) :
    after.Collects := by
  have rewound := collects.rewind.cursor
  unfold Scanner.save at done
  split at done
  · cases done
  · rw [← Except.ok.inj done]
    refine { collects with saved := ?_ }
    intro snapshot isSaved
    rw [← Option.some.inj isSaved]
    unfold Scanner.rewind at rewound
    unfold inputCursor
    cases cached : scanner.lookahead with
    | none =>
      rw [cached] at rewound
      exact rewound
    | some lookahead =>
      rw [cached] at rewound
      exact rewound

theorem Collects.restore (collects : scanner.Collects) (done : scanner.restore = .ok after) :
    after.Collects := by
  unfold Scanner.restore at done
  split at done
  · cases done
  next snapshot isSaved =>
    rw [← Except.ok.inj done]
    exact ⟨collects.saved snapshot isSaved, (fun _ impossible => nomatch impossible),
      fun _ impossible => nomatch impossible⟩

theorem Collects.abandon (collects : scanner.Collects) (done : scanner.abandon = .ok after) :
    after.Collects := by
  rw [abandon_of_ok done]
  exact { collects.rewind with saved := fun _ impossible => nomatch impossible }

/-- What is recorded does not matter. -/
theorem Collects.withRecording (collects : scanner.Collects)
    (same : ∃ recording, after = { scanner with recording := recording }) : after.Collects := by
  rcases same with ⟨recording, rfl⟩
  exact { collects with }

/-- An operation that may be refused. -/
theorem Collects.attempt (collects : scanner.Collects)
    {result : Except ScanError (Scanner source)}
    (ok : ∀ after, result = .ok after -> after.Collects) :
    (scanner.attempt (result.mapError .failure)).2.Collects := by
  cases result with
  | error error => exact collects
  | ok after => exact ok after rfl

theorem Collects.enableComments (collects : scanner.Collects) :
    (scanner.attempt scanner.enableComments).2.Collects := by
  unfold Scanner.enableComments
  split
  · exact collects
  · exact { collects with }

end Scanner

/-! ## Reading tokens -/

namespace Reader

variable {reader : Reader source Conditional}

/-- Reading on to a token collects comments in front of the cursor; those that come with the token
lie behind the place in front of it. -/
structure CollectsAhead (result : Except Stop (Lookahead source) × Reader source Conditional) :
    Prop where
  cursor : LieBefore source result.2.scanner.cursor.offset result.2.scanner.comments.toList
  lookahead : ∀ lookahead, result.1 = .ok lookahead ->
    PartAt lookahead.before.offset result.2.scanner.comments

theorem lieBefore_afterToken (afterLineComment : Bool)
    (lieBefore : LieBefore source reader.scanner.cursor.offset reader.scanner.comments.toList) :
    LieBefore source (reader.afterToken afterLineComment).scanner.cursor.offset
      (reader.afterToken afterLineComment).scanner.comments.toList := by
  apply (reader.scanner.lieBefore_capture afterLineComment lieBefore).mono
  exact reader.scanner.cursor.precedes_readToken_afterTrivia.offset_le

/-- Handling a directive moves the cursor on and leaves the comments alone. -/
theorem lieBefore_handleDirective {conditional : Conditional} {cursor : Cursor source}
    {directive : Token} (attached : reader.handler = some conditional)
    (noLookahead : reader.scanner.lookahead = none)
    (precedes : cursor.Precedes reader.scanner.cursor) (liesBehind : directive.LiesBehind cursor)
    (lieBefore : LieBefore source reader.scanner.cursor.offset reader.scanner.comments.toList) :
    LieBefore source
      (reader.handleDirective conditional directive).2.scanner.cursor.offset
      (reader.handleDirective conditional directive).2.scanner.comments.toList := by
  have handling := reader.forward_handleDirective attached noLookahead precedes liesBehind
  rw [reader.comments_handleDirective noLookahead conditional directive]
  exact lieBefore.mono handling.forward.cursor.offset_le

theorem lieBefore_dropPendingIf (drops : Bool)
    (lieBefore : LieBefore source reader.scanner.cursor.offset reader.scanner.comments.toList) :
    LieBefore source (reader.dropPendingIf drops).scanner.cursor.offset
      (reader.dropPendingIf drops).scanner.comments.toList := by
  unfold dropPendingIf
  split
  · exact lieBefore.sublist reader.scanner.comments.dropPending_sublist
  · exact lieBefore

theorem collectsAhead_readToken (afterLineComment : Bool)
    (noLookahead : reader.scanner.lookahead = none)
    (lieBefore : LieBefore source reader.scanner.cursor.offset reader.scanner.comments.toList) :
    CollectsAhead (reader.readToken afterLineComment) := by
  fun_induction readToken reader afterLineComment with
  | case1 => exact ⟨lieBefore_afterToken _ lieBefore, by rintro _ ⟨⟩⟩
  | case2 reader afterLineComment after token read unhandled =>
    refine ⟨lieBefore_afterToken _ lieBefore, ?_⟩
    intro lookahead found
    rw [← Except.ok.inj found]
    exact reader.scanner.partAt_capture afterLineComment (Nat.le_refl _) lieBefore.partAt
  | case3 reader afterLineComment after token read conditional attached handled stop failed =>
    have passed := reader.forward_afterToken afterLineComment
    exact ⟨lieBefore_handleDirective (handler_of_handlerFor attached).1 noLookahead passed.cursor
      (Cursor.liesBehind_readToken read) (lieBefore_afterToken _ lieBefore), by rintro _ ⟨⟩⟩
  | case4 reader afterLineComment after token read conditional attached handled clears ok
      inductionHypothesis =>
    have isAttached := (handler_of_handlerFor attached).1
    have liesBehind := Cursor.liesBehind_readToken read
    have passed := reader.forward_afterToken afterLineComment
    have handling := after.forward_handleDirective isAttached noLookahead passed.cursor liesBehind
    have dropped := handled.2.forward_dropPendingIf clears
    apply inductionHypothesis
    · exact (handling.forward.trans dropped).keeps.lookahead.trans noLookahead
    · exact lieBefore_dropPendingIf clears (lieBefore_handleDirective isAttached noLookahead
        passed.cursor liesBehind (lieBefore_afterToken _ lieBefore))

theorem collects_peek (collects : reader.scanner.Collects) : reader.peek.2.scanner.Collects := by
  unfold peek
  cases cached : reader.scanner.lookahead with
  | some lookahead => exact collects
  | none =>
    have reads := reader.forward_readToken cached false
    have ahead := collectsAhead_readToken false cached collects.cursor
    rcases shape : reader.readToken false with ⟨result, after⟩
    rw [shape] at reads ahead
    have saved : ∀ snapshot, after.scanner.saved = some snapshot ->
        LieBefore source snapshot.cursor.offset snapshot.comments.toList := by
      rw [reads.forward.keeps.saved]
      exact collects.saved
    cases result with
    | error stop =>
      have noLookahead := reads.forward.keeps.lookahead.trans cached
      exact ⟨ahead.cursor, (fun _ some => nomatch noLookahead.symm.trans some), saved⟩
    | ok lookahead =>
      refine ⟨ahead.cursor, ?_, saved⟩
      intro other isOther
      rw [← Option.some.inj isOther]
      have moved := lookahead.before.precedes_readToken
      rw [(reads.lookahead lookahead rfl).2] at moved
      exact ⟨moved.offset_le, ahead.lookahead lookahead rfl⟩

theorem collects_next (collects : reader.scanner.Collects) : reader.next.2.scanner.Collects := by
  have peeked := collects_peek collects
  unfold next
  rcases shape : reader.peek with ⟨result, after⟩
  rw [shape] at peeked
  cases result with
  | error stop => exact peeked
  | ok token => exact peeked.consume

theorem collects_drain (collects : reader.scanner.Collects) :
    reader.drain.2.scanner.Collects := by
  fun_induction drain reader with
  | case1 => exact collects_next collects
  | case2 => exact collects_next collects
  | case3 reader after token taken first notEnd later last rest inductionHypothesis =>
    have drained := inductionHypothesis (collects_next collects)
    rw [rest] at drained
    exact drained

/-- An operation that concerns the handler as well. -/
theorem collects_attempt (collects : reader.scanner.Collects)
    {result : Except ScanError (Scanner source)}
    (ok : ∀ after, result = .ok after -> after.Collects) (handler : Option Conditional) :
    (reader.attempt (result.map fun scanner =>
      { reader with scanner := scanner, handler := handler })).2.scanner.Collects := by
  cases result with
  | error error => exact collects
  | ok after => exact ok after rfl

/-! ## Answers -/

/-- Along the requests, comments are committed only where all pending ones are passed. -/
def CommitsPassed (reader : Reader source Conditional) : List (Request Conditional) → Prop
  | [] => True
  | request :: later =>
    (∀ about, request = .command about .commitComments -> reader.scanner.PendingPassed) ∧
      (reader.answer request).reader.CommitsPassed later

theorem collects_answer (collects : reader.scanner.Collects) {request : Request Conditional}
    (passed : ∀ about, request = .command about .commitComments -> reader.scanner.PendingPassed) :
    (reader.answer request).reader.scanner.Collects := by
  cases request with
  | attach handler => exact collects
  | detach => exact collects
  | command about command =>
    cases command with
    | next => exact collects_next collects
    | peek => exact collects_peek collects
    | drain => exact collects_drain collects
    | consume => exact collects.consume
    | setLine line => exact collects.rewind_withCursor (Nat.le_refl _)
    | passTrivia => exact collects.passTrivia
    | readLine =>
      exact collects.rewind_withCursor reader.scanner.rewind.cursor.precedes_readLine.offset_le
    | readRawText terminator options => exact collects.readRawText terminator options
    | view | sourceSize | isFirst | isFirstAt | recorded => exact collects
    | clearComments => exact collects.clearComments
    | commitComments => exact collects.commitComments (passed about rfl)
    | disableComments => exact { collects with }
    | enableComments => exact collects.enableComments
    | save => exact collects_attempt collects (fun _ done => collects.save done) _
    | restore => exact collects_attempt collects (fun _ done => collects.restore done) _
    | abandon => exact collects.attempt fun _ done => collects.abandon done
    | enableRecording =>
      exact collects.attempt fun _ done =>
        collects.withRecording (Scanner.enableRecording_of_ok done)
    | disableRecording =>
      exact collects.attempt fun _ done =>
        collects.withRecording (Scanner.disableRecording_of_ok done)
    | record =>
      exact collects.attempt fun _ done => collects.withRecording (Scanner.record_of_ok done)

/-! ## Runs -/

theorem collects_run {requests : List (Request Conditional)} (collects : reader.scanner.Collects)
    (commits : reader.CommitsPassed requests) :
    ∀ answered ∈ reader.run requests, answered.reader.scanner.Collects := by
  induction requests generalizing reader with
  | nil => exact fun _ member => nomatch member
  | cons request later inductionHypothesis =>
    have first := collects_answer collects commits.1
    intro answered member
    rcases List.mem_cons.mp member with isFirst | isLater
    · rw [isFirst]
      exact first
    · exact inductionHypothesis first commits.2 answered isLater

/-- Whatever is asked of a reader, its comments are whole comments of the source in the order in
which they stand there, and none of them is shown twice, as long as pending comments are committed
only where they are passed. -/
theorem comments_ascend (handler : Option Conditional) {requests : List (Request Conditional)}
    (commits : (ofSource source handler).CommitsPassed requests) :
    ∀ answered ∈ (ofSource source handler).run requests,
      let scanner := answered.reader.scanner
      LieBefore source scanner.cursor.offset scanner.comments.toList ∧
        scanner.shownComments.Pairwise fun first second => first.offset < second.offset := by
  intro answered member
  have collects := collects_run (Scanner.collects_ofSource source) commits answered member
  refine ⟨collects.cursor, ?_⟩
  exact collects.cursor.pairwise_offset.sublist (List.sublist_append_left _ _)

/-- A comment in front of a directive, committed while the token behind the directive is looked at,
and another one that is read twice. -/
theorem comments_ascend_behind_directive :
    let source := "// a\n#if 1\nx // b\ny".toList
    let reader := ofSource source (some (Conditional.ofSymbols .initial))
    let requests : List (Request Conditional) :=
      [.command .absent .peek, .command .absent .commitComments, .command .absent .save,
        .command .absent .next, .command .absent .peek, .command .absent .restore,
        .command .absent .drain]
    reader.CommitsPassed requests ∧
      (reader.after requests).scanner.shownComments = [⟨0, "// a"⟩, ⟨13, "// b"⟩] ∧
      ∀ answered ∈ reader.run requests,
        let scanner := answered.reader.scanner
        LieBefore source scanner.cursor.offset scanner.comments.toList ∧
          scanner.shownComments.Pairwise fun first second => first.offset < second.offset := by
  intro source reader requests
  have passed : (reader.answer (.command .absent .peek)).reader.scanner.PendingPassed := by
    decide +kernel
  have commits : reader.CommitsPassed requests :=
    ⟨(fun _ never => nomatch never), (fun _ _ => passed), (fun _ never => nomatch never),
      (fun _ never => nomatch never), (fun _ never => nomatch never),
      (fun _ never => nomatch never), (fun _ never => nomatch never), trivial⟩
  exact ⟨commits, by decide +kernel, comments_ascend _ commits⟩

/-- A comment that is committed while the token behind it is looked at is collected again when the
token is put back. -/
theorem shownComments_twice :
    let reader := ofSource "// a\nx".toList (none : Option Conditional)
    let requests : List (Request Conditional) :=
      [.command .absent .peek, .command .absent .commitComments, .command .absent (.setLine 1),
        .command .absent .next]
    (reader.after requests).scanner.shownComments = [⟨0, "// a"⟩, ⟨0, "// a"⟩] := by
  decide +kernel

end Reader
end HeaderScan
