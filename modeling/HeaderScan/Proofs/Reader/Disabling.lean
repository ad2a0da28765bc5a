import HeaderScan.Proofs.Reader.Moments

namespace HeaderScan

/-!
Comments that are met while comments are disabled.

Whether a comment comes to be shown is not decided when it is met but when the token behind it is
consumed: while comments are disabled, the pending ones are then dropped.  So nothing that is done
while comments are disabled makes a comment shown (`Scanner.Changes.shows`), be it done by the
caller or by a handler in the middle of a directive.  A comment met meanwhile can be shown later,
by something that is done while comments are enabled: it is still pending then, or stands again
in front of the reader (`Reader.shownComments_of_disabled`).  That comments are enabled again
before the token behind the comment is consumed is enough (`Reader.shownComments_of_looked_at`).
-/

variable {source : List Char}

/-- What items add stands behind the place where they begin. -/
theorem CommentCapture.mem_run (capture : CommentCapture) (items : List TriviaItem)
    {comment : Comment} (member : comment ∈ (capture.run items).comments.toList) :
    comment ∈ capture.comments.toList ∨ capture.offset ≤ comment.offset := by
  induction items generalizing capture with
  | nil => exact Or.inl member
  | cons item later inductionHypothesis =>
    rcases inductionHypothesis (capture.step item) member with isOld | isBehind
    · rcases capture.comments_step item with ⟨_, same⟩ | ⟨text, kept, _, isKept, added⟩
      · rw [same] at isOld
        exact Or.inl isOld
      · rw [added, Comments.toList_push, List.mem_append, List.mem_singleton] at isOld
        rcases isOld with isOld | rfl
        · rcases isKept with rfl | rfl
          · cases isOld
          · exact Or.inl isOld
        · exact Or.inr (Nat.le_refl _)
    · rw [offset_step] at isBehind
      exact Or.inr (Nat.le_of_add_right_le isBehind)

namespace Scanner

variable {scanner after : Scanner source}

/-! ## What every step keeps -/

/-- The comments lie in order in front of the cursor, and the remembered place in front of the one
from which reading goes on. -/
structure InOrder (scanner : Scanner source) : Prop where
  collects : scanner.Collects
  remembered : ∀ snapshot, scanner.saved = some snapshot ->
    snapshot.cursor.offset ≤ scanner.position.offset

/-- The place from which reading goes on lies in front of the cursor. -/
theorem Collects.position_le (collects : scanner.Collects) :
    scanner.position.offset ≤ scanner.cursor.offset := by
  unfold position inputCursor
  cases cached : scanner.lookahead with
  | none => exact Nat.le_refl _
  | some lookahead => exact (collects.lookahead lookahead cached).1

theorem position_rewind (scanner : Scanner source) :
    scanner.rewind.position = scanner.position := by
  unfold position
  rw [inputCursor, lookahead_rewind]
  exact congrArg Cursor.position scanner.cursor_rewind

/-- A comment is shown, or is shown again when the scanner goes back. -/
def Shows (scanner : Scanner source) (comment : Comment) : Prop :=
  comment ∈ scanner.shownComments ∨
    ∃ snapshot, scanner.saved = some snapshot ∧ comment ∈ snapshot.comments.committed

/-- No comment is shown that stands behind the place from which reading goes on. -/
theorem InOrder.not_shows (inOrder : scanner.InOrder) {comment : Comment}
    (ahead : scanner.position.offset ≤ comment.offset) : ¬ scanner.Shows comment := by
  rintro (isShown | ⟨snapshot, isSaved, isCommitted⟩)
  · have isCollected := List.mem_append_left scanner.comments.pending isShown
    have nonempty := (inOrder.collects.cursor.whole comment isCollected).offset_lt_stop
    have passed : comment.stop ≤ scanner.position.offset := by
      unfold position inputCursor
      cases cached : scanner.lookahead with
      | none => exact inOrder.collects.cursor.before comment isCollected
      | some lookahead =>
        exact (inOrder.collects.lookahead lookahead cached).2.committed comment isShown
    omega
  · have collected := inOrder.collects.saved snapshot isSaved
    have isCollected := List.mem_append_left snapshot.comments.pending isCommitted
    have nonempty := (collected.whole comment isCollected).offset_lt_stop
    have passed := collected.before comment isCollected
    have remembered := inOrder.remembered snapshot isSaved
    omega

/-! ### Step by step -/

theorem Step.saved (step : Step scanner after) :
    after.saved = scanner.saved ∨ after.saved = none := by
  cases step with
  | putsBack => exact Or.inl scanner.saved_rewind
  | forgets => exact Or.inr rfl
  | _ => exact Or.inl rfl

/-- Where the lookahead stays, reading goes on from no earlier place if the cursor moves on. -/
theorem position_le_of_moves {cursor : Cursor source} {comments : Comments}
    (reaches : scanner.cursor.offset ≤ cursor.offset) :
    scanner.position.offset ≤
      { scanner with cursor := cursor, comments := comments : Scanner source }.position.offset := by
  unfold position inputCursor
  cases scanner.lookahead with
  | none => exact reaches
  | some lookahead => exact Nat.le_refl _

theorem Step.position_le (step : Step scanner after) (collects : scanner.Collects) :
    scanner.position.offset ≤ after.position.offset := by
  have passed := scanner.cursor.precedes_afterTrivia.offset_le
  cases step with
  | moves reaches => exact position_le_of_moves reaches
  | collects _ reaches => exact position_le_of_moves (Nat.le_trans passed reaches)
  | looks | consumes => exact collects.position_le
  | putsBack => exact Nat.le_of_eq (congrArg Position.offset scanner.position_rewind.symm)
  | _ => exact Nat.le_refl _

theorem Step.stillCollects (step : Step scanner after) (collects : scanner.Collects) :
    after.Collects := by
  have passed := scanner.cursor.precedes_afterTrivia.offset_le
  cases step with
  | moves reaches =>
    exact { collects with
      cursor := collects.cursor.mono reaches
      lookahead := fun lookahead cached =>
        (collects.lookahead lookahead cached).imp_left (Nat.le_trans · reaches) }
  | collects afterLineComment reaches =>
    refine ⟨(scanner.lieBefore_capture _ collects.cursor).mono reaches, ?_, collects.saved⟩
    intro lookahead cached
    rcases collects.lookahead lookahead cached with ⟨behind, parted⟩
    exact ⟨Nat.le_trans behind (Nat.le_trans passed reaches),
      scanner.partAt_capture _ behind parted⟩
  | looks afterLineComment token reaches =>
    refine ⟨(scanner.lieBefore_capture _ collects.cursor).mono reaches, ?_, collects.saved⟩
    intro lookahead isLookahead
    rw [← Option.some.inj isLookahead]
    exact ⟨Nat.le_trans passed reaches,
      scanner.partAt_capture _ (Nat.le_refl _) collects.cursor.partAt⟩
  | putsBack => exact collects.rewind
  | consumes => exact collects.consume
  | keepsPending count =>
    refine ⟨collects.cursor.sublist (scanner.comments.keepPending_sublist count), ?_,
      collects.saved⟩
    intro lookahead cached
    rcases collects.lookahead lookahead cached with ⟨behind, parted⟩
    exact ⟨behind, parted.committed, fun comment member =>
      parted.pending comment (List.mem_of_mem_take member)⟩
  | clears => exact collects.clearComments
  | records => exact { collects with }
  | forgets => exact { collects with saved := fun _ impossible => nomatch impossible }

/-- Whatever leaves the remembered place alone and does not go back keeps the order. -/
theorem InOrder.of_position_le (inOrder : scanner.InOrder) (collects : after.Collects)
    (saved : after.saved = scanner.saved ∨ after.saved = none)
    (further : scanner.position.offset ≤ after.position.offset) : after.InOrder := by
  refine ⟨collects, ?_⟩
  intro snapshot isSaved
  rcases saved with same | none
  · exact Nat.le_trans (inOrder.remembered snapshot (same.symm.trans isSaved)) further
  · cases none.symm.trans isSaved

theorem Steps.inOrder (steps : Steps scanner after) (inOrder : scanner.InOrder) :
    after.InOrder := by
  induction steps with
  | refl => exact inOrder
  | tail _ step inductionHypothesis =>
    have collects := inductionHypothesis.collects
    exact inductionHypothesis.of_position_le (step.stillCollects collects) step.saved
      (step.position_le collects)

/-! ## What makes comments shown -/

theorem mem_capture {afterLineComment : Bool} {comment : Comment}
    (member : comment ∈ (scanner.capture afterLineComment).comments.toList) :
    comment ∈ scanner.comments.toList ∨ scanner.cursor.offset ≤ comment.offset := by
  unfold capture at member
  simp only at member
  split at member
  · cases member
  · exact CommentCapture.mem_run _ _ member

/-- Reading trivia shows no comment that was not shown. -/
theorem committed_capture {afterLineComment : Bool} {comment : Comment}
    (member : comment ∈ (scanner.capture afterLineComment).comments.committed) :
    comment ∈ scanner.comments.committed := by
  rcases capture_adds scanner.cursor afterLineComment with ⟨drops, added, collected⟩
  rw [collected scanner rfl] at member
  cases drops with
  | true => cases member
  | false => exact member

theorem comments_rewind (scanner : Scanner source) :
    scanner.rewind.comments = scanner.comments ∨
      scanner.rewind.comments = scanner.comments.dropPending := by
  unfold rewind
  split
  · exact Or.inl rfl
  · exact Or.inr rfl

theorem committed_rewind (scanner : Scanner source) :
    scanner.rewind.comments.committed = scanner.comments.committed := by
  rcases scanner.comments_rewind with same | dropped
  · rw [same]
  · rw [dropped]
    rfl

/-- While comments are disabled, no step shows a comment that was not shown. -/
theorem Step.committed (step : Step scanner after) (isDisabled : 0 < scanner.disabled)
    {comment : Comment} (member : comment ∈ after.shownComments) :
    comment ∈ scanner.shownComments := by
  cases step with
  | collects | looks => exact committed_capture member
  | putsBack =>
    rw [shownComments, committed_rewind] at member
    exact member
  | consumes =>
    rw [shownComments, consume, if_neg (Nat.ne_of_gt isDisabled)] at member
    exact member
  | clears => cases member
  | _ => exact member

theorem Step.shows (step : Step scanner after) (isDisabled : 0 < scanner.disabled)
    {comment : Comment} (shows : after.Shows comment) : scanner.Shows comment := by
  rcases shows with isShown | ⟨snapshot, isSaved, isCommitted⟩
  · exact Or.inl (step.committed isDisabled isShown)
  · rcases step.saved with same | none
    · exact Or.inr ⟨snapshot, same.symm.trans isSaved, isCommitted⟩
    · cases none.symm.trans isSaved

theorem Steps.shows (steps : Steps scanner after) (isDisabled : 0 < scanner.disabled)
    {comment : Comment} (shows : after.Shows comment) : scanner.Shows comment := by
  induction steps with
  | refl => exact shows
  | tail early step inductionHypothesis =>
    refine inductionHypothesis (step.shows ?_ shows)
    rw [(Steps.disabled_reserved early).1]
    exact isDisabled

/-- The comments that are there were known, or stand behind a place, as does all that is still to
be read. -/
structure BringsBehind (place : Nat) (known : Comment → Prop) (scanner : Scanner source) :
    Prop where
  cursor : place ≤ scanner.cursor.offset
  lookahead : ∀ lookahead, scanner.lookahead = some lookahead -> place ≤ lookahead.before.offset
  comments : ∀ comment ∈ scanner.comments.toList, known comment ∨ place ≤ comment.offset

theorem Collects.bringsBehind (collects : scanner.Collects) :
    BringsBehind scanner.position.offset (· ∈ scanner.comments.toList) scanner where
  cursor := collects.position_le
  lookahead lookahead cached := by
    rw [position, inputCursor, cached]
    exact Nat.le_refl _
  comments _ member := Or.inl member

variable {place : Nat} {known : Comment → Prop}

theorem BringsBehind.capture (brings : BringsBehind place known scanner) {afterLineComment : Bool}
    {comment : Comment}
    (member : comment ∈ (scanner.capture afterLineComment).comments.toList) :
    known comment ∨ place ≤ comment.offset := by
  rcases mem_capture member with isOld | isBehind
  · exact brings.comments comment isOld
  · exact Or.inr (Nat.le_trans brings.cursor isBehind)

/-- Fewer comments are no new ones. -/
theorem BringsBehind.sublist (brings : BringsBehind place known scanner) {fewer : List Comment}
    (sublist : List.Sublist fewer scanner.comments.toList) :
    ∀ comment ∈ fewer, known comment ∨ place ≤ comment.offset :=
  fun comment member => brings.comments comment (sublist.subset member)

theorem Step.bringsBehind (step : Step scanner after)
    (brings : BringsBehind place known scanner) : BringsBehind place known after := by
  have passed := scanner.cursor.precedes_afterTrivia.offset_le
  cases step with
  | moves reaches => exact { brings with cursor := Nat.le_trans brings.cursor reaches }
  | collects _ reaches =>
    exact { brings with
      cursor := Nat.le_trans brings.cursor (Nat.le_trans passed reaches)
      comments := fun _ member => brings.capture member }
  | looks _ _ reaches =>
    refine ⟨Nat.le_trans brings.cursor (Nat.le_trans passed reaches), ?_,
      fun _ member => brings.capture member⟩
    intro lookahead isLookahead
    rw [← Option.some.inj isLookahead]
    exact brings.cursor
  | putsBack =>
    refine ⟨?_, ?_, ?_⟩
    · rw [cursor_rewind, inputCursor]
      split
      next lookahead cached => exact brings.lookahead lookahead cached
      · exact brings.cursor
    · intro lookahead isLookahead
      cases scanner.lookahead_rewind.symm.trans isLookahead
    · rcases scanner.comments_rewind with same | dropped
      · rw [same]
        exact brings.comments
      · rw [dropped]
        exact brings.sublist scanner.comments.dropPending_sublist
  | consumes =>
    refine ⟨brings.cursor, by rintro _ ⟨⟩, ?_⟩
    unfold consume
    simp only
    split
    · rw [Comments.toList_commit]
      exact brings.comments
    · exact brings.sublist (scanner.comments.keepPending_sublist _)
  | keepsPending count =>
    exact { brings with comments := brings.sublist (scanner.comments.keepPending_sublist count) }
  | clears =>
    exact { brings with comments := brings.sublist scanner.comments.dropCommitted_sublist }
  | records | forgets => exact { brings with }

theorem Steps.bringsBehind (steps : Steps scanner after)
    (brings : BringsBehind place known scanner) : BringsBehind place known after := by
  induction steps with
  | refl => exact brings
  | tail _ step inductionHypothesis => exact step.bringsBehind inductionHypothesis

theorem Steps.saved (steps : Steps scanner after) :
    after.saved = scanner.saved ∨ after.saved = none := by
  induction steps with
  | refl => exact Or.inl rfl
  | tail _ step inductionHypothesis =>
    rcases step.saved with same | none
    · rw [same]
      exact inductionHypothesis
    · exact Or.inr none

/-! ## Saving and going back -/

theorem InOrder.save (inOrder : scanner.InOrder) (done : scanner.save = .ok after) :
    after.InOrder := by
  refine ⟨inOrder.collects.save done, ?_⟩
  rcases saved_of_save done with ⟨comments, rfl, _⟩
  intro snapshot isSaved
  rw [← Option.some.inj isSaved]
  exact Nat.le_refl _

theorem shows_of_save (done : scanner.save = .ok after) {comment : Comment}
    (shows : after.Shows comment) : scanner.Shows comment := by
  rcases saved_of_save done with ⟨comments, rfl, same⟩
  rcases shows with isShown | ⟨snapshot, isSaved, isCommitted⟩
  · exact Or.inl isShown
  · rw [← Option.some.inj isSaved] at isCommitted
    change comment ∈ comments.committed at isCommitted
    rw [same] at isCommitted
    exact Or.inl isCommitted

theorem InOrder.restore (inOrder : scanner.InOrder) (done : scanner.restore = .ok after) :
    after.InOrder := by
  refine ⟨inOrder.collects.restore done, ?_⟩
  unfold Scanner.restore at done
  split at done
  · cases done
  · rw [← Except.ok.inj done]
    exact fun _ impossible => nomatch impossible

theorem shows_of_restore (done : scanner.restore = .ok after) {comment : Comment}
    (shows : after.Shows comment) : scanner.Shows comment := by
  unfold Scanner.restore at done
  split at done
  · cases done
  next snapshot isSaved =>
    rw [← Except.ok.inj done] at shows
    rcases shows with isShown | ⟨_, impossible, _⟩
    · exact Or.inr ⟨snapshot, isSaved, isShown⟩
    · cases impossible

/-! ## Changes -/

theorem Changes.inOrder (changes : scanner.Changes after) (inOrder : scanner.InOrder) :
    after.InOrder := by
  cases changes with
  | steps steps => exact steps.inOrder inOrder
  | reserves count same | disables same =>
    rw [same]
    exact ⟨{ inOrder.collects with }, inOrder.remembered⟩
  | enables done =>
    rw [enableComments_of_ok done]
    exact ⟨{ inOrder.collects with }, inOrder.remembered⟩
  | saves done => exact inOrder.save done
  | restores done => exact inOrder.restore done

/-- Only steps show a comment that was not shown. -/
theorem Changes.shows_or_steps (changes : scanner.Changes after) {comment : Comment}
    (shows : after.Shows comment) : scanner.Shows comment ∨ Steps scanner after := by
  cases changes with
  | steps steps => exact Or.inr steps
  | reserves count same | disables same =>
    rw [same] at shows
    exact Or.inl shows
  | enables done =>
    rw [enableComments_of_ok done] at shows
    exact Or.inl shows
  | saves done => exact Or.inl (shows_of_save done shows)
  | restores done => exact Or.inl (shows_of_restore done shows)

/-- While comments are disabled, nothing shows a comment that was not shown. -/
theorem Changes.shows (changes : scanner.Changes after) (isDisabled : 0 < scanner.disabled)
    {comment : Comment} (shows : after.Shows comment) : scanner.Shows comment := by
  rcases changes.shows_or_steps shows with shows | steps
  · exact shows
  · exact steps.shows isDisabled shows

/-- A comment that comes to be shown was pending, or stood in front of the reader. -/
theorem Changes.brings (changes : scanner.Changes after) (collects : scanner.Collects)
    {comment : Comment} (hidden : ¬ scanner.Shows comment) (shows : after.Shows comment) :
    comment ∈ after.shownComments ∧
      (comment ∈ scanner.comments.pending ∨ scanner.position.offset ≤ comment.offset) := by
  rcases changes.shows_or_steps shows with showed | steps
  · exact absurd showed hidden
  have isShown : comment ∈ after.shownComments := by
    rcases shows with isShown | ⟨snapshot, isSaved, isCommitted⟩
    · exact isShown
    · rcases steps.saved with same | none
      · exact absurd (Or.inr ⟨snapshot, same.symm.trans isSaved, isCommitted⟩) hidden
      · cases none.symm.trans isSaved
  refine ⟨isShown, ?_⟩
  have brings := steps.bringsBehind collects.bringsBehind
  rcases brings.comments comment (List.mem_append_left _ isShown) with isOld | isBehind
  · rcases List.mem_append.mp isOld with isCommitted | isPending
    · exact absurd (Or.inl isCommitted) hidden
    · exact Or.inl isPending
  · exact Or.inr isBehind

end Scanner

/-! ## Runs -/

/-- By an operation a comment comes to be shown.  Comments are enabled in front of the operation,
and the comment is pending there or stands in front of the reader. -/
structure Scanner.ComesToShow (enabled : Scanner source) (comment : Comment)
    (showing : Scanner source) : Prop where
  isEnabled : enabled.disabled = 0
  hidden : comment ∉ enabled.shownComments
  isShown : comment ∈ showing.shownComments
  origin : comment ∈ enabled.comments.pending ∨ enabled.position.offset ≤ comment.offset

namespace Reader

variable {σ : Type} [DirectiveHandler σ] [ActsByCommands σ]

/-- Nobody commits the pending comments in the course of a run. -/
def NoneCommits (reader : Reader source σ) (requests : List (Request σ)) : Prop :=
  ∀ moment ∈ reader.moments requests, moment.operation.commits = false

instance (reader : Reader source σ) (requests : List (Request σ)) :
    Decidable (reader.NoneCommits requests) :=
  inferInstanceAs (Decidable (∀ moment ∈ reader.moments requests, _))

variable {handler : Option σ} {requests : List (Request σ)}

/-- From every moment to the next one leads a change, if nobody commits. -/
theorem changes_course (noneCommits : (ofSource source handler).NoneCommits requests) {time : Nat}
    {earlier later : Moment source}
    (isEarlier : ((ofSource source handler).course requests)[time]? = some earlier)
    (isLater : ((ofSource source handler).course requests)[time + 1]? = some later) :
    earlier.scanner.Changes later.scanner := by
  have noCommit : later.operation.commits = false := by
    rw [course, List.getElem?_cons_succ] at isLater
    exact noneCommits later (List.mem_of_getElem? isLater)
  exact (follows_course rfl isEarlier isLater).changes noCommit

theorem exists_earlier {course : List (Moment source)} {time : Nat} {later : Moment source}
    (isLater : course[time + 1]? = some later) : ∃ earlier, course[time]? = some earlier := by
  have within := (List.getElem?_eq_some_iff.mp isLater).1
  exact ⟨course[time], List.getElem?_eq_getElem (Nat.lt_of_succ_lt within)⟩

theorem inOrder_course (noneCommits : (ofSource source handler).NoneCommits requests) {time : Nat}
    {moment : Moment source}
    (isMoment : ((ofSource source handler).course requests)[time]? = some moment) :
    moment.scanner.InOrder := by
  induction time generalizing moment with
  | zero =>
    rw [← Option.some.inj isMoment]
    exact ⟨Scanner.collects_ofSource source, fun _ impossible => nomatch impossible⟩
  | succ time inductionHypothesis =>
    rcases exists_earlier isMoment with ⟨earlier, isEarlier⟩
    exact (changes_course noneCommits isEarlier isMoment).inOrder (inductionHypothesis isEarlier)

/-- A comment that is not shown comes to be shown while comments are enabled, by an operation in
front of which it is pending or stands in front of the reader. -/
theorem exists_showing (noneCommits : (ofSource source handler).NoneCommits requests)
    {comment : Comment} {time later : Nat} (isLater : time ≤ later)
    {moment returned : Moment source}
    (isMoment : ((ofSource source handler).course requests)[time]? = some moment)
    (hidden : ¬ moment.scanner.Shows comment)
    (isReturned : ((ofSource source handler).course requests)[later]? = some returned)
    (shows : returned.scanner.Shows comment) :
    ∃ between enabled showing, time ≤ between ∧ between < later ∧
      ((ofSource source handler).course requests)[between]? = some enabled ∧
      ((ofSource source handler).course requests)[between + 1]? = some showing ∧
      enabled.scanner.ComesToShow comment showing.scanner := by
  induction later, isLater using Nat.le_induction generalizing returned with
  | base =>
    rw [Option.some.inj (isMoment.symm.trans isReturned)] at hidden
    exact absurd shows hidden
  | succ later isLater inductionHypothesis =>
    rcases exists_earlier isReturned with ⟨earlier, isEarlier⟩
    by_cases showed : earlier.scanner.Shows comment
    · rcases inductionHypothesis isEarlier showed with
        ⟨between, enabled, showing, behind, before, found⟩
      exact ⟨between, enabled, showing, behind, Nat.lt_succ_of_lt before, found⟩
    · have changes := changes_course noneCommits isEarlier isReturned
      have collects := (inOrder_course noneCommits isEarlier).collects
      rcases changes.brings collects showed shows with ⟨isShown, origin⟩
      have isEnabled : earlier.scanner.disabled = 0 := by
        by_contra notEnabled
        exact showed (changes.shows (Nat.pos_of_ne_zero notEnabled) shows)
      exact ⟨later, earlier, returned, isLater, Nat.lt_succ_self later, isEarlier, isReturned,
        isEnabled, fun wasShown => showed (Or.inl wasShown), isShown, origin⟩

/-- An operation in front of which comments are disabled shows no comment that stands in front of
the reader, nor does it leave any pending if the caller consumes a token by it.  If the comment is
shown at a later time, it comes to be shown in between while comments are enabled, and it is still
pending then or stands again in front of the reader. -/
theorem shownComments_of_disabled (handler : Option σ) {requests : List (Request σ)}
    (noneCommits : (ofSource source handler).NoneCommits requests) {time : Nat}
    {met passed : Moment source}
    (isMet : ((ofSource source handler).course requests)[time]? = some met)
    (isPassed : ((ofSource source handler).course requests)[time + 1]? = some passed)
    (isDisabled : 0 < met.scanner.disabled) {comment : Comment}
    (ahead : met.scanner.position.offset ≤ comment.offset) :
    let course := (ofSource source handler).course requests
    course.getLast?.map Moment.scanner = some ((ofSource source handler).after requests).scanner ∧
      comment ∉ passed.scanner.shownComments ∧
      (passed.operation = .asked .consume -> passed.scanner.comments.pending = []) ∧
      ∀ later returned, time < later -> course[later]? = some returned ->
        comment ∈ returned.scanner.shownComments ->
        ∃ between enabled showing, time < between ∧ between < later ∧
          course[between]? = some enabled ∧ course[between + 1]? = some showing ∧
          enabled.scanner.ComesToShow comment showing.scanner := by
  intro course
  have hidden : ¬ passed.scanner.Shows comment := by
    intro shows
    have showed := (changes_course noneCommits isMet isPassed).shows isDisabled shows
    exact (inOrder_course noneCommits isMet).not_shows ahead showed
  refine ⟨(leads_moments rfl requests).getLast? .reading, fun isShown => hidden (Or.inl isShown),
    ?_, ?_⟩
  · intro consumes
    rcases (follows_course rfl isMet isPassed).consumes consumes with ⟨noneReserved, same⟩
    rw [same, Scanner.consume, if_neg (Nat.ne_of_gt isDisabled), noneReserved]
    rfl
  · intro later returned isLater isReturned isShown
    exact exists_showing noneCommits isLater isPassed hidden isReturned (Or.inl isShown)

/-- A handler disables comments, looks at a token and enables comments again.  The comment in front
of the token is shown when the caller consumes another one. -/
theorem shownComments_of_disabled_in_directive :
    let step : Script.Step :=
      ⟨[.readLine, .disableComments, .peek, .enableComments], none, .including⟩
    let reader := ofSource "#x\n// b\ny\nz".toList (some (Script.ofSteps [step]))
    let requests : List (Request Script) := [.command .absent .next]
    let course := reader.course requests
    let comment : Comment := ⟨3, "// b"⟩
    ∃ met passed returned, course[4]? = some met ∧ course[5]? = some passed ∧
      course[10]? = some returned ∧ reader.NoneCommits requests ∧ 0 < met.scanner.disabled ∧
      met.scanner.position.offset ≤ comment.offset ∧
      comment ∈ passed.scanner.comments.pending ∧ comment ∈ returned.scanner.shownComments ∧
      comment ∉ passed.scanner.shownComments ∧
      ∃ between enabled showing, 4 < between ∧ between < 10 ∧
        course[between]? = some enabled ∧ course[between + 1]? = some showing ∧
        enabled.scanner.ComesToShow comment showing.scanner := by
  intro step reader requests course comment
  have noneCommits : reader.NoneCommits requests := by decide +kernel
  have meets : course[4]?.any (fun met => 0 < met.scanner.disabled &&
      met.scanner.position.offset ≤ comment.offset) = true := by
    decide +kernel
  have passes : course[5]?.any (fun passed => comment ∈ passed.scanner.comments.pending) =
      true := by
    decide +kernel
  have returns : course[10]?.any (fun returned => comment ∈ returned.scanner.shownComments) =
      true := by
    decide +kernel
  simp only [Option.any_eq_true, Bool.and_eq_true, decide_eq_true_eq] at meets passes returns
  rcases meets with ⟨met, isMet, isDisabled, ahead⟩
  rcases passes with ⟨passed, isPassed, isPending⟩
  rcases returns with ⟨returned, isReturned, isShown⟩
  rcases shownComments_of_disabled _ noneCommits isMet isPassed isDisabled ahead with
    ⟨_, notShown, _, comes⟩
  exact ⟨met, passed, returned, isMet, isPassed, isReturned, noneCommits, isDisabled, ahead,
    isPending, isShown, notShown, comes 10 returned (by decide) isReturned isShown⟩

/-- A comment that is met while comments are disabled is shown when they are enabled again before
its token is consumed; the reader does not go back meanwhile. -/
theorem shownComments_of_looked_at :
    let reader := (ofSource "// a\nx".toList (none : Option Conditional)).after
      [.command .absent .disableComments]
    let met := reader.after [.command .absent .peek]
    let later : List (Request Conditional) :=
      [.command .absent .enableComments, .command .absent .consume]
    let comment : Comment := ⟨0, "// a"⟩
    reader.scanner.disabled = 1 ∧ reader.scanner.comments.toList = [] ∧
      met.scanner.disabled = 1 ∧ met.scanner.comments.pending = [comment] ∧
      (∀ answered ∈ met.run later, answered.reader.scanner.cursor.offset = 6) ∧
      met.scanner.cursor.offset = 6 ∧
      (met.after later).scanner.shownComments = [comment] := by
  decide +kernel

end Reader
end HeaderScan
