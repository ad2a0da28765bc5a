import HeaderScan.Scanner.Basic

namespace HeaderScan

/-!
What the trivia in front of a token add to the comments.

What is added does not depend on what had been collected: the trivia may drop all of that, and they
bring comments of their own.  They bring the same ones when they are read again, provided that a
line comment in front of them is remembered or forgotten both times.
-/

namespace Comments

/-- The comments after some were added, with those from before dropped or not. -/
def adding (comments : Comments) (drops : Bool) (added : List Comment) : Comments :=
  if drops then ⟨[], added⟩ else { comments with pending := comments.pending ++ added }

theorem adding_adding (comments : Comments) (drops dropsMore : Bool) (added more : List Comment) :
    (comments.adding drops added).adding dropsMore more =
      comments.adding (drops || dropsMore) (if dropsMore then more else added ++ more) := by
  cases drops <;> cases dropsMore <;> simp [adding]

/-- What was added on top of no pending comments is there again when it is dropped and added once
more. -/
theorem adding_dropPending {comments : Comments} (nonePending : comments.pending = [])
    (drops : Bool) (added : List Comment) :
    (comments.adding drops added).dropPending.adding drops added = comments.adding drops added := by
  cases drops <;> simp [adding, dropPending, nonePending]

end Comments

namespace CommentCapture

theorem step_adds (capture : CommentCapture) (item : TriviaItem) :
    ∃ drops added, ∀ comments : Comments,
      step { capture with comments := comments } item =
        { capture.step item with comments := comments.adding drops added } := by
  cases item with
  | blank | newline => exact ⟨false, [], fun comments => by simp [step, Comments.adding]⟩
  | lineComment text ended =>
    refine ⟨capture.afterGap, [⟨capture.offset, String.ofList (withoutReturn text)⟩], ?_⟩
    intro comments
    cases gap : capture.afterGap <;>
      simp [step, Comments.adding, Comments.push, Comments.empty, gap]
  | blockComment text =>
    exact ⟨true, [⟨capture.offset, String.ofList text⟩], fun comments => rfl⟩

/-- What items add is the same whatever had been collected. -/
theorem run_adds (capture : CommentCapture) (items : List TriviaItem) :
    ∃ drops added, ∀ comments : Comments,
      run { capture with comments := comments } items =
        { capture.run items with comments := comments.adding drops added } := by
  induction items generalizing capture with
  | nil => exact ⟨false, [], fun comments => by simp [run, Comments.adding]⟩
  | cons item later inductionHypothesis =>
    rcases capture.step_adds item with ⟨drops, added, stepped⟩
    rcases inductionHypothesis (capture.step item) with ⟨dropsMore, more, collected⟩
    refine ⟨drops || dropsMore, if dropsMore then more else added ++ more, ?_⟩
    intro comments
    calc run { capture with comments := comments } (item :: later)
        = run (step { capture with comments := comments } item) later := rfl
      _ = run { capture.step item with comments := comments.adding drops added } later := by
          rw [stepped]
      _ = { capture.run (item :: later) with
            comments := (comments.adding drops added).adding dropsMore more } := collected _
      _ = _ := by rw [Comments.adding_adding]

/-- A line comment that is remembered is still pending. -/
def HoldsLineComment (capture : CommentCapture) : Prop :=
  capture.afterLineComment = true -> capture.comments.pending ≠ []

theorem HoldsLineComment.step {capture : CommentCapture} (holds : capture.HoldsLineComment)
    (item : TriviaItem) : (capture.step item).HoldsLineComment := by
  cases item with
  | blank | newline => exact holds
  | lineComment | blockComment =>
    exact fun _ => List.append_ne_nil_of_right_ne_nil _ (List.cons_ne_nil _ _)

theorem HoldsLineComment.run {capture : CommentCapture} (holds : capture.HoldsLineComment)
    (items : List TriviaItem) : (capture.run items).HoldsLineComment := by
  induction items generalizing capture with
  | nil => exact holds
  | cons item later inductionHypothesis => exact inductionHypothesis (holds.step item)

end CommentCapture

namespace Scanner

variable {source : List Char}

/-- What the trivia at a cursor add is the same for every scanner that stands there. -/
theorem capture_adds (cursor : Cursor source) (afterLineComment : Bool) :
    ∃ drops added, ∀ scanner : Scanner source, scanner.cursor = cursor ->
      (scanner.capture afterLineComment).comments = scanner.comments.adding drops added := by
  by_cases isOpen : cursor.hasOpenComment = true
  · refine ⟨true, [], ?_⟩
    rintro scanner rfl
    rw [capture, if_pos isOpen]
    rfl
  · rcases CommentCapture.run_adds ⟨.empty, cursor.offset, afterLineComment, false⟩
      (Trivia.read cursor.rest) with ⟨drops, added, collected⟩
    refine ⟨drops, added, ?_⟩
    rintro scanner rfl
    rw [capture, if_neg isOpen]
    exact congrArg CommentCapture.comments (collected scanner.comments)

end Scanner
end HeaderScan
