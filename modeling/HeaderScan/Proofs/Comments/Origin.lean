import HeaderScan.Proofs.Cursor.Forward

namespace HeaderScan

/-!
Where comments come from.

Every comment that is collected is a piece of the source, from its offset on.  Committing and
dropping comments adds none, so that this stays so.
-/

variable {source : List Char}

/-- A comment is a piece of a source, from its offset on. -/
def Comment.IsFrom (source : List Char) (comment : Comment) : Prop :=
  Text.slice? source comment.offset (comment.offset + Text.byteLength comment.text.toList) =
    some comment.text.toList

/-- What stands at a cursor makes a comment that is a piece of the source. -/
theorem Comment.isFrom_of_isPrefix (cursor : Cursor source) {text : List Char}
    (isFront : text <+: cursor.rest) :
    IsFrom source ⟨cursor.offset, String.ofList text⟩ := by
  have isTaken := List.prefix_iff_eq_take.mp isFront
  have isSlice := cursor.slice?_advance text.length
  rw [Cursor.offset_advance, ← isTaken] at isSlice
  unfold IsFrom
  rw [String.toList_ofList]
  exact isSlice

namespace Comments

/-- All comments are pieces of a source. -/
def AreFrom (source : List Char) (comments : Comments) : Prop :=
  ∀ comment ∈ comments.toList, comment.IsFrom source

variable {comments : Comments}

theorem areFrom_empty (source : List Char) : empty.AreFrom source :=
  fun _ member => nomatch member

theorem AreFrom.push (areFrom : comments.AreFrom source) {comment : Comment}
    (isFrom : comment.IsFrom source) : (comments.push comment).AreFrom source := by
  intro other member
  rw [toList_push, List.mem_append, List.mem_singleton] at member
  rcases member with isOld | rfl
  · exact areFrom other isOld
  · exact isFrom

theorem AreFrom.commit (areFrom : comments.AreFrom source) : comments.commit.AreFrom source := by
  intro comment member
  rw [toList_commit] at member
  exact areFrom comment member

theorem AreFrom.keepPending (areFrom : comments.AreFrom source) (count : Nat) :
    (comments.keepPending count).AreFrom source := by
  intro comment member
  refine areFrom comment (List.mem_append.mpr ?_)
  exact (List.mem_append.mp member).imp id List.mem_of_mem_take

theorem AreFrom.dropPending (areFrom : comments.AreFrom source) :
    comments.dropPending.AreFrom source := by
  intro comment member
  refine areFrom comment (List.mem_append.mpr ?_)
  exact (List.mem_append.mp member).imp id fun impossible => nomatch impossible

theorem AreFrom.dropCommitted (areFrom : comments.AreFrom source) :
    comments.dropCommitted.AreFrom source := by
  intro comment member
  refine areFrom comment (List.mem_append.mpr ?_)
  exact (List.mem_append.mp member).imp (fun impossible => nomatch impossible) id

/-! ### One list with a mark

The comments can as well be kept in one list, with a mark behind those that are committed. -/

/-- The mark lies within the list. -/
theorem length_committed_le (comments : Comments) :
    comments.committed.length ≤ comments.toList.length := by
  rw [toList, List.length_append]
  exact Nat.le_add_right _ _

theorem take_committed (comments : Comments) :
    comments.toList.take comments.committed.length = comments.committed :=
  List.take_left

theorem toList_keepPending (comments : Comments) (count : Nat) :
    (comments.keepPending count).toList =
      comments.toList.take (comments.committed.length + count) := by
  rw [toList, toList, List.take_length_add_append]
  rfl

theorem toList_dropPending (comments : Comments) :
    comments.dropPending.toList = comments.toList.take comments.committed.length := by
  rw [take_committed, toList]
  exact List.append_nil _

theorem toList_dropCommitted (comments : Comments) :
    comments.dropCommitted.toList = comments.toList.drop comments.committed.length := by
  rw [toList, toList, List.drop_left]
  rfl

end Comments

namespace CommentCapture

theorem withoutReturn_isPrefix (text : List Char) : withoutReturn text <+: text := by
  unfold withoutReturn
  split
  · exact List.dropLast_prefix text
  · exact List.prefix_rfl

/-- An item at a cursor adds no comment but one that stands there. -/
theorem areFrom_step (capture : CommentCapture) (item : TriviaItem) (cursor : Cursor source)
    (place : capture.offset = cursor.offset) (isFront : item.chars <+: cursor.rest)
    (areFrom : capture.comments.AreFrom source) : (capture.step item).comments.AreFrom source := by
  cases item with
  | blank | newline => exact areFrom
  | lineComment text ended =>
    have textIsFront : text <+: cursor.rest := (List.prefix_append _ _).trans isFront
    have isFrom := Comment.isFrom_of_isPrefix cursor
      ((withoutReturn_isPrefix text).trans textIsFront)
    simp only [step, place]
    split
    · exact (Comments.areFrom_empty source).push isFrom
    · exact areFrom.push isFrom
  | blockComment text =>
    have isFrom := Comment.isFrom_of_isPrefix cursor isFront
    simp only [step, place]
    exact (Comments.areFrom_empty source).push isFrom

theorem offset_step (capture : CommentCapture) (item : TriviaItem) :
    (capture.step item).offset = capture.offset + Text.byteLength item.chars := by
  cases item <;> rfl

theorem areFrom_run (items : List TriviaItem) (capture : CommentCapture) (cursor : Cursor source)
    (place : capture.offset = cursor.offset) (isFront : Trivia.chars items <+: cursor.rest)
    (areFrom : capture.comments.AreFrom source) : (capture.run items).comments.AreFrom source := by
  induction items generalizing capture cursor with
  | nil => exact areFrom
  | cons item later inductionHypothesis =>
    have whole : item.chars ++ Trivia.chars later <+: cursor.rest := isFront
    have itemIsFront : item.chars <+: cursor.rest := (List.prefix_append _ _).trans whole
    have isTaken := List.prefix_iff_eq_take.mp itemIsFront
    refine inductionHypothesis (capture.step item) (cursor.advance item.chars.length) ?_ ?_
      (capture.areFrom_step item cursor place itemIsFront areFrom)
    · rw [offset_step, place, Cursor.offset_advance, ← isTaken]
    · rw [Cursor.rest_advance]
      rcases whole with ⟨back, shape⟩
      rw [← shape, List.append_assoc, List.drop_left]
      exact List.prefix_append _ _

end CommentCapture

/-- Reading trivia collects pieces of the source only. -/
theorem Scanner.areFrom_capture (scanner : Scanner source) (afterLineComment : Bool)
    (areFrom : scanner.comments.AreFrom source) :
    (scanner.capture afterLineComment).comments.AreFrom source := by
  have collected := CommentCapture.areFrom_run (Trivia.read scanner.cursor.rest)
    ⟨scanner.comments, scanner.cursor.offset, afterLineComment, false⟩ scanner.cursor rfl
    (Trivia.read_isPrefix _) areFrom
  unfold capture
  simp only
  split
  · exact Comments.areFrom_empty source
  · exact collected

end HeaderScan
