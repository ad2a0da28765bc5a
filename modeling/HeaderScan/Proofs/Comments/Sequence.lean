import HeaderScan.Proofs.Comments.Origin
import HeaderScan.Proofs.Trivia.Gap

namespace HeaderScan

/-!
Collected comments as a sequence.

The comments that are collected in the trivia at a cursor are whole comments of the source, each
behind the one before it and all of them in front of the cursor.  `LieBefore` says so of a list of
comments, and `Scanner.lieBefore_capture` that reading trivia keeps it while the cursor moves on.
-/

variable {source : List Char}

/-- A whole comment, given what comes behind it: a line comment without the end of its line, which
may have a carriage return in front of its line feed, or a block comment with both of its marks. -/
inductive IsComment : List Char → List Char → Prop
  | line {body back later : List Char} (noFeed : '\n' ∉ body)
      (isReturn : back = ['\r'] ∨ back = [] ∧ body.getLast? ≠ some '\r')
      (lineEnds : later = [] ∨ later.head? = some '\n') :
      IsComment ('/' :: '/' :: body) (back ++ later)
  | block {body later : List Char} (noMark : ¬ ['*', '/'] <:+: body ++ ['*']) :
      IsComment ('/' :: '*' :: (body ++ ['*', '/'])) later

namespace Comment

/-- The offset behind a comment. -/
def stop (comment : Comment) : Nat :=
  comment.offset + Text.byteLength comment.text.toList

/-- A comment is the whole comment that stands at its offset in the source. -/
def IsWholeIn (source : List Char) (comment : Comment) : Prop :=
  ∃ front later, source = front ++ (comment.text.toList ++ later) ∧
    Text.byteLength front = comment.offset ∧ IsComment comment.text.toList later

theorem IsWholeIn.offset_lt_stop {comment : Comment} (whole : comment.IsWholeIn source) :
    comment.offset < comment.stop := by
  rcases whole with ⟨front, later, _, _, isComment⟩
  have nonempty : comment.text.toList ≠ [] := by
    intro isNil
    rw [isNil] at isComment
    cases isComment
  have positive := List.length_pos_iff.mpr nonempty
  have bytes := Text.length_le_byteLength comment.text.toList
  unfold stop
  omega

/-- What stands at a cursor and is a whole comment there. -/
theorem isWholeIn_of_rest (cursor : Cursor source) {text later : List Char}
    (rest : cursor.rest = text ++ later) (isComment : IsComment text later) :
    IsWholeIn source ⟨cursor.offset, String.ofList text⟩ := by
  refine ⟨cursor.passed.reverse, later, ?_, ?_, ?_⟩
  · rw [String.toList_ofList, ← rest]
    exact cursor.passed_append_rest.symm
  · rw [Text.byteLength_reverse]
    exact cursor.offset_eq.symm
  · rw [String.toList_ofList]
    exact isComment

end Comment

/-! ## Comments in front of a place -/

/-- Comments of a source in the order in which they stand there, none of which reaches into
another or beyond a place. -/
structure LieBefore (source : List Char) (place : Nat) (comments : List Comment) : Prop where
  whole : ∀ comment ∈ comments, comment.IsWholeIn source
  ascending : comments.Pairwise fun first second => first.stop ≤ second.offset
  before : ∀ comment ∈ comments, comment.stop ≤ place

namespace LieBefore

variable {place further : Nat} {comments part : List Comment}

theorem nil : LieBefore source place [] where
  whole _ member := nomatch member
  ascending := List.Pairwise.nil
  before _ member := nomatch member

theorem mono (lieBefore : LieBefore source place comments) (reaches : place ≤ further) :
    LieBefore source further comments :=
  { lieBefore with
    before := fun comment member => Nat.le_trans (lieBefore.before comment member) reaches }

theorem sublist (lieBefore : LieBefore source place comments)
    (sublist : List.Sublist part comments) : LieBefore source place part where
  whole comment member := lieBefore.whole comment (sublist.subset member)
  ascending := lieBefore.ascending.sublist sublist
  before comment member := lieBefore.before comment (sublist.subset member)

/-- One more comment, from the place on. -/
theorem concat (lieBefore : LieBefore source place comments) {comment : Comment}
    (whole : comment.IsWholeIn source) (behind : place ≤ comment.offset) :
    LieBefore source comment.stop (comments ++ [comment]) where
  whole other member := by
    rcases List.mem_append.mp member with isOld | isNew
    · exact lieBefore.whole other isOld
    · rw [List.mem_singleton.mp isNew]
      exact whole
  ascending := by
    rw [List.pairwise_append]
    refine ⟨lieBefore.ascending, List.pairwise_singleton _ _, ?_⟩
    intro other isOld last isNew
    rw [List.mem_singleton.mp isNew]
    exact Nat.le_trans (lieBefore.before other isOld) behind
  before other member := by
    rcases List.mem_append.mp member with isOld | isNew
    · have inFront := Nat.le_trans (lieBefore.before other isOld) behind
      exact Nat.le_trans inFront (Nat.le_of_lt whole.offset_lt_stop)
    · rw [List.mem_singleton.mp isNew]

/-- The offsets ascend, so that no comment is there twice. -/
theorem pairwise_offset (lieBefore : LieBefore source place comments) :
    comments.Pairwise fun first second => first.offset < second.offset := by
  apply lieBefore.ascending.imp_of_mem
  intro first second isFirst _ apart
  exact Nat.lt_of_lt_of_le (lieBefore.whole first isFirst).offset_lt_stop apart

end LieBefore

/-- A place at which the comments part: the committed ones are in front of it, and the pending ones
on either side. -/
structure PartAt (place : Nat) (comments : Comments) : Prop where
  committed : ∀ comment ∈ comments.committed, comment.stop ≤ place
  pending : ∀ comment ∈ comments.pending, comment.stop ≤ place ∨ place ≤ comment.offset

/-! ### Operations on the comments -/

namespace Comments

variable (comments : Comments)

theorem keepPending_sublist (count : Nat) :
    List.Sublist (comments.keepPending count).toList comments.toList := by
  rw [toList_keepPending]
  exact List.take_sublist _ _

theorem dropPending_sublist : List.Sublist comments.dropPending.toList comments.toList := by
  rw [toList_dropPending]
  exact List.take_sublist _ _

theorem dropCommitted_sublist : List.Sublist comments.dropCommitted.toList comments.toList := by
  rw [toList_dropCommitted]
  exact List.drop_sublist _ _

end Comments

/-! ### Parting -/

variable {place : Nat} {comments : Comments}

theorem LieBefore.partAt (lieBefore : LieBefore source place comments.toList) :
    PartAt place comments where
  committed comment member := lieBefore.before comment (List.mem_append_left _ member)
  pending comment member := Or.inl (lieBefore.before comment (List.mem_append_right _ member))

/-- Without the pending comments, they lie in front of the place. -/
theorem PartAt.lieBefore {further : Nat} (parted : PartAt place comments)
    (lieBefore : LieBefore source further comments.toList) :
    LieBefore source place comments.dropPending.toList :=
  { lieBefore.sublist comments.dropPending_sublist with
    before := by
      rw [Comments.toList_dropPending, Comments.take_committed]
      exact parted.committed }

theorem PartAt.empty (place : Nat) : PartAt place .empty where
  committed _ member := nomatch member
  pending _ member := nomatch member

/-- One more comment, behind the place. -/
theorem PartAt.push (parted : PartAt place comments) {comment : Comment}
    (behind : place ≤ comment.offset) : PartAt place (comments.push comment) where
  committed := parted.committed
  pending other member := by
    rcases List.mem_append.mp member with isOld | isNew
    · exact parted.pending other isOld
    · rw [List.mem_singleton.mp isNew]
      exact Or.inr behind

/-- Comments that begin in front of the place may be committed. -/
theorem PartAt.commit (parted : PartAt place comments)
    (inFront : ∀ comment ∈ comments.pending, comment.offset < place) :
    PartAt place comments.commit where
  committed comment member := by
    rcases List.mem_append.mp member with isCommitted | isPending
    · exact parted.committed comment isCommitted
    · rcases parted.pending comment isPending with passed | ahead
      · exact passed
      · exact absurd (inFront comment isPending) (Nat.not_lt_of_ge ahead)
  pending _ member := nomatch member

/-! ## Collecting -/

namespace TriviaItem

/-- The text of the comment that an item is, if it is one. -/
def comment? : TriviaItem → Option (List Char)
  | blank _ | newline => none
  | lineComment line _ => some (CommentCapture.withoutReturn line)
  | blockComment block => some block

/-- A line without its carriage return is a whole comment, given what then comes behind it. -/
theorem isComment_withoutReturn {body later : List Char} (noFeed : '\n' ∉ body)
    (lineEnds : later = [] ∨ later.head? = some '\n') :
    ∃ back, '/' :: '/' :: body = CommentCapture.withoutReturn ('/' :: '/' :: body) ++ back ∧
      IsComment (CommentCapture.withoutReturn ('/' :: '/' :: body)) (back ++ later) := by
  by_cases isReturn : body.getLast? = some '\r'
  · rcases List.getLast?_eq_some_iff.mp isReturn with ⟨inner, rfl⟩
    have cut : CommentCapture.withoutReturn ('/' :: '/' :: (inner ++ ['\r'])) =
        '/' :: '/' :: inner := by
      change CommentCapture.withoutReturn (('/' :: '/' :: inner) ++ ['\r']) = _
      rw [CommentCapture.withoutReturn, if_pos List.getLast?_concat, List.dropLast_concat]
    rw [cut]
    refine ⟨['\r'], rfl, .line ?_ (Or.inl rfl) lineEnds⟩
    exact fun member => noFeed (List.mem_append_left _ member)
  · have noReturn : ('/' :: '/' :: body).getLast? ≠ some '\r' := by
      cases body with
      | nil => decide
      | cons c rest => simpa using isReturn
    have whole : CommentCapture.withoutReturn ('/' :: '/' :: body) = '/' :: '/' :: body :=
      if_neg noReturn
    rw [whole]
    exact ⟨[], (List.append_nil _).symm, .line noFeed (Or.inr ⟨rfl, isReturn⟩) lineEnds⟩

/-- A comment that is read is a whole one. -/
theorem isComment_of_first? {text comment : List Char} {item : TriviaItem}
    (found : first? text = some item) (isComment : item.comment? = some comment) :
    ∃ later, text = comment ++ later ∧ IsComment comment later := by
  unfold first? at found
  split at found
  case h_5 rest =>
    rcases Option.map_eq_some_iff.mp found with ⟨body, isBody, rfl⟩
    rw [← Option.some.inj isComment]
    rcases blockBody?_isPrefix isBody with ⟨later, rfl⟩
    rcases closed_of_blockBody? isBody with ⟨inner, noMark, rfl⟩
    exact ⟨later, rfl, .block noMark⟩
  case h_6 rest =>
    rw [← Option.some.inj found] at isComment
    rcases readLineComment_cases rest with ⟨body, noFeed, ⟨later, rfl⟩ | rfl⟩
    · rw [readLineComment_of_ended noFeed] at isComment
      rw [← Option.some.inj isComment]
      rcases isComment_withoutReturn noFeed (Or.inr rfl : _ ∨ ('\n' :: later).head? = some '\n')
        with ⟨back, joined, whole⟩
      refine ⟨back ++ '\n' :: later, ?_, whole⟩
      rw [← List.append_assoc, ← joined]
      rfl
    · rw [readLineComment_of_last noFeed] at isComment
      rw [← Option.some.inj isComment]
      rcases isComment_withoutReturn noFeed (Or.inl rfl : ([] : List Char) = [] ∨ _)
        with ⟨back, joined, whole⟩
      exact ⟨back ++ [], by rw [List.append_nil, ← joined], whole⟩
  case h_7 => cases found
  all_goals
    rw [← Option.some.inj found] at isComment
    cases isComment

theorem comment?_isPrefix {item : TriviaItem} {comment : List Char}
    (isComment : item.comment? = some comment) : comment <+: item.chars := by
  cases item with
  | blank | newline => cases isComment
  | lineComment line ended =>
    rw [← Option.some.inj isComment]
    exact (CommentCapture.withoutReturn_isPrefix line).trans (List.prefix_append _ _)
  | blockComment block =>
    rw [← Option.some.inj isComment]
    exact List.prefix_rfl

end TriviaItem

namespace CommentCapture

/-- What an item adds: nothing, or its comment to all comments or to none. -/
theorem comments_step (capture : CommentCapture) (item : TriviaItem) :
    (item.comment? = none ∧ (capture.step item).comments = capture.comments) ∨
      ∃ comment kept, item.comment? = some comment ∧
        (kept = Comments.empty ∨ kept = capture.comments) ∧
        (capture.step item).comments = kept.push ⟨capture.offset, String.ofList comment⟩ := by
  cases item with
  | blank | newline => exact Or.inl ⟨rfl, rfl⟩
  | lineComment line ended =>
    refine Or.inr ⟨_, _, rfl, ?_, rfl⟩
    split
    · exact Or.inl rfl
    · exact Or.inr rfl
  | blockComment block => exact Or.inr ⟨_, _, rfl, Or.inl rfl, rfl⟩

/-- An item at a cursor keeps the comments in order and in front of what comes next. -/
theorem lieBefore_step (capture : CommentCapture) {item : TriviaItem} (cursor : Cursor source)
    (place : capture.offset = cursor.offset) (found : TriviaItem.first? cursor.rest = some item)
    (lieBefore : LieBefore source capture.offset capture.comments.toList) :
    LieBefore source (capture.step item).offset (capture.step item).comments.toList := by
  rw [offset_step]
  rcases capture.comments_step item with ⟨_, same⟩ | ⟨comment, kept, isComment, isKept, added⟩
  · rw [same]
    exact lieBefore.mono (Nat.le_add_right _ _)
  · have keptLieBefore : LieBefore source capture.offset kept.toList := by
      rcases isKept with rfl | rfl
      · exact LieBefore.nil
      · exact lieBefore
    rcases TriviaItem.isComment_of_first? found isComment with ⟨later, rest, isWhole⟩
    have whole := Comment.isWholeIn_of_rest cursor rest isWhole
    rw [← place] at whole
    rw [added, Comments.toList_push]
    apply (keptLieBefore.concat whole (Nat.le_refl _)).mono
    rcases TriviaItem.comment?_isPrefix isComment with ⟨back, joined⟩
    unfold Comment.stop
    rw [String.toList_ofList, ← joined, Text.byteLength_append, ← Nat.add_assoc]
    exact Nat.le_add_right _ _

/-- Items take the offset with them. -/
theorem offset_run (capture : CommentCapture) (items : List TriviaItem) :
    (capture.run items).offset = capture.offset + Text.byteLength (Trivia.chars items) := by
  induction items generalizing capture with
  | nil => rfl
  | cons item later inductionHypothesis =>
    have stepped := inductionHypothesis (capture.step item)
    rw [offset_step, Nat.add_assoc, ← Text.byteLength_append] at stepped
    exact stepped

theorem lieBefore_run (capture : CommentCapture) (cursor : Cursor source)
    (place : capture.offset = cursor.offset)
    (lieBefore : LieBefore source capture.offset capture.comments.toList) :
    LieBefore source (capture.run (Trivia.read cursor.rest)).offset
      (capture.run (Trivia.read cursor.rest)).comments.toList := by
  generalize rest : cursor.rest = text
  fun_induction Trivia.read text generalizing capture cursor with
  | case1 => exact lieBefore
  | case2 text item found inductionHypothesis =>
    subst rest
    have stepped := capture.lieBefore_step cursor place found lieBefore
    have isTaken := List.prefix_iff_eq_take.mp (TriviaItem.first?_isPrefix found)
    refine inductionHypothesis (capture.step item) (cursor.advance item.chars.length) ?_ stepped rfl
    rw [offset_step, place, Cursor.offset_advance, ← isTaken]

/-- What items add stands behind the place where they begin. -/
theorem partAt_run (capture : CommentCapture) (items : List TriviaItem) {place : Nat}
    (behind : place ≤ capture.offset) (parted : PartAt place capture.comments) :
    PartAt place (capture.run items).comments := by
  induction items generalizing capture with
  | nil => exact parted
  | cons item later inductionHypothesis =>
    apply inductionHypothesis (capture.step item)
    · rw [offset_step]
      exact Nat.le_add_right_of_le behind
    · rcases capture.comments_step item with ⟨_, same⟩ | ⟨comment, kept, _, isKept, added⟩
      · rw [same]
        exact parted
      · rw [added]
        apply PartAt.push _ behind
        rcases isKept with rfl | rfl
        · exact PartAt.empty place
        · exact parted

end CommentCapture

namespace Scanner

/-- The trivia at a cursor keep the comments in order and in front of the place behind them. -/
theorem lieBefore_capture (scanner : Scanner source) (afterLineComment : Bool)
    (lieBefore : LieBefore source scanner.cursor.offset scanner.comments.toList) :
    LieBefore source scanner.cursor.afterTrivia.offset
      (scanner.capture afterLineComment).comments.toList := by
  have collected := CommentCapture.lieBefore_run
    ⟨scanner.comments, scanner.cursor.offset, afterLineComment, false⟩ scanner.cursor rfl lieBefore
  have place : scanner.cursor.afterTrivia.offset = scanner.cursor.offset +
      Text.byteLength (Trivia.chars (Trivia.read scanner.cursor.rest)) := by
    have isTaken := List.prefix_iff_eq_take.mp (Trivia.read_isPrefix scanner.cursor.rest)
    rw [Cursor.afterTrivia, Cursor.offset_advance, ← isTaken]
  rw [CommentCapture.offset_run, ← place] at collected
  unfold capture
  simp only
  split
  · exact LieBefore.nil
  · exact collected

/-- What they add stands behind the cursor, and so behind any place in front of it. -/
theorem partAt_capture (scanner : Scanner source) (afterLineComment : Bool) {place : Nat}
    (behind : place ≤ scanner.cursor.offset) (parted : PartAt place scanner.comments) :
    PartAt place (scanner.capture afterLineComment).comments := by
  have collected := CommentCapture.partAt_run
    ⟨scanner.comments, scanner.cursor.offset, afterLineComment, false⟩
    (Trivia.read scanner.cursor.rest) behind parted
  unfold capture
  simp only
  split
  · exact PartAt.empty place
  · exact collected

end Scanner
end HeaderScan
