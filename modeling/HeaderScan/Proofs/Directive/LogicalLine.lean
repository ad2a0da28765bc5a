import Mathlib.Order.Bounds.Defs
import HeaderScan.Conditional
import HeaderScan.Proofs.Directive.Stripping
import HeaderScan.Proofs.Line

namespace HeaderScan

/-!
Logical lines.

A directive ends with its logical line, the first physical line that neither ends in a backslash nor
leaves a block comment open.  What is open is decided anew with each line, on all of the text that
has been gathered; `Directive.readText_isLogicalLine` says where this ends and what is left of the
text.  Line feeds are put into the text within comments only, and so nothing of them is left.
-/

namespace Directive

/-! ## Stripping what is stripped -/

variable {text line : List Char}

theorem BeginsComment.of_isPrefix {front : List Char} (begins : BeginsComment front)
    (isFront : front <+: text) : BeginsComment text :=
  begins.imp (fun isMark => isMark.trans isFront) fun isMark => isMark.trans isFront

private theorem not_beginsComment_cons {c : Char}
    (noLine : ∀ later, c = '/' -> text = '/' :: later -> False)
    (noBlock : ∀ later, c = '/' -> text = '*' :: later -> False) : ¬ BeginsComment (c :: text) := by
  rintro (⟨back, shape⟩ | ⟨back, shape⟩)
  · cases shape
    exact noLine back rfl rfl
  · cases shape
    exact noBlock back rfl rfl

theorem stripComments_plain_cons {c : Char} (noQuote : c ≠ '"')
    (noComment : ¬ BeginsComment (c :: text)) :
    stripComments .plain (c :: text) = stripComments.keep c (stripComments .plain text) := by
  rw [stripComments]
  · rintro later rfl rfl
    exact noComment (Or.inl ⟨later, rfl⟩)
  · rintro later rfl rfl
    exact noComment (Or.inr ⟨later, rfl⟩)
  · exact noQuote

theorem stripComments_string_cons {c : Char} (noEscape : c ≠ '\\' ∨ text = [])
    (noQuote : c ≠ '"') :
    stripComments .string (c :: text) = stripComments.keep c (stripComments .string text) := by
  rw [stripComments]
  · rintro escaped later isEscape rfl
    rcases noEscape with different | empty
    · exact different isEscape
    · cases empty
  · exact noQuote

theorem stripComments_comment_cons {c : Char} (noMark : ¬ ['*', '/'] <+: c :: text) :
    stripComments .comment (c :: text) = stripComments .comment text := by
  rw [stripComments]
  rintro later rfl rfl
  exact noMark ⟨later, rfl⟩

/-- No comment begins where none did before what is behind was stripped. -/
theorem not_beginsComment_withoutComments {c : Char} (noComment : ¬ BeginsComment (c :: text)) :
    ¬ BeginsComment (c :: withoutComments text) := by
  rcases exists_stripComments_eq .plain Nesting.noConfusion text with
    ⟨front, later, kept, isFront, ends⟩
  rw [withoutComments, kept]
  intro begins
  apply noComment
  cases front with
  | cons d front =>
    rcases isFront with ⟨back, rfl⟩
    rw [List.cons_append, beginsComment_cons_cons] at begins
    exact beginsComment_cons_cons.mpr begins
  | nil =>
    cases later with
    | nil => rcases begins with ⟨_, impossible⟩ | ⟨_, impossible⟩ <;> cases impossible
    | cons d later =>
      rcases (beginsComment_cons_cons.mp begins).2 with rfl | rfl <;> cases ends _ rfl

/-- How a stripped text is to be read: comments are not left open. -/
def Nesting.stripped : Nesting → Nesting
  | .plain | .comment => .plain
  | .string => .string

/-- Of a stripped text nothing is stripped, and no comment is left open in it. -/
theorem stripComments_stripComments (nesting : Nesting) (text : List Char) :
    stripComments nesting.stripped (stripComments nesting text).1 =
      ((stripComments nesting text).1, false) := by
  fun_induction stripComments nesting text with
  | case1 | case10 | case11 | case12 => rfl
  | case2 later inductionHypothesis => exact inductionHypothesis
  | case3 later inductionHypothesis | case6 later inductionHypothesis =>
    exact congrArg (stripComments.keep '"') inductionHypothesis
  | case4 c later noLine noBlock noQuote inductionHypothesis =>
    have noComment := not_beginsComment_cons noLine noBlock
    have kept := stripComments_plain_cons noQuote (not_beginsComment_withoutComments noComment)
    exact kept.trans (congrArg (stripComments.keep c) inductionHypothesis)
  | case5 escaped later inductionHypothesis =>
    exact congrArg (fun stripped => stripComments.keep '\\' (stripComments.keep escaped stripped))
      inductionHypothesis
  | case7 c later noEscape noQuote inductionHypothesis =>
    have goesOn : c ≠ '\\' ∨ (stripComments .string later).1 = [] := by
      cases later with
      | nil => exact Or.inr rfl
      | cons d later => exact Or.inl fun isEscape => noEscape d later isEscape rfl
    exact (stripComments_string_cons goesOn noQuote).trans
      (congrArg (stripComments.keep c) inductionHypothesis)
  | case8 later inductionHypothesis =>
    exact congrArg (stripComments.keep ' ') inductionHypothesis
  | case9 c later noMark inductionHypothesis => exact inductionHypothesis

/-- A line feed is left of a text only if it stands outside of the comments. -/
theorem exists_of_feed_mem {nesting : Nesting} (member : '\n' ∈ (stripComments nesting text).1) :
    ∃ front back, text = front ++ '\n' :: back ∧ (stripComments nesting front).2 = false := by
  fun_induction stripComments nesting text with
  | case1 | case10 | case11 | case12 => cases member
  | case2 later inductionHypothesis =>
    rcases inductionHypothesis member with ⟨front, back, rfl, closed⟩
    exact ⟨'/' :: '*' :: front, back, rfl, closed⟩
  | case3 later inductionHypothesis | case6 later inductionHypothesis =>
    have isLater := List.mem_of_ne_of_mem (by decide) member
    rcases inductionHypothesis isLater with ⟨front, back, rfl, closed⟩
    exact ⟨'"' :: front, back, rfl, closed⟩
  | case4 c later noLine noBlock noQuote inductionHypothesis =>
    rcases List.mem_cons.mp member with rfl | isLater
    · exact ⟨[], later, rfl, rfl⟩
    rcases inductionHypothesis isLater with ⟨front, back, rfl, closed⟩
    refine ⟨c :: front, back, rfl, ?_⟩
    rw [stripComments_plain_cons noQuote]
    · exact closed
    · intro begins
      refine not_beginsComment_cons noLine noBlock (begins.of_isPrefix ?_)
      exact List.cons_prefix_cons.mpr ⟨rfl, List.prefix_append _ _⟩
  | case5 escaped later inductionHypothesis =>
    have isEscaped := List.mem_of_ne_of_mem (by decide) member
    rcases List.mem_cons.mp isEscaped with rfl | isLater
    · exact ⟨['\\'], later, rfl, rfl⟩
    rcases inductionHypothesis isLater with ⟨front, back, rfl, closed⟩
    exact ⟨'\\' :: escaped :: front, back, rfl, closed⟩
  | case7 c later noEscape noQuote inductionHypothesis =>
    rcases List.mem_cons.mp member with rfl | isLater
    · exact ⟨[], later, rfl, rfl⟩
    rcases inductionHypothesis isLater with ⟨front, back, rfl, closed⟩
    have goesOn : c ≠ '\\' := by
      intro isEscape
      cases front with
      | nil => exact noEscape _ _ isEscape rfl
      | cons d front => exact noEscape _ _ isEscape rfl
    refine ⟨c :: front, back, rfl, ?_⟩
    rw [stripComments_string_cons (Or.inl goesOn) noQuote]
    exact closed
  | case8 later inductionHypothesis =>
    have isLater := List.mem_of_ne_of_mem (by decide) member
    rcases inductionHypothesis isLater with ⟨front, back, rfl, closed⟩
    exact ⟨'*' :: '/' :: front, back, rfl, closed⟩
  | case9 c later noMark inductionHypothesis =>
    rcases inductionHypothesis member with ⟨front, back, rfl, closed⟩
    refine ⟨c :: front, back, rfl, ?_⟩
    rw [stripComments_comment_cons]
    · exact closed
    · rintro ⟨inner, shape⟩
      cases shape
      exact noMark _ rfl rfl

/-! ## Gathering lines -/

/-- What one more physical line makes of the text in front of it.  A backslash that ends the line
becomes a space; behind a comment that is left open comes a line feed. -/
def addLine (text line : List Char) : List Char :=
  if line.getLast? = some '\\' then text ++ line.dropLast ++ [' ']
  else if leavesCommentOpen (text ++ line) then text ++ line ++ ['\n']
  else text ++ line

/-- What several physical lines make of the text in front of them. -/
def addLines (text : List Char) (lines : List (List Char)) : List Char :=
  lines.foldl addLine text

/-- A physical line ends the logical line that the text in front of it belongs to. -/
def EndsWith (text line : List Char) : Prop :=
  line.getLast? ≠ some '\\' ∧ leavesCommentOpen (text ++ line) = false

/-- Lines behind a text can be left off after a number of them: after all of them, or after one that
ends the logical line. -/
def StopsAfter (text : List Char) (lines : List (List Char)) (count : Nat) : Prop :=
  count = lines.length ∨ ∃ index line, count = index + 1 ∧ lines[index]? = some line ∧
    EndsWith (addLines text (lines.take index)) line

/-- Every line feed in a text stands in a comment. -/
def HidesFeeds (text : List Char) : Prop :=
  ∀ front back, text = front ++ '\n' :: back -> leavesCommentOpen front = true

/-- A backslash ends the text with a line if it ends the line, since no text in front of a line ends
in one. -/
private theorem getLast?_append_line (settled : text.getLast? ≠ some '\\') :
    (text ++ line).getLast? = some '\\' ↔ line.getLast? = some '\\' := by
  cases last : line.getLast? with
  | none => simpa [List.getLast?_append, last] using settled
  | some c => simp [List.getLast?_append, last]

theorem fst_gather (settled : text.getLast? ≠ some '\\') :
    (gather text line).1 = addLine text line := by
  unfold gather addLine
  simp only [getLast?_append_line settled]
  split
  next escaped =>
    have nonempty : line ≠ [] := by
      rintro rfl
      cases escaped
    simp only [List.dropLast_append_of_ne_nil nonempty]
  · split <;> rfl

theorem snd_gather_eq_false_iff (settled : text.getLast? ≠ some '\\') :
    (gather text line).2 = false ↔ EndsWith text line := by
  unfold gather EndsWith
  simp only [getLast?_append_line settled]
  split
  next escaped => simp [escaped]
  next notEscaped =>
    split
    next isOpen => simp [isOpen]
    next isClosed => simpa [notEscaped] using isClosed

/-- A text that goes on does not end in a backslash. -/
theorem settled_addLine (goesOn : ¬ EndsWith text line) :
    (addLine text line).getLast? ≠ some '\\' := by
  unfold addLine
  split
  · simp
  next notEscaped =>
    split
    · simp
    next isClosed => exact absurd ⟨notEscaped, by simpa using isClosed⟩ goesOn

/-! ## The number of lines -/

theorem isLeast_stopsAfter_nil (text : List Char) :
    IsLeast {count | StopsAfter text [] count} 0 :=
  ⟨Or.inl rfl, fun _ _ => Nat.zero_le _⟩

theorem not_stopsAfter_zero {lines : List (List Char)} : ¬ StopsAfter text (line :: lines) 0 := by
  rintro (impossible | ⟨index, other, impossible, _⟩) <;> cases impossible

/-- The first line ends the logical line. -/
theorem isLeast_stopsAfter_of_endsWith (ends : EndsWith text line) (lines : List (List Char)) :
    IsLeast {count | StopsAfter text (line :: lines) count} 1 := by
  refine ⟨Or.inr ⟨0, line, rfl, rfl, ends⟩, fun count stops => Nat.one_le_iff_ne_zero.mpr ?_⟩
  rintro rfl
  exact not_stopsAfter_zero stops

/-- The first line does not, and so the others are counted behind it. -/
theorem isLeast_stopsAfter_cons {lines : List (List Char)} {count : Nat}
    (goesOn : ¬ EndsWith text line)
    (isLeast : IsLeast {count | StopsAfter (addLine text line) lines count} count) :
    IsLeast {count | StopsAfter text (line :: lines) count} (count + 1) := by
  have shifted : ∀ count, StopsAfter text (line :: lines) (count + 1) ↔
      StopsAfter (addLine text line) lines count := by
    intro count
    constructor
    · rintro (isAll | ⟨index, last, isCount, isLast, ends⟩)
      · exact Or.inl (Nat.succ.inj isAll)
      · cases index with
        | zero =>
          rcases Option.some.inj isLast
          exact absurd ends goesOn
        | succ index => exact Or.inr ⟨index, last, Nat.succ.inj isCount, isLast, ends⟩
    · rintro (isAll | ⟨index, last, isCount, isLast, ends⟩)
      · exact Or.inl (congrArg Nat.succ isAll)
      · exact Or.inr ⟨index + 1, last, congrArg Nat.succ isCount, isLast, ends⟩
  refine ⟨(shifted count).mpr isLeast.1, ?_⟩
  intro other stops
  cases other with
  | zero => exact absurd stops not_stopsAfter_zero
  | succ other => exact Nat.succ_le_succ (isLeast.2 ((shifted other).mp stops))

variable {source : List Char}

/-- The physical lines of a text, without the carriage returns at their ends. -/
def physicalLines (text : List Char) : List (List Char) :=
  (Text.pieces text).map fun piece => piece.rdropWhile (· == '\r')

/-- Lines are gathered up to the first one behind which they can be left off, and they alone are
passed. -/
structure Gathers (text : List Char) (cursor : Cursor source) (count : Nat) : Prop where
  isLeast : IsLeast {count | StopsAfter text (physicalLines cursor.rest) count} count
  gathered : (gatherLines text cursor).1 = addLines text ((physicalLines cursor.rest).take count)
  passed : (gatherLines text cursor).2 = cursor.advance
    (((Text.pieces cursor.rest).take count).flatMap fun piece => piece ++ ['\n']).length
  others : Text.pieces (gatherLines text cursor).2.rest = (Text.pieces cursor.rest).drop count

/-- The first piece of what is left is read as a line, and the others are left behind it. -/
theorem pieces_eq_cons {cursor : Cursor source} (unread : cursor.isAtEnd = false) :
    Text.pieces cursor.rest =
      cursor.rest.takeWhile (· != '\n') :: Text.pieces cursor.readLine.2.rest := by
  have nonempty : cursor.rest ≠ [] := by simpa [Cursor.isAtEnd] using unread
  rw [Text.pieces_of_ne_nil nonempty, Cursor.readLine_snd_of_rest_ne_nil nonempty,
    Cursor.rest_advance]

theorem physicalLines_eq_cons {cursor : Cursor source} (unread : cursor.isAtEnd = false) :
    physicalLines cursor.rest = cursor.lineText :: physicalLines cursor.readLine.2.rest := by
  rw [physicalLines, pieces_eq_cons unread, Cursor.lineText_eq]
  rfl

theorem gathers_of_isAtEnd {cursor : Cursor source} (text : List Char)
    (atEnd : cursor.isAtEnd = true) : Gathers text cursor 0 := by
  have empty : cursor.rest = [] := by simpa [Cursor.isAtEnd] using atEnd
  have same : gatherLines text cursor = (text, cursor) := by rw [gatherLines, dif_pos atEnd]
  constructor
  · rw [empty]
    exact isLeast_stopsAfter_nil text
  · rw [same]
    rfl
  · rw [same]
    exact cursor.advance_zero.symm
  · rw [same]
    rfl

/-- A first line and those that are gathered behind it. -/
private theorem passed_cons {cursor last : Cursor source} {pieces : List (List Char)} {count : Nat}
    (unread : cursor.isAtEnd = false)
    (passed : last = cursor.readLine.2.advance
      ((pieces.take count).flatMap fun piece => piece ++ ['\n']).length) :
    last = cursor.advance
      (((cursor.rest.takeWhile (· != '\n') :: pieces).take (count + 1)).flatMap
        fun piece => piece ++ ['\n']).length := by
  have nonempty : cursor.rest ≠ [] := by simpa [Cursor.isAtEnd] using unread
  rw [passed, Cursor.readLine_snd_of_rest_ne_nil nonempty, Cursor.advance_advance,
    List.take_succ_cons, List.flatMap_cons, List.length_append, List.length_append,
    List.length_singleton]

theorem gatherLines_of_goesOn {cursor : Cursor source} (unread : cursor.isAtEnd = false)
    (settled : text.getLast? ≠ some '\\') (goesOn : ¬ EndsWith text cursor.lineText) :
    gatherLines text cursor =
      gatherLines (addLine text cursor.lineText) cursor.readLine.2 := by
  have gathered : gather text cursor.lineText = (addLine text cursor.lineText, true) := by
    refine Prod.ext (fst_gather settled) ?_
    exact Bool.of_not_eq_false (mt (snd_gather_eq_false_iff settled).mp goesOn)
  rw [gatherLines, dif_neg (by simp [unread]), gathered]
  rfl

theorem gatherLines_of_endsWith {cursor : Cursor source} (unread : cursor.isAtEnd = false)
    (settled : text.getLast? ≠ some '\\') (ends : EndsWith text cursor.lineText) :
    gatherLines text cursor = (addLine text cursor.lineText, cursor.readLine.2) := by
  have gathered : gather text cursor.lineText = (addLine text cursor.lineText, false) :=
    Prod.ext (fst_gather settled) ((snd_gather_eq_false_iff settled).mpr ends)
  rw [gatherLines, dif_neg (by simp [unread]), gathered]
  rfl

/-- Behind any text that a line can follow, gathering stops after the least number of lines. -/
theorem exists_gathers (cursor : Cursor source) (settled : text.getLast? ≠ some '\\') :
    ∃ count, Gathers text cursor count := by
  induction size : cursor.rest.length using Nat.strong_induction_on generalizing text cursor with
  | _ size inductionHypothesis =>
  subst size
  cases unread : cursor.isAtEnd with
  | true => exact ⟨0, gathers_of_isAtEnd text unread⟩
  | false =>
    by_cases ends : EndsWith text cursor.lineText
    · have same := gatherLines_of_endsWith unread settled ends
      refine ⟨1, ?_, ?_, ?_, ?_⟩
      · rw [physicalLines_eq_cons unread]
        exact isLeast_stopsAfter_of_endsWith ends _
      · rw [same, physicalLines_eq_cons unread]
        rfl
      · rw [same, pieces_eq_cons unread]
        exact passed_cons unread (Cursor.advance_zero _).symm
      · rw [same, pieces_eq_cons unread]
        rfl
    · have same := gatherLines_of_goesOn unread settled ends
      rcases inductionHypothesis _ (Cursor.length_rest_readLine_lt unread) cursor.readLine.2
        (settled_addLine ends) rfl with ⟨count, gathers⟩
      refine ⟨count + 1, ?_, ?_, ?_, ?_⟩
      · rw [physicalLines_eq_cons unread]
        exact isLeast_stopsAfter_cons ends gathers.isLeast
      · rw [same, physicalLines_eq_cons unread]
        exact gathers.gathered
      · rw [same, pieces_eq_cons unread]
        exact passed_cons unread gathers.passed
      · rw [same, pieces_eq_cons unread]
        exact gathers.others

/-- Behind a directive the next physical line starts, or nothing is left. -/
theorem startsLine_gatherLines (text : List Char) (cursor : Cursor source) :
    (gatherLines text cursor).2.rest = [] ∨
      (gatherLines text cursor).2.passed.head? = some '\n' := by
  fun_induction gatherLines text cursor with
  | case1 text cursor atEnd => exact Or.inl (by simpa [Cursor.isAtEnd] using atEnd)
  | case2 text cursor unread gathered goesOn inductionHypothesis => exact inductionHypothesis
  | case3 text cursor unread gathered ends => exact cursor.startsLine_readLine

/-! ## Line feeds in gathered text -/

theorem hidesFeeds_nil : HidesFeeds [] := by
  intro front back shape
  exact absurd shape.symm (List.append_ne_nil_of_right_ne_nil front (List.cons_ne_nil _ _))

theorem HidesFeeds.append (hides : HidesFeeds text) (noFeed : '\n' ∉ line) :
    HidesFeeds (text ++ line) := by
  intro front back shape
  rcases List.append_eq_append_iff.mp shape with ⟨between, _, isLine⟩ | ⟨between, isText, isBack⟩
  · exact absurd (by simp [isLine]) noFeed
  · cases between with
    | nil =>
      rw [List.nil_append] at isBack
      exact absurd (isBack ▸ List.mem_cons_self) noFeed
    | cons c between =>
      rw [List.cons_append] at isBack
      refine hides front between ?_
      rw [isText, (List.cons.inj isBack).1]

/-- A line feed that is put in stands in the comment that is open. -/
theorem HidesFeeds.append_feed (hides : HidesFeeds text) (isOpen : leavesCommentOpen text = true) :
    HidesFeeds (text ++ ['\n']) := by
  intro front back shape
  rcases List.eq_nil_or_concat back with rfl | ⟨between, last, rfl⟩
  · rw [List.append_singleton_inj] at shape
    exact shape.1 ▸ isOpen
  · rw [List.concat_eq_append, ← List.cons_append, ← List.append_assoc,
      List.append_singleton_inj] at shape
    exact hides front between shape.1

theorem HidesFeeds.addLine (hides : HidesFeeds text) (noFeed : '\n' ∉ line) :
    HidesFeeds (addLine text line) := by
  unfold Directive.addLine
  split
  · have noFeedBefore : '\n' ∉ line.dropLast :=
      fun member => noFeed (List.mem_of_mem_dropLast member)
    exact (hides.append noFeedBefore).append (by decide)
  · split
    next isOpen => exact (hides.append noFeed).append_feed isOpen
    · exact hides.append noFeed

theorem HidesFeeds.addLines {lines : List (List Char)} (hides : HidesFeeds text)
    (noFeed : ∀ line ∈ lines, '\n' ∉ line) : HidesFeeds (addLines text lines) := by
  induction lines generalizing text with
  | nil => exact hides
  | cons line later inductionHypothesis =>
    rcases List.forall_mem_cons.mp noFeed with ⟨first, others⟩
    exact inductionHypothesis (hides.addLine first) others

theorem HidesFeeds.notMem (hides : HidesFeeds text) : '\n' ∉ withoutComments text := by
  intro member
  rcases exists_of_feed_mem member with ⟨front, back, shape, closed⟩
  have isOpen := hides front back shape
  rw [leavesCommentOpen, closed] at isOpen
  cases isOpen

theorem notMem_of_mem_physicalLines (isLine : line ∈ physicalLines text) : '\n' ∉ line := by
  rcases List.mem_map.mp isLine with ⟨piece, isPiece, rfl⟩
  intro member
  exact Text.notMem_of_mem_pieces isPiece ((List.rdropWhile_prefix _ _).subset member)

/-- A text is what is left of the logical line at a cursor, and another cursor stands behind it.
The line is the least number of physical lines behind which others can be left off, and the next one
of them, if there is one, is left.  In the text there are neither line feeds nor comments. -/
structure IsLogicalLine (cursor : Cursor source) (text : List Char) (last : Cursor source) :
    Prop where
  ends : ∃ count, IsLeast {count | StopsAfter [] (physicalLines cursor.rest) count} count ∧
    text = withoutComments (addLines [] ((physicalLines cursor.rest).take count)) ∧
    last = cursor.advance
      (((Text.pieces cursor.rest).take count).flatMap fun piece => piece ++ ['\n']).length ∧
    Text.pieces last.rest = (Text.pieces cursor.rest).drop count
  startsLine : last.rest = [] ∨ last.passed.head? = some '\n'
  noFeed : '\n' ∉ text
  stripped : stripComments .plain text = (text, false)

/-- Without lookahead, the text of a directive is that of the logical line at the cursor, and a
handler that is given the directive leaves the scanner behind this line. -/
theorem readText_isLogicalLine (scanner : Scanner source) (noLookahead : scanner.lookahead = none) :
    let read := readText scanner.cursor
    IsLogicalLine scanner.cursor read.1 read.2 ∧
      ∀ (conditional : Conditional) (directive : Token) (region : Region),
        (conditional.handle scanner directive region).2.2 = scanner.withCursor read.2 := by
  intro read
  have settled : ([] : List Char).getLast? ≠ some '\\' := nofun
  rcases exists_gathers scanner.cursor settled with ⟨count, gathers⟩
  have isText : read.1 =
      withoutComments (addLines [] ((physicalLines scanner.cursor.rest).take count)) :=
    congrArg withoutComments gathers.gathered
  have noFeed : ∀ line ∈ (physicalLines scanner.cursor.rest).take count, '\n' ∉ line :=
    fun line member => notMem_of_mem_physicalLines (List.mem_of_mem_take member)
  refine ⟨⟨⟨count, gathers.isLeast, isText, gathers.passed, gathers.others⟩,
    startsLine_gatherLines [] scanner.cursor, ?_, stripComments_stripComments .plain _⟩, ?_⟩
  · rw [isText]
    exact (hidesFeeds_nil.addLines noFeed).notMem
  · intro conditional directive region
    cases applied : conditional.state.apply (.ofText read.1) region with
    | none => rw [Conditional.handle_of_unmatched directive noLookahead applied]
    | some result => rw [Conditional.handle_of_applied directive noLookahead applied]

/-- A directive of four physical lines: a continued one, one that leaves a comment open in which a
double quote stands, the end of the comment in front of a line comment that is continued, and a
line whose text belongs to the line comment. -/
theorem readText_isLogicalLine_continued :
    let scanner := Scanner.ofSource "if A \\\r\n&& B/* \"\n*/|| C // \\\n */ 0\r\n\nx".toList
    let read := readText scanner.cursor
    scanner.lookahead = none ∧ read.1 = "if A  && B || C ".toList ∧ read.2.rest = "\nx".toList ∧
      IsLogicalLine scanner.cursor read.1 read.2 ∧
      ∀ (conditional : Conditional) (directive : Token) (region : Region),
        (conditional.handle scanner directive region).2.2 = scanner.withCursor read.2 := by
  intro scanner read
  exact ⟨rfl, by decide +kernel, by decide +kernel, readText_isLogicalLine scanner rfl⟩

end Directive
end HeaderScan
