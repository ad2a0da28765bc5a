import HeaderScan.Proofs.Comments.Sequence
import HeaderScan.Proofs.Reader.Approach
import HeaderScan.Proofs.Tiling

namespace HeaderScan

/-!
Which comments in front of a token are shown with it.

The comments in front of a token form groups, and the last group is shown.  A block comment begins
a group, and so does a line comment that a blank line separates from the line comment before it.
Blank lines are not looked for, however: what separates two line comments is any line feed between
them that ends neither a line comment nor stands in a block comment
(`Reader.shownComments_next`).  The two come to the same unless every line that ends there holds a
block comment (`Reader.shownComments_next_behind_block`).
-/

variable {source : List Char}

/-! ## Runs of trivia -/

namespace TriviaItem

def isLineComment : TriviaItem → Bool
  | lineComment _ _ => true
  | _ => false

def isBlank : TriviaItem → Bool
  | blank _ => true
  | _ => false

def isNewline : TriviaItem → Bool
  | newline => true
  | _ => false

/-- Whether a line ends among items at whose front a line begins. -/
def endsLine (items : List TriviaItem) : Bool :=
  items.any isNewline

/-- Whether a blank line ends among items at whose front a line begins: one of nothing but spaces,
tabs and carriage returns. -/
def hasBlankLine (items : List TriviaItem) : Bool :=
  (items.splitOnP isNewline).dropLast.any fun line => line.all isBlank

theorem endsLine_concat (items : List TriviaItem) (item : TriviaItem) :
    endsLine (items ++ [item]) = (endsLine items || item.isNewline) := by
  rw [endsLine, endsLine, List.any_append, List.any_cons, List.any_nil, Bool.or_false]

theorem endsLine_of_hasBlankLine {items : List TriviaItem} (blank : hasBlankLine items = true) :
    endsLine items = true := by
  by_contra noFeed
  have outside : ∀ item ∈ items, item.isNewline = false := by
    intro item member
    rw [Bool.eq_false_iff]
    exact fun isFeed => noFeed (List.any_eq_true.mpr ⟨item, member, isFeed⟩)
  rw [hasBlankLine, List.splitOnP_eq_singleton outside] at blank
  cases blank

end TriviaItem

/-- The items of a run of trivia, given what comes behind it. -/
inductive IsRun : List TriviaItem → List Char → Prop
  | nothing {later : List Char} : IsRun [] later
  | blank {c : Char} {items : List TriviaItem} {later : List Char} : c ∈ [' ', '\t', '\r'] ->
      IsRun items later -> IsRun (.blank c :: items) later
  | newline {items : List TriviaItem} {later : List Char} : IsRun items later ->
      IsRun (.newline :: items) later
  | lineComment {body : List Char} {items : List TriviaItem} {later : List Char} : '\n' ∉ body ->
      IsRun items later -> IsRun (.lineComment ('/' :: '/' :: body) true :: items) later
  | lastLine {body : List Char} : '\n' ∉ body ->
      IsRun [.lineComment ('/' :: '/' :: body) false] []
  | blockComment {body : List Char} {items : List TriviaItem} {later : List Char} :
      ¬ ['*', '/'] <:+: body ++ ['*'] -> IsRun items later ->
      IsRun (.blockComment ('/' :: '*' :: (body ++ ['*', '/'])) :: items) later

/-- No item is empty. -/
theorem IsRun.eq_nil {items : List TriviaItem} {later : List Char} (isRun : IsRun items later)
    (empty : Trivia.chars items = []) : items = [] := by
  cases isRun with
  | nothing => rfl
  | _ => simp [Trivia.chars, TriviaItem.chars] at empty

namespace Trivia

theorem read_of_first? {item : TriviaItem} {later : List Char}
    (found : TriviaItem.first? (item.chars ++ later) = some item) :
    read (item.chars ++ later) = item :: read later := by
  rw [read]
  split
  next absent => cases absent.symm.trans found
  next other isOther =>
    rw [Option.some.inj (isOther.symm.trans found), List.drop_left]

/-- The items of a run are read one after the other. -/
theorem read_of_isRun {items : List TriviaItem} {later : List Char} (isRun : IsRun items later) :
    read (chars items ++ later) = items ++ read later := by
  have step : ∀ {item : TriviaItem} {items : List TriviaItem} {later : List Char},
      TriviaItem.first? (item.chars ++ (chars items ++ later)) = some item ->
      read (chars items ++ later) = items ++ read later ->
      read (chars (item :: items) ++ later) = item :: items ++ read later := by
    intro item items later found inner
    have shape : chars (item :: items) ++ later = item.chars ++ (chars items ++ later) :=
      List.append_assoc _ _ _
    rw [shape, read_of_first? found, inner, List.cons_append]
  induction isRun with
  | nothing => rfl
  | @blank c items later isBlank _ inductionHypothesis =>
    refine step ?_ inductionHypothesis
    simp only [List.mem_cons, List.not_mem_nil, or_false] at isBlank
    rcases isBlank with rfl | rfl | rfl <;> rfl
  | newline _ inductionHypothesis => exact step rfl inductionHypothesis
  | @lineComment body items later noFeed _ inductionHypothesis =>
    refine step ?_ inductionHypothesis
    have comment := TriviaItem.readLineComment_of_ended noFeed (chars items ++ later)
    simpa [TriviaItem.first?, TriviaItem.chars] using comment
  | @lastLine body noFeed =>
    refine step ?_ rfl
    have comment := TriviaItem.readLineComment_of_last noFeed
    simpa [TriviaItem.first?, TriviaItem.chars, chars] using comment
  | @blockComment body items later noMark _ inductionHypothesis =>
    refine step ?_ inductionHypothesis
    have comment := TriviaItem.blockBody?_of_closed noMark (chars items ++ later)
    simp [TriviaItem.first?, TriviaItem.chars, comment]

/-- One item in front of a run makes a run. -/
theorem isRun_cons_of_first? {text : List Char} {item : TriviaItem}
    (found : TriviaItem.first? text = some item) {items : List TriviaItem} {later : List Char}
    (joined : text.drop item.chars.length = chars items ++ later) (isRun : IsRun items later) :
    IsRun (item :: items) later := by
  unfold TriviaItem.first? at found
  split at found
  case h_1 => exact Option.some.inj found ▸ .newline isRun
  case h_5 rest =>
    rcases Option.map_eq_some_iff.mp found with ⟨body, isBody, rfl⟩
    rcases TriviaItem.closed_of_blockBody? isBody with ⟨inner, noMark, rfl⟩
    exact .blockComment noMark isRun
  case h_6 rest =>
    rw [← Option.some.inj found] at joined ⊢
    rcases TriviaItem.readLineComment_cases rest with ⟨body, noFeed, ⟨behind, rfl⟩ | rfl⟩
    · rw [TriviaItem.readLineComment_of_ended noFeed]
      exact .lineComment noFeed isRun
    · rw [TriviaItem.readLineComment_of_last noFeed] at joined ⊢
      have nothing : chars items = [] ∧ later = [] := by
        simpa [TriviaItem.chars] using joined.symm
      rw [isRun.eq_nil nothing.1, nothing.2]
      exact .lastLine noFeed
  case h_7 => cases found
  all_goals
    rw [← Option.some.inj found]
    exact .blank (by decide) isRun

/-- What is read is a run. -/
theorem isRun_read (text : List Char) :
    IsRun (read text) (text.drop (chars (read text)).length) := by
  fun_induction read text with
  | case1 => exact .nothing
  | case2 text item found inductionHypothesis =>
    have shape : text.drop (chars (item :: read (text.drop item.chars.length))).length =
        (text.drop item.chars.length).drop
          (chars (read (text.drop item.chars.length))).length := by
      rw [List.drop_drop]
      exact congrArg (text.drop ·) List.length_append
    rw [shape]
    refine isRun_cons_of_first? found ?_ inductionHypothesis
    exact (List.prefix_iff_eq_append.mp (read_isPrefix (text.drop item.chars.length))).symm

end Trivia

/-! ## Groups -/

/-- The comments of a run as far as they have been grouped.  `since` are the items behind the last
line comment, if there has been one. -/
structure Grouping where
  offset : Nat
  since : Option (List TriviaItem)
  group : List Comment

namespace Grouping

/-- The items behind the last line comment, with one more item. -/
def sinceWith (since : Option (List TriviaItem)) (item : TriviaItem) : Option (List TriviaItem) :=
  if item.isLineComment then some [] else since.map (· ++ [item])

/-- Goes past one item.  A block comment takes the place of the group, and so does a line comment
if what stands between the line comment before it and this one separates the two. -/
def step (separates : List TriviaItem → Bool) (grouping : Grouping) (item : TriviaItem) :
    Grouping where
  offset := grouping.offset + Text.byteLength item.chars
  since := sinceWith grouping.since item
  group :=
    match item with
    | .blank _ | .newline => grouping.group
    | .lineComment text _ =>
      let kept := if grouping.since.any separates then [] else grouping.group
      kept ++ [⟨grouping.offset, String.ofList (CommentCapture.withoutReturn text)⟩]
    | .blockComment text => [⟨grouping.offset, String.ofList text⟩]

def run (separates : List TriviaItem → Bool) (grouping : Grouping) (items : List TriviaItem) :
    Grouping :=
  items.foldl (step separates) grouping

variable (since : Option (List TriviaItem)) {item : TriviaItem}

theorem isSome_sinceWith (noLine : item.isLineComment = false) :
    (sinceWith since item).isSome = since.isSome := by
  rw [sinceWith, noLine, if_neg Bool.false_ne_true, Option.isSome_map]

theorem any_sinceWith (noLine : item.isLineComment = false) :
    (sinceWith since item).any TriviaItem.endsLine =
      (since.any TriviaItem.endsLine || since.isSome && item.isNewline) := by
  rw [sinceWith, noLine, if_neg Bool.false_ne_true]
  cases since with
  | none => rfl
  | some items => exact TriviaItem.endsLine_concat items item

end Grouping

namespace Trivia

/-- The last group of the comments of a run that begins at an offset. -/
def lastGroup (separates : List TriviaItem → Bool) (offset : Nat) (items : List TriviaItem) :
    List Comment :=
  (Grouping.run separates ⟨offset, none, []⟩ items).group

/-- What stands between each line comment and the next one, given the items behind a line comment
in front of them, if there is one. -/
def between : Option (List TriviaItem) → List TriviaItem → List (List TriviaItem)
  | _, [] => []
  | since, item :: later =>
    (if item.isLineComment then since.toList else []) ++
      between (Grouping.sinceWith since item) later

end Trivia

namespace Grouping

/-- What separates line comments matters only between two of them. -/
theorem run_congr {first second : List TriviaItem → Bool} (grouping : Grouping)
    (items : List TriviaItem)
    (same : ∀ piece ∈ Trivia.between grouping.since items, first piece = second piece) :
    run first grouping items = run second grouping items := by
  induction items generalizing grouping with
  | nil => rfl
  | cons item later inductionHypothesis =>
    have stepped : grouping.step first item = grouping.step second item := by
      cases item with
      | blank | newline | blockComment => rfl
      | lineComment text ended =>
        have sameAny : grouping.since.any first = grouping.since.any second := by
          cases since : grouping.since with
          | none => rfl
          | some piece =>
            refine same piece ?_
            rw [since]
            exact List.mem_append_left _ (List.mem_singleton_self piece)
        rw [step, step, sameAny]
    change run first (grouping.step first item) later = run second (grouping.step second item) later
    rw [stepped]
    refine inductionHypothesis _ ?_
    exact fun piece member => same piece (List.mem_append_right _ member)

end Grouping

namespace CommentCapture

/-- The collection of comments is that of a grouping in which any end of a line separates line
comments. -/
structure Follows (capture : CommentCapture) (grouping : Grouping) : Prop where
  comments : capture.comments = ⟨[], grouping.group⟩
  offset : capture.offset = grouping.offset
  afterLineComment : capture.afterLineComment = grouping.since.isSome
  afterGap : capture.afterGap = grouping.since.any TriviaItem.endsLine

variable {capture : CommentCapture} {grouping : Grouping}

theorem Follows.step (follows : capture.Follows grouping) (item : TriviaItem) :
    (capture.step item).Follows (grouping.step TriviaItem.endsLine item) := by
  rcases follows with ⟨comments, offset, afterLineComment, afterGap⟩
  have isSome : item.isLineComment = false ->
      (Grouping.sinceWith grouping.since item).isSome = capture.afterLineComment :=
    fun noLine => (Grouping.isSome_sinceWith grouping.since noLine).trans afterLineComment.symm
  have any : item.isLineComment = false ->
      (Grouping.sinceWith grouping.since item).any TriviaItem.endsLine =
        (capture.afterGap || capture.afterLineComment && item.isNewline) := by
    intro noLine
    rw [Grouping.any_sinceWith grouping.since noLine, afterGap, afterLineComment]
  refine ⟨?_, ?_, ?_, ?_⟩
  · cases item with
    | blank | newline => exact comments
    | lineComment text ended =>
      simp only [CommentCapture.step, Grouping.step, afterGap, comments, offset]
      split <;> rfl
    | blockComment text => simp only [CommentCapture.step, Grouping.step, offset]; rfl
  · rw [offset_step, offset]
    rfl
  · cases item with
    | blank | newline | blockComment => exact (isSome rfl).symm
    | lineComment => rfl
  · cases item with
    | blank | blockComment =>
      refine Eq.trans ?_ (any rfl).symm
      change capture.afterGap = (capture.afterGap || capture.afterLineComment && false)
      rw [Bool.and_false, Bool.or_false]
    | newline =>
      refine Eq.trans ?_ (any rfl).symm
      change _ = (capture.afterGap || capture.afterLineComment && true)
      rw [Bool.and_true]
      rfl
    | lineComment => rfl

theorem Follows.run (follows : capture.Follows grouping) (items : List TriviaItem) :
    (capture.run items).Follows (grouping.run TriviaItem.endsLine items) := by
  induction items generalizing capture grouping with
  | nil => exact follows
  | cons item later inductionHypothesis => exact inductionHypothesis (follows.step item)

end CommentCapture

/-! ## Taking a token -/

/-- The items of the run of trivia between a cursor and a token. -/
def Cursor.IsRunUpTo (cursor : Cursor source) (token : Token) (items : List TriviaItem) : Prop :=
  ∃ later, cursor.rest = Trivia.chars items ++ later ∧ IsRun items later ∧
    token.span.start = cursor.offset + Text.byteLength (Trivia.chars items)

/-- In front of a token stands one run of trivia, the one that is read. -/
theorem Cursor.isRunUpTo_iff {cursor : Cursor source} {token : Token}
    (read : cursor.readToken.1 = .ok token) (items : List TriviaItem) :
    cursor.IsRunUpTo token items ↔ items = Trivia.read cursor.rest := by
  have front := Trivia.read_isPrefix cursor.rest
  have starts : token.span.start = cursor.offset +
      Text.byteLength (Trivia.chars (Trivia.read cursor.rest)) := by
    rw [(slice_readToken read).1, afterTrivia, offset_advance, ← List.prefix_iff_eq_take.mp front]
  constructor
  · rintro ⟨later, rest, isRun, begins⟩
    have isRead := Trivia.read_of_isRun isRun
    rw [← rest] at isRead
    have whole : Trivia.chars (items ++ Trivia.read later) =
        Trivia.chars items ++ Trivia.chars (Trivia.read later) := List.flatMap_append
    rw [begins, isRead, whole, Text.byteLength_append] at starts
    have short := Text.length_le_byteLength (Trivia.chars (Trivia.read later))
    have empty : (Trivia.chars (Trivia.read later)).length = 0 := by omega
    have nothing := (Trivia.isRun_read later).eq_nil (List.eq_nil_of_length_eq_zero empty)
    rw [isRead, nothing, List.append_nil]
  · rintro rfl
    exact ⟨_, (List.prefix_iff_eq_append.mp front).symm, Trivia.isRun_read cursor.rest, starts⟩

namespace Reader

variable {σ : Type} [DirectiveHandler σ] {reader : Reader source σ}

/-- A plain reader that takes a token commits what it has collected in front of it. -/
theorem comments_next_of_isPlain (isPlain : reader.IsPlain) {token : Token}
    (taken : reader.next.1 = .ok token) (enabled : reader.scanner.disabled = 0) :
    reader.next.2.scanner.comments = (reader.scanner.capture false).comments.commit := by
  have read := readToken_eq_ok_of_next isPlain taken
  unfold next peek
  rw [isPlain.noLookahead, readToken_of_isPlain isPlain, read]
  change (if reader.scanner.disabled = 0 then (reader.scanner.capture false).comments.commit
    else _) = _
  rw [if_pos enabled]

/-- What is shown with a token that is taken by a reader without a handler and without comments, for
any run of trivia in front of it: the last group, where any line that ends between two line comments
separates them.  It is the last group with respect to blank lines, if a blank line ends wherever a
line does between two line comments.  A line comment goes without the line feed, or carriage return
and line feed, that ends it, and a block comment with both of its marks. -/
theorem shownComments_next (isPlain : reader.IsPlain)
    (noComments : reader.scanner.comments = .empty) (enabled : reader.scanner.disabled = 0)
    {token : Token} (taken : reader.next.1 = .ok token) :
    (∃! items, reader.scanner.cursor.IsRunUpTo token items) ∧
      ∀ items, reader.scanner.cursor.IsRunUpTo token items ->
        let shown := reader.next.2.scanner.shownComments
        let start := reader.scanner.cursor.offset
        shown = Trivia.lastGroup TriviaItem.endsLine start items ∧
          ((∀ piece ∈ Trivia.between none items,
              TriviaItem.endsLine piece = true -> TriviaItem.hasBlankLine piece = true) ->
            shown = Trivia.lastGroup TriviaItem.hasBlankLine start items) ∧
          ∀ comment ∈ shown, comment.IsWholeIn source := by
  have read := readToken_eq_ok_of_next isPlain taken
  have left := comments_next_of_isPlain isPlain taken enabled
  have captured := capture_of_readToken reader.scanner false read
  have collected := reader.scanner.lieBefore_capture false
    (by rw [noComments]; exact LieBefore.nil)
  refine ⟨⟨_, (Cursor.isRunUpTo_iff read _).mpr rfl,
    fun _ isRun => (Cursor.isRunUpTo_iff read _).mp isRun⟩, ?_⟩
  intro items isRun shown start
  rw [(Cursor.isRunUpTo_iff read items).mp isRun]
  have starts : CommentCapture.Follows
      ⟨reader.scanner.comments, start, false, false⟩ ⟨start, none, []⟩ :=
    ⟨noComments, rfl, rfl, rfl⟩
  have isGroup : shown = Trivia.lastGroup TriviaItem.endsLine start
      (Trivia.read reader.scanner.cursor.rest) := by
    have grouped := (starts.run (Trivia.read reader.scanner.cursor.rest)).comments
    change reader.next.2.scanner.comments.committed = _
    rw [left, captured, grouped]
    rfl
  refine ⟨isGroup, ?_, ?_⟩
  · intro blank
    rw [isGroup]
    refine congrArg Grouping.group (Grouping.run_congr _ _ ?_)
    intro piece member
    rw [Bool.eq_iff_iff]
    exact ⟨blank piece member, TriviaItem.endsLine_of_hasBlankLine⟩
  · intro comment member
    refine collected.whole comment ?_
    change comment ∈ reader.next.2.scanner.comments.committed at member
    rw [left] at member
    exact member

/-- A run with groups of every kind: the last one begins behind a blank line with a carriage return,
which follows a line that ends with a block comment. -/
theorem shownComments_next_mixed :
    let source := "/* a */ // b\r\n\n // c\n// d\n/*\n\n*/\n\t\r\n//e\r\n //f\nx".toList
    let reader := ofSource source (none : Option Conditional)
    ∃ token, reader.next.1 = .ok token ∧
      reader.next.2.scanner.shownComments = [⟨36, "//e"⟩, ⟨42, "//f"⟩] ∧
      ∃ items, reader.scanner.cursor.IsRunUpTo token items ∧
        reader.next.2.scanner.shownComments =
          Trivia.lastGroup TriviaItem.hasBlankLine reader.scanner.cursor.offset items := by
  intro source reader
  have isPlain : reader.IsPlain := ⟨rfl, rfl⟩
  have isToken : reader.next.1.isOk = true := by decide +kernel
  cases taken : reader.next.1 with
  | error stop =>
    rw [taken] at isToken
    cases isToken
  | ok token =>
    have read := readToken_eq_ok_of_next isPlain taken
    have isRun := (Cursor.isRunUpTo_iff read (Trivia.read source)).mpr rfl
    have shown := (shownComments_next isPlain rfl rfl taken).2 _ isRun
    exact ⟨token, rfl, by decide +kernel, _, isRun, shown.2.1 (by decide +kernel)⟩

/-- Behind a block comment no line is blank, but the line feed at its end separates the line
comments on either side: the block comment is not shown. -/
theorem shownComments_next_behind_block :
    let source := "// a\n/* b */\n// c\nx".toList
    let reader := ofSource source (none : Option Conditional)
    ∃ token, reader.next.1 = .ok token ∧
      ∃ items, reader.scanner.cursor.IsRunUpTo token items ∧
        reader.next.2.scanner.shownComments = [⟨13, "// c"⟩] ∧
        Trivia.lastGroup TriviaItem.hasBlankLine reader.scanner.cursor.offset items =
          [⟨5, "/* b */"⟩, ⟨13, "// c"⟩] := by
  intro source reader
  have isPlain : reader.IsPlain := ⟨rfl, rfl⟩
  have isToken : reader.next.1.isOk = true := by decide +kernel
  cases taken : reader.next.1 with
  | error stop =>
    rw [taken] at isToken
    cases isToken
  | ok token =>
    have read := readToken_eq_ok_of_next isPlain taken
    have isRun := (Cursor.isRunUpTo_iff read (Trivia.read source)).mpr rfl
    exact ⟨token, rfl, _, isRun, by decide +kernel, by decide +kernel⟩

end Reader
end HeaderScan
