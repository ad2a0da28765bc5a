import HeaderScan.Directive.Text
import HeaderScan.Proofs.HiddenContent.Window
import HeaderScan.RawText
import HeaderScan.RawToken
import HeaderScan.Scanner.Basic

namespace HeaderScan

/-!
Reading as a move forwards.

Whatever is read at a cursor, a token, a line, a raw text or the text of a directive, leaves a
cursor that has been moved forwards, and all that is said about places along with it is said about
places on the way.  `Token.LiesBehind` and `Position.IsBehind` say so; what a move forwards keeps
therefore holds at every place that is ever shown.
-/

/-! ## Places on the way -/

namespace Cursor

variable {source : List Char} {first second third cursor : Cursor source}

/-- The first cursor comes to stand where the second one does by moving forwards. -/
def Precedes (first second : Cursor source) : Prop :=
  ∃ count, first.advance count = second

theorem precedes_advance (cursor : Cursor source) (count : Nat) :
    cursor.Precedes (cursor.advance count) :=
  ⟨count, rfl⟩

theorem Precedes.refl (cursor : Cursor source) : cursor.Precedes cursor :=
  ⟨0, by simp [advance]⟩

theorem Precedes.trans (early : first.Precedes second) (late : second.Precedes third) :
    first.Precedes third := by
  rcases early with ⟨passed, rfl⟩
  rcases late with ⟨more, rfl⟩
  exact ⟨passed + more, (first.advance_advance passed more).symm⟩

theorem Precedes.offset_le (precedes : first.Precedes second) : first.offset ≤ second.offset := by
  rcases precedes with ⟨count, rfl⟩
  exact Nat.le_add_right _ _

/-- A property of places that moving forwards keeps. -/
def KeptForwards (property : Cursor source → Prop) : Prop :=
  ∀ cursor count, property cursor -> property (cursor.advance count)

theorem KeptForwards.of_precedes {property : Cursor source → Prop} (kept : KeptForwards property)
    (precedes : first.Precedes second) (holds : property first) : property second := by
  rcases precedes with ⟨count, rfl⟩
  exact kept first count holds

end Cursor

/-! ## Room for lines -/

namespace Cursor

variable {source : List Char}

theorem count_rest_le (cursor : Cursor source) :
    cursor.rest.count '\n' ≤ source.count '\n' := by
  have whole := congrArg (List.count '\n') cursor.passed_append_rest
  rw [List.count_append] at whole
  omega

/-- All lines from here to the end of the source can be counted. -/
def HasRoom (cursor : Cursor source) : Prop :=
  cursor.line + cursor.rest.count '\n' < countLimit

instance (cursor : Cursor source) : Decidable cursor.HasRoom :=
  inferInstanceAs (Decidable (_ < _))

theorem HasRoom.line_lt {cursor : Cursor source} (hasRoom : cursor.HasRoom) :
    cursor.line < countLimit :=
  Nat.lt_of_le_of_lt (Nat.le_add_right _ _) hasRoom

/-- What is passed has been counted, and as much less is left to count. -/
theorem hasRoom_advance_iff {cursor : Cursor source} {count : Nat} :
    (cursor.advance count).HasRoom ↔ cursor.HasRoom := by
  have whole : (cursor.rest.take count).count '\n' + (cursor.rest.drop count).count '\n' =
      cursor.rest.count '\n' := by
    rw [← List.count_append, List.take_append_drop]
  unfold HasRoom
  rw [line_advance, rest_advance, Nat.add_assoc, whole]

theorem keptForwards_hasRoom : KeptForwards (HasRoom : Cursor source → Prop) :=
  fun _ _ => hasRoom_advance_iff.mpr

theorem hasRoom_withLine {line : Nat} (fits : line + source.count '\n' < countLimit)
    (cursor : Cursor source) : (cursor.withLine line).HasRoom := by
  have rest := cursor.count_rest_le
  change line + cursor.rest.count '\n' < countLimit
  omega

theorem hasRoom_start (small : Text.byteLength source + 1 < countLimit) :
    (start source).HasRoom := by
  have feeds : source.count '\n' ≤ source.length := List.count_le_length
  have bytes := Text.length_le_byteLength source
  change 1 + source.count '\n' < countLimit
  omega

end Cursor

/-! ## Positions and tokens on the way -/

/-- Where a token starts. -/
def Token.startPosition (token : Token) : Position :=
  ⟨token.span.start, token.startLine⟩

/-- Where a token stops. -/
def Token.stopPosition (token : Token) : Position :=
  ⟨token.span.stop, token.endLine⟩

/-- The place that a diagnostic is about. -/
def Diagnostic.position (diagnostic : Diagnostic) : Position :=
  ⟨diagnostic.span.start, diagnostic.line⟩

variable {source : List Char}

/-- A cursor comes through a position by moving forwards. -/
def Position.IsBehind (position : Position) (cursor : Cursor source) : Prop :=
  ∃ place, cursor.Precedes place ∧ place.position = position

theorem Position.IsBehind.trans {position : Position} {first second : Cursor source}
    (isBehind : position.IsBehind second) (precedes : first.Precedes second) :
    position.IsBehind first := by
  rcases isBehind with ⟨place, late, stands⟩
  exact ⟨place, precedes.trans late, stands⟩

/-- A token is what a cursor passes in a number of characters. -/
structure Token.Covers (token : Token) (start : Cursor source) (count : Nat) : Prop where
  startPosition : start.position = token.startPosition
  stopPosition : (start.advance count).position = token.stopPosition
  text : token.text.toList = start.rest.take count

/-- A token and the place to which it is put back are on the way of a cursor. -/
structure Token.LiesBehind (token : Token) (cursor : Cursor source) : Prop where
  piece : ∃ start count, cursor.Precedes start ∧ token.Covers start count
  unget : token.unget.IsBehind cursor

namespace Token

variable {token : Token} {cursor start : Cursor source} {count : Nat}

theorem LiesBehind.startPosition (liesBehind : token.LiesBehind cursor) :
    token.startPosition.IsBehind cursor := by
  rcases liesBehind.piece with ⟨start, _, precedes, covers⟩
  exact ⟨start, precedes, covers.startPosition⟩

theorem LiesBehind.stopPosition (liesBehind : token.LiesBehind cursor) :
    token.stopPosition.IsBehind cursor := by
  rcases liesBehind.piece with ⟨start, count, precedes, covers⟩
  exact ⟨start.advance count, precedes.trans (start.precedes_advance count), covers.stopPosition⟩

/-- The text of a token is the source in its span. -/
theorem LiesBehind.slice (liesBehind : token.LiesBehind cursor) :
    Text.slice? source token.span.start token.span.stop = some token.text.toList := by
  rcases liesBehind.piece with ⟨start, count, _, covers⟩
  have starts : start.offset = token.span.start := congrArg Position.offset covers.startPosition
  have stops : (start.advance count).offset = token.span.stop :=
    congrArg Position.offset covers.stopPosition
  rw [← starts, ← stops, start.slice?_advance, covers.text]

end Token

/-! ## Tokens -/

namespace Cursor

variable (cursor : Cursor source)

theorem precedes_afterTrivia : cursor.Precedes cursor.afterTrivia :=
  cursor.precedes_advance _

theorem precedes_passTrivia_afterTrivia : cursor.afterTrivia.Precedes cursor.passTrivia.2 := by
  unfold passTrivia
  split
  · exact cursor.afterTrivia.precedes_advance _
  · exact .refl _

theorem precedes_passTrivia : cursor.Precedes cursor.passTrivia.2 :=
  cursor.precedes_afterTrivia.trans cursor.precedes_passTrivia_afterTrivia

theorem precedes_readToken_afterTrivia : cursor.afterTrivia.Precedes cursor.readToken.2 := by
  cases isOpen : cursor.hasOpenComment with
  | true =>
    rw [readToken_of_hasOpenComment isOpen]
    exact cursor.afterTrivia.precedes_advance _
  | false =>
    rw [readToken_of_not_hasOpenComment isOpen, readLexeme_snd]
    exact cursor.afterTrivia.precedes_advance _

theorem precedes_readToken : cursor.Precedes cursor.readToken.2 :=
  cursor.precedes_afterTrivia.trans cursor.precedes_readToken_afterTrivia

variable {cursor}

/-- A token that is read covers the lexeme behind the trivia, and is put back in front of them. -/
theorem covers_readToken {token : Token} (read : cursor.readToken.1 = .ok token) :
    token.Covers cursor.afterTrivia (Lexeme.read cursor.afterTrivia.rest).text.length ∧
      token.unget = cursor.position := by
  cases isOpen : cursor.hasOpenComment with
  | true =>
    rw [readToken_of_hasOpenComment isOpen] at read
    cases read
  | false =>
    rw [readToken_of_not_hasOpenComment isOpen] at read
    unfold readLexeme at read
    simp only at read
    split at read
    · cases read
    next kind accepted =>
      rw [← Except.ok.inj read]
      refine ⟨⟨rfl, rfl, ?_⟩, rfl⟩
      rw [Lexeme.take_length_read_text]
      exact String.toList_ofList

theorem liesBehind_readToken {token : Token} (read : cursor.readToken.1 = .ok token) :
    token.LiesBehind cursor where
  piece := ⟨_, _, cursor.precedes_afterTrivia, (covers_readToken read).1⟩
  unget := ⟨cursor, .refl cursor, (covers_readToken read).2.symm⟩

theorem isBehind_failure {error : ScanError} (failed : cursor.readToken.1 = .error error) :
    error.position.IsBehind cursor :=
  ⟨cursor.afterTrivia, cursor.precedes_afterTrivia, (failure_readToken failed).1.symm⟩

theorem isBehind_failure_passTrivia {error : ScanError}
    (failed : cursor.passTrivia.1 = .error error) : error.position.IsBehind cursor := by
  unfold passTrivia at failed
  split at failed
  · rw [← Except.error.inj failed]
    exact ⟨cursor.afterTrivia, cursor.precedes_afterTrivia, rfl⟩
  · cases failed

end Cursor

/-! ## Lines and directives -/

namespace Cursor

theorem lineText_isPrefix (cursor : Cursor source) :
    cursor.lineText <+: cursor.rest.takeWhile (· != '\n') := by
  rw [lineText_eq]
  exact Text.trimmedLine_isPrefix _

/-- No line feed is in the text of a line. -/
theorem count_lineText (cursor : Cursor source) : cursor.lineText.count '\n' = 0 := by
  rw [List.count_eq_zero]
  intro member
  have noFeed : (cursor.rest.takeWhile (· != '\n')).all (· != '\n') = true := List.all_takeWhile
  have differs := List.all_eq_true.mp noFeed '\n' (cursor.lineText_isPrefix.subset member)
  cases differs

theorem precedes_readLine (cursor : Cursor source) : cursor.Precedes cursor.readLine.2 := by
  rw [readLine_eq]
  split
  · exact .refl cursor
  · exact (cursor.precedes_advance _).trans (precedes_advance _ _)

/-- A line lies behind the cursor at which it is read, and so does the end of the file. -/
theorem liesBehind_readLine (cursor : Cursor source) :
    cursor.readLine.1.LiesBehind cursor := by
  rw [readLine_eq]
  refine ⟨?_, ?_⟩
  · split
    · refine ⟨cursor, 0, .refl cursor, ⟨rfl, ?_, ?_⟩⟩
      · simp [position, Token.atStart, Token.stopPosition, Span.point]
      · simp [Token.atStart]
    · have isFront := List.prefix_iff_eq_take.mp
        (cursor.lineText_isPrefix.trans (List.takeWhile_prefix _))
      refine ⟨cursor, cursor.lineText.length, .refl cursor, ⟨rfl, ?_, ?_⟩⟩
      · simp [position, Token.atStart, Token.stopPosition, ← isFront, cursor.count_lineText]
      · simpa [Token.atStart] using isFront
  · split <;> exact ⟨cursor, .refl cursor, rfl⟩

end Cursor

namespace Directive

theorem precedes_gatherLines (text : List Char) (cursor : Cursor source) :
    cursor.Precedes (gatherLines text cursor).2 := by
  fun_induction gatherLines text cursor with
  | case1 text cursor atEnd => exact .refl cursor
  | case2 text cursor unread gathered goesOn inductionHypothesis =>
    exact cursor.precedes_readLine.trans inductionHypothesis
  | case3 text cursor unread => exact cursor.precedes_readLine

theorem precedes_readText (cursor : Cursor source) : cursor.Precedes (readText cursor).2 :=
  precedes_gatherLines [] cursor

/-- A directive is passed by reading a token, its sign, and the text behind it. -/
theorem precedes_passed (cursor : Cursor source) :
    cursor.Precedes (readText cursor.readToken.2).2 :=
  cursor.precedes_readToken.trans (precedes_readText cursor.readToken.2)

end Directive

namespace HiddenContent

/-- What a search finds, it finds where the token starts. -/
theorem position_of_stepIf {checks : Bool} {progress : Progress} {token : Token}
    {finding : Diagnostic} (found : finding ∈ (progress.stepIf checks token).1) :
    finding.position = token.startPosition := by
  rcases Progress.finding_of_stepIf found with rfl | rfl <;> rfl

end HiddenContent

/-! ## Raw texts -/

namespace Cursor

theorem precedes_readRawText (cursor : Cursor source) (terminator : Char)
    (options : RawTextOptions) :
    cursor.Precedes (cursor.readRawText terminator options).2 := by
  unfold readRawText
  simp only
  split
  · exact cursor.precedes_advance _
  · exact (cursor.precedes_advance _).trans (precedes_advance _ _)

theorem isBehind_failure_readRawText {cursor : Cursor source} {terminator : Char}
    {options : RawTextOptions} {error : ScanError}
    (failed : (cursor.readRawText terminator options).1 = .error error) :
    error.position.IsBehind cursor := by
  have here : cursor.position.IsBehind cursor := ⟨cursor, .refl cursor, rfl⟩
  unfold readRawText at failed
  simp only at failed
  split at failed
  · rw [← Except.error.inj failed]
    exact here
  · simp only at failed
    generalize Text.dropEndWhile CharClass.isHorizontalSpace _ = kept at failed
    split at failed
    · cases failed
    · rw [← Except.error.inj failed]
      exact here

/-- A raw text stands in the source where it is read. -/
theorem isPrefix_readRawText {cursor : Cursor source} {terminator : Char}
    {options : RawTextOptions} {text : List Char}
    (read : (cursor.readRawText terminator options).1 = .ok text) : text <+: cursor.rest := by
  unfold readRawText at read
  simp only at read
  split at read
  · cases read
  · simp only at read
    have isFront := RawText.body_isPrefix terminator options.respectQuotes false cursor.rest
    generalize isEnding : ite (options.keepTerminator = true) _ _ = ending at read
    have isNext : ending <+: cursor.rest.drop
        (RawText.body terminator options.respectQuotes false cursor.rest).1.length := by
      rw [← isEnding]
      split
      · exact List.nil_prefix
      · exact Text.optionalFront_isPrefix _ _
    split at read
    · rw [← Except.ok.inj read]
      exact (Text.dropEndWhile_isPrefix _ _).trans (Text.prefix_append_drop isFront isNext)
    · cases read

end Cursor
end HeaderScan
