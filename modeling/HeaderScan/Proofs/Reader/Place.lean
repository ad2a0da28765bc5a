import HeaderScan.Proofs.HiddenContent.Window
import HeaderScan.Proofs.Reader.Flow

namespace HeaderScan

/-!
What a place in a source decides, and what it does not.

Two cursors behind whose trivia stands the same text come to the same tokens, findings and
directives; they may count their lines differently, and one may already be behind the trivia.
`Flow.same_run` says so for everything that comes of a source.
-/

/-- What a token is, without its lines. -/
def Token.content (token : Token) : TokenKind × Span × String :=
  (token.kind, token.span, token.text)

/-- What a finding is about, without its line. -/
def Diagnostic.content (finding : Diagnostic) : DiagnosticCode × Span :=
  (finding.code, finding.span)

/-! ## Places -/

namespace Trivia

/-- Behind the trivia that are read, no further item begins. -/
theorem first?_drop_read (text : List Char) :
    TriviaItem.first? (text.drop (chars (read text)).length) = none := by
  fun_induction read text with
  | case1 text absent => exact absent
  | case2 text item found inductionHypothesis =>
    have behind : text.drop (chars (item :: read (text.drop item.chars.length))).length =
        (text.drop item.chars.length).drop
          (chars (read (text.drop item.chars.length))).length := by
      simp [chars]
    rw [behind]
    exact inductionHypothesis

end Trivia

namespace Cursor

variable {source : List Char} {first second : Cursor source}

/-- The same text stands behind the trivia of two cursors. -/
def SameAhead (first second : Cursor source) : Prop :=
  first.afterTrivia.rest = second.afterTrivia.rest

theorem sameAhead_of_rest (sameRest : first.rest = second.rest) : first.SameAhead second := by
  unfold SameAhead afterTrivia
  simp only [rest_advance, sameRest]

theorem sameAhead_afterTrivia (cursor : Cursor source) :
    cursor.SameAhead cursor.afterTrivia := by
  have nothing : Trivia.read cursor.afterTrivia.rest = [] := by
    have absent := Trivia.first?_drop_read cursor.rest
    rw [Trivia.read]
    split
    · rfl
    next item found => exact nomatch absent.symm.trans found
  have again : cursor.afterTrivia.afterTrivia =
      cursor.afterTrivia.advance (Trivia.chars (Trivia.read cursor.afterTrivia.rest)).length := rfl
  unfold SameAhead
  rw [again, rest_advance cursor.afterTrivia, nothing]
  rfl

/-- The text behind a cursor tells its offset. -/
theorem offset_eq_of_rest (sameRest : first.rest = second.rest) : first.offset = second.offset := by
  have whole := first.passed_append_rest.trans second.passed_append_rest.symm
  rw [sameRest] at whole
  have samePassed : first.passed = second.passed :=
    List.reverse_inj.mp (List.append_cancel_right whole)
  rw [first.offset_eq, second.offset_eq, samePassed]

/-- Two readings of a token with the same outcome, up to lines. -/
inductive SameReading :
    Except ScanError Token × Cursor source → Except ScanError Token × Cursor source → Prop
  | failed {error other : ScanError} {stop end_ : Cursor source} :
      SameReading (.error error, stop) (.error other, end_)
  | read {token other : Token} {stop end_ : Cursor source} : token.content = other.content ->
      stop.rest = end_.rest -> SameReading (.ok token, stop) (.ok other, end_)

theorem SameReading.of_error {first second : Except ScanError Token × Cursor source}
    (same : SameReading first second) {error : ScanError} (failed : first.1 = .error error) :
    ∃ other, second.1 = .error other := by
  cases same with
  | failed => exact ⟨_, rfl⟩
  | read => cases failed

theorem SameReading.of_ok {first second : Except ScanError Token × Cursor source}
    (same : SameReading first second) {token : Token} (read : first.1 = .ok token) :
    ∃ other, second.1 = .ok other ∧ token.content = other.content ∧
      first.2.rest = second.2.rest := by
  cases same with
  | failed => cases read
  | read sameToken sameRest => exact ⟨_, rfl, Except.ok.inj read ▸ sameToken, sameRest⟩

theorem sameReading_readLexeme (sameRest : first.rest = second.rest) (unget other : Position) :
    SameReading (first.readLexeme unget) (second.readLexeme other) := by
  unfold readLexeme
  simp only [sameRest]
  cases (Lexeme.read second.rest).verdict with
  | error cause => exact .failed
  | ok kind =>
    refine .read ?_ ?_
    · simp [Token.content, offset_eq_of_rest sameRest, sameRest]
    · simp [sameRest]

theorem sameReading_readToken (same : first.SameAhead second) :
    SameReading first.readToken second.readToken := by
  cases isOpen : first.hasOpenComment with
  | true =>
    have alsoOpen : second.hasOpenComment = true := by
      rw [hasOpenComment, ← same]
      exact isOpen
    rw [readToken_of_hasOpenComment isOpen, readToken_of_hasOpenComment alsoOpen]
    exact .failed
  | false =>
    have alsoClosed : second.hasOpenComment = false := by
      rw [hasOpenComment, ← same]
      exact isOpen
    rw [readToken_of_not_hasOpenComment isOpen, readToken_of_not_hasOpenComment alsoClosed]
    exact sameReading_readLexeme same _ _

/-! ## Directives -/

theorem rest_readLine (sameRest : first.rest = second.rest) :
    first.readLine.2.rest = second.readLine.2.rest := by
  rw [readLine_eq, readLine_eq, isAtEnd, isAtEnd, sameRest]
  split
  · exact sameRest
  · simp [toLineEnd, bump, sameRest]

end Cursor

namespace Directive

variable {source : List Char} {first second : Cursor source}

theorem gatherLines_of_rest (text : List Char) (sameRest : first.rest = second.rest) :
    (gatherLines text first).1 = (gatherLines text second).1 ∧
      (gatherLines text first).2.rest = (gatherLines text second).2.rest := by
  fun_induction gatherLines text first generalizing second with
  | case1 text cursor atEnd =>
    have alsoAtEnd : second.isAtEnd = true := by rwa [Cursor.isAtEnd, ← sameRest]
    rw [gatherLines, dif_pos alsoAtEnd]
    exact ⟨rfl, sameRest⟩
  | case2 text cursor unread gathered goesOn inductionHypothesis =>
    have alsoUnread : ¬ second.isAtEnd = true := by rwa [Cursor.isAtEnd, ← sameRest]
    have sameLine : second.lineText = cursor.lineText := by
      rw [Cursor.lineText_eq, ← sameRest, Cursor.lineText_eq]
    have shape : gatherLines text second = gatherLines gathered second.readLine.2 := by
      rw [gatherLines, dif_neg alsoUnread, sameLine, goesOn]
      rfl
    rw [shape]
    exact inductionHypothesis (Cursor.rest_readLine sameRest)
  | case3 text cursor unread gathered goesOn found ended =>
    have alsoUnread : ¬ second.isAtEnd = true := by rwa [Cursor.isAtEnd, ← sameRest]
    have sameLine : second.lineText = cursor.lineText := by
      rw [Cursor.lineText_eq, ← sameRest, Cursor.lineText_eq]
    have shape : gatherLines text second = (gathered, second.readLine.2) := by
      rw [gatherLines, dif_neg alsoUnread, sameLine, found]
      exact if_neg ended
    rw [shape]
    exact ⟨rfl, Cursor.rest_readLine sameRest⟩

theorem readText_of_rest (sameRest : first.rest = second.rest) :
    (readText first).1 = (readText second).1 ∧
      (readText first).2.rest = (readText second).2.rest := by
  rcases gatherLines_of_rest [] sameRest with ⟨sameText, samePlace⟩
  exact ⟨congrArg withoutComments sameText, samePlace⟩

end Directive

/-! ## Tokens without their lines -/

namespace Token

variable {first second : Token}

theorem kind_eq_of_content (same : first.content = second.content) : first.kind = second.kind :=
  congrArg Prod.fst same

theorem span_eq_of_content (same : first.content = second.content) : first.span = second.span :=
  congrArg (·.2.1) same

theorem text_eq_of_content (same : first.content = second.content) : first.text = second.text :=
  congrArg (·.2.2) same

theorem beginsDirective_of_content (source : List Char) (same : first.content = second.content) :
    first.beginsDirective source = second.beginsDirective source := by
  rw [beginsDirective, isSymbol, kind_eq_of_content same, text_eq_of_content same,
    span_eq_of_content same, beginsDirective, isSymbol]

end Token

namespace HiddenContent

variable {first second : Token}

/-- A search finds the same in tokens that differ in their lines only. -/
theorem stepIf_of_content (checks : Bool) (progress : Progress)
    (same : first.content = second.content) :
    ((progress.stepIf checks first).1.map Diagnostic.content, (progress.stepIf checks first).2) =
      ((progress.stepIf checks second).1.map Diagnostic.content,
        (progress.stepIf checks second).2) := by
  have sameText := Token.text_eq_of_content same
  have sameMacro : (macroFinding first).content = (macroFinding second).content :=
    congrArg (Prod.mk _) (Token.span_eq_of_content same)
  have sameSerializer : (serializerFinding first).content = (serializerFinding second).content :=
    congrArg (Prod.mk _) (Token.span_eq_of_content same)
  unfold Progress.stepIf
  split
  · rw [progress.step_snd_of_text sameText, Progress.step_fst, Progress.step_fst, sameText]
    simp only [apply_ite (Option.map Diagnostic.content), Option.map_some, Option.map_none,
      sameMacro, sameSerializer]
  · rfl

end HiddenContent

/-! ## Flows without their lines -/

namespace Flow

variable {source : List Char}

/-- The same comes of two places, up to lines. -/
structure Same (first second : Flow) : Prop where
  tokens : first.tokens.map Token.content = second.tokens.map Token.content
  stop : first.stop.isNone = second.stop.isNone
  findings : first.findings.map Diagnostic.content = second.findings.map Diagnostic.content
  boundaries : first.boundaries = second.boundaries

theorem Same.refl (flow : Flow) : Same flow flow :=
  ⟨rfl, rfl, rfl, rfl⟩

theorem Same.symm {first second : Flow} (same : Same first second) : Same second first :=
  ⟨same.tokens.symm, same.stop.symm, same.findings.symm, same.boundaries.symm⟩

theorem Same.trans {first second third : Flow} (early : Same first second)
    (late : Same second third) : Same first third where
  tokens := early.tokens.trans late.tokens
  stop := early.stop.trans late.stop
  findings := early.findings.trans late.findings
  boundaries := early.boundaries.trans late.boundaries

theorem Same.emit {first second : Flow} (same : Same first second) {token other : Token}
    (sameToken : token.content = other.content) : Same (first.emit token) (second.emit other) where
  tokens := by
    simp only [Flow.emit, List.map_cons, sameToken, same.tokens]
  stop := same.stop
  findings := same.findings
  boundaries := same.boundaries

theorem Same.behind {first second : Flow} (same : Same first second)
    {findings others : List Diagnostic}
    (sameFindings : findings.map Diagnostic.content = others.map Diagnostic.content)
    (boundaries : List Boundary) :
    Same (first.behind findings boundaries) (second.behind others boundaries) where
  tokens := same.tokens
  stop := same.stop
  findings := by
    simp only [Flow.behind, List.map_append, sameFindings, same.findings]
  boundaries := congrArg (boundaries ++ ·) same.boundaries

theorem deciding_of_content (state : Option Conditional.State) {token other : Token}
    (same : token.content = other.content) :
    deciding source state token = deciding source state other := by
  rw [deciding, Token.beginsDirective_of_content source same, deciding]

theorem endToken_of_rest {first second : Cursor source} (sameRest : first.rest = second.rest) :
    (endToken first).content = (endToken second).content := by
  simp [endToken, Token.content, Token.atStart, Cursor.offset_eq_of_rest sameRest]

/-- Places behind whose trivia stands the same text give the same. -/
theorem same_run (state : Option Conditional.State) (mode : Mode) (first : Cursor source) :
    ∀ {second : Cursor source}, first.SameAhead second ->
      Same (run state mode first) (run state mode second) := by
  fun_induction run state mode first
  case case1 state mode cursor error failed =>
    intro second sameAhead
    rcases (Cursor.sameReading_readToken sameAhead).of_error failed with ⟨other, alsoFailed⟩
    rw [run_of_error alsoFailed]
    exact ⟨rfl, rfl, rfl, rfl⟩
  case case2 state mode cursor after token read atEnd =>
    intro second sameAhead
    rcases (Cursor.sameReading_readToken sameAhead).of_ok read with
      ⟨other, alsoRead, sameToken, sameRest⟩
    rw [run_of_endOfFile alsoRead (Token.kind_eq_of_content sameToken ▸ atEnd)]
    have sameEnd := endToken_of_rest sameRest
    refine Same.emit ⟨rfl, rfl, rfl, rfl⟩ ?_
    split
    · exact sameToken
    · exact sameEnd
  case case3 state mode cursor after token read notEnd current decides text unmatched =>
    intro second sameAhead
    rcases (Cursor.sameReading_readToken sameAhead).of_ok read with
      ⟨other, alsoRead, sameToken, sameRest⟩
    rcases Directive.readText_of_rest sameRest with ⟨sameText, _⟩
    have alsoNotEnd : other.kind ≠ .endOfFile := Token.kind_eq_of_content sameToken ▸ notEnd
    rw [deciding_of_content state sameToken] at decides
    have alsoUnmatched : current.apply
        (.ofText (Directive.readText second.readToken.2).1) mode.region = none := by
      rw [← sameText]
      exact unmatched
    rw [run_of_unmatched alsoRead alsoNotEnd decides alsoUnmatched]
    exact ⟨rfl, rfl, rfl, rfl⟩
  case case4 state mode cursor after token read notEnd current decides text outcome next applied
      inductionHypothesis =>
    intro second sameAhead
    rcases (Cursor.sameReading_readToken sameAhead).of_ok read with
      ⟨other, alsoRead, sameToken, sameRest⟩
    rcases Directive.readText_of_rest sameRest with ⟨sameText, samePlace⟩
    have alsoNotEnd : other.kind ≠ .endOfFile := Token.kind_eq_of_content sameToken ▸ notEnd
    rw [deciding_of_content state sameToken] at decides
    have alsoApplied : current.apply
        (.ofText (Directive.readText second.readToken.2).1) mode.region =
          some (outcome, next) := by
      rw [← sameText]
      exact applied
    rw [run_of_applied alsoRead alsoNotEnd decides alsoApplied,
      ← Token.span_eq_of_content sameToken]
    have sameLater := Cursor.sameAhead_of_rest samePlace
    exact (inductionHypothesis sameLater).behind rfl _
  case case5 state cursor after token read notEnd unhandled inductionHypothesis =>
    intro second sameAhead
    rcases (Cursor.sameReading_readToken sameAhead).of_ok read with
      ⟨other, alsoRead, sameToken, sameRest⟩
    have alsoNotEnd : other.kind ≠ .endOfFile := Token.kind_eq_of_content sameToken ▸ notEnd
    rw [deciding_of_content state sameToken] at unhandled
    rw [run_of_token alsoRead alsoNotEnd unhandled]
    have sameLater := Cursor.sameAhead_of_rest sameRest
    exact (inductionHypothesis sameLater).emit sameToken
  case case6 state cursor after token read notEnd unhandled checks progress searched
      inductionHypothesis =>
    intro second sameAhead
    rcases (Cursor.sameReading_readToken sameAhead).of_ok read with
      ⟨other, alsoRead, sameToken, sameRest⟩
    have alsoNotEnd : other.kind ≠ .endOfFile := Token.kind_eq_of_content sameToken ▸ notEnd
    have sameSearch := HiddenContent.stepIf_of_content checks progress sameToken
    rw [deciding_of_content state sameToken] at unhandled
    rw [run_of_excluded_token alsoRead alsoNotEnd unhandled, ← congrArg Prod.snd sameSearch]
    have sameLater := Cursor.sameAhead_of_rest sameRest
    refine (inductionHypothesis sameLater).behind ?_ _
    have sameFinding := congrArg Prod.fst sameSearch
    simpa [Option.toList_map] using congrArg Option.toList sameFinding

end Flow
end HeaderScan
