import HeaderScan.Directive.Text
import HeaderScan.Proofs.Reader.SameWords

namespace HeaderScan

open Text
open CharClass (isWhitespace)

/-!
Stripping the comments of a text, and the tokens that are left.

Comments are stripped without reading tokens.  What stands between double quotes is kept, and each
comment leaves white space or ends the text, so that the tokens stay as they are.  But a double
quote between single quotes is taken for one that opens, and from there on what is quoted and what
is not are mistaken for each other.  So a line keeps its tokens if no mark of a comment comes
behind such a character constant, and without this it may lose some.
-/

namespace Directive

/-! ## Marks of comments -/

/-- A mark that opens a comment stands at the front of a text. -/
def BeginsComment (text : List Char) : Prop :=
  ['/', '/'] <+: text ∨ ['/', '*'] <+: text

/-- A mark that opens a comment stands somewhere in a text. -/
def HasMark (text : List Char) : Prop :=
  ['/', '/'] <:+: text ∨ ['/', '*'] <:+: text

instance (text : List Char) : Decidable (HasMark text) :=
  inferInstanceAs (Decidable (_ ∨ _))

theorem hasMark_cons {c : Char} {text : List Char} :
    HasMark (c :: text) ↔ BeginsComment (c :: text) ∨ HasMark text := by
  unfold HasMark BeginsComment
  rw [List.infix_cons_iff, List.infix_cons_iff]
  exact or_or_or_comm

theorem beginsComment_cons_cons {c d : Char} {later : List Char} :
    BeginsComment (c :: d :: later) ↔ c = '/' ∧ (d = '/' ∨ d = '*') := by
  simp only [BeginsComment, List.cons_prefix_cons, List.nil_prefix, and_true]
  rw [← and_or_left, eq_comm (a := c), eq_comm (a := d), eq_comm (a := d)]

/-- A comment begins with a slash. -/
theorem BeginsComment.eq_slash {c : Char} {text : List Char}
    (begins : BeginsComment (c :: text)) : c = '/' := by
  rcases begins with opens | opens <;> exact (List.cons_prefix_cons.mp opens).1.symm

theorem beginsTrivia_of_beginsComment {text : List Char} (begins : BeginsComment text) :
    BeginsTrivia text :=
  Or.inr begins

variable {word body back text : List Char} {c : Char}

/-- A mark does not begin in a text without slashes. -/
theorem hasMark_of_append (noSlash : '/' ∉ word) (marked : HasMark (word ++ back)) :
    HasMark back := by
  induction word with
  | nil => exact marked
  | cons c word inductionHypothesis =>
    rw [List.mem_cons, not_or] at noSlash
    rcases hasMark_cons.mp marked with begins | inner
    · exact absurd begins.eq_slash.symm noSlash.1
    · exact inductionHypothesis noSlash.2 inner

/-! ## Stripping piece by piece -/

/-- What neither is a double quote nor opens a comment is kept. -/
theorem withoutComments_cons (noQuote : c ≠ '"') (noComment : ¬ BeginsComment (c :: text)) :
    withoutComments (c :: text) = c :: withoutComments text := by
  unfold withoutComments
  rw [stripComments]
  · rfl
  · rintro later rfl rfl
    exact noComment (Or.inl ⟨later, rfl⟩)
  · rintro later rfl rfl
    exact noComment (Or.inr ⟨later, rfl⟩)
  · exact noQuote

/-- What holds neither a double quote nor a slash is kept. -/
theorem withoutComments_append (plain : ∀ c ∈ word, c ≠ '"' ∧ c ≠ '/') (back : List Char) :
    withoutComments (word ++ back) = word ++ withoutComments back := by
  induction word with
  | nil => rfl
  | cons c word inductionHypothesis =>
    rcases List.forall_mem_cons.mp plain with ⟨⟨noQuote, noSlash⟩, others⟩
    have noComment : ¬ BeginsComment (c :: (word ++ back)) :=
      fun begins => noSlash begins.eq_slash
    rw [List.cons_append, withoutComments_cons noQuote noComment, inductionHypothesis others]
    rfl

/-- Quoted text is kept up to and with the quote that closes it. -/
theorem stripComments_string (found : Lexeme.quotedBody? text = some body) :
    (stripComments .string text).1 = body ++ withoutComments (text.drop body.length) := by
  fun_induction Lexeme.quotedBody? text generalizing body with
  | case1 => cases found
  | case2 later =>
    rw [← Option.some.inj found]
    rfl
  | case3 escaped later inductionHypothesis =>
    rcases Option.map_eq_some_iff.mp found with ⟨inner, isInner, rfl⟩
    have kept := inductionHypothesis isInner
    simp only [stripComments, stripComments.keep, kept, List.cons_append, List.length_cons,
      List.drop_succ_cons]
  | case4 c later noQuote noEscape inductionHypothesis =>
    rcases Option.map_eq_some_iff.mp found with ⟨inner, isInner, rfl⟩
    have kept := inductionHypothesis isInner
    rw [stripComments, stripComments.keep, kept]
    · rfl
    · exact noEscape
    · exact noQuote

/-- A block comment becomes a space. -/
theorem stripComments_comment (found : TriviaItem.blockBody? text = some body) :
    (stripComments .comment text).1 = ' ' :: withoutComments (text.drop body.length) := by
  fun_induction TriviaItem.blockBody? text generalizing body with
  | case1 => cases found
  | case2 later =>
    rw [← Option.some.inj found]
    rfl
  | case3 c later noMark inductionHypothesis =>
    rcases Option.map_eq_some_iff.mp found with ⟨inner, isInner, rfl⟩
    rw [stripComments, inductionHypothesis isInner]
    · rfl
    · exact noMark

/-- In place of a comment stands a space or nothing. -/
theorem endsWord_comment (text : List Char) : EndsWord (stripComments .comment text).1 := by
  fun_induction TriviaItem.blockBody? text with
  | case1 => exact endsWord_nil
  | case2 later => exact endsWord_cons rfl _
  | case3 c later noMark inductionHypothesis =>
    rw [stripComments]
    · exact inductionHypothesis
    · exact noMark

/-- Without a mark nothing is stripped, whether quotes are open or not. -/
theorem stripComments_of_not_hasMark (nesting : Nesting) (outside : nesting ≠ .comment)
    (noMark : ¬ HasMark text) : (stripComments nesting text).1 = text := by
  fun_induction stripComments nesting text with
  | case1 later => exact absurd (hasMark_cons.mpr (Or.inl (Or.inl ⟨later, rfl⟩))) noMark
  | case2 later => exact absurd (hasMark_cons.mpr (Or.inl (Or.inr ⟨later, rfl⟩))) noMark
  | case3 later inductionHypothesis | case4 c later _ _ _ inductionHypothesis
  | case6 later inductionHypothesis | case7 c later _ _ inductionHypothesis =>
    have others := (not_or.mp (mt hasMark_cons.mpr noMark)).2
    exact congrArg (List.cons _) (inductionHypothesis Nesting.noConfusion others)
  | case5 escaped later inductionHypothesis =>
    have others := (not_or.mp (mt hasMark_cons.mpr noMark)).2
    have others := (not_or.mp (mt hasMark_cons.mpr others)).2
    exact congrArg (['\\', escaped] ++ ·) (inductionHypothesis Nesting.noConfusion others)
  | case8 | case9 | case10 => exact absurd rfl outside
  | case11 | case12 => rfl

/-- What is left of a text is a front of it, and behind that a space or
nothing. -/
theorem exists_stripComments_eq (nesting : Nesting) (outside : nesting ≠ .comment)
    (text : List Char) : ∃ front later, (stripComments nesting text).1 = front ++ later ∧
      front <+: text ∧ EndsWord later := by
  fun_induction stripComments nesting text with
  | case1 later => exact ⟨[], [], rfl, List.nil_prefix, endsWord_nil⟩
  | case2 later => exact ⟨[], _, rfl, List.nil_prefix, endsWord_comment later⟩
  | case3 later inductionHypothesis | case4 c later _ _ _ inductionHypothesis
  | case6 later inductionHypothesis | case7 c later _ _ inductionHypothesis =>
    rcases inductionHypothesis Nesting.noConfusion with ⟨front, back, kept, isFront, ends⟩
    exact ⟨_ :: front, back, congrArg (List.cons _) kept,
      List.cons_prefix_cons.mpr ⟨rfl, isFront⟩, ends⟩
  | case5 escaped later inductionHypothesis =>
    rcases inductionHypothesis Nesting.noConfusion with ⟨front, back, kept, isFront, ends⟩
    exact ⟨'\\' :: escaped :: front, back, congrArg (['\\', escaped] ++ ·) kept,
      List.cons_prefix_cons.mpr ⟨rfl, List.cons_prefix_cons.mpr ⟨rfl, isFront⟩⟩, ends⟩
  | case8 | case9 | case10 => exact absurd rfl outside
  | case11 | case12 => exact ⟨[], [], rfl, List.nil_prefix, endsWord_nil⟩

/-! ## Stripping between tokens and within them -/

/-- Of what stands between two tokens of a line white space is left. -/
theorem exists_withoutComments_gap {gap later : List Char} (isGap : IsGap gap later)
    (oneLine : '\n' ∉ gap) :
    ∃ blanks, withoutComments (gap ++ later) = blanks ++ withoutComments later ∧
      ∀ c ∈ blanks, isWhitespace c = true := by
  induction isGap with
  | nothing => exact ⟨[], rfl, by rintro _ ⟨⟩⟩
  | @blank c gap later isBlank _ inductionHypothesis =>
    rcases inductionHypothesis (fun member => oneLine (List.mem_cons_of_mem c member)) with
      ⟨blanks, stripped, areBlank⟩
    have noQuote : c ≠ '"' := by
      rintro rfl
      cases isBlank
    have noSlash : c ≠ '/' := by
      rintro rfl
      cases isBlank
    refine ⟨c :: blanks, ?_, List.forall_mem_cons.mpr ⟨isBlank, areBlank⟩⟩
    rw [List.cons_append, withoutComments_cons noQuote fun begins => noSlash begins.eq_slash,
      stripped]
    rfl
  | lineComment => exact absurd (by simp) oneLine
  | lastLine => exact ⟨[], rfl, by rintro _ ⟨⟩⟩
  | @blockComment body gap later noMark _ inductionHypothesis =>
    rcases inductionHypothesis (fun member => oneLine (by simp [member])) with
      ⟨blanks, stripped, areBlank⟩
    have found := TriviaItem.blockBody?_of_closed noMark (gap ++ later)
    refine ⟨' ' :: blanks, ?_, List.forall_mem_cons.mpr ⟨rfl, areBlank⟩⟩
    calc withoutComments ('/' :: '*' :: (body ++ '*' :: '/' :: gap) ++ later)
        = (stripComments .comment (body ++ '*' :: '/' :: (gap ++ later))).1 := by
          simp [withoutComments, stripComments]
      _ = ' ' :: withoutComments (gap ++ later) := by
          rw [stripComments_comment found]
          simp
      _ = ' ' :: blanks ++ withoutComments later := by rw [stripped]; rfl

/-- A character between single quotes is kept if it is no double quote. -/
theorem withoutComments_quoted (noQuote : c ≠ '"') (back : List Char) :
    withoutComments (c :: '\'' :: back) = c :: '\'' :: withoutComments back := by
  have noComment : ¬ BeginsComment (c :: '\'' :: back) := by
    rw [beginsComment_cons_cons]
    rintro ⟨_, isMark | isMark⟩ <;> cases isMark
  have closing : ∀ c ∈ ['\''], c ≠ '"' ∧ c ≠ '/' := by simp
  rw [withoutComments_cons noQuote noComment]
  exact congrArg (List.cons c) (withoutComments_append closing back)

/-- A character constant is a character between single quotes, perhaps behind a backslash. -/
theorem exists_of_mem_characterForm (isCharacter : word ∈ Lexeme.characterForm) :
    ∃ opening c, (opening = ['\''] ∨ opening = ['\'', '\\']) ∧ word = opening ++ [c, '\''] := by
  rcases isCharacter with ⟨c, _, rfl⟩ | ⟨c, rfl⟩
  · exact ⟨['\''], c, Or.inl rfl, rfl⟩
  · exact ⟨['\'', '\\'], c, Or.inr rfl, rfl⟩

/-- A character constant is kept if no mark comes behind a double quote in it. -/
theorem withoutComments_character (isCharacter : word ∈ Lexeme.characterForm)
    (apart : '"' ∈ word -> ¬ HasMark back) :
    withoutComments (word ++ back) = word ++ withoutComments back := by
  rcases exists_of_mem_characterForm isCharacter with ⟨opening, c, isOpening, rfl⟩
  have plain : ∀ c ∈ opening, c ≠ '"' ∧ c ≠ '/' := by
    rcases isOpening with rfl | rfl <;> simp
  by_cases isQuote : c = '"'
  · have noMark : ¬ HasMark back := apart (by simp [isQuote])
    have noSlash : '/' ∉ opening ++ [c, '\''] := by
      rw [isQuote, List.mem_append, not_or]
      exact ⟨fun member => (plain _ member).2 rfl, by decide⟩
    have stillNone := mt (hasMark_of_append noSlash) noMark
    rw [withoutComments, stripComments_of_not_hasMark .plain Nesting.noConfusion stillNone,
      withoutComments, stripComments_of_not_hasMark .plain Nesting.noConfusion noMark]
  · rw [List.append_assoc, List.append_assoc, withoutComments_append plain]
    exact congrArg (opening ++ ·) (withoutComments_quoted isQuote back)

/-- Every word is kept, a character constant on the condition above. -/
theorem withoutComments_of_reads {text : List Char} {result : Lexeme.Reading} {kind : TokenKind}
    (reads : Lexeme.Reads text result) (accepted : result = .ok (kind, word))
    (joined : word ++ back = text) (noTrivia : ¬ BeginsTrivia text)
    (apart : kind = .charConst -> '"' ∈ word -> ¬ HasMark back) :
    withoutComments text = word ++ withoutComments back := by
  cases reads with
  | @identifier _ read begins longest =>
    have same := Lexeme.eq_of_limited_eq_ok accepted
    subst same
    rw [← joined]
    refine withoutComments_append (fun c member => ?_) back
    have goesOn := mem_kstar_anyOf.mp longest.isWord c member
    refine ⟨?_, ?_⟩ <;> rintro rfl <;> cases goesOn
  | @numeral _ read readKind begins longest hasKind =>
    have same := Lexeme.eq_of_limited_eq_ok accepted
    subst same
    rw [← joined]
    refine withoutComments_append (fun c member => ?_) back
    have isPart := Numeral.madeOf_form read longest.isWord c member
    refine ⟨?_, ?_⟩ <;> rintro rfl <;> cases isPart
  | @character _ read isCharacter isFront =>
    rcases Except.ok.inj accepted with ⟨⟩
    rw [← joined]
    exact withoutComments_character isCharacter (apart rfl)
  | openCharacter => cases accepted
  | @string later body shortest =>
    have same := Lexeme.eq_of_limited_eq_ok accepted
    subst same
    have behind : body ++ back = later := (List.cons.inj joined).2
    have found : Lexeme.quotedBody? later = some body := by
      cases isBody : Lexeme.quotedBody? later with
      | none =>
        have absent := Lexeme.not_isPrefix_of_quotedBody? isBody body shortest.isWord
        exact absurd shortest.isFront absent
      | some other => rw [(Lexeme.isShortest_of_quotedBody? isBody).unique shortest]
    have kept := stripComments_string found
    rw [← behind, List.drop_left] at kept
    rw [← behind]
    exact congrArg (List.cons '"') kept
  | openString => cases accepted
  | @compound first second later begins isPair =>
    rcases Except.ok.inj accepted with ⟨⟩
    rcases List.append_cancel_left (joined : [first, second] ++ back = [first, second] ++ later)
      with rfl
    have noQuote : first ≠ '"' := fun same => begins.2.2.2 (congrArg some same)
    have others : ∀ pair ∈ Operator.compounds, ∀ c ∈ [pair.2], c ≠ '"' ∧ c ≠ '/' := by
      simp [Operator.compounds]
    rw [withoutComments_cons noQuote (mt beginsTrivia_of_beginsComment noTrivia)]
    exact congrArg (List.cons first) (withoutComments_append (others _ isPair) back)
  | @single first later begins noPair =>
    rcases Except.ok.inj accepted with ⟨⟩
    rcases List.append_cancel_left (joined : [first] ++ back = [first] ++ later) with rfl
    have noQuote : first ≠ '"' := fun same => begins.2.2.2 (congrArg some same)
    exact withoutComments_cons noQuote (mt beginsTrivia_of_beginsComment noTrivia)

/-! ## Tokens of a stripped line -/

/-- No mark of a comment comes behind a character constant that holds a double quote. -/
def QuotesApart (source : List Char) (tokens : List Token) : Prop :=
  ∀ token ∈ tokens, token.kind = .charConst -> '"' ∈ token.text.toList ->
    ∀ parts ∈ splitAt? source token.span.stop, ¬ HasMark parts.2

instance (source : List Char) (tokens : List Token) : Decidable (QuotesApart source tokens) :=
  inferInstanceAs (Decidable (∀ _ ∈ tokens, _))

variable {source : List Char} {cursor : Cursor source} {token : Token}

/-- In a line from which a token can be read, stripping leaves white space, the text of the token
and what is stripped behind it. -/
theorem exists_withoutComments_rest (read : cursor.readToken.1 = .ok token)
    (oneLine : '\n' ∉ source) (apart : QuotesApart source [token]) :
    ∃ blanks, (∀ c ∈ blanks, isWhitespace c = true) ∧ withoutComments cursor.rest =
      blanks ++ (token.text.toList ++ withoutComments cursor.readToken.2.rest) := by
  rcases Cursor.word_readToken read with ⟨text, accepted, noTrivia⟩
  have gap := (Trivia.isLongestGap_read cursor.rest).isGap
  have whole := List.prefix_iff_eq_append.mp (Trivia.read_isPrefix cursor.rest)
  have inLine : '\n' ∉ Trivia.chars (Trivia.read cursor.rest) := by
    intro member
    apply oneLine
    rw [← cursor.passed_append_rest]
    exact List.mem_append_right _ ((Trivia.read_isPrefix _).subset member)
  rcases exists_withoutComments_gap gap inLine with ⟨blanks, stripped, areBlank⟩
  refine ⟨blanks, areBlank, ?_⟩
  rw [whole] at stripped
  have joined := Cursor.text_append_rest_readToken read
  have behind : cursor.rest.drop (Trivia.chars (Trivia.read cursor.rest)).length =
      cursor.afterTrivia.rest := (cursor.rest_advance _).symm
  rw [stripped, behind]
  refine congrArg (blanks ++ ·) ?_
  by_cases unread : cursor.afterTrivia.rest = []
  · rw [unread] at joined ⊢
    rw [(List.append_eq_nil_iff.mp joined).1, (List.append_eq_nil_iff.mp joined).2]
    rfl
  · have reads := Lexeme.reads_read unread
    rw [Lexeme.reading_of_accepted accepted] at reads
    refine withoutComments_of_reads reads (by rw [text]) joined noTrivia fun isConstant quoted => ?_
    have parts := cursor.readToken.2.splitAt?_offset
    have stop : token.span.stop = cursor.readToken.2.offset :=
      congrArg Span.stop (Cursor.place_readToken read).1
    exact apart token List.mem_cons_self isConstant quoted _ (stop ▸ parts)

end Directive

namespace Reader

variable {source printed : List Char} {σ : Type} [DirectiveHandler σ]

/-- How a reader of a line stands to one that reads what is stripped of the first one's rest. -/
structure StripsFor (reader : Reader source σ) (other : Reader printed σ) : Prop where
  isPlain : reader.IsPlain
  otherPlain : other.IsPlain
  rest : other.scanner.cursor.rest = Directive.withoutComments reader.scanner.cursor.rest
  oneLine : '\n' ∉ source
  apart : Directive.QuotesApart source reader.drain.1.tokens

/-- Both readers find the same word. -/
theorem StripsFor.step {reader : Reader source σ} {other : Reader printed σ}
    (strips : StripsFor reader other) {token : Token} (taken : reader.next.1 = .ok token) :
    ∃ again, other.next.1 = .ok again ∧ again.word = token.word ∧
      (token.kind ≠ .endOfFile -> StripsFor reader.next.2 other.next.2) := by
  rcases strips with ⟨isPlain, otherPlain, isRest, oneLine, apart⟩
  have read := readToken_eq_ok_of_next isPlain taken
  by_cases atEnd : token.kind = .endOfFile
  · rw [tokens_drain_of_endOfFile taken atEnd] at apart
    rcases Directive.exists_withoutComments_rest read oneLine apart with
      ⟨blanks, areBlank, stripped⟩
    rcases Cursor.nil_of_endOfFile read atEnd with ⟨noText, nothing⟩
    rw [stripped, noText, nothing] at isRest
    rcases next_again_of_endOfFile read atEnd otherPlain areBlank
      (isRest.trans (List.append_nil _)) with ⟨again, takenAgain, sameWord⟩
    exact ⟨again, takenAgain, sameWord, absurd atEnd⟩
  · rw [tokens_drain_of_token taken atEnd] at apart
    rcases List.forall_mem_cons.mp apart with ⟨apartHere, apartLater⟩
    rcases Directive.exists_withoutComments_rest read oneLine
      (List.forall_mem_singleton.mpr apartHere) with ⟨blanks, areBlank, stripped⟩
    rcases Directive.exists_stripComments_eq .plain Directive.Nesting.noConfusion
      reader.scanner.cursor.readToken.2.rest with ⟨shared, later, cut, isShared, ends⟩
    rw [stripped, Directive.withoutComments, cut] at isRest
    rcases next_again_of_token read atEnd otherPlain isShared ends areBlank isRest with
      ⟨again, takenAgain, sameWord, otherStillPlain, restAgain⟩
    rcases next_of_isPlain isPlain with ⟨_, moved, stillPlain⟩
    refine ⟨again, takenAgain, sameWord, fun _ =>
      ⟨stillPlain, otherStillPlain, ?_, oneLine, apartLater⟩⟩
    rw [moved, restAgain, Directive.withoutComments, cut]

/-- A line that is read without an error has the same tokens when its comments are stripped, unless
the mark of a comment comes behind a character constant that holds a double quote. -/
theorem drain_withoutComments (line : List Char) (oneLine : '\n' ∉ line)
    (complete : (ofSource line (none : Option σ)).drain.1.stop = none)
    (apart : Directive.QuotesApart line (ofSource line (none : Option σ)).drain.1.tokens) :
    let stripped := (ofSource (Directive.withoutComments line) (none : Option σ)).drain.1
    stripped.stop = none ∧ stripped.tokens.map Token.word =
      (ofSource line (none : Option σ)).drain.1.tokens.map Token.word :=
  sameWords_drain (fun _ _ _ strips taken => StripsFor.step strips taken) complete _
    ⟨isPlain_ofSource line σ, isPlain_ofSource _ σ, rfl, oneLine, apart⟩

/-- The hypotheses hold for a line with marks within quotes, quotes within comments, an escaped
quote and, behind all marks, character constants that hold double quotes. -/
theorem drain_withoutComments_literals :
    let line := "if a/**/== \"//\\\"/*\" /* '\"' // */ || '/' <='\"'+\"b\"*'\\\"'".toList
    let drained := (ofSource line (none : Option Conditional)).drain.1
    let stripped := (ofSource (Directive.withoutComments line) (none : Option Conditional)).drain.1
    '\n' ∉ line ∧ drained.stop = none ∧ Directive.QuotesApart line drained.tokens ∧
      stripped.stop = none ∧ stripped.tokens.map Token.word = drained.tokens.map Token.word := by
  intro line drained stripped
  have oneLine : '\n' ∉ line := by decide +kernel
  have complete : drained.stop = none := by decide +kernel
  have apart : Directive.QuotesApart line drained.tokens := by decide +kernel
  exact ⟨oneLine, complete, apart, drain_withoutComments line oneLine complete apart⟩

/-- Two slashes within double quotes are taken for a comment if a double quote between single
quotes stands before them: what is stripped of the line is no longer read without an error. -/
theorem drain_withoutComments_quotedQuote :
    let line := "if '\"' == \"//\" && 0".toList
    let drained := (ofSource line (none : Option Conditional)).drain.1
    let stripped := (ofSource (Directive.withoutComments line) (none : Option Conditional)).drain.1
    '\n' ∉ line ∧ drained.stop = none ∧ Directive.withoutComments line = "if '\"' == \"".toList ∧
      stripped.stop ≠ none ∧
        stripped.tokens.map Token.word ≠ drained.tokens.map Token.word := by
  decide +kernel

end Reader
end HeaderScan
