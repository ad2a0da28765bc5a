import HeaderScan.Proofs.Lexeme.Numeral
import HeaderScan.Proofs.Lexeme.Quoted
import HeaderScan.RawToken

namespace HeaderScan

open Text
open CharClass (isIdentifierStart isIdentifierContinue isDigit isSign isWhitespace
  isIdentifierStart_eq_false_of_isDigit)
open scoped Computability

/-!
The grammar of tokens, and that the scanner follows it.

`Lexeme.Reads` says what a text begins with, clause by clause and by longest and shortest words
of languages; it knows nothing of cursors and takes no steps.  A text that begins with neither
trivia nor the end of the file has exactly one reading, and `readToken_eq_of_reads` says that the
token at a cursor is the one which this reading describes.
-/

namespace Lexeme

/-! ## The grammar -/

/-- What a text is found to begin with: a word of a kind, or the cause for which it is refused. -/
abbrev Reading := Except ScanError.Cause (TokenKind × List Char)

/-- The reading of a word that has to be shorter than a limit, in bytes. -/
def limited (limit : Nat) (tooLong : ScanError.Cause) (kind : TokenKind) (word : List Char) :
    Reading :=
  if byteLength word < limit then .ok (kind, word) else .error tooLong

/-- The beginnings of numerals: a digit, a sign and a digit, a sign, a point and a digit, or a
point and a digit. -/
def numeralOpening : Language Char :=
  anyOf isDigit + anyOf isSign * anyOf isDigit +
    anyOf isSign * (anyOf (· == '.') * anyOf isDigit) + anyOf (· == '.') * anyOf isDigit

/-- One character between single quotes, or a backslash and one character. -/
def characterForm : Language Char :=
  {word | (∃ c, c ≠ '\\' ∧ word = ['\'', c, '\'']) ∨ ∃ c, word = ['\'', '\\', c, '\'']}

def BeginsIdentifier (text : List Char) : Prop :=
  ∃ c ∈ text.head?, isIdentifierStart c = true

def BeginsNumeral (text : List Char) : Prop :=
  ∃ opening ∈ numeralOpening, opening <+: text

/-- Neither a word nor a numeral nor quoted text. -/
def BeginsSymbol (text : List Char) : Prop :=
  ¬ BeginsIdentifier text ∧ ¬ BeginsNumeral text ∧ text.head? ≠ some '\'' ∧ text.head? ≠ some '"'

/-- The grammar of tokens, one clause for each way in which a text can begin. -/
inductive Reads : List Char → Reading → Prop
  | identifier {text word : List Char} : BeginsIdentifier text ->
      IsLongestFront (anyOf isIdentifierContinue)∗ word text ->
      Reads text (limited nameLimit .identifierTooLong .identifier word)
  | numeral {text word : List Char} {kind : TokenKind} : BeginsNumeral text ->
      IsLongestFront Numeral.form word text -> Numeral.HasKind word kind ->
      Reads text (limited nameLimit .numberTooLong kind word)
  | character {text word : List Char} : word ∈ characterForm -> word <+: text ->
      Reads text (.ok (.charConst, word))
  | openCharacter {later : List Char} : (∀ word ∈ characterForm, ¬ word <+: '\'' :: later) ->
      Reads ('\'' :: later) (.error .unterminatedChar)
  | string {later body : List Char} : IsShortestFront closedForm body later ->
      Reads ('"' :: later) (limited stringLimit .stringTooLong .stringConst ('"' :: body))
  | openString {later : List Char} : (∀ body ∈ closedForm, ¬ body <+: later) ->
      Reads ('"' :: later) (.error .unterminatedString)
  | compound {first second : Char} {later : List Char} :
      BeginsSymbol (first :: second :: later) -> (first, second) ∈ Operator.compounds ->
      Reads (first :: second :: later) (.ok (.symbol, [first, second]))
  | single {first : Char} {later : List Char} : BeginsSymbol (first :: later) ->
      (∀ second ∈ later.head?, (first, second) ∉ Operator.compounds) ->
      Reads (first :: later) (.ok (.symbol, [first]))

/-- What a lexeme says about the text at whose front it stands. -/
def reading (lexeme : Lexeme) : Reading :=
  lexeme.verdict.map (·, lexeme.text)

/-! ## What the beginnings exclude -/

variable {text word later : List Char} {first c : Char} {kind other : TokenKind}

theorem isIdentifierStart_eq_false_of_isSign (sign : isSign c = true) :
    isIdentifierStart c = false := by
  simp only [isSign, Bool.or_eq_true, beq_iff_eq] at sign
  rcases sign with rfl | rfl <;> decide

theorem beginsIdentifier_cons :
    BeginsIdentifier (first :: later) ↔ isIdentifierStart first = true := by
  simp [BeginsIdentifier]

/-- The four beginnings of a numeral, by the characters themselves. -/
theorem mem_numeralOpening :
    word ∈ numeralOpening ↔
      (∃ d, isDigit d = true ∧ word = [d]) ∨
        (∃ s d, isSign s = true ∧ isDigit d = true ∧ word = [s, d]) ∨
          (∃ s d, isSign s = true ∧ isDigit d = true ∧ word = [s, '.', d]) ∨
            ∃ d, isDigit d = true ∧ word = ['.', d] := by
  simp only [numeralOpening, Language.mem_add, Language.mem_mul, mem_anyOf, beq_iff_eq]
  constructor
  · rintro (((⟨d, digit, rfl⟩ | ⟨_, ⟨s, sign, rfl⟩, _, ⟨d, digit, rfl⟩, rfl⟩) |
      ⟨_, ⟨s, sign, rfl⟩, _, ⟨_, ⟨_, rfl, rfl⟩, _, ⟨d, digit, rfl⟩, rfl⟩, rfl⟩) |
      ⟨_, ⟨_, rfl, rfl⟩, _, ⟨d, digit, rfl⟩, rfl⟩)
    · exact Or.inl ⟨d, digit, rfl⟩
    · exact Or.inr (Or.inl ⟨s, d, sign, digit, rfl⟩)
    · exact Or.inr (Or.inr (Or.inl ⟨s, d, sign, digit, rfl⟩))
    · exact Or.inr (Or.inr (Or.inr ⟨d, digit, rfl⟩))
  · rintro (⟨d, digit, rfl⟩ | ⟨s, d, sign, digit, rfl⟩ | ⟨s, d, sign, digit, rfl⟩ |
      ⟨d, digit, rfl⟩)
    · exact Or.inl (Or.inl (Or.inl ⟨d, digit, rfl⟩))
    · exact Or.inl (Or.inl (Or.inr ⟨[s], ⟨s, sign, rfl⟩, [d], ⟨d, digit, rfl⟩, rfl⟩))
    · exact Or.inl (Or.inr ⟨[s], ⟨s, sign, rfl⟩, ['.', d],
        ⟨['.'], ⟨'.', rfl, rfl⟩, [d], ⟨d, digit, rfl⟩, rfl⟩, rfl⟩)
    · exact Or.inr ⟨['.'], ⟨'.', rfl, rfl⟩, [d], ⟨d, digit, rfl⟩, rfl⟩

/-- The scanner tells a numeral by its beginning. -/
theorem startsAt_iff : Numeral.startsAt text = true ↔ BeginsNumeral text := by
  unfold BeginsNumeral
  simp only [mem_numeralOpening]
  constructor
  · intro starts
    unfold Numeral.startsAt at starts
    split at starts
    · cases starts
    next c later =>
      split at starts
      next digit => exact ⟨[c], Or.inl ⟨c, digit, rfl⟩, by simp⟩
      split at starts
      next sign =>
        match later, starts with
        | d :: later, starts =>
          by_cases digit : isDigit d = true
          · exact ⟨[c, d], Or.inr (Or.inl ⟨c, d, sign, digit, rfl⟩), by simp⟩
          · match later, starts with
            | e :: later, starts =>
              have point : d = '.' ∧ isDigit e = true := by
                simpa [Numeral.beginsWithDigit, digit] using starts
              exact ⟨[c, '.', e], Or.inr (Or.inr (Or.inl ⟨c, e, sign, point.2, rfl⟩)),
                by simp [point.1]⟩
            | [], starts => simp [Numeral.beginsWithDigit, digit] at starts
        | [], starts => simp [Numeral.beginsWithDigit] at starts
      · match later, starts with
        | d :: later, starts =>
          have point : c = '.' ∧ isDigit d = true := by
            simpa [Numeral.beginsWithDigit] using starts
          exact ⟨['.', d], Or.inr (Or.inr (Or.inr ⟨d, point.2, rfl⟩)), by simp [point.1]⟩
        | [], starts => simp [Numeral.beginsWithDigit] at starts
  · rintro ⟨_, ⟨d, digit, rfl⟩ | ⟨s, d, sign, digit, rfl⟩ | ⟨s, d, sign, digit, rfl⟩ |
      ⟨d, digit, rfl⟩, later, rfl⟩
    · simp [Numeral.startsAt, digit]
    · simp [Numeral.startsAt, Numeral.beginsWithDigit, sign, digit]
    · simp [Numeral.startsAt, Numeral.beginsWithDigit, sign, digit]
    · simp [Numeral.startsAt, Numeral.beginsWithDigit, digit]

/-- No numeral begins like an identifier or with a quote. -/
theorem BeginsNumeral.excludes (begins : BeginsNumeral text) :
    ¬ BeginsIdentifier text ∧ text.head? ≠ some '\'' ∧ text.head? ≠ some '"' := by
  rcases begins with ⟨opening, isOpening, later, rfl⟩
  have notQuote : ∀ c : Char, isDigit c = true ∨ isSign c = true -> c ≠ '\'' ∧ c ≠ '"' := by
    intro c digitOrSign
    constructor <;> rintro rfl <;> revert digitOrSign <;> decide
  rcases mem_numeralOpening.mp isOpening with
    ⟨d, digit, rfl⟩ | ⟨s, d, sign, -, rfl⟩ | ⟨s, d, sign, -, rfl⟩ | ⟨d, -, rfl⟩
  · simpa [beginsIdentifier_cons, isIdentifierStart_eq_false_of_isDigit digit] using
      notQuote d (Or.inl digit)
  · simpa [beginsIdentifier_cons, isIdentifierStart_eq_false_of_isSign sign] using
      notQuote s (Or.inr sign)
  · simpa [beginsIdentifier_cons, isIdentifierStart_eq_false_of_isSign sign] using
      notQuote s (Or.inr sign)
  · have notStart : isIdentifierStart '.' = false := by decide
    simp [beginsIdentifier_cons, notStart]

/-! ## The scanner's choice among the clauses -/

theorem read_of_beginsIdentifier (begins : isIdentifierStart first = true) :
    read (first :: later) = identifier first later :=
  if_pos begins

theorem read_of_beginsNumeral (begins : BeginsNumeral text) : read text = numeral text := by
  have starts := startsAt_iff.mpr begins
  have noIdentifier := begins.excludes.1
  cases text with
  | nil => cases starts
  | cons first later =>
    rw [beginsIdentifier_cons] at noIdentifier
    simp [read, noIdentifier, starts]

theorem read_quote (later : List Char) : read ('\'' :: later) = character ('\'' :: later) := by
  have noIdentifier : isIdentifierStart '\'' = false := by decide
  have noNumeral : Numeral.startsAt ('\'' :: later) = false := rfl
  simp [read, noIdentifier, noNumeral]

theorem read_doubleQuote (later : List Char) : read ('"' :: later) = string later := by
  have noIdentifier : isIdentifierStart '"' = false := by decide
  have noNumeral : Numeral.startsAt ('"' :: later) = false := rfl
  simp [read, noIdentifier, noNumeral]

theorem read_of_beginsSymbol (begins : BeginsSymbol (first :: later)) :
    read (first :: later) = symbol first later := by
  rcases begins with ⟨noIdentifier, noNumeral, noQuote, noDoubleQuote⟩
  rw [beginsIdentifier_cons] at noIdentifier
  rw [← startsAt_iff] at noNumeral
  have notSingle : first ≠ '\'' := fun same => noQuote (congrArg some same)
  have notDouble : first ≠ '"' := fun same => noDoubleQuote (congrArg some same)
  simp [read, noIdentifier, noNumeral, notSingle, notDouble]

/-! ## The readings of the lexemes -/

theorem reading_within (limit : Nat) (tooLong : ScanError.Cause) (kind : TokenKind)
    (text : List Char) :
    reading ⟨text, within limit tooLong kind text⟩ = limited limit tooLong kind text := by
  unfold reading within limited
  split <;> rfl

theorem longest_identifier (begins : isIdentifierStart first = true) (later : List Char) :
    IsLongestFront (anyOf isIdentifierContinue)∗ (identifier first later).text
      (first :: later) := by
  have goesOn := CharClass.isIdentifierContinue_of_isIdentifierStart begins
  have whole := IsLongestFront.takeWhile isIdentifierContinue (first :: later)
  rwa [List.takeWhile_cons_of_pos goesOn] at whole

/-- A word of the form is what is read at its front. -/
theorem reading_character_of_isPrefix (isWord : word ∈ characterForm) (isFront : word <+: text) :
    (character text).reading = .ok (.charConst, word) := by
  rcases isFront with ⟨back, rfl⟩
  rcases isWord with ⟨c, plain, rfl⟩ | ⟨c, rfl⟩
  · simp [character, characterSize, reading, plain, Except.map]
  · simp [character, characterSize, reading, Except.map]

/-- Where no word of the form stands, the reading is refused. -/
theorem reading_character_of_absent (absent : ∀ word ∈ characterForm, ¬ word <+: '\'' :: later) :
    (character ('\'' :: later)).reading = .error .unterminatedChar := by
  have unclosed : ('\'' :: later)[characterSize ('\'' :: later) - 1]? ≠ some '\'' := by
    intro closed
    rcases later with _ | ⟨c, _ | ⟨d, later⟩⟩
    · simp [characterSize] at closed
    · by_cases isBackslash : c = '\\' <;> simp [characterSize, isBackslash] at closed
    · by_cases isBackslash : c = '\\'
      · cases later with
        | nil => simp [characterSize, isBackslash] at closed
        | cons e later =>
          have isQuote : e = '\'' := by simpa [characterSize, isBackslash] using closed
          exact absent ['\'', '\\', d, '\''] (Or.inr ⟨d, rfl⟩) (by simp [isBackslash, isQuote])
      · have isQuote : d = '\'' := by simpa [characterSize, isBackslash] using closed
        exact absent ['\'', c, '\''] (Or.inl ⟨c, isBackslash, rfl⟩) (by simp [isQuote])
  have taken : (('\'' :: later).take (characterSize ('\'' :: later)))[
      characterSize ('\'' :: later) - 1]? =
        ('\'' :: later)[characterSize ('\'' :: later) - 1]? := by
    rw [List.getElem?_take_of_lt]
    unfold characterSize
    split <;> decide
  simp [character, reading, taken, unclosed, Except.map]

theorem reading_symbol_of_mem {second : Char} (isPair : (first, second) ∈ Operator.compounds) :
    (symbol first (second :: later)).reading = .ok (.symbol, [first, second]) := by
  rw [symbol, optionalFront_cons, if_pos (Operator.isCompound_iff_mem.mpr isPair)]
  rfl

theorem reading_symbol_of_not_mem
    (noPair : ∀ second ∈ later.head?, (first, second) ∉ Operator.compounds) :
    (symbol first later).reading = .ok (.symbol, [first]) := by
  cases later with
  | nil => rfl
  | cons second later =>
    have isNone := noPair second rfl
    rw [← Operator.isCompound_iff_mem] at isNone
    rw [symbol, optionalFront_cons, if_neg isNone]
    rfl

/-! ## The scanner and the grammar -/

/-- What the scanner reads is a reading. -/
theorem reads_read (nonempty : text ≠ []) : Reads text (read text).reading := by
  cases text with
  | nil => exact absurd rfl nonempty
  | cons first later =>
    by_cases isIdentifier : isIdentifierStart first = true
    · rw [read_of_beginsIdentifier isIdentifier, identifier, reading_within]
      exact .identifier (beginsIdentifier_cons.mpr isIdentifier)
        (longest_identifier isIdentifier later)
    by_cases isNumeral : BeginsNumeral (first :: later)
    · rw [read_of_beginsNumeral isNumeral, numeral, reading_within]
      exact .numeral isNumeral (Numeral.longest_read _) (Numeral.hasKind_read _)
    by_cases isQuote : first = '\''
    · rw [isQuote, read_quote]
      by_cases closed : ∃ word ∈ characterForm, word <+: '\'' :: later
      · rcases closed with ⟨word, isWord, isFront⟩
        rw [reading_character_of_isPrefix isWord isFront]
        exact .character isWord isFront
      · have absent : ∀ word ∈ characterForm, ¬ word <+: '\'' :: later :=
          fun word isWord isFront => closed ⟨word, isWord, isFront⟩
        rw [reading_character_of_absent absent]
        exact .openCharacter absent
    by_cases isDoubleQuote : first = '"'
    · rw [isDoubleQuote, read_doubleQuote]
      unfold string
      split
      next absent => exact .openString (not_isPrefix_of_quotedBody? absent)
      next body found =>
        rw [reading_within]
        exact .string (isShortest_of_quotedBody? found)
    have isSymbol : BeginsSymbol (first :: later) := by
      refine ⟨?_, isNumeral, ?_, ?_⟩
      · rwa [beginsIdentifier_cons]
      · simpa using isQuote
      · simpa using isDoubleQuote
    rw [read_of_beginsSymbol isSymbol]
    cases later with
    | nil =>
      have noPair : ∀ second ∈ ([] : List Char).head?, (first, second) ∉ Operator.compounds := by
        intro second impossible
        cases impossible
      rw [reading_symbol_of_not_mem noPair]
      exact .single isSymbol noPair
    | cons second later =>
      by_cases isPair : (first, second) ∈ Operator.compounds
      · rw [reading_symbol_of_mem isPair]
        exact .compound isSymbol isPair
      · have noPair : ∀ other ∈ (second :: later).head?, (first, other) ∉ Operator.compounds := by
          simpa using isPair
        rw [reading_symbol_of_not_mem noPair]
        exact .single isSymbol noPair

/-- A reading is what the scanner reads. -/
theorem Reads.eq_read {result : Reading} (reads : Reads text result) :
    result = (read text).reading := by
  cases reads with
  | @identifier _ word begins longest =>
    cases text with
    | nil => simp [BeginsIdentifier] at begins
    | cons first later =>
      rw [beginsIdentifier_cons] at begins
      rw [read_of_beginsIdentifier begins, longest.unique (longest_identifier begins later)]
      exact (reading_within _ _ _ _).symm
  | @numeral _ word kind begins longest hasKind =>
    have sameWord := longest.unique (Numeral.longest_read text)
    rw [sameWord] at hasKind
    have sameKind := hasKind.unique (Numeral.hasKind_read text)
    rw [read_of_beginsNumeral begins, sameWord, sameKind]
    exact (reading_within _ _ _ _).symm
  | @character _ word isWord isFront =>
    have isQuote : ∃ later, text = '\'' :: later := by
      rcases isFront with ⟨back, rfl⟩
      rcases isWord with ⟨c, -, rfl⟩ | ⟨c, rfl⟩ <;> exact ⟨_, rfl⟩
    rcases isQuote with ⟨later, rfl⟩
    rw [read_quote, reading_character_of_isPrefix isWord isFront]
  | openCharacter absent => rw [read_quote, reading_character_of_absent absent]
  | @string later body shortest =>
    rw [read_doubleQuote, Lexeme.string]
    split
    next absent =>
      exact absurd shortest.isFront (not_isPrefix_of_quotedBody? absent _ shortest.isWord)
    next found =>
      rw [shortest.unique (isShortest_of_quotedBody? found)]
      exact (reading_within _ _ _ _).symm
  | @openString later absent =>
    rw [read_doubleQuote, Lexeme.string]
    split
    · rfl
    next body found =>
      have shortest := isShortest_of_quotedBody? found
      exact absurd shortest.isFront (absent body shortest.isWord)
  | compound begins isPair => rw [read_of_beginsSymbol begins, reading_symbol_of_mem isPair]
  | single begins noPair => rw [read_of_beginsSymbol begins, reading_symbol_of_not_mem noPair]

end Lexeme

/-- White space or the mark that opens a comment stands at the front of a text. -/
def BeginsTrivia (text : List Char) : Prop :=
  (∃ c ∈ text.head?, isWhitespace c = true) ∨ ['/', '/'] <+: text ∨ ['/', '*'] <+: text

theorem first?_eq_none {text : List Char} (noTrivia : ¬ BeginsTrivia text) :
    TriviaItem.first? text = none := by
  unfold TriviaItem.first?
  split
  case h_7 => rfl
  all_goals exact absurd (by simp [BeginsTrivia, isWhitespace]) noTrivia

namespace Cursor

variable {source : List Char}

/-- The token at the cursor, or the refusal, that a reading describes. -/
def tokenOf (cursor : Cursor source) : Lexeme.Reading → Except ScanError Token
  | .error cause => .error ⟨cause, cursor.position⟩
  | .ok (kind, word) =>
    .ok
      { kind := kind
        span := ⟨cursor.offset, cursor.offset + byteLength word⟩
        startLine := cursor.line
        endLine := cursor.line + word.count '\n'
        unget := cursor.position
        text := String.ofList word }

theorem afterTrivia_eq_self {cursor : Cursor source} (noTrivia : ¬ BeginsTrivia cursor.rest) :
    cursor.afterTrivia = cursor := by
  have nothing : Trivia.read cursor.rest = [] := by
    rw [Trivia.read, first?_eq_none noTrivia]
  rw [afterTrivia, nothing]
  simp [advance, Trivia.chars]

theorem passTrivia_eq_self {cursor : Cursor source} (noTrivia : ¬ BeginsTrivia cursor.rest) :
    cursor.passTrivia = (.ok (), cursor) := by
  have notOpen : cursor.hasOpenComment = false := by
    rw [hasOpenComment, afterTrivia_eq_self noTrivia, TriviaItem.isOpenComment, beq_eq_false_iff_ne]
    intro opens
    exact noTrivia (Or.inr (Or.inr (opens ▸ List.take_prefix _ _)))
  rw [passTrivia, notOpen, if_neg Bool.false_ne_true, afterTrivia_eq_self noTrivia]

theorem readLexeme_fst (cursor : Cursor source) :
    (cursor.readLexeme cursor.position).1 = cursor.tokenOf (Lexeme.read cursor.rest).reading := by
  unfold readLexeme Lexeme.reading
  cases verdict : (Lexeme.read cursor.rest).verdict with
  | error cause => simp [verdict, Except.map, tokenOf]
  | ok kind => simp [verdict, Except.map, tokenOf, Lexeme.take_length_read_text]

/-- In front of a token, the text has exactly one reading in the grammar, and what the scanner
gives is the token or the refusal that this reading describes.  An accepted word, and nothing
more, is passed. -/
theorem existsUnique_reading_of_readToken (cursor : Cursor source) (unread : cursor.rest ≠ [])
    (noTrivia : ¬ BeginsTrivia cursor.rest) :
    ∃ reading, (∀ other, Lexeme.Reads cursor.rest other ↔ other = reading) ∧
      cursor.readToken.1 = cursor.tokenOf reading ∧
      ∀ kind word, reading = .ok (kind, word) ->
        cursor.readToken.2 = cursor.advance word.length := by
  have atToken : cursor.readToken = cursor.readLexeme cursor.position := by
    rw [readToken, passTrivia_eq_self noTrivia]
  refine ⟨(Lexeme.read cursor.rest).reading, ?_, ?_, ?_⟩
  · intro other
    constructor
    · exact Lexeme.Reads.eq_read
    · rintro rfl
      exact Lexeme.reads_read unread
  · rw [atToken, readLexeme_fst]
  · intro kind word accepted
    have sameText : (Lexeme.read cursor.rest).text = word := by
      unfold Lexeme.reading at accepted
      cases verdict : (Lexeme.read cursor.rest).verdict with
      | error cause =>
        rw [verdict] at accepted
        cases accepted
      | ok kind =>
        rw [verdict] at accepted
        exact congrArg Prod.snd (Except.ok.inj accepted)
    rw [atToken, readLexeme_snd, sameText]

/-- The hypotheses hold in front of a signed numeral that is joined to an operator. -/
theorem existsUnique_reading_of_readToken_numeral :
    (start "-.5e+=".toList).rest ≠ [] ∧ ¬ BeginsTrivia (start "-.5e+=".toList).rest ∧
      ∃ reading, (∀ other, Lexeme.Reads "-.5e+=".toList other ↔ other = reading) ∧
        (start "-.5e+=".toList).readToken.1 = (start "-.5e+=".toList).tokenOf reading ∧
        ∀ kind word, reading = .ok (kind, word) ->
          (start "-.5e+=".toList).readToken.2 = (start "-.5e+=".toList).advance word.length := by
  have unread : (start "-.5e+=".toList).rest ≠ [] := by decide
  have noTrivia : ¬ BeginsTrivia (start "-.5e+=".toList).rest := by
    simp [BeginsTrivia, start, isWhitespace]
  exact ⟨unread, noTrivia, existsUnique_reading_of_readToken _ unread noTrivia⟩

end Cursor
end HeaderScan
