import HeaderScan.Proofs.Lexeme.Grammar
import HeaderScan.Proofs.Trivia.Gap

namespace HeaderScan

open Text
open CharClass (isIdentifierContinue isDigit isSign isWhitespace)
open scoped Computability

/-!
Words in front of white space.

A word is read from what stands at the front of a text, and sometimes from the character behind
it.  No word goes on over white space unless it is within quotes, and these close the word.  So an
accepted word is read again if as much of what stood behind it stays there as one likes, and then
comes white space or nothing (`Lexeme.Reads.of_endsWord`).
-/

/-! ## Fronts of a text -/

/-- With this text behind it, a word that is not quoted is at its end. -/
def Text.EndsWord (later : List Char) : Prop :=
  ∀ c ∈ later.head?, isWhitespace c = true

theorem Text.endsWord_nil : EndsWord [] := by
  rintro _ ⟨⟩

theorem Text.endsWord_cons {c : Char} (isBlank : isWhitespace c = true) (later : List Char) :
    EndsWord (c :: later) := by
  intro first isFirst
  rwa [← Option.some.inj isFirst]

/-- What has no white space in it does not go beyond white space. -/
theorem Text.EndsWord.isPrefix {front shared later : List Char} (ends : EndsWord later)
    (unbroken : ∀ c ∈ front, isWhitespace c = false) (isFront : front <+: shared ++ later) :
    front <+: shared := by
  rcases Nat.le_total front.length shared.length with atMost | atLeast
  · exact List.prefix_of_prefix_length_le isFront (List.prefix_append shared later) atMost
  · rcases List.prefix_of_prefix_length_le (List.prefix_append shared later) isFront atLeast
      with ⟨extra, rfl⟩
    have behind : extra <+: later := (List.prefix_append_right_inj shared).mp isFront
    cases extra with
    | nil => rw [List.append_nil]
    | cons c rest =>
      rcases behind with ⟨back, rfl⟩
      have isUnbroken := unbroken c (List.mem_append_right shared List.mem_cons_self)
      cases isUnbroken.symm.trans (ends c rfl)

section Fronts

variable {language : Language Char} {inClass : Char → Bool} {word text shared later : List Char}

/-- The longest front in a language without white space is longest in front of white space as
well. -/
theorem Text.IsLongestFront.of_endsWord (longest : IsLongestFront language word text)
    (made : MadeOf language fun c => !isWhitespace c) (isWord : word <+: shared)
    (isShared : shared <+: text) (ends : EndsWord later) :
    IsLongestFront language word (shared ++ later) where
  isFront := isWord.trans (List.prefix_append shared later)
  isWord := longest.isWord
  longest other isOther isFront := by
    have unbroken : ∀ c ∈ other, isWhitespace c = false :=
      fun c member => Bool.not_eq_true' _ ▸ made other isOther c member
    exact longest.longest other isOther ((ends.isPrefix unbroken isFront).trans isShared)

/-- The shortest front in a language is the shortest whatever stands behind it. -/
theorem Text.IsShortestFront.of_isPrefix (shortest : IsShortestFront language word text)
    {other : List Char} (isFront : word <+: other) : IsShortestFront language word other where
  isFront := isFront
  isWord := shortest.isWord
  shortest front isWord isOther := by
    rcases Nat.le_total word.length front.length with atLeast | atMost
    · exact atLeast
    · have within := List.prefix_of_prefix_length_le isOther isFront atMost
      exact shortest.shortest front isWord (within.trans shortest.isFront)

theorem Text.MadeOf.add {first second : Language Char} (madeFirst : MadeOf first inClass)
    (madeSecond : MadeOf second inClass) : MadeOf (first + second) inClass := by
  intro word isWord
  rcases (Language.mem_add _ _ _).mp isWord with isFirst | isSecond
  · exact madeFirst word isFirst
  · exact madeSecond word isSecond

end Fronts

/-! ## Numerals -/

namespace Numeral

/-- The characters of numerals. -/
def isPart (c : Char) : Bool :=
  isSign c || CharClass.isHexDigit c || CharClass.isHexMarker c || c == '.' ||
    CharClass.isExponentMarker c || CharClass.isFloatMarker c || CharClass.isIntegerSuffix c

theorem madeOf_form : MadeOf form isPart := by
  have sign : MadeOf (optional (anyOf isSign)) isPart :=
    (madeOf_anyOf _).optional.mono (by simp +contextual [isPart])
  have digits : MadeOf (anyOf isDigit)∗ isPart :=
    (madeOf_kstar _).mono (by simp +contextual [isPart, isDigit, CharClass.isHexDigit])
  have hexadecimal : MadeOf hexadecimalForm isPart := by
    refine MadeOf.mul ?_ (MadeOf.mul ?_ ?_)
    · refine (madeOf_anyOf _).mono fun c isZero => ?_
      rw [beq_iff_eq.mp isZero]
      rfl
    · exact (madeOf_anyOf _).mono (by simp +contextual [isPart])
    · exact (madeOf_kstar _).mono (by simp +contextual [isPart])
  have fraction : MadeOf fractionForm isPart :=
    (((madeOf_anyOf _).mono (by simp +contextual [isPart])).mul digits).optional
  have exponent : MadeOf exponentForm isPart :=
    (((madeOf_anyOf _).mono (by simp +contextual [isPart])).mul (sign.mul digits)).optional
  have marks : MadeOf
      (optional (anyOf CharClass.isFloatMarker) * (anyOf CharClass.isIntegerSuffix)∗) isPart :=
    ((madeOf_anyOf _).optional.mono (by simp +contextual [isPart])).mul
      ((madeOf_kstar _).mono (by simp +contextual [isPart]))
  exact sign.mul (hexadecimal.add (digits.mul (fraction.mul (exponent.mul marks))))

/-- No white space is in a numeral. -/
theorem isWhitespace_eq_false {c : Char} (inside : isPart c = true) : isWhitespace c = false := by
  rw [← Bool.not_eq_true]
  intro isBlank
  rcases CharClass.isWhitespace_iff.mp isBlank with rfl | rfl | rfl | rfl <;> cases inside

/-- Digits with a fraction behind them are decimal numerals, without any of the other parts. -/
theorem mem_decimalForm {digits fraction : List Char} (areDigits : digits ∈ (anyOf isDigit)∗)
    (isFraction : fraction ∈ fractionForm) : digits ++ fraction ∈ decimalForm := by
  have noExponent : [] ∈ exponentForm := mem_optional.mpr (Or.inl rfl)
  have noMarks : [] ∈ optional (anyOf CharClass.isFloatMarker) *
      (anyOf CharClass.isIntegerSuffix)∗ :=
    Language.append_mem_mul (mem_optional.mpr (Or.inl rfl)) (Language.nil_mem_kstar _)
  have others := Language.append_mem_mul noExponent noMarks
  have whole := Language.append_mem_mul areDigits (Language.append_mem_mul isFraction others)
  rwa [List.append_nil, List.append_nil] at whole

theorem mem_form {sign magnitude : List Char} (isSign : sign ∈ optional (anyOf isSign))
    (isDecimal : magnitude ∈ decimalForm) : sign ++ magnitude ∈ form :=
  Language.append_mem_mul isSign ((Language.mem_add _ _ _).mpr (Or.inr isDecimal))

end Numeral

namespace Lexeme

variable {text word shared later : List Char} {kind : TokenKind} {result : Reading}

/-- The beginning of a numeral is a numeral. -/
theorem mem_form_of_mem_numeralOpening {opening : List Char}
    (isOpening : opening ∈ numeralOpening) : opening ∈ Numeral.form := by
  have noSign : [] ∈ optional (anyOf isSign) := mem_optional.mpr (Or.inl rfl)
  have noFraction : [] ∈ Numeral.fractionForm := mem_optional.mpr (Or.inl rfl)
  have oneDigit : ∀ d, isDigit d = true -> [d] ∈ (anyOf isDigit)∗ := by
    intro d digit
    rw [mem_kstar_anyOf]
    intro c member
    rw [List.mem_singleton.mp member]
    exact digit
  have oneSign : ∀ s, isSign s = true -> [s] ∈ optional (anyOf isSign) :=
    fun s sign => mem_optional.mpr (Or.inr ⟨s, sign, rfl⟩)
  have pointAndDigit : ∀ d, isDigit d = true -> ['.', d] ∈ Numeral.fractionForm := by
    intro d digit
    have point : ['.'] ∈ anyOf (· == '.') := ⟨'.', rfl, rfl⟩
    exact mem_optional.mpr (Or.inr (Language.append_mem_mul point (oneDigit d digit)))
  have noDigits : [] ∈ (anyOf isDigit)∗ := Language.nil_mem_kstar _
  rcases mem_numeralOpening.mp isOpening with
    ⟨d, digit, rfl⟩ | ⟨s, d, sign, digit, rfl⟩ | ⟨s, d, sign, digit, rfl⟩ | ⟨d, digit, rfl⟩
  · exact Numeral.mem_form noSign (Numeral.mem_decimalForm (oneDigit d digit) noFraction)
  · exact Numeral.mem_form (oneSign s sign)
      (Numeral.mem_decimalForm (oneDigit d digit) noFraction)
  · exact Numeral.mem_form (oneSign s sign)
      (Numeral.mem_decimalForm noDigits (pointAndDigit d digit))
  · exact Numeral.mem_form noSign (Numeral.mem_decimalForm noDigits (pointAndDigit d digit))

/-! ## What a word begins with -/

theorem ne_nil_of_isPrefix (isFront : word <+: text) (nonempty : word ≠ []) : text ≠ [] := by
  rintro rfl
  exact nonempty (List.prefix_nil.mp isFront)

/-- No white space is in an identifier. -/
theorem isWhitespace_eq_false_of_isIdentifierContinue {c : Char}
    (goesOn : isIdentifierContinue c = true) : isWhitespace c = false := by
  rw [← Bool.not_eq_true]
  intro isBlank
  rcases CharClass.isWhitespace_iff.mp isBlank with rfl | rfl | rfl | rfl <;> cases goesOn

theorem BeginsIdentifier.of_isPrefix (begins : BeginsIdentifier text) (isFront : word <+: text)
    (nonempty : word ≠ []) (later : List Char) : BeginsIdentifier (word ++ later) := by
  rcases isFront with ⟨back, rfl⟩
  cases word with
  | nil => exact absurd rfl nonempty
  | cons c rest => exact begins

/-- A text in front of white space begins a numeral only by itself. -/
theorem BeginsNumeral.of_endsWord (begins : BeginsNumeral (shared ++ later))
    (ends : EndsWord later) : BeginsNumeral shared := by
  rcases begins with ⟨opening, isOpening, isFront⟩
  have unbroken : ∀ c ∈ opening, isWhitespace c = false := fun c member =>
    Numeral.isWhitespace_eq_false
      (Numeral.madeOf_form opening (mem_form_of_mem_numeralOpening isOpening) c member)
  exact ⟨opening, isOpening, ends.isPrefix unbroken isFront⟩

theorem BeginsSymbol.of_endsWord {first : Char} {rest back : List Char}
    (begins : BeginsSymbol (first :: back)) (isShared : rest <+: back) (ends : EndsWord later) :
    BeginsSymbol (first :: (rest ++ later)) := by
  rcases begins with ⟨noIdentifier, noNumeral, noQuote, noDoubleQuote⟩
  refine ⟨noIdentifier, ?_, noQuote, noDoubleQuote⟩
  intro isNumeral
  rw [← List.cons_append] at isNumeral
  rcases isNumeral.of_endsWord ends with ⟨opening, isOpening, isFront⟩
  exact noNumeral
    ⟨opening, isOpening, isFront.trans (List.cons_prefix_cons.mpr ⟨rfl, isShared⟩)⟩

theorem noPair_of_endsWord {first : Char} {rest back : List Char}
    (noPair : ∀ second ∈ back.head?, (first, second) ∉ Operator.compounds)
    (isShared : rest <+: back) (ends : EndsWord later) :
    ∀ second ∈ (rest ++ later).head?, (first, second) ∉ Operator.compounds := by
  intro second isNext isPair
  cases rest with
  | nil =>
    have isBlank := CharClass.isWhitespace_iff.mp (ends second isNext)
    rcases isBlank with rfl | rfl | rfl | rfl <;> simp [Operator.compounds] at isPair
  | cons c rest =>
    rcases isShared with ⟨more, rfl⟩
    exact noPair second isNext isPair

/-! ## Reading a word again -/

theorem eq_of_limited_eq_ok {limit : Nat} {tooLong : ScanError.Cause} {other : TokenKind}
    {read : List Char} (accepted : limited limit tooLong other read = .ok (kind, word)) :
    read = word := by
  unfold limited at accepted
  split at accepted
  · exact congrArg Prod.snd (Except.ok.inj accepted)
  · cases accepted

/-- A word that is accepted at the front of a text is accepted again if a part of the text stays and
white space or nothing comes behind it. -/
theorem Reads.of_endsWord (reads : Reads text result) (accepted : result = .ok (kind, word))
    (isWord : word <+: shared) (isShared : shared <+: text) (ends : EndsWord later) :
    Reads (shared ++ later) result := by
  cases reads with
  | @identifier _ read begins longest =>
    have same := eq_of_limited_eq_ok accepted
    subst same
    have nonempty : read ≠ [] := by
      rcases begins with ⟨c, isFirst, isStart⟩
      have goesOn := CharClass.isIdentifierContinue_of_isIdentifierStart isStart
      have isFront : [c] <+: text := by
        rcases List.head?_eq_some_iff.mp isFirst with ⟨rest, rfl⟩
        exact ⟨rest, rfl⟩
      have atLeast := longest.longest [c] (mem_kstar_anyOf.mpr (by simpa using goesOn)) isFront
      exact List.length_pos_iff.mp atLeast
    have unbroken : MadeOf (anyOf isIdentifierContinue)∗ fun c => !isWhitespace c :=
      (madeOf_kstar _).mono fun c goesOn => by
        rw [isWhitespace_eq_false_of_isIdentifierContinue goesOn]
        rfl
    exact .identifier (begins.of_isPrefix isShared (ne_nil_of_isPrefix isWord nonempty) later)
      (longest.of_endsWord unbroken isWord isShared ends)
  | @numeral _ read readKind begins longest hasKind =>
    have same := eq_of_limited_eq_ok accepted
    subst same
    rcases begins with ⟨opening, isOpening, isFront⟩
    have isForm := mem_form_of_mem_numeralOpening isOpening
    have atMost := longest.longest opening isForm isFront
    have within := List.prefix_of_prefix_length_le isFront longest.isFront atMost
    have unbroken : MadeOf Numeral.form fun c => !isWhitespace c :=
      Numeral.madeOf_form.mono fun c isPart => by
        rw [Numeral.isWhitespace_eq_false isPart]
        rfl
    exact .numeral
      ⟨opening, isOpening, within.trans (isWord.trans (List.prefix_append shared later))⟩
      (longest.of_endsWord unbroken isWord isShared ends) hasKind
  | @character _ read isCharacter isFront =>
    have same : read = word := congrArg Prod.snd (Except.ok.inj accepted)
    subst same
    exact .character isCharacter (isWord.trans (List.prefix_append shared later))
  | openCharacter => cases accepted
  | @string back body shortest =>
    have same := eq_of_limited_eq_ok accepted
    subst same
    rcases isWord with ⟨rest, rfl⟩
    rw [List.cons_append, List.cons_append, List.append_assoc]
    exact .string (shortest.of_isPrefix (List.prefix_append body _))
  | openString => cases accepted
  | @compound first second back begins isPair =>
    have same : [first, second] = word := congrArg Prod.snd (Except.ok.inj accepted)
    subst same
    rcases isWord with ⟨rest, rfl⟩
    have others := (List.cons_prefix_cons.mp isShared).2
    exact .compound (BeginsSymbol.of_endsWord begins others ends) isPair
  | @single first back begins noPair =>
    have same : [first] = word := congrArg Prod.snd (Except.ok.inj accepted)
    subst same
    rcases isWord with ⟨rest, rfl⟩
    have others := (List.cons_prefix_cons.mp isShared).2
    exact .single (BeginsSymbol.of_endsWord begins others ends)
      (noPair_of_endsWord noPair others ends)

theorem reading_of_accepted (accepted : (read text).verdict = .ok kind) :
    (read text).reading = .ok (kind, (read text).text) := by
  rw [reading, accepted]
  rfl

/-- What the scanner accepts at the front of a text it accepts again if a part of the text stays and
white space or nothing comes behind it. -/
theorem read_of_endsWord (nonempty : text ≠ []) (accepted : (read text).verdict = .ok kind)
    (isWord : (read text).text <+: shared) (isShared : shared <+: text) (ends : EndsWord later) :
    (read (shared ++ later)).text = (read text).text ∧
      (read (shared ++ later)).verdict = .ok kind := by
  have isReading := reading_of_accepted accepted
  have again := ((reads_read nonempty).of_endsWord isReading isWord isShared ends).eq_read
  rw [isReading] at again
  unfold reading at again
  cases verdict : (read (shared ++ later)).verdict with
  | error cause =>
    rw [verdict] at again
    cases again
  | ok other =>
    rw [verdict] at again
    have same := Except.ok.inj again
    exact ⟨(congrArg Prod.snd same).symm, congrArg (Except.ok ·.1) same.symm⟩

end Lexeme

/-! ## Trivia in front of a word -/

/-- Where neither an item nor an open comment stands, no trivia begin. -/
theorem not_beginsTrivia {text : List Char} (noItem : TriviaItem.first? text = none)
    (closed : TriviaItem.isOpenComment text = false) : ¬ BeginsTrivia text := by
  rintro (⟨c, isFirst, isBlank⟩ | ⟨back, rfl⟩ | ⟨back, rfl⟩)
  · rcases List.head?_eq_some_iff.mp isFirst with ⟨rest, rfl⟩
    rcases Trivia.first?_blank isBlank rest with ⟨item, found, _⟩
    cases noItem.symm.trans found
  · cases noItem
  · cases closed

/-- What begins with no trivia begins with none if white space comes behind a part of it. -/
theorem not_beginsTrivia_of_endsWord {text shared later : List Char}
    (noTrivia : ¬ BeginsTrivia text) (isShared : shared <+: text) (nonempty : shared ≠ [])
    (ends : EndsWord later) : ¬ BeginsTrivia (shared ++ later) := by
  rintro (⟨c, isFirst, isBlank⟩ | opens | opens)
  · refine noTrivia (Or.inl ⟨c, ?_, isBlank⟩)
    rcases isShared with ⟨back, rfl⟩
    cases shared with
    | nil => exact absurd rfl nonempty
    | cons d rest => exact isFirst
  · have within := ends.isPrefix (by simp [isWhitespace]) opens
    exact noTrivia (Or.inr (Or.inl (within.trans isShared)))
  · have within := ends.isPrefix (by simp [isWhitespace]) opens
    exact noTrivia (Or.inr (Or.inr (within.trans isShared)))

/-- White space in front of a text without trivia is all the trivia there are. -/
theorem Trivia.chars_read_of_blank {blanks text : List Char}
    (areBlank : ∀ c ∈ blanks, isWhitespace c = true) (noTrivia : ¬ BeginsTrivia text) :
    chars (read (blanks ++ text)) = blanks := by
  induction blanks with
  | nil =>
    rw [List.nil_append, read, first?_eq_none noTrivia]
    rfl
  | cons c blanks inductionHypothesis =>
    rcases List.forall_mem_cons.mp areBlank with ⟨isBlank, others⟩
    rcases first?_blank isBlank (blanks ++ text) with ⟨item, found, isPiece⟩
    rw [← List.singleton_append] at found
    have step := chars_read_of_first? found isPiece
    rw [inductionHypothesis others] at step
    exact step

end HeaderScan
