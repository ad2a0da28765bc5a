import HeaderScan.Lexeme.Numeral
import HeaderScan.Proofs.Text.Longest

namespace HeaderScan
namespace Numeral

open Text
open CharClass (isDigit isHexDigit isSign isHexMarker isExponentMarker isFloatMarker
  isIntegerSuffix)
open scoped Computability

/-!
The language of numerals, and that the numeral which is read is its longest word.

The language is given part by part, and every part may be missing.  The reader never looks back,
so that each part takes all that it can; this finds the longest word because the characters of a
part never begin what may follow it.
-/

/-! ## The language -/

/-- A zero, a marker and any hexadecimal digits. -/
def hexadecimalForm : Language Char :=
  anyOf (· == '0') * (anyOf isHexMarker * (anyOf isHexDigit)∗)

/-- A point and any digits, or nothing. -/
def fractionForm : Language Char :=
  optional (anyOf (· == '.') * (anyOf isDigit)∗)

/-- A marker, perhaps a sign, and any digits, or nothing. -/
def exponentForm : Language Char :=
  optional (anyOf isExponentMarker * (optional (anyOf isSign) * (anyOf isDigit)∗))

/-- Digits, a fraction, an exponent, a float marker and suffix letters. -/
def decimalForm : Language Char :=
  (anyOf isDigit)∗ *
    (fractionForm * (exponentForm * (optional (anyOf isFloatMarker) * (anyOf isIntegerSuffix)∗)))

/-- The numerals: perhaps a sign, and behind it either form. -/
def form : Language Char :=
  optional (anyOf isSign) * (hexadecimalForm + decimalForm)

/-- The hexadecimal numerals. -/
def signedHexadecimalForm : Language Char :=
  optional (anyOf isSign) * hexadecimalForm

/-- The marks of floating point numerals: the point, the exponent's letter and the marker. -/
def isFloatMark (c : Char) : Bool :=
  c == '.' || isExponentMarker c || isFloatMarker c

/-- The kind of token that a numeral makes, told from its characters alone. -/
inductive HasKind (word : List Char) : TokenKind → Prop
  | hexadecimal : word ∈ signedHexadecimalForm -> HasKind word .hexConst
  | float : word ∉ signedHexadecimalForm -> (∃ c ∈ word, isFloatMark c = true) ->
      HasKind word .floatConst
  | decimal : word ∉ signedHexadecimalForm -> (∀ c ∈ word, isFloatMark c = false) ->
      HasKind word .decimalConst

/-- A word has one kind only. -/
theorem HasKind.unique {word : List Char} {kind other : TokenKind} (isKind : HasKind word kind)
    (isOther : HasKind word other) : kind = other := by
  cases isKind with
  | hexadecimal isHex =>
    cases isOther with
    | hexadecimal => rfl
    | float notHex | decimal notHex => exact absurd isHex notHex
  | float notHex marked =>
    cases isOther with
    | hexadecimal isHex => exact absurd isHex notHex
    | float => rfl
    | decimal _ plain =>
      rcases marked with ⟨c, member, isMark⟩
      rw [plain c member] at isMark
      cases isMark
  | decimal notHex plain =>
    cases isOther with
    | hexadecimal isHex => exact absurd isHex notHex
    | float _ marked =>
      rcases marked with ⟨c, member, isMark⟩
      rw [plain c member] at isMark
      cases isMark
    | decimal => rfl

/-! ## The parts of a decimal numeral -/

theorem longest_fractionPart (text : List Char) :
    IsLongestFront fractionForm (fractionPart text) text := by
  unfold fractionPart
  split
  next later =>
    have point : IsLongestFront (anyOf (· == '.')) ['.'] ('.' :: later) := .anyOf_cons rfl later
    have digits := IsLongestFront.takeWhile isDigit later
    refine (point.append digits (madeOf_anyOf _) (madeOf_kstar _).beginsWith ?_).optional
    intro c isPoint
    rw [beq_iff_eq] at isPoint
    subst isPoint
    decide
  next notPoint =>
    apply IsLongestFront.optional_nil
    intro word isWord isFront
    rcases Language.mem_mul.mp isWord with ⟨_, ⟨c, isPoint, rfl⟩, digits, _, rfl⟩
    rcases isFront with ⟨back, rfl⟩
    rw [beq_iff_eq] at isPoint
    subst isPoint
    exact notPoint (digits ++ back) rfl

/-- The letters that mark an exponent, a float or an integer's size are no digits and no signs. -/
private theorem isDigit_or_isSign_of_letter {c : Char}
    (letter : isExponentMarker c = true ∨ isFloatMarker c = true ∨ isIntegerSuffix c = true) :
    (isDigit c || isSign c) = false := by
  simp only [isExponentMarker, isFloatMarker, isIntegerSuffix, Bool.or_eq_true, beq_iff_eq]
    at letter
  rcases letter with (rfl | rfl) | (rfl | rfl) | ((rfl | rfl) | rfl) | rfl <;> decide

theorem longest_exponentPart (text : List Char) :
    IsLongestFront exponentForm (exponentPart text) text := by
  have absent : ∀ text : List Char, (∀ c later, text = c :: later -> isExponentMarker c = false) ->
      IsLongestFront exponentForm [] text := by
    intro text noMarker
    apply IsLongestFront.optional_nil
    intro word isWord isFront
    rcases Language.mem_mul.mp isWord with ⟨_, ⟨c, isMarker, rfl⟩, back, _, rfl⟩
    rcases isFront with ⟨rest, rfl⟩
    rw [noMarker c (back ++ rest) rfl] at isMarker
    cases isMarker
  unfold exponentPart
  split
  · exact absent [] (fun _ _ impossible => nomatch impossible)
  next c later =>
    by_cases isMarker : isExponentMarker c = true
    · rw [if_pos isMarker]
      have marker := IsLongestFront.anyOf_cons isMarker later
      have sign := IsLongestFront.optionalFront isSign later
      have digits := IsLongestFront.takeWhile isDigit
        (later.drop (optionalFront isSign later).length)
      have signAndDigits := sign.append digits (madeOf_anyOf _).optional
        (madeOf_kstar _).beginsWith (by
          intro c isSign
          simp only [CharClass.isSign, Bool.or_eq_true, beq_iff_eq] at isSign
          rcases isSign with rfl | rfl <;> decide)
      refine (marker.append signAndDigits (madeOf_anyOf _)
        ((madeOf_anyOf _).optional.beginsWith.mul (madeOf_kstar _).beginsWith) ?_).optional
      intro c isMarker
      rw [Bool.or_comm]
      exact isDigit_or_isSign_of_letter (Or.inl isMarker)
    · rw [if_neg isMarker]
      apply absent
      intro d rest same
      rw [← (List.cons.inj same).1]
      exact Bool.eq_false_iff.mpr isMarker

/-! ## Of what the parts are made -/

/-- Whether a character may stand in an exponent. -/
private def inExponent (c : Char) : Bool :=
  isExponentMarker c || (isSign c || isDigit c)

private theorem madeOf_exponentForm : MadeOf exponentForm inExponent := by
  refine MadeOf.optional (MadeOf.mul ?_ (MadeOf.mul ?_ ?_))
  · exact (madeOf_anyOf _).mono (by simp +contextual [inExponent])
  · exact (madeOf_anyOf _).optional.mono (by simp +contextual [inExponent])
  · exact (madeOf_kstar _).mono (by simp +contextual [inExponent])

private theorem madeOf_fractionForm : MadeOf fractionForm fun c => c == '.' || isDigit c := by
  refine MadeOf.optional (MadeOf.mul ?_ ?_)
  · exact (madeOf_anyOf _).mono (by simp +contextual)
  · exact (madeOf_kstar _).mono (by simp +contextual)

private theorem beginsWith_markAndSuffix :
    BeginsWith (optional (anyOf isFloatMarker) * (anyOf isIntegerSuffix)∗)
      fun c => isFloatMarker c || isIntegerSuffix c :=
  (madeOf_anyOf _).optional.beginsWith.mul (madeOf_kstar _).beginsWith

private theorem beginsWith_exponentAndLater :
    BeginsWith (exponentForm * (optional (anyOf isFloatMarker) * (anyOf isIntegerSuffix)∗))
      fun c => isExponentMarker c || (isFloatMarker c || isIntegerSuffix c) :=
  (beginsWith_anyOf_mul _ _).optional.mul beginsWith_markAndSuffix

private theorem beginsWith_fractionAndLater :
    BeginsWith
      (fractionForm * (exponentForm * (optional (anyOf isFloatMarker) * (anyOf isIntegerSuffix)∗)))
      fun c => c == '.' || (isExponentMarker c || (isFloatMarker c || isIntegerSuffix c)) :=
  (beginsWith_anyOf_mul _ _).optional.mul beginsWith_exponentAndLater

/-! ## The whole numeral -/

theorem longest_readDecimal (text : List Char) :
    IsLongestFront decimalForm (readDecimal [] text).chars text := by
  let whole := text.takeWhile isDigit
  let fraction := fractionPart (text.drop whole.length)
  let exponent := exponentPart ((text.drop whole.length).drop fraction.length)
  let mark := optionalFront isFloatMarker
    (((text.drop whole.length).drop fraction.length).drop exponent.length)
  have suffixLongest := IsLongestFront.takeWhile isIntegerSuffix
    ((((text.drop whole.length).drop fraction.length).drop exponent.length).drop mark.length)
  have markLongest := (IsLongestFront.optionalFront isFloatMarker _).append suffixLongest
    (madeOf_anyOf _).optional (madeOf_kstar _).beginsWith (by
      intro c isMarker
      simp only [isFloatMarker, Bool.or_eq_true, beq_iff_eq] at isMarker
      rcases isMarker with rfl | rfl <;> decide)
  have exponentLongest := (longest_exponentPart _).append markLongest madeOf_exponentForm
    beginsWith_markAndSuffix (by
      intro c within
      simp only [inExponent, isExponentMarker, isSign, Bool.or_eq_true, beq_iff_eq] at within
      rcases within with (rfl | rfl) | ((rfl | rfl) | digit)
      any_goals decide
      apply Bool.eq_false_iff.mpr
      intro letter
      have noDigit := isDigit_or_isSign_of_letter (Or.inr (by simpa using letter))
      simp [digit] at noDigit)
  have fractionLongest := (longest_fractionPart _).append exponentLongest madeOf_fractionForm
    beginsWith_exponentAndLater (by
      intro c within
      simp only [Bool.or_eq_true, beq_iff_eq] at within
      rcases within with rfl | digit
      · decide
      · apply Bool.eq_false_iff.mpr
        intro letter
        have noDigit := isDigit_or_isSign_of_letter (by simpa using letter)
        simp [digit] at noDigit)
  have wholeLongest := (IsLongestFront.takeWhile isDigit text).append fractionLongest
    (madeOf_kstar _) beginsWith_fractionAndLater (by
      intro c digit
      apply Bool.eq_false_iff.mpr
      intro later
      rcases Bool.or_eq_true_iff.mp later with isPoint | letter
      · rw [beq_iff_eq] at isPoint
        subst isPoint
        cases digit
      · have noDigit := isDigit_or_isSign_of_letter (by simpa using letter)
        simp [digit] at noDigit)
  have shape : (readDecimal [] text).chars =
      whole ++ (fraction ++ (exponent ++ (mark ++
        ((((text.drop whole.length).drop fraction.length).drop exponent.length).drop
          mark.length).takeWhile isIntegerSuffix))) := by
    simp [readDecimal, chars, whole, fraction, exponent, mark, List.drop_drop, Nat.add_assoc]
  rw [shape]
  exact wholeLongest

/-- A marker makes the form hexadecimal, and then no decimal numeral goes past the zero. -/
theorem longest_of_readHexadecimal? {sign text : List Char} {numeral : Numeral}
    (found : readHexadecimal? sign text = some numeral) :
    ∃ body, numeral.chars = sign ++ body ∧ numeral.kind = .hexConst ∧ body ∈ hexadecimalForm ∧
      IsLongestFront (hexadecimalForm + decimalForm) body text := by
  unfold readHexadecimal? at found
  split at found
  next marker later =>
    split at found
    next isMarker =>
      rw [← Option.some.inj found]
      have digits := IsLongestFront.takeWhile isHexDigit later
      have fromMarker := (IsLongestFront.anyOf_cons isMarker later).append digits (madeOf_anyOf _)
        (madeOf_kstar _).beginsWith (by
          intro c isMarker
          simp only [isHexMarker, Bool.or_eq_true, beq_iff_eq] at isMarker
          rcases isMarker with rfl | rfl <;> decide)
      have zero : IsLongestFront (anyOf (· == '0')) ['0'] ('0' :: marker :: later) :=
        .anyOf_cons rfl _
      have whole := zero.append fromMarker (madeOf_anyOf _) (beginsWith_anyOf_mul _ _) (by
        intro c isZero
        rw [beq_iff_eq] at isZero
        subst isZero
        decide)
      refine ⟨_, rfl, rfl, whole.isWord, whole.add_left ?_⟩
      intro word isWord isFront
      have atMost := (longest_readDecimal ('0' :: marker :: later)).longest word isWord isFront
      have zeroOnly : (readDecimal [] ('0' :: marker :: later)).chars = ['0'] := by
        simp only [isHexMarker, Bool.or_eq_true, beq_iff_eq] at isMarker
        rcases isMarker with rfl | rfl <;>
          simp [readDecimal, chars, fractionPart, exponentPart, optionalFront, isDigit,
            isExponentMarker, isFloatMarker, isIntegerSuffix, Char.isDigit]
      rw [zeroOnly] at atMost
      exact Nat.le_trans atMost (by simp)
    · cases found
  · cases found

/-- Without a zero and a marker at its front, a text has no hexadecimal front. -/
theorem not_isPrefix_of_readHexadecimal? {sign text : List Char}
    (absent : readHexadecimal? sign text = none) :
    ∀ word ∈ hexadecimalForm, ¬ word <+: text := by
  rintro word isWord ⟨back, rfl⟩
  rcases Language.mem_mul.mp isWord with ⟨_, ⟨zero, isZero, rfl⟩, later, isLater, rfl⟩
  rcases Language.mem_mul.mp isLater with ⟨_, ⟨marker, isMarker, rfl⟩, digits, _, rfl⟩
  rw [beq_iff_eq] at isZero
  subst isZero
  simp [readHexadecimal?, isMarker] at absent

/-- No form begins with a sign. -/
private theorem beginsWith_magnitude :
    BeginsWith (hexadecimalForm + decimalForm) fun c => !isSign c := by
  have begins := (beginsWith_anyOf_mul (· == '0') (anyOf isHexMarker * (anyOf isHexDigit)∗)).add
    ((madeOf_kstar isDigit).beginsWith.mul beginsWith_fractionAndLater)
  intro c later isWord
  have within := begins c later isWord
  rw [Bool.not_eq_true', Bool.eq_false_iff]
  intro isSign
  simp only [CharClass.isSign, Bool.or_eq_true, beq_iff_eq] at isSign
  rcases isSign with rfl | rfl <;> revert within <;> decide

/-- The numeral that is read is the longest at the front of the text. -/
theorem longest_read (text : List Char) : IsLongestFront form (read text).chars text := by
  have signLongest := IsLongestFront.optionalFront isSign text
  have joined : ∀ body, IsLongestFront (hexadecimalForm + decimalForm) body
      (text.drop (optionalFront isSign text).length) ->
      IsLongestFront form (optionalFront isSign text ++ body) text := by
    intro body bodyLongest
    apply signLongest.append bodyLongest (madeOf_anyOf _).optional beginsWith_magnitude
    intro c isSign
    rw [isSign]
    rfl
  unfold read
  simp only
  cases found : readHexadecimal? (optionalFront isSign text)
      (text.drop (optionalFront isSign text).length) with
  | some numeral =>
    rcases longest_of_readHexadecimal? found with ⟨body, shape, _, _, bodyLongest⟩
    rw [Option.getD_some, shape]
    exact joined body bodyLongest
  | none =>
    have decimalLongest := (longest_readDecimal
      (text.drop (optionalFront isSign text).length)).add_right
        (not_isPrefix_of_readHexadecimal? found)
    have shape : (readDecimal (optionalFront isSign text)
        (text.drop (optionalFront isSign text).length)).chars =
        optionalFront isSign text ++
          (readDecimal [] (text.drop (optionalFront isSign text).length)).chars := by
      simp [readDecimal, chars]
    rw [Option.getD_none, shape]
    exact joined _ decimalLongest

/-! ## The kind -/

private theorem isFloatMark_eq_false {c : Char}
    (plain : isSign c = true ∨ isDigit c = true ∨ isIntegerSuffix c = true) :
    isFloatMark c = false := by
  apply Bool.eq_false_iff.mpr
  intro marked
  have letter : c = '.' ∨ isExponentMarker c = true ∨ isFloatMarker c = true := by
    simpa [isFloatMark, or_assoc] using marked
  simp only [isExponentMarker, isFloatMarker, Bool.or_eq_true, beq_iff_eq] at letter
  rcases letter with rfl | (rfl | rfl) | rfl | rfl <;> revert plain <;> decide

private theorem kind_readDecimal (sign text : List Char) :
    (readDecimal sign text).kind = .decimalConst ∨ (readDecimal sign text).kind = .floatConst := by
  simp only [readDecimal, kind]
  split
  · exact Or.inl rfl
  · exact Or.inr rfl

/-- A decimal numeral is marked as floating point exactly when it has a part that begins with
such a mark. -/
theorem exists_isFloatMark_iff (sign text : List Char) (isSignRun : ∀ c ∈ sign, isSign c = true) :
    (∃ c ∈ (readDecimal sign text).chars, isFloatMark c = true) ↔
      (readDecimal sign text).kind = .floatConst := by
  let whole := text.takeWhile isDigit
  let fraction := fractionPart (text.drop whole.length)
  let exponent := exponentPart (text.drop (whole ++ fraction).length)
  let mark := optionalFront isFloatMarker (text.drop (whole ++ fraction ++ exponent).length)
  have fractionShape : fraction = [] ∨ ∃ digits, fraction = '.' :: digits := by
    rcases mem_optional.mp (longest_fractionPart (text.drop whole.length)).isWord with
      empty | isWord
    · exact Or.inl empty
    · rcases Language.mem_mul.mp isWord with ⟨_, ⟨c, isPoint, rfl⟩, digits, _, joined⟩
      rw [beq_iff_eq] at isPoint
      exact Or.inr ⟨digits, by rw [← isPoint]; exact joined.symm⟩
  have exponentShape : exponent = [] ∨
      ∃ c digits, isExponentMarker c = true ∧ exponent = c :: digits := by
    rcases mem_optional.mp (longest_exponentPart
      (text.drop (whole ++ fraction).length)).isWord with empty | isWord
    · exact Or.inl empty
    · rcases Language.mem_mul.mp isWord with ⟨_, ⟨c, isMarker, rfl⟩, digits, _, joined⟩
      exact Or.inr ⟨c, digits, isMarker, joined.symm⟩
  have markShape : mark = [] ∨ ∃ c, isFloatMarker c = true ∧ mark = [c] :=
    mem_optional.mp (IsLongestFront.optionalFront isFloatMarker _).isWord
  have charsShape : (readDecimal sign text).chars =
      sign ++ whole ++ fraction ++ exponent ++ mark ++
        (text.drop (whole ++ fraction ++ exponent ++ mark).length).takeWhile isIntegerSuffix :=
    rfl
  have kindShape : (readDecimal sign text).kind =
      if fraction.isEmpty && exponent.isEmpty && mark.isEmpty then .decimalConst
      else .floatConst :=
    rfl
  rw [charsShape, kindShape]
  constructor
  · rintro ⟨c, member, marked⟩
    simp only [List.mem_append] at member
    by_cases empty : (fraction.isEmpty && exponent.isEmpty && mark.isEmpty) = true
    · exfalso
      simp only [Bool.and_eq_true, List.isEmpty_iff] at empty
      rw [empty.1.1, empty.1.2, empty.2] at member
      have plain : isSign c = true ∨ isDigit c = true ∨ isIntegerSuffix c = true := by
        rcases member with ((((inSign | inWhole) | none) | none) | none) | inSuffix
        · exact Or.inl (isSignRun c inSign)
        · exact Or.inr (Or.inl (List.mem_takeWhile_imp inWhole))
        · cases none
        · cases none
        · cases none
        · exact Or.inr (Or.inr (List.mem_takeWhile_imp inSuffix))
      rw [isFloatMark_eq_false plain] at marked
      cases marked
    · rw [if_neg empty]
  · intro isFloat
    rcases fractionShape with noFraction | ⟨digits, shape⟩
    · rcases exponentShape with noExponent | ⟨c, digits, isMarker, shape⟩
      · rcases markShape with noMark | ⟨c, isMarker, shape⟩
        · simp [noFraction, noExponent, noMark] at isFloat
        · exact ⟨c, by simp [shape], by simp [isFloatMark, isMarker]⟩
      · exact ⟨c, by simp [shape], by simp [isFloatMark, isMarker]⟩
    · exact ⟨'.', by simp [shape], rfl⟩

/-- The kind of the numeral that is read is the kind that its characters tell. -/
theorem hasKind_read (text : List Char) : HasKind (read text).chars (read text).kind := by
  have isFront := read_isPrefix text
  unfold read at isFront ⊢
  simp only at isFront ⊢
  cases found : readHexadecimal? (optionalFront isSign text)
      (text.drop (optionalFront isSign text).length) with
  | some numeral =>
    rcases longest_of_readHexadecimal? found with ⟨body, shape, isHex, isWord, _⟩
    rw [Option.getD_some, isHex, shape]
    have isSignWord := (IsLongestFront.optionalFront isSign text).isWord
    exact .hexadecimal (Language.append_mem_mul isSignWord isWord)
  | none =>
    rw [found, Option.getD_none] at isFront
    rw [Option.getD_none]
    have notHex : (readDecimal (optionalFront isSign text)
        (text.drop (optionalFront isSign text).length)).chars ∉ signedHexadecimalForm := by
      intro isWord
      rcases Language.mem_mul.mp isWord with ⟨sign, isSignWord, body, isBody, joined⟩
      rw [← joined] at isFront
      rcases isFront with ⟨back, whole⟩
      have sameSign : optionalFront isSign text = sign := by
        rcases mem_optional.mp isSignWord with rfl | ⟨c, isSign, rfl⟩
        · rcases Language.mem_mul.mp isBody with ⟨_, ⟨zero, isZero, rfl⟩, _, _, rfl⟩
          rw [beq_iff_eq] at isZero
          subst isZero
          rw [← whole]
          rfl
        · rw [← whole]
          exact (optionalFront_cons _ _ _).trans (if_pos isSign)
      refine not_isPrefix_of_readHexadecimal? found body isBody ⟨back, ?_⟩
      rw [sameSign, ← whole, List.append_assoc, List.drop_left]
    have marked := exists_isFloatMark_iff (optionalFront isSign text)
      (text.drop (optionalFront isSign text).length)
      (fun _ member => List.mem_takeWhile_imp member)
    rcases kind_readDecimal (optionalFront isSign text)
        (text.drop (optionalFront isSign text).length) with isDecimal | isFloat
    · rw [isDecimal] at marked ⊢
      refine .decimal notHex fun c member => Bool.eq_false_iff.mpr fun isMark => ?_
      cases marked.mp ⟨c, member, isMark⟩
    · rw [isFloat]
      exact .float notHex (marked.mpr isFloat)

end Numeral
end HeaderScan
