import HeaderScan.Text.Letter
import HeaderScan.Text.NumberSign

namespace HeaderScan

/-!
The classes of characters that a header's tokens are made of.
-/

/-- A class of characters that the scanner asks for. -/
inductive CharClass
  | identifierStart
  | identifierContinue
  | digit
  | hexDigit
  | sign
  | hexMarker
  | exponentMarker
  | floatMarker
  | integerSuffix
  | whitespace
  | horizontalSpace
  deriving DecidableEq, Repr

namespace CharClass

/-- Letters and the underscore. -/
def isIdentifierStart (c : Char) : Bool :=
  c == '_' || Text.isLetter c

/-- Letters, number characters and the underscore. -/
def isIdentifierContinue (c : Char) : Bool :=
  c == '_' || Text.isLetter c || Text.isNumberSign c

/-- The ten ASCII digits. -/
def isDigit (c : Char) : Bool :=
  c.isDigit

/-- The ASCII digits and the letters from `a` to `f` in both cases. -/
def isHexDigit (c : Char) : Bool :=
  c.isDigit || ('a' ≤ c && c ≤ 'f') || ('A' ≤ c && c ≤ 'F')

/-- The sign in front of a numeral. -/
def isSign (c : Char) : Bool :=
  c == '+' || c == '-'

/-- The letter that follows the zero of a hexadecimal numeral. -/
def isHexMarker (c : Char) : Bool :=
  c == 'x' || c == 'X'

/-- The letter in front of an exponent. -/
def isExponentMarker (c : Char) : Bool :=
  c == 'e' || c == 'E'

/-- The letter that marks a floating point numeral. -/
def isFloatMarker (c : Char) : Bool :=
  c == 'f' || c == 'F'

/-- The letters of an integer's width and sign suffix. -/
def isIntegerSuffix (c : Char) : Bool :=
  c == 'u' || c == 'U' || c == 'l' || c == 'L'

/-- The white space that may stand between tokens. -/
def isWhitespace (c : Char) : Bool :=
  c == ' ' || c == '\t' || c == '\r' || c == '\n'

/-- The white space that does not end a line. -/
def isHorizontalSpace (c : Char) : Bool :=
  c == ' ' || c == '\t'

/-- Membership in a class. -/
def holds : CharClass → Char → Bool
  | identifierStart => isIdentifierStart
  | identifierContinue => isIdentifierContinue
  | digit => isDigit
  | hexDigit => isHexDigit
  | sign => isSign
  | hexMarker => isHexMarker
  | exponentMarker => isExponentMarker
  | floatMarker => isFloatMarker
  | integerSuffix => isIntegerSuffix
  | whitespace => isWhitespace
  | horizontalSpace => isHorizontalSpace

/-- Every class once, in the order in which they are listed. -/
def all : List CharClass :=
  [identifierStart, identifierContinue, digit, hexDigit, sign, hexMarker, exponentMarker,
    floatMarker, integerSuffix, whitespace, horizontalSpace]

/-- The classes to which a character belongs. -/
def classesOf (c : Char) : List CharClass :=
  all.filter (holds · c)

theorem isWhitespace_iff {c : Char} :
    isWhitespace c = true ↔ c = ' ' ∨ c = '\t' ∨ c = '\r' ∨ c = '\n' := by
  simp only [isWhitespace, Bool.or_eq_true, beq_iff_eq, or_assoc]

/-- An identifier can be continued with whatever can start one. -/
theorem isIdentifierContinue_of_isIdentifierStart {c : Char}
    (starts : isIdentifierStart c = true) : isIdentifierContinue c = true := by
  simp only [isIdentifierStart, isIdentifierContinue, Bool.or_eq_true] at *
  exact Or.inl starts

/-- The digits in the order of their code points. -/
theorem range_of_isDigit {c : Char} (digit : isDigit c = true) : 48 ≤ c.toNat ∧ c.toNat ≤ 57 := by
  simpa [isDigit, Char.isDigit, UInt32.le_iff_toNat_le] using digit

/-- The digits of a numeral can stand in an identifier. -/
theorem isIdentifierContinue_of_isDigit {c : Char} (digit : isDigit c = true) :
    isIdentifierContinue c = true := by
  have isAscii : c.toNat < 0x80 := by
    have range := range_of_isDigit digit
    omega
  have isNumber : Text.isNumberSign c = true := (Text.isNumberSign_of_ascii c isAscii).trans digit
  rw [isIdentifierContinue, isNumber, Bool.or_true]

/-- But no identifier begins with a digit. -/
theorem isIdentifierStart_eq_false_of_isDigit {c : Char} (digit : isDigit c = true) :
    isIdentifierStart c = false := by
  have noneStarts : ∀ code ∈ List.range' 48 10, isIdentifierStart (Char.ofNat code) = false := by
    decide +kernel
  have inRange : c.toNat ∈ List.range' 48 10 := by
    have range := range_of_isDigit digit
    rw [List.mem_range'_1]
    omega
  have stops := noneStarts c.toNat inRange
  rwa [Char.ofNat_toNat] at stops

end CharClass
end HeaderScan
