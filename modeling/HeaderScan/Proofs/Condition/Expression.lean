import HeaderScan.Proofs.Condition.Cutting
import Mathlib.Data.Nat.Digits.Defs

namespace HeaderScan

/-!
Conditions as expressions, and the texts that write them.

An expression is a tree, and `Expression.Writes` says by a grammar with one level for each strength
of binding which texts write it.  The grammar knows nothing of how a text is cut, and the value of
an expression nothing of texts.
-/

/-- The signs of comparison. -/
inductive Comparison
  | equal
  | notEqual
  | less
  | greater
  | lessOrEqual
  | greaterOrEqual
  deriving DecidableEq, Repr

namespace Comparison

def chars : Comparison → List Char
  | equal => ['=', '=']
  | notEqual => ['!', '=']
  | less => ['<']
  | greater => ['>']
  | lessOrEqual => ['<', '=']
  | greaterOrEqual => ['>', '=']

/-- The characters that occur in signs of comparison and nowhere else in a condition. -/
def IsMark (c : Char) : Prop :=
  c = '=' ∨ c = '<' ∨ c = '>'

theorem exists_isMark (sign : Comparison) : ∃ c ∈ sign.chars, IsMark c := by
  cases sign with
  | equal | notEqual => exact ⟨'=', by decide, Or.inl rfl⟩
  | less | lessOrEqual => exact ⟨'<', by decide, Or.inr (Or.inl rfl)⟩
  | greater | greaterOrEqual => exact ⟨'>', by decide, Or.inr (Or.inr rfl)⟩

/-- No sign of comparison has a part in how a text is cut. -/
theorem mem_chars {sign : Comparison} {c : Char} (member : c ∈ sign.chars) :
    c ≠ '(' ∧ c ≠ ')' ∧ c ≠ '&' ∧ c ≠ '|' := by
  have apart : sign.chars.all (fun c => c ≠ '(' ∧ c ≠ ')' ∧ c ≠ '&' ∧ c ≠ '|') = true := by
    cases sign <;> rfl
  exact of_decide_eq_true (List.all_eq_true.mp apart c member)

end Comparison

/-- A condition as a tree. -/
inductive Expression
  | literal (number : Nat)
  | symbol (name : String)
  /-- The test whether a symbol is defined. -/
  | definition (name : String)
  | not (operand : Expression)
  | and (first second : Expression)
  | or (first second : Expression)
  | comparison (sign : Comparison) (first second : Expression)
  deriving DecidableEq, Repr

namespace Expression

open CharClass (isIdentifierStart isIdentifierContinue isDigit isIntegerSuffix)

/-- The worth of an expression, given what is known about each symbol.  Numbers other than zero
are true, a symbol is worth what is known about it, and nothing is known about a comparison. -/
def value (known : String → Option Bool) : Expression → Option Bool
  | literal number => some (number != 0)
  | symbol name | definition name => known name
  | not operand => Kleene.not (operand.value known)
  | and first second => Kleene.and (first.value known) (second.value known)
  | or first second => Kleene.or (first.value known) (second.value known)
  | comparison _ _ _ => none

/-! ## Written form -/

/-- A name of a symbol: an identifier other than the word that tests for definition. -/
structure IsName (name : String) : Prop where
  starts : ∃ c, name.toList.head? = some c ∧ isIdentifierStart c = true
  continues : ∀ c ∈ name.toList, isIdentifierContinue c = true
  notTest : name ≠ "defined"

theorem IsName.head?_ne {name : String} (isName : IsName name) {c : Char}
    (stops : isIdentifierStart c = false) : name.toList.head? ≠ some c := by
  intro isFirst
  rcases isName.starts with ⟨d, isHead, starts⟩
  rw [isFirst, Option.some.injEq] at isHead
  rw [← isHead, stops] at starts
  cases starts

/-- The word for a test is made of the characters of a name. -/
theorem isIdentifierContinue_of_mem_test :
    ∀ c ∈ "defined".toList, isIdentifierContinue c = true :=
  List.all_eq_true.mp rfl

/-- The number that decimal digits write. -/
def number (digits : List Char) : Nat :=
  Nat.ofDigits 10 (digits.reverse.map fun digit => digit.toNat - '0'.toNat)

theorem head?_ne_of_digits {digits : List Char} (nonempty : digits ≠ [])
    (areDigits : ∀ c ∈ digits, isDigit c = true) (suffix : List Char) {c : Char}
    (notDigit : isDigit c = false) : (digits ++ suffix).head? ≠ some c := by
  intro isFirst
  rw [List.head?_append, List.head?_eq_some_head nonempty, Option.some_or,
    Option.some.injEq] at isFirst
  have digit := areDigits _ (List.head_mem nonempty)
  rw [isFirst, notDigit] at digit
  cases digit

/-- The strengths of binding, the strongest first. -/
inductive Level
  | primary
  | unary
  | comparison
  | conjunction
  | disjunction

/-- `Writes mayCompare level expression text` says that a text writes an expression in which nothing
outside of parentheses binds weaker than a level.  Comparisons are written only between operands
whose texts `mayCompare` admits. -/
inductive Writes (mayCompare : List Char → List Char → Prop) :
    Level → Expression → List Char → Prop
  | literal {digits suffix : List Char} (nonempty : digits ≠ [])
      (areDigits : ∀ c ∈ digits, isDigit c = true)
      (isSuffix : ∀ c ∈ suffix, isIntegerSuffix c = true)
      (fits : number digits < UInt64.size) :
      Writes mayCompare .primary (.literal (number digits)) (digits ++ suffix)
  | symbol {name : String} (isName : IsName name) :
      Writes mayCompare .primary (.symbol name) name.toList
  | definition {name : String} {blanks : List Char} (isName : IsName name) (nonempty : blanks ≠ [])
      (blank : AreBlank blanks) :
      Writes mayCompare .primary (.definition name) ("defined".toList ++ (blanks ++ name.toList))
  | definitionInParentheses {name : String} {blanks inner : List Char} (isName : IsName name)
      (blank : AreBlank blanks) (spaced : Spaced name.toList inner) :
      Writes mayCompare .primary (.definition name)
        ("defined".toList ++ (blanks ++ '(' :: (inner ++ [')'])))
  | parenthesized {expression : Expression} {body inner : List Char}
      (writes : Writes mayCompare .disjunction expression body) (spaced : Spaced body inner) :
      Writes mayCompare .primary expression ('(' :: (inner ++ [')']))
  | unary {expression : Expression} {text : List Char}
      (writes : Writes mayCompare .primary expression text) :
      Writes mayCompare .unary expression text
  | not {expression : Expression} {blanks text : List Char}
      (writes : Writes mayCompare .unary expression text) (blank : AreBlank blanks) :
      Writes mayCompare .unary (.not expression) ('!' :: (blanks ++ text))
  | operand {expression : Expression} {text : List Char}
      (writes : Writes mayCompare .unary expression text) :
      Writes mayCompare .comparison expression text
  | comparison {first second : Expression} {sign : Comparison} {left middle right : List Char}
      (writesFirst : Writes mayCompare .primary first left)
      (writesSecond : Writes mayCompare .primary second right)
      (spaced : Spaced sign.chars middle) (admitted : mayCompare left right) :
      Writes mayCompare .comparison (.comparison sign first second) (left ++ (middle ++ right))
  | conjunct {expression : Expression} {text : List Char}
      (writes : Writes mayCompare .comparison expression text) :
      Writes mayCompare .conjunction expression text
  | and {first second : Expression} {left middle right : List Char}
      (writesFirst : Writes mayCompare .conjunction first left)
      (writesSecond : Writes mayCompare .conjunction second right)
      (spaced : Spaced ['&', '&'] middle) :
      Writes mayCompare .conjunction (.and first second) (left ++ (middle ++ right))
  | disjunct {expression : Expression} {text : List Char}
      (writes : Writes mayCompare .conjunction expression text) :
      Writes mayCompare .disjunction expression text
  | or {first second : Expression} {left middle right : List Char}
      (writesFirst : Writes mayCompare .disjunction first left)
      (writesSecond : Writes mayCompare .disjunction second right)
      (spaced : Spaced ['|', '|'] middle) :
      Writes mayCompare .disjunction (.or first second) (left ++ (middle ++ right))

/-- A text that writes an expression, with any blanks around it. -/
def IsWritten (mayCompare : List Char → List Char → Prop) (expression : Expression)
    (text : List Char) : Prop :=
  ∃ body, Writes mayCompare .disjunction expression body ∧ Spaced body text

end Expression
end HeaderScan
