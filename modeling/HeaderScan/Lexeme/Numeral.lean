import HeaderScan.CharClass
import HeaderScan.Text.Front
import HeaderScan.Token

namespace HeaderScan

/-!
Numerals.  A numeral is read as its parts, each the longest that the text allows, and no part is
required: `1.`, `1e` and `0x` are numerals.  Which of the three kinds of numeral token it makes
is decided by the parts that are there.
-/

/-- A numeral in parts.  The parts of a decimal numeral hold their own marks: the fraction
begins with the point, the exponent with its letter. -/
inductive Numeral
  | hexadecimal (sign : List Char) (marker : Char) (digits : List Char)
  | decimal (sign whole fraction exponent mark suffix : List Char)
  deriving DecidableEq, Repr

namespace Numeral

open Text
open CharClass (isDigit isHexDigit isSign isHexMarker isExponentMarker isFloatMarker
  isIntegerSuffix)

/-- The point and the digits after it. -/
def fractionPart (text : List Char) : List Char :=
  match text with
  | '.' :: later => '.' :: later.takeWhile isDigit
  | _ => []

/-- The letter of an exponent, its sign and its digits. -/
def exponentPart (text : List Char) : List Char :=
  match text with
  | [] => []
  | c :: later =>
    if isExponentMarker c then
      let sign := optionalFront isSign later
      c :: (sign ++ (later.drop sign.length).takeWhile isDigit)
    else []

/-- The characters of a numeral. -/
def chars : Numeral → List Char
  | hexadecimal sign marker digits => sign ++ '0' :: marker :: digits
  | decimal sign whole fraction exponent mark suffix =>
    sign ++ whole ++ fraction ++ exponent ++ mark ++ suffix

/-- The kind of token that a numeral makes. -/
def kind : Numeral → TokenKind
  | hexadecimal .. => .hexConst
  | decimal _ _ fraction exponent mark _ =>
    if fraction.isEmpty && exponent.isEmpty && mark.isEmpty then .decimalConst else .floatConst

/-- The hexadecimal numeral after a sign, if the text goes on with a zero and a marker. -/
def readHexadecimal? (sign text : List Char) : Option Numeral :=
  match text with
  | '0' :: marker :: later =>
    if isHexMarker marker then some (hexadecimal sign marker (later.takeWhile isHexDigit))
    else none
  | _ => none

/-- The decimal numeral after a sign. -/
def readDecimal (sign text : List Char) : Numeral :=
  let whole := text.takeWhile isDigit
  let fraction := fractionPart (text.drop whole.length)
  let exponent := exponentPart (text.drop (whole ++ fraction).length)
  let mark := optionalFront isFloatMarker (text.drop (whole ++ fraction ++ exponent).length)
  let suffix :=
    (text.drop (whole ++ fraction ++ exponent ++ mark).length).takeWhile isIntegerSuffix
  decimal sign whole fraction exponent mark suffix

/-- The numeral at the front of a text. -/
def read (text : List Char) : Numeral :=
  let sign := optionalFront isSign text
  let magnitude := text.drop sign.length
  (readHexadecimal? sign magnitude).getD (readDecimal sign magnitude)

/-- Whether a text begins with a digit. -/
def beginsWithDigit (text : List Char) : Bool :=
  text.head?.any isDigit

/-- Whether a numeral stands at the front of a text: a digit, a sign and a digit, a point and a
digit, or a sign, a point and a digit. -/
def startsAt (text : List Char) : Bool :=
  match text with
  | [] => false
  | c :: later =>
    if isDigit c then true
    else if isSign c then
      beginsWithDigit later || (later.head? == some '.' && beginsWithDigit (later.drop 1))
    else c == '.' && beginsWithDigit later

theorem fractionPart_isPrefix (text : List Char) : fractionPart text <+: text := by
  unfold fractionPart
  split
  · exact List.cons_prefix_cons.mpr ⟨rfl, List.takeWhile_prefix _⟩
  · exact List.nil_prefix

theorem exponentPart_isPrefix (text : List Char) : exponentPart text <+: text := by
  unfold exponentPart
  split
  · exact List.nil_prefix
  · split
    · exact List.cons_prefix_cons.mpr
        ⟨rfl, prefix_append_drop (optionalFront_isPrefix _ _) (List.takeWhile_prefix _)⟩
    · exact List.nil_prefix

private theorem readHexadecimal?_isPrefix {sign text : List Char} {numeral : Numeral}
    (found : readHexadecimal? sign text = some numeral) :
    ∃ body, numeral.chars = sign ++ body ∧ body <+: text := by
  unfold readHexadecimal? at found
  split at found
  · split at found
    · rcases Option.some.inj found with rfl
      exact ⟨_, rfl, List.cons_prefix_cons.mpr ⟨rfl, List.cons_prefix_cons.mpr
        ⟨rfl, List.takeWhile_prefix _⟩⟩⟩
    · simp at found
  · simp at found

private theorem readDecimal_isPrefix (sign text : List Char) :
    ∃ body, (readDecimal sign text).chars = sign ++ body ∧ body <+: text := by
  refine ⟨(readDecimal [] text).chars, by simp [readDecimal, chars], ?_⟩
  simp only [readDecimal, chars, List.nil_append]
  exact prefix_append_drop
    (prefix_append_drop
      (prefix_append_drop
        (prefix_append_drop (List.takeWhile_prefix _) (fractionPart_isPrefix _))
        (exponentPart_isPrefix _))
      (optionalFront_isPrefix _ _))
    (List.takeWhile_prefix _)

/-- The numeral that is read is a front of the text. -/
theorem read_isPrefix (text : List Char) : (read text).chars <+: text := by
  have isSignFront := optionalFront_isPrefix isSign text
  unfold read
  simp only
  cases found : readHexadecimal? (optionalFront isSign text)
      (text.drop (optionalFront isSign text).length) with
  | some numeral =>
    rcases readHexadecimal?_isPrefix found with ⟨body, shape, isBody⟩
    rw [Option.getD_some, shape]
    exact prefix_append_drop isSignFront isBody
  | none =>
    rcases readDecimal_isPrefix (optionalFront isSign text)
      (text.drop (optionalFront isSign text).length) with ⟨body, shape, isBody⟩
    rw [Option.getD_none, shape]
    exact prefix_append_drop isSignFront isBody

/-- Where a numeral starts, at least one character is read. -/
theorem read_ne_nil {text : List Char} (starts : startsAt text = true) :
    (read text).chars ≠ [] := by
  unfold startsAt at starts
  split at starts
  · simp at starts
  · next c later =>
    unfold read
    simp only [optionalFront_cons]
    split
    · cases found : readHexadecimal? [c] ((c :: later).drop [c].length) with
      | some numeral =>
        rcases readHexadecimal?_isPrefix found with ⟨body, shape, _⟩
        simp [shape]
      | none => simp [readDecimal, chars]
    · cases found : readHexadecimal? [] ((c :: later).drop [].length) with
      | some numeral =>
        unfold readHexadecimal? at found
        split at found
        · split at found
          · rcases Option.some.inj found with rfl
            simp [chars]
          · simp at found
        · simp at found
      | none =>
        simp only [Option.getD_none, readDecimal, chars, List.length_nil, List.drop_zero]
        by_cases digit : isDigit c = true
        · simp [digit]
        · simp_all [fractionPart]

end Numeral
end HeaderScan
