import HeaderScan.Lexeme.Numeral
import HeaderScan.Operator
import HeaderScan.ScanError
import HeaderScan.Text.Utf8

namespace HeaderScan

/-!
Lexemes: what stands at the front of a text that does not begin with white space or a comment.

A lexeme is found from the text alone, wherever the text stands in a source.  It consists of the
characters that are read and of the verdict on them; a lexeme that is refused has been read as
well, and the scan stands behind it.  `read_text_isPrefix` and `read_text_ne_nil` say that
the characters are a front of the text, and that only at its end there are none.
-/

/-- The characters of a lexeme, and the kind of token that they make or why they make none. -/
structure Lexeme where
  text : List Char
  verdict : Except ScanError.Cause TokenKind

namespace Lexeme

open CharClass (isIdentifierStart isIdentifierContinue)

/-- The verdict on a text that must be shorter than a limit. -/
def within (limit : Nat) (tooLong : ScanError.Cause) (kind : TokenKind) (text : List Char) :
    Except ScanError.Cause TokenKind :=
  if Text.byteLength text < limit then .ok kind else .error tooLong

/-- The longest run of identifier characters. -/
def identifier (first : Char) (later : List Char) : Lexeme :=
  let text := first :: later.takeWhile isIdentifierContinue
  ⟨text, within nameLimit .identifierTooLong .identifier text⟩

def numeral (text : List Char) : Lexeme :=
  let numeral := Numeral.read text
  ⟨numeral.chars, within nameLimit .numberTooLong numeral.kind numeral.chars⟩

/-- How many characters a constant between single quotes has: one more if a backslash comes
first. -/
def characterSize (text : List Char) : Nat :=
  if text[1]? = some '\\' then 4 else 3

/-- A character between single quotes, or a backslash and a character between them.  As many
characters are read as such a constant has, if there are so many. -/
def character (text : List Char) : Lexeme :=
  let constant := text.take (characterSize text)
  ⟨constant,
    if constant[characterSize text - 1]? = some '\'' then .ok .charConst
    else .error .unterminatedChar⟩

/-- The text behind an opening double quote, up to and with the quote that closes it.  A
backslash takes away the meaning of the character behind it. -/
def quotedBody? : List Char → Option (List Char)
  | [] => none
  | '"' :: _ => some ['"']
  | '\\' :: escaped :: later => (quotedBody? later).map ('\\' :: escaped :: ·)
  | c :: later => (quotedBody? later).map (c :: ·)

/-- Text between double quotes.  Without a closing quote everything is read. -/
def string (later : List Char) : Lexeme :=
  match quotedBody? later with
  | none => ⟨'"' :: later, .error .unterminatedString⟩
  | some body => ⟨'"' :: body, within stringLimit .stringTooLong .stringConst ('"' :: body)⟩

/-- One character, or two that form an operator. -/
def symbol (first : Char) (later : List Char) : Lexeme :=
  ⟨first :: Text.optionalFront (Operator.isCompound first) later, .ok .symbol⟩

/-- The lexeme at the front of a text. -/
def read : List Char → Lexeme
  | [] => ⟨[], .ok .endOfFile⟩
  | first :: later =>
    if isIdentifierStart first then identifier first later
    else if Numeral.startsAt (first :: later) then numeral (first :: later)
    else if first = '\'' then character (first :: later)
    else if first = '"' then string later
    else symbol first later

theorem quotedBody?_isPrefix {text body : List Char} (found : quotedBody? text = some body) :
    body <+: text := by
  fun_induction quotedBody? text generalizing body with
  | case1 => simp at found
  | case2 =>
    rcases Option.some.inj found with rfl
    simp
  | case3 escaped later ih =>
    rcases Option.map_eq_some_iff.mp found with ⟨inner, isInner, rfl⟩
    simpa using ih isInner
  | case4 c later _ _ ih =>
    rcases Option.map_eq_some_iff.mp found with ⟨inner, isInner, rfl⟩
    simpa using ih isInner

/-- The characters of a lexeme are a front of the text. -/
theorem read_text_isPrefix (text : List Char) : (read text).text <+: text := by
  unfold read
  split
  · exact List.nil_prefix
  · next first later =>
    split
    · exact List.cons_prefix_cons.mpr ⟨rfl, List.takeWhile_prefix _⟩
    split
    · exact Numeral.read_isPrefix _
    split
    · exact List.take_prefix _ _
    split
    next isQuote =>
      subst isQuote
      unfold string
      split
      · exact List.prefix_rfl
      · next body found => exact List.cons_prefix_cons.mpr ⟨rfl, quotedBody?_isPrefix found⟩
    · exact List.cons_prefix_cons.mpr ⟨rfl, Text.optionalFront_isPrefix _ _⟩

theorem take_length_read_text (text : List Char) :
    text.take (read text).text.length = (read text).text :=
  (List.prefix_iff_eq_take.mp (read_text_isPrefix text)).symm

/-- A lexeme is empty only at the end. -/
theorem read_text_ne_nil {text : List Char} (nonempty : text ≠ []) : (read text).text ≠ [] := by
  unfold read
  split
  · contradiction
  · next first later =>
    split
    · simp [identifier]
    split
    next starts => exact Numeral.read_ne_nil starts
    split
    · simp only [character, characterSize]
      split <;> simp
    split
    · unfold string
      split <;> simp
    · simp [symbol]

/-- A limit on the length makes no other kind of a token. -/
theorem eq_of_within_eq_ok {limit : Nat} {tooLong : ScanError.Cause} {kind other : TokenKind}
    {text : List Char} (accepted : within limit tooLong kind text = .ok other) : kind = other := by
  unfold within at accepted
  split at accepted
  · exact Except.ok.inj accepted
  · cases accepted

/-- Single quotes make character constants only. -/
theorem eq_of_character_eq_ok {text : List Char} {kind : TokenKind}
    (accepted : (character text).verdict = .ok kind) : kind = .charConst := by
  simp only [character] at accepted
  split at accepted
  · exact (Except.ok.inj accepted).symm
  · cases accepted

/-- A numeral is no end of the file. -/
private theorem kind_ne_endOfFile (numeral : Numeral) : numeral.kind ≠ .endOfFile := by
  unfold Numeral.kind
  split
  · exact TokenKind.noConfusion
  · split <;> exact TokenKind.noConfusion

/-- At the end, and nowhere else, the lexeme is the end of the file. -/
theorem read_verdict_eq_endOfFile_iff {text : List Char} :
    (read text).verdict = .ok .endOfFile ↔ text = [] := by
  unfold read
  split
  · exact ⟨fun _ => rfl, fun _ => rfl⟩
  · refine ⟨fun isEnd => ?_, fun atEnd => nomatch atEnd⟩
    exfalso
    split at isEnd
    · cases eq_of_within_eq_ok isEnd
    split at isEnd
    · exact kind_ne_endOfFile _ (eq_of_within_eq_ok isEnd)
    split at isEnd
    · cases eq_of_character_eq_ok isEnd
    split at isEnd
    · unfold string at isEnd
      split at isEnd
      · cases isEnd
      · cases eq_of_within_eq_ok isEnd
    · cases Except.ok.inj isEnd

end Lexeme
end HeaderScan
