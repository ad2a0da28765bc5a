import HeaderScan.CharClass
import HeaderScan.Cursor
import HeaderScan.ScanError
import HeaderScan.Text.Blank
import HeaderScan.Text.Front

namespace HeaderScan

/-!
Raw text: what stands before a terminator, the end of the line or a comment, unclassified.
-/

/-- How a raw text ends. -/
structure RawTextOptions where
  /-- Nothing between double quotes ends the text but the end of the line. -/
  respectQuotes : Bool
  /-- The terminator is left unread and is no part of the text. -/
  keepTerminator : Bool
  deriving DecidableEq, Repr

namespace RawText

/-- Whether a character ends its line. -/
def endsLine (c : Char) : Bool :=
  c == '\r' || c == '\n'

/-- Whether a comment begins with a slash that has this text behind it. -/
def opensComment (later : List Char) : Bool :=
  later.head? == some '*' || later.head? == some '/'

/-- The text before the place where the raw text stops, and whether this place is quoted. -/
def body (terminator : Char) (respectQuotes : Bool) : Bool → List Char → List Char × Bool
  | quoted, [] => ([], quoted)
  | quoted, c :: later =>
    if endsLine c || (!quoted && (c == terminator || (c == '/' && opensComment later))) then
      ([], quoted)
    else
      let quotedAfter := if c == '"' && respectQuotes then !quoted else quoted
      let (text, stop) := body terminator respectQuotes quotedAfter later
      (c :: text, stop)

theorem body_isPrefix (terminator : Char) (respectQuotes quoted : Bool) (text : List Char) :
    (body terminator respectQuotes quoted text).1 <+: text := by
  induction text generalizing quoted with
  | nil => simp [body]
  | cons c later ih =>
    unfold body
    split
    · exact List.nil_prefix
    · exact List.cons_prefix_cons.mpr ⟨rfl, ih _⟩

end RawText

namespace Cursor

variable {source : List Char}

/-- Reads the raw text from here on.  An open quote and too long a text are errors at the place
where the text starts. -/
def readRawText (cursor : Cursor source) (terminator : Char) (options : RawTextOptions) :
    Except ScanError (List Char) × Cursor source :=
  let (body, quoted) := RawText.body terminator options.respectQuotes false cursor.rest
  let stop := cursor.advance body.length
  if quoted then (.error ⟨.unterminatedQuote, cursor.position⟩, stop)
  else
    let ending :=
      if options.keepTerminator then []
      else Text.optionalFront (fun c => c == terminator && !RawText.endsLine c) stop.rest
    let text := Text.dropEndWhile CharClass.isHorizontalSpace (body ++ ending)
    (if Text.byteLength text < stringLimit then .ok text
      else .error ⟨.stringTooLong, cursor.position⟩,
      stop.advance ending.length)

end Cursor
end HeaderScan
