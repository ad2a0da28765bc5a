import HeaderScan.Span

namespace HeaderScan

/-!
Tokens: classified pieces of a source together with the places they were read from.
-/

/-- What a token is. -/
inductive TokenKind
  /-- No token at all. -/
  | absent
  | identifier
  /-- Digits with an optional integer suffix. -/
  | decimalConst
  /-- A numeral with a point, an exponent or a float marker. -/
  | floatConst
  | hexConst
  /-- One character between single quotes, the quotes included. -/
  | charConst
  /-- Text between double quotes, the quotes included. -/
  | stringConst
  /-- One or two characters of punctuation. -/
  | symbol
  /-- The rest of a line, unclassified. -/
  | line
  | endOfFile
  deriving DecidableEq, Repr

namespace TokenKind

/-- Whether the kind ends a stream of tokens. -/
def isEnd : TokenKind → Bool
  | absent | endOfFile => true
  | _ => false

/-- Whether the kind is one of the numerals. -/
def isNumeric : TokenKind → Bool
  | decimalConst | floatConst | hexConst => true
  | _ => false

/-- The name of the kind in dumps. -/
def name : TokenKind → String
  | absent => "none"
  | identifier => "identifier"
  | decimalConst => "decimal constant"
  | floatConst => "float constant"
  | hexConst => "hex constant"
  | charConst => "character constant"
  | stringConst => "string constant"
  | symbol => "symbol"
  | line => "line"
  | endOfFile => "end of file"

end TokenKind

/-- A classified piece of source.  `unget` is where the reader stood before it passed the
white space and comments in front of the token; reading again from there finds the same
comments and the same token. -/
structure Token where
  kind : TokenKind
  span : Span
  startLine : Nat
  /-- The line the reader was on after the last character. -/
  endLine : Nat
  unget : Position
  text : String
  deriving DecidableEq, Repr

namespace Token

/-- No token, at no place. -/
def absent : Token :=
  ⟨.absent, ⟨0, 0⟩, 0, 0, ⟨0, 0⟩, ""⟩

/-- A token to whose own start the reader goes back when it is put back. -/
def atStart (kind : TokenKind) (span : Span) (startLine endLine : Nat) (text : String) : Token where
  kind := kind
  span := span
  startLine := startLine
  endLine := endLine
  unget := ⟨span.start, startLine⟩
  text := text

def isEnd (token : Token) : Bool :=
  token.kind.isEnd

/-- Whether the token is the symbol with this text. -/
def isSymbol (token : Token) (text : String) : Bool :=
  token.kind == .symbol && token.text == text

/-- Whether the token is the identifier with this text. -/
def isIdentifier (token : Token) (text : String) : Bool :=
  token.kind == .identifier && token.text == text

/-- The token as a dump shows it: kind, text, line and span. -/
def render (token : Token) : String :=
  token.kind.name ++ " `" ++ token.text ++ "` @ " ++ toString token.startLine ++ ":" ++
    token.span.render

end Token
end HeaderScan
