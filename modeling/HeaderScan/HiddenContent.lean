import HeaderScan.Diagnostic.Basic
import HeaderScan.Token

namespace HeaderScan

/-!
The search for content that must not hide in excluded code.

What is generated from a header must not depend on how the header is built, so that reflection
macros and serialization overrides are reported where they stand in excluded code.
-/

namespace HiddenContent

/-- The reflection macros. -/
def macros : List String :=
  ["UPROPERTY", "UCLASS", "USTRUCT", "UENUM", "UINTERFACE", "UDELEGATE", "UFUNCTION"]

/-- The finding that a reflection macro makes. -/
def macroFinding (token : Token) : Diagnostic :=
  ((Diagnostic.error .hiddenMacro).withMessage
    ("'" ++ token.text ++
      "' must not be inside preprocessor blocks, except for WITH_EDITORONLY_DATA")).locatedAt
    token.span token.startLine

/-- The finding that a serialization override makes. -/
def serializerFinding (token : Token) : Diagnostic :=
  ((Diagnostic.error .hiddenSerializer).withMessage
    ("Engine serialization functions must not be inside preprocessor blocks, " ++
      "except for WITH_EDITORONLY_DATA")).locatedAt
    token.span token.startLine

/-- How much of a serialization override has been seen. -/
inductive Progress
  | nothing
  /-- After `void`. -/
  | result
  /-- After `void Serialize`. -/
  | name
  /-- After `void Serialize (`. -/
  | parenthesis
  /-- After `void Serialize ( FStructuredArchive`. -/
  | structured
  /-- After `void Serialize ( FStructuredArchive ::`. -/
  | scope
  deriving DecidableEq, Repr

namespace Progress

/-- What comes of a token when no override has begun before it. -/
def begin (token : Token) : Option Diagnostic × Progress :=
  if macros.contains token.text then (some (macroFinding token), nothing)
  else if token.text == "void" then (none, result)
  else (none, nothing)

/-- Goes past one token.  A token that breaks off an override may begin the next. -/
def step (progress : Progress) (token : Token) : Option Diagnostic × Progress :=
  match progress with
  | nothing => begin token
  | result => if token.text == "Serialize" then (none, name) else begin token
  | name => if token.text == "(" then (none, parenthesis) else begin token
  | parenthesis =>
    if token.text == "FArchive" || token.text == "FStructuredArchiveRecord" then
      (some (serializerFinding token), nothing)
    else if token.text == "FStructuredArchive" then (none, structured)
    else begin token
  | structured => if token.text == "::" then (none, scope) else begin token
  | scope =>
    if token.text == "FRecord" then (some (serializerFinding token), nothing) else begin token

/-- Goes past one token, in code that is searched or is not. -/
def stepIf (searches : Bool) (progress : Progress) (token : Token) :
    Option Diagnostic × Progress :=
  if searches then progress.step token else (none, progress)

/-- What each of several tokens gives, in their order. -/
def run (progress : Progress) : List Token → List (Option Diagnostic)
  | [] => []
  | token :: later =>
    let (finding, next) := progress.step token
    finding :: run next later

end Progress

/-- The findings of a search that starts with the first of the tokens. -/
def findings (tokens : List Token) : List (Option Diagnostic) :=
  Progress.nothing.run tokens

end HiddenContent
end HeaderScan
