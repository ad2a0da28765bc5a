import HeaderScan.Diagnostic.Code
import HeaderScan.Span

namespace HeaderScan

/-!
Diagnostics: coded messages about one place in a source.
-/

/-- How grave a diagnostic is. -/
inductive Severity
  | error
  | warning
  | note
  deriving DecidableEq, Repr

namespace Severity

/-- The severity as it is written. -/
def text : Severity → String
  | error => "error"
  | warning => "warning"
  | note => "note"

end Severity

/-- A coded message about a span, with the line on which the span starts and further notes. -/
structure Diagnostic where
  code : DiagnosticCode
  severity : Severity
  message : String
  span : Span
  line : Nat
  notes : List String
  deriving DecidableEq, Repr

namespace Diagnostic

/-- A diagnostic that says no more than its code, at the first place of a source. -/
def ofCode (code : DiagnosticCode) (severity : Severity) : Diagnostic :=
  ⟨code, severity, code.description, ⟨0, 0⟩, 1, []⟩

/-- An error that says no more than its code. -/
def error (code : DiagnosticCode) : Diagnostic :=
  ofCode code .error

def withMessage (diagnostic : Diagnostic) (message : String) : Diagnostic :=
  { diagnostic with message := message }

/-- The same diagnostic about another place. -/
def locatedAt (diagnostic : Diagnostic) (span : Span) (line : Nat) : Diagnostic :=
  { diagnostic with span := span, line := line }

def withNote (diagnostic : Diagnostic) (note : String) : Diagnostic :=
  { diagnostic with notes := diagnostic.notes ++ [note] }

def isError (diagnostic : Diagnostic) : Bool :=
  diagnostic.severity == .error

/-- The diagnostic on one line, without its notes. -/
def render (diagnostic : Diagnostic) : String :=
  diagnostic.severity.text ++ "[" ++ diagnostic.code.text ++ "]: " ++ diagnostic.message ++
    " (line " ++ toString diagnostic.line ++ ", offset " ++ toString diagnostic.span.start ++ ")"

end Diagnostic
end HeaderScan
