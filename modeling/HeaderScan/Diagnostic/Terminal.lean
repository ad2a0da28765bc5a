import HeaderScan.Diagnostic.Log

namespace HeaderScan

/-!
Diagnostics as they are shown on a terminal, with or without colors.
-/

/-- When to show colors. -/
inductive ColorMode
  /-- On a terminal only. -/
  | auto
  | always
  | never
  deriving DecidableEq, Repr

namespace ColorMode

/-- Whether colors are shown. -/
def showsColors (mode : ColorMode) (isTerminal : Bool) : Bool :=
  match mode with
  | auto => isTerminal
  | always => true
  | never => false

/-- The mode that is written so. -/
def ofText? (text : String) : Option ColorMode :=
  if text = "auto" then some auto
  else if text = "always" then some always
  else if text = "never" then some never
  else none

end ColorMode

namespace Terminal

/-- The control sequences that turn colors on. -/
def red : String := "\x1b[1;31m"

def yellow : String := "\x1b[1;33m"

def cyan : String := "\x1b[1;36m"

def bold : String := "\x1b[1m"

/-- The control sequence that turns colors off. -/
def reset : String := "\x1b[0m"

/-- A text in a color, if colors are shown. -/
def colored (colors : Bool) (color text : String) : String :=
  if colors then color ++ text ++ reset else text

def severityColor : Severity → String
  | .error => red
  | .warning => yellow
  | .note => cyan

/-- The plural ending that goes with a count. -/
def pluralEnding (count : Nat) : String :=
  if count = 1 then "" else "s"

/-- A diagnostic about a source: the message, the place, and each note on a line of its own. -/
def diagnostic (colors : Bool) (source : Option String) (diagnostic : Diagnostic) : String :=
  let heading :=
    colored colors (severityColor diagnostic.severity) diagnostic.severity.text ++
      colored colors bold ("[" ++ diagnostic.code.text ++ "]") ++ ": " ++
      diagnostic.message ++ "\n"
  let place :=
    "  --> " ++ source.getD "<input>" ++ ":" ++ toString diagnostic.line ++ " (offset " ++
      toString diagnostic.span.start ++ ")\n"
  let notes := diagnostic.notes.map fun note =>
    "  = " ++ colored colors bold "note" ++ ": " ++ note ++ "\n"
  heading ++ place ++ String.join notes

/-- Several entries, one after the other. -/
def entries (colors : Bool) (entries : List LogEntry) : String :=
  String.join (entries.map fun entry => diagnostic colors entry.source entry.diagnostic)

/-- How many errors and warnings there were; nothing if there were none. -/
def summary (colors : Bool) (errors warnings : Nat) : String :=
  if errors > 0 then
    colored colors red "error" ++ ": " ++ toString errors ++ " error" ++ pluralEnding errors ++
      " and " ++ toString warnings ++ " warning" ++ pluralEnding warnings ++ " emitted\n"
  else if warnings > 0 then
    colored colors yellow "warning" ++ ": " ++ toString warnings ++ " warning" ++
      pluralEnding warnings ++ " emitted\n"
  else ""

end Terminal
end HeaderScan
