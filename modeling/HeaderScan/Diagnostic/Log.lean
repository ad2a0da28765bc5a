import HeaderScan.Diagnostic.Basic

namespace HeaderScan

/-!
A log of diagnostics from several sources.

The order in which diagnostics of different sources arrive means nothing.  They are therefore
taken out in the order of their places; those at one place keep the order in which they came.
-/

/-- A diagnostic and the name of the source it is about. -/
structure LogEntry where
  source : Option String
  diagnostic : Diagnostic
  deriving DecidableEq, Repr

namespace LogEntry

/-- Whether one source is named before another: no name comes first, and names are ordered by
their characters. -/
def sourceBefore : Option String → Option String → Bool
  | none, some _ => true
  | some first, some second => decide (first < second)
  | _, none => false

/-- Whether the place of one entry is not behind that of another: places are ordered by source,
then by line, then by offset. -/
def isOrdered (first second : LogEntry) : Bool :=
  sourceBefore first.source second.source ||
    (first.source == second.source &&
      (decide (first.diagnostic.line < second.diagnostic.line) ||
        (first.diagnostic.line == second.diagnostic.line &&
          decide (first.diagnostic.span.start ≤ second.diagnostic.span.start))))

end LogEntry

/-- The entries of a log, in the order in which they came. -/
structure Log where
  entries : List LogEntry
  deriving DecidableEq, Repr

namespace Log

def empty : Log :=
  ⟨[]⟩

/-- Adds a diagnostic about a source. -/
def push (log : Log) (source : Option String) (diagnostic : Diagnostic) : Log :=
  ⟨log.entries ++ [⟨source, diagnostic⟩]⟩

/-- Adds several diagnostics about one source. -/
def pushAll (log : Log) (source : Option String) (diagnostics : List Diagnostic) : Log :=
  ⟨log.entries ++ diagnostics.map (LogEntry.mk source)⟩

def size (log : Log) : Nat :=
  log.entries.length

def isEmpty (log : Log) : Bool :=
  log.entries.isEmpty

/-- The number of entries of a severity. -/
def count (log : Log) (severity : Severity) : Nat :=
  log.entries.countP (·.diagnostic.severity == severity)

def errorCount (log : Log) : Nat :=
  log.count .error

def warningCount (log : Log) : Nat :=
  log.count .warning

/-- The entries in the order of their places. -/
def sorted (log : Log) : List LogEntry :=
  log.entries.mergeSort LogEntry.isOrdered

end Log
end HeaderScan
