import HeaderScan.Conditional
import HeaderScan.FileTree
import HeaderScan.Options
import HeaderScan.Reader.Drain

namespace HeaderScan

/-!
Reports on scanned headers.
-/

/-- What has become of one header. -/
structure Report where
  path : String
  /-- The number of tokens before the end of the file or an error. -/
  tokenCount : Nat
  /-- The header could not be read to its end. -/
  failed : Bool
  /-- One line for each token, if tokens are shown. -/
  dump : String
  deriving DecidableEq, Repr

namespace Report

/-- The line of a dump that shows a token. -/
def dumpLine (name : String) (token : Token) : String :=
  name ++ ":" ++ token.render ++ "\n"

/-- Scans a text under a name.  The diagnostics are the findings in excluded code, and after them
the error that ended the scan. -/
def ofSource (name source : String) (showTokens : Bool) (symbols : SymbolTable) :
    Report × List Diagnostic :=
  let (drained, reader) :=
    (Reader.ofSource source.toList (some (Conditional.ofSymbols symbols))).drain
  let tokens := drained.tokens.filter fun token => token.kind != .endOfFile
  let errors :=
    match drained.stop with
    | some (.failure error) => [error.toDiagnostic]
    | _ => []
  (⟨name, tokens.length, drained.stop.isSome,
      if showTokens then String.join (tokens.map (dumpLine name)) else ""⟩,
    reader.findings ++ errors)

/-- The report on a file that cannot be read. -/
def ofFailure (name : String) (failure : ReadFailure) : Report × List Diagnostic :=
  (⟨name, 0, true, ""⟩,
    [((Diagnostic.error .unreadableFile).withMessage
      ("could not read file: " ++ failure.message)).locatedAt ⟨0, 0⟩ 0])

/-- Reads and scans a file. -/
def ofFile (read : String → Except ReadFailure String) (showTokens : Bool)
    (symbols : SymbolTable) (path : String) : Report × List Diagnostic :=
  match read path with
  | .error failure => ofFailure path failure
  | .ok source => ofSource path source showTokens symbols

end Report

/-- The reports on several headers and the log of all their diagnostics. -/
structure Summary where
  reports : List Report
  log : Log

namespace Summary

/-- Gathers reports; each report's diagnostics are logged under its path. -/
def ofReports (reports : List (Report × List Diagnostic)) : Summary where
  reports := reports.map Prod.fst
  log := reports.foldl (fun log (report, diagnostics) =>
    log.pushAll (some report.path) diagnostics) .empty

/-- Reads and scans the files that the options name. -/
def ofOptions (options : Options) (read : String → Except ReadFailure String) : Summary :=
  ofReports (options.files.map (Report.ofFile read options.showTokens options.symbols))

def hasErrors (summary : Summary) : Bool :=
  summary.log.errorCount > 0

end Summary
end HeaderScan
