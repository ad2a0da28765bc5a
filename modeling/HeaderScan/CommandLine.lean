import HeaderScan.Report

namespace HeaderScan
namespace CommandLine

/-!
The command line: what is written for given arguments and files, and the exit code.
-/

/-- What a run has written, and its exit code. -/
structure Output where
  code : UInt32
  out : String
  err : String
  deriving DecidableEq, Repr

/-- The version that the version command shows. -/
def version : String :=
  "0.1.0-alpha.8"

/-- Lines, each with its end. -/
def unlines (lines : List String) : String :=
  String.join (lines.map (· ++ "\n"))

def usage : String :=
  unlines
    ["reflc - reflection header scanner",
      "",
      "Usage: reflc <command> [options]",
      "",
      "Commands:",
      "  lex <files...>   Tokenize headers and check excluded blocks",
      "  help             Show this message",
      "  version          Show version information",
      "",
      "Set RUST_LOG (e.g. RUST_LOG=refl_lexer=debug) for tracing output."]

def lexUsage : String :=
  unlines
    ["Usage: reflc lex <files...> [options]",
      "",
      "Options:",
      "  --tokens              Print every token",
      "  --define=<NAME>       Treat NAME as defined in #if conditions",
      "  --undefine=<NAME>     Treat NAME as undefined in #if conditions",
      "  --color=<mode>        auto, always or never"]

/-- Scans the files that the options name.  The dumps go to the output, the diagnostics and their
count to the error output, which is taken for a terminal or not. -/
def lex (options : Options) (read : String → Except ReadFailure String) (isTerminal : Bool) :
    Output :=
  let summary := Summary.ofOptions options read
  let colors := options.color.showsColors isTerminal
  { code := if summary.hasErrors then 1 else 0
    out := String.join (summary.reports.map Report.dump)
    err := Terminal.entries colors summary.log.sorted ++
      Terminal.summary colors summary.log.errorCount summary.log.warningCount }

/-- Runs the program. -/
def run (arguments : List String) (read : String → Except ReadFailure String)
    (isTerminal : Bool) : Output :=
  match arguments with
  | [] => ⟨0, usage, ""⟩
  | "lex" :: rest =>
    match Options.ofArguments rest with
    | .error error => ⟨1, "", "error: " ++ error.message ++ "\n" ++ lexUsage⟩
    | .ok options => lex options read isTerminal
  | command :: _ =>
    if ["help", "--help", "-h"].contains command then ⟨0, usage, ""⟩
    else if ["version", "--version", "-V"].contains command then
      ⟨0, "reflc " ++ version ++ "\n", ""⟩
    else ⟨1, usage, "Unknown command: " ++ command ++ "\n\n"⟩

/-- The files that a run reads. -/
def filesRead (arguments : List String) : List String :=
  match arguments with
  | "lex" :: rest =>
    match Options.ofArguments rest with
    | .error _ => []
    | .ok options => options.files
  | _ => []

end CommandLine
end HeaderScan
