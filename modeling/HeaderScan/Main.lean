import HeaderScan.CommandLine

namespace HeaderScan

/-!
The program: reads the files that its arguments name, and writes what the command line says.
-/

/-- Why the system has refused to read a file, as far as it matters here.  The number of the
reason may come with either sign. -/
def ReadFailure.ofSystem : IO.Error → ReadFailure
  | .inappropriateType _ number _ =>
    if number = 21 || number = 0 - 21 then isDirectory else notDirectory
  | .invalidArgument _ number _ =>
    if number = 36 || number = 0 - 36 then nameTooLong else invalidName
  | _ => missing

/-- Reads a file as text, with the reason if that fails. -/
def readFile (path : String) : IO (Except ReadFailure String) := do
  try
    let content ← IO.FS.readBinFile path
    match String.fromUTF8? content with
    | none => return .error .notText
    | some text => return .ok text
  catch failure => return .error (.ofSystem failure)

/-- Runs the program on its arguments. -/
def runProgram (arguments : List String) : IO UInt32 := do
  let contents ← (CommandLine.filesRead arguments).mapM fun path => do
    return (path, ← readFile path)
  let read := fun path => (contents.lookup path).getD (.error .missing)
  let err ← IO.getStderr
  let output := CommandLine.run arguments read (← err.isTty)
  (← IO.getStdout).putStr output.out
  err.putStr output.err
  return output.code

end HeaderScan

/-- Runs the program on its arguments. -/
def main (arguments : List String) : IO UInt32 :=
  HeaderScan.runProgram arguments
