namespace HeaderScan

/-!
The codes of diagnostics.  The digits behind the letter tell the phase that raised a code: `00`
the scanner, `01` the check of excluded blocks, `02` the directives, and `9` the program itself.
-/

/-- What a diagnostic is about. -/
inductive DiagnosticCode
  | unterminatedString
  | unterminatedChar
  | unterminatedQuote
  | unterminatedComment
  | identifierTooLong
  | numberTooLong
  | stringTooLong
  | hiddenMacro
  | hiddenSerializer
  | unmatchedDirective
  | readerMisuse
  | unreadableFile
  deriving DecidableEq, Repr

namespace DiagnosticCode

/-- Every code, in the order of the numbers. -/
def all : List DiagnosticCode :=
  [unterminatedString, unterminatedChar, unterminatedQuote, unterminatedComment,
    identifierTooLong, numberTooLong, stringTooLong, hiddenMacro, hiddenSerializer,
    unmatchedDirective, readerMisuse, unreadableFile]

/-- The code as it is written. -/
def text : DiagnosticCode → String
  | unterminatedString => "E0001"
  | unterminatedChar => "E0002"
  | unterminatedQuote => "E0003"
  | unterminatedComment => "E0004"
  | identifierTooLong => "E0005"
  | numberTooLong => "E0006"
  | stringTooLong => "E0007"
  | hiddenMacro => "E0101"
  | hiddenSerializer => "E0102"
  | unmatchedDirective => "E0201"
  | readerMisuse => "E9001"
  | unreadableFile => "E9002"

/-- The code that is written so. -/
def ofText? (text : String) : Option DiagnosticCode :=
  all.find? (·.text == text)

/-- Reading a written code gives the code back. -/
theorem ofText?_text (code : DiagnosticCode) : ofText? code.text = some code := by
  cases code <;> decide +kernel

/-- What the code stands for, in a few words. -/
def description : DiagnosticCode → String
  | unterminatedString => "unterminated string constant"
  | unterminatedChar => "unterminated character constant"
  | unterminatedQuote => "unterminated quoted string"
  | unterminatedComment => "end of input inside a comment"
  | identifierTooLong => "identifier too long"
  | numberTooLong => "number too long"
  | stringTooLong => "string too long"
  | hiddenMacro => "reflection macro inside an excluded preprocessor block"
  | hiddenSerializer => "serialization function inside an excluded preprocessor block"
  | unmatchedDirective => "unmatched preprocessor directive"
  | readerMisuse => "token reader state misuse"
  | unreadableFile => "source file could not be read"

/-- Whether the scanner raises the code. -/
def isScanning : DiagnosticCode → Bool
  | unterminatedString | unterminatedChar | unterminatedQuote | unterminatedComment
  | identifierTooLong | numberTooLong | stringTooLong => true
  | _ => false

/-- Whether the code is about the content of an excluded block. -/
def isHiddenContent : DiagnosticCode → Bool
  | hiddenMacro | hiddenSerializer => true
  | _ => false

/-- Whether the fault lies with the program and not with a header. -/
def isInternal : DiagnosticCode → Bool
  | readerMisuse | unreadableFile => true
  | _ => false

end DiagnosticCode
end HeaderScan
