import HeaderScan.Diagnostic.Basic

namespace HeaderScan

/-!
The errors that end the scan of a header, and those of a caller that misuses the reader.
-/

/-- The number of bytes from which on an identifier or a numeral is too long. -/
def nameLimit : Nat :=
  1024

/-- The number of bytes from which on a string is too long. -/
def stringLimit : Nat :=
  1024

/-- What went wrong.  The last four causes are a caller's, who asked the reader for something
that its state does not allow. -/
inductive ScanError.Cause
  | identifierTooLong
  | numberTooLong
  | stringTooLong
  | unterminatedChar
  | unterminatedString
  | unterminatedQuote
  | unterminatedComment
  | unmatchedDirective
  | stateAlreadySaved
  | noSavedState
  | recordingAlreadyEnabled
  | recordingNotEnabled
  deriving DecidableEq, Repr

/-- An error at a place of the source. -/
structure ScanError where
  cause : ScanError.Cause
  position : Position
  deriving DecidableEq, Repr

namespace ScanError

namespace Cause

/-- The cause in words. -/
def message : Cause → String
  | identifierTooLong => "identifier length exceeds maximum of " ++ toString nameLimit
  | numberTooLong => "number length exceeds maximum of " ++ toString nameLimit
  | stringTooLong => "string exceeds maximum of " ++ toString stringLimit ++ " characters"
  | unterminatedChar => "unterminated character constant"
  | unterminatedString => "unterminated string constant"
  | unterminatedQuote => "unterminated quoted string"
  | unterminatedComment => "end of header encountered inside comment"
  | unmatchedDirective => "preprocessor directive without a matching #if"
  | stateAlreadySaved => "can not save more than one state"
  | noSavedState => "can not restore or abandon state when none has been saved"
  | recordingAlreadyEnabled => "can not nest token recording"
  | recordingNotEnabled => "token recording is not enabled"

/-- Whether the fault lies with the caller and not with the header. -/
def isInternal : Cause → Bool
  | stateAlreadySaved | noSavedState | recordingAlreadyEnabled | recordingNotEnabled => true
  | _ => false

/-- The code under which the cause is reported. -/
def code : Cause → DiagnosticCode
  | unterminatedString => .unterminatedString
  | unterminatedChar => .unterminatedChar
  | unterminatedQuote => .unterminatedQuote
  | unterminatedComment => .unterminatedComment
  | identifierTooLong => .identifierTooLong
  | numberTooLong => .numberTooLong
  | stringTooLong => .stringTooLong
  | unmatchedDirective => .unmatchedDirective
  | stateAlreadySaved | noSavedState | recordingAlreadyEnabled | recordingNotEnabled =>
    .readerMisuse

/-- The internal causes are those reported under an internal code. -/
theorem isInternal_code (cause : Cause) : cause.code.isInternal = cause.isInternal := by
  cases cause <;> rfl

end Cause

/-- The error in words: the cause, the line and the offset. -/
def render (error : ScanError) : String :=
  error.cause.message ++ " (line " ++ toString error.position.line ++ ", offset " ++
    toString error.position.offset ++ ")"

/-- The error as a diagnostic about the empty span at its place. -/
def toDiagnostic (error : ScanError) : Diagnostic :=
  ((Diagnostic.error error.cause.code).withMessage error.cause.message).locatedAt
    (.point error.position.offset) error.position.line

end ScanError
end HeaderScan
