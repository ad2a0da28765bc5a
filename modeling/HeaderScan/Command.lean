import HeaderScan.Reader.Drain

namespace HeaderScan

/-!
What can be asked of a reader, as data.

A command says what to do and a reply what came of it.  A scanner performs a command without
regard to directives; a reader performs those commands itself that read tokens or concern its
handler, and leaves the others to its scanner.
-/

/-- What can be asked.  `record` and `isFirst` are about the token that was returned last. -/
inductive Command
  | next
  | peek
  | drain
  | consume
  | setLine (line : Nat)
  | passTrivia
  | readLine
  | readRawText (terminator : Char) (options : RawTextOptions)
  | view (offset size : Nat)
  | sourceSize
  | isFirst
  | isFirstAt (offset : Nat)
  | clearComments
  | disableComments
  | enableComments
  | commitComments
  | save
  | restore
  | abandon
  | enableRecording
  | disableRecording
  | record
  | recorded
  deriving DecidableEq, Repr

/-- What comes of a command. -/
inductive Reply
  | done
  | token (token : Token)
  /-- The tokens of a drain, the end of the file included, and the error that ended it. -/
  | drained (tokens : List Token) (failure : Option ScanError)
  | rawText (text : String)
  | view (text : String)
  | size (bytes : Nat)
  | truth (holds : Bool)
  | recorded (tokens : List Token)
  deriving DecidableEq, Repr

namespace Reply

/-- The token that a command has returned last, if it has returned any. -/
def latest : Reply → Option Token
  | .token taken => some taken
  | .drained tokens _ => tokens.getLast?
  | _ => none

/-- The reply to a drain, unless it has met a breach. -/
def ofDrained (drained : Drained) : Except Stop Reply :=
  match drained.stop with
  | none => .ok (.drained drained.tokens none)
  | some (.failure error) => .ok (.drained drained.tokens (some error))
  | some .breach => .error .breach

end Reply

namespace Scanner

variable {source : List Char}

/-- An operation that does nothing when it fails. -/
def attempt (scanner : Scanner source) (result : Except Stop (Scanner source)) :
    Except Stop Reply × Scanner source :=
  match result with
  | .error stop => (.error stop, scanner)
  | .ok after => (.ok .done, after)

/-- Performs a command, given the token that was returned last. -/
def perform (scanner : Scanner source) (last : Token) :
    Command → Except Stop Reply × Scanner source
  | .next => ((scanner.next.1.mapError .failure).map .token, scanner.next.2)
  | .peek => ((scanner.peek.1.mapError .failure).map .token, scanner.peek.2)
  | .drain => (Reply.ofDrained scanner.drain.1, scanner.drain.2)
  | .consume => (.ok .done, scanner.consume)
  | .setLine line => (.ok .done, scanner.withLine line)
  | .passTrivia =>
    ((scanner.passTrivia.1.mapError .failure).map fun () => .done, scanner.passTrivia.2)
  | .readLine => (.ok (.token scanner.readLine.1), scanner.readLine.2)
  | .readRawText terminator options =>
    let (result, after) := scanner.readRawText terminator options
    ((result.mapError .failure).map .rawText, after)
  | .view offset size => ((scanner.view offset size).map .view, scanner)
  | .sourceSize => (.ok (.size (Text.byteLength source)), scanner)
  | .isFirst => (.ok (.truth (scanner.isFirstInLine last)), scanner)
  | .isFirstAt offset => (.ok (.truth (Text.startsLine source offset)), scanner)
  | .clearComments => (.ok .done, scanner.clearComments)
  | .disableComments => (.ok .done, scanner.disableComments)
  | .enableComments => scanner.attempt scanner.enableComments
  | .commitComments => (.ok .done, scanner.commitComments)
  | .save => scanner.attempt (scanner.save.mapError .failure)
  | .restore => scanner.attempt (scanner.restore.mapError .failure)
  | .abandon => scanner.attempt (scanner.abandon.mapError .failure)
  | .enableRecording => scanner.attempt (scanner.enableRecording.mapError .failure)
  | .disableRecording => scanner.attempt (scanner.disableRecording.mapError .failure)
  | .record => scanner.attempt ((scanner.record last).mapError .failure)
  | .recorded => ((scanner.recorded.mapError .failure).map .recorded, scanner)

end Scanner

namespace Reader

variable {source : List Char} {σ : Type} [DirectiveHandler σ]

/-- An operation that does nothing when it fails. -/
def attempt (reader : Reader source σ) (result : Except ScanError (Reader source σ)) :
    Except Stop Reply × Reader source σ :=
  match result with
  | .error error => (.error (.failure error), reader)
  | .ok after => (.ok .done, after)

/-- Performs a command, given the token that was returned last. -/
def perform (reader : Reader source σ) (last : Token) :
    Command → Except Stop Reply × Reader source σ
  | .next => (reader.next.1.map .token, reader.next.2)
  | .peek => (reader.peek.1.map .token, reader.peek.2)
  | .drain => (Reply.ofDrained reader.drain.1, reader.drain.2)
  | .save => reader.attempt reader.save
  | .restore => reader.attempt reader.restore
  | command =>
    let (result, scanner) := reader.scanner.perform last command
    (result, reader.withScanner scanner)

end Reader
end HeaderScan
