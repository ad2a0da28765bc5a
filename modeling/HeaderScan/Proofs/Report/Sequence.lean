import HeaderScan.Proofs.HiddenContent.Window
import HeaderScan.Proofs.Lexeme.Grammar
import HeaderScan.Proofs.Report.Schedule

namespace HeaderScan

/-!
What is logged about one source is logged in the order of its places.

Findings are about tokens of excluded code, and the error that ends a scan may be about the start of
a comment, of a word or of a directive.  All these places lie on the way of the one cursor, which
never goes back; their offsets ascend strictly, and their lines do not descend.  An error of the
scan is told from a finding by its code, and nothing comes behind it.

`Report.ordered_ofSource` says so, and that sorting the log changes nothing.
-/

/-! ## Lines -/

namespace Cursor

variable {source : List Char} {first second : Cursor source}

theorem Precedes.line_le (precedes : first.Precedes second) : first.line ≤ second.line := by
  rcases precedes with ⟨count, rfl⟩
  exact Nat.le_add_right _ _

/-- Of two places to which a cursor comes, it comes to one first. -/
theorem Precedes.total {cursor : Cursor source} (toFirst : cursor.Precedes first)
    (toSecond : cursor.Precedes second) : first.Precedes second ∨ second.Precedes first := by
  rcases toFirst with ⟨count, rfl⟩
  rcases toSecond with ⟨other, rfl⟩
  have goesOn {few many : Nat} (le : few ≤ many) :
      (cursor.advance few).Precedes (cursor.advance many) := by
    refine ⟨many - few, ?_⟩
    rw [advance_advance, Nat.add_sub_cancel' le]
  exact (Nat.le_total count other).imp goesOn goesOn

end Cursor

variable {source : List Char}

/-- Of two positions on the way of a cursor, the one further on is not on an earlier line. -/
theorem Position.IsBehind.line_le {first second : Position} {cursor : Cursor source}
    (isFirst : first.IsBehind cursor) (isSecond : second.IsBehind cursor)
    (before : first.offset < second.offset) : first.line ≤ second.line := by
  rcases isFirst with ⟨start, toStart, rfl⟩
  rcases isSecond with ⟨stop, toStop, rfl⟩
  rcases toStart.total toStop with goesOn | goesBack
  · exact goesOn.line_le
  · have behind : stop.offset ≤ start.offset := goesBack.offset_le
    exact absurd before (Nat.not_lt.mpr behind)

/-! ## Codes -/

/-- Whether the code is that of an error that ends a scan. -/
def DiagnosticCode.endsScan (code : DiagnosticCode) : Bool :=
  code.isScanning || code == .unmatchedDirective

theorem DiagnosticCode.endsScan_of_isScanning {code : DiagnosticCode}
    (isScanning : code.isScanning = true) : code.endsScan = true := by
  rw [endsScan, isScanning, Bool.true_or]

theorem DiagnosticCode.endsScan_of_isHiddenContent {code : DiagnosticCode}
    (isHidden : code.isHiddenContent = true) : code.endsScan = false := by
  cases code <;> first | rfl | cases isHidden

namespace Lexeme

theorem eq_of_limited_eq_error {limit : Nat} {tooLong cause : ScanError.Cause} {kind : TokenKind}
    {word : List Char} (refused : limited limit tooLong kind word = .error cause) :
    cause = tooLong := by
  unfold limited at refused
  split at refused
  · cases refused
  · exact (Except.error.inj refused).symm

/-- A text is refused for causes that have codes of the scanner. -/
theorem Reads.isScanning {text : List Char} {reading : Reading} (reads : Reads text reading)
    {cause : ScanError.Cause} (refused : reading = .error cause) :
    cause.code.isScanning = true := by
  cases reads with
  | identifier | numeral | string =>
    rw [eq_of_limited_eq_error refused]
    rfl
  | openCharacter | openString =>
    rw [← Except.error.inj refused]
    rfl
  | character | compound | single => cases refused

theorem isScanning_of_refused {text : List Char} {cause : ScanError.Cause}
    (refused : (read text).verdict = .error cause) : cause.code.isScanning = true := by
  cases text with
  | nil => cases refused
  | cons first later =>
    refine (reads_read (List.cons_ne_nil first later)).isScanning ?_
    rw [reading, refused, Except.map]

end Lexeme

theorem Cursor.isScanning_of_failure {cursor : Cursor source} {error : ScanError}
    (failed : cursor.readToken.1 = .error error) : error.cause.code.isScanning = true := by
  cases isOpen : cursor.hasOpenComment with
  | true =>
    rw [readToken_of_hasOpenComment isOpen] at failed
    rw [← Except.error.inj failed]
    rfl
  | false =>
    rw [readToken_of_not_hasOpenComment isOpen] at failed
    unfold readLexeme at failed
    simp only at failed
    split at failed
    next cause refused =>
      rw [← Except.error.inj failed]
      exact Lexeme.isScanning_of_refused refused
    · cases failed

namespace Flow

/-- What is reported lies on the way of the cursor.  What is found is the content of excluded code,
and what ends a run is an error of the scan. -/
structure OnWay (cursor : Cursor source) (flow : Flow) : Prop where
  findings : ∀ finding ∈ flow.findings,
    finding.code.isHiddenContent = true ∧ finding.position.IsBehind cursor
  stop : ∀ error ∈ flow.stop,
    error.cause.code.endsScan = true ∧ error.position.IsBehind cursor

namespace OnWay

variable {cursor later : Cursor source} {flow : Flow} {state : Option Conditional.State}

theorem nothing (cursor : Cursor source) (state : Option Conditional.State) :
    OnWay cursor (halted none state) :=
  ⟨by rintro _ ⟨⟩, by rintro _ ⟨⟩⟩

theorem error {error : ScanError} (ends : error.cause.code.endsScan = true)
    (isBehind : error.position.IsBehind cursor) : OnWay cursor (halted (some error) state) where
  findings := by rintro _ ⟨⟩
  stop other isError := by
    rw [← Option.some.inj isError]
    exact ⟨ends, isBehind⟩

theorem before (onWay : OnWay later flow) (precedes : cursor.Precedes later) :
    OnWay cursor flow where
  findings finding found := (onWay.findings finding found).imp_right (·.trans precedes)
  stop error isError := (onWay.stop error isError).imp_right (·.trans precedes)

theorem behind {findings : List Diagnostic} {boundaries : List Boundary}
    (here : ∀ finding ∈ findings,
      finding.code.isHiddenContent = true ∧ finding.position.IsBehind cursor)
    (onWay : OnWay cursor flow) : OnWay cursor (flow.behind findings boundaries) where
  findings finding found := (List.mem_append.mp found).elim (here finding) (onWay.findings finding)
  stop := onWay.stop

end OnWay

/-- Whatever code the loop is in, nothing is reported that it has passed already. -/
theorem onWay_run (state : Option Conditional.State) (mode : Mode) (cursor : Cursor source) :
    OnWay cursor (run state mode cursor) := by
  -- Errors stand where a raw token begins, or a comment in front of it; findings stand at tokens.
  fun_induction run state mode cursor with
  | case1 state mode cursor error failed =>
    have isScanning := Cursor.isScanning_of_failure failed
    exact .error (DiagnosticCode.endsScan_of_isScanning isScanning)
      (Cursor.isBehind_failure failed)
  | case2 state mode cursor after token read atEnd =>
    have nothing := OnWay.nothing cursor state
    exact ⟨nothing.findings, nothing.stop⟩
  | case3 state mode cursor after token read notEnd current decides text unmatched =>
    exact .error rfl (Cursor.liesBehind_readToken read).startPosition
  | case4 state mode cursor after token read notEnd current decides text outcome next applied
      inductionHypothesis =>
    have onWay := inductionHypothesis.before (Directive.precedes_passed cursor)
    exact ⟨onWay.findings, onWay.stop⟩
  | case5 state cursor after token read notEnd unhandled inductionHypothesis =>
    have onWay := inductionHypothesis.before cursor.precedes_readToken
    exact ⟨onWay.findings, onWay.stop⟩
  | case6 state cursor after token read notEnd unhandled checks progress searched
      inductionHypothesis =>
    refine .behind ?_ (inductionHypothesis.before cursor.precedes_readToken)
    intro finding found
    rw [Option.mem_toList] at found
    refine ⟨HiddenContent.Progress.isHiddenContent_of_stepIf found, ?_⟩
    rw [HiddenContent.position_of_stepIf found]
    exact (Cursor.liesBehind_readToken read).startPosition

namespace OnWay

variable {cursor : Cursor source} {flow : Flow}

theorem diagnostics (onWay : OnWay cursor flow) :
    ∀ diagnostic ∈ flow.diagnostics, diagnostic.position.IsBehind cursor := by
  intro diagnostic member
  rcases List.mem_append.mp member with found | isStop
  · exact (onWay.findings diagnostic found).2
  · rcases Option.map_eq_some_iff.mp (Option.mem_toList.mp isStop) with ⟨error, isError, rfl⟩
    exact (onWay.stop error isError).2

/-- Only the last of the diagnostics can be an error that ends the scan. -/
theorem endsScan_of_mem_dropLast (onWay : OnWay cursor flow) {diagnostic : Diagnostic}
    (member : diagnostic ∈ flow.diagnostics.dropLast) : diagnostic.code.endsScan = false := by
  have found : diagnostic ∈ flow.findings := by
    unfold Flow.diagnostics at member
    cases stopped : flow.stop with
    | none =>
      rw [stopped, Option.map_none, Option.toList_none, List.append_nil] at member
      exact List.mem_of_mem_dropLast member
    | some error =>
      rw [stopped, Option.map_some, Option.toList_some, List.dropLast_concat] at member
      exact member
  exact DiagnosticCode.endsScan_of_isHiddenContent (onWay.findings diagnostic found).1

/-- A run ends with an error exactly if such an error is reported. -/
theorem isSome_stop_iff (onWay : OnWay cursor flow) :
    flow.stop.isSome = true ↔
      ∃ diagnostic ∈ flow.diagnostics, diagnostic.code.endsScan = true := by
  constructor
  · intro stopped
    rcases Option.isSome_iff_exists.mp stopped with ⟨error, isError⟩
    refine ⟨error.toDiagnostic, ?_, (onWay.stop error isError).1⟩
    rw [Flow.diagnostics, isError]
    exact List.mem_append_right _ (List.mem_singleton_self _)
  · rintro ⟨diagnostic, member, ends⟩
    rcases List.mem_append.mp member with found | isStop
    · have goesOn :=
        DiagnosticCode.endsScan_of_isHiddenContent (onWay.findings diagnostic found).1
      exact absurd (goesOn.symm.trans ends) Bool.false_ne_true
    · rcases Option.map_eq_some_iff.mp (Option.mem_toList.mp isStop) with ⟨error, isError, _⟩
      exact Option.isSome_iff_exists.mpr ⟨error, isError⟩

end OnWay

/-- The places of what is reported do not go back to an earlier line. -/
theorem ordered_diagnostics (state : Option Conditional.State) (mode : Mode)
    (cursor : Cursor source) :
    (run state mode cursor).diagnostics.Pairwise fun first second =>
      first.span.start < second.span.start ∧ first.line ≤ second.line := by
  have onWay := (onWay_run state mode cursor).diagnostics
  have ascend := (ascend_run state mode cursor).ordered
  refine ascend.imp_of_mem ?_
  intro first second isFirst isSecond before
  exact ⟨before, (onWay first isFirst).line_le (onWay second isSecond) before⟩

end Flow

/-! ## The log -/

/-- Entries that come in the order of their places are sorted as they come. -/
theorem Log.sorted_of_pairwise {log : Log}
    (ordered : log.entries.Pairwise fun first second => first.isOrdered second = true) :
    log.sorted = log.entries :=
  List.mergeSort_of_pairwise ordered

namespace Report

theorem failed_ofSource (name source : String) (showTokens : Bool) (symbols : SymbolTable) :
    (ofSource name source showTokens symbols).1.failed =
      (Flow.run (some (Conditional.State.ofSymbols symbols)) .included
        (.start source.toList)).stop.isSome := by
  rcases Reader.exists_drains source.toList symbols with ⟨journal, projected, drains⟩
  unfold ofSource
  rw [projected]
  change journal.1.stop.isSome = _
  rw [drains.stop, Option.isSome_map]

/-- What is reported of a source comes in the order of the places, and an error that ends the scan
comes last, if there is one.  The log of it is sorted as it is. -/
structure Ordered (name : String) (report : Report) (diagnostics : List Diagnostic) : Prop where
  places : diagnostics.Pairwise fun first second =>
    first.span.start < second.span.start ∧ first.line ≤ second.line
  last : ∀ diagnostic ∈ diagnostics.dropLast, diagnostic.code.endsScan = false
  failed_iff : report.failed = true ↔
    ∃ diagnostic ∈ diagnostics, diagnostic.code.endsScan = true
  sorted : (Log.empty.pushAll (some name) diagnostics).sorted =
    diagnostics.map (LogEntry.mk (some name))

theorem ordered_ofSource (name source : String) (showTokens : Bool) (symbols : SymbolTable) :
    Ordered name (ofSource name source showTokens symbols).1
      (ofSource name source showTokens symbols).2 := by
  have onWay := Flow.onWay_run (some (Conditional.State.ofSymbols symbols)) .included
    (.start source.toList)
  have places := Flow.ordered_diagnostics (some (Conditional.State.ofSymbols symbols)) .included
    (.start source.toList)
  rw [diagnostics_ofSource]
  refine ⟨places, fun _ => onWay.endsScan_of_mem_dropLast, ?_, ?_⟩
  · rw [failed_ofSource]
    exact onWay.isSome_stop_iff
  · refine Log.sorted_of_pairwise (List.pairwise_map.mpr (places.imp ?_))
    rintro first second ⟨before, lines⟩
    have place : first.line < second.line ∨
        first.line = second.line ∧ first.span.start ≤ second.span.start := by omega
    exact LogEntry.isOrdered_iff.mpr (.inr ⟨rfl, place⟩)

/-- The comment that ends the scan is open behind what is found. -/
example :
    (ofSource "a.h" "#if 0\nUCLASS /* open" false .initial).2.map (·.code) =
      [.hiddenMacro, .unterminatedComment] := by
  decide +kernel

end Report
end HeaderScan
