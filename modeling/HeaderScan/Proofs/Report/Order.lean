import HeaderScan.Proofs.Cursor.Forward
import HeaderScan.Proofs.Reader.Flow
import HeaderScan.Proofs.Tiling
import HeaderScan.Report
import Mathlib.Data.List.Nodup

namespace HeaderScan

/-!
The diagnostics about one source come in the order of their places.

A search finds at most one thing at a token, and goes on behind it; an error ends everything.  The
diagnostics about a source therefore have offsets that ascend strictly, and no two of them are about
the same place: `Report.ascend_ofFile`.
-/

/-- The diagnostics start from an offset on, each behind the one before it. -/
structure Diagnostic.Ascend (offset : Nat) (diagnostics : List Diagnostic) : Prop where
  starts : ∀ diagnostic ∈ diagnostics, offset ≤ diagnostic.span.start
  ordered : diagnostics.Pairwise fun first second => first.span.start < second.span.start

namespace Diagnostic.Ascend

variable {offset later : Nat} {diagnostics : List Diagnostic} {diagnostic : Diagnostic}

theorem nil (offset : Nat) : Ascend offset [] :=
  ⟨(fun _ member => nomatch member), .nil⟩

theorem singleton (offset : Nat) (starts : offset ≤ diagnostic.span.start) :
    Ascend offset [diagnostic] where
  starts _ member := List.mem_singleton.mp member ▸ starts
  ordered := List.pairwise_singleton _ _

theorem mono (ascend : Ascend later diagnostics) (le : offset ≤ later) :
    Ascend offset diagnostics :=
  ⟨fun diagnostic member => Nat.le_trans le (ascend.starts diagnostic member), ascend.ordered⟩

theorem cons (first : offset ≤ diagnostic.span.start) (passed : diagnostic.span.start < later)
    (ascend : Ascend later diagnostics) : Ascend offset (diagnostic :: diagnostics) where
  starts other member := by
    rcases List.mem_cons.mp member with rfl | isLater
    · exact first
    · have behind := ascend.starts other isLater
      omega
  ordered := List.pairwise_cons.mpr
    ⟨fun other isLater => Nat.lt_of_lt_of_le passed (ascend.starts other isLater), ascend.ordered⟩

/-- Diagnostics at the same place are the same. -/
theorem eq_of_start (ascend : Ascend offset diagnostics) {first second : Diagnostic}
    (isFirst : first ∈ diagnostics) (isSecond : second ∈ diagnostics)
    (same : first.span.start = second.span.start) : first = second := by
  have distinct : (diagnostics.map (·.span.start)).Nodup :=
    List.pairwise_map.mpr (ascend.ordered.imp Nat.ne_of_lt)
  exact List.inj_on_of_nodup_map distinct isFirst isSecond same

end Diagnostic.Ascend

namespace Flow

variable {source : List Char}

/-- All that is reported of a source: the findings, and the error that ends everything. -/
def diagnostics (flow : Flow) : List Diagnostic :=
  flow.findings ++ (flow.stop.map ScanError.toDiagnostic).toList

theorem diagnostics_behind (flow : Flow) (findings : List Diagnostic)
    (boundaries : List Boundary) :
    (flow.behind findings boundaries).diagnostics = findings ++ flow.diagnostics :=
  List.append_assoc _ _ _

/-- A token starts behind the cursor, and unless it is the end of the file, the cursor comes to
stand behind its start. -/
theorem start_readToken {cursor : Cursor source} {token : Token}
    (read : cursor.readToken.1 = .ok token) :
    cursor.offset ≤ token.span.start ∧
      (token.kind ≠ .endOfFile -> token.span.start < cursor.readToken.2.offset) := by
  have span := (Cursor.place_readToken read).1
  refine ⟨?_, ?_⟩
  · rw [span]
    exact cursor.precedes_afterTrivia.offset_le
  · intro notEnd
    have nonempty := Cursor.span_readToken_nonempty read notEnd
    rw [span] at nonempty ⊢
    exact nonempty

/-- What is reported from a cursor on starts from there on, in the order of the places. -/
theorem ascend_run (state : Option Conditional.State) (mode : Mode) (cursor : Cursor source) :
    Diagnostic.Ascend cursor.offset (run state mode cursor).diagnostics := by
  fun_induction run state mode cursor with
  | case1 state mode cursor error failed =>
    refine .singleton _ ?_
    rw [show error.toDiagnostic.span.start = error.position.offset from rfl,
      (Cursor.failure_readToken failed).1]
    exact cursor.precedes_afterTrivia.offset_le
  | case2 state mode cursor after token read atEnd => exact .nil _
  | case3 state mode cursor after token read notEnd current decides text unmatched =>
    refine .singleton _ ?_
    exact (start_readToken read).1
  | case4 state mode cursor after token read notEnd current decides text outcome next applied
      inductionHypothesis =>
    exact inductionHypothesis.mono (Directive.precedes_passed cursor).offset_le
  | case5 state cursor after token read notEnd unhandled inductionHypothesis =>
    exact inductionHypothesis.mono cursor.precedes_readToken.offset_le
  | case6 state cursor after token read notEnd unhandled checks progress searched
      inductionHypothesis =>
    rcases start_readToken read with ⟨starts, passed⟩
    rw [diagnostics_behind]
    cases found : searched.1 with
    | none => exact inductionHypothesis.mono cursor.precedes_readToken.offset_le
    | some finding =>
      have place : finding.span.start = token.span.start :=
        congrArg Position.offset (HiddenContent.position_of_stepIf found)
      refine .cons ?_ ?_ inductionHypothesis
      · rw [place]
        exact starts
      · rw [place]
        exact passed notEnd

end Flow

/-! ## Reports -/

namespace Report

/-- What is reported of a source is what comes of it in the one loop. -/
theorem diagnostics_ofSource (name source : String) (showTokens : Bool) (symbols : SymbolTable) :
    (ofSource name source showTokens symbols).2 =
      (Flow.run (some (Conditional.State.ofSymbols symbols)) .included
        (.start source.toList)).diagnostics := by
  rcases Reader.exists_drains source.toList symbols with ⟨journal, projected, drains⟩
  unfold ofSource
  rw [projected]
  change journal.2.findings ++ _ = _
  rw [drains.findings, drains.stop, Flow.diagnostics]
  cases Flow.stop _ <;> rfl

/-- The diagnostics about a file come in the order of their places. -/
theorem ascend_ofFile (read : String → Except ReadFailure String) (showTokens : Bool)
    (symbols : SymbolTable) (path : String) :
    Diagnostic.Ascend 0 (ofFile read showTokens symbols path).2 := by
  unfold ofFile
  cases read path with
  | error failure => exact .singleton 0 (Nat.zero_le _)
  | ok source =>
    have ascend := Flow.ascend_run (some (Conditional.State.ofSymbols symbols)) .included
      (.start source.toList)
    rw [← diagnostics_ofSource path source showTokens symbols] at ascend
    exact ascend

theorem path_ofFile (read : String → Except ReadFailure String) (showTokens : Bool)
    (symbols : SymbolTable) (path : String) :
    (ofFile read showTokens symbols path).1.path = path := by
  unfold ofFile
  cases read path <;> rfl

end Report
end HeaderScan
