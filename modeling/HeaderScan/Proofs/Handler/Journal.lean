import HeaderScan.Conditional
import HeaderScan.Proofs.Handler.Projection

namespace HeaderScan

/-!
A handler for conditional compilation that keeps a journal.

The reader handles several directives on its way to one token, and what its handler has been
through is not seen from outside.  The journal records every directive that has been applied; as
`Journaled.projection` says, it is kept without any other effect.
-/

/-- A directive that has been applied: where its sign stands, and the state behind it. -/
structure Boundary where
  offset : Nat
  state : Conditional.State
  deriving DecidableEq, Repr

/-- The handler with the directives that it has applied, the first of them first. -/
structure Journaled where
  conditional : Conditional
  boundaries : List Boundary
  deriving DecidableEq, Repr

namespace Journaled

variable {source : List Char}

/-- A handler that no directive has reached. -/
def ofSymbols (symbols : SymbolTable) : Journaled :=
  ⟨.ofSymbols symbols, []⟩

/-- The journal behind a directive. -/
def record (journaled : Journaled) (directive : Token) (result : Except Stop Outcome)
    (after : Conditional) : Journaled :=
  match result with
  | .error _ => ⟨after, journaled.boundaries⟩
  | .ok _ => ⟨after, journaled.boundaries ++ [⟨directive.span.start, after.state⟩]⟩

/-- Applies one directive and records it. -/
def handle (journaled : Journaled) (scanner : Scanner source) (directive : Token)
    (region : Region) : Except Stop Outcome × Journaled × Scanner source :=
  let handled := journaled.conditional.handle scanner directive region
  (handled.1, journaled.record directive handled.1 handled.2.1, handled.2.2)

instance : DirectiveHandler Journaled where
  handle := handle
  save journaled := { journaled with conditional := journaled.conditional.save }
  restore journaled := { journaled with conditional := journaled.conditional.restore }
  rewinds _ := 0
  handle_le journaled := journaled.conditional.effort_handle_le

variable {journaled : Journaled} {scanner : Scanner source} {directive : Token}
  {region : Region}

theorem handle_of_unmatched (noLookahead : scanner.lookahead = none)
    (unmatched : journaled.conditional.state.apply
      (.ofText (Directive.readText scanner.cursor).1) region = none) :
    DirectiveHandler.handle journaled scanner directive region =
      (.error (.failure ⟨.unmatchedDirective, ⟨directive.span.start, directive.startLine⟩⟩),
        journaled, scanner.withCursor (Directive.readText scanner.cursor).2) := by
  have inner := Conditional.handle_of_unmatched directive noLookahead unmatched
  change handle journaled scanner directive region = _
  simp only [handle, inner, record]

theorem handle_of_applied (noLookahead : scanner.lookahead = none) {outcome : Outcome}
    {next : Conditional.State}
    (applied : journaled.conditional.state.apply
      (.ofText (Directive.readText scanner.cursor).1) region = some (outcome, next)) :
    DirectiveHandler.handle journaled scanner directive region =
      (.ok outcome,
        ⟨{ journaled.conditional with state := next },
          journaled.boundaries ++ [⟨directive.span.start, next⟩]⟩,
        scanner.withCursor (Directive.readText scanner.cursor).2) := by
  have inner := Conditional.handle_of_applied directive noLookahead applied
  change handle journaled scanner directive region = _
  simp only [handle, inner, record]

/-- Without its journal the handler does the same. -/
def projection : Projection Journaled Conditional where
  toFun := conditional
  handle_toFun journaled scanner directive region := by
    have same : (handle journaled scanner directive region).2.1.conditional =
        (journaled.conditional.handle scanner directive region).2.1 := by
      simp only [handle, record]
      split <;> rfl
    exact Prod.ext rfl (Prod.ext same.symm rfl)
  save_toFun _ := rfl
  restore_toFun _ := rfl

end Journaled
end HeaderScan
