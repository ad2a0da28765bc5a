import HeaderScan.Directive.Handler
import HeaderScan.Directive.Text

namespace HeaderScan

/-!
Conditional compilation, as a handler of directives.

Each open region has a frame, but for regions that were opened in excluded code, which are only
counted.  The frame remembers whether a branch of the region has been taken, since no later
branch is taken then.
-/

namespace Conditional

/-- An open region. -/
structure Frame where
  /-- Some branch of the region has been read. -/
  taken : Bool
  /-- The branch that is passed is searched for hidden content. -/
  checks : Bool
  deriving DecidableEq, Repr

/-- The open regions, the innermost first, the number of regions opened in excluded code and not
closed again, and what is known about the symbols. -/
structure State where
  frames : List Frame
  excludedDepth : Nat
  symbols : SymbolTable
  deriving DecidableEq, Repr

/-- The directives that matter here. -/
inductive Keyword
  /-- A region whose condition is an expression. -/
  | ifCondition
  /-- A region whose condition is that a symbol is defined, or with `false`, undefined. -/
  | ifSymbol (isDefined : Bool)
  | elseIf
  | otherwise
  | endIf
  /-- The definition of a symbol, or with `false`, its undefinition. -/
  | write (isDefined : Bool)
  | other
  deriving DecidableEq, Repr

namespace Keyword

/-- The directive with a name. -/
def ofName (name : String) : Keyword :=
  if name = "if" then ifCondition
  else if name = "ifdef" then ifSymbol true
  else if name = "ifndef" then ifSymbol false
  else if name = "elif" then elseIf
  else if name = "else" then otherwise
  else if name = "endif" then endIf
  else if name = "define" then write true
  else if name = "undef" then write false
  else other

end Keyword

namespace State

/-- No region is open. -/
def ofSymbols (symbols : SymbolTable) : State :=
  ⟨[], 0, symbols⟩

/-- Whether the code under a condition is read. -/
def evaluate (state : State) (condition : List Char) : Bool :=
  (Condition.parse condition).includes state.symbols

/-- Whether the code under a condition is searched for hidden content when it is passed: it is,
unless the condition names an exempt symbol. -/
def checks (state : State) (condition : List Char) : Bool :=
  !(Condition.words condition).any state.symbols.isExempt

/-- Whether the code under a test for definition is read; an unknown symbol passes either test. -/
def passesTest (state : State) (isDefined : Bool) (argument : List Char) : Bool :=
  match (Condition.words argument).head?.bind state.symbols.lookup with
  | none => true
  | some known => known == isDefined

/-- Opens a region whose first branch is read or not. -/
def openRegion (state : State) (includes : Bool) (argument : List Char) : Outcome × State :=
  let checks := state.checks argument
  (if includes then .including else .excluding checks,
    { state with frames := ⟨includes, checks⟩ :: state.frames })

/-- Writes down the first word behind a definition or an undefinition. -/
def writeSymbol (state : State) (isDefined : Bool) (argument : List Char) : State :=
  match (Condition.words argument).head? with
  | none => state
  | some name => { state with symbols := state.symbols.write name isDefined }

/-- A directive in included code; there is none if it belongs to a region and none is open. -/
def inIncluded (state : State) (keyword : Keyword) (argument : List Char) :
    Option (Outcome × State) :=
  match keyword with
  | .ifCondition => some (state.openRegion (state.evaluate argument) argument)
  | .ifSymbol isDefined => some (state.openRegion (state.passesTest isDefined argument) argument)
  | .elseIf => leaveBranch (state.checks argument)
  | .otherwise => leaveBranch true
  | .endIf =>
    match state.frames with
    | [] => none
    | _ :: outer => some (.including, { state with frames := outer })
  | .write isDefined =>
    some (Outcome.including.clearingComments, state.writeSymbol isDefined argument)
  | .other => some (Outcome.including.clearingComments, state)
where
  /-- A branch that has been read ends, and so the rest of its region is passed. -/
  leaveBranch (checks : Bool) : Option (Outcome × State) :=
    match state.frames with
    | [] => none
    | _ :: outer => some (.excluding checks, { state with frames := ⟨true, checks⟩ :: outer })

/-- The outcome that continues to exclude, as the innermost region says. -/
def stillExcluding (state : State) : Outcome :=
  .excluding (state.frames.head?.any Frame.checks)

/-- A directive in excluded code; there is none if it belongs to a region and none is open. -/
def inExcluded (state : State) (keyword : Keyword) (argument : List Char) :
    Option (Outcome × State) :=
  match keyword, state.excludedDepth with
  | .ifCondition, depth => some (stay { state with excludedDepth := depth + 1 })
  | .ifSymbol _, depth => some (stay { state with excludedDepth := depth + 1 })
  | .endIf, depth + 1 => some (stay { state with excludedDepth := depth })
  | .endIf, 0 =>
    match state.frames with
    | [] => none
    | _ :: outer => some (.including, { state with frames := outer })
  | .elseIf, 0 =>
    match state.frames with
    | [] => none
    | frame :: outer =>
      if !frame.taken && state.evaluate argument then
        some (.including, { state with frames := { frame with taken := true } :: outer })
      else
        some (stay
          { state with frames := { frame with checks := state.checks argument } :: outer })
  | .otherwise, 0 =>
    match state.frames with
    | [] => none
    | frame :: outer =>
      if frame.taken then some (stay state)
      else some (.including, { state with frames := { frame with taken := true } :: outer })
  | _, _ => some (stay state)
where
  stay (after : State) : Outcome × State :=
    (after.stillExcluding, after)

/-- A directive in either kind of code. -/
def apply (state : State) (directive : Directive) (region : Region) :
    Option (Outcome × State) :=
  let keyword := Keyword.ofName directive.name
  match region with
  | .included => state.inIncluded keyword directive.argument
  | .excluded => state.inExcluded keyword directive.argument

end State
end Conditional

/-- A handler for conditional compilation, with the state remembered when the reader last
remembered its place. -/
structure Conditional where
  state : Conditional.State
  saved : Option Conditional.State
  deriving DecidableEq, Repr

namespace Conditional

/-- A handler that no directive has reached. -/
def ofSymbols (symbols : SymbolTable) : Conditional :=
  ⟨.ofSymbols symbols, none⟩

/-- The number of open regions. -/
def depth (conditional : Conditional) : Nat :=
  conditional.state.frames.length

/-- Whether the code under a condition is read. -/
def evaluate (conditional : Conditional) (condition : List Char) : Bool :=
  conditional.state.evaluate condition

variable {source : List Char}

/-- Reads and applies one directive. -/
def handle (conditional : Conditional) (scanner : Scanner source) (directive : Token)
    (region : Region) : Except Stop Outcome × Conditional × Scanner source :=
  let (text, cursor) := Directive.readText scanner.rewind.cursor
  let after := scanner.rewind.withCursor cursor
  match conditional.state.apply (.ofText text) region with
  | none =>
    (.error (.failure ⟨.unmatchedDirective, ⟨directive.span.start, directive.startLine⟩⟩),
      conditional, after)
  | some (outcome, state) => (.ok outcome, { conditional with state := state }, after)

variable {conditional : Conditional} {scanner : Scanner source} {region : Region}

theorem handle_of_unmatched (directive : Token) (noLookahead : scanner.lookahead = none)
    (unmatched : conditional.state.apply (.ofText (Directive.readText scanner.cursor).1) region =
      none) :
    conditional.handle scanner directive region =
      (.error (.failure ⟨.unmatchedDirective, ⟨directive.span.start, directive.startLine⟩⟩),
        conditional, scanner.withCursor (Directive.readText scanner.cursor).2) := by
  simp [handle, Scanner.rewind_of_lookahead_none noLookahead, unmatched]

theorem handle_of_applied (directive : Token) (noLookahead : scanner.lookahead = none)
    {outcome : Outcome} {next : State}
    (applied : conditional.state.apply (.ofText (Directive.readText scanner.cursor).1) region =
      some (outcome, next)) :
    conditional.handle scanner directive region =
      (.ok outcome, { conditional with state := next },
        scanner.withCursor (Directive.readText scanner.cursor).2) := by
  simp [handle, Scanner.rewind_of_lookahead_none noLookahead, applied]

/-- Remembers the state, in the place of any other. -/
def save (conditional : Conditional) : Conditional :=
  { conditional with saved := some conditional.state }

/-- Goes back to the remembered state, if there is one, and forgets it. -/
def restore (conditional : Conditional) : Conditional :=
  match conditional.saved with
  | none => conditional
  | some state => ⟨state, none⟩

/-- Reading a directive never makes the scanner go back. -/
theorem effort_handle_le (conditional : Conditional) (scanner : Scanner source)
    (directive : Token) (region : Region) :
    (conditional.handle scanner directive region).2.2.effort 0 ≤ scanner.effort 0 := by
  have read := Directive.length_rest_readText_lt scanner.rewind.cursor
  have passed := scanner.effort_rewind_withCursor_le read 0
  unfold handle
  simp only
  split <;> exact passed

instance : DirectiveHandler Conditional where
  handle := handle
  save := save
  restore := restore
  rewinds _ := 0
  handle_le := effort_handle_le

end Conditional
end HeaderScan
