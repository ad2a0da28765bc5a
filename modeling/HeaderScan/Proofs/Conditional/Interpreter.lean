import HeaderScan.Proofs.Reader.Flow

namespace HeaderScan
namespace Interpreter

open Conditional (Keyword)

/-!
A plain interpreter of conditional compilation, and that the reader does what it does.

The interpreter keeps a frame for every open region, also for those that are opened in inactive
code, and goes over the raw tokens once.  The handler keeps frames for regions in included code
only, counts the others, and shares its work with the loop that passes excluded code.
`Stands` relates the two stacks; every directive keeps the relation.
-/

/-! ## The interpreter -/

/-- An open region. -/
structure Frame where
  /-- The code around the region is active. -/
  parentActive : Bool
  /-- Some branch of the region has been active. -/
  taken : Bool
  /-- The branch that is passed is active, if the code around the region is. -/
  active : Bool
  deriving DecidableEq, Repr

/-- The open regions, the innermost first, and what is known about the symbols. -/
structure State where
  frames : List Frame
  symbols : SymbolTable
  deriving DecidableEq, Repr

namespace State

def ofSymbols (symbols : SymbolTable) : State :=
  ⟨[], symbols⟩

/-- Code is active if it is in an active branch of every open region. -/
def isActive (state : State) : Bool :=
  state.frames.all Frame.active

/-- Whether the condition of a region or of a branch is true. -/
def holds (state : State) (argument : List Char) : Bool :=
  (Condition.parse argument).includes state.symbols

/-- Whether a test for definition is true; about an unknown symbol it is. -/
def passes (state : State) (isDefined : Bool) (argument : List Char) : Bool :=
  match (Condition.words argument).head?.bind state.symbols.lookup with
  | none => true
  | some known => known == isDefined

/-- Opens a region. -/
def enter (state : State) (condition : Bool) : State :=
  let active := state.isActive && condition
  { state with frames := ⟨state.isActive, active, active⟩ :: state.frames }

/-- Begins another branch of the innermost region, which is active if the region can be active,
none of its branches has been, and the condition is true. -/
def branch (state : State) (condition : Bool) : Option State :=
  match state.frames with
  | [] => none
  | frame :: outer =>
    let active := frame.parentActive && !frame.taken && condition
    some { state with frames := ⟨frame.parentActive, frame.taken || active, active⟩ :: outer }

/-- Closes the innermost region. -/
def leave (state : State) : Option State :=
  match state.frames with
  | [] => none
  | _ :: outer => some { state with frames := outer }

/-- Writes down the first word behind a definition or an undefinition in active code. -/
def write (state : State) (isDefined : Bool) (argument : List Char) : State :=
  match (Condition.words argument).head? with
  | none => state
  | some name =>
    if state.isActive then { state with symbols := state.symbols.write name isDefined } else state

/-- Goes past one directive; there is no state behind it if it belongs to a region and none is
open. -/
def apply (state : State) (keyword : Keyword) (argument : List Char) : Option State :=
  match keyword with
  | .ifCondition => some (state.enter (state.holds argument))
  | .ifSymbol isDefined => some (state.enter (state.passes isDefined argument))
  | .elseIf => state.branch (state.holds argument)
  | .otherwise => state.branch true
  | .endIf => state.leave
  | .write isDefined => some (state.write isDefined argument)
  | .other => some state

def step (state : State) (directive : Directive) : Option State :=
  state.apply (.ofName directive.name) directive.argument

end State

/-- What an interpretation gives: the tokens in active code, the error that ends it, the offset of
each directive with the number of regions that are open behind it, and the last state. -/
structure Result where
  tokens : List Token
  stop : Option ScanError
  heights : List (Nat × Nat)
  state : State

namespace Result

def halted (stop : Option ScanError) (state : State) : Result :=
  ⟨[], stop, [], state⟩

/-- Adds a token in front of the others. -/
def emit (token : Token) (result : Result) : Result :=
  { result with tokens := token :: result.tokens }

/-- Adds a directive in front of the others. -/
def pass (offset height : Nat) (result : Result) : Result :=
  { result with heights := (offset, height) :: result.heights }

end Result

variable {source : List Char}

/-- The directive that a token begins, and the place behind it. -/
def directive? (token : Token) (after : Cursor source) : Option (Directive × Cursor source) :=
  if token.beginsDirective source then
    some (.ofText (Directive.readText after).1, (Directive.readText after).2)
  else none

theorem of_directive?_eq_some {token : Token} {after behind : Cursor source}
    {directive : Directive} (found : directive? token after = some (directive, behind)) :
    token.beginsDirective source = true ∧ .ofText (Directive.readText after).1 = directive ∧
      (Directive.readText after).2 = behind := by
  unfold directive? at found
  split at found
  next begins =>
    have same := Option.some.inj found
    exact ⟨begins, congrArg Prod.fst same, congrArg Prod.snd same⟩
  · cases found

theorem of_directive?_eq_none {token : Token} {after : Cursor source}
    (absent : directive? token after = none) : token.beginsDirective source = false := by
  unfold directive? at absent
  split at absent
  · cases absent
  next noDirective => exact Bool.eq_false_iff.mpr noDirective

theorem length_rest_directive? {token : Token} {after behind : Cursor source}
    {directive : Directive} (found : directive? token after = some (directive, behind)) :
    behind.rest.length ≤ after.rest.length := by
  rw [← (of_directive?_eq_some found).2.2]
  exact Directive.length_rest_readText_le after

/-- Goes over the raw tokens.  The end of the file comes out in inactive code as well, without the
trivia of that code in front of it. -/
def run (state : State) (cursor : Cursor source) : Result :=
  let after := cursor.readToken.2
  match _read : cursor.readToken.1 with
  | .error error => .halted (some error) state
  | .ok token =>
    if _atEnd : token.kind = .endOfFile then
      (Result.halted none state).emit (if state.isActive then token else Flow.endToken after)
    else
      match _found : directive? token after with
      | some (directive, behind) =>
        match state.step directive with
        | none => .halted (some ⟨.unmatchedDirective, ⟨token.span.start, token.startLine⟩⟩) state
        | some next => (run next behind).pass token.span.start next.frames.length
      | none => if state.isActive then (run state after).emit token else run state after
termination_by cursor.rest.length
decreasing_by
  all_goals have moved := Cursor.length_rest_readToken_lt _read _atEnd
  · exact Nat.lt_of_le_of_lt (length_rest_directive? _found) moved
  · exact moved
  · exact moved

/-! ## The two stacks -/

/-- The frame of a region whose code is read. -/
def openFrame : Frame :=
  ⟨true, true, true⟩

/-- The frame of a region that was opened in excluded code. -/
def hiddenFrame : Frame :=
  ⟨false, false, false⟩

/-- How the interpreter's state stands to the handler's.  All regions around included code are
active.  Around excluded code, those that the handler only counts are hidden in the innermost
of its frames, which is inactive, and the regions around that frame are active. -/
inductive Stands : Region → Conditional.State → State → Prop
  | included (frames : List Conditional.Frame) (symbols : SymbolTable) :
      Stands .included ⟨frames, 0, symbols⟩ ⟨List.replicate frames.length openFrame, symbols⟩
  | excluded (frame : Conditional.Frame) (outer : List Conditional.Frame) (depth : Nat)
      (symbols : SymbolTable) :
      Stands .excluded ⟨frame :: outer, depth, symbols⟩
        ⟨List.replicate depth hiddenFrame ++
          ⟨true, frame.taken, false⟩ :: List.replicate outer.length openFrame, symbols⟩

namespace Stands

variable {region : Region} {state : Conditional.State} {reference : State}

theorem symbols_eq (stands : Stands region state reference) :
    reference.symbols = state.symbols := by
  cases stands <;> rfl

/-- The frames of the handler and the regions that it counts make up the interpreter's stack. -/
theorem height_eq (stands : Stands region state reference) :
    reference.frames.length = state.frames.length + state.excludedDepth := by
  cases stands with
  | included => simp
  | excluded =>
    simp only [List.length_append, List.length_replicate, List.length_cons]
    omega

theorem isActive_iff (stands : Stands region state reference) :
    reference.isActive = true ↔ region = .included := by
  cases stands with
  | included => simp [State.isActive, openFrame]
  | excluded => simp [State.isActive]

end Stands

/-! ## Directives -/

/-- The code behind a directive. -/
def regionOf (outcome : Outcome) : Region :=
  if outcome.includes then .included else .excluded

/-- What a directive does on both sides: it is refused by both, or it is taken by both and the
states behind it stand to each other as before. -/
inductive Agrees : Option (Outcome × Conditional.State) → Option State → Prop
  | refused : Agrees none none
  | taken {outcome : Outcome} {after : Conditional.State} {next : State} :
      Stands (regionOf outcome) after next -> Agrees (some (outcome, after)) (some next)

variable {frames outer : List Conditional.Frame} {frame : Conditional.Frame} {depth : Nat}
  {symbols : SymbolTable}

/-- A region that is opened in included code. -/
theorem agrees_openRegion (condition : Bool) (argument : List Char) :
    Agrees (some (Conditional.State.openRegion ⟨frames, 0, symbols⟩ condition argument))
      (some (State.enter ⟨List.replicate frames.length openFrame, symbols⟩ condition)) := by
  have active : State.isActive ⟨List.replicate frames.length openFrame, symbols⟩ = true :=
    (Stands.included frames symbols).isActive_iff.mpr rfl
  unfold State.enter Conditional.State.openRegion
  rw [active]
  cases condition with
  | true => exact .taken (.included (_ :: frames) symbols)
  | false => exact .taken (.excluded _ frames 0 symbols)

/-- The end of a branch that has been read. -/
theorem agrees_leaveBranch (checks condition : Bool) :
    Agrees (Conditional.State.inIncluded.leaveBranch ⟨frames, 0, symbols⟩ checks)
      (State.branch ⟨List.replicate frames.length openFrame, symbols⟩ condition) := by
  cases frames with
  | nil => exact .refused
  | cons frame outer => exact .taken (.excluded ⟨true, checks⟩ outer 0 symbols)

theorem agrees_inIncluded (keyword : Keyword) (argument : List Char) :
    Agrees (Conditional.State.inIncluded ⟨frames, 0, symbols⟩ keyword argument)
      (State.apply ⟨List.replicate frames.length openFrame, symbols⟩ keyword argument) := by
  have active : State.isActive ⟨List.replicate frames.length openFrame, symbols⟩ = true :=
    (Stands.included frames symbols).isActive_iff.mpr rfl
  cases keyword with
  | ifCondition => exact agrees_openRegion _ _
  | ifSymbol isDefined => exact agrees_openRegion _ _
  | elseIf => exact agrees_leaveBranch _ _
  | otherwise => exact agrees_leaveBranch _ _
  | endIf =>
    cases frames with
    | nil => exact .refused
    | cons frame outer => exact .taken (.included _ _)
  | write isDefined =>
    simp only [Conditional.State.inIncluded, State.apply, Conditional.State.writeSymbol,
      State.write, active]
    cases (Condition.words argument).head? with
    | none => exact .taken (.included _ _)
    | some name => exact .taken (.included _ _)
  | other => exact .taken (.included _ _)

/-- A region that is opened in excluded code is counted on one side and hidden on the other. -/
theorem agrees_hidden (condition : Bool) :
    Agrees
      (some (Conditional.State.inExcluded.stay ⟨frame :: outer, depth + 1, symbols⟩))
      (some (State.enter
        ⟨List.replicate depth hiddenFrame ++
          ⟨true, frame.taken, false⟩ :: List.replicate outer.length openFrame, symbols⟩
        condition)) := by
  have inactive : State.isActive ⟨List.replicate depth hiddenFrame ++
      ⟨true, frame.taken, false⟩ :: List.replicate outer.length openFrame, symbols⟩ = false := by
    simp [State.isActive]
  unfold State.enter
  rw [inactive]
  exact .taken (.excluded frame outer (depth + 1) symbols)

/-- The next branch of the innermost region around excluded code. -/
theorem agrees_branch (frame : Conditional.Frame) (outer : List Conditional.Frame)
    (symbols : SymbolTable) (checks condition : Bool) :
    Agrees
      (if !frame.taken && condition then
        some (.including, ⟨{ frame with taken := true } :: outer, 0, symbols⟩)
      else
        some (Conditional.State.inExcluded.stay
          ⟨{ frame with checks := checks } :: outer, 0, symbols⟩))
      (State.branch
        ⟨⟨true, frame.taken, false⟩ :: List.replicate outer.length openFrame, symbols⟩
        condition) := by
  rcases frame with ⟨taken, checked⟩
  cases taken with
  | true => exact .taken (.excluded ⟨true, checks⟩ outer 0 symbols)
  | false =>
    cases condition with
    | true => exact .taken (.included (⟨true, checked⟩ :: outer) symbols)
    | false => exact .taken (.excluded ⟨false, checks⟩ outer 0 symbols)

theorem agrees_inExcluded (keyword : Keyword) (argument : List Char) :
    Agrees (Conditional.State.inExcluded ⟨frame :: outer, depth, symbols⟩ keyword argument)
      (State.apply
        ⟨List.replicate depth hiddenFrame ++
          ⟨true, frame.taken, false⟩ :: List.replicate outer.length openFrame, symbols⟩
        keyword argument) := by
  have inactive : State.isActive ⟨List.replicate depth hiddenFrame ++
      ⟨true, frame.taken, false⟩ :: List.replicate outer.length openFrame, symbols⟩ = false := by
    simp [State.isActive]
  have stays : Stands .excluded ⟨frame :: outer, depth, symbols⟩
      ⟨List.replicate depth hiddenFrame ++
        ⟨true, frame.taken, false⟩ :: List.replicate outer.length openFrame, symbols⟩ :=
    .excluded _ _ _ _
  cases keyword with
  | ifCondition => exact agrees_hidden _
  | ifSymbol isDefined => exact agrees_hidden _
  | elseIf =>
    cases depth with
    | zero => exact agrees_branch _ _ _ _ _
    | succ depth => exact .taken stays
  | otherwise =>
    cases depth with
    | zero =>
      -- A last branch is searched as the branch before it was.
      have branch := agrees_branch frame outer symbols frame.checks true
      rcases frame with ⟨taken, checks⟩
      cases taken <;> exact branch
    | succ depth => exact .taken stays
  | endIf =>
    cases depth with
    | zero => exact .taken (.included _ _)
    | succ depth => exact .taken (.excluded _ _ _ _)
  | write isDefined =>
    simp only [State.apply, State.write, inactive]
    cases (Condition.words argument).head? with
    | none => exact .taken stays
    | some name => exact .taken stays
  | other => exact .taken stays

/-- Every directive keeps the relation of the states, in either kind of code. -/
theorem Stands.agrees {region : Region} {state : Conditional.State} {reference : State}
    (stands : Stands region state reference) (directive : Directive) :
    Agrees (state.apply directive region) (reference.step directive) := by
  cases stands with
  | included => exact agrees_inIncluded _ _
  | excluded => exact agrees_inExcluded _ _

/-! ## Runs -/

/-- How an interpretation stands to a flow. -/
structure Matches (flow : Flow) (result : Result) : Prop where
  tokens : flow.tokens = result.tokens
  stop : flow.stop = result.stop
  heights : flow.boundaries.map
      (fun boundary =>
        (boundary.offset, boundary.state.frames.length + boundary.state.excludedDepth)) =
    result.heights
  symbols : flow.state.map Conditional.State.symbols = some result.state.symbols

theorem region_after (mode : Flow.Mode) (outcome : Outcome) :
    (mode.after outcome).region = regionOf outcome := by
  unfold Flow.Mode.after regionOf
  split
  · rfl
  · cases mode <;> rfl

/-- The interpreter does what the loop does from states that stand to each other. -/
theorem matches_run (mode : Flow.Mode) (state : Conditional.State) (reference : State)
    (cursor : Cursor source) (stands : Stands mode.region state reference) :
    Matches (Flow.run (some state) mode cursor) (run reference cursor) := by
  fun_induction run reference cursor generalizing mode state with
  | case1 reference cursor error failed =>
    rw [Flow.run_of_error failed]
    exact ⟨rfl, rfl, rfl, congrArg some stands.symbols_eq.symm⟩
  | case2 reference cursor after token read atEnd =>
    have sameChoice : (mode = .included) = (reference.isActive = true) := by
      rw [stands.isActive_iff]
      cases mode <;> simp [Flow.Mode.region]
    rw [Flow.run_of_endOfFile read atEnd]
    simp only [sameChoice]
    exact ⟨rfl, rfl, rfl, congrArg some stands.symbols_eq.symm⟩
  | case3 reference cursor after token read notEnd directive behind found refused =>
    rcases of_directive?_eq_some found with ⟨begins, same, _⟩
    have decides := Flow.deciding_of_beginsDirective (some state) begins
    have agrees := stands.agrees directive
    rw [refused, ← same] at agrees
    cases applied : state.apply (.ofText (Directive.readText after).1) mode.region with
    | none =>
      rw [Flow.run_of_unmatched read notEnd decides applied]
      exact ⟨rfl, rfl, rfl, congrArg some stands.symbols_eq.symm⟩
    | some after =>
      rw [applied] at agrees
      cases agrees
  | case4 reference cursor after token read notEnd directive behind found next taken
      inductionHypothesis =>
    rcases of_directive?_eq_some found with ⟨begins, same, place⟩
    have decides := Flow.deciding_of_beginsDirective (some state) begins
    have agrees := stands.agrees directive
    rw [taken, ← same] at agrees
    cases applied : state.apply (.ofText (Directive.readText after).1) mode.region with
    | none =>
      rw [applied] at agrees
      cases agrees
    | some step =>
      rw [applied] at agrees
      cases agrees with
      | @taken outcome after _ stillStands =>
        have height := stillStands.height_eq
        rw [← region_after mode] at stillStands
        have later := inductionHypothesis _ _ stillStands
        rw [← place] at later ⊢
        rw [Flow.run_of_applied read notEnd decides applied]
        refine ⟨later.tokens, later.stop, ?_, later.symbols⟩
        simp only [Flow.behind, Result.pass, List.cons_append, List.nil_append, List.map_cons,
          height]
        exact congrArg _ later.heights
  | case5 reference cursor after token read notEnd noDirective active inductionHypothesis =>
    have unhandled := Flow.deciding_of_not_beginsDirective (some state)
      (of_directive?_eq_none noDirective)
    cases mode with
    | included =>
      have later := inductionHypothesis .included state stands
      rw [Flow.run_of_token read notEnd unhandled]
      exact ⟨congrArg (token :: ·) later.tokens, later.stop, later.heights, later.symbols⟩
    | excluded => exact nomatch stands.isActive_iff.mp active
  | case6 reference cursor after token read notEnd noDirective inactive inductionHypothesis =>
    have unhandled := Flow.deciding_of_not_beginsDirective (some state)
      (of_directive?_eq_none noDirective)
    cases mode with
    | included => exact absurd (stands.isActive_iff.mpr rfl) inactive
    | excluded checks progress =>
      have later := inductionHypothesis
        (.excluded checks (progress.stepIf checks token).2) state stands
      rw [Flow.run_of_excluded_token read notEnd unhandled]
      exact ⟨later.tokens, later.stop, later.heights, later.symbols⟩

/-- The heights that a journal records: the offset of each directive, and how many regions the
handler has open behind it, whether in its frames or only counted. -/
def heights (reader : Reader source Journaled) : List (Nat × Nat) :=
  reader.boundaries.map fun boundary =>
    (boundary.offset, boundary.state.frames.length + boundary.state.excludedDepth)

/-- A drain with a handler for conditional compilation gives the tokens and the error of the
interpreter, and leaves the same symbols.  With a journal, which changes nothing else, it is seen
that the same number of regions is open behind each directive. -/
theorem drain_eq_interpreter (source : List Char) (symbols : SymbolTable) :
    let drained := (Reader.ofSource source (some (Conditional.ofSymbols symbols))).drain
    let journal := (Reader.ofSource source (some (Journaled.ofSymbols symbols))).drain
    let result := run (.ofSymbols symbols) (Cursor.start source)
    drained.1.tokens = result.tokens ∧
      drained.1.stop = result.stop.map Stop.failure ∧
      drained.2.handler.map (·.state.symbols) = some result.state.symbols ∧
      drained = (journal.1, journal.2.map Journaled.conditional) ∧
      heights journal.2 = result.heights := by
  intro drained journal result
  have projected : drained = (journal.1, journal.2.map Journaled.conditional) :=
    Journaled.projection.drain_map (Reader.ofSource source (some (Journaled.ofSymbols symbols)))
  have drains := (Reader.ofSource source (some (Journaled.ofSymbols symbols))).drains_drain rfl
  have start : (Reader.ofSource source (some (Journaled.ofSymbols symbols))).flowFrom
      (Cursor.start source) =
      Flow.run (some (.ofSymbols symbols)) .included (Cursor.start source) := Flow.behind_nil _
  have agrees : Matches _ result :=
    matches_run .included (.ofSymbols symbols) (.ofSymbols symbols) (Cursor.start source)
      (.included [] symbols)
  rw [← start] at agrees
  have sameResult : drained.1 = journal.1 := congrArg Prod.fst projected
  have sameHandler : drained.2.handler.map (·.state.symbols) =
      journal.2.state.map Conditional.State.symbols := by
    rw [projected]
    simp only [Reader.map, Reader.state, Option.map_map]
    rfl
  refine ⟨?_, ?_, ?_, projected, ?_⟩
  · rw [sameResult]
    exact drains.tokens.trans agrees.tokens
  · rw [sameResult, ← agrees.stop]
    exact drains.stop
  · rw [sameHandler, ← agrees.symbols]
    exact congrArg _ drains.state
  · rw [← agrees.heights]
    exact congrArg _ drains.boundaries

end Interpreter
end HeaderScan
