import HeaderScan.Proofs.Conditional.Interpreter
import HeaderScan.Proofs.HiddenContent.Window
import HeaderScan.Proofs.Report.Order

namespace HeaderScan

/-!
The reflection macros of excluded code.

Whether a token comes out of a drain, and whether it is searched, is decided by what the handler has
said about the latest directive in front of it.  `Scanned.read` goes over a source and writes down
both, the tokens and what was said, and knows nothing of the search.

`Scanned.macros_drain` says that the reflection macros which are reported are exactly those that
this puts into searched code.  How far the search has come with an override plays no part in it, nor
how the drain ends.
-/

/-! ## Tokens and findings -/

namespace Flow

variable {source : List Char}

/-- From an offset on, what comes out and what is found start at different places. -/
structure Apart (offset : Nat) (flow : Flow) : Prop where
  tokens : ∀ token ∈ flow.tokens, offset ≤ token.span.start
  findings : ∀ finding ∈ flow.findings, offset ≤ finding.span.start
  apart : ∀ token ∈ flow.tokens, ∀ finding ∈ flow.findings,
    finding.span.start ≠ token.span.start

namespace Apart

variable {offset later : Nat} {flow : Flow} {token : Token}

theorem halted (stop : Option ScanError) (state : Option Conditional.State) :
    Apart offset (Flow.halted stop state) :=
  ⟨by rintro _ ⟨⟩, by rintro _ ⟨⟩, by rintro _ ⟨⟩⟩

theorem mono (isApart : Apart later flow) (le : offset ≤ later) : Apart offset flow where
  tokens token member := Nat.le_trans le (isApart.tokens token member)
  findings finding member := Nat.le_trans le (isApart.findings finding member)
  apart := isApart.apart

theorem emit (starts : offset ≤ token.span.start) (passed : token.span.start < later)
    (isApart : Apart later flow) : Apart offset (flow.emit token) where
  tokens other member := by
    rcases List.mem_cons.mp member with rfl | isLater
    · exact starts
    · have behind := isApart.tokens other isLater
      omega
  findings finding found := by
    have behind := isApart.findings finding found
    omega
  apart other member finding found := by
    have behind := isApart.findings finding found
    rcases List.mem_cons.mp member with rfl | isLater
    · omega
    · exact isApart.apart other isLater finding found

/-- What is found at a token that does not come out. -/
theorem behind {findings : List Diagnostic} {boundaries : List Boundary}
    (atToken : ∀ finding ∈ findings, finding.span.start = token.span.start)
    (starts : offset ≤ token.span.start) (passed : token.span.start < later)
    (isApart : Apart later flow) : Apart offset (flow.behind findings boundaries) where
  tokens other member := by
    have behind := isApart.tokens other member
    omega
  findings finding found := by
    rcases List.mem_append.mp found with isHere | isLater
    · exact atToken finding isHere ▸ starts
    · have behind := isApart.findings finding isLater
      omega
  apart other member finding found := by
    have behind := isApart.tokens other member
    rcases List.mem_append.mp found with isHere | isLater
    · have here := atToken finding isHere
      omega
    · exact isApart.apart other member finding isLater

end Apart

/-- No token both comes out and is reported. -/
theorem apart_run (state : Option Conditional.State) (mode : Mode) (cursor : Cursor source) :
    Apart cursor.offset (run state mode cursor) := by
  fun_induction run state mode cursor with
  | case1 state mode cursor error failed => exact .halted _ _
  | case2 state mode cursor after token read atEnd =>
    have starts : cursor.offset ≤
        (if mode = .included then token else endToken after).span.start := by
      split
      · exact (start_readToken read).1
      · exact cursor.precedes_readToken.offset_le
    exact .emit starts (Nat.lt_succ_self _) (.halted _ _)
  | case3 state mode cursor after token read notEnd current decides text unmatched =>
    exact .halted _ _
  | case4 state mode cursor after token read notEnd current decides text outcome next applied
      inductionHypothesis =>
    have isApart := inductionHypothesis.mono (Directive.precedes_passed cursor).offset_le
    exact ⟨isApart.tokens, isApart.findings, isApart.apart⟩
  | case5 state cursor after token read notEnd unhandled inductionHypothesis =>
    rcases start_readToken read with ⟨starts, passed⟩
    exact .emit starts (passed notEnd) inductionHypothesis
  | case6 state cursor after token read notEnd unhandled checks progress searched
      inductionHypothesis =>
    rcases start_readToken read with ⟨starts, passed⟩
    refine .behind ?_ starts (passed notEnd) inductionHypothesis
    intro finding found
    exact congrArg Position.offset (HiddenContent.position_of_stepIf (Option.mem_toList.mp found))

end Flow

/-- A token that is no part of a directive, and what the handler has said about the latest directive
in front of it. -/
structure Scanned where
  token : Token
  latest : Outcome

namespace Scanned

open HiddenContent (macroFinding)
open Interpreter (directive? regionOf of_directive?_eq_some of_directive?_eq_none
  length_rest_directive?)

/-- The token is in included code. -/
def isIncluded (scanned : Scanned) : Bool :=
  scanned.latest.includes

/-- The token is a reflection macro in excluded code that is to be searched. -/
def isHiddenMacro (scanned : Scanned) : Bool :=
  !scanned.latest.includes && scanned.latest.checksContent &&
    HiddenContent.macros.contains scanned.token.text

variable {source : List Char}

/-- Goes over the raw tokens up to the end of the file or an error, and applies the directives. -/
def read (state : Conditional.State) (latest : Outcome) (cursor : Cursor source) :
    List Scanned :=
  let after := cursor.readToken.2
  match _read : cursor.readToken.1 with
  | .error _ => []
  | .ok token =>
    if _atEnd : token.kind = .endOfFile then []
    else
      match _found : directive? token after with
      | some (directive, behind) =>
        match state.apply directive (regionOf latest) with
        | none => []
        | some (outcome, next) => read next outcome behind
      | none => ⟨token, latest⟩ :: read state latest after
termination_by cursor.rest.length
decreasing_by
  all_goals have moved := Cursor.length_rest_readToken_lt _read _atEnd
  · exact Nat.lt_of_le_of_lt (length_rest_directive? _found) moved
  · exact moved

/-- The tokens of a source, from its start on, where nothing has been said yet. -/
def ofSource (source : List Char) (symbols : SymbolTable) : List Scanned :=
  read (.ofSymbols symbols) .including (.start source)

/-! ## The loop -/

/-- The loop is in the code that an outcome leads to. -/
inductive Obeys : Flow.Mode → Outcome → Prop
  | included {outcome : Outcome} : outcome.includes = true -> Obeys .included outcome
  | excluded {outcome : Outcome} (progress : HiddenContent.Progress) :
      outcome.includes = false -> Obeys (.excluded outcome.checksContent progress) outcome

variable {mode : Flow.Mode} {latest outcome : Outcome} {state : Conditional.State}

theorem Obeys.region (obeys : Obeys mode latest) : mode.region = regionOf latest := by
  cases obeys with
  | included includes => rw [regionOf, if_pos includes, Flow.Mode.region]
  | excluded progress excludes =>
    rw [regionOf, excludes, if_neg Bool.false_ne_true, Flow.Mode.region]

theorem obeys_after (mode : Flow.Mode) (outcome : Outcome) :
    Obeys (mode.after outcome) outcome := by
  unfold Flow.Mode.after
  split
  next includes => exact .included includes
  next excludes =>
    have excludes := Bool.eq_false_iff.mpr excludes
    cases mode with
    | included => exact .excluded _ excludes
    | excluded checks progress => exact .excluded progress excludes

/-- What a drain gives of the scanned tokens: the tokens that come out, and the reflection macros
that are reported. -/
structure GivenBy (flow : Flow) (scanned : List Scanned) : Prop where
  tokens : flow.tokens.filter (·.kind != .endOfFile) = (scanned.filter isIncluded).map token
  macros : flow.findings.filter (·.code == .hiddenMacro) =
    (scanned.filter isHiddenMacro).map fun one => macroFinding one.token

/-- A reflection macro is found at a token wherever the search stands. -/
theorem filter_stepIf (checks : Bool) (progress : HiddenContent.Progress) (token : Token) :
    (progress.stepIf checks token).1.toList.filter (·.code == .hiddenMacro) =
      if checks && HiddenContent.macros.contains token.text then [macroFinding token] else [] := by
  cases checks with
  | false => rfl
  | true =>
    rw [HiddenContent.Progress.stepIf, if_pos rfl, HiddenContent.Progress.step_fst, Bool.true_and]
    by_cases isMacro : token.text ∈ HiddenContent.macros
    · simp [isMacro]
    · cases completes : progress.completes token.text <;> simp [isMacro]

namespace GivenBy

variable {flow : Flow} {scanned : List Scanned} {token : Token}

theorem emit (given : GivenBy flow scanned) (notEnd : token.kind ≠ .endOfFile)
    (includes : latest.includes = true) :
    GivenBy (flow.emit token) (⟨token, latest⟩ :: scanned) where
  tokens := by simp [Flow.emit, notEnd, isIncluded, includes, given.tokens]
  macros := by simp [Flow.emit, isHiddenMacro, includes, given.macros]

theorem behind (given : GivenBy flow scanned) (excludes : latest.includes = false)
    (progress : HiddenContent.Progress) :
    GivenBy (flow.behind (progress.stepIf latest.checksContent token).1.toList [])
      (⟨token, latest⟩ :: scanned) where
  tokens := by simp [Flow.behind, isIncluded, excludes, given.tokens]
  macros := by
    rw [Flow.behind, List.filter_append, filter_stepIf, given.macros, List.filter_cons,
      isHiddenMacro, excludes, Bool.not_false, Bool.true_and]
    split <;> rfl

end GivenBy

/-- Whatever mode the loop is in, as long as it is the one that the latest directive asks for. -/
theorem givenBy_run (state : Conditional.State) (latest : Outcome) (mode : Flow.Mode)
    (cursor : Cursor source) (obeys : Obeys mode latest) :
    GivenBy (Flow.run (some state) mode cursor) (read state latest cursor) := by
  fun_induction read state latest cursor generalizing mode with
  | case1 state latest cursor error failed =>
    rw [Flow.run_of_error failed]
    exact ⟨rfl, rfl⟩
  | case2 state latest cursor token read atEnd =>
    rw [Flow.run_of_endOfFile read atEnd]
    refine ⟨?_, rfl⟩
    split <;> simp [Flow.halted, Flow.emit, Flow.endToken, Token.atStart, atEnd]
  | case3 state latest cursor after token read notEnd directive behind found refused =>
    rcases of_directive?_eq_some found with ⟨begins, rfl, rfl⟩
    have decides := Flow.deciding_of_beginsDirective (some state) begins
    rw [← obeys.region] at refused
    rw [Flow.run_of_unmatched read notEnd decides refused]
    exact ⟨rfl, rfl⟩
  | case4 state latest cursor after token read notEnd directive behind found outcome next applied
      inductionHypothesis =>
    rcases of_directive?_eq_some found with ⟨begins, rfl, rfl⟩
    have decides := Flow.deciding_of_beginsDirective (some state) begins
    rw [← obeys.region] at applied
    rw [Flow.run_of_applied read notEnd decides applied]
    have later := inductionHypothesis _ (obeys_after mode outcome)
    exact ⟨later.tokens, later.macros⟩
  | case5 state latest cursor after token read notEnd noDirective inductionHypothesis =>
    have unhandled := Flow.deciding_of_not_beginsDirective (some state)
      (of_directive?_eq_none noDirective)
    cases obeys with
    | included includes =>
      rw [Flow.run_of_token read notEnd unhandled]
      exact (inductionHypothesis _ (.included includes)).emit notEnd includes
    | excluded progress excludes =>
      rw [Flow.run_of_excluded_token read notEnd unhandled]
      exact (inductionHypothesis _ (.excluded _ excludes)).behind excludes progress

/-! ## Drains -/

/-- A drain with a handler for conditional compilation reports exactly the reflection macros in
searched code, each where it stands, in their order and once.  The tokens of included code come out,
and none of them is reported.  An error that ends the drain takes back nothing. -/
theorem macros_drain (source : List Char) (symbols : SymbolTable) :
    let drain := (Reader.ofSource source (some (Conditional.ofSymbols symbols))).drain
    let scanned := ofSource source symbols
    let reported := drain.2.findings.filter (·.code == .hiddenMacro)
    reported = (scanned.filter isHiddenMacro).map (fun one => macroFinding one.token) ∧
      reported.map (fun diagnostic => (diagnostic.span, diagnostic.line)) =
        (scanned.filter isHiddenMacro).map (fun one => (one.token.span, one.token.startLine)) ∧
      reported.Pairwise (fun first second => first.span.start < second.span.start) ∧
      drain.1.tokens.filter (·.kind != .endOfFile) = (scanned.filter isIncluded).map token ∧
      ∀ token ∈ drain.1.tokens, ∀ finding ∈ drain.2.findings,
        finding.span.start ≠ token.span.start := by
  intro drain scanned reported
  rcases Reader.exists_drains source symbols with ⟨journal, projected, drains⟩
  have tokens : drain.1.tokens = _ := (congrArg (·.1.tokens) projected).trans drains.tokens
  have findings : drain.2.findings = _ := (congrArg (·.2.findings) projected).trans drains.findings
  have given := givenBy_run (.ofSymbols symbols) .including .included (.start source)
    (.included rfl)
  have ascend := Flow.ascend_run (some (.ofSymbols symbols)) .included (.start source)
  have reports : reported = (scanned.filter isHiddenMacro).map fun one => macroFinding one.token :=
    (congrArg (List.filter _) findings).trans given.macros
  refine ⟨reports, ?_, ?_, ?_, ?_⟩
  · rw [reports, List.map_map]
    rfl
  · have isPart : reported.Sublist drain.2.findings := List.filter_sublist
    rw [findings] at isPart
    exact ascend.ordered.sublist (isPart.trans (List.sublist_append_left _ _))
  · rw [tokens]
    exact given.tokens
  · rw [tokens, findings]
    exact (Flow.apart_run _ _ _).apart

/-- A region within excluded code, a branch that is not searched, and a drain that fails: the macros
on the lines 7 and 9 are not reported. -/
example :
    let source :=
      ("#if 0\nvoid UCLASS\n#if 1\nUENUM\n#endif\n#else\nUSTRUCT\n" ++
        "#elif WITH_EDITORONLY_DATA\nUFUNCTION\n#elif A\nUPROPERTY '").toList
    let drain := (Reader.ofSource source (some (Conditional.ofSymbols .initial))).drain
    drain.2.findings.map (·.line) = [2, 4, 11] ∧ drain.1.stop.isSome = true := by
  decide +kernel

end Scanned
end HeaderScan
