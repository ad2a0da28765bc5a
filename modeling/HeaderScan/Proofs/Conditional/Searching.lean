import HeaderScan.Proofs.Conditional.Interpreter
import HeaderScan.Proofs.HiddenContent.Window
import HeaderScan.Proofs.Report.Order

namespace HeaderScan
namespace Interpreter

open Conditional (Keyword)

/-!
Which excluded code is searched for hidden content.

All excluded code stands in a branch of a region that was opened in included code; the regions that
are opened within the branch change nothing.  `survey` goes over the raw tokens as the interpreter
does, and says of each token of excluded code in which branch it stands.

The directive that begins a branch decides whether it is searched, with one exception: an `#else`
behind a branch that is excluded as well is searched only if that one is.  `findings_drain` says so
of every source, and that nothing is missed where the exception does not come in.
-/

/-! ## Branches -/

/-- An excluded branch of a region that was opened in included code. -/
inductive Branch
  /-- The code in front of the directive that begins the branch is included. -/
  | first (opener : Directive)
  /-- The branch in front of the directive that begins the branch is excluded as well. -/
  | further (opener : Directive) (before : Branch)

/-- Whether a directive asks for a search of the branch that it begins: an `#else` does, and a
condition does unless it names an exempt symbol. -/
def asksFor (symbols : SymbolTable) (opener : Directive) : Bool :=
  Keyword.ofName opener.name = .otherwise ||
    !(Condition.words opener.argument).any symbols.isExempt

namespace Branch

/-- The directive that begins the branch. -/
def opener : Branch → Directive
  | first opener => opener
  | further opener _ => opener

/-- Whether the branch is searched. -/
def isSearched (symbols : SymbolTable) : Branch → Bool
  | first opener => asksFor symbols opener
  | further opener before =>
    if Keyword.ofName opener.name = .otherwise then before.isSearched symbols
    else asksFor symbols opener

/-- The exception: an `#else` behind an excluded branch that is not searched. -/
def isOverlooked (symbols : SymbolTable) : Branch → Bool
  | first _ => false
  | further opener before =>
    Keyword.ofName opener.name = .otherwise && !before.isSearched symbols

/-- Up to the exception, the directive that begins a branch decides. -/
theorem isSearched_eq (symbols : SymbolTable) (branch : Branch) :
    branch.isSearched symbols =
      (asksFor symbols branch.opener && !branch.isOverlooked symbols) := by
  cases branch with
  | first opener => exact (Bool.and_true _).symm
  | further opener before =>
    by_cases isElse : Keyword.ofName opener.name = .otherwise
    · simp [isSearched, isOverlooked, asksFor, Branch.opener, isElse]
    · simp [isSearched, isOverlooked, Branch.opener, isElse]

/-- The branch in which the code behind a directive stands, if that code is excluded as well.  A
directive begins another branch only if no region within the branch is open. -/
def behind (branch : Branch) (isInnermost : Bool) (directive : Directive) : Branch :=
  match Keyword.ofName directive.name with
  | .elseIf | .otherwise => if isInnermost then further directive branch else branch
  | _ => branch

end Branch

/-! ## The survey -/

/-- The code in which the survey is.  Excluded code may have just begun, so that nothing of it has
been passed. -/
inductive Place
  | active
  | passed (branch : Branch) (isFirst : Bool)

namespace Place

def region : Place → Region
  | active => .included
  | passed _ _ => .excluded

/-- The code behind a directive. -/
def behind (place : Place) (state next : State) (directive : Directive) : Place :=
  if next.isActive then active
  else
    match place with
    | active => passed (.first directive) true
    | passed branch isFirst =>
      passed (branch.behind (state.frames.head?.any Frame.parentActive) directive) isFirst

end Place

/-- A token of excluded code, the branch in which it stands, and whether it is the first token
behind included code. -/
structure Passed where
  token : Token
  branch : Branch
  isFirst : Bool

variable {source : List Char}

/-- Goes over the raw tokens, and gives those of excluded code. -/
def survey (state : State) (place : Place) (cursor : Cursor source) : List Passed :=
  let after := cursor.readToken.2
  match _read : cursor.readToken.1 with
  | .error _ => []
  | .ok token =>
    if _atEnd : token.kind = .endOfFile then []
    else
      match _found : directive? token after with
      | some (directive, behind) =>
        match state.step directive with
        | none => []
        | some next => survey next (place.behind state next directive) behind
      | none =>
        match place with
        | .active => survey state .active after
        | .passed branch isFirst =>
          ⟨token, branch, isFirst⟩ :: survey state (.passed branch false) after
termination_by cursor.rest.length
decreasing_by
  all_goals have moved := Cursor.length_rest_readToken_lt _read _atEnd
  · exact Nat.lt_of_le_of_lt (length_rest_directive? _found) moved
  · exact moved
  · exact moved

/-- What a search of excluded code finds if a rule says which branches are searched.  The search
begins anew behind included code. -/
def search (rule : Branch → Bool) (progress : HiddenContent.Progress) :
    List Passed → List Diagnostic
  | [] => []
  | passed :: later =>
    let reached := if passed.isFirst then .nothing else progress
    let searched := reached.stepIf (rule passed.branch) passed.token
    searched.1.toList ++ search rule searched.2 later

/-- Rules that agree about the branches that are passed find the same. -/
theorem search_congr {first second : Branch → Bool} {passed : List Passed}
    (agree : ∀ one ∈ passed, first one.branch = second one.branch)
    (progress : HiddenContent.Progress) :
    search first progress passed = search second progress passed := by
  induction passed generalizing progress with
  | nil => rfl
  | cons one later inductionHypothesis =>
    have agreeLater := inductionHypothesis fun other member =>
      agree other (List.mem_cons_of_mem one member)
    simp only [search, agree one List.mem_cons_self, agreeLater]

/-! ## What a directive does to the search -/

/-- How the handler's state stands to the survey: as to the interpreter, and in excluded code the
innermost frame says whether the branch is searched. -/
inductive Accords (symbols : SymbolTable) : Place → Conditional.State → State → Prop
  | active {state : Conditional.State} {reference : State} :
      Stands .included state reference -> reference.symbols.exempt = symbols.exempt ->
      Accords symbols .active state reference
  | passed {state : Conditional.State} {reference : State} {branch : Branch} {isFirst : Bool} :
      Stands .excluded state reference -> reference.symbols.exempt = symbols.exempt ->
      state.frames.head?.any Conditional.Frame.checks = branch.isSearched symbols ->
      Accords symbols (.passed branch isFirst) state reference

variable {symbols : SymbolTable} {place : Place} {state after : Conditional.State}
  {reference next : State} {directive : Directive} {outcome : Outcome}

namespace Accords

theorem stands (accords : Accords symbols place state reference) :
    Stands place.region state reference := by
  cases accords with
  | active stands => exact stands
  | passed stands => exact stands

theorem exempt (accords : Accords symbols place state reference) :
    reference.symbols.exempt = symbols.exempt := by
  cases accords with
  | active _ exempt => exact exempt
  | passed _ exempt => exact exempt

end Accords

/-- No directive changes which symbols are exempt. -/
theorem exempt_step (taken : reference.step directive = some next) :
    next.symbols.exempt = reference.symbols.exempt := by
  have ofBranch {condition : Bool} (began : reference.branch condition = some next) :
      next.symbols.exempt = reference.symbols.exempt := by
    unfold State.branch at began
    split at began
    · cases began
    · cases began
      rfl
  unfold State.step State.apply at taken
  split at taken
  · cases taken
    rfl
  · cases taken
    rfl
  · exact ofBranch taken
  · exact ofBranch taken
  · unfold State.leave at taken
    split at taken
    · cases taken
    · cases taken
      rfl
  · cases taken
    unfold State.write
    split
    · rfl
    · split <;> rfl
  · cases taken
    rfl

theorem asksFor_of_exempt {first second : SymbolTable} (same : first.exempt = second.exempt)
    (opener : Directive) : asksFor first opener = asksFor second opener := by
  have sameTest : first.isExempt = second.isExempt :=
    funext fun name => congrArg (List.contains · name) same
  rw [asksFor, asksFor, sameTest]

/-- What an outcome that excludes says about the search, and that the innermost frame remembers
it. -/
structure Searches (outcome : Outcome) (after : Conditional.State) (searched : Bool) : Prop where
  outcome : outcome.checksContent = searched
  frame : after.frames.head?.any Conditional.Frame.checks = searched

namespace Searches

theorem leaveBranch {checks searched : Bool} (same : checks = searched)
    (applied : Conditional.State.inIncluded.leaveBranch state checks = some (outcome, after)) :
    Searches outcome after searched := by
  unfold Conditional.State.inIncluded.leaveBranch at applied
  split at applied
  · cases applied
  · cases applied
    exact ⟨same, same⟩

theorem openRegion {condition : Bool} {argument : List Char} {searched : Bool}
    (same : state.checks argument = searched)
    (applied : some (state.openRegion condition argument) = some (outcome, after))
    (excludes : outcome.includes = false) : Searches outcome after searched := by
  unfold Conditional.State.openRegion at applied
  cases condition with
  | true =>
    cases applied
    cases excludes
  | false =>
    cases applied
    exact ⟨same, same⟩

/-- Behind included code, the directive decides. -/
theorem inIncluded
    (applied : state.inIncluded (.ofName directive.name) directive.argument = some (outcome, after))
    (excludes : outcome.includes = false) :
    Searches outcome after (asksFor state.symbols directive) := by
  have asks : Keyword.ofName directive.name ≠ .otherwise ->
      state.checks directive.argument = asksFor state.symbols directive := by
    intro notElse
    rw [asksFor, decide_eq_false notElse]
    rfl
  cases keyword : Keyword.ofName directive.name with
  | ifCondition =>
    rw [keyword] at applied asks
    exact openRegion (asks nofun) applied excludes
  | ifSymbol isDefined =>
    rw [keyword] at applied asks
    exact openRegion (asks nofun) applied excludes
  | elseIf =>
    rw [keyword] at applied asks
    exact leaveBranch (asks nofun) applied
  | otherwise =>
    rw [keyword] at applied
    refine leaveBranch ?_ applied
    rw [asksFor, keyword]
    rfl
  | endIf =>
    rw [keyword] at applied
    rcases state with ⟨frames, depth, table⟩
    cases frames with
    | nil => cases applied
    | cons frame outer =>
      cases applied
      cases excludes
  | write isDefined =>
    rw [keyword] at applied
    cases applied
    cases excludes
  | other =>
    rw [keyword] at applied
    cases applied
    cases excludes

theorem stay {searched : Bool}
    (applied : some (Conditional.State.inExcluded.stay state) = some (outcome, after))
    (frame : state.frames.head?.any Conditional.Frame.checks = searched) :
    Searches outcome after searched := by
  cases applied
  exact ⟨frame, frame⟩

variable {frame : Conditional.Frame} {outer : List Conditional.Frame} {depth : Nat}
  {table : SymbolTable} {branch : Branch}

/-- Behind excluded code, the branch that begins with the directive decides, or the one that goes
on. -/
theorem inExcluded
    (applied : Conditional.State.inExcluded ⟨frame :: outer, depth, table⟩
      (.ofName directive.name) directive.argument = some (outcome, after))
    (excludes : outcome.includes = false) (same : table.exempt = symbols.exempt)
    (searched : frame.checks = branch.isSearched symbols) :
    Searches outcome after ((branch.behind (depth == 0) directive).isSearched symbols) := by
  unfold Branch.behind
  cases keyword : Keyword.ofName directive.name with
  | ifCondition | ifSymbol =>
    rw [keyword] at applied
    exact stay applied searched
  | elseIf =>
    rw [keyword] at applied
    cases depth with
    | succ depth => exact stay applied searched
    | zero =>
      have asks : Conditional.State.checks ⟨frame :: outer, 0, table⟩ directive.argument =
          (Branch.further directive branch).isSearched symbols := by
        rw [Branch.isSearched, keyword, if_neg nofun, ← asksFor_of_exempt same, asksFor, keyword]
        rfl
      unfold Conditional.State.inExcluded at applied
      simp only at applied
      split at applied
      · cases applied
        cases excludes
      · exact stay applied asks
  | otherwise =>
    rw [keyword] at applied
    cases depth with
    | succ depth => exact stay applied searched
    | zero =>
      -- Nothing is written to the frame, which still says what the branch before asked for.
      have inherits : frame.checks = (Branch.further directive branch).isSearched symbols := by
        rw [Branch.isSearched, keyword, if_pos rfl, searched]
      rcases frame with ⟨taken, checks⟩
      cases taken with
      | true => exact stay applied inherits
      | false =>
        cases applied
        cases excludes
  | endIf =>
    rw [keyword] at applied
    cases depth with
    | succ depth => exact stay applied searched
    | zero =>
      cases applied
      cases excludes
  | write | other =>
    rw [keyword] at applied
    exact stay applied searched

end Searches

/-- Where the loop is when the survey is at a place, if a search goes on from there. -/
def Place.mode (symbols : SymbolTable) (place : Place) (progress : HiddenContent.Progress) :
    Flow.Mode :=
  match place with
  | active => .included
  | passed branch isFirst =>
    .excluded (branch.isSearched symbols) (if isFirst then .nothing else progress)

theorem Place.region_mode (place : Place) (progress : HiddenContent.Progress) :
    (place.mode symbols progress).region = place.region := by
  cases place <;> rfl

/-- A directive takes the loop and the survey to the same place. -/
theorem Accords.step (accords : Accords symbols place state reference)
    (applied : state.apply directive place.region = some (outcome, after))
    (taken : reference.step directive = some next) (progress : HiddenContent.Progress) :
    Accords symbols (place.behind reference next directive) after next ∧
      (place.mode symbols progress).after outcome =
        (place.behind reference next directive).mode symbols progress := by
  have agrees := accords.stands.agrees directive
  rw [applied, taken] at agrees
  have exempt := (exempt_step taken).trans accords.exempt
  cases agrees with
  | taken stands =>
    unfold Place.behind Flow.Mode.after
    by_cases includes : outcome.includes = true
    · rw [regionOf, if_pos includes] at stands
      rw [if_pos includes, if_pos (stands.isActive_iff.mpr rfl)]
      exact ⟨.active stands exempt, rfl⟩
    · rw [regionOf, if_neg includes] at stands
      have inactive : ¬ next.isActive = true := fun active => nomatch stands.isActive_iff.mp active
      have excludes := Bool.eq_false_iff.mpr includes
      rw [if_neg includes, if_neg inactive]
      cases accords with
      | active before same =>
        have searches := Searches.inIncluded applied excludes
        rw [asksFor_of_exempt (before.symbols_eq ▸ same)] at searches
        refine ⟨.passed stands exempt searches.frame, ?_⟩
        exact congrArg (Flow.Mode.excluded · .nothing) searches.outcome
      | @passed _ _ branch isFirst before same searched =>
        cases before with
        | excluded frame outer depth table =>
          have searches := Searches.inExcluded applied excludes same searched
          have innermost : ((List.replicate depth hiddenFrame ++
              ⟨true, frame.taken, false⟩ :: List.replicate outer.length openFrame).head?.any
                Frame.parentActive) = (depth == 0) := by
            cases depth <;> rfl
          refine ⟨.passed stands exempt ?_, ?_⟩
          · rw [innermost]
            exact searches.frame
          · rw [innermost]
            exact congrArg (Flow.Mode.excluded · _) searches.outcome

/-! ## Runs -/

/-- The loop finds what a search of the survey finds. -/
theorem findings_run (place : Place) (state : Conditional.State) (reference : State)
    (cursor : Cursor source) (progress : HiddenContent.Progress)
    (accords : Accords symbols place state reference) :
    (Flow.run (some state) (place.mode symbols progress) cursor).findings =
      search (Branch.isSearched symbols) progress (survey reference place cursor) := by
  -- In included code the progress is any: the next search begins anew.
  fun_induction survey reference place cursor generalizing state progress with
  | case1 reference place cursor error failed =>
    rw [Flow.run_of_error failed]
    rfl
  | case2 reference place cursor token read atEnd =>
    rw [Flow.run_of_endOfFile read atEnd]
    rfl
  | case3 reference place cursor after token read notEnd directive behind found refused =>
    rcases of_directive?_eq_some found with ⟨begins, same, _⟩
    have decides := Flow.deciding_of_beginsDirective (some state) begins
    have agrees := accords.stands.agrees directive
    rw [refused, ← same] at agrees
    cases applied : state.apply (.ofText (Directive.readText after).1) place.region with
    | none =>
      rw [← place.region_mode progress] at applied
      rw [Flow.run_of_unmatched read notEnd decides applied]
      rfl
    | some step =>
      rw [applied] at agrees
      cases agrees
  | case4 reference place cursor after token read notEnd directive behind found next taken
      inductionHypothesis =>
    rcases of_directive?_eq_some found with ⟨begins, rfl, rfl⟩
    have decides := Flow.deciding_of_beginsDirective (some state) begins
    cases applied : state.apply (.ofText (Directive.readText after).1) place.region with
    | none =>
      have agrees := accords.stands.agrees (.ofText (Directive.readText after).1)
      rw [applied, taken] at agrees
      cases agrees
    | some step =>
      have ⟨stillAccords, goesOn⟩ := accords.step applied taken progress
      have later := inductionHypothesis step.2 progress stillAccords
      rw [← place.region_mode progress] at applied
      rw [Flow.run_of_applied read notEnd decides applied, goesOn, ← later]
      rfl
  | case5 reference cursor after token read notEnd noDirective inductionHypothesis =>
    have unhandled := Flow.deciding_of_not_beginsDirective (some state)
      (of_directive?_eq_none noDirective)
    have emits := congrArg Flow.findings (Flow.run_of_token read notEnd unhandled)
    exact emits.trans (inductionHypothesis state progress accords)
  | case6 reference cursor after token read notEnd noDirective branch isFirst
      inductionHypothesis =>
    have unhandled := Flow.deciding_of_not_beginsDirective (some state)
      (of_directive?_eq_none noDirective)
    cases accords with
    | passed stands exempt searched =>
      rw [search, ← inductionHypothesis state _ (.passed stands exempt searched)]
      exact congrArg Flow.findings (Flow.run_of_excluded_token read notEnd unhandled)

/-! ## Where something is found -/

/-- Tokens of excluded code start from an offset on, each behind the one before it. -/
structure Passed.Ascend (offset : Nat) (passed : List Passed) : Prop where
  starts : ∀ one ∈ passed, offset ≤ one.token.span.start
  ordered : passed.Pairwise fun first second => first.token.span.start < second.token.span.start

namespace Passed.Ascend

variable {offset later : Nat} {passed : List Passed} {one other : Passed}

theorem mono (ascend : Ascend later passed) (le : offset ≤ later) : Ascend offset passed :=
  ⟨fun one member => Nat.le_trans le (ascend.starts one member), ascend.ordered⟩

theorem cons (starts : offset ≤ one.token.span.start) (stops : one.token.span.start < later)
    (ascend : Ascend later passed) : Ascend offset (one :: passed) where
  starts other member := by
    rcases List.mem_cons.mp member with rfl | isLater
    · exact starts
    · have behind := ascend.starts other isLater
      omega
  ordered := List.pairwise_cons.mpr
    ⟨fun other isLater => Nat.lt_of_lt_of_le stops (ascend.starts other isLater), ascend.ordered⟩

/-- Tokens that start at the same place are the same. -/
theorem eq_of_start (ascend : Ascend offset passed) (isOne : one ∈ passed)
    (isOther : other ∈ passed) (same : one.token.span.start = other.token.span.start) :
    one = other := by
  have distinct : (passed.map (·.token.span.start)).Nodup :=
    List.pairwise_map.mpr (ascend.ordered.imp Nat.ne_of_lt)
  exact List.inj_on_of_nodup_map distinct isOne isOther same

end Passed.Ascend

theorem ascend_survey (state : State) (place : Place) (cursor : Cursor source) :
    Passed.Ascend cursor.offset (survey state place cursor) := by
  fun_induction survey state place cursor with
  | case1 | case2 | case3 => exact ⟨by rintro _ ⟨⟩, .nil⟩
  | case4 state place cursor after token read notEnd directive behind found next taken
      inductionHypothesis =>
    rcases of_directive?_eq_some found with ⟨_, _, rfl⟩
    exact inductionHypothesis.mono (Directive.precedes_passed cursor).offset_le
  | case5 state cursor after token read notEnd noDirective inductionHypothesis =>
    exact inductionHypothesis.mono cursor.precedes_readToken.offset_le
  | case6 state cursor after token read notEnd noDirective branch isFirst
      inductionHypothesis =>
    rcases Flow.start_readToken read with ⟨starts, stops⟩
    exact .cons starts (stops notEnd) inductionHypothesis

variable {rule : Branch → Bool} {passed : List Passed}

/-- Something is found only at a token of a branch that the rule has searched. -/
theorem exists_of_mem_search {progress : HiddenContent.Progress} {finding : Diagnostic}
    (found : finding ∈ search rule progress passed) :
    ∃ one ∈ passed, rule one.branch = true ∧ finding.position = one.token.startPosition := by
  induction passed generalizing progress with
  | nil => cases found
  | cons one later inductionHypothesis =>
    rw [search] at found
    rcases List.mem_append.mp found with here | isLater
    · have inStep := Option.mem_toList.mp here
      refine ⟨one, List.mem_cons_self, ?_, HiddenContent.position_of_stepIf inStep⟩
      by_contra unsearched
      rw [HiddenContent.Progress.stepIf, if_neg unsearched] at inStep
      cases inStep
    · rcases inductionHypothesis isLater with ⟨other, member, rest⟩
      exact ⟨other, List.mem_cons_of_mem one member, rest⟩

/-- In a branch that the rule has searched, every reflection macro is found. -/
theorem mem_search_of_isMacro {one : Passed} (member : one ∈ passed)
    (isMacro : one.token.text ∈ HiddenContent.macros) (searched : rule one.branch = true)
    (progress : HiddenContent.Progress) :
    HiddenContent.macroFinding one.token ∈ search rule progress passed := by
  induction passed generalizing progress with
  | nil => cases member
  | cons first later inductionHypothesis =>
    rw [search]
    rcases List.mem_cons.mp member with rfl | isLater
    · refine List.mem_append_left _ (Option.mem_toList.mpr ?_)
      rw [HiddenContent.Progress.stepIf, if_pos searched, HiddenContent.Progress.step_fst,
        if_pos isMacro]
    · exact List.mem_append_right _ (inductionHypothesis isLater _)

/-- A reflection macro in excluded code is found exactly if the rule has its branch searched. -/
theorem macroFinding_mem_search_iff {offset : Nat} (ascend : Passed.Ascend offset passed)
    {one : Passed} (member : one ∈ passed) (isMacro : one.token.text ∈ HiddenContent.macros)
    (progress : HiddenContent.Progress) :
    HiddenContent.macroFinding one.token ∈ search rule progress passed ↔
      rule one.branch = true := by
  constructor
  · intro found
    rcases exists_of_mem_search found with ⟨other, isOther, searched, place⟩
    have start := congrArg Position.offset place
    rw [ascend.eq_of_start member isOther start]
    exact searched
  · exact fun searched => mem_search_of_isMacro member isMacro searched progress

/-! ## The drain -/

/-- The tokens of a source that stand in excluded code. -/
def excludedTokens (source : List Char) (symbols : SymbolTable) : List Passed :=
  survey (.ofSymbols symbols) .active (.start source)

/-- A drain finds what a search of the excluded code finds in which an `#else` behind an excluded
branch is searched as that is, and any other branch as the directive that begins it asks.  If no
token stands where that makes a difference, the directives alone decide.  A reflection macro in
excluded code is found exactly if the directive asks for the search and is not overlooked. -/
theorem findings_drain (source : List Char) (symbols : SymbolTable) :
    let findings := (Reader.ofSource source (some (Conditional.ofSymbols symbols))).drain.2.findings
    let passed := excludedTokens source symbols
    findings = search (Branch.isSearched symbols) .nothing passed ∧
      ((∀ one ∈ passed, one.branch.isOverlooked symbols = false) ->
        findings = search (fun branch => asksFor symbols branch.opener) .nothing passed) ∧
      ∀ one ∈ passed, one.token.text ∈ HiddenContent.macros ->
        (HiddenContent.macroFinding one.token ∈ findings ↔
          asksFor symbols one.branch.opener = true ∧
            one.branch.isOverlooked symbols = false) := by
  intro findings passed
  have found : findings = search (Branch.isSearched symbols) .nothing passed := by
    rcases Reader.exists_drains source symbols with ⟨journal, projected, drains⟩
    have accords : Accords symbols .active (.ofSymbols symbols) (.ofSymbols symbols) :=
      .active (.included [] symbols) rfl
    change (Reader.drain _).2.findings = _
    rw [projected]
    exact drains.findings.trans (findings_run _ _ _ _ .nothing accords)
  refine ⟨found, ?_, ?_⟩
  · intro regular
    rw [found]
    refine search_congr (fun one member => ?_) _
    rw [Branch.isSearched_eq, regular one member, Bool.not_false, Bool.and_true]
  · intro one member isMacro
    have ascend : Passed.Ascend _ passed :=
      ascend_survey (.ofSymbols symbols) .active (.start source)
    rw [found, macroFinding_mem_search_iff ascend member isMacro, Branch.isSearched_eq,
      Bool.and_eq_true, Bool.not_eq_true']

/-- An exempt branch between others, and a region within the last of them: the directives decide. -/
theorem findings_drain_chain :
    let source :=
      "#ifdef A\n#elif WITH_EDITORONLY_DATA\nUCLASS\n#elif A\n#else\n#if 1\nUENUM\n#endif".toList
    let findings :=
      (Reader.ofSource source (some (Conditional.ofSymbols .initial))).drain.2.findings
    (∀ one ∈ excludedTokens source .initial, one.branch.isOverlooked .initial = false) ∧
      findings = search (fun branch => asksFor .initial branch.opener) .nothing
        (excludedTokens source .initial) ∧
      findings.map (·.line) = [7] := by
  intro source findings
  have regular : ∀ one ∈ excludedTokens source .initial,
      one.branch.isOverlooked .initial = false := by
    decide +kernel
  exact ⟨regular, (findings_drain source .initial).2.1 regular, by decide +kernel⟩

/-- An `#else` behind an exempt branch asks for a search, and is overlooked: a reflection macro in
it is not found. -/
theorem findings_drain_behind_exempt :
    let source := "#if 1\n#elif WITH_EDITORONLY_DATA\n#else\nUCLASS\n#endif\n".toList
    let findings :=
      (Reader.ofSource source (some (Conditional.ofSymbols .initial))).drain.2.findings
    ∃ one ∈ excludedTokens source .initial,
      Keyword.ofName one.branch.opener.name = .otherwise ∧
        one.token.text ∈ HiddenContent.macros ∧
        HiddenContent.macroFinding one.token ∉ findings := by
  decide +kernel

end Interpreter
end HeaderScan
