import HeaderScan.Conditional
import HeaderScan.Session.Script

namespace HeaderScan

/-!
Handlers that act by commands.

To the reader a handler may be anything that leaves some scanner.  One that acts by commands does
nothing to the scanner but what its caller could ask of it as well, so that what holds of every
command holds of whatever the handler does.  Both kinds of handlers of this library are such.
-/

variable {source : List Char}

/-- Performs several commands, each about a token. -/
def Scanner.performEach (scanner : Scanner source) (commands : List (Token × Command)) :
    Scanner source :=
  commands.foldl (fun scanner asked => (scanner.perform asked.1 asked.2).2) scanner

/-- Handlers of a kind that act by commands.  `commands` are those that are performed for a
directive, whatever comes of it. -/
class ActsByCommands (σ : Type) [DirectiveHandler σ] where
  commands : {source : List Char} → σ → Scanner source → Token → Region → List (Token × Command)
  performed : ∀ {source : List Char} (handler : σ) (scanner : Scanner source) (directive : Token)
    (region : Region), (DirectiveHandler.handle handler scanner directive region).2.2 =
      scanner.performEach (commands handler scanner directive region)

/-! ## Conditional compilation -/

namespace Directive

/-- The commands that gather the lines of a directive: one for each line. -/
def lineCommands (text : List Char) (cursor : Cursor source) : List (Token × Command) :=
  if _atEnd : cursor.isAtEnd then []
  else
    let (gathered, goesOn) := gather text cursor.lineText
    (.absent, .readLine) :: if goesOn then lineCommands gathered cursor.readLine.2 else []
termination_by cursor.rest.length
decreasing_by exact Cursor.length_rest_readLine_lt (Bool.eq_false_iff.mpr _atEnd)

theorem performEach_lineCommands (text : List Char) {scanner : Scanner source}
    (noLookahead : scanner.lookahead = none) :
    scanner.performEach (lineCommands text scanner.cursor) =
      scanner.withCursor (gatherLines text scanner.cursor).2 := by
  have readsLine : ∀ scanner : Scanner source, scanner.lookahead = none ->
      (scanner.perform .absent .readLine).2 = scanner.withCursor scanner.cursor.readLine.2 := by
    intro scanner noLookahead
    change scanner.readLine.2 = _
    rw [Scanner.readLine, Scanner.rewind_of_lookahead_none noLookahead]
  generalize place : scanner.cursor = cursor
  fun_induction gatherLines text cursor generalizing scanner with
  | case1 text cursor atEnd =>
    rw [lineCommands, dif_pos atEnd, ← place]
    rfl
  | case2 text cursor unread gathered goesOn inductionHypothesis =>
    have read := readsLine scanner noLookahead
    rw [place] at read
    have behind := inductionHypothesis
      (show (scanner.withCursor cursor.readLine.2).lookahead = none from noLookahead) rfl
    rw [lineCommands, dif_neg unread, goesOn, Scanner.performEach, List.foldl_cons, read]
    exact behind
  | case3 text cursor unread gathered goesOn shape ends =>
    have read := readsLine scanner noLookahead
    rw [place] at read
    rw [lineCommands, dif_neg unread, shape, Bool.eq_false_iff.mpr ends, Scanner.performEach,
      List.foldl_cons, read]
    rfl

end Directive

namespace Conditional

/-- The lookahead is put back, and the lines of the directive are read. -/
instance : ActsByCommands Conditional where
  commands _ scanner _ _ :=
    (.absent, .setLine scanner.rewind.cursor.line) ::
      Directive.lineCommands [] scanner.rewind.cursor
  performed conditional scanner directive region := by
    have left : (conditional.handle scanner directive region).2.2 =
        scanner.rewind.withCursor (Directive.gatherLines [] scanner.rewind.cursor).2 := by
      unfold handle Directive.readText
      simp only
      split <;> rfl
    exact left.trans (Directive.performEach_lineCommands [] scanner.lookahead_rewind).symm

end Conditional

/-! ## Scripts -/

namespace Script

/-- The commands of a step that are performed: all of them, unless there is a breach. -/
def performedCommands (last : Token) (scanner : Scanner source) :
    List Command → List (Token × Command)
  | [] => []
  | command :: later =>
    let (result, after) := scanner.perform last command
    (last, command) ::
      match Observation.ofScanner? result after with
      | none => []
      | some _ =>
        performedCommands ((result.toOption.bind Reply.latest).getD last) after later

theorem performEach_performedCommands (last : Token) (scanner : Scanner source)
    (commands : List Command) :
    scanner.performEach (performedCommands last scanner commands) =
      (performAll last scanner commands).2 := by
  induction commands generalizing last scanner with
  | nil => rfl
  | cons command later inductionHypothesis =>
    rcases performed : scanner.perform last command with ⟨result, after⟩
    have first : ∀ commands, scanner.performEach ((last, command) :: commands) =
        after.performEach commands := by
      intro commands
      rw [Scanner.performEach, List.foldl_cons, performed]
      rfl
    simp only [performedCommands, performAll, performed]
    rw [first]
    cases Observation.ofScanner? result after with
    | none => rfl
    | some observation => exact inductionHypothesis _ _

/-- The step that is played for the next directive. -/
def nextStep (script : Script) : Step :=
  script.steps.headD lastStep

instance : ActsByCommands Script where
  commands script scanner _ _ := performedCommands .absent scanner script.nextStep.commands
  performed script scanner directive region := by
    rw [performEach_performedCommands]
    have plays : ∀ (step : Step) (remaining : Script),
        (play step remaining scanner directive region).2.2 =
          (performAll .absent scanner step.commands).2 := by
      intro step remaining
      unfold play
      rcases performAll .absent scanner step.commands with ⟨observations, after⟩
      cases observations with
      | none => rfl
      | some observations => cases step.failure <;> rfl
    change (script.handle scanner directive region).2.2 = _
    unfold handle nextStep
    cases script.steps <;> exact plays _ _

end Script
end HeaderScan
