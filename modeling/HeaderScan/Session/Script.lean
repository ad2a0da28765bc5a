import HeaderScan.Session.Observation

namespace HeaderScan

/-!
A handler that plays back what it is told, one step for each directive, and keeps a record of the
calls made to it.  When the steps are used up, it takes the rest of the line and includes.
-/

namespace Script

/-- What to do with one directive: the commands to perform on the scanner, and then either the
error to fail with or the outcome to give. -/
structure Step where
  commands : List Command
  failure : Option ScanError.Cause
  outcome : Outcome
  deriving DecidableEq, Repr

/-- The outcome of a step. -/
def outcomeOf (includes checksContent clearsComments : Bool) : Outcome :=
  let outcome := if includes then Outcome.including else .excluding checksContent
  if clearsComments then outcome.clearingComments else outcome

/-- One call: the directive, the code in which it stood, and what each command gave. -/
structure Call where
  directive : Token
  region : Region
  steps : List (Observation Reply)

variable {source : List Char}

/-- Performs commands one after the other; nothing is left of them after a breach. -/
def performAll (last : Token) (scanner : Scanner source) :
    List Command → Option (List (Observation Reply)) × Scanner source
  | [] => (some [], scanner)
  | command :: later =>
    let (result, after) := scanner.perform last command
    match Observation.ofScanner? result after with
    | none => (none, after)
    | some observation =>
      let latest := (result.toOption.bind Reply.latest).getD last
      let (observations, final) := performAll latest after later
      (observations.map (observation :: ·), final)

end Script

/-- The steps not yet played, and the calls recorded so far. -/
structure Script where
  steps : List Script.Step
  calls : List Script.Call

namespace Script

def ofSteps (steps : List Step) : Script :=
  ⟨steps, []⟩

variable {source : List Char}

/-- Plays one step. -/
def play (step : Step) (remaining : Script) (scanner : Scanner source) (directive : Token)
    (region : Region) : Except Stop Outcome × Script × Scanner source :=
  match performAll .absent scanner step.commands with
  | (none, after) => (.error .breach, remaining, after)
  | (some observations, after) =>
    let script :=
      { remaining with calls := remaining.calls ++ [⟨directive, region, observations⟩] }
    match step.failure with
    | some cause =>
      (.error (.failure ⟨cause, ⟨directive.span.start, directive.startLine⟩⟩), script, after)
    | none => (.ok step.outcome, script, after)

/-- The step that is played when there is no other. -/
def lastStep : Step :=
  ⟨[.readLine], none, .including⟩

/-- Plays the next step. -/
def handle (script : Script) (scanner : Scanner source) (directive : Token) (region : Region) :
    Except Stop Outcome × Script × Scanner source :=
  match script.steps with
  | [] => play lastStep script scanner directive region
  | step :: later => play step { script with steps := later } scanner directive region

theorem steps_play (step : Step) (remaining : Script) (scanner : Scanner source)
    (directive : Token) (region : Region) :
    (play step remaining scanner directive region).2.1.steps = remaining.steps := by
  unfold play
  split
  · rfl
  · simp only
    split <;> rfl

theorem scanner_play_lastStep (remaining : Script) (scanner : Scanner source)
    (directive : Token) (region : Region) :
    (play lastStep remaining scanner directive region).2.2 = scanner.readLine.2 := by
  have left : (performAll .absent scanner lastStep.commands).2 = scanner.readLine.2 := by
    simp only [performAll, lastStep]
    split <;> rfl
  unfold play
  split
  next performed =>
    rw [performed] at left
    exact left
  next performed =>
    rw [performed] at left
    exact left

/-- Only the steps that are left can make the scanner go back. -/
theorem effort_handle_le (script : Script) (scanner : Scanner source) (directive : Token)
    (region : Region) :
    (script.handle scanner directive region).2.2.effort
        (script.handle scanner directive region).2.1.steps.length ≤
      scanner.effort script.steps.length := by
  unfold handle
  cases shape : script.steps with
  | nil =>
    simp only
    rw [steps_play, scanner_play_lastStep, shape]
    exact scanner.effort_readLine_le 0
  | cons step later =>
    simp only
    rw [steps_play, Effort.le_def]
    simp [Scanner.effort]

instance : DirectiveHandler Script where
  handle := handle
  save script := script
  restore script := script
  rewinds script := script.steps.length
  handle_le := effort_handle_le

end Script
end HeaderScan
