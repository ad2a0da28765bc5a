import HeaderScan.Proofs.Reader.History

namespace HeaderScan

/-!
What is recorded, told by the history of a run.

A recording is kept in a register: a buffer for tokens and a switch beside it.  Beginning a
recording leaves the buffer as it is, and ending it clears the buffer.  Every event of a run changes
the register in its own way (`Register.Step`), so that what is recorded follows from the history
alone.
-/

/-- The token that has been looked at, whether tokens are recorded, and the recorded tokens. -/
structure Register where
  lookedAt : Option Token
  isOn : Bool
  tokens : List Token
  deriving DecidableEq, Repr

namespace Event

/-- The token that an event adds to a recording that is under way.  An end is not recorded. -/
def recorded? : Event → Option Token
  | handsOver token => if token.isEnd then none else some token
  | adds token => some token
  | _ => none

/-- The event says what becomes of a token that is scanned or has been scanned. -/
def concernsScanned : Event → Bool
  | scans _ _ | handsOver _ | putsBack _ => true
  | adds _ | begins | ends => false

/-- A recording is under way: it has begun, and has not ended since. -/
def IsRecording (history : List Event) : Prop :=
  ∃ earlier since, history = earlier ++ .begins :: since ∧ .ends ∉ since

/-- A token has been looked at, and nothing has become of it since. -/
def IsLookedAt (history : List Event) (token : Token) : Prop :=
  ∃ earlier since, history = earlier ++ .scans .lookedAt token :: since ∧
    ∀ event ∈ since, event.concernsScanned = false

theorem IsRecording.cons {history : List Event} (isRecording : IsRecording history)
    (event : Event) : IsRecording (event :: history) := by
  rcases isRecording with ⟨earlier, since, rfl, noEnd⟩
  exact ⟨event :: earlier, since, rfl, noEnd⟩

theorem IsLookedAt.cons {history : List Event} {token : Token}
    (isLookedAt : IsLookedAt history token) (event : Event) :
    IsLookedAt (event :: history) token := by
  rcases isLookedAt with ⟨earlier, since, rfl, nothing⟩
  exact ⟨event :: earlier, since, rfl, nothing⟩

end Event

namespace Register

/-- Nothing has been looked at, and nothing is recorded. -/
def empty : Register :=
  ⟨none, false, []⟩

/-- What one event makes of a register, if it can happen. -/
inductive Step (register : Register) : Event → Register → Prop
  | looks {token : Token} : register.lookedAt = none ->
      Step register (.scans .lookedAt token) { register with lookedAt := some token }
  | passes {event : Event} : register.lookedAt = none -> event.Passes ->
      Step register event register
  | handsOver {token : Token} : register.lookedAt = some token ->
      Step register (.handsOver token)
        { register with
          lookedAt := none
          tokens :=
            if register.isOn then register.tokens ++ (Event.handsOver token).recorded?.toList
            else register.tokens }
  | putsBack {token : Token} : register.lookedAt = some token ->
      Step register (.putsBack token) { register with lookedAt := none }
  | adds {token : Token} : register.isOn = true ->
      Step register (.adds token) { register with tokens := register.tokens ++ [token] }
  | begins : register.isOn = false -> Step register .begins { register with isOn := true }
  | ends : register.isOn = true -> Step register .ends { register with isOn := false, tokens := [] }

/-- What several events make of a register, one after the other. -/
inductive Run : Register → List Event → Register → Prop
  | nil {register : Register} : Run register [] register
  | cons {first next last : Register} {event : Event} {later : List Event} :
      first.Step event next -> Run next later last -> Run first (event :: later) last

variable {first second last : Register} {events later : List Event}

theorem Run.append (early : first.Run events second) (late : second.Run later last) :
    first.Run (events ++ later) last := by
  induction early with
  | nil => exact late
  | cons step _ inductionHypothesis => exact .cons step (inductionHypothesis late)

theorem Run.single {event : Event} (step : first.Step event last) : first.Run [event] last :=
  .cons step .nil

/-- A run can be cut anywhere. -/
theorem Run.split (run : first.Run (events ++ later) last) :
    ∃ second, first.Run events second ∧ second.Run later last := by
  induction events generalizing first with
  | nil => exact ⟨first, .nil, run⟩
  | cons event events inductionHypothesis =>
    cases run with
    | cons step behind =>
      rcases inductionHypothesis behind with ⟨second, early, late⟩
      exact ⟨second, .cons step early, late⟩

/-- What is scanned on the way to a token changes nothing. -/
theorem run_of_passes (lookedAtNone : first.lookedAt = none)
    (passes : ∀ event ∈ events, event.Passes) : first.Run events first := by
  induction events with
  | nil => exact .nil
  | cons event events inductionHypothesis =>
    have others := fun other isLater => passes other (List.mem_cons_of_mem event isLater)
    exact .cons (.passes lookedAtNone (passes event List.mem_cons_self))
      (inductionHypothesis others)

/-! ## What a register holds -/

/-- Nothing is in the buffer while the switch is off. -/
def IsClear (register : Register) : Prop :=
  register.isOn = false -> register.tokens = []

theorem Step.isClear {event : Event} (step : first.Step event last) (isClear : first.IsClear) :
    last.IsClear := by
  cases step with
  | looks | passes | putsBack => exact isClear
  | handsOver =>
    intro isOff
    simp only [show first.isOn = false from isOff, Bool.false_eq_true, if_false]
    exact isClear isOff
  | adds isOn => exact fun isOff => Bool.noConfusion (isOn.symm.trans isOff)
  | begins => exact fun isOff => Bool.noConfusion isOff
  | ends => exact fun _ => rfl

theorem Run.isClear (run : first.Run events last) (isClear : first.IsClear) : last.IsClear := by
  induction run with
  | nil => exact isClear
  | cons step _ inductionHypothesis => exact inductionHypothesis (step.isClear isClear)

theorem Step.recorded {event : Event} (step : first.Step event last) (isOn : first.isOn = true)
    (notEnd : event ≠ .ends) :
    last.isOn = true ∧ last.tokens = first.tokens ++ event.recorded?.toList := by
  cases step with
  | looks | putsBack => exact ⟨isOn, (List.append_nil _).symm⟩
  | begins isOff => cases isOff.symm.trans isOn
  | passes _ passes =>
    rcases passes with ⟨fate, token, rfl, _⟩
    exact ⟨isOn, (List.append_nil _).symm⟩
  | handsOver => exact ⟨isOn, if_pos isOn⟩
  | adds => exact ⟨isOn, rfl⟩
  | ends => exact absurd rfl notEnd

/-- Until a recording ends, what is handed over and what is added is appended. -/
theorem Run.recorded (run : first.Run events last) (isOn : first.isOn = true)
    (noEnd : .ends ∉ events) :
    last.isOn = true ∧ last.tokens = first.tokens ++ events.filterMap Event.recorded? := by
  induction run with
  | nil => exact ⟨isOn, (List.append_nil _).symm⟩
  | @cons first next last event later step _ inductionHypothesis =>
    rw [List.mem_cons, not_or] at noEnd
    have here := step.recorded isOn (Ne.symm noEnd.1)
    have behind := inductionHypothesis here.1 noEnd.2
    refine ⟨behind.1, ?_⟩
    rw [behind.2, here.2, List.append_assoc]
    cases shape : event.recorded? <;> simp [shape]

theorem Step.isOn {event : Event} (step : first.Step event last) (isOn : last.isOn = true) :
    event = .begins ∨ (first.isOn = true ∧ event ≠ .ends) := by
  cases step with
  | looks | handsOver | putsBack | adds => exact Or.inr ⟨isOn, Event.noConfusion⟩
  | passes _ passes =>
    rcases passes with ⟨fate, token, rfl, _⟩
    exact Or.inr ⟨isOn, Event.noConfusion⟩
  | begins => exact Or.inl rfl
  | ends => cases isOn

/-- If the switch is on, it was switched on or has been on from the start. -/
theorem Run.isOn (run : first.Run events last) (isOn : last.isOn = true) :
    Event.IsRecording events ∨ (first.isOn = true ∧ .ends ∉ events) := by
  induction run with
  | nil => exact Or.inr ⟨isOn, List.not_mem_nil⟩
  | @cons first next last event later step _ inductionHypothesis =>
    rcases inductionHypothesis isOn with isRecording | ⟨nextIsOn, noEnd⟩
    · exact Or.inl (isRecording.cons event)
    · rcases step.isOn nextIsOn with rfl | ⟨firstIsOn, notEnd⟩
      · exact Or.inl ⟨[], later, rfl, noEnd⟩
      · exact Or.inr ⟨firstIsOn, List.not_mem_cons_of_ne_of_not_mem notEnd.symm noEnd⟩

theorem Step.lookedAt {event : Event} {token : Token} (step : first.Step event last)
    (lookedAt : last.lookedAt = some token) :
    event = .scans .lookedAt token ∨
      (first.lookedAt = some token ∧ event.concernsScanned = false) := by
  cases step with
  | looks => exact Or.inl (congrArg _ (Option.some.inj lookedAt))
  | passes none =>
    rw [none] at lookedAt
    cases lookedAt
  | handsOver | putsBack => cases lookedAt
  | adds | begins | ends => exact Or.inr ⟨lookedAt, rfl⟩

/-- A token that a register holds has been looked at, or was there from the start. -/
theorem Run.lookedAt {token : Token} (run : first.Run events last)
    (lookedAt : last.lookedAt = some token) :
    Event.IsLookedAt events token ∨
      (first.lookedAt = some token ∧ ∀ event ∈ events, event.concernsScanned = false) := by
  induction run with
  | nil => exact Or.inr ⟨lookedAt, List.forall_mem_nil _⟩
  | @cons first next last event later step _ inductionHypothesis =>
    rcases inductionHypothesis lookedAt with isLookedAt | ⟨isNext, nothing⟩
    · exact Or.inl (isLookedAt.cons event)
    · rcases step.lookedAt isNext with rfl | ⟨isFirst, notHere⟩
      · exact Or.inl ⟨[], later, rfl, nothing⟩
      · exact Or.inr ⟨isFirst, List.forall_mem_cons.mpr ⟨notHere, nothing⟩⟩

/-- Behind the beginning of a recording that has not ended, what has been recorded since is in the
buffer. -/
theorem Run.of_begins (run : empty.Run (events ++ .begins :: later) last)
    (noEnd : .ends ∉ later) :
    last.isOn = true ∧ last.tokens = later.filterMap Event.recorded? := by
  rcases run.split with ⟨register, early, late⟩
  have isClear := early.isClear fun _ => rfl
  cases late with
  | cons step behind =>
    cases step with
    | begins isOff =>
      have recorded := behind.recorded rfl noEnd
      rw [isClear isOff] at recorded
      exact recorded
    | passes _ passes =>
      rcases passes with ⟨fate, token, impossible, _⟩
      cases impossible

/-- Only a token that a register holds is handed over. -/
theorem Step.of_handsOver {token : Token} (step : first.Step (.handsOver token) last) :
    first.lookedAt = some token := by
  cases step with
  | handsOver lookedAt => exact lookedAt
  | passes _ passes =>
    rcases passes with ⟨fate, other, impossible, _⟩
    cases impossible

end Register

/-! ## Commands that take no token -/

namespace Scanner

variable {source : List Char} {scanner before after : Scanner source}

/-- The register of a scanner. -/
def register (scanner : Scanner source) : Register where
  lookedAt := scanner.lookahead.map Lookahead.token
  isOn := scanner.recording.isSome
  tokens := scanner.recording.getD []

theorem register_of_same (sameLookahead : after.lookahead = before.lookahead)
    (sameRecording : after.recording = before.recording) : after.register = before.register := by
  rw [register, register, sameLookahead, sameRecording]

/-- What a command does that has nothing to do with a recording: the lookahead stays, or it is put
back. -/
structure KeepsRecording (before after : Scanner source) : Prop where
  recording : after.recording = before.recording
  lookahead : after.lookahead = before.lookahead ∨ after.lookahead = none

theorem KeepsRecording.refl (scanner : Scanner source) : scanner.KeepsRecording scanner :=
  ⟨rfl, Or.inl rfl⟩

theorem eventsBetween_of_same (sameLookahead : after.lookahead = before.lookahead)
    (event : Option Event) : before.eventsBetween after event = event.toList := by
  unfold eventsBetween
  rw [sameLookahead]
  cases before.lookahead <;> rfl

theorem KeepsRecording.run (keeps : before.KeepsRecording after) :
    before.register.Run (before.eventsBetween after none) after.register := by
  rcases keeps.lookahead with same | nothing
  · rw [eventsBetween_of_same same, register_of_same same keeps.recording]
    exact .nil
  · unfold eventsBetween
    rw [nothing]
    cases cached : before.lookahead with
    | none =>
      rw [register_of_same (nothing.trans cached.symm) keeps.recording]
      exact .nil
    | some lookahead =>
      have isBehind : after.register = { before.register with lookedAt := none } := by
        rw [register, nothing, keeps.recording]
        rfl
      have lookedAt : before.register.lookedAt = some lookahead.token := by
        rw [register, cached]
        rfl
      rw [isBehind]
      exact .single (.putsBack lookedAt)

theorem recording_rewind (scanner : Scanner source) :
    scanner.rewind.recording = scanner.recording := by
  unfold rewind
  split <;> rfl

/-- Apart from taking tokens and from recording, a command at most puts the lookahead back. -/
theorem keepsRecording_perform (scanner : Scanner source) (about : Token) {command : Command}
    (takesNone : command.takesTokens = false) (noRecording : command.recordingEvent about = none) :
    scanner.KeepsRecording (scanner.perform about command).2 := by
  cases command with
  | next | peek | drain | consume => cases takesNone
  | enableRecording | disableRecording | record => cases noRecording
  | setLine | readLine => exact ⟨scanner.recording_rewind, Or.inr scanner.lookahead_rewind⟩
  | readRawText terminator options =>
    have keeps := scanner.keeps_readRawText terminator options
    exact ⟨keeps.recording.trans scanner.recording_rewind,
      Or.inr (keeps.lookahead.trans scanner.lookahead_rewind)⟩
  | passTrivia | clearComments | commitComments | disableComments => exact ⟨rfl, Or.inl rfl⟩
  | view | sourceSize | isFirst | isFirstAt | recorded => exact .refl scanner
  | enableComments =>
    rw [perform]
    cases enables : scanner.enableComments with
    | error => exact .refl scanner
    | ok after =>
      rw [enableComments_of_ok enables]
      exact ⟨rfl, Or.inl rfl⟩
  | save =>
    rw [perform, save]
    cases scanner.saved with
    | some => exact .refl scanner
    | none => exact ⟨rfl, Or.inl rfl⟩
  | restore =>
    rw [perform, restore]
    cases scanner.saved with
    | none => exact .refl scanner
    | some => exact ⟨rfl, Or.inr rfl⟩
  | abandon =>
    rw [perform, abandon]
    cases scanner.saved with
    | none => exact .refl scanner
    | some => exact ⟨scanner.recording_rewind, Or.inr scanner.lookahead_rewind⟩

/-- A command that is refused changes nothing. -/
theorem run_refused (scanner : Scanner source) :
    scanner.register.Run (scanner.eventsBetween scanner none) scanner.register :=
  (KeepsRecording.refl scanner).run

theorem run_recording {event : Event} {register : Register}
    (sameLookahead : after.lookahead = before.lookahead) (isBehind : register = after.register)
    (step : before.register.Step event register) :
    before.register.Run (before.eventsBetween after (some event)) after.register := by
  rw [eventsBetween_of_same sameLookahead, ← isBehind]
  exact .single step

/-- A recording changes as its commands say, unless they are refused. -/
theorem run_perform (scanner : Scanner source) (about : Token) {command : Command}
    (takesNone : command.takesTokens = false) :
    let performed := scanner.perform about command
    scanner.register.Run
      (scanner.eventsBetween performed.2
        (if performed.1.isOk then command.recordingEvent about else none))
      performed.2.register := by
  cases event : command.recordingEvent about with
  | none =>
    simp only [ite_self]
    exact (scanner.keepsRecording_perform about takesNone event).run
  | some =>
    cases command with
    | enableRecording =>
      rw [perform, enableRecording, ← event]
      cases shape : scanner.recording with
      | some => exact scanner.run_refused
      | none =>
        refine run_recording rfl ?_ (.begins (congrArg Option.isSome shape))
        simp only [register, shape]
        rfl
    | disableRecording =>
      rw [perform, disableRecording, ← event]
      cases shape : scanner.recording with
      | none => exact scanner.run_refused
      | some => exact run_recording rfl rfl (.ends (congrArg Option.isSome shape))
    | record =>
      rw [perform, record, ← event]
      cases shape : scanner.recording with
      | none => exact scanner.run_refused
      | some =>
        refine run_recording rfl ?_ (.adds (congrArg Option.isSome shape))
        simp only [register, shape]
        rfl
    | _ => cases event

/-- The lookahead is handed over when it is consumed. -/
theorem step_consume {lookahead : Lookahead source}
    (cached : scanner.lookahead = some lookahead) :
    scanner.register.Step (.handsOver lookahead.token) scanner.consume.register := by
  have lookedAt : scanner.register.lookedAt = some lookahead.token := by
    rw [register, cached]
    rfl
  have isBehind : scanner.consume.register =
      { scanner.register with
        lookedAt := none
        tokens :=
          if scanner.register.isOn then
            scanner.register.tokens ++ (Event.handsOver lookahead.token).recorded?.toList
          else scanner.register.tokens } := by
    unfold register consume
    cases recording : scanner.recording with
    | none => rfl
    | some tokens =>
      simp only [cached, Event.recorded?]
      cases lookahead.token.isEnd <;> simp
  rw [isBehind]
  exact .handsOver lookedAt

theorem run_consume (scanner : Scanner source) :
    scanner.register.Run (scanner.lookahead.toList.map (.handsOver ·.token))
      scanner.consume.register := by
  cases cached : scanner.lookahead with
  | some lookahead => exact .single (step_consume cached)
  | none =>
    have isBehind : scanner.consume.register = scanner.register := by
      refine register_of_same cached.symm ?_
      unfold consume
      rw [cached]
      cases scanner.recording <;> rfl
    rw [isBehind]
    exact .nil

end Scanner

/-! ## Runs -/

namespace Reader

variable {source : List Char}

/-- Looking at the next token records nothing. -/
theorem run_peekEvents (reader : Reader source Conditional) :
    reader.scanner.register.Run reader.peekEvents reader.peek.2.scanner.register := by
  cases cached : reader.scanner.lookahead with
  | some lookahead =>
    simp only [peekEvents, peek, cached]
    exact .nil
  | none =>
    have keeps := (reader.forward_readToken cached false).forward.keeps
    have nothing : reader.scanner.register.lookedAt = none := congrArg (Option.map _) cached
    have passes := Register.run_of_passes nothing (reader.passes_passingEvents false)
    rcases shape : reader.readToken false with ⟨result, after⟩
    rw [shape] at keeps
    have same := Scanner.register_of_same keeps.lookahead keeps.recording
    simp only [peekEvents, peek, cached, shape]
    cases result with
    | error stop =>
      rw [List.append_nil, same]
      exact passes
    | ok lookahead =>
      have isBehind : (after.withScanner
          { after.scanner with lookahead := some lookahead }).scanner.register =
          { reader.scanner.register with lookedAt := some lookahead.token } := by
        rw [← same]
        rfl
      rw [isBehind]
      exact passes.append (.single (.looks nothing))

theorem run_nextEvents (reader : Reader source Conditional) :
    reader.scanner.register.Run reader.nextEvents reader.next.2.scanner.register := by
  have peeks := reader.run_peekEvents
  unfold nextEvents next
  rcases shape : reader.peek with ⟨result, after⟩
  rw [shape] at peeks
  cases result with
  | error stop => exact peeks.append .nil
  | ok token =>
    rcases lookahead_peek (congrArg Prod.fst shape) with ⟨before, cached⟩
    rw [shape] at cached
    exact peeks.append (.single (Scanner.step_consume cached))

theorem run_drainEvents (reader : Reader source Conditional) :
    reader.scanner.register.Run reader.drainEvents reader.drain.2.scanner.register := by
  fun_induction drainEvents reader with
  | case1 reader stop failed =>
    rw [drain_of_error failed]
    exact reader.run_nextEvents
  | case2 reader token taken atEnd =>
    rw [drain_of_endOfFile taken atEnd]
    exact reader.run_nextEvents
  | case3 reader token taken notEnd inductionHypothesis =>
    rw [drain_of_token taken notEnd]
    exact reader.run_nextEvents.append inductionHypothesis

/-- The events of a request say what it makes of the register. -/
theorem run_requestEvents (reader : Reader source Conditional) (request : Request Conditional) :
    reader.scanner.register.Run (reader.requestEvents request)
      (reader.answer request).reader.scanner.register := by
  cases request with
  | attach | detach => exact .nil
  | command about command =>
    by_cases takes : command.takesTokens = true
    · cases command with
      | next => exact reader.run_nextEvents
      | peek => exact reader.run_peekEvents
      | drain => exact reader.run_drainEvents
      | consume => exact reader.scanner.run_consume
      | _ => cases takes
    · rw [Bool.not_eq_true] at takes
      have noTokens := (Bool.or_eq_false_iff.mp takes).1
      have performs := reader.scanner.run_perform about takes
      simp only [← reader.scanner_perform about noTokens] at performs
      rw [reader.requestEvents_of_not_takesTokens about takes]
      cases command with
      | next | peek | drain => cases noTokens
      | save | restore =>
        simp only [Command.recordingEvent, ite_self] at performs ⊢
        exact performs
      | _ => exact performs

/-- The history of a run says what it makes of the register. -/
theorem run_history (reader : Reader source Conditional) (requests : List (Request Conditional)) :
    reader.scanner.register.Run (reader.history requests)
      (reader.after requests).scanner.register := by
  induction requests generalizing reader with
  | nil => exact .nil
  | cons request later inductionHypothesis =>
    exact (reader.run_requestEvents request).append (inductionHypothesis _)

end Reader

/-! ## What is recorded -/

variable {source : List Char} {history : List Event} {scanner : Scanner source}

/-- What a scanner has recorded is what its history says: while a recording is under way, what has
been handed over and what has been added since it began, and otherwise nothing.  Only a token that
has been looked at is handed over, before anything else becomes of it or of another one. -/
structure Event.IsRecordedBy (history : List Event) (scanner : Scanner source) : Prop where
  fails : (∃ error, scanner.recorded = .error error) ↔ ¬ IsRecording history
  error : ∀ error, scanner.recorded = .error error ->
    error = scanner.misuse .recordingNotEnabled
  recorded : ∀ earlier since, history = earlier ++ .begins :: since -> .ends ∉ since ->
    scanner.recorded = .ok (since.filterMap Event.recorded?)
  handedOver : ∀ earlier token later, history = earlier ++ .handsOver token :: later ->
    IsLookedAt earlier token
  buffer : ∃ register, Register.empty.Run history register ∧
    scanner.recording = (if register.isOn then some register.tokens else none) ∧
    (register.isOn = false -> register.tokens = [])

theorem Scanner.recorded_of_isOn (isOn : scanner.register.isOn = true) :
    scanner.recorded = .ok scanner.register.tokens := by
  unfold register at isOn ⊢
  unfold recorded
  cases shape : scanner.recording with
  | none =>
    rw [shape] at isOn
    cases isOn
  | some tokens => rfl

theorem Scanner.recorded_of_isOff (isOff : scanner.register.isOn = false) :
    scanner.recorded = .error (scanner.misuse .recordingNotEnabled) := by
  have noRecording : scanner.recording = none :=
    Option.isNone_iff_eq_none.mp (Option.isSome_eq_false_iff.mp isOff)
  rw [recorded, noRecording]

/-- What is recorded follows from a history that leads to it. -/
theorem Register.Run.isRecordedBy (run : Register.empty.Run history scanner.register) :
    Event.IsRecordedBy history scanner where
  fails := by
    constructor
    · rintro ⟨error, failed⟩ ⟨earlier, since, rfl, noEnd⟩
      rw [Scanner.recorded_of_isOn (run.of_begins noEnd).1] at failed
      cases failed
    · intro notRecording
      have isOff : scanner.register.isOn = false := by
        rw [← Bool.not_eq_true]
        intro isOn
        rcases run.isOn isOn with isRecording | ⟨emptyIsOn, _⟩
        · exact notRecording isRecording
        · cases emptyIsOn
      exact ⟨_, Scanner.recorded_of_isOff isOff⟩
  error error failed := by
    cases isOn : scanner.register.isOn with
    | false =>
      rw [Scanner.recorded_of_isOff isOn] at failed
      exact (Except.error.inj failed).symm
    | true =>
      rw [Scanner.recorded_of_isOn isOn] at failed
      cases failed
  recorded earlier since shape noEnd := by
    subst shape
    have behind := run.of_begins noEnd
    rw [Scanner.recorded_of_isOn behind.1, behind.2]
  handedOver earlier token later shape := by
    subst shape
    rcases run.split with ⟨register, early, late⟩
    cases late with
    | cons step =>
      rcases early.lookedAt step.of_handsOver with isLookedAt | ⟨impossible, _⟩
      · exact isLookedAt
      · cases impossible
  buffer := by
    refine ⟨scanner.register, run, ?_, run.isClear fun _ => rfl⟩
    cases recording : scanner.recording <;> simp [Scanner.register, recording]

namespace Reader

/-- Of the tokens that are scanned in and around excluded code, one is recorded. -/
example :
    let start := ofSource "#if 0\nx\n#endif\ny".toList (some (Conditional.ofSymbols .initial))
    let history := start.history
      [.command .absent .enableRecording, .command .absent .peek, .command .absent .next]
    (history.filterMap Event.scanned?).map Token.text = ["#", "x", "#", "y"] ∧
      (history.filterMap Event.recorded?).map Token.text = ["y"] := by
  decide +kernel

end Reader
end HeaderScan
