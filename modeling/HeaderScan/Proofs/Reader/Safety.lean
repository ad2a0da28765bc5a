import HeaderScan.Proofs.Cursor.Moves
import HeaderScan.Proofs.Reader.Course
import HeaderScan.Proofs.Reader.Requests
import HeaderScan.Session.Observation

namespace HeaderScan

/-!
A reader is never brought to a breach by its own working.

Whatever is asked of it, as long as the caller keeps the two rules that are its own affair, every
request is answered, every place that the reader remembers can be found again, and every text that
it gives is a piece of the source.  The one thing to beware of besides is the count of lines: the
caller may set a line from which the line feeds of the source cannot be counted, and without that a
source can have too many of them.
-/

variable {source : List Char}

/-! ## Places -/

namespace Cursor

/-- A cursor can be found again by its offset and line, the bytes at which it looks ahead have
offsets that fit, and so have the lines of all that lies ahead. -/
structure IsSound (cursor : Cursor source) : Prop where
  found : at? source cursor.offset cursor.line = some cursor
  lines : cursor.HasRoom
  next : cursor.offset + 1 < countLimit
  nextButOne : cursor.rest ≠ [] -> cursor.offset + 2 < countLimit

theorem isSound (small : Text.byteLength source + 1 < countLimit) {cursor : Cursor source}
    (hasRoom : cursor.HasRoom) : cursor.IsSound where
  found := cursor.at?_offset
  lines := hasRoom
  next := Nat.lt_of_le_of_lt (Nat.add_le_add_right cursor.offset_le 1) small
  nextButOne unread := by
    have within := offset_lt_of_rest_ne_nil unread
    omega

end Cursor

/-! ## The state of a scanner -/

/-- All comments are pieces of the source, and the mark behind those that are committed lies within
their list. -/
structure Comments.AreSound (source : List Char) (comments : Comments) : Prop where
  pieces : comments.AreFrom source
  mark : comments.committed.length ≤ comments.toList.length

/-- Every place that a scanner remembers can be found again: its own, that in front of the
lookahead by what the token says, and the one to go back to. -/
structure Scanner.IsSound (scanner : Scanner source) : Prop where
  cursor : scanner.cursor.IsSound
  lookahead : ∀ lookahead, scanner.lookahead = some lookahead ->
    lookahead.before.IsSound ∧
      Cursor.at? source lookahead.token.unget.offset lookahead.token.unget.line =
        some lookahead.before ∧
      Text.slice? source lookahead.token.span.start lookahead.token.span.stop =
        some lookahead.token.text.toList
  comments : scanner.comments.AreSound source
  saved : ∀ snapshot, scanner.saved = some snapshot ->
    snapshot.cursor.IsSound ∧ snapshot.comments.AreSound source

theorem Scanner.Stands.isSound {own : Token → Prop} {scanner : Scanner source}
    (stands : scanner.Stands Cursor.HasRoom own)
    (small : Text.byteLength source + 1 < countLimit) : scanner.IsSound where
  cursor := Cursor.isSound small stands.cursor
  lookahead lookahead cached := by
    rcases stands.lookahead lookahead cached with ⟨hasRoom, read⟩
    have unget := (Cursor.covers_readToken read).2
    refine ⟨Cursor.isSound small hasRoom, ?_, (Cursor.liesBehind_readToken read).slice⟩
    rw [unget]
    exact lookahead.before.at?_offset
  comments := ⟨stands.comments, scanner.comments.length_committed_le⟩
  saved snapshot isSaved := by
    rcases stands.saved snapshot isSaved with ⟨hasRoom, pieces⟩
    exact ⟨Cursor.isSound small hasRoom, pieces, snapshot.comments.length_committed_le⟩

/-! ## Counting regions -/

namespace Conditional

/-- The number of regions that a directive opens. -/
def Keyword.opens : Keyword → Nat
  | .ifCondition | .ifSymbol _ => 1
  | _ => 0

/-- The number of regions that a directive closes. -/
def Keyword.closes : Keyword → Nat
  | .endIf => 1
  | _ => 0

namespace State

/-- The number of open regions, those counted in excluded code among them. -/
def height (state : State) : Nat :=
  state.frames.length + state.excludedDepth

/-- What a directive does about the open regions.  One that it closes is taken off the count or off
the frames, whichever has it; a count that stopped at zero instead would leave the height. -/
structure Counts (state : State) (keyword : Keyword) (next : State) : Prop where
  height : next.height + keyword.closes = state.height + keyword.opens
  excludedDepth : next.excludedDepth = state.excludedDepth + 1 ∨
    next.excludedDepth = state.excludedDepth ∨ next.excludedDepth + 1 = state.excludedDepth

variable {state next : State} {keyword : Keyword} {argument : List Char} {outcome : Outcome}

theorem next_of_applied {result : Outcome} {after : State}
    (applied : some (result, after) = some (outcome, next)) : after = next :=
  (Prod.mk.inj (Option.some.inj applied)).2

/-- A directive that replaces at most the innermost frame and the symbols counts nothing. -/
theorem counts_of_same (opens : keyword.opens = 0) (closes : keyword.closes = 0)
    (frames : next.frames.length = state.frames.length)
    (depth : next.excludedDepth = state.excludedDepth) : state.Counts keyword next := by
  refine ⟨?_, .inr (.inl depth)⟩
  unfold height
  omega

theorem frames_writeSymbol (state : State) (isDefined : Bool) (argument : List Char) :
    (state.writeSymbol isDefined argument).frames = state.frames ∧
      (state.writeSymbol isDefined argument).excludedDepth = state.excludedDepth := by
  unfold writeSymbol
  split <;> exact ⟨rfl, rfl⟩

/-- In included code regions are opened and closed on the frames. -/
theorem counts_inIncluded (applied : state.inIncluded keyword argument = some (outcome, next)) :
    state.Counts keyword next := by
  rcases state with ⟨frames, depth, symbols⟩
  cases keyword with
  | ifCondition | ifSymbol =>
    rw [← next_of_applied applied]
    refine ⟨?_, .inr (.inl rfl)⟩
    simp only [height, Keyword.opens, Keyword.closes, List.length_cons]
    omega
  | elseIf | otherwise =>
    cases frames with
    | nil => cases applied
    | cons frame outer =>
      rw [← next_of_applied applied]
      exact counts_of_same rfl rfl rfl rfl
  | endIf =>
    cases frames with
    | nil => cases applied
    | cons frame outer =>
      rw [← next_of_applied applied]
      refine ⟨?_, .inr (.inl rfl)⟩
      simp only [height, Keyword.opens, Keyword.closes, List.length_cons]
      omega
  | write isDefined =>
    rw [← next_of_applied applied]
    have same := frames_writeSymbol ⟨frames, depth, symbols⟩ isDefined argument
    exact counts_of_same rfl rfl (congrArg List.length same.1) same.2
  | other =>
    rw [← next_of_applied applied]
    exact counts_of_same rfl rfl rfl rfl

/-- In excluded code regions are opened on the count, and closed there as long as there is one. -/
theorem counts_inExcluded (applied : state.inExcluded keyword argument = some (outcome, next)) :
    state.Counts keyword next := by
  rcases state with ⟨frames, depth, symbols⟩
  cases keyword with
  | ifCondition | ifSymbol =>
    rw [← next_of_applied applied]
    exact ⟨rfl, .inl rfl⟩
  | endIf =>
    cases depth with
    | succ deeper =>
      rw [← next_of_applied applied]
      exact ⟨rfl, .inr (.inr rfl)⟩
    | zero =>
      cases frames with
      | nil => cases applied
      | cons frame outer =>
        rw [← next_of_applied applied]
        exact ⟨rfl, .inr (.inl rfl)⟩
  | elseIf | otherwise =>
    cases depth with
    | succ deeper =>
      rw [← next_of_applied applied]
      exact counts_of_same rfl rfl rfl rfl
    | zero =>
      cases frames with
      | nil => cases applied
      | cons frame outer =>
        simp only [inExcluded] at applied
        split at applied
        all_goals
          rw [← next_of_applied applied]
          exact counts_of_same rfl rfl rfl rfl
  | write | other =>
    rw [← next_of_applied applied]
    exact counts_of_same rfl rfl rfl rfl

theorem counts_apply {directive : Directive} {region : Region}
    (applied : state.apply directive region = some (outcome, next)) :
    state.Counts (.ofName directive.name) next := by
  cases region with
  | included => exact counts_inIncluded applied
  | excluded => exact counts_inExcluded applied

end State
end Conditional

/-! ## One command -/

/-- What is counted behind a command is counted from it on. -/
theorem Command.count_disabledAfter {command : Command} {later : List Command}
    {disabled last : Nat} (enables : command = .enableComments -> 0 < disabled)
    (counted : last + later.count .enableComments =
      command.disabledAfter disabled + later.count .disableComments) :
    last + (command :: later).count .enableComments =
      disabled + (command :: later).count .disableComments := by
  cases command <;> simp [disabledAfter] at counted enables ⊢ <;> omega

/-- A command is answered without a breach, and disables or enables comments as it says. -/
structure Command.Completes (command : Command) (before : Reader source Conditional)
    (performed : Except Stop Reply × Reader source Conditional) : Prop where
  answers : performed.1 ≠ .error .breach
  disabled : performed.2.scanner.disabled = command.disabledAfter before.scanner.disabled

namespace Reader

variable {property : Cursor source → Prop} {own : Token → Prop}
  {reader : Reader source Conditional} {command : Command}

theorem completes_ok {scanner : Scanner source}
    (disabled : scanner.disabled = command.disabledAfter reader.scanner.disabled)
    (reply : Reply) : command.Completes reader (.ok reply, reader.withScanner scanner) :=
  ⟨nofun, disabled⟩

theorem completes_result {α : Type} {scanner : Scanner source}
    (disabled : scanner.disabled = command.disabledAfter reader.scanner.disabled)
    (result : Except ScanError α) (reply : α → Reply) :
    command.Completes reader
      ((result.mapError .failure).map reply, reader.withScanner scanner) := by
  cases result <;> exact ⟨nofun, disabled⟩

/-- A command that does nothing when it is refused, and else does not touch the count. -/
theorem completes_attempt {result : Except ScanError (Scanner source)}
    (stays : command.disabledAfter reader.scanner.disabled = reader.scanner.disabled)
    (disabled : ∀ after, result = .ok after -> after.disabled = reader.scanner.disabled) :
    command.Completes reader
      ((reader.scanner.attempt (result.mapError .failure)).1,
        reader.withScanner (reader.scanner.attempt (result.mapError .failure)).2) := by
  cases result with
  | error error => exact ⟨nofun, stays.symm⟩
  | ok after => exact ⟨nofun, (disabled after rfl).trans stays.symm⟩

/-- The same of a command that concerns the handler as well. -/
theorem completes_attempt_handler {result : Except ScanError (Scanner source)}
    (stays : command.disabledAfter reader.scanner.disabled = reader.scanner.disabled)
    (disabled : ∀ after, result = .ok after -> after.disabled = reader.scanner.disabled)
    (handler : Option Conditional) :
    command.Completes reader
      (reader.attempt (result.map fun scanner =>
        { reader with scanner := scanner, handler := handler })) := by
  cases result with
  | error error => exact ⟨nofun, stays.symm⟩
  | ok after => exact ⟨nofun, (disabled after rfl).trans stays.symm⟩

theorem completes_recording {result : Except ScanError (Scanner source)}
    (stays : command.disabledAfter reader.scanner.disabled = reader.scanner.disabled)
    (only : ∀ after, result = .ok after ->
      ∃ recording, after = { reader.scanner with recording := recording }) :
    command.Completes reader
      ((reader.scanner.attempt (result.mapError .failure)).1,
        reader.withScanner (reader.scanner.attempt (result.mapError .failure)).2) := by
  refine completes_attempt stays ?_
  intro after done
  rcases only after done with ⟨recording, rfl⟩
  rfl

theorem completes_looksAt {result : Except Stop Token × Reader source Conditional}
    (looks : LooksAt property own result)
    (disabled : result.2.scanner.disabled = command.disabledAfter reader.scanner.disabled) :
    command.Completes reader (result.1.map .token, result.2) := by
  refine ⟨?_, disabled⟩
  cases shape : result.1 with
  | error stop =>
    rcases looks.stop stop shape with ⟨error, rfl, _⟩
    nofun
  | ok token => nofun

theorem completes_drainsAt {result : Drained × Reader source Conditional}
    (drains : DrainsAt property own result)
    (disabled : result.2.scanner.disabled = command.disabledAfter reader.scanner.disabled) :
    command.Completes reader (Reply.ofDrained result.1, result.2) := by
  refine ⟨?_, disabled⟩
  unfold Reply.ofDrained
  cases stopped : result.1.stop with
  | none => nofun
  | some stop =>
    rcases drains.stop stop stopped with ⟨error, rfl, _⟩
    nofun

/-- Every command completes but a view outside the source and an enabling too many. -/
theorem Stands.completes (stands : reader.Stands property own)
    (kept : Cursor.KeptForwards property) (about : Token)
    (noView : ∀ offset size, command ≠ .view offset size)
    (enables : command = .enableComments -> 0 < reader.scanner.disabled) :
    command.Completes reader (reader.perform about command) := by
  cases command with
  | next => exact completes_looksAt (stands.looksAt_next kept) reader.keeps_next.disabled
  | peek => exact completes_looksAt (stands.looksAt_peek kept) reader.keeps_peek.disabled
  | drain => exact completes_drainsAt (stands.drainsAt kept) reader.keeps_drain.disabled
  | view offset size => exact absurd rfl (noView offset size)
  | setLine | readLine => exact completes_ok reader.scanner.disabled_rewind _
  | consume | sourceSize | isFirst | isFirstAt | clearComments | disableComments
  | commitComments => exact completes_ok rfl _
  | passTrivia => exact completes_result rfl _ _
  | readRawText terminator options =>
    have keeps := reader.scanner.keeps_readRawText terminator options
    refine completes_result ?_ _ _
    exact keeps.disabled.trans reader.scanner.disabled_rewind
  | recorded => exact completes_result rfl _ _
  | enableComments =>
    have enabled : reader.scanner.enableComments =
        .ok { reader.scanner with disabled := reader.scanner.disabled - 1 } :=
      if_neg (Nat.pos_iff_ne_zero.mp (enables rfl))
    have performed : reader.perform about .enableComments =
        (.ok .done,
          reader.withScanner { reader.scanner with disabled := reader.scanner.disabled - 1 }) := by
      simp only [perform, Scanner.perform, enabled]
      rfl
    rw [performed]
    exact completes_ok rfl _
  | save =>
    exact completes_attempt_handler rfl (fun _ saved => (Scanner.save_of_ok saved).2.2) _
  | restore => exact completes_attempt_handler rfl (fun _ => Scanner.disabled_restore) _
  | abandon =>
    refine completes_attempt rfl ?_
    intro after abandoned
    rw [Scanner.abandon_of_ok abandoned]
    exact reader.scanner.disabled_rewind
  | enableRecording => exact completes_recording rfl fun _ => Scanner.enableRecording_of_ok
  | disableRecording => exact completes_recording rfl fun _ => Scanner.disableRecording_of_ok
  | record => exact completes_recording rfl fun _ => Scanner.record_of_ok

end Reader

/-! ## Runs -/

/-- The command of a request, if it is one. -/
def Request.command? {σ : Type} : Request σ → Option Command
  | .command _ asked => some asked
  | _ => none

/-- An answer is safe: it can be observed, what the reader remembers can be found again, and all
tokens and texts are pieces of the source. -/
structure Answered.IsSafe (answered : Answered source Conditional) : Prop where
  observed : (Observation.ofScanner? answered.reply answered.reader.scanner).isSome = true
  scanner : answered.reader.scanner.IsSound
  tokens : ∀ token ∈ answered.tokens,
    Text.slice? source token.span.start token.span.stop = some token.text.toList
  rawText : ∀ text, answered.reply = .ok (.rawText text) ->
    ∃ start stop, Text.slice? source start stop = some text.toList

theorem Answered.Stands.isSafe {own : Token → Prop} {answered : Answered source Conditional}
    (stands : answered.Stands Cursor.HasRoom own) (answers : answered.reply ≠ .error .breach)
    (small : Text.byteLength source + 1 < countLimit) : answered.IsSafe := by
  have fits := stands.reader.scanner.cursor.line_lt
  have replied := stands.reply.reply
  refine ⟨Observation.isSome_ofScanner?_iff.mpr ⟨fits, answers⟩,
    stands.reader.scanner.isSound small, ?_, ?_⟩
  · intro token member
    unfold Answered.tokens at member
    split at member
    next other isToken =>
      rcases replied _ isToken with ⟨_, _, liesBehind⟩
      rw [List.mem_singleton.mp member]
      exact liesBehind.slice
    next drained failure isDrained =>
      rcases (replied _ isDrained).1 token member with ⟨_, _, liesBehind⟩
      exact liesBehind.slice
    · cases member
  · intro text isText
    rcases replied _ isText with ⟨place, _, isFront⟩
    have isSlice := place.slice?_advance text.toList.length
    rw [← List.prefix_iff_eq_take.mp isFront] at isSlice
    exact ⟨_, _, isSlice⟩

namespace Reader

variable {property : Cursor source → Prop} {own : Token → Prop}
  {reader : Reader source Conditional} {requests : List (Request Conditional)}

/-- No request of a run that keeps the rules meets a breach, and in the end comments are disabled as
often as they have been disabled and not enabled again. -/
theorem Stands.completes_run (stands : reader.Stands property own)
    (kept : Cursor.KeptForwards property)
    (respects : ∀ request ∈ requests, request.Respects property own)
    (noView : ∀ about offset size, .command about (.view offset size) ∉ requests)
    (balanced : Command.Balanced reader.scanner.disabled (requests.filterMap Request.command?)) :
    (∀ answered ∈ reader.run requests, answered.reply ≠ .error .breach) ∧
      (reader.after requests).scanner.disabled +
          (requests.filterMap Request.command?).count .enableComments =
        reader.scanner.disabled +
          (requests.filterMap Request.command?).count .disableComments := by
  induction requests generalizing reader with
  | nil => exact ⟨(fun _ member => nomatch member), rfl⟩
  | cons request later inductionHypothesis =>
    have stillStands := (stands.stands_answer kept (respects request List.mem_cons_self)).reader
    have others : ∀ other ∈ later, other.Respects property own := fun other isLater =>
      respects other (List.mem_cons_of_mem request isLater)
    have noLaterView : ∀ about offset size, .command about (.view offset size) ∉ later :=
      fun about offset size isLater =>
        noView about offset size (List.mem_cons_of_mem request isLater)
    cases request with
    | attach | detach =>
      have goesOn := inductionHypothesis stillStands others noLaterView balanced
      refine ⟨?_, goesOn.2⟩
      intro answered member
      rcases List.mem_cons.mp member with isFirst | isLater
      · rw [isFirst]
        nofun
      · exact goesOn.1 answered isLater
    | command about command =>
      have enables := Command.Balanced.head balanced
      have completes := stands.completes kept about
        (fun offset size isView => noView about offset size (isView ▸ List.mem_cons_self)) enables
      have stillBalanced := Command.Balanced.tail balanced
      rw [← completes.disabled] at stillBalanced
      have goesOn := inductionHypothesis stillStands others noLaterView stillBalanced
      refine ⟨?_, Command.count_disabledAfter enables ?_⟩
      · intro answered member
        rcases List.mem_cons.mp member with isFirst | isLater
        · rw [isFirst]
          exact completes.answers
        · exact goesOn.1 answered isLater
      · rw [← completes.disabled]
        exact goesOn.2

end Reader
end HeaderScan
