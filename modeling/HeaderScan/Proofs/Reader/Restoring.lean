import HeaderScan.Proofs.Reader.Memory
import HeaderScan.Proofs.Reader.Requests
import Mathlib.Data.List.Forall2

namespace HeaderScan

/-!
Going back to a remembered place.

Whatever is asked of a reader, failing commands included, the place that it remembers and the state
that its handler remembers stay as they are until the reader goes back or forgets them.  Going back
therefore succeeds and leads to the very state in which the place was remembered, and from there on
the same tokens come with the same comments.
-/

/-! ## What is left alone -/

/-- The request neither goes back to the remembered place nor forgets it, although it may try to,
and leaves the handler where it is. -/
def Request.Leaves {source : List Char} {σ : Type} (request : Request σ)
    (answered : Answered source σ) : Prop :=
  match request with
  | .command _ .restore | .command _ .abandon => ∀ reply, answered.reply ≠ .ok reply
  | .command _ _ => True
  | .attach _ | .detach => False

namespace Reader

variable {source : List Char} {reader : Reader source Conditional}

/-- The reader and its handler still remember the same. -/
structure Retains (before after : Reader source Conditional) : Prop where
  place : after.scanner.saved = before.scanner.saved
  state : after.handler.map Conditional.saved = before.handler.map Conditional.saved

theorem Retains.refl (reader : Reader source Conditional) : reader.Retains reader :=
  ⟨rfl, rfl⟩

theorem Retains.trans {first second third : Reader source Conditional}
    (early : first.Retains second) (late : second.Retains third) : first.Retains third :=
  ⟨late.place.trans early.place, late.state.trans early.state⟩

theorem Keeps.retains {after : Reader source Conditional} (keeps : reader.Keeps after) :
    reader.Retains after :=
  ⟨keeps.place, keeps.state⟩

/-- A second place is not remembered while there is one. -/
theorem retains_save (occupied : reader.scanner.saved.isSome = true) (about : Token) :
    reader.Retains (reader.perform about .save).2 := by
  rcases Option.isSome_iff_exists.mp occupied with ⟨snapshot, isSaved⟩
  have refused : reader.save = .error (reader.scanner.misuse .stateAlreadySaved) := by
    rw [Reader.save, Scanner.save, isSaved]
    rfl
  change reader.Retains (reader.attempt reader.save).2
  rw [refused]
  exact .refl reader

/-- An operation of the scanner that does not touch the place. -/
theorem retains_withScanner {scanner : Scanner source}
    (samePlace : scanner.saved = reader.scanner.saved) :
    reader.Retains (reader.withScanner scanner) :=
  ⟨samePlace, rfl⟩

/-- The same of an operation that may be refused. -/
theorem retains_attempt {result : Except Stop (Scanner source)}
    (samePlace : ∀ after, result = .ok after -> after.saved = reader.scanner.saved) :
    reader.Retains (reader.withScanner (reader.scanner.attempt result).2) := by
  cases result with
  | error stop => exact .refl reader
  | ok after => exact retains_withScanner (samePlace after rfl)

/-- An operation about recording is refused, or does nothing else. -/
theorem retains_recording {result : Except ScanError (Scanner source)}
    (only : ∀ after, result = .ok after ->
      ∃ recording, after = { reader.scanner with recording := recording }) :
    reader.Retains (reader.withScanner
      (reader.scanner.attempt (result.mapError .failure)).2) := by
  refine retains_attempt ?_
  intro after done
  cases result with
  | error error => cases done
  | ok other =>
    rw [← Except.ok.inj done]
    rcases only other rfl with ⟨recording, rfl⟩
    rfl

/-- Only three commands concern what is remembered. -/
theorem retains_perform (about : Token) {command : Command} (noSave : command ≠ .save)
    (noRestore : command ≠ .restore) (noAbandon : command ≠ .abandon) :
    reader.Retains (reader.perform about command).2 := by
  cases command with
  | save => exact absurd rfl noSave
  | restore => exact absurd rfl noRestore
  | abandon => exact absurd rfl noAbandon
  | next => exact reader.keeps_next.retains
  | peek => exact reader.keeps_peek.retains
  | drain => exact reader.keeps_drain.retains
  | setLine | readLine => exact retains_withScanner reader.scanner.saved_rewind
  | readRawText terminator options =>
    have keeps := reader.scanner.keeps_readRawText terminator options
    exact retains_withScanner (keeps.saved.trans reader.scanner.saved_rewind)
  | consume | passTrivia | view | sourceSize | isFirst | isFirstAt | clearComments
  | disableComments | commitComments | recorded => exact retains_withScanner rfl
  | enableComments =>
    refine retains_attempt ?_
    intro after enabled
    unfold Scanner.enableComments at enabled
    split at enabled
    · cases enabled
    · rw [← Except.ok.inj enabled]
  | enableRecording => exact retains_recording fun _ => Scanner.enableRecording_of_ok
  | disableRecording => exact retains_recording fun _ => Scanner.disableRecording_of_ok
  | record => exact retains_recording fun _ => Scanner.record_of_ok

/-- A reader that remembers a place keeps remembering it. -/
theorem retains_answer (occupied : reader.scanner.saved.isSome = true)
    {request : Request Conditional} (leaves : request.Leaves (reader.answer request)) :
    reader.Retains (reader.answer request).reader := by
  rcases Option.isSome_iff_exists.mp occupied with ⟨snapshot, isSaved⟩
  cases request with
  | attach | detach => exact leaves.elim
  | command about command =>
    by_cases isSave : command = .save
    · subst isSave
      exact reader.retains_save occupied about
    by_cases isRestore : command = .restore
    · subst isRestore
      have succeeds : (reader.attempt reader.restore).1 = .ok .done := by
        rw [Reader.restore, Scanner.restore, isSaved]
        rfl
      exact absurd succeeds (leaves .done)
    by_cases isAbandon : command = .abandon
    · subst isAbandon
      have succeeds : (reader.scanner.attempt
          (reader.scanner.abandon.mapError .failure)).1 = .ok .done := by
        rw [Scanner.abandon, isSaved]
        rfl
      exact absurd succeeds (leaves .done)
    exact reader.retains_perform about isSave isRestore isAbandon

theorem retains_after (occupied : reader.scanner.saved.isSome = true)
    {requests : List (Request Conditional)}
    (leave : List.Forall₂ Request.Leaves requests (reader.run requests)) :
    reader.Retains (reader.after requests) := by
  induction requests generalizing reader with
  | nil => exact .refl reader
  | cons request later inductionHypothesis =>
    rcases List.forall₂_cons.mp leave with ⟨first, others⟩
    have retains := reader.retains_answer occupied first
    have stillOccupied : (reader.answer request).reader.scanner.saved.isSome = true := by
      rw [retains.place]
      exact occupied
    exact retains.trans (inductionHypothesis stillOccupied others)

/-! ## Going back -/

/-- The reader with the place where it stands remembered. -/
def remembering (reader : Reader source Conditional) : Reader source Conditional :=
  { reader with
    scanner :=
      { reader.scanner with saved := some ⟨reader.scanner.cursor, reader.scanner.comments⟩ }
    handler := reader.handler.map Conditional.save }

/-- Where no place is remembered and nothing is looked ahead at, the cursor is remembered. -/
theorem save_of_none (noLookahead : reader.scanner.lookahead = none)
    (noPlace : reader.scanner.saved = none) : reader.save = .ok reader.remembering := by
  have place : reader.scanner.inputCursor = reader.scanner.cursor := by
    rw [Scanner.inputCursor, noLookahead]
  have nothingAhead : reader.scanner.lookahead.isSome = false := by
    rw [noLookahead]
    rfl
  rw [Reader.save, Scanner.save, noPlace, place]
  simp only [nothingAhead]
  rfl

/-- What going back leads to from a reader that remembers a place. -/
theorem restore_of_saved {snapshot : Snapshot source}
    (isSaved : reader.scanner.saved = some snapshot) :
    reader.restore =
      .ok
        { reader with
          scanner :=
            { reader.scanner with
              cursor := snapshot.cursor
              lookahead := none
              comments := snapshot.comments
              saved := none }
          handler := reader.handler.map Conditional.restore } := by
  rw [Reader.restore, Scanner.restore, isSaved]
  rfl

/-- A handler that remembers a state goes back to it. -/
theorem restore_of_remembered {handler : Option Conditional} {before : Option Conditional}
    (remembered : handler.map Conditional.saved = before.map (fun conditional =>
      some conditional.state)) :
    (handler.map Conditional.restore) =
      before.map fun conditional => ⟨conditional.state, none⟩ := by
  cases handler with
  | none =>
    cases before with
    | none => rfl
    | some _ => cases remembered
  | some conditional =>
    cases before with
    | none => cases remembered
    | some other =>
      have isSaved : conditional.saved = some other.state := Option.some.inj remembered
      rw [Option.map_some, Option.map_some, Conditional.restore, isSaved]

/-- A reader to which requests lead from the start of a source. -/
def IsReachable (reader : Reader source Conditional) : Prop :=
  ∃ handler requests, reader = (ofSource source handler).after requests

theorem IsReachable.stands (reachable : reader.IsReachable) :
    reader.Stands (fun _ => True) fun _ => True := by
  rcases reachable with ⟨handler, requests, rfl⟩
  exact (stands_ofSource trivial _ handler).stands_after (fun _ _ _ => trivial)
    fun request _ => request.respects_true source

/-- A reader is back in the state of another, as far as this state was remembered.  From there on
the same tokens come with the same comments, if comments are disabled as often. -/
structure IsBack (before restored : Reader source Conditional) : Prop where
  cursor : restored.scanner.cursor = before.scanner.cursor
  comments : restored.scanner.comments = before.scanner.comments
  noLookahead : restored.scanner.lookahead = none
  state : restored.handler.map Conditional.state = before.handler.map Conditional.state
  stream : restored.scanner.disabled = before.scanner.disabled ->
    ∀ count, restored.stream count = before.stream count

theorem bare_handler (reader : Reader source Conditional) :
    reader.bare.handler =
      (reader.handler.map Conditional.state).map fun state => ⟨state, none⟩ := by
  rw [Option.map_map]
  rfl

/-- What is remembered decides about all tokens to come. -/
theorem isBack_of_equal {before restored : Reader source Conditional}
    (noLookahead : before.scanner.lookahead = none)
    (sameReserved : restored.scanner.reserved = before.scanner.reserved)
    (cursor : restored.scanner.cursor = before.scanner.cursor)
    (comments : restored.scanner.comments = before.scanner.comments)
    (stillNone : restored.scanner.lookahead = none)
    (state : restored.handler.map Conditional.state = before.handler.map Conditional.state) :
    before.IsBack restored := by
  refine ⟨cursor, comments, stillNone, state, ?_⟩
  intro sameDisabled
  have sameScanner : restored.bare.scanner = before.bare.scanner := by
    simp only [bare, cursor, comments, stillNone, noLookahead, sameReserved, sameDisabled]
  have sameHandler : restored.bare.handler = before.bare.handler := by
    rw [bare_handler, bare_handler, state]
  have same : restored.bare = before.bare := by
    rw [bare, bare, Reader.mk.injEq]
    exact ⟨sameScanner, sameHandler, rfl⟩
  exact stream_of_bare same

/-- A reader that remembers where it stands goes back there, whatever is asked of it meanwhile. -/
theorem restore_isBack (reader : Reader source Conditional) (reachable : reader.IsReachable)
    (noLookahead : reader.scanner.lookahead = none) (noPlace : reader.scanner.saved = none) :
    ∃ saved, reader.save = .ok saved ∧ reader.IsBack saved ∧
      ∀ requests, List.Forall₂ Request.Leaves requests (saved.run requests) ->
        ∃ restored, (saved.after requests).restore = .ok restored ∧ reader.IsBack restored := by
  have stands := reachable.stands
  have remembered : reader.remembering.handler.map Conditional.saved =
      reader.handler.map fun conditional => some conditional.state := by
    rw [remembering, Option.map_map]
    rfl
  have sameState : reader.remembering.handler.map Conditional.state =
      reader.handler.map Conditional.state := by
    rw [remembering, Option.map_map]
    rfl
  have stillStands : reader.remembering.Stands (fun _ => True) fun _ => True := by
    refine ⟨{ stands.scanner with saved := ?_ }, stands.findings⟩
    intro snapshot isSnapshot
    rw [← Option.some.inj isSnapshot]
    exact ⟨trivial, stands.scanner.comments⟩
  refine ⟨_, save_of_none noLookahead noPlace,
    isBack_of_equal noLookahead rfl rfl rfl noLookahead sameState, ?_⟩
  intro requests leave
  have retains := reader.remembering.retains_after rfl leave
  have standsLater := stillStands.stands_after (fun _ _ _ => trivial)
    fun request (_ : request ∈ requests) => request.respects_true source
  have sameReserved := standsLater.scanner.reserved.trans stands.scanner.reserved.symm
  refine ⟨_, restore_of_saved retains.place, ?_⟩
  refine isBack_of_equal noLookahead sameReserved rfl rfl rfl ?_
  rw [restore_of_remembered (retains.state.trans remembered), Option.map_map]
  rfl

/-- The hypotheses hold within an open region, and for requests of which one fails in the excluded
code behind it. -/
theorem restore_isBack_in_region :
    let source := "#if 1 // x\n/**/ a\n/**/ #define A\nb\n#else\n#elif 1\n#endif\n#endif".toList
    let reader := (ofSource source (some (Conditional.ofSymbols .initial))).after
      [.command .absent .next]
    let requests : List (Request Conditional) :=
      [.command .absent .drain, .command .absent .clearComments, .command .absent .save]
    reader.IsReachable ∧ reader.scanner.lookahead = none ∧ reader.scanner.saved = none ∧
      reader.drain.1.stop.isSome = true ∧
      ∃ saved, reader.save = .ok saved ∧
        List.Forall₂ Request.Leaves requests (saved.run requests) ∧
        ∃ restored, (saved.after requests).restore = .ok restored ∧ reader.IsBack restored := by
  intro source reader requests
  have reachable : reader.IsReachable := ⟨_, _, rfl⟩
  have noLookahead : reader.scanner.lookahead = none := by decide +kernel
  have noPlace : reader.scanner.saved = none := by decide +kernel
  have fails : reader.drain.1.stop.isSome = true := by decide +kernel
  rcases restore_isBack reader reachable noLookahead noPlace with ⟨saved, isSaved, _, back⟩
  have leave : List.Forall₂ Request.Leaves requests (saved.run requests) :=
    .cons trivial (.cons trivial (.cons trivial .nil))
  exact ⟨reachable, noLookahead, noPlace, fails, saved, isSaved, leave, back requests leave⟩

end Reader
end HeaderScan
