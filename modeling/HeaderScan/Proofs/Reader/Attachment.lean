import HeaderScan.Proofs.Reader.Restoring
import Mathlib.Data.List.Induction

namespace HeaderScan

/-!
Going back with a handler that is not always attached.

The reader and its handler remember on their own: the reader a place, the handler a state.  A
detached handler hears nothing of what the reader remembers, and no handler hears that the reader
forgets its place.  A handler that was attached when the place was remembered goes back to the
state in which it was then, however often it was detached meanwhile.  A handler that was not
attached then stays as it is (`Attachment.state_restore`), unless an earlier state is still
remembered from a place that the reader did not go back to: that state comes back instead
(`Attachment.state_restore_revived`).
-/

/-- A reader and its one handler, which is attached at times. -/
structure Attachment (source : List Char) where
  scanner : Scanner source
  findings : List Diagnostic
  handler : Conditional
  attached : Bool

namespace Attachment

variable {source : List Char}

/-- What can be done with a reader and its handler. -/
inductive Action
  /-- A command to the reader, about a token that the caller has. -/
  | command (about : Token) (command : Command)
  | detach
  | reattach

/-- The reader, with the handler if it is attached. -/
def reader (attachment : Attachment source) : Reader source Conditional where
  scanner := attachment.scanner
  handler := if attachment.attached then some attachment.handler else none
  findings := attachment.findings

/-- A reader at the start of a source, and a handler that is not attached yet. -/
def start (source : List Char) (symbols : SymbolTable) : Attachment source where
  scanner := .ofSource source
  findings := []
  handler := .ofSymbols symbols
  attached := false

/-- Takes what a command leaves of the reader. -/
def withReader (attachment : Attachment source) (after : Reader source Conditional) :
    Attachment source where
  scanner := after.scanner
  findings := after.findings
  handler := after.handler.getD attachment.handler
  attached := attachment.attached

def act (attachment : Attachment source) : Action → Attachment source
  | .command about command => attachment.withReader (attachment.reader.perform about command).2
  | .detach => { attachment with attached := false }
  | .reattach => { attachment with attached := true }

/-- What several actions lead to. -/
def after (attachment : Attachment source) (actions : List Action) : Attachment source :=
  actions.foldl act attachment

/-- The reader remembers its place by the action. -/
def Saves (attachment : Attachment source) (action : Action) : Prop :=
  ∃ about saved, action = .command about .save ∧ attachment.reader.save = .ok saved

/-- The reader goes back by the action. -/
def Restores (attachment : Attachment source) (action : Action) : Prop :=
  ∃ about restored, action = .command about .restore ∧ attachment.reader.restore = .ok restored

/-- The reader forgets its place by the action, and stays. -/
def Abandons (attachment : Attachment source) (action : Action) : Prop :=
  ∃ about abandoned, action = .command about .abandon ∧
    attachment.reader.scanner.abandon = .ok abandoned

/-! ## One action -/

variable {attachment : Attachment source} {action : Action}

/-- The reader remembers the same place, and the handler the same state. -/
structure Retains (before after : Attachment source) : Prop where
  place : after.scanner.saved = before.scanner.saved
  state : after.handler.saved = before.handler.saved

/-- What an action does to what is remembered. -/
inductive Effect (before : Attachment source) (action : Action) : Prop
  | retains : before.Retains (before.act action) -> Effect before action
  | saves : before.Saves action -> (before.act action).scanner.saved.isSome = true ->
      (before.act action).handler =
        (if before.attached then before.handler.save else before.handler) ->
      Effect before action
  | restores : before.Restores action -> (before.act action).scanner.saved = none ->
      (before.act action).handler =
        (if before.attached then before.handler.restore else before.handler) ->
      Effect before action
  | abandons : before.Abandons action -> (before.act action).scanner.saved = none ->
      (before.act action).handler = before.handler -> Effect before action

theorem retains_withReader {after : Reader source Conditional}
    (retains : attachment.reader.Retains after) :
    attachment.Retains (attachment.withReader after) := by
  refine ⟨retains.place, ?_⟩
  have state := retains.state
  unfold reader at state
  unfold withReader
  cases handler : after.handler with
  | none => rfl
  | some conditional =>
    rw [handler] at state
    cases isAttached : attachment.attached with
    | true =>
      rw [isAttached] at state
      exact Option.some.inj state
    | false =>
      rw [isAttached] at state
      cases state

/-- What a command does to the attached handler. -/
theorem handler_withReader {after : Reader source Conditional} {change : Conditional → Conditional}
    (changed : after.handler = attachment.reader.handler.map change) :
    (attachment.withReader after).handler =
      if attachment.attached then change attachment.handler else attachment.handler := by
  unfold withReader
  rw [changed, reader]
  cases attachment.attached <;> rfl

/-- Behind a save a place is remembered, and an attached handler remembers its state. -/
theorem remembers_of_saves (saves : attachment.Saves action) :
    (attachment.act action).scanner.saved.isSome = true ∧
      (attachment.act action).handler =
        if attachment.attached then attachment.handler.save else attachment.handler := by
  rcases saves with ⟨about, saved, rfl, done⟩
  have performed : (attachment.reader.perform about .save).2 = saved := by
    change (attachment.reader.attempt attachment.reader.save).2 = _
    rw [done]
    rfl
  unfold Reader.save Scanner.save at done
  split at done
  · cases done
  · have whole := performed.trans (Except.ok.inj done).symm
    refine ⟨?_, handler_withReader ?_⟩
    · change (attachment.reader.perform about .save).2.scanner.saved.isSome = true
      rw [whole]
      rfl
    · rw [whole]
      rfl

/-- Behind a return no place is remembered. -/
theorem saved_of_restores (restores : attachment.Restores action) :
    (attachment.act action).scanner.saved = none := by
  rcases restores with ⟨about, restored, rfl, done⟩
  change (attachment.reader.attempt attachment.reader.restore).2.scanner.saved = none
  rw [done]
  unfold Reader.restore Scanner.restore at done
  split at done
  · cases done
  · rw [← Except.ok.inj done]
    rfl

/-- An attached handler goes back with the reader. -/
theorem handler_of_restores (restores : attachment.Restores action) :
    (attachment.act action).handler =
      if attachment.attached then attachment.handler.restore else attachment.handler := by
  rcases restores with ⟨about, restored, rfl, done⟩
  apply handler_withReader
  change (attachment.reader.attempt attachment.reader.restore).2.handler = _
  rw [done]
  unfold Reader.restore Scanner.restore at done
  split at done
  · cases done
  · rw [← Except.ok.inj done]
    rfl

/-- When the place is forgotten, none is remembered. -/
theorem saved_of_abandons (abandons : attachment.Abandons action) :
    (attachment.act action).scanner.saved = none := by
  rcases abandons with ⟨about, abandoned, rfl, done⟩
  change (attachment.reader.scanner.attempt
    (attachment.reader.scanner.abandon.mapError .failure)).2.saved = none
  rw [done]
  change abandoned.saved = none
  rw [Scanner.abandon_of_ok done]

theorem saves_of_none (about : Token) (noPlace : attachment.scanner.saved = none) :
    attachment.Saves (.command about .save) := by
  have isNone : attachment.reader.scanner.saved = none := noPlace
  have succeeds : ∃ saved, attachment.reader.save = .ok saved := by
    rw [Reader.save, Scanner.save, isNone]
    exact ⟨_, rfl⟩
  rcases succeeds with ⟨saved, done⟩
  exact ⟨about, saved, rfl, done⟩

theorem restores_of_isSome (about : Token) (occupied : attachment.scanner.saved.isSome = true) :
    attachment.Restores (.command about .restore) := by
  rcases Option.isSome_iff_exists.mp occupied with ⟨snapshot, isSaved⟩
  exact ⟨about, _, rfl, Reader.restore_of_saved isSaved⟩

theorem effect_save (attachment : Attachment source) (about : Token) :
    attachment.Effect (.command about .save) := by
  cases saved : attachment.reader.save with
  | error error =>
    have unchanged : (attachment.reader.perform about .save).2 = attachment.reader := by
      change (attachment.reader.attempt attachment.reader.save).2 = _
      rw [saved]
      rfl
    refine .retains (retains_withReader ?_)
    rw [unchanged]
    exact .refl _
  | ok after =>
    have saves : attachment.Saves (.command about .save) := ⟨about, after, rfl, saved⟩
    exact .saves saves (remembers_of_saves saves).1 (remembers_of_saves saves).2

theorem effect_restore (attachment : Attachment source) (about : Token) :
    attachment.Effect (.command about .restore) := by
  cases isSaved : attachment.scanner.saved with
  | none =>
    have noPlace : attachment.reader.scanner.saved = none := isSaved
    have unchanged : (attachment.reader.perform about .restore).2 = attachment.reader := by
      change (attachment.reader.attempt attachment.reader.restore).2 = _
      rw [Reader.restore, Scanner.restore, noPlace]
      rfl
    refine .retains (retains_withReader ?_)
    rw [unchanged]
    exact .refl _
  | some snapshot =>
    have restores := restores_of_isSome about (Option.isSome_iff_exists.mpr ⟨snapshot, isSaved⟩)
    exact .restores restores (saved_of_restores restores) (handler_of_restores restores)

theorem effect_abandon (attachment : Attachment source) (about : Token) :
    attachment.Effect (.command about .abandon) := by
  have performed : (attachment.reader.perform about .abandon).2 =
      attachment.reader.withScanner (attachment.reader.scanner.attempt
        (attachment.reader.scanner.abandon.mapError .failure)).2 := rfl
  cases abandoned : attachment.reader.scanner.abandon with
  | error error =>
    rw [abandoned] at performed
    refine .retains (retains_withReader ?_)
    rw [performed]
    exact .refl _
  | ok after =>
    rw [abandoned] at performed
    have handler : (attachment.act (.command about .abandon)).handler = attachment.handler := by
      have changed : (attachment.reader.perform about .abandon).2.handler =
          attachment.reader.handler.map id := by
        rw [performed, Option.map_id]
        rfl
      have whole := handler_withReader changed
      rwa [id, ite_self] at whole
    have abandons : attachment.Abandons (.command about .abandon) := ⟨about, after, rfl, abandoned⟩
    exact .abandons abandons (saved_of_abandons abandons) handler

/-- Every action has one of the effects. -/
theorem effect_act (attachment : Attachment source) (action : Action) :
    attachment.Effect action := by
  cases action with
  | detach => exact .retains ⟨rfl, rfl⟩
  | reattach => exact .retains ⟨rfl, rfl⟩
  | command about command =>
    by_cases isSave : command = .save
    · subst isSave
      exact attachment.effect_save about
    by_cases isRestore : command = .restore
    · subst isRestore
      exact attachment.effect_restore about
    by_cases isAbandon : command = .abandon
    · subst isAbandon
      exact attachment.effect_abandon about
    exact .retains (retains_withReader
      (attachment.reader.retains_perform about isSave isRestore isAbandon))

/-! ## Several actions -/

/-- The remembered place is neither gone back to nor forgotten. -/
def KeepsPlace (attachment : Attachment source) : List Action → Prop
  | [] => True
  | action :: later =>
    (¬ attachment.Restores action ∧ ¬ attachment.Abandons action) ∧
      (attachment.act action).KeepsPlace later

/-- The reader goes back while its handler is attached. -/
def GoesBack (attachment : Attachment source) : List Action → Prop
  | [] => False
  | action :: later =>
    (attachment.attached = true ∧ attachment.Restores action) ∨
      (attachment.act action).GoesBack later

/-- Whenever a place is remembered while the handler is attached, the reader later goes back while
it is attached. -/
def Settles (attachment : Attachment source) : List Action → Prop
  | [] => True
  | action :: later =>
    (attachment.attached = true -> attachment.Saves action ->
        (attachment.act action).GoesBack later) ∧
      (attachment.act action).Settles later

variable {actions : List Action}

theorem after_concat (attachment : Attachment source) (actions : List Action) (action : Action) :
    attachment.after (actions ++ [action]) = (attachment.after actions).act action :=
  List.foldl_concat act attachment action actions

theorem keepsPlace_concat (keeps : attachment.KeepsPlace actions)
    (noRestore : ¬ (attachment.after actions).Restores action)
    (noAbandon : ¬ (attachment.after actions).Abandons action) :
    attachment.KeepsPlace (actions ++ [action]) := by
  induction actions generalizing attachment with
  | nil => exact ⟨⟨noRestore, noAbandon⟩, trivial⟩
  | cons first later inductionHypothesis =>
    exact ⟨keeps.1, inductionHypothesis keeps.2 noRestore noAbandon⟩

/-- While the reader remembers a place, no other is remembered. -/
theorem not_saves (occupied : attachment.scanner.saved.isSome = true) :
    ¬ attachment.Saves action := by
  rintro ⟨about, saved, _, done⟩
  rcases Option.isSome_iff_exists.mp occupied with ⟨snapshot, isSaved⟩
  have refused : attachment.reader.save =
      .error (attachment.scanner.misuse .stateAlreadySaved) := by
    unfold Reader.save Scanner.save reader
    rw [isSaved]
    rfl
  cases refused.symm.trans done

/-- As long as the place is kept, so is the state that the handler remembers. -/
theorem saved_of_keepsPlace (occupied : attachment.scanner.saved.isSome = true)
    (keeps : attachment.KeepsPlace actions) :
    (attachment.after actions).handler.saved = attachment.handler.saved := by
  induction actions generalizing attachment with
  | nil => rfl
  | cons action later inductionHypothesis =>
    cases attachment.effect_act action with
    | retains retains =>
      have stillOccupied : (attachment.act action).scanner.saved.isSome = true := by
        rw [retains.place]
        exact occupied
      exact (inductionHypothesis stillOccupied keeps.2).trans retains.state
    | saves saves => exact absurd saves (not_saves occupied)
    | restores restores => exact absurd restores keeps.1.1
    | abandons abandons => exact absurd abandons keeps.1.2

/-- A remembered place has been remembered by an action, and kept since then. -/
theorem exists_saves (noPlace : attachment.scanner.saved = none)
    (occupied : (attachment.after actions).scanner.saved.isSome = true) :
    ∃ before save between, actions = before ++ save :: between ∧
      (attachment.after before).Saves save ∧
      ((attachment.after before).act save).KeepsPlace between := by
  induction actions using List.reverseRecOn with
  | nil =>
    change attachment.scanner.saved.isSome = true at occupied
    rw [noPlace] at occupied
    cases occupied
  | append_singleton earlier action inductionHypothesis =>
    rw [after_concat] at occupied
    have stays : ∀ {Released : Prop},
        (Released -> ((attachment.after earlier).act action).scanner.saved = none) ->
        ¬ Released := by
      intro Released releases released
      rw [releases released] at occupied
      cases occupied
    cases (attachment.after earlier).effect_act action with
    | retains retains =>
      rw [retains.place] at occupied
      rcases inductionHypothesis occupied with ⟨before, save, between, whole, saves, keeps⟩
      refine ⟨before, save, between ++ [action], by simp [whole], saves, ?_⟩
      have reached : ((attachment.after before).act save).after between =
          attachment.after earlier := by
        rw [whole, after, after, after, List.foldl_append]
        rfl
      rw [← reached] at stays
      exact keepsPlace_concat keeps (stays saved_of_restores) (stays saved_of_abandons)
    | saves saves => exact ⟨earlier, action, [], rfl, saves, trivial⟩
    | restores _ none | abandons _ none =>
      rw [none] at occupied
      cases occupied

theorem saved_restore (conditional : Conditional) : conditional.restore.saved = none := by
  unfold Conditional.restore
  split
  next none => exact none
  · rfl

/-- Where all is settled, the handler remembers nothing. -/
theorem saved_of_settles (settles : attachment.Settles actions)
    (nothing : attachment.handler.saved = none ∨ attachment.GoesBack actions) :
    (attachment.after actions).handler.saved = none := by
  induction actions generalizing attachment with
  | nil => exact nothing.resolve_right id
  | cons action later inductionHypothesis =>
    apply inductionHypothesis settles.2
    rcases nothing with nothing | ⟨isAttached, restores⟩ | goesBack
    · cases attachment.effect_act action with
      | retains retains => exact Or.inl (retains.state.trans nothing)
      | saves saves _ handler =>
        cases isAttached : attachment.attached with
        | true => exact Or.inr (settles.1 isAttached saves)
        | false =>
          rw [isAttached] at handler
          exact Or.inl ((congrArg Conditional.saved handler).trans nothing)
      | restores _ _ handler =>
        left
        rw [handler]
        split
        · exact saved_restore _
        · exact nothing
      | abandons _ _ handler => exact Or.inl ((congrArg Conditional.saved handler).trans nothing)
    · left
      rw [handler_of_restores restores, if_pos isAttached]
      exact saved_restore _
    · exact Or.inr goesBack

/-! ## Going back -/

/-- Whenever the reader goes back with its handler attached, the handler is in the state in which
it was when the place was remembered, if it was attached then.  If it was not, its state stays as
it is, provided that the reader has gone back, with the handler attached, behind every place that
it had remembered before with the handler attached. -/
theorem state_restore (source : List Char) (symbols : SymbolTable) (about : Token)
    (restores : ((start source symbols).after actions).Restores (.command about .restore))
    (attached : ((start source symbols).after actions).attached = true) :
    ∃ before save between, actions = before ++ save :: between ∧
      ((start source symbols).after before).Saves save ∧
      (((start source symbols).after before).act save).KeepsPlace between ∧
      let met := (start source symbols).after before
      let last := (start source symbols).after actions
      let back := last.act (.command about .restore)
      (met.attached = true -> back.handler.state = met.handler.state) ∧
      (met.attached = false -> (start source symbols).Settles before ->
        back.handler.state = last.handler.state) := by
  have occupied : ((start source symbols).after actions).scanner.saved.isSome = true := by
    rcases restores with ⟨_, restored, _, done⟩
    unfold Reader.restore Scanner.restore at done
    split at done
    · cases done
    next snapshot isSaved => exact Option.isSome_iff_exists.mpr ⟨snapshot, isSaved⟩
  have noPlace : (start source symbols).scanner.saved = none := rfl
  rcases exists_saves noPlace occupied with
    ⟨before, save, between, rfl, saves, keeps⟩
  refine ⟨before, save, between, rfl, saves, keeps, ?_⟩
  intro met last back
  have reached : last = (met.act save).after between := List.foldl_append ..
  have goesBack : back.handler = last.handler.restore := by
    rw [handler_of_restores restores, if_pos attached]
  have isMet := remembers_of_saves saves
  -- From this save on the handler remembers the same state.
  have remembered : last.handler.saved = (met.act save).handler.saved := by
    rw [reached]
    exact saved_of_keepsPlace isMet.1 keeps
  refine ⟨?_, ?_⟩
  · intro wasAttached
    rw [isMet.2, if_pos wasAttached] at remembered
    rw [goesBack, Conditional.restore, remembered]
    rfl
  · intro wasDetached settles
    have nothing : met.handler.saved = none := saved_of_settles settles (Or.inl rfl)
    have stillDetached : ¬ met.attached = true := by simp [wasDetached]
    rw [isMet.2, if_neg stillDetached, nothing] at remembered
    rw [goesBack, Conditional.restore, remembered]

/-- The hypotheses hold for a handler that goes back once while it is attached, and is detached when
the next place is remembered; the region that is opened behind this place stays open. -/
theorem state_restore_detached :
    let begin := start "#if 1\nx".toList .initial
    let before : List Action :=
      [.reattach, .command .absent .save, .command .absent .restore, .detach]
    let actions := before ++ [.command .absent .save, .reattach, .command .absent .next]
    (begin.after actions).Restores (.command .absent .restore) ∧
      (begin.after actions).attached = true ∧ (begin.after actions).handler.depth = 1 ∧
      begin.Settles before ∧
      ∃ before save between, actions = before ++ save :: between ∧
        (begin.after before).Saves save ∧ ((begin.after before).act save).KeepsPlace between ∧
        let met := begin.after before
        let last := begin.after actions
        let back := last.act (.command .absent .restore)
        (met.attached = true -> back.handler.state = met.handler.state) ∧
        (met.attached = false -> begin.Settles before ->
          back.handler.state = last.handler.state) := by
  intro begin before actions
  have restores : (begin.after actions).Restores (.command .absent .restore) :=
    restores_of_isSome .absent (by decide +kernel)
  have attached : (begin.after actions).attached = true := by decide +kernel
  have settles : begin.Settles before := by
    refine ⟨?_, ?_, ?_, ?_, trivial⟩
    · rintro - ⟨_, _, impossible, _⟩
      cases impossible
    · intro _ _
      exact Or.inl ⟨rfl, restores_of_isSome .absent (by decide +kernel)⟩
    · rintro - ⟨_, _, impossible, _⟩
      cases impossible
    · rintro - ⟨_, _, impossible, _⟩
      cases impossible
  exact ⟨restores, attached, by decide +kernel, settles,
    state_restore "#if 1\nx".toList .initial .absent restores attached⟩

/-- A state that was remembered with a forgotten place comes back with a place that was remembered
without the handler: the region opened since then is closed again. -/
theorem state_restore_revived :
    let begin := start "#if 1\nx".toList .initial
    let before : List Action :=
      [.reattach, .command .absent .save, .command .absent .abandon, .detach]
    let between : List Action := [.reattach, .command .absent .next]
    let met := begin.after before
    let last := (met.act (.command .absent .save)).after between
    met.attached = false ∧ met.Saves (.command .absent .save) ∧
      (met.act (.command .absent .save)).KeepsPlace between ∧
      last.Restores (.command .absent .restore) ∧ last.attached = true ∧
      last.handler.depth = 1 ∧ (last.act (.command .absent .restore)).handler.depth = 0 := by
  intro begin before between met last
  have saves : met.Saves (.command .absent .save) := saves_of_none .absent (by decide +kernel)
  have keeps : (met.act (.command .absent .save)).KeepsPlace between := by
    refine ⟨⟨?_, ?_⟩, ⟨?_, ?_⟩, trivial⟩ <;> rintro ⟨_, _, impossible, _⟩ <;> cases impossible
  exact ⟨by decide +kernel, saves, keeps, restores_of_isSome .absent (by decide +kernel),
    by decide +kernel, by decide +kernel, by decide +kernel⟩

end Attachment
end HeaderScan
