import HeaderScan.Command

namespace HeaderScan

/-!
Maps between handlers that do not change what the handlers do.

A handler may keep more than it needs in order to read directives, such as a record of them.
`Projection.readToken_map` and the theorems behind it say that what it keeps for itself changes
nothing about the tokens, the findings and the scanner of its reader.
-/

/-- A map between handlers that treat all directives alike. -/
structure Projection (σ τ : Type) [DirectiveHandler σ] [DirectiveHandler τ] where
  toFun : σ → τ
  handle_toFun : ∀ {source : List Char} (handler : σ) (scanner : Scanner source)
    (directive : Token) (region : Region),
    DirectiveHandler.handle (toFun handler) scanner directive region =
      ((DirectiveHandler.handle handler scanner directive region).1,
        toFun (DirectiveHandler.handle handler scanner directive region).2.1,
        (DirectiveHandler.handle handler scanner directive region).2.2)
  save_toFun : ∀ handler : σ,
    DirectiveHandler.save (toFun handler) = toFun (DirectiveHandler.save handler)
  restore_toFun : ∀ handler : σ,
    DirectiveHandler.restore (toFun handler) = toFun (DirectiveHandler.restore handler)

/-- The same exclusion with another handler. -/
def Exclusion.map {source : List Char} {σ τ : Type} (f : σ → τ) (exclusion : Exclusion source σ) :
    Exclusion source τ where
  result := exclusion.result
  handler := f exclusion.handler
  scanner := exclusion.scanner
  findings := exclusion.findings

/-- The same reader with another handler. -/
def Reader.map {source : List Char} {σ τ : Type} (f : σ → τ) (reader : Reader source σ) :
    Reader source τ where
  scanner := reader.scanner
  handler := reader.handler.map f
  findings := reader.findings

namespace Projection

variable {source : List Char} {σ τ : Type} [DirectiveHandler σ] [DirectiveHandler τ]
  (projection : Projection σ τ)

/-! ## Excluded code -/

theorem run_map (handler : σ) (scanner : Scanner source) (checks : Bool)
    (progress : HiddenContent.Progress) :
    Exclusion.run (projection.toFun handler) scanner checks progress =
      (Exclusion.run handler scanner checks progress).map projection.toFun := by
  fun_induction Exclusion.run handler scanner checks progress with
  | case1 handler scanner checks progress after error failed =>
    rw [Exclusion.run_of_error failed]
    rfl
  | case2 handler scanner checks progress after token read atEnd =>
    rw [Exclusion.run_of_endOfFile read atEnd]
    rfl
  | case3 handler scanner checks progress after token read notEnd begins handled stop failed =>
    have result : (DirectiveHandler.handle handler
        (scanner.withCursor scanner.cursor.readToken.2) token .excluded).1 = .error stop := failed
    rw [Exclusion.run_of_beginsDirective read begins, projection.handle_toFun]
    simp only [result]
    rfl
  | case4 handler scanner checks progress after token read notEnd begins handled outcome ok
      includes =>
    have result : (DirectiveHandler.handle handler
        (scanner.withCursor scanner.cursor.readToken.2) token .excluded).1 = .ok outcome := ok
    rw [Exclusion.run_of_beginsDirective read begins, projection.handle_toFun]
    simp only [result, includes, if_true]
    rfl
  | case5 handler scanner checks progress after token read notEnd begins handled outcome ok excludes
      inductionHypothesis =>
    have result : (DirectiveHandler.handle handler
        (scanner.withCursor scanner.cursor.readToken.2) token .excluded).1 = .ok outcome := ok
    rw [Exclusion.run_of_beginsDirective read begins, projection.handle_toFun]
    simp only [result, excludes]
    exact inductionHypothesis
  | case6 handler scanner checks progress after token read notEnd noDirective searched
      inductionHypothesis =>
    rw [Exclusion.run_of_token read notEnd (Bool.eq_false_iff.mpr noDirective),
      inductionHypothesis]
    rfl

/-! ## Directives in included code -/

theorem passExcluded_map (reader : Reader source σ) (handler : σ) (scanner : Scanner source)
    (outcome : Outcome) :
    (reader.map projection.toFun).passExcluded (projection.toFun handler) scanner outcome =
      ((reader.passExcluded handler scanner outcome).1,
        (reader.passExcluded handler scanner outcome).2.map projection.toFun) := by
  unfold Reader.passExcluded
  simp only [projection.run_map, Exclusion.map]
  split <;> rfl

theorem handleDirective_map (reader : Reader source σ) (handler : σ) (directive : Token) :
    (reader.map projection.toFun).handleDirective (projection.toFun handler) directive =
      ((reader.handleDirective handler directive).1,
        (reader.handleDirective handler directive).2.map projection.toFun) := by
  unfold Reader.handleDirective
  simp only [projection.handle_toFun, projection.passExcluded_map]
  have sameScanner : (reader.map projection.toFun).scanner = reader.scanner := rfl
  rw [sameScanner]
  split
  · rfl
  · split <;> rfl

/-! ## Tokens -/

theorem handlerFor_map (reader : Reader source σ) (token : Token) :
    (reader.map projection.toFun).handlerFor token =
      (reader.handlerFor token).map projection.toFun := by
  unfold Reader.handlerFor
  split <;> rfl

theorem dropPendingIf_map (reader : Reader source σ) (drops : Bool) :
    (reader.map projection.toFun).dropPendingIf drops =
      (reader.dropPendingIf drops).map projection.toFun := by
  unfold Reader.dropPendingIf
  split <;> rfl

theorem readToken_map (reader : Reader source σ) (afterLineComment : Bool) :
    (reader.map projection.toFun).readToken afterLineComment =
      ((reader.readToken afterLineComment).1,
        (reader.readToken afterLineComment).2.map projection.toFun) := by
  have attachedBy : ∀ {reader : Reader source σ} {token : Token} {handler : σ},
      reader.handlerFor token = some handler ->
        (reader.map projection.toFun).handlerFor token = some (projection.toFun handler) := by
    intro reader token handler attached
    rw [handlerFor_map, attached, Option.map_some]
  have handledBy : ∀ (reader : Reader source σ) (afterLineComment : Bool) (handler : σ)
      (token : Token),
      ((reader.map projection.toFun).afterToken afterLineComment).handleDirective
          (projection.toFun handler) token =
        (((reader.afterToken afterLineComment).handleDirective handler token).1,
          ((reader.afterToken afterLineComment).handleDirective handler token).2.map
            projection.toFun) := fun reader afterLineComment =>
    projection.handleDirective_map (reader.afterToken afterLineComment)
  fun_induction Reader.readToken reader afterLineComment with
  | case1 reader afterLineComment after error failed =>
    have failed : (reader.map projection.toFun).scanner.cursor.readToken.1 = .error error := failed
    rw [Reader.readToken_of_error failed]
    rfl
  | case2 reader afterLineComment after token read unhandled =>
    have read : (reader.map projection.toFun).scanner.cursor.readToken.1 = .ok token := read
    have unhandled : (reader.map projection.toFun).handlerFor token = none := by
      rw [handlerFor_map, unhandled, Option.map_none]
    rw [Reader.readToken_of_handlerFor_none read unhandled]
    rfl
  | case3 reader afterLineComment after token read handler attached handled stop failed =>
    have read : (reader.map projection.toFun).scanner.cursor.readToken.1 = .ok token := read
    rw [Reader.readToken_of_handlerFor read (attachedBy attached)]
    simp only [handledBy, failed, handled, after]
  | case4 reader afterLineComment after token read handler attached handled clears ok
      inductionHypothesis =>
    have read : (reader.map projection.toFun).scanner.cursor.readToken.1 = .ok token := read
    rw [Reader.readToken_of_handlerFor read (attachedBy attached)]
    simp only [handledBy, ok, handled, after, dropPendingIf_map]
    exact inductionHypothesis

theorem peek_map (reader : Reader source σ) :
    (reader.map projection.toFun).peek = (reader.peek.1, reader.peek.2.map projection.toFun) := by
  unfold Reader.peek
  have sameScanner : (reader.map projection.toFun).scanner = reader.scanner := rfl
  rw [sameScanner, readToken_map]
  cases reader.scanner.lookahead with
  | some lookahead => rfl
  | none =>
    cases reader.readToken false with
    | mk result after => cases result <;> rfl

theorem next_map (reader : Reader source σ) :
    (reader.map projection.toFun).next = (reader.next.1, reader.next.2.map projection.toFun) := by
  unfold Reader.next
  rw [peek_map]
  cases reader.peek with
  | mk result after => cases result <;> rfl

theorem drain_map (reader : Reader source σ) :
    (reader.map projection.toFun).drain =
      (reader.drain.1, reader.drain.2.map projection.toFun) := by
  fun_induction Reader.drain reader with
  | case1 reader after stop failed =>
    have failed : (reader.map projection.toFun).next.1 = .error stop := by
      rw [next_map]
      exact failed
    rw [Reader.drain_of_error failed, next_map]
  | case2 reader after token taken first atEnd =>
    have taken : (reader.map projection.toFun).next.1 = .ok token := by
      rw [next_map]
      exact taken
    rw [Reader.drain_of_endOfFile taken atEnd, next_map]
    rfl
  | case3 reader after token taken first notEnd later last rest inductionHypothesis =>
    have taken : (reader.map projection.toFun).next.1 = .ok token := by
      rw [next_map]
      exact taken
    rw [Reader.drain_of_token taken notEnd, next_map]
    simp only
    rw [inductionHypothesis, rest]
    rfl

/-! ## Commands -/

theorem save_map (reader : Reader source σ) :
    (reader.map projection.toFun).save = reader.save.map (Reader.map projection.toFun) := by
  have sameHandler : (reader.handler.map projection.toFun).map DirectiveHandler.save =
      (reader.handler.map DirectiveHandler.save).map projection.toFun := by
    cases reader.handler with
    | none => rfl
    | some handler => exact congrArg some (projection.save_toFun handler)
  unfold Reader.save Reader.map
  simp only [sameHandler]
  cases reader.scanner.save <;> rfl

theorem restore_map (reader : Reader source σ) :
    (reader.map projection.toFun).restore = reader.restore.map (Reader.map projection.toFun) := by
  have sameHandler : (reader.handler.map projection.toFun).map DirectiveHandler.restore =
      (reader.handler.map DirectiveHandler.restore).map projection.toFun := by
    cases reader.handler with
    | none => rfl
    | some handler => exact congrArg some (projection.restore_toFun handler)
  unfold Reader.restore Reader.map
  simp only [sameHandler]
  cases reader.scanner.restore <;> rfl

/-- A reader performs every command as it does with the handler that is projected to. -/
theorem perform_map (reader : Reader source σ) (last : Token) (command : Command) :
    (reader.map projection.toFun).perform last command =
      ((reader.perform last command).1, (reader.perform last command).2.map projection.toFun) := by
  unfold Reader.perform
  cases command
  case next => rw [next_map]
  case peek => rw [peek_map]
  case drain => rw [drain_map]
  case save =>
    rw [save_map]
    cases reader.save <;> rfl
  case restore =>
    rw [restore_map]
    cases reader.restore <;> rfl
  all_goals rfl

end Projection
end HeaderScan
