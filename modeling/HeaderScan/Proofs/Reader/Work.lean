import HeaderScan.Proofs.Reader.Moments
import HeaderScan.Proofs.Reader.Neutrality

namespace HeaderScan

/-!
How much work it is to take a token.

On its way to a token a reader of conditional directives comes through directives, the lines over
which they go on, and the tokens of excluded code, and none of the three loops counts its turns.
Each of them pays for its operations with the characters that it passes, so that taking a token
takes at most nine operations for each of these, and two more (`Reader.pays_next`).
-/

variable {source : List Char}

namespace Cursor

/-- The way from one cursor to another leads forwards and pays for some operations: a number of
them for each character that is passed, and a few more. -/
structure Pays (rate surplus operations : Nat) (first second : Cursor source) : Prop where
  forward : second.rest.length ≤ first.rest.length
  paid : operations + rate * second.rest.length ≤ rate * first.rest.length + surplus

namespace Pays

variable {first second third : Cursor source} {rate higher surplus more operations others : Nat}

theorem of_few (cursor : Cursor source) (few : operations ≤ surplus) :
    Pays rate surplus operations cursor cursor where
  forward := Nat.le_refl _
  paid := by omega

theorem trans (early : Pays rate surplus operations first second)
    (late : Pays rate more others second third) :
    Pays rate (surplus + more) (operations + others) first third where
  forward := Nat.le_trans late.forward early.forward
  paid := by
    have := early.paid
    have := late.paid
    omega

theorem weaken (pays : Pays rate surplus operations first second) (rates : rate ≤ higher)
    (few : others + surplus ≤ operations + more) : Pays higher more others first second where
  forward := pays.forward
  paid := by
    have := pays.paid
    rcases Nat.exists_eq_add_of_le rates with ⟨difference, rfl⟩
    have := Nat.mul_le_mul_left difference pays.forward
    rw [Nat.add_mul, Nat.add_mul]
    omega

/-- A character that is passed pays for some operations. -/
theorem of_lt (passed : second.rest.length < first.rest.length)
    (pays : Pays rate surplus operations second third)
    (few : others + surplus ≤ operations + rate + more) : Pays rate more others first third where
  forward := Nat.le_trans pays.forward (Nat.le_of_lt passed)
  paid := by
    have := pays.paid
    have := Nat.mul_le_mul_left rate (Nat.succ_le_of_lt passed)
    rw [Nat.mul_succ] at this
    omega

end Pays

theorem pays_readToken (cursor : Cursor source) (rate : Nat) :
    Pays rate 1 1 cursor cursor.readToken.2 where
  forward := cursor.length_rest_readToken_le
  paid := by
    have := Nat.mul_le_mul_left rate cursor.length_rest_readToken_le
    omega

end Cursor

/-! ## One directive -/

/-- No line of a directive is read without a character being passed. -/
theorem Directive.pays_lineCommands (text : List Char) (cursor : Cursor source) :
    Cursor.Pays 1 0 (lineCommands text cursor).length cursor (gatherLines text cursor).2 := by
  fun_induction gatherLines text cursor with
  | case1 text cursor atEnd =>
    rw [lineCommands, dif_pos atEnd]
    exact .of_few cursor (Nat.le_refl 0)
  | case2 text cursor unread gathered goesOn inductionHypothesis =>
    have passed := Cursor.length_rest_readLine_lt (Bool.eq_false_iff.mpr unread)
    rw [lineCommands, dif_neg unread, goesOn]
    exact .of_lt passed inductionHypothesis (Nat.le_refl _)
  | case3 text cursor unread gathered goesOn shape ends =>
    have passed := Cursor.length_rest_readLine_lt (Bool.eq_false_iff.mpr unread)
    rw [lineCommands, dif_neg unread, shape, Bool.eq_false_iff.mpr ends]
    exact .of_lt passed (.of_few _ (Nat.le_refl 0)) (Nat.le_refl _)

namespace Scanner

theorem length_handlingMoments (scanner : Scanner source) (commands : List (Token × Command)) :
    (scanner.handlingMoments commands).length = commands.length := by
  induction commands generalizing scanner with
  | nil => rfl
  | cons asked later inductionHypothesis =>
    rw [handlingMoments, List.length_cons, List.length_cons, inductionHypothesis]

/-- One operation puts the lookahead back, and each of the others reads a line. -/
theorem pays_directive (scanner : Scanner source) (noLookahead : scanner.lookahead = none)
    (conditional : Conditional) (directive : Token) (region : Region) :
    Cursor.Pays 1 1 (scanner.directiveMoments conditional directive region).length scanner.cursor
      (DirectiveHandler.handle conditional scanner directive region).2.2.cursor := by
  have commands : ActsByCommands.commands conditional scanner directive region =
      (.absent, .setLine scanner.cursor.line) :: Directive.lineCommands [] scanner.cursor := by
    change (_, Command.setLine scanner.rewind.cursor.line) :: _ = _
    rw [rewind_of_lookahead_none noLookahead]
  rw [directiveMoments, length_handlingMoments, commands,
    (conditional.forward_handle scanner noLookahead directive region).moved]
  exact (Directive.pays_lineCommands [] scanner.cursor).weaken (Nat.le_refl 1) (Nat.le_refl _)

end Scanner

/-! ## Excluded code -/

/-- The sign of an excluded directive pays for the operations that read no line. -/
theorem Exclusion.pays_run (conditional : Conditional) (scanner : Scanner source)
    (noLookahead : scanner.lookahead = none) (checks : Bool)
    (progress : HiddenContent.Progress) :
    Cursor.Pays 2 1 (moments conditional scanner).length scanner.cursor
      (run conditional scanner checks progress).scanner.cursor := by
  fun_induction Exclusion.moments conditional scanner generalizing checks progress with
  | case1 conditional scanner after error failed =>
    rw [run_of_error failed]
    exact scanner.cursor.pays_readToken 2
  | case2 conditional scanner after token read atEnd =>
    rw [run_of_endOfFile read atEnd]
    exact scanner.cursor.pays_readToken 2
  | case3 conditional scanner after token read notEnd begins handled handling stop failed =>
    have passed := Cursor.length_rest_readToken_lt read notEnd
    have handles := (after.pays_directive noLookahead conditional token .excluded).weaken
      (Nat.le_succ 1) (Nat.le_refl _)
    simp only [handled, after] at failed
    simp only [run_of_beginsDirective read begins, failed]
    exact handles.of_lt passed (Nat.le_succ _)
  | case4 conditional scanner after token read notEnd begins handled handling outcome ok includes =>
    have passed := Cursor.length_rest_readToken_lt read notEnd
    have handles := (after.pays_directive noLookahead conditional token .excluded).weaken
      (Nat.le_succ 1) (Nat.le_refl _)
    simp only [handled, after] at ok
    simp only [run_of_beginsDirective read begins, ok, if_pos includes]
    exact handles.of_lt passed (Nat.le_succ _)
  | case5 conditional scanner after token read notEnd begins handled handling outcome ok excludes
      inductionHypothesis =>
    have passed := Cursor.length_rest_readToken_lt read notEnd
    have handles := (after.pays_directive noLookahead conditional token .excluded).weaken
      (Nat.le_succ 1) (Nat.le_refl _)
    have stillNone : handled.2.2.lookahead = none := by
      rw [(conditional.forward_handle after noLookahead token .excluded).moved]
      exact noLookahead
    have later := inductionHypothesis stillNone outcome.checksContent progress
    simp only [handled, after] at ok
    simp only [run_of_beginsDirective read begins, ok, if_neg excludes]
    refine (handles.trans later).of_lt passed ?_
    rw [List.length_append, List.length_cons]
    omega
  | case6 conditional scanner after token read notEnd noDirective inductionHypothesis =>
    have passed := Cursor.length_rest_readToken_lt read notEnd
    have later := inductionHypothesis noLookahead checks (progress.stepIf checks token).2
    rw [run_of_token read notEnd (Bool.eq_false_iff.mpr noDirective)]
    exact later.of_lt passed (Nat.le_succ _)

/-! ## The reader -/

namespace Reader

variable (reader : Reader source Conditional)

theorem pays_passExcluded (conditional : Conditional) {scanner : Scanner source}
    (noLookahead : scanner.lookahead = none) (outcome : Outcome) :
    Cursor.Pays 2 4 (exclusionMoments conditional scanner outcome).length scanner.cursor
      (reader.passExcluded conditional scanner outcome).2.scanner.cursor := by
  have excludes := Exclusion.pays_run conditional scanner.disableComments noLookahead
    outcome.checksContent .nothing
  unfold exclusionMoments passExcluded
  simp only
  cases enables : (Exclusion.run conditional scanner.disableComments outcome.checksContent
    .nothing).scanner.enableComments with
  | error stop =>
    refine excludes.weaken (Nat.le_refl 2) ?_
    rw [List.append_nil, List.length_cons]
    omega
  | ok enabled =>
    have sameCursor : enabled.cursor = _ :=
      congrArg Scanner.cursor (Scanner.enableComments_of_ok enables)
    change Cursor.Pays 2 4 _ _ enabled.cursor
    rw [sameCursor]
    refine excludes.weaken (Nat.le_refl 2) ?_
    rw [List.length_append, List.length_cons]
    exact Nat.le_refl _

theorem pays_handleDirective (conditional : Conditional)
    (noLookahead : reader.scanner.lookahead = none) (directive : Token) :
    Cursor.Pays 2 7 (reader.directiveMoments conditional directive).length reader.scanner.cursor
      (reader.handleDirective conditional directive).2.scanner.cursor := by
  have handles := (reader.scanner.reservePending.pays_directive noLookahead conditional directive
    .included).weaken (Nat.le_succ 1) (Nat.le_refl _)
  have forward := conditional.forward_handle reader.scanner.reservePending noLookahead directive
    .included
  unfold directiveMoments handleDirective
  simp only
  rcases shape : DirectiveHandler.handle conditional reader.scanner.reservePending directive
    .included with ⟨result, next, left⟩
  rw [shape] at handles forward
  cases result with
  | error stop =>
    refine handles.weaken (Nat.le_refl 2) ?_
    rw [List.append_nil, List.length_append, List.length_cons, List.length_singleton]
    omega
  | ok outcome =>
    by_cases includes : outcome.includes = true
    · simp only [if_pos includes]
      refine handles.weaken (Nat.le_refl 2) ?_
      rw [List.append_nil, List.length_append, List.length_cons, List.length_singleton]
      omega
    · have moved : left = reader.scanner.reservePending.withCursor _ := forward.moved
      have stillNone : left.lookahead = none := by rw [moved]; exact noLookahead
      have excludes := reader.pays_passExcluded next stillNone outcome
      simp only [if_neg includes]
      refine (handles.trans excludes).weaken (Nat.le_refl 2) ?_
      rw [List.length_append, List.length_append, List.length_cons, List.length_singleton]
      omega

theorem cursor_dropPendingIf (drops : Bool) :
    (reader.dropPendingIf drops).scanner.cursor = reader.scanner.cursor := by
  cases drops <;> rfl

theorem pays_readToken (noLookahead : reader.scanner.lookahead = none) (afterLineComment : Bool) :
    Cursor.Pays 9 1 (reader.readingMoments afterLineComment).length reader.scanner.cursor
      (reader.readToken afterLineComment).2.scanner.cursor := by
  fun_induction readingMoments reader afterLineComment with
  | case1 reader afterLineComment after error failed =>
    rw [readToken_of_error failed]
    exact reader.scanner.cursor.pays_readToken 9
  | case2 reader afterLineComment after token read unhandled lookahead =>
    rw [readToken_of_handlerFor_none read unhandled]
    exact reader.scanner.cursor.pays_readToken 9
  | case3 reader afterLineComment after token read conditional attached handled handling stop
      failed =>
    have passed := Cursor.length_rest_readToken_lt read (handler_of_handlerFor attached).2
    have handles : Cursor.Pays 9 7 _ after.scanner.cursor handled.2.scanner.cursor :=
      (after.pays_handleDirective conditional noLookahead token).weaken (by decide) (Nat.le_refl _)
    simp only [handled, after] at failed
    simp only [readToken_of_handlerFor read attached, failed]
    refine handles.of_lt passed ?_
    rw [List.length_cons]
    omega
  | case4 reader afterLineComment after token read conditional attached handled handling clears ok
      inductionHypothesis =>
    have passed := Cursor.length_rest_readToken_lt read (handler_of_handlerFor attached).2
    have handles : Cursor.Pays 9 7 _ after.scanner.cursor handled.2.scanner.cursor :=
      (after.pays_handleDirective conditional noLookahead token).weaken (by decide) (Nat.le_refl _)
    have stillNone : handled.2.scanner.lookahead = none := by
      rcases (after.leaves_handleDirective conditional noLookahead token).reader with
        ⟨_, _, _, _, left⟩
      exact (congrArg (fun reader => reader.scanner.lookahead) left).trans noLookahead
    have dropped := handled.2.forward_dropPendingIf clears
    have later := inductionHypothesis (dropped.keeps.lookahead.trans stillNone)
    rw [cursor_dropPendingIf] at later
    simp only [handled, after] at ok
    simp only [readToken_of_handlerFor read attached, ok]
    refine (handles.trans later).of_lt passed ?_
    rw [List.length_append, List.length_cons, List.length_cons]
    omega

theorem pays_peek :
    Cursor.Pays 9 1 reader.peekMoments.length reader.scanner.cursor
      reader.peek.2.scanner.cursor := by
  cases cached : reader.scanner.lookahead with
  | some lookahead =>
    simp only [peekMoments, peek, cached]
    exact .of_few _ (Nat.zero_le 1)
  | none =>
    have reads := reader.pays_readToken cached false
    rcases shape : reader.readToken false with ⟨result, after⟩
    rw [shape] at reads
    simp only [peekMoments, peek, cached, shape]
    cases result <;> exact reads

/-- Taking a token takes at most nine operations for each character that is passed, and two more. -/
theorem pays_next :
    Cursor.Pays 9 2 reader.nextMoments.length reader.scanner.cursor
      reader.next.2.scanner.cursor := by
  have peeks := reader.pays_peek
  unfold nextMoments next
  rcases shape : reader.peek with ⟨result, after⟩
  rw [shape] at peeks
  cases result with
  | error stop => exact peeks.weaken (Nat.le_refl 9) (by simp)
  | ok token => exact peeks.weaken (Nat.le_refl 9) (by simp)

end Reader
end HeaderScan
