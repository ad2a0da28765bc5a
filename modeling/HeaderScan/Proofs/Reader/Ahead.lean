import HeaderScan.Proofs.Reader.Place

namespace HeaderScan

/-!
What has been taken from a reader, and what is ahead of it.

A caller may look at a token, put it back, pass the trivia behind it, or set the line.  `Consistent`
is what all of it keeps: what has been taken and what is ahead are together what comes of the
source in a plain drain.  The place in front of the lookahead lies behind every directive that has
been applied, so that no directive is read again from there.
-/

namespace Flow

/-- Adds several tokens in front of the others. -/
def emitAll (tokens : List Token) (flow : Flow) : Flow :=
  { flow with tokens := tokens ++ flow.tokens }

/-- The flow with its last token a number of times more. -/
def extend (flow : Flow) (times : Nat) (last : Token) : Flow :=
  { flow with tokens := flow.tokens ++ List.replicate times last }

theorem Same.emitAll {first second : Flow} (same : Same first second) (tokens : List Token) :
    Same (first.emitAll tokens) (second.emitAll tokens) where
  tokens := by
    simp only [Flow.emitAll, List.map_append, same.tokens]
  stop := same.stop
  findings := same.findings
  boundaries := same.boundaries

theorem Same.noError {first second : Flow} (same : Same first second)
    (noError : second.stop = none) : first.stop = none := by
  have ends := same.stop
  rw [noError] at ends
  exact Option.isNone_iff_eq_none.mp ends

theorem emitAll_concat (flow : Flow) (tokens : List Token) (token : Token) :
    flow.emitAll (tokens ++ [token]) = (flow.emit token).emitAll tokens := by
  simp [emitAll, emit]

/-- Where one token is left, it is taken once more than the flow says. -/
theorem Same.extend_succ {ahead plain : Flow} {taken : List Token} {token last : Token}
    {times : Nat} (whole : Same (ahead.emitAll taken) (plain.extend times last))
    (single : ahead.tokens = [token]) (sameLast : token.content = last.content) :
    Same (ahead.emitAll (taken ++ [token])) (plain.extend (times + 1) last) where
  tokens := by
    have before := whole.tokens
    simp only [Flow.emitAll, Flow.extend, single, List.map_append, List.map_replicate,
      List.map_cons, List.map_nil, sameLast] at before ⊢
    rw [before, List.replicate_succ', List.append_assoc]
  stop := whole.stop
  findings := whole.findings
  boundaries := whole.boundaries

end Flow

namespace Reader

variable {source : List Char}

/-- What comes of the source from where reading goes on, behind all that the reader has found. -/
def ahead (reader : Reader source Journaled) : Flow :=
  reader.flowFrom reader.scanner.inputCursor

/-- The last token of every source. -/
def lastToken (source : List Char) : Token :=
  .atStart .endOfFile (.point (Text.byteLength source)) 0 0 ""

/-- How often the end of the file is among the tokens. -/
def ends (tokens : List Token) : Nat :=
  tokens.countP fun token => token.kind == .endOfFile

theorem ends_concat_of_endOfFile (tokens : List Token) {token : Token}
    (atEnd : token.kind = .endOfFile) : ends (tokens ++ [token]) = ends tokens + 1 := by
  simp [ends, atEnd]

theorem ends_concat_of_ne (tokens : List Token) {token : Token}
    (notEnd : token.kind ≠ .endOfFile) : ends (tokens ++ [token]) = ends tokens := by
  simp [ends, notEnd]

/-- The invariant: what has been taken and what is ahead are together what comes of a plain drain,
with the end of the file as often again as it has been taken.  Nothing but trivia is ahead of an
end that has been taken.  A lookahead is the token in front of which reading goes on, and only
trivia lie between it and the cursor. -/
structure Consistent (plain : Flow) (taken : List Token) (reader : Reader source Journaled) :
    Prop where
  flow : Flow.Same (reader.ahead.emitAll taken) (plain.extend (ends taken) (lastToken source))
  noError : reader.ahead.stop = none
  finished : 0 < ends taken -> reader.scanner.inputCursor.afterTrivia.rest = []
  cached : ∀ lookahead, reader.scanner.lookahead = some lookahead ->
    lookahead.before.readToken.1 = .ok lookahead.token ∧
      Flow.deciding source reader.state lookahead.token = none ∧
        lookahead.before.readToken.2.SameAhead reader.scanner.cursor

variable {plain : Flow} {taken : List Token} {reader after : Reader source Journaled}

theorem ahead_of_lookahead {lookahead : Lookahead source}
    (isLookahead : reader.scanner.lookahead = some lookahead) :
    reader.ahead = reader.flowFrom lookahead.before := by
  unfold ahead Scanner.inputCursor
  rw [isLookahead]

theorem ahead_of_lookahead_none (noLookahead : reader.scanner.lookahead = none) :
    reader.ahead = reader.flowFrom reader.scanner.cursor := by
  unfold ahead Scanner.inputCursor
  rw [noLookahead]

/-- Places behind whose trivia stands the same text have the same ahead. -/
theorem same_flowFrom (reader : Reader source Journaled) {first second : Cursor source}
    (sameAhead : first.SameAhead second) :
    Flow.Same (reader.flowFrom first) (reader.flowFrom second) :=
  (Flow.same_run reader.state .included first sameAhead).behind rfl _

/-! ## Commands that take no token -/

/-- At the start of a source nothing has been taken. -/
theorem Consistent.start (reader : Reader source Journaled)
    (noLookahead : reader.scanner.lookahead = none) (noError : reader.ahead.stop = none) :
    Consistent reader.ahead [] reader where
  flow := by
    have same := Flow.Same.refl reader.ahead
    simpa [Flow.emitAll, Flow.extend, ends] using same
  noError := noError
  finished impossible := absurd impossible (Nat.lt_irrefl 0)
  cached lookahead isLookahead := nomatch noLookahead.symm.trans isLookahead

/-- Going on from a place with the same text ahead keeps the invariant. -/
theorem Consistent.moveTo (consistent : Consistent plain taken reader)
    {scanner : Scanner source} (noLookahead : scanner.lookahead = none)
    (sameAhead : reader.scanner.inputCursor.SameAhead scanner.cursor) :
    Consistent plain taken (reader.withScanner scanner) := by
  have place : scanner.inputCursor = scanner.cursor := by
    unfold Scanner.inputCursor
    rw [noLookahead]
  have same : Flow.Same (reader.withScanner scanner).ahead reader.ahead := by
    change Flow.Same (reader.flowFrom scanner.inputCursor) _
    rw [place]
    exact (reader.same_flowFrom sameAhead).symm
  refine ⟨(same.emitAll taken).trans consistent.flow, same.noError consistent.noError, ?_, ?_⟩
  · intro finished
    change scanner.inputCursor.afterTrivia.rest = []
    rw [place, ← sameAhead]
    exact consistent.finished finished
  · intro lookahead isLookahead
    exact nomatch noLookahead.symm.trans isLookahead

/-- With the same lookahead and only trivia between the cursors, the invariant is kept. -/
theorem Consistent.withScanner (consistent : Consistent plain taken reader)
    {scanner : Scanner source} (sameLookahead : scanner.lookahead = reader.scanner.lookahead)
    (sameAhead : reader.scanner.cursor.SameAhead scanner.cursor) :
    Consistent plain taken (reader.withScanner scanner) := by
  cases shape : reader.scanner.lookahead with
  | none =>
    rw [shape] at sameLookahead
    have place : reader.scanner.inputCursor = reader.scanner.cursor := by
      unfold Scanner.inputCursor
      rw [shape]
    rw [← place] at sameAhead
    exact consistent.moveTo sameLookahead sameAhead
  | some lookahead =>
    have sameInput : scanner.inputCursor = reader.scanner.inputCursor := by
      unfold Scanner.inputCursor
      rw [sameLookahead, shape]
    have sameFlow : (reader.withScanner scanner).ahead = reader.ahead := by
      change reader.flowFrom scanner.inputCursor = _
      rw [sameInput]
      rfl
    refine ⟨?_, ?_, ?_, ?_⟩
    · rw [sameFlow]
      exact consistent.flow
    · rw [sameFlow]
      exact consistent.noError
    · intro finished
      change scanner.inputCursor.afterTrivia.rest = []
      rw [sameInput]
      exact consistent.finished finished
    · intro other isOther
      change scanner.lookahead = _ at isOther
      rw [sameLookahead] at isOther
      rcases consistent.cached other isOther with ⟨read, unhandled, between⟩
      exact ⟨read, unhandled, between.trans sameAhead⟩

/-! ## Looking at a token and taking it -/

/-- Where nothing but trivia is ahead, the end of the file is read. -/
theorem endOfFile_of_finished {cursor : Cursor source} (finished : cursor.afterTrivia.rest = []) :
    ∃ token, cursor.readToken.1 = .ok token ∧ token.kind = .endOfFile := by
  have last := Flow.readToken_of_rest_eq_nil finished
  have same := Cursor.sameReading_readToken cursor.sameAhead_afterTrivia.symm
  rcases same.of_ok (congrArg Prod.fst last) with ⟨token, read, sameToken, _⟩
  exact ⟨token, read, (Token.kind_eq_of_content sameToken).symm⟩

/-- The end of the file is the same token wherever it is read. -/
theorem content_of_endOfFile {cursor : Cursor source} {token : Token}
    (read : cursor.readToken.1 = .ok token) (atEnd : token.kind = .endOfFile) :
    token.content = (lastToken source).content := by
  rcases Cursor.place_readToken read with ⟨place, text, moved, isEnd⟩
  have nothing := isEnd.mp atEnd
  have last := Cursor.offset_of_rest_eq_nil nothing
  have stops := Cursor.offset_of_rest_eq_nil (Cursor.rest_readToken_of_endOfFile read atEnd)
  rw [nothing] at text
  have noText : token.text = "" := String.toList_inj.mp text
  rw [Token.content, atEnd, place, last, stops, noText]
  rfl

theorem Reaches.of_noError {flow : Flow}
    {result : Except Stop (Lookahead source) × Reader source Journaled}
    (reaches : Reaches flow result) (noError : flow.stop = none) :
    ∃ lookahead, result.1 = .ok lookahead ∧
      lookahead.before.readToken = (.ok lookahead.token, result.2.scanner.cursor) ∧
        Flow.deciding source result.2.state lookahead.token = none ∧
          flow = result.2.flowFrom lookahead.before := by
  cases reaches with
  | halt halts =>
    rw [halts] at noError
    cases noError
  | token read unhandled goesOn => exact ⟨_, rfl, read, unhandled, goesOn⟩

/-- Behind the end of the file no directive is read, and the place stays where it was. -/
theorem before_of_finished {lookahead : Lookahead source}
    (found : (reader.readToken false).1 = .ok lookahead)
    (finished : reader.scanner.cursor.afterTrivia.rest = []) :
    lookahead.before = reader.scanner.cursor := by
  rcases endOfFile_of_finished finished with ⟨token, read, atEnd⟩
  have unhandled : reader.handlerFor token = none := by
    cases attached : reader.handlerFor token with
    | none => rfl
    | some journaled => exact absurd atEnd (handler_of_handlerFor attached).2
  rw [readToken_of_handlerFor_none read unhandled] at found
  rw [← Except.ok.inj found]

theorem peek_of_readToken {lookahead : Lookahead source}
    (noLookahead : reader.scanner.lookahead = none)
    (reached : reader.readToken false = (.ok lookahead, after)) :
    reader.peek =
      (.ok lookahead.token,
        after.withScanner { after.scanner with lookahead := some lookahead }) := by
  unfold peek
  rw [noLookahead, reached]

/-- Looking at a token succeeds, and the token is ahead as it was. -/
theorem Consistent.peek (consistent : Consistent plain taken reader) :
    reader.peek.2.scanner.disabled = reader.scanner.disabled ∧
      ∃ lookahead, reader.peek.1 = .ok lookahead.token ∧
        reader.peek.2.scanner.lookahead = some lookahead ∧
          Consistent plain taken reader.peek.2 := by
  cases shape : reader.scanner.lookahead with
  | some lookahead =>
    have stays : reader.peek = (.ok lookahead.token, reader) := by
      unfold Reader.peek
      rw [shape]
    rw [stays]
    exact ⟨rfl, lookahead, rfl, shape, consistent⟩
  | none =>
    have follows := reader.flowFrom_readToken shape false
    rw [← ahead_of_lookahead_none shape] at follows
    rcases follows.2.of_noError consistent.noError with
      ⟨lookahead, found, read, unhandled, goesOn⟩
    have reached : reader.readToken false = (.ok lookahead, (reader.readToken false).2) :=
      Prod.ext found rfl
    rw [peek_of_readToken shape reached]
    refine ⟨follows.1.disabled, lookahead, rfl, rfl, ?_, ?_, ?_, ?_⟩
    · have whole := consistent.flow
      rw [goesOn] at whole
      exact whole
    · have noError := consistent.noError
      rw [goesOn] at noError
      exact noError
    · intro finished
      have nothing := consistent.finished finished
      unfold Scanner.inputCursor at nothing
      rw [shape] at nothing
      change lookahead.before.afterTrivia.rest = []
      rw [before_of_finished found nothing]
      exact nothing
    · intro other isOther
      rw [← Option.some.inj isOther]
      refine ⟨congrArg Prod.fst read, unhandled, ?_⟩
      exact Cursor.sameAhead_of_rest (congrArg (·.2.rest) read)

/-- Where nothing but trivia is ahead of a lookahead, the lookahead is the end of the file. -/
theorem Consistent.endOfFile_of_ends (consistent : Consistent plain taken reader)
    {lookahead : Lookahead source} (isLookahead : reader.scanner.lookahead = some lookahead)
    (finished : 0 < ends taken) : lookahead.token.kind = .endOfFile := by
  have nothing := consistent.finished finished
  unfold Scanner.inputCursor at nothing
  rw [isLookahead] at nothing
  rcases endOfFile_of_finished nothing with ⟨token, read, atEnd⟩
  have found := (consistent.cached lookahead isLookahead).1
  rw [Except.ok.inj (found.symm.trans read)]
  exact atEnd

/-- Taking the end of the file changes nothing about what is ahead. -/
theorem Consistent.ahead_consume_of_endOfFile (consistent : Consistent plain taken reader)
    {lookahead : Lookahead source} (isLookahead : reader.scanner.lookahead = some lookahead)
    (atEnd : lookahead.token.kind = .endOfFile) :
    Flow.Same (reader.withScanner reader.scanner.consume).ahead reader.ahead ∧
      reader.ahead.tokens = [lookahead.token] := by
  rcases consistent.cached lookahead isLookahead with ⟨read, _, sameAhead⟩
  have nothing := Cursor.rest_readToken_of_endOfFile read atEnd
  have whole : reader.ahead = ((Flow.halted none reader.state).emit lookahead.token).behind
      reader.findings reader.boundaries := by
    rw [ahead_of_lookahead isLookahead, flowFrom, Flow.run_of_endOfFile read atEnd, if_pos rfl]
  have left : reader.flowFrom lookahead.before.readToken.2 =
      ((Flow.halted none reader.state).emit (Flow.endToken lookahead.before.readToken.2)).behind
        reader.findings reader.boundaries := by
    rw [flowFrom, Flow.run_of_rest_eq_nil nothing]
  have last := content_of_endOfFile
    (congrArg Prod.fst (Flow.readToken_of_rest_eq_nil nothing)) rfl
  have sameToken : (Flow.endToken lookahead.before.readToken.2).content =
      lookahead.token.content := last.trans (content_of_endOfFile read atEnd).symm
  constructor
  · have behind := reader.same_flowFrom sameAhead.symm
    have again := ((Flow.Same.refl (Flow.halted none reader.state)).emit sameToken).behind
      (rfl : reader.findings.map Diagnostic.content = _) reader.boundaries
    rw [← left, ← whole] at again
    exact behind.trans again
  · rw [whole]
    rfl

/-- Taking any other token takes it away from what is ahead. -/
theorem Consistent.ahead_consume_of_ne (consistent : Consistent plain taken reader)
    {lookahead : Lookahead source} (isLookahead : reader.scanner.lookahead = some lookahead)
    (notEnd : lookahead.token.kind ≠ .endOfFile) :
    Flow.Same ((reader.withScanner reader.scanner.consume).ahead.emit lookahead.token)
      reader.ahead := by
  rcases consistent.cached lookahead isLookahead with ⟨read, unhandled, sameAhead⟩
  have whole : reader.ahead =
      (reader.flowFrom lookahead.before.readToken.2).emit lookahead.token := by
    rw [ahead_of_lookahead isLookahead, flowFrom, Flow.run_of_token read notEnd unhandled,
      Flow.emit_behind]
    rfl
  rw [whole]
  exact (reader.same_flowFrom sameAhead.symm).emit rfl

/-- Taking the lookahead moves its token from what is ahead to what has been taken. -/
theorem Consistent.consume (consistent : Consistent plain taken reader)
    {lookahead : Lookahead source} (isLookahead : reader.scanner.lookahead = some lookahead) :
    Consistent plain (taken ++ [lookahead.token])
      (reader.withScanner reader.scanner.consume) := by
  rcases consistent.cached lookahead isLookahead with ⟨read, _, sameAhead⟩
  have noCache : ∀ other, (reader.withScanner reader.scanner.consume).scanner.lookahead ≠
      some other := fun other impossible => nomatch impossible
  by_cases atEnd : lookahead.token.kind = .endOfFile
  · have ends := ends_concat_of_endOfFile taken atEnd
    rcases consistent.ahead_consume_of_endOfFile isLookahead atEnd with ⟨again, single⟩
    have sameLast := content_of_endOfFile read atEnd
    have whole := consistent.flow.extend_succ single sameLast
    refine ⟨?_, again.noError consistent.noError, ?_, fun other isOther =>
      absurd isOther (noCache other)⟩
    · rw [ends]
      exact (again.emitAll _).trans whole
    · intro _
      have nothing := Cursor.rest_readToken_of_endOfFile read atEnd
      change reader.scanner.cursor.afterTrivia.rest = []
      rw [← sameAhead, Cursor.afterTrivia, Cursor.rest_advance, nothing, List.drop_nil]
  · have ends := ends_concat_of_ne taken atEnd
    have later := consistent.ahead_consume_of_ne isLookahead atEnd
    refine ⟨?_, ?_, ?_, fun other isOther => absurd isOther (noCache other)⟩
    · rw [ends, Flow.emitAll_concat]
      exact (later.emitAll taken).trans consistent.flow
    · exact later.noError consistent.noError
    · intro finished
      rw [ends] at finished
      exact absurd (consistent.endOfFile_of_ends isLookahead finished) atEnd

/-- No error is ahead of the cursor, even if a lookahead stands in front of it. -/
theorem Consistent.noError_cursor (consistent : Consistent plain taken reader) :
    (reader.flowFrom reader.scanner.cursor).stop = none := by
  cases shape : reader.scanner.lookahead with
  | none =>
    have noError := consistent.noError
    rw [ahead_of_lookahead_none shape] at noError
    exact noError
  | some lookahead => exact (consistent.consume shape).noError

/-! ## What the invariant says -/

/-- Before the end is taken, what has been taken comes first in a plain drain. -/
theorem Consistent.taken_prefix (consistent : Consistent plain taken reader)
    (unfinished : ends taken = 0) :
    taken.map Token.content <+: plain.tokens.map Token.content := by
  have whole := consistent.flow.tokens
  simp only [Flow.emitAll, Flow.extend, unfinished, List.replicate_zero, List.append_nil,
    List.map_append] at whole
  exact ⟨_, whole⟩

/-- Behind an end that has been taken there is only the end. -/
theorem Consistent.ahead_of_ends (consistent : Consistent plain taken reader)
    (finished : 0 < ends taken) :
    ∃ token, token.content = (lastToken source).content ∧
      reader.ahead = ((Flow.halted none reader.state).emit token).behind reader.findings
        reader.boundaries := by
  rcases endOfFile_of_finished (consistent.finished finished) with ⟨token, read, atEnd⟩
  refine ⟨token, content_of_endOfFile read atEnd, ?_⟩
  rw [ahead, flowFrom, Flow.run_of_endOfFile read atEnd, if_pos rfl]

/-- Once the end is taken, everything is, and the end perhaps several times. -/
theorem Consistent.taken_eq (consistent : Consistent plain taken reader)
    (finished : 0 < ends taken) :
    taken.map Token.content =
      plain.tokens.map Token.content ++
        List.replicate (ends taken - 1) (lastToken source).content := by
  rcases consistent.ahead_of_ends finished with ⟨token, sameLast, left⟩
  have single : reader.ahead.tokens = [token] := by
    rw [left]
    rfl
  have once : ends taken = ends taken - 1 + 1 := (Nat.sub_add_cancel finished).symm
  have whole := consistent.flow.tokens
  simp only [Flow.emitAll, Flow.extend, single, List.map_append, List.map_replicate, List.map_cons,
    List.map_nil, sameLast] at whole
  rw [once, List.replicate_succ', ← List.append_assoc] at whole
  exact List.append_cancel_right whole

/-- What has been found comes first in a plain drain. -/
theorem Consistent.findings_prefix (consistent : Consistent plain taken reader) :
    reader.findings.map Diagnostic.content <+: plain.findings.map Diagnostic.content := by
  have whole := consistent.flow.findings
  simp only [Flow.emitAll, Flow.extend, ahead, flowFrom, Flow.behind, List.map_append] at whole
  exact ⟨_, whole⟩

theorem Consistent.findings_eq (consistent : Consistent plain taken reader)
    (finished : 0 < ends taken) :
    reader.findings.map Diagnostic.content = plain.findings.map Diagnostic.content := by
  rcases consistent.ahead_of_ends finished with ⟨token, _, left⟩
  have whole := consistent.flow.findings
  simp only [Flow.emitAll, Flow.extend, left, Flow.behind, Flow.emit, Flow.halted,
    List.append_nil] at whole
  exact whole

/-- The directives that have been applied come first in a plain drain. -/
theorem Consistent.boundaries_prefix (consistent : Consistent plain taken reader) :
    reader.boundaries <+: plain.boundaries :=
  ⟨_, consistent.flow.boundaries⟩

theorem Consistent.boundaries_eq (consistent : Consistent plain taken reader)
    (finished : 0 < ends taken) : reader.boundaries = plain.boundaries := by
  rcases consistent.ahead_of_ends finished with ⟨token, _, left⟩
  have whole := consistent.flow.boundaries
  simp only [Flow.emitAll, Flow.extend, left, Flow.behind, Flow.emit, Flow.halted,
    List.append_nil] at whole
  exact whole

end Reader
end HeaderScan
