import HeaderScan.Proofs.Reader.Disabling
import HeaderScan.Proofs.Reader.Restoring
import HeaderScan.Proofs.Reader.Safety
import HeaderScan.Proofs.Reader.Work
import HeaderScan.Proofs.Tiling

namespace HeaderScan

/-!
Progress.

The place from which a reader goes on never lies further back than before, whatever is asked of it,
unless it goes back to a place that it remembers (`Reader.advances_answer`).  A token that is taken
lies in front of that place and is not empty, so that the tokens come one behind the other and only
so many of them.  At the end of the source there is nothing further on: from there on nothing comes
but the end of the file (`Reader.next_progress`).
-/

variable {source : List Char}

/-- The request is one to go back to a remembered place. -/
def Request.asksBack {σ : Type} : Request σ → Bool
  | .command _ .restore => true
  | _ => false

/-- The request does not make the reader go back to a remembered place, although it may ask. -/
def Request.GoesOn {σ : Type} (request : Request σ) (answered : Answered source σ) : Prop :=
  request.asksBack = true -> answered.reply.isOk = false

/-! ## The place from which a scanner goes on -/

namespace Scanner

variable {scanner after : Scanner source}

/-- The lookahead is the token that is read in front of it, and the cursor stands behind it. -/
def PassesLookahead (scanner : Scanner source) : Prop :=
  ∀ lookahead, scanner.lookahead = some lookahead ->
    lookahead.before.readToken.1 = .ok lookahead.token ∧
      lookahead.before.readToken.2.offset ≤ scanner.cursor.offset

theorem passesLookahead_of_none (noLookahead : scanner.lookahead = none) :
    scanner.PassesLookahead := by
  intro lookahead cached
  cases noLookahead.symm.trans cached

theorem PassesLookahead.position_le (passes : scanner.PassesLookahead) :
    scanner.position.offset ≤ scanner.cursor.offset := by
  unfold position inputCursor
  cases cached : scanner.lookahead with
  | none => exact Nat.le_refl _
  | some lookahead =>
    exact Nat.le_trans lookahead.before.precedes_readToken.offset_le (passes lookahead cached).2

/-- The scanner goes on from no earlier place than before. -/
structure Advances (before after : Scanner source) : Prop where
  passes : after.PassesLookahead
  further : before.position.offset ≤ after.position.offset

theorem Advances.trans {first second third : Scanner source} (early : first.Advances second)
    (late : second.Advances third) : first.Advances third :=
  ⟨late.passes, Nat.le_trans early.further late.further⟩

theorem advances_of_same (passes : scanner.PassesLookahead)
    (sameCursor : after.cursor = scanner.cursor)
    (sameLookahead : after.lookahead = scanner.lookahead) : scanner.Advances after where
  passes := by
    unfold PassesLookahead
    rw [sameCursor, sameLookahead]
    exact passes
  further := by
    unfold position inputCursor
    rw [sameCursor, sameLookahead]

/-- Without a lookahead the scanner goes on from its cursor. -/
theorem advances_of_noLookahead (noLookahead : after.lookahead = none)
    (further : scanner.position.offset ≤ after.cursor.offset) : scanner.Advances after where
  passes := passesLookahead_of_none noLookahead
  further := by
    have place : after.inputCursor = after.cursor := by rw [inputCursor, noLookahead]
    rw [← place] at further
    exact further

theorem advances_rewind (scanner : Scanner source) {cursor : Cursor source}
    (reaches : scanner.rewind.cursor.offset ≤ cursor.offset) :
    scanner.Advances (scanner.rewind.withCursor cursor) := by
  refine advances_of_noLookahead scanner.lookahead_rewind ?_
  rw [cursor_rewind] at reaches
  exact reaches

theorem advances_passTrivia (passes : scanner.PassesLookahead) :
    scanner.Advances scanner.passTrivia.2 where
  passes lookahead cached := by
    rcases passes lookahead cached with ⟨read, behind⟩
    exact ⟨read, Nat.le_trans behind scanner.cursor.precedes_passTrivia.offset_le⟩
  further := position_le_of_moves scanner.cursor.precedes_passTrivia.offset_le

theorem advances_readRawText (scanner : Scanner source) (terminator : Char)
    (options : RawTextOptions) :
    scanner.Advances (scanner.readRawText terminator options).2 := by
  have keeps := scanner.keeps_readRawText terminator options
  refine advances_of_noLookahead (keeps.lookahead.trans scanner.lookahead_rewind) ?_
  have passed := scanner.rewind.cursor.precedes_passTrivia.offset_le
  change scanner.inputCursor.offset ≤ _
  rw [← cursor_rewind]
  unfold readRawText
  rcases shape : scanner.rewind.passTrivia with ⟨result, behind⟩
  have place : scanner.rewind.cursor.passTrivia.2 = behind.cursor :=
    congrArg (fun result => result.2.cursor) shape
  rw [place] at passed
  cases result with
  | error error => exact passed
  | ok =>
    exact Nat.le_trans passed (behind.cursor.precedes_readRawText terminator options).offset_le

/-- An operation that may be refused. -/
theorem advances_attempt (passes : scanner.PassesLookahead)
    {result : Except ScanError (Scanner source)}
    (ok : ∀ after, result = .ok after -> scanner.Advances after) :
    scanner.Advances (scanner.attempt (result.mapError .failure)).2 := by
  cases result with
  | error error => exact advances_of_same passes rfl rfl
  | ok after => exact ok after rfl

/-- An operation about recording is refused, or does nothing else. -/
theorem advances_recording (passes : scanner.PassesLookahead)
    (only : ∃ recording, after = { scanner with recording := recording }) :
    scanner.Advances after := by
  rcases only with ⟨recording, rfl⟩
  exact advances_of_same passes rfl rfl

theorem advances_consume (passes : scanner.PassesLookahead) : scanner.Advances scanner.consume :=
  advances_of_noLookahead rfl passes.position_le

/-- A command that reads no tokens and does not go back. -/
theorem advances_perform (passes : scanner.PassesLookahead) (about : Token) {command : Command}
    (noTokens : command.readsTokens = false)
    (goesOn : command = .restore -> scanner.saved = none) :
    scanner.Advances (scanner.perform about command).2 := by
  have same : scanner.Advances scanner := advances_of_same passes rfl rfl
  cases command with
  | next | peek | drain => cases noTokens
  | consume => exact advances_consume passes
  | setLine line => exact scanner.advances_rewind (Nat.le_refl _)
  | passTrivia => exact advances_passTrivia passes
  | readLine => exact scanner.advances_rewind scanner.rewind.cursor.precedes_readLine.offset_le
  | readRawText terminator options => exact scanner.advances_readRawText terminator options
  | view | sourceSize | isFirst | isFirstAt | recorded => exact same
  | clearComments | disableComments | commitComments => exact advances_of_same passes rfl rfl
  | enableComments =>
    rw [perform]
    cases done : scanner.enableComments with
    | error stop => exact same
    | ok after =>
      rw [enableComments_of_ok done]
      exact advances_of_same passes rfl rfl
  | save =>
    refine advances_attempt passes ?_
    intro after done
    have unmoved := save_of_ok done
    exact advances_of_same passes unmoved.2.1 unmoved.1
  | restore =>
    rw [perform, Scanner.restore, goesOn rfl]
    exact same
  | abandon =>
    refine advances_attempt passes ?_
    intro after done
    rw [abandon_of_ok done]
    refine advances_of_noLookahead scanner.lookahead_rewind ?_
    exact Nat.le_of_eq (congrArg Cursor.offset scanner.cursor_rewind.symm)
  | enableRecording =>
    exact advances_attempt passes fun _ done =>
      advances_recording passes (enableRecording_of_ok done)
  | disableRecording =>
    exact advances_attempt passes fun _ done =>
      advances_recording passes (disableRecording_of_ok done)
  | record =>
    exact advances_attempt passes fun _ done => advances_recording passes (record_of_ok done)

/-- Going back leaves no lookahead. -/
theorem passesLookahead_restore (passes : scanner.PassesLookahead) (about : Token) :
    (scanner.perform about .restore).2.PassesLookahead := by
  rw [perform, Scanner.restore]
  cases scanner.saved with
  | none => exact passes
  | some snapshot => exact passesLookahead_of_none rfl

end Scanner

/-! ## The place from which a reader goes on -/

namespace Reader

variable {reader after : Reader source Conditional}

theorem advances_peek (passes : reader.scanner.PassesLookahead) :
    reader.scanner.Advances reader.peek.2.scanner := by
  unfold peek
  cases cached : reader.scanner.lookahead with
  | some lookahead => exact Scanner.advances_of_same passes rfl rfl
  | none =>
    have reads := reader.forward_readToken cached false
    have moved := reads.forward.cursor.offset_le
    have goesOn : reader.scanner.inputCursor = reader.scanner.cursor := by
      rw [Scanner.inputCursor, cached]
    rw [← goesOn] at moved
    rcases shape : reader.readToken false with ⟨result, after⟩
    rw [shape] at reads moved
    cases result with
    | error stop =>
      have stillNone : after.scanner.lookahead = none := reads.forward.keeps.lookahead.trans cached
      exact Scanner.advances_of_noLookahead stillNone moved
    | ok lookahead =>
      rcases reads.lookahead lookahead rfl with ⟨precedes, read⟩
      have behind := precedes.offset_le
      rw [← goesOn] at behind
      refine ⟨?_, behind⟩
      intro other isOther
      rw [← Option.some.inj isOther, read]
      exact ⟨rfl, Nat.le_refl _⟩

theorem advances_next (passes : reader.scanner.PassesLookahead) :
    reader.scanner.Advances reader.next.2.scanner := by
  have peeks := advances_peek passes
  unfold next
  rcases shape : reader.peek with ⟨result, after⟩
  rw [shape] at peeks
  cases result with
  | error stop => exact peeks
  | ok token => exact peeks.trans (Scanner.advances_consume peeks.passes)

theorem advances_drain (passes : reader.scanner.PassesLookahead) :
    reader.scanner.Advances reader.drain.2.scanner := by
  fun_induction drain reader with
  | case1 reader => exact advances_next passes
  | case2 reader => exact advances_next passes
  | case3 reader after token taken first notEnd later last rest inductionHypothesis =>
    have takes := advances_next passes
    have drains := inductionHypothesis takes.passes
    rw [rest] at drains
    exact takes.trans drains

/-- Going back is refused only where no place is remembered. -/
theorem saved_of_goesOn {about : Token}
    (goesOn : (Request.command about .restore).GoesOn (reader.answer (.command about .restore))) :
    reader.scanner.saved = none := by
  cases saved : reader.scanner.saved with
  | none => rfl
  | some snapshot =>
    have refused : (reader.attempt reader.restore).1.isOk = false := goesOn rfl
    rw [Reader.restore, Scanner.restore, saved] at refused
    cases refused

theorem advances_answer (passes : reader.scanner.PassesLookahead) {request : Request Conditional}
    (goesOn : request.GoesOn (reader.answer request)) :
    reader.scanner.Advances (reader.answer request).reader.scanner := by
  cases request with
  | attach | detach => exact Scanner.advances_of_same passes rfl rfl
  | command about command =>
    by_cases noTokens : command.readsTokens = false
    · change reader.scanner.Advances (reader.perform about command).2.scanner
      rw [reader.scanner_perform about noTokens]
      refine Scanner.advances_perform passes about noTokens ?_
      rintro rfl
      exact saved_of_goesOn goesOn
    · cases command with
      | next => exact advances_next passes
      | peek => exact advances_peek passes
      | drain => exact advances_drain passes
      | _ => exact absurd rfl noTokens

theorem advances_after (passes : reader.scanner.PassesLookahead)
    {requests : List (Request Conditional)}
    (goOn : List.Forall₂ Request.GoesOn requests (reader.run requests)) :
    reader.scanner.Advances (reader.after requests).scanner := by
  induction requests generalizing reader with
  | nil => exact Scanner.advances_of_same passes rfl rfl
  | cons request later inductionHypothesis =>
    cases goOn with
    | cons first others =>
      have advances := advances_answer passes first
      exact advances.trans (inductionHypothesis advances.passes others)

/-- Whatever is asked of a reader, its cursor stands behind its lookahead. -/
theorem passesLookahead_answer (passes : reader.scanner.PassesLookahead)
    (request : Request Conditional) :
    (reader.answer request).reader.scanner.PassesLookahead := by
  by_cases asksBack : request.asksBack = true
  · unfold Request.asksBack at asksBack
    split at asksBack
    next about =>
      change (reader.perform about .restore).2.scanner.PassesLookahead
      rw [reader.scanner_perform about rfl]
      exact Scanner.passesLookahead_restore passes about
    · cases asksBack
  · exact (advances_answer passes fun asks => absurd asks asksBack).passes

theorem IsReachable.passesLookahead (reachable : reader.IsReachable) :
    reader.scanner.PassesLookahead := by
  rcases reachable with ⟨handler, requests, rfl⟩
  have starts : (ofSource source handler).scanner.PassesLookahead :=
    Scanner.passesLookahead_of_none rfl
  generalize ofSource source handler = reader at starts
  induction requests generalizing reader with
  | nil => exact starts
  | cons request later inductionHypothesis =>
    exact inductionHypothesis _ (passesLookahead_answer starts request)

end Reader

/-! ## Tokens -/

/-- A token stands at a place or behind it.  Only the end of the file is empty, and it stands at the
end of the source. -/
structure Token.LiesAhead (source : List Char) (token : Token) (place : Nat) : Prop where
  start : place ≤ token.span.start
  nonempty : token.kind ≠ .endOfFile -> token.span.start < token.span.stop
  atEnd : token.kind = .endOfFile -> token.span = .point (Text.byteLength source)

theorem Cursor.liesAhead_readToken {cursor : Cursor source} {token : Token}
    (read : cursor.readToken.1 = .ok token) : token.LiesAhead source cursor.offset where
  start := by
    rw [(slice_readToken read).1]
    exact cursor.precedes_afterTrivia.offset_le
  nonempty := span_readToken_nonempty read
  atEnd isEnd := by
    have place := place_readToken read
    rw [place.1, offset_of_rest_eq_nil (place.2.2.2.mp isEnd),
      offset_of_rest_eq_nil (rest_readToken_of_endOfFile read isEnd)]
    rfl

namespace Reader

variable {reader : Reader source Conditional} {token : Token}

/-- The reader goes on behind a token that it has taken. -/
theorem liesAhead_next (passes : reader.scanner.PassesLookahead)
    (taken : reader.next.1 = .ok token) :
    token.LiesAhead source reader.scanner.position.offset ∧
      token.span.stop ≤ reader.next.2.scanner.position.offset := by
  rw [next_fst] at taken
  rcases lookahead_peek taken with ⟨before, isLookahead⟩
  have advances := advances_peek passes
  rcases advances.passes _ isLookahead with ⟨read, behind⟩
  have further := advances.further
  have place : reader.peek.2.scanner.inputCursor = before := by
    rw [Scanner.inputCursor, isLookahead]
  have liesAhead := Cursor.liesAhead_readToken read
  refine ⟨{ liesAhead with start := ?_ }, ?_⟩
  · rw [Scanner.position, Scanner.position, place] at further
    exact Nat.le_trans further liesAhead.start
  · have consumed : reader.next.2.scanner = reader.peek.2.scanner.consume := by
      unfold next
      rcases shape : reader.peek with ⟨result, after⟩
      rw [shape] at taken
      cases taken
      rfl
    rw [consumed, (Cursor.slice_readToken read).2.1]
    exact behind

/-- What a drain gives: tokens one behind the other, and not too many of them. -/
structure DrainsAhead (reader : Reader source Conditional) (drained : Drained) : Prop where
  start : ∀ token ∈ drained.tokens, reader.scanner.position.offset ≤ token.span.start
  ordered : drained.tokens.Pairwise fun first second => first.span.stop ≤ second.span.start
  calls : drained.taken.length + drained.stop.toList.length + reader.scanner.position.offset ≤
    Text.byteLength source + 1

theorem drainsAhead_drain (passes : reader.scanner.PassesLookahead) :
    reader.DrainsAhead reader.drain.1 := by
  have within : ∀ reader : Reader source Conditional,
      1 + reader.scanner.position.offset ≤ Text.byteLength source + 1 := fun reader => by
    have := reader.scanner.inputCursor.offset_le
    change 1 + reader.scanner.inputCursor.offset ≤ _
    omega
  fun_induction drain reader with
  | case1 reader after stop failed =>
    exact ⟨by rintro _ ⟨⟩, .nil, within reader⟩
  | case2 reader after token taken first atEnd =>
    refine ⟨?_, List.pairwise_singleton _ _, within reader⟩
    intro other member
    rw [List.mem_singleton.mp member]
    exact (liesAhead_next passes taken).1.start
  | case3 reader after token taken first notEnd later last rest inductionHypothesis =>
    have drains := inductionHypothesis (advances_next passes).passes
    rw [rest] at drains
    rcases liesAhead_next passes taken with ⟨liesAhead, behind⟩
    have start := liesAhead.start
    have passed : reader.scanner.position.offset < after.scanner.position.offset :=
      Nat.lt_of_lt_of_le (Nat.lt_of_le_of_lt start (liesAhead.nonempty notEnd)) behind
    refine ⟨?_, List.pairwise_cons.mpr ⟨?_, drains.ordered⟩, ?_⟩
    · intro other member
      rcases List.mem_cons.mp member with rfl | isLater
      · exact start
      · exact Nat.le_trans (Nat.le_of_lt passed) (drains.start other isLater)
    · exact fun other isLater => Nat.le_trans behind (drains.start other isLater)
    · have calls : later.taken.length + later.stop.toList.length + after.scanner.position.offset ≤
          Text.byteLength source + 1 := drains.calls
      change (first :: later.taken).length + later.stop.toList.length + _ ≤ _
      rw [List.length_cons]
      omega

/-- A reader at the end of the source has nothing but the end of the file to give. -/
theorem peek_of_atEnd (passes : reader.scanner.PassesLookahead)
    (atEnd : Text.byteLength source ≤ reader.scanner.position.offset) :
    reader.peek.1 = .ok (Flow.endToken reader.scanner.inputCursor) := by
  have nothing : reader.scanner.inputCursor.rest = [] := by
    by_contra unread
    exact Nat.not_lt.mpr atEnd (Cursor.offset_lt_of_rest_ne_nil unread)
  have read := congrArg Prod.fst (Flow.readToken_of_rest_eq_nil nothing)
  unfold peek
  cases cached : reader.scanner.lookahead with
  | some lookahead =>
    have place : reader.scanner.inputCursor = lookahead.before := by
      rw [Scanner.inputCursor, cached]
    rw [place] at read ⊢
    exact congrArg Except.ok (Except.ok.inj ((passes lookahead cached).1.symm.trans read))
  | none =>
    have place : reader.scanner.inputCursor = reader.scanner.cursor := by
      rw [Scanner.inputCursor, cached]
    rw [place] at read ⊢
    have unhandled : reader.handlerFor (Flow.endToken reader.scanner.cursor) = none := rfl
    rw [readToken_of_handlerFor_none read unhandled]

/-- A token has been taken for good: all that is read later stands behind it, and behind the end of
the file nothing but the end of the file is ever read. -/
structure IsPast (reader : Reader source Conditional) (token : Token) : Prop where
  order : ∀ other, reader.next.1 = .ok other ∨ reader.peek.1 = .ok other ->
    token.span.stop ≤ other.span.start
  sticky : token.kind = .endOfFile -> ∃ last, reader.next.1 = .ok last ∧
    reader.peek.1 = .ok last ∧ last.kind = .endOfFile ∧
    last.span = .point (Text.byteLength source)

theorem isPast_of_position_le (passes : reader.scanner.PassesLookahead)
    (behind : token.span.stop ≤ reader.scanner.position.offset)
    (atEnd : token.kind = .endOfFile -> token.span = .point (Text.byteLength source)) :
    reader.IsPast token where
  order other found := by
    have taken : reader.next.1 = .ok other := by
      rcases found with taken | looked
      · exact taken
      · exact reader.next_fst.trans looked
    exact Nat.le_trans behind (liesAhead_next passes taken).1.start
  sticky isEnd := by
    rw [atEnd isEnd] at behind
    have looked := peek_of_atEnd passes behind
    have last := (liesAhead_next passes (reader.next_fst.trans looked)).1
    exact ⟨_, reader.next_fst.trans looked, looked, rfl, last.atEnd rfl⟩

/-- Whatever has been asked of a reader, taking a token comes to an end, with at most nine
operations for each character that is passed and two more.  A token that is taken is not empty, and
all that is taken or looked at later stands behind it, whatever is asked meanwhile, until the reader
goes back to a place that it remembers.  So a drain takes at most one token for each byte and one
more, and behind the end of the file there is nothing but the end of the file. -/
theorem next_progress (reader : Reader source Conditional) (reachable : reader.IsReachable) :
    reader.scanner.Leads reader.nextMoments reader.next.2.scanner ∧
      reader.nextMoments.length + 9 * reader.next.2.scanner.cursor.rest.length ≤
        9 * reader.scanner.cursor.rest.length + 2 ∧
      (∀ stop, reader.next.1 = .error stop -> ∃ error, stop = .failure error) ∧
      reader.DrainsAhead reader.drain.1 ∧
      ∀ token, reader.next.1 = .ok token ->
        token.LiesAhead source reader.scanner.position.offset ∧
          ∀ requests, List.Forall₂ Request.GoesOn requests (reader.next.2.run requests) ->
            (reader.next.2.after requests).IsPast token := by
  have passes := reachable.passesLookahead
  have stands := reachable.stands
  refine ⟨leads_nextMoments stands.scanner.reserved, reader.pays_next.paid, ?_,
    drainsAhead_drain passes, ?_⟩
  · intro stop stopped
    rcases (stands.looksAt_next fun _ _ _ => trivial).stop stop stopped with ⟨error, isFailure, _⟩
    exact ⟨error, isFailure⟩
  · intro token taken
    rcases liesAhead_next passes taken with ⟨liesAhead, behind⟩
    refine ⟨liesAhead, ?_⟩
    intro requests goOn
    have advances := advances_after (advances_next passes).passes goOn
    exact isPast_of_position_le advances.passes (Nat.le_trans behind advances.further)
      liesAhead.atEnd

/-- The end of the file is taken behind a directive of three lines and excluded code; then the
remembered place is forgotten, going back to it is tried, and the handler is exchanged. -/
theorem next_progress_at_end :
    let source := "#if 1 /* a\n */ \\\n\nb\n#elif 1\nUCLASS #if\n#endif // c".toList
    let reader := (ofSource source (some (Conditional.ofSymbols .initial))).after
      [.command .absent .save, .command .absent .next]
    let requests : List (Request Conditional) :=
      [.command .absent .abandon, .command .absent .restore, .detach, .command .absent .peek,
        .command .absent .readLine, .attach (Conditional.ofSymbols .initial)]
    reader.IsReachable ∧ reader.nextMoments.length = 17 ∧
      ∃ token, reader.next.1 = .ok token ∧ token.kind = .endOfFile ∧
        List.Forall₂ Request.GoesOn requests (reader.next.2.run requests) ∧
        (reader.next.2.after requests).IsPast token := by
  intro source reader requests
  have reachable : reader.IsReachable := ⟨_, _, rfl⟩
  have isEnd : reader.next.1.toOption.map Token.kind = some .endOfFile := by decide +kernel
  have refused : (reader.next.2.run requests)[1]?.map (·.reply.isOk) = some false := by
    decide +kernel
  cases taken : reader.next.1 with
  | error stop =>
    rw [taken] at isEnd
    cases isEnd
  | ok token =>
    rw [taken] at isEnd
    have goOn : List.Forall₂ Request.GoesOn requests (reader.next.2.run requests) :=
      .cons nofun (.cons (fun _ => Option.some.inj refused)
        (.cons nofun (.cons nofun (.cons nofun (.cons nofun .nil)))))
    have past := ((reader.next_progress reachable).2.2.2.2 token taken).2 requests goOn
    exact ⟨reachable, by decide +kernel, token, rfl, Option.some.inj isEnd, goOn, past⟩

end Reader
end HeaderScan
