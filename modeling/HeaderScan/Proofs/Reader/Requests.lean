import HeaderScan.Command
import HeaderScan.Proofs.Reader.Forward

namespace HeaderScan

/-!
What a caller may ask of a reader, and where the reader then stands.

A caller performs commands about any token, and attaches and detaches handlers, in any order and
whatever comes of them.  A property of places that moving forwards keeps holds wherever a reader
stands, at the places that it remembers, and at those of which it speaks: `Reader.Stands` says so,
and `Reader.stands_run` says that no request puts an end to it.
-/

/-! ## Requests -/

/-- What can be asked of a reader. -/
inductive Request (σ : Type)
  /-- A command, given a token that the caller has. -/
  | command (about : Token) (command : Command)
  | attach (handler : σ)
  | detach

/-- What has come of a request, and the reader behind it. -/
structure Answered (source : List Char) (σ : Type) where
  reply : Except Stop Reply
  reader : Reader source σ

namespace Answered

variable {source : List Char} {σ : Type}

/-- The tokens that an answer gives as read. -/
def tokens (answered : Answered source σ) : List Token :=
  match answered.reply with
  | .ok (.token token) => [token]
  | .ok (.drained tokens _) => tokens
  | _ => []

/-- The errors that an answer gives. -/
def errors (answered : Answered source σ) : List ScanError :=
  match answered.reply with
  | .error (.failure error) => [error]
  | .ok (.drained _ failure) => failure.toList
  | _ => []

end Answered

namespace Reader

variable {source : List Char} {σ : Type} [DirectiveHandler σ]

/-- Answers one request. -/
def answer (reader : Reader source σ) : Request σ → Answered source σ
  | .command about command =>
    let performed := reader.perform about command
    ⟨performed.1, performed.2⟩
  | .attach handler => ⟨.ok .done, reader.attach handler⟩
  | .detach => ⟨.ok .done, reader.detach⟩

/-- Answers requests one after the other. -/
def run (reader : Reader source σ) : List (Request σ) → List (Answered source σ)
  | [] => []
  | request :: later => reader.answer request :: (reader.answer request).reader.run later

/-- The reader behind several requests. -/
def after (reader : Reader source σ) (requests : List (Request σ)) : Reader source σ :=
  requests.foldl (fun reader request => (reader.answer request).reader) reader

end Reader

/-! ## What is said about places -/

variable {source : List Char}

/-- A position of a place that has a property. -/
def Position.IsAt (property : Cursor source → Prop) (position : Position) : Prop :=
  ∃ place, property place ∧ place.position = position

/-- A token on the way of a place that has a property. -/
def Token.IsAt (property : Cursor source → Prop) (token : Token) : Prop :=
  ∃ place, property place ∧ token.LiesBehind place

/-- An error about a place that has a property. -/
def Stop.IsAt (property : Cursor source → Prop) (stop : Stop) : Prop :=
  ∃ error, stop = .failure error ∧ error.position.IsAt property

/-- All that a reply says is about places that have a property; but what is recorded may also be
the caller's own. -/
def Reply.IsAt (property : Cursor source → Prop) (own : Token → Prop) : Reply → Prop
  | .token taken => taken.IsAt property
  | .drained tokens failure =>
    (∀ taken ∈ tokens, taken.IsAt property) ∧
      ∀ error, failure = some error -> error.position.IsAt property
  | .rawText text => ∃ place, property place ∧ text.toList <+: place.rest
  | .recorded tokens => ∀ taken ∈ tokens, own taken ∨ taken.IsAt property
  | .done | .view _ | .size _ | .truth _ => True

/-- All that comes of a command is about places that have a property. -/
structure ResultIsAt (property : Cursor source → Prop) (own : Token → Prop)
    (result : Except Stop Reply) : Prop where
  reply : ∀ reply, result = .ok reply -> reply.IsAt property own
  failure : ∀ error, result = .error (.failure error) -> error.position.IsAt property

/-- A scanner stands at a place that has a property, and so do the places that it remembers and
the tokens that it has recorded.  Its comments are pieces of the source. -/
structure Scanner.Stands (property : Cursor source → Prop) (own : Token → Prop)
    (scanner : Scanner source) : Prop where
  cursor : property scanner.cursor
  lookahead : ∀ lookahead, scanner.lookahead = some lookahead ->
    property lookahead.before ∧ lookahead.before.readToken.1 = .ok lookahead.token
  saved : ∀ snapshot, scanner.saved = some snapshot ->
    property snapshot.cursor ∧ snapshot.comments.AreFrom source
  comments : scanner.comments.AreFrom source
  recording : ∀ tokens, scanner.recording = some tokens ->
    ∀ token ∈ tokens, own token ∨ token.IsAt property
  reserved : scanner.reserved = 0

/-- A reader stands as its scanner does, and its findings are about such places. -/
structure Reader.Stands {σ : Type} (property : Cursor source → Prop) (own : Token → Prop)
    (reader : Reader source σ) : Prop where
  scanner : reader.scanner.Stands property own
  findings : ∀ finding ∈ reader.findings, finding.position.IsAt property

section Places

variable {property : Cursor source → Prop}

theorem Position.IsBehind.isAt (kept : Cursor.KeptForwards property) {position : Position}
    {cursor : Cursor source} (isBehind : position.IsBehind cursor) (holds : property cursor) :
    position.IsAt property := by
  rcases isBehind with ⟨place, precedes, stands⟩
  exact ⟨place, kept.of_precedes precedes holds, stands⟩

theorem Stop.IsBehind.isAt (kept : Cursor.KeptForwards property) {stop : Stop}
    {cursor : Cursor source} (isBehind : stop.IsBehind cursor) (holds : property cursor) :
    stop.IsAt property := by
  rcases isBehind with ⟨error, rfl, behind⟩
  exact ⟨error, rfl, behind.isAt kept holds⟩

variable {own : Token → Prop}

theorem resultIsAt_ok {reply : Reply} (isAt : reply.IsAt property own) :
    ResultIsAt property own (.ok reply) where
  reply _ same := Except.ok.inj same ▸ isAt
  failure _ failed := nomatch failed

theorem resultIsAt_failure {error : ScanError} (isAt : error.position.IsAt property) :
    ResultIsAt property own (.error (.failure error)) where
  reply _ same := nomatch same
  failure _ failed := Stop.failure.inj (Except.error.inj failed) ▸ isAt

theorem resultIsAt_breach : ResultIsAt property own (.error .breach) where
  reply _ same := nomatch same
  failure _ failed := nomatch failed

theorem resultIsAt_stop {stop : Stop} (isAt : stop.IsAt property) :
    ResultIsAt property own (.error stop) := by
  rcases isAt with ⟨error, rfl, isAt⟩
  exact resultIsAt_failure isAt

end Places

/-! ## The operations of a scanner -/

namespace Scanner

variable {scanner after : Scanner source}

theorem saved_rewind (scanner : Scanner source) : scanner.rewind.saved = scanner.saved := by
  unfold rewind
  split <;> rfl

/-- Reading raw text puts the lookahead back, and reads on from there. -/
theorem keeps_readRawText (scanner : Scanner source) (terminator : Char)
    (options : RawTextOptions) :
    scanner.rewind.Keeps (scanner.readRawText terminator options).2 := by
  unfold readRawText
  rcases shape : scanner.rewind.passTrivia with ⟨result, after⟩
  have passed : scanner.rewind.passTrivia.2 = after := congrArg Prod.snd shape
  rw [← passed]
  cases result <;> exact ⟨rfl, rfl, rfl, rfl⟩

theorem abandon_of_ok (done : scanner.abandon = .ok after) :
    after = { scanner.rewind with saved := none } := by
  unfold abandon at done
  split at done
  · cases done
  · exact (Except.ok.inj done).symm

theorem disabled_restore (done : scanner.restore = .ok after) :
    after.disabled = scanner.disabled := by
  unfold restore at done
  split at done
  · cases done
  · rw [← Except.ok.inj done]

/-- What an operation about recording does if it is not refused. -/
theorem enableRecording_of_ok (done : scanner.enableRecording = .ok after) :
    ∃ recording, after = { scanner with recording := recording } := by
  unfold enableRecording at done
  split at done
  · cases done
  · exact ⟨_, (Except.ok.inj done).symm⟩

theorem disableRecording_of_ok (done : scanner.disableRecording = .ok after) :
    ∃ recording, after = { scanner with recording := recording } := by
  unfold disableRecording at done
  split at done
  · cases done
  · exact ⟨_, (Except.ok.inj done).symm⟩

theorem record_of_ok {token : Token} (done : scanner.record token = .ok after) :
    ∃ recording, after = { scanner with recording := recording } := by
  unfold record at done
  split at done
  · cases done
  · exact ⟨_, (Except.ok.inj done).symm⟩

end Scanner

/-! ## Standing at places -/

namespace Scanner

variable {property : Cursor source → Prop} {own : Token → Prop} {scanner : Scanner source}

theorem Stands.inputCursor (stands : scanner.Stands property own) :
    property scanner.inputCursor := by
  unfold Scanner.inputCursor
  cases cached : scanner.lookahead with
  | none => exact stands.cursor
  | some lookahead => exact (stands.lookahead lookahead cached).1

theorem Stands.misuse (stands : scanner.Stands property own) (cause : ScanError.Cause) :
    (scanner.misuse cause).position.IsAt property :=
  ⟨scanner.inputCursor, stands.inputCursor, rfl⟩

theorem Stands.rewind (stands : scanner.Stands property own) :
    scanner.rewind.Stands property own := by
  cases cached : scanner.lookahead with
  | none =>
    rw [rewind_of_lookahead_none cached]
    exact stands
  | some lookahead =>
    unfold Scanner.rewind
    rw [cached]
    exact { stands with
      cursor := (stands.lookahead lookahead cached).1
      lookahead := fun _ impossible => nomatch impossible
      comments := stands.comments.dropPending }

theorem Stands.passTrivia (stands : scanner.Stands property own)
    (kept : Cursor.KeptForwards property) : scanner.passTrivia.2.Stands property own :=
  { stands with
    cursor := kept.of_precedes scanner.cursor.precedes_passTrivia stands.cursor
    comments := scanner.areFrom_capture false stands.comments }

/-- A lookahead is on the way of the place in front of it. -/
theorem Stands.isAt_lookahead (stands : scanner.Stands property own)
    {lookahead : Lookahead source} (cached : scanner.lookahead = some lookahead) :
    lookahead.token.IsAt property := by
  rcases stands.lookahead lookahead cached with ⟨holds, read⟩
  exact ⟨lookahead.before, holds, Cursor.liesBehind_readToken read⟩

theorem Stands.consume (stands : scanner.Stands property own) :
    scanner.consume.Stands property own where
  cursor := stands.cursor
  lookahead _ impossible := nomatch impossible
  saved := stands.saved
  comments := by
    unfold Scanner.consume
    simp only
    split
    · exact stands.comments.commit
    · exact stands.comments.keepPending _
  recording tokens recorded token member := by
    unfold Scanner.consume at recorded
    cases recording : scanner.recording with
    | none =>
      rw [recording] at recorded
      cases recorded
    | some earlier =>
      cases cached : scanner.lookahead with
      | none =>
        rw [recording, cached] at recorded
        rw [← Option.some.inj recorded] at member
        exact stands.recording earlier recording token member
      | some lookahead =>
        rw [recording, cached] at recorded
        rw [← Option.some.inj recorded] at member
        split at member
        · exact stands.recording earlier recording token member
        · rcases List.mem_append.mp member with isEarlier | isLast
          · exact stands.recording earlier recording token isEarlier
          · rw [List.mem_singleton.mp isLast]
            exact Or.inr (stands.isAt_lookahead cached)
  reserved := stands.reserved

theorem Stands.withLine (stands : scanner.Stands property own) {line : Nat}
    (holds : ∀ cursor, property cursor -> property (cursor.withLine line)) :
    (scanner.withLine line).Stands property own :=
  { stands.rewind with cursor := holds _ stands.rewind.cursor }

theorem Stands.readLine (stands : scanner.Stands property own)
    (kept : Cursor.KeptForwards property) :
    scanner.readLine.2.Stands property own ∧ scanner.readLine.1.IsAt property := by
  have holds := stands.rewind.cursor
  have moved := kept.of_precedes (Cursor.precedes_readLine scanner.rewind.cursor) holds
  exact ⟨{ stands.rewind with cursor := moved }, _, holds, Cursor.liesBehind_readLine _⟩

theorem Stands.resultIsAt_passTrivia (stands : scanner.Stands property own)
    (kept : Cursor.KeptForwards property) :
    ResultIsAt property own
      ((scanner.passTrivia.1.mapError .failure).map fun () => .done) := by
  cases passed : scanner.passTrivia.1 with
  | error error =>
    exact resultIsAt_failure
      ((Cursor.isBehind_failure_passTrivia passed).isAt kept stands.cursor)
  | ok => exact resultIsAt_ok trivial

theorem Stands.readRawText (stands : scanner.Stands property own)
    (kept : Cursor.KeptForwards property) (terminator : Char) (options : RawTextOptions) :
    (scanner.readRawText terminator options).2.Stands property own ∧
      ResultIsAt property own
        (((scanner.readRawText terminator options).1.mapError .failure).map .rawText) := by
  have atTrivia := stands.rewind.passTrivia kept
  have holds := stands.rewind.cursor
  rcases passed : scanner.rewind.passTrivia with ⟨result, after⟩
  have stopped : scanner.rewind.cursor.passTrivia.1 = result := congrArg Prod.fst passed
  rw [passed] at atTrivia
  cases result with
  | error error =>
    have shape : scanner.readRawText terminator options = (.error error, after) := by
      rw [Scanner.readRawText, passed]
    rw [shape]
    exact ⟨atTrivia,
      resultIsAt_failure ((Cursor.isBehind_failure_passTrivia stopped).isAt kept holds)⟩
  | ok =>
    have shape : scanner.readRawText terminator options =
        ((after.cursor.readRawText terminator options).1.map String.ofList,
          after.withCursor (after.cursor.readRawText terminator options).2) := by
      rw [Scanner.readRawText, passed]
    rw [shape]
    have moved := kept.of_precedes (after.cursor.precedes_readRawText terminator options)
      atTrivia.cursor
    refine ⟨{ atTrivia with cursor := moved }, ?_⟩
    cases read : (after.cursor.readRawText terminator options).1 with
    | error error =>
      exact resultIsAt_failure
        ((Cursor.isBehind_failure_readRawText read).isAt kept atTrivia.cursor)
    | ok text =>
      refine resultIsAt_ok ⟨after.cursor, atTrivia.cursor, ?_⟩
      rw [String.toList_ofList]
      exact Cursor.isPrefix_readRawText read

theorem Stands.enableComments (stands : scanner.Stands property own) :
    (scanner.attempt scanner.enableComments).2.Stands property own ∧
      ResultIsAt property own (scanner.attempt scanner.enableComments).1 := by
  unfold Scanner.enableComments
  split
  · exact ⟨stands, resultIsAt_breach⟩
  · exact ⟨{ stands with }, resultIsAt_ok trivial⟩

theorem resultIsAt_view (scanner : Scanner source) (offset size : Nat) :
    ResultIsAt property own ((scanner.view offset size).map .view) := by
  unfold Scanner.view
  split
  · exact resultIsAt_breach
  · exact resultIsAt_ok trivial

/-- What an operation that may be refused does: nothing, with an error at the place where reading
goes on, or something after which the scanner stands as before. -/
structure Attempts (property : Cursor source → Prop) (own : Token → Prop)
    (result : Except ScanError (Scanner source)) : Prop where
  ok : ∀ after, result = .ok after -> after.Stands property own
  error : ∀ error, result = .error error -> error.position.IsAt property

theorem Stands.attempts_misuse (stands : scanner.Stands property own)
    (cause : ScanError.Cause) : Attempts property own (.error (scanner.misuse cause)) where
  ok _ impossible := nomatch impossible
  error _ failed := Except.error.inj failed ▸ stands.misuse cause

theorem attempts_ok {after : Scanner source} (stands : after.Stands property own) :
    Attempts property own (.ok after) where
  ok _ done := Except.ok.inj done ▸ stands
  error _ impossible := nomatch impossible

theorem Stands.attempts_save (stands : scanner.Stands property own) :
    Attempts property own scanner.save := by
  unfold Scanner.save
  split
  · exact stands.attempts_misuse _
  · refine attempts_ok { stands with saved := ?_ }
    intro snapshot isSaved
    rw [← Option.some.inj isSaved]
    refine ⟨stands.inputCursor, ?_⟩
    simp only
    split
    · exact stands.comments.dropPending
    · exact stands.comments

theorem Stands.attempts_restore (stands : scanner.Stands property own) :
    Attempts property own scanner.restore := by
  unfold Scanner.restore
  split
  · exact stands.attempts_misuse _
  next snapshot isSaved =>
    exact attempts_ok { stands with
      cursor := (stands.saved snapshot isSaved).1
      lookahead := fun _ impossible => nomatch impossible
      saved := fun _ impossible => nomatch impossible
      comments := (stands.saved snapshot isSaved).2 }

theorem Stands.attempts_abandon (stands : scanner.Stands property own) :
    Attempts property own scanner.abandon := by
  unfold Scanner.abandon
  split
  · exact stands.attempts_misuse _
  · exact attempts_ok { stands.rewind with saved := fun _ impossible => nomatch impossible }

theorem Stands.attempts_enableRecording (stands : scanner.Stands property own) :
    Attempts property own scanner.enableRecording := by
  unfold Scanner.enableRecording
  split
  · exact stands.attempts_misuse _
  · refine attempts_ok { stands with recording := ?_ }
    intro tokens recorded token member
    rw [← Option.some.inj recorded] at member
    cases member

theorem Stands.attempts_disableRecording (stands : scanner.Stands property own) :
    Attempts property own scanner.disableRecording := by
  unfold Scanner.disableRecording
  split
  · exact stands.attempts_misuse _
  · exact attempts_ok { stands with recording := fun _ impossible => nomatch impossible }

theorem Stands.attempts_record (stands : scanner.Stands property own) {token : Token}
    (isOwn : own token) : Attempts property own (scanner.record token) := by
  unfold Scanner.record
  split
  · exact stands.attempts_misuse _
  next earlier recording =>
    refine attempts_ok { stands with recording := ?_ }
    intro tokens recorded other member
    rw [← Option.some.inj recorded] at member
    rcases List.mem_append.mp member with isEarlier | isLast
    · exact stands.recording earlier recording other isEarlier
    · rw [List.mem_singleton.mp isLast]
      exact Or.inl isOwn

theorem Stands.resultIsAt_recorded (stands : scanner.Stands property own) :
    ResultIsAt property own ((scanner.recorded.mapError .failure).map .recorded) := by
  unfold Scanner.recorded
  split
  · exact resultIsAt_failure (stands.misuse _)
  next tokens recording => exact resultIsAt_ok (stands.recording tokens recording)

end Scanner

/-! ## Reading tokens -/

namespace Reader

variable {property : Cursor source → Prop} {own : Token → Prop}
  {reader after : Reader source Conditional}

/-- What goes forwards stays where the property holds. -/
theorem Stands.forward (stands : reader.Stands property own)
    (kept : Cursor.KeptForwards property) (forward : reader.GoesForward after) :
    after.Stands property own where
  scanner := {
    cursor := kept.of_precedes forward.cursor stands.scanner.cursor
    lookahead := by
      rw [forward.keeps.lookahead]
      exact stands.scanner.lookahead
    saved := by
      rw [forward.keeps.saved]
      exact stands.scanner.saved
    comments := forward.comments stands.scanner.comments
    recording := by
      rw [forward.keeps.recording]
      exact stands.scanner.recording
    reserved := forward.reserved stands.scanner.reserved }
  findings := by
    rcases forward.findings with ⟨found, whole, foundBehind⟩
    intro finding member
    rw [whole] at member
    rcases List.mem_append.mp member with isOld | isNew
    · exact stands.findings finding isOld
    · exact (foundBehind finding isNew).isAt kept stands.scanner.cursor

/-- The reader still stands where the property holds, and the token or the error is about such
a place. -/
structure LooksAt (property : Cursor source → Prop) (own : Token → Prop)
    (result : Except Stop Token × Reader source Conditional) : Prop where
  stands : result.2.Stands property own
  token : ∀ token, result.1 = .ok token -> token.IsAt property
  stop : ∀ stop, result.1 = .error stop -> stop.IsAt property

theorem Stands.looksAt_peek (stands : reader.Stands property own)
    (kept : Cursor.KeptForwards property) : LooksAt property own reader.peek := by
  unfold Reader.peek
  cases cached : reader.scanner.lookahead with
  | some lookahead =>
    refine ⟨stands, ?_, fun _ stopped => nomatch stopped⟩
    intro token found
    rw [← Except.ok.inj found]
    exact stands.scanner.isAt_lookahead cached
  | none =>
    have reads := reader.forward_readToken cached false
    have stillStands := stands.forward kept reads.forward
    rcases shape : reader.readToken false with ⟨result, after⟩
    rw [shape] at reads stillStands
    cases result with
    | error stop =>
      refine ⟨stillStands, (fun _ found => nomatch found), ?_⟩
      intro other stopped
      rw [← Except.error.inj stopped]
      exact (reads.stop stop rfl).isAt kept stands.scanner.cursor
    | ok lookahead =>
      rcases reads.lookahead lookahead rfl with ⟨precedes, read⟩
      have holds := kept.of_precedes precedes stands.scanner.cursor
      have readToken : lookahead.before.readToken.1 = .ok lookahead.token := congrArg Prod.fst read
      refine ⟨⟨{ stillStands.scanner with lookahead := ?_ }, stillStands.findings⟩, ?_,
        fun _ stopped => nomatch stopped⟩
      · intro other isOther
        rw [← Option.some.inj isOther]
        exact ⟨holds, readToken⟩
      · intro token found
        rw [← Except.ok.inj found]
        exact ⟨lookahead.before, holds, Cursor.liesBehind_readToken readToken⟩

theorem Stands.looksAt_next (stands : reader.Stands property own)
    (kept : Cursor.KeptForwards property) : LooksAt property own reader.next := by
  have looks := stands.looksAt_peek kept
  unfold Reader.next
  rcases shape : reader.peek with ⟨result, after⟩
  rw [shape] at looks
  cases result with
  | error stop => exact ⟨looks.stands, (fun _ found => nomatch found), looks.stop⟩
  | ok token =>
    exact ⟨⟨looks.stands.scanner.consume, looks.stands.findings⟩, looks.token,
      fun _ stopped => nomatch stopped⟩

/-- The same of a drain. -/
structure DrainsAt (property : Cursor source → Prop) (own : Token → Prop)
    (result : Drained × Reader source Conditional) : Prop where
  stands : result.2.Stands property own
  tokens : ∀ token ∈ result.1.tokens, token.IsAt property
  stop : ∀ stop, result.1.stop = some stop -> stop.IsAt property

theorem Stands.drainsAt (stands : reader.Stands property own)
    (kept : Cursor.KeptForwards property) : DrainsAt property own reader.drain := by
  fun_induction drain reader with
  | case1 reader after stop failed =>
    have looks := stands.looksAt_next kept
    refine ⟨looks.stands, by rintro _ ⟨⟩, ?_⟩
    intro other stopped
    rw [← Option.some.inj stopped]
    exact looks.stop stop failed
  | case2 reader after token taken first atEnd =>
    have looks := stands.looksAt_next kept
    refine ⟨looks.stands, ?_, by rintro _ ⟨⟩⟩
    intro other member
    rw [List.mem_singleton.mp member]
    exact looks.token token taken
  | case3 reader after token taken first notEnd later last rest inductionHypothesis =>
    have looks := stands.looksAt_next kept
    have drains := inductionHypothesis looks.stands
    rw [rest] at drains
    refine ⟨drains.stands, ?_, drains.stop⟩
    intro other member
    rcases List.mem_cons.mp member with isFirst | isLater
    · rw [isFirst]
      exact looks.token token taken
    · exact drains.tokens other isLater

theorem DrainsAt.resultIsAt {result : Drained × Reader source Conditional}
    (drains : DrainsAt property own result) :
    ResultIsAt property own (Reply.ofDrained result.1) := by
  unfold Reply.ofDrained
  cases stopped : result.1.stop with
  | none => exact resultIsAt_ok ⟨drains.tokens, fun _ impossible => nomatch impossible⟩
  | some stop =>
    rcases drains.stop stop stopped with ⟨error, rfl, isAt⟩
    refine resultIsAt_ok ⟨drains.tokens, ?_⟩
    intro other same
    rw [← Option.some.inj same]
    exact isAt

end Reader

/-! ## Answers -/

/-- What every answer does: the reader still stands where the property holds, and the reply is
about such places. -/
structure Answered.Stands {σ : Type} (property : Cursor source → Prop) (own : Token → Prop)
    (answered : Answered source σ) : Prop where
  reader : answered.reader.Stands property own
  reply : ResultIsAt property own answered.reply

/-- The caller sets only lines for which the property holds, and records no token but its own. -/
def Request.Respects {σ : Type} (property : Cursor source → Prop) (own : Token → Prop) :
    Request σ → Prop
  | .command _ (.setLine line) => ∀ cursor, property cursor -> property (cursor.withLine line)
  | .command about .record => own about
  | _ => True

theorem Request.respects_true {σ : Type} (source : List Char) (request : Request σ) :
    request.Respects (fun _ : Cursor source => True) fun _ => True := by
  unfold Respects
  split
  · exact fun _ _ => trivial
  · trivial
  · trivial

/-- A request leaves room for lines, if it sets none from which they cannot be counted. -/
theorem Request.respects_hasRoom {σ : Type} {source : List Char} {request : Request σ}
    (lines : ∀ about line, request = .command about (.setLine line) ->
      line + source.count '\n' < countLimit) :
    request.Respects (Cursor.HasRoom : Cursor source → Prop) fun _ => True := by
  unfold Respects
  split
  next about line => exact fun cursor _ => Cursor.hasRoom_withLine (lines about line rfl) cursor
  · trivial
  · trivial

namespace Reader

variable {property : Cursor source → Prop} {own : Token → Prop}
  {reader after : Reader source Conditional}

theorem LooksAt.answered {result : Except Stop Token × Reader source Conditional}
    (looks : LooksAt property own result) :
    Answered.Stands property own ⟨result.1.map .token, result.2⟩ := by
  refine ⟨looks.stands, ?_⟩
  cases shape : result.1 with
  | error stop => exact resultIsAt_stop (looks.stop stop shape)
  | ok token => exact resultIsAt_ok (looks.token token shape)

/-- A command that its scanner performs. -/
theorem Stands.answered (stands : reader.Stands property own) {scanner : Scanner source}
    (scannerStands : scanner.Stands property own) {result : Except Stop Reply}
    (isAt : ResultIsAt property own result) :
    Answered.Stands property own ⟨result, reader.withScanner scanner⟩ :=
  ⟨⟨scannerStands, stands.findings⟩, isAt⟩

/-- A command that its scanner performs or refuses. -/
theorem Stands.answered_attempt (stands : reader.Stands property own)
    {result : Except ScanError (Scanner source)}
    (attempts : Scanner.Attempts property own result) :
    Answered.Stands property own
      ⟨(reader.scanner.attempt (result.mapError .failure)).1,
        reader.withScanner (reader.scanner.attempt (result.mapError .failure)).2⟩ := by
  cases result with
  | error error =>
    exact stands.answered stands.scanner (resultIsAt_failure (attempts.error error rfl))
  | ok scanner => exact stands.answered (attempts.ok scanner rfl) (resultIsAt_ok trivial)

/-- A command that concerns the handler as well. -/
theorem Stands.answered_attempt_handler (stands : reader.Stands property own)
    {result : Except ScanError (Scanner source)}
    (attempts : Scanner.Attempts property own result) (handler : Option Conditional) :
    let attempted := reader.attempt (result.map fun scanner =>
      { reader with scanner := scanner, handler := handler })
    Answered.Stands property own ⟨attempted.1, attempted.2⟩ := by
  cases result with
  | error error => exact ⟨stands, resultIsAt_failure (attempts.error error rfl)⟩
  | ok scanner => exact ⟨⟨attempts.ok scanner rfl, stands.findings⟩, resultIsAt_ok trivial⟩

/-- Every request is answered at places with the property. -/
theorem Stands.stands_answer (stands : reader.Stands property own)
    (kept : Cursor.KeptForwards property) {request : Request Conditional}
    (respects : request.Respects property own) :
    (reader.answer request).Stands property own := by
  cases request with
  | attach handler => exact ⟨⟨stands.scanner, stands.findings⟩, resultIsAt_ok trivial⟩
  | detach => exact ⟨⟨stands.scanner, stands.findings⟩, resultIsAt_ok trivial⟩
  | command about command =>
    cases command with
    | next => exact (stands.looksAt_next kept).answered
    | peek => exact (stands.looksAt_peek kept).answered
    | drain => exact ⟨(stands.drainsAt kept).stands, (stands.drainsAt kept).resultIsAt⟩
    | consume => exact stands.answered stands.scanner.consume (resultIsAt_ok trivial)
    | setLine line =>
      exact stands.answered (stands.scanner.withLine respects) (resultIsAt_ok trivial)
    | passTrivia =>
      exact stands.answered (stands.scanner.passTrivia kept)
        (stands.scanner.resultIsAt_passTrivia kept)
    | readLine =>
      have reads := stands.scanner.readLine kept
      exact stands.answered reads.1 (resultIsAt_ok reads.2)
    | readRawText terminator options =>
      have reads := stands.scanner.readRawText kept terminator options
      exact stands.answered reads.1 reads.2
    | view offset size =>
      exact stands.answered stands.scanner (reader.scanner.resultIsAt_view offset size)
    | sourceSize | isFirst | isFirstAt =>
      exact stands.answered stands.scanner (resultIsAt_ok trivial)
    | clearComments =>
      have cleared : reader.scanner.clearComments.Stands property own :=
        { stands.scanner with comments := stands.scanner.comments.dropCommitted }
      exact stands.answered cleared (resultIsAt_ok trivial)
    | commitComments =>
      have committed : reader.scanner.commitComments.Stands property own :=
        { stands.scanner with comments := stands.scanner.comments.commit }
      exact stands.answered committed (resultIsAt_ok trivial)
    | disableComments =>
      have disabled : reader.scanner.disableComments.Stands property own :=
        { stands.scanner with }
      exact stands.answered disabled (resultIsAt_ok trivial)
    | enableComments =>
      have performed := stands.scanner.enableComments
      exact stands.answered performed.1 performed.2
    | save => exact stands.answered_attempt_handler stands.scanner.attempts_save _
    | restore => exact stands.answered_attempt_handler stands.scanner.attempts_restore _
    | abandon => exact stands.answered_attempt stands.scanner.attempts_abandon
    | enableRecording => exact stands.answered_attempt stands.scanner.attempts_enableRecording
    | disableRecording => exact stands.answered_attempt stands.scanner.attempts_disableRecording
    | record => exact stands.answered_attempt (stands.scanner.attempts_record respects)
    | recorded => exact stands.answered stands.scanner stands.scanner.resultIsAt_recorded

/-! ## Runs -/

theorem stands_ofSource {source : List Char} {property : Cursor source → Prop}
    (holds : property (.start source)) (own : Token → Prop) (handler : Option Conditional) :
    (ofSource source handler).Stands property own where
  scanner := {
    cursor := holds
    lookahead := fun _ impossible => nomatch impossible
    saved := fun _ impossible => nomatch impossible
    comments := Comments.areFrom_empty source
    recording := fun _ impossible => nomatch impossible
    reserved := rfl }
  findings _ member := nomatch member

/-- Every answer in a run is given at places with the property. -/
theorem Stands.stands_run (stands : reader.Stands property own)
    (kept : Cursor.KeptForwards property) {requests : List (Request Conditional)}
    (respects : ∀ request ∈ requests, request.Respects property own) :
    ∀ answered ∈ reader.run requests, answered.Stands property own := by
  induction requests generalizing reader with
  | nil => exact fun _ member => nomatch member
  | cons request later inductionHypothesis =>
    have first := stands.stands_answer kept (respects request List.mem_cons_self)
    intro answered member
    rcases List.mem_cons.mp member with isFirst | isLater
    · rw [isFirst]
      exact first
    · have others := fun other isOther => respects other (List.mem_cons_of_mem request isOther)
      exact inductionHypothesis first.reader others answered isLater

/-- After a run the reader still stands where the property holds. -/
theorem Stands.stands_after (stands : reader.Stands property own)
    (kept : Cursor.KeptForwards property) {requests : List (Request Conditional)}
    (respects : ∀ request ∈ requests, request.Respects property own) :
    (reader.after requests).Stands property own := by
  induction requests generalizing reader with
  | nil => exact stands
  | cons request later inductionHypothesis =>
    have first := stands.stands_answer kept (respects request List.mem_cons_self)
    exact inductionHypothesis first.reader fun other isOther =>
      respects other (List.mem_cons_of_mem request isOther)

end Reader
end HeaderScan
