import HeaderScan.Proofs.Trivia.Gap
import HeaderScan.Reader.Drain

namespace HeaderScan

open Text

/-!
The tokens of a source and the gaps between them make up the source.

This is the view of a reader to which no handler is attached.  A `Tiling` accounts for every
character behind an offset: a gap, and then the text of a token, and so on until the end of the
file, or until a place at which neither a gap goes on nor a token is accepted.
-/

/-- Between two offsets of a source stands a gap, which goes on as far as it can. -/
def IsGapBetween (source : List Char) (start stop : Nat) : Prop :=
  ∃ front gap later, front ++ gap ++ later = source ∧ byteLength front = start ∧
    start + byteLength gap = stop ∧ IsLongestGap gap later

/-- What stands behind an offset of a source, token by token, and what ends it. -/
inductive Tiling (source : List Char) : Nat → List Token → Option Stop → Prop
  | atEnd {start : Nat} {token : Token} : IsGapBetween source start (byteLength source) ->
      token.kind = .endOfFile -> token.span = .point (byteLength source) -> token.text = "" ->
      Tiling source start [token] none
  | failure {start : Nat} {error : ScanError} :
      IsGapBetween source start error.position.offset ->
      error.position.offset < byteLength source ->
      Tiling source start [] (some (.failure error))
  | token {start : Nat} {token : Token} {later : List Token} {stop : Option Stop} :
      IsGapBetween source start token.span.start -> token.kind ≠ .endOfFile ->
      token.span.start < token.span.stop ->
      slice? source token.span.start token.span.stop = some token.text.toList ->
      Tiling source token.span.stop later stop ->
      Tiling source start (token :: later) stop

namespace Tiling

variable {source : List Char} {start : Nat} {tokens : List Token} {stop : Option Stop}

theorem start_le (tiling : Tiling source start tokens stop) :
    ∀ token ∈ tokens, start ≤ token.span.start := by
  induction tiling with
  | @atEnd start token isGap _ isPoint _ =>
    rcases isGap with ⟨_, gap, _, _, _, size, _⟩
    intro other member
    rw [List.mem_singleton.mp member, isPoint]
    exact size ▸ Nat.le_add_right _ _
  | failure => exact fun _ member => nomatch member
  | @token start token later stop isGap _ nonempty _ _ inductionHypothesis =>
    rcases isGap with ⟨_, gap, _, _, _, size, _⟩
    have first : start ≤ token.span.start := size ▸ Nat.le_add_right _ _
    intro other member
    rcases List.mem_cons.mp member with rfl | isLater
    · exact first
    · have behind := inductionHypothesis other isLater
      omega

/-- Each token starts behind the tokens before it. -/
theorem pairwise (tiling : Tiling source start tokens stop) :
    tokens.Pairwise fun first second => first.span.stop ≤ second.span.start := by
  induction tiling with
  | atEnd => exact List.pairwise_singleton _ _
  | failure => exact List.Pairwise.nil
  | token _ _ _ _ later inductionHypothesis =>
    exact List.pairwise_cons.mpr ⟨later.start_le, inductionHypothesis⟩

/-- The text of each token is the piece of the source in its span. -/
theorem slice (tiling : Tiling source start tokens stop) :
    ∀ token ∈ tokens, slice? source token.span.start token.span.stop = some token.text.toList := by
  induction tiling with
  | @atEnd start token _ _ isPoint isEmpty =>
    intro other member
    rw [List.mem_singleton.mp member, isPoint, isEmpty, slice?_eq_some_iff]
    exact ⟨source, [], by simp, rfl, rfl⟩
  | failure => exact fun _ member => nomatch member
  | token _ _ _ isSlice _ inductionHypothesis =>
    intro other member
    rcases List.mem_cons.mp member with rfl | isLater
    · exact isSlice
    · exact inductionHypothesis other isLater

end Tiling

namespace Cursor

variable {source : List Char}

/-- The trivia behind a cursor are a gap of the source. -/
theorem isGapBetween_afterTrivia (cursor : Cursor source) :
    IsGapBetween source cursor.offset cursor.afterTrivia.offset := by
  have isFront := List.prefix_iff_eq_append.mp (Trivia.read_isPrefix cursor.rest)
  have isTaken := List.prefix_iff_eq_take.mp (Trivia.read_isPrefix cursor.rest)
  refine ⟨cursor.passed.reverse, _, _, ?_, ?_, ?_, Trivia.isLongestGap_read cursor.rest⟩
  · rw [List.append_assoc, isFront, cursor.passed_append_rest]
  · simp [cursor.offset_eq]
  · rw [afterTrivia, offset_advance, ← isTaken]

variable {cursor : Cursor source} {token : Token}

/-- A token is a piece of the source, from behind the trivia to where the cursor stops. -/
theorem slice_readToken (read : cursor.readToken.1 = .ok token) :
    token.span.start = cursor.afterTrivia.offset ∧
      token.span.stop = cursor.readToken.2.offset ∧
        Text.slice? source token.span.start token.span.stop = some token.text.toList := by
  rcases place_readToken read with ⟨place, text, moved, _⟩
  have starts : token.span.start = cursor.afterTrivia.offset := congrArg Span.start place
  have stops : token.span.stop = cursor.readToken.2.offset := congrArg Span.stop place
  have isSlice := cursor.afterTrivia.slice?_advance
    (Lexeme.read cursor.afterTrivia.rest).text.length
  rw [Lexeme.take_length_read_text, ← moved, ← starts, ← stops, ← text] at isSlice
  exact ⟨starts, stops, isSlice⟩

theorem span_readToken_nonempty (read : cursor.readToken.1 = .ok token)
    (notEnd : token.kind ≠ .endOfFile) : token.span.start < token.span.stop := by
  rcases place_readToken read with ⟨_, _, moved, isEnd⟩
  rcases slice_readToken read with ⟨starts, stops, _⟩
  have unread : cursor.afterTrivia.rest ≠ [] := fun atEnd => notEnd (isEnd.mpr atEnd)
  have size := List.length_pos_iff.mpr (Lexeme.read_text_ne_nil unread)
  have bytes := length_le_byteLength (Lexeme.read cursor.afterTrivia.rest).text
  rw [starts, stops, moved, offset_advance, Lexeme.take_length_read_text]
  omega

end Cursor

namespace Reader

variable {source : List Char} {σ : Type} {reader : Reader source σ}

/-- A reader without a handler and without a lookahead, of which only the cursor matters. -/
structure IsPlain (reader : Reader source σ) : Prop where
  noHandler : reader.handler = none
  noLookahead : reader.scanner.lookahead = none

theorem isPlain_ofSource (source : List Char) (σ : Type) :
    IsPlain (ofSource source (none : Option σ)) :=
  ⟨rfl, rfl⟩

variable [DirectiveHandler σ]

theorem readToken_of_isPlain (isPlain : reader.IsPlain) (afterLineComment : Bool) :
    reader.readToken afterLineComment =
      ((reader.scanner.cursor.readToken.1.mapError Stop.failure).map (⟨·, reader.scanner.cursor⟩),
        reader.afterToken afterLineComment) := by
  have noHandler : ∀ token, reader.handlerFor token = none := by
    intro token
    unfold handlerFor
    rw [isPlain.noHandler]
    split <;> rfl
  cases read : reader.scanner.cursor.readToken.1 with
  | error error =>
    rw [readToken_of_error read]
    rfl
  | ok token =>
    rw [readToken_of_handlerFor_none read (noHandler token)]
    rfl

/-- A plain reader takes the token at its cursor and stays plain. -/
theorem next_of_isPlain (isPlain : reader.IsPlain) :
    reader.next.1 = reader.scanner.cursor.readToken.1.mapError Stop.failure ∧
      reader.next.2.scanner.cursor = reader.scanner.cursor.readToken.2 ∧
        reader.next.2.IsPlain := by
  unfold next peek
  rw [isPlain.noLookahead, readToken_of_isPlain isPlain]
  cases reader.scanner.cursor.readToken.1 with
  | error error => exact ⟨rfl, rfl, isPlain.noHandler, isPlain.noLookahead⟩
  | ok token => exact ⟨rfl, rfl, isPlain.noHandler, rfl⟩

theorem readToken_eq_ok_of_next (isPlain : reader.IsPlain) {token : Token}
    (taken : reader.next.1 = .ok token) : reader.scanner.cursor.readToken.1 = .ok token := by
  have result := (next_of_isPlain isPlain).1
  rw [taken] at result
  cases read : reader.scanner.cursor.readToken.1 with
  | error error =>
    rw [read] at result
    cases result
  | ok other =>
    rw [read] at result
    exact congrArg Except.ok (Except.ok.inj result).symm

/-- Wherever a plain reader stands, a drain accounts for everything behind it. -/
theorem tiling_drain_of_isPlain (isPlain : reader.IsPlain) :
    Tiling source reader.scanner.cursor.offset reader.drain.1.tokens reader.drain.1.stop := by
  fun_induction drain reader with
  | case1 reader after stop failed =>
    have result := (next_of_isPlain isPlain).1
    rw [failed] at result
    cases read : reader.scanner.cursor.readToken.1 with
    | ok token =>
      rw [read] at result
      cases result
    | error error =>
      rw [read] at result
      rw [Except.error.inj result]
      rcases Cursor.failure_readToken read with ⟨place, unread⟩
      have behind := reader.scanner.cursor.isGapBetween_afterTrivia
      have offset : error.position.offset = reader.scanner.cursor.afterTrivia.offset :=
        congrArg Position.offset place
      rw [← offset] at behind
      refine .failure behind ?_
      rw [offset]
      exact Cursor.offset_lt_of_rest_ne_nil unread
  | case2 reader after token taken first atEnd =>
    have read := readToken_eq_ok_of_next isPlain taken
    rcases Cursor.place_readToken read with ⟨place, text, moved, isEnd⟩
    have nothing := isEnd.mp atEnd
    have last := Cursor.offset_of_rest_eq_nil nothing
    have behind := reader.scanner.cursor.isGapBetween_afterTrivia
    rw [last] at behind
    rw [nothing] at text moved
    refine .atEnd behind atEnd ?_ ?_
    · rw [place, moved, Cursor.offset_advance, nothing, last]
      rfl
    · exact String.toList_inj.mp text
  | case3 reader after token taken first notEnd later last rest inductionHypothesis =>
    rcases next_of_isPlain isPlain with ⟨_, cursor, stillPlain⟩
    have tiling := inductionHypothesis stillPlain
    have read := readToken_eq_ok_of_next isPlain taken
    rcases Cursor.slice_readToken read with ⟨starts, stops, isSlice⟩
    have nonempty := Cursor.span_readToken_nonempty read notEnd
    have behind := reader.scanner.cursor.isGapBetween_afterTrivia
    rw [← starts] at behind
    refine .token behind notEnd nonempty isSlice ?_
    rw [stops, ← cursor]
    rw [rest] at tiling
    exact tiling

/-- The tokens that a reader without a handler takes from the start of a source are pieces of
the source in their order, with nothing but gaps between them, up to its end or up to an error
at the first place which belongs to no gap. -/
theorem drain_tiles_source (source : List Char) :
    Tiling source 0 (ofSource source (none : Option σ)).drain.1.tokens
        (ofSource source (none : Option σ)).drain.1.stop ∧
      (ofSource source (none : Option σ)).drain.1.tokens.Pairwise
        (fun first second => first.span.stop ≤ second.span.start) ∧
      ∀ token ∈ (ofSource source (none : Option σ)).drain.1.tokens,
        slice? source token.span.start token.span.stop = some token.text.toList := by
  have tiling := tiling_drain_of_isPlain (isPlain_ofSource source σ)
  exact ⟨tiling, tiling.pairwise, tiling.slice⟩

end Reader
end HeaderScan
