import HeaderScan.Proofs.Lexeme.WordEnd
import HeaderScan.Proofs.Reader.Place
import HeaderScan.Proofs.Tiling

namespace HeaderScan

open Text
open CharClass (isWhitespace)

/-!
Reading the words of one text from another.

A token is read again, wherever it stands in another text, if white space comes before it and
enough of what stood behind it is still there, up to other white space.  Two readers without a
handler that find the same words one after the other drain to the same words
(`Reader.sameWords_drain`).
-/

/-- The kind and the text of a token, which do not tell where it stood. -/
def Token.word (token : Token) : TokenKind × String :=
  (token.kind, token.text)

namespace Cursor

variable {source : List Char} {cursor : Cursor source} {token : Token}

/-- The word of a token stands at the front of what is behind the trivia. -/
theorem word_readToken (read : cursor.readToken.1 = .ok token) :
    token.text.toList = (Lexeme.read cursor.afterTrivia.rest).text ∧
      (Lexeme.read cursor.afterTrivia.rest).verdict = .ok token.kind ∧
      ¬ BeginsTrivia cursor.afterTrivia.rest := by
  have text := (place_readToken read).2.1
  cases isOpen : cursor.hasOpenComment with
  | true =>
    rw [readToken_of_hasOpenComment isOpen] at read
    cases read
  | false =>
    have noItem : TriviaItem.first? cursor.afterTrivia.rest = none :=
      Trivia.first?_drop_read cursor.rest
    refine ⟨text, ?_, not_beginsTrivia noItem isOpen⟩
    rw [readToken_of_not_hasOpenComment isOpen] at read
    unfold readLexeme at read
    simp only at read
    split at read
    · cases read
    next kind accepted =>
      rw [accepted, ← Except.ok.inj read]

/-- What stands behind a token, with the token's text before it, stands behind the trivia. -/
theorem text_append_rest_readToken (read : cursor.readToken.1 = .ok token) :
    token.text.toList ++ cursor.readToken.2.rest = cursor.afterTrivia.rest := by
  rcases place_readToken read with ⟨_, text, moved, _⟩
  rw [moved, rest_advance, text]
  exact List.prefix_iff_eq_append.mp (Lexeme.read_text_isPrefix _)

/-- The end of the file has no text, and nothing stands behind it. -/
theorem nil_of_endOfFile (read : cursor.readToken.1 = .ok token)
    (atEnd : token.kind = .endOfFile) :
    token.text.toList = [] ∧ cursor.readToken.2.rest = [] := by
  have joined := text_append_rest_readToken read
  rw [(place_readToken read).2.2.2.mp atEnd] at joined
  exact List.append_eq_nil_iff.mp joined

theorem word_eq_of_endOfFile (read : cursor.readToken.1 = .ok token)
    (atEnd : token.kind = .endOfFile) : token.word = (.endOfFile, "") := by
  have isEmpty : token.text = "" := String.toList_inj.mp (nil_of_endOfFile read atEnd).1
  rw [Token.word, atEnd, isEmpty]

variable {blanks text : List Char}

/-- Behind white space, a text without trivia is what the next token is read from. -/
theorem afterTrivia_of_blank (areBlank : ∀ c ∈ blanks, isWhitespace c = true)
    (noTrivia : ¬ BeginsTrivia text) (isRest : cursor.rest = blanks ++ text) :
    cursor.afterTrivia.rest = text ∧ cursor.hasOpenComment = false := by
  have behind : cursor.afterTrivia.rest = text := by
    rw [afterTrivia, rest_advance, isRest, Trivia.chars_read_of_blank areBlank noTrivia,
      List.drop_left]
  refine ⟨behind, ?_⟩
  rw [hasOpenComment, behind, TriviaItem.isOpenComment, beq_eq_false_iff_ne]
  intro opens
  exact noTrivia (Or.inr (Or.inr (opens ▸ List.take_prefix _ _)))

/-- A lexeme that is accepted makes a token. -/
theorem exists_readToken_of_accepted (closed : cursor.hasOpenComment = false) {kind : TokenKind}
    (accepted : (Lexeme.read cursor.afterTrivia.rest).verdict = .ok kind) :
    ∃ token, cursor.readToken.1 = .ok token := by
  rw [readToken_of_not_hasOpenComment closed]
  unfold readLexeme
  simp only [accepted]
  exact ⟨_, rfl⟩

/-- With nothing but white space left, the end of the file is read. -/
theorem readToken_of_end (areBlank : ∀ c ∈ blanks, isWhitespace c = true)
    (isRest : cursor.rest = blanks) :
    ∃ token, cursor.readToken.1 = .ok token ∧ token.word = (.endOfFile, "") := by
  have noTrivia : ¬ BeginsTrivia [] := by simp [BeginsTrivia]
  rw [← List.append_nil blanks] at isRest
  rcases afterTrivia_of_blank areBlank noTrivia isRest with ⟨behind, closed⟩
  have accepted : (Lexeme.read cursor.afterTrivia.rest).verdict = .ok .endOfFile :=
    Lexeme.read_verdict_eq_endOfFile_iff.mpr behind
  rcases exists_readToken_of_accepted closed accepted with ⟨token, read⟩
  exact ⟨token, read, word_eq_of_endOfFile read ((place_readToken read).2.2.2.mpr behind)⟩

variable {printed : List Char} {other : Cursor printed} {shared later : List Char}

/-- The word of a token is read again behind white space and in front of a part of what stood behind
it, if that part is followed by white space or nothing. -/
theorem readToken_again (read : cursor.readToken.1 = .ok token) (notEnd : token.kind ≠ .endOfFile)
    (isShared : shared <+: cursor.readToken.2.rest) (ends : EndsWord later)
    (areBlank : ∀ c ∈ blanks, isWhitespace c = true)
    (isRest : other.rest = blanks ++ (token.text.toList ++ (shared ++ later))) :
    ∃ again, other.readToken.1 = .ok again ∧ again.word = token.word ∧
      other.readToken.2.rest = shared ++ later := by
  rcases word_readToken read with ⟨text, accepted, noTrivia⟩
  have unread : cursor.afterTrivia.rest ≠ [] :=
    fun atEnd => notEnd ((place_readToken read).2.2.2.mpr atEnd)
  have nonempty := Lexeme.read_text_ne_nil unread
  rw [← text] at nonempty
  have isFront : token.text.toList ++ shared <+: cursor.afterTrivia.rest := by
    rw [← text_append_rest_readToken read]
    exact (List.prefix_append_right_inj _).mpr isShared
  have isWord := List.prefix_append token.text.toList shared
  rcases Lexeme.read_of_endsWord unread accepted (text ▸ isWord) isFront ends with
    ⟨sameText, sameVerdict⟩
  have stillNone := not_beginsTrivia_of_endsWord noTrivia isFront
    (Lexeme.ne_nil_of_isPrefix isWord nonempty) ends
  rw [← List.append_assoc token.text.toList] at isRest
  rcases afterTrivia_of_blank areBlank stillNone isRest with ⟨behind, closed⟩
  rw [← behind] at sameText sameVerdict
  rcases exists_readToken_of_accepted closed sameVerdict with ⟨again, readAgain⟩
  rcases word_readToken readAgain with ⟨textAgain, verdictAgain, _⟩
  have sameKind := Except.ok.inj (verdictAgain.symm.trans sameVerdict)
  have sameWord : again.text.toList = token.text.toList :=
    textAgain.trans (sameText.trans text.symm)
  refine ⟨again, readAgain, ?_, ?_⟩
  · rw [Token.word, Token.word, sameKind, String.toList_inj.mp sameWord]
  · have joined := text_append_rest_readToken readAgain
    rw [behind, sameWord, List.append_assoc] at joined
    exact List.append_cancel_left joined

end Cursor

namespace Reader

variable {source printed : List Char} {σ : Type} [DirectiveHandler σ]
  {reader : Reader source σ} {token : Token}

/-- A plain reader takes the token that its cursor reads. -/
theorem next_eq_ok_of_readToken (isPlain : reader.IsPlain)
    (read : reader.scanner.cursor.readToken.1 = .ok token) : reader.next.1 = .ok token := by
  rw [(next_of_isPlain isPlain).1, read]
  rfl

section OneWord

variable {cursor : Cursor source} {other : Reader printed σ} {blanks shared later : List Char}

/-- With nothing but white space left, a plain reader takes the end of the file as well. -/
theorem next_again_of_endOfFile (read : cursor.readToken.1 = .ok token)
    (atEnd : token.kind = .endOfFile) (isPlain : other.IsPlain)
    (areBlank : ∀ c ∈ blanks, isWhitespace c = true) (isRest : other.scanner.cursor.rest = blanks) :
    ∃ again, other.next.1 = .ok again ∧ again.word = token.word := by
  rcases Cursor.readToken_of_end areBlank isRest with ⟨again, readAgain, isEnd⟩
  refine ⟨again, next_eq_ok_of_readToken isPlain readAgain, ?_⟩
  rw [isEnd, Cursor.word_eq_of_endOfFile read atEnd]

/-- A plain reader takes the word of a token again, and comes to what stands behind it. -/
theorem next_again_of_token (read : cursor.readToken.1 = .ok token)
    (notEnd : token.kind ≠ .endOfFile) (isPlain : other.IsPlain)
    (isShared : shared <+: cursor.readToken.2.rest) (ends : EndsWord later)
    (areBlank : ∀ c ∈ blanks, isWhitespace c = true)
    (isRest : other.scanner.cursor.rest = blanks ++ (token.text.toList ++ (shared ++ later))) :
    ∃ again, other.next.1 = .ok again ∧ again.word = token.word ∧ other.next.2.IsPlain ∧
      other.next.2.scanner.cursor.rest = shared ++ later := by
  rcases Cursor.readToken_again read notEnd isShared ends areBlank isRest with
    ⟨again, readAgain, sameWord, restAgain⟩
  rcases next_of_isPlain isPlain with ⟨_, moved, stillPlain⟩
  exact ⟨again, next_eq_ok_of_readToken isPlain readAgain, sameWord, stillPlain, moved ▸ restAgain⟩

end OneWord

theorem tokens_drain_of_endOfFile (taken : reader.next.1 = .ok token)
    (atEnd : token.kind = .endOfFile) : reader.drain.1.tokens = [token] := by
  rw [drain_of_endOfFile taken atEnd]
  rfl

theorem tokens_drain_of_token (taken : reader.next.1 = .ok token)
    (notEnd : token.kind ≠ .endOfFile) :
    reader.drain.1.tokens = token :: reader.next.2.drain.1.tokens := by
  rw [drain_of_token taken notEnd]
  rfl

/-- Readers that keep finding the same word drain to the same words. -/
theorem sameWords_drain {Related : Reader source σ → Reader printed σ → Prop}
    (step : ∀ reader other token, Related reader other -> reader.next.1 = .ok token ->
      ∃ again, other.next.1 = .ok again ∧ again.word = token.word ∧
        (token.kind ≠ .endOfFile -> Related reader.next.2 other.next.2))
    (complete : reader.drain.1.stop = none) :
    ∀ other, Related reader other ->
      other.drain.1.stop = none ∧
        other.drain.1.tokens.map Token.word = reader.drain.1.tokens.map Token.word := by
  fun_induction drain reader with
  | case1 reader after stop failed => cases complete
  | case2 reader after token taken first atEnd =>
    intro other related
    rcases step reader other token related taken with ⟨again, takenAgain, sameWord, _⟩
    have sameKind : again.kind = token.kind := congrArg Prod.fst sameWord
    rw [drain_of_endOfFile takenAgain (sameKind.trans atEnd)]
    exact ⟨rfl, congrArg (fun word => [word]) sameWord⟩
  | case3 reader after token taken first notEnd later last rest inductionHypothesis =>
    intro other related
    rcases step reader other token related taken with ⟨again, takenAgain, sameWord, stillRelated⟩
    have sameKind : again.kind = token.kind := congrArg Prod.fst sameWord
    rw [rest] at inductionHypothesis
    rcases inductionHypothesis complete _ (stillRelated notEnd) with ⟨noStop, sameWords⟩
    rw [drain_of_token takenAgain (sameKind ▸ notEnd)]
    exact ⟨noStop, congrArg₂ List.cons sameWord sameWords⟩

end Reader
end HeaderScan
