import HeaderScan.Lexeme.Basic
import HeaderScan.Trivia

namespace HeaderScan

/-!
The token after a cursor, without regard to directives and without collecting comments.

`length_rest_readToken_lt` is what every loop over tokens ends by: only the end of the file is
read without moving on.
-/

namespace Cursor

variable {source : List Char}

/-- Reads the token at the cursor, which stands behind the trivia; `unget` is where it stood in
front of them.  A refused lexeme is passed like any other. -/
def readLexeme (cursor : Cursor source) (unget : Position) :
    Except ScanError Token × Cursor source :=
  let lexeme := Lexeme.read cursor.rest
  let stop := cursor.advance lexeme.text.length
  match lexeme.verdict with
  | .error cause => (.error ⟨cause, cursor.position⟩, stop)
  | .ok kind =>
    (.ok
      { kind := kind
        span := ⟨cursor.offset, stop.offset⟩
        startLine := cursor.line
        endLine := stop.line
        unget := unget
        text := String.ofList lexeme.text },
      stop)

/-- Reads the token after the trivia in front of the cursor. -/
def readToken (cursor : Cursor source) : Except ScanError Token × Cursor source :=
  match cursor.passTrivia with
  | (.error error, stop) => (.error error, stop)
  | (.ok (), start) => start.readLexeme cursor.position

theorem readToken_of_hasOpenComment {cursor : Cursor source}
    (isOpen : cursor.hasOpenComment = true) :
    cursor.readToken =
      (.error ⟨.unterminatedComment, cursor.afterTrivia.position⟩, cursor.afterTrivia.toEnd) := by
  simp [readToken, passTrivia, isOpen]

theorem readToken_of_not_hasOpenComment {cursor : Cursor source}
    (closed : cursor.hasOpenComment = false) :
    cursor.readToken = cursor.afterTrivia.readLexeme cursor.position := by
  simp [readToken, passTrivia, closed]

theorem readLexeme_snd (cursor : Cursor source) (unget : Position) :
    (cursor.readLexeme unget).2 = cursor.advance (Lexeme.read cursor.rest).text.length := by
  unfold readLexeme
  simp only
  split <;> rfl

private theorem length_rest_readLexeme_le (cursor : Cursor source) (unget : Position) :
    (cursor.readLexeme unget).2.rest.length ≤ cursor.rest.length := by
  unfold readLexeme
  simp only
  split <;> simp

/-- Reading never goes back. -/
theorem length_rest_readToken_le (cursor : Cursor source) :
    cursor.readToken.2.rest.length ≤ cursor.rest.length := by
  have trivia := cursor.length_rest_passTrivia_le
  unfold readToken
  split
  next passed => simpa [passed] using trivia
  next start passed =>
    rw [passed] at trivia
    exact Nat.le_trans (length_rest_readLexeme_le _ _) trivia

/-- Reading a token other than the end of the file moves the cursor. -/
theorem length_rest_readToken_lt {cursor : Cursor source} {token : Token}
    (found : cursor.readToken.1 = .ok token) (notEnd : token.kind ≠ .endOfFile) :
    cursor.readToken.2.rest.length < cursor.rest.length := by
  have trivia := cursor.length_rest_passTrivia_le
  unfold readToken at *
  split at found
  · simp at found
  next start passed =>
    simp only [passed] at trivia ⊢
    unfold readLexeme at *
    simp only at found ⊢
    split at found
    · simp at found
    next kind accepted =>
      rcases Except.ok.inj found with rfl
      have nonempty : start.rest ≠ [] := fun atEnd => notEnd (by
        have isEnd := Lexeme.read_verdict_eq_endOfFile_iff.mpr atEnd
        simpa [accepted] using isEnd)
      have moved := Text.length_drop_lt (Lexeme.read_text_isPrefix _)
        (Lexeme.read_text_ne_nil nonempty)
      simp only [rest_advance]
      exact Nat.lt_of_lt_of_le moved trivia

/-- An error of the scan lies behind the trivia and in front of the end. -/
theorem failure_readToken {cursor : Cursor source} {error : ScanError}
    (failed : cursor.readToken.1 = .error error) :
    error.position = cursor.afterTrivia.position ∧ cursor.afterTrivia.rest ≠ [] := by
  cases isOpen : cursor.hasOpenComment with
  | true =>
    rw [readToken_of_hasOpenComment isOpen] at failed
    rw [← Except.error.inj failed]
    refine ⟨rfl, ?_⟩
    intro atEnd
    rw [hasOpenComment, atEnd] at isOpen
    cases isOpen
  | false =>
    rw [readToken_of_not_hasOpenComment isOpen] at failed
    unfold readLexeme at failed
    simp only at failed
    split at failed
    next cause refused =>
      rw [← Except.error.inj failed]
      refine ⟨rfl, ?_⟩
      intro atEnd
      rw [Lexeme.read_verdict_eq_endOfFile_iff.mpr atEnd] at refused
      cases refused
    · cases failed

/-- A token lies behind the trivia, and the cursor comes to stand behind it. -/
theorem place_readToken {cursor : Cursor source} {token : Token}
    (read : cursor.readToken.1 = .ok token) :
    token.span = ⟨cursor.afterTrivia.offset, cursor.readToken.2.offset⟩ ∧
      token.text.toList = (Lexeme.read cursor.afterTrivia.rest).text ∧
      cursor.readToken.2 =
        cursor.afterTrivia.advance (Lexeme.read cursor.afterTrivia.rest).text.length ∧
      (token.kind = .endOfFile ↔ cursor.afterTrivia.rest = []) := by
  cases isOpen : cursor.hasOpenComment with
  | true =>
    rw [readToken_of_hasOpenComment isOpen] at read
    cases read
  | false =>
    rw [readToken_of_not_hasOpenComment isOpen] at read ⊢
    have stop := cursor.afterTrivia.readLexeme_snd cursor.position
    rw [stop]
    unfold readLexeme at read
    simp only at read
    split at read
    · cases read
    next kind accepted =>
      rw [← Except.ok.inj read]
      refine ⟨rfl, String.toList_ofList, rfl, ?_⟩
      rw [← Lexeme.read_verdict_eq_endOfFile_iff, accepted]
      constructor
      · exact congrArg Except.ok
      · exact Except.ok.inj

/-- Behind the end of the file nothing is left. -/
theorem rest_readToken_of_endOfFile {cursor : Cursor source} {token : Token}
    (read : cursor.readToken.1 = .ok token) (atEnd : token.kind = .endOfFile) :
    cursor.readToken.2.rest = [] := by
  rcases place_readToken read with ⟨_, _, moved, isEnd⟩
  rw [moved, rest_advance, isEnd.mp atEnd, List.drop_nil]

end Cursor
end HeaderScan
