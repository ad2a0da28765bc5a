import HeaderScan.Proofs.Reader.SameWords

namespace HeaderScan

open Text
open CharClass (isWhitespace)

/-!
Printing the tokens of a source and reading them again.

Printed one to a line, without what stood between them, the tokens of a source are read again as
the same tokens: no word takes up what stood behind it, and none begins a comment with what is put
there instead.  A line feed within quotes stays where it is, so that a token may print as several
lines.
-/

namespace Token

/-- The texts of tokens, with a line feed between one and the next. -/
def printLines (tokens : List Token) : List Char :=
  List.intercalate ['\n'] (tokens.map (·.text.toList))

/-- The tokens in front of the end of the file. -/
def beforeEnd (tokens : List Token) : List Token :=
  tokens.filter (·.kind ≠ .endOfFile)

theorem beforeEnd_cons {token : Token} (notEnd : token.kind ≠ .endOfFile) (later : List Token) :
    beforeEnd (token :: later) = token :: beforeEnd later :=
  List.filter_cons_of_pos (by simpa using notEnd)

/-- Behind the first of the printed tokens its line ends, and the others are printed. -/
theorem exists_printLines_cons (token : Token) (later : List Token) :
    ∃ blanks, printLines (token :: later) = token.text.toList ++ (blanks ++ printLines later) ∧
      (∀ c ∈ blanks, isWhitespace c = true) ∧ EndsWord (blanks ++ printLines later) := by
  cases later with
  | nil => exact ⟨[], rfl, by rintro _ ⟨⟩, endsWord_nil⟩
  | cons next others =>
    refine ⟨['\n'], ?_, List.forall_mem_singleton.mpr rfl, endsWord_cons rfl _⟩
    simp only [printLines, List.map_cons, List.intercalate_cons_cons, List.append_assoc]

end Token

namespace Reader

variable {source printed : List Char} {σ : Type} [DirectiveHandler σ]
  {reader : Reader source σ}

/-- How a reader stands to one that reads what the first still drains, printed line by line. -/
structure PrintsFor (reader : Reader source σ) (other : Reader printed σ) : Prop where
  isPlain : reader.IsPlain
  otherPlain : other.IsPlain
  rest : ∃ blanks, (∀ c ∈ blanks, isWhitespace c = true) ∧
    other.scanner.cursor.rest =
      blanks ++ Token.printLines (Token.beforeEnd reader.drain.1.tokens)

/-- Both readers find the same word. -/
theorem PrintsFor.step {other : Reader printed σ} (printed : PrintsFor reader other)
    {token : Token} (taken : reader.next.1 = .ok token) :
    ∃ again, other.next.1 = .ok again ∧ again.word = token.word ∧
      (token.kind ≠ .endOfFile -> PrintsFor reader.next.2 other.next.2) := by
  rcases printed with ⟨isPlain, otherPlain, blanks, areBlank, isRest⟩
  have read := readToken_eq_ok_of_next isPlain taken
  by_cases atEnd : token.kind = .endOfFile
  · have noneLeft : Token.beforeEnd [token] = [] := by simp [Token.beforeEnd, atEnd]
    rw [tokens_drain_of_endOfFile taken atEnd, noneLeft] at isRest
    rcases next_again_of_endOfFile read atEnd otherPlain areBlank
      (isRest.trans (List.append_nil _)) with ⟨again, takenAgain, sameWord⟩
    exact ⟨again, takenAgain, sameWord, absurd atEnd⟩
  · rw [tokens_drain_of_token taken atEnd, Token.beforeEnd_cons atEnd] at isRest
    rcases Token.exists_printLines_cons token (Token.beforeEnd reader.next.2.drain.1.tokens) with
      ⟨between, whole, areBetween, ends⟩
    rw [whole] at isRest
    rcases next_again_of_token read atEnd otherPlain List.nil_prefix ends areBlank isRest with
      ⟨again, takenAgain, sameWord, otherStillPlain, restAgain⟩
    exact ⟨again, takenAgain, sameWord, fun _ =>
      ⟨(next_of_isPlain isPlain).2.2, otherStillPlain, between, areBetween, restAgain⟩⟩

/-- A plain reader of the printed lines drains to the same words as the one whose tokens are
printed. -/
theorem drain_again_of_isPlain (isPlain : reader.IsPlain) (complete : reader.drain.1.stop = none) :
    ∀ other : Reader printed σ, other.IsPlain ->
      (other.scanner.cursor.rest = Token.printLines (Token.beforeEnd reader.drain.1.tokens) ∨
        other.scanner.cursor.rest =
          '\n' :: Token.printLines (Token.beforeEnd reader.drain.1.tokens)) ->
      other.drain.1.stop = none ∧
        other.drain.1.tokens.map Token.word = reader.drain.1.tokens.map Token.word := by
  intro other otherPlain isRest
  refine sameWords_drain (fun _ _ _ related taken => PrintsFor.step related taken) complete other
    ⟨isPlain, otherPlain, ?_⟩
  rcases isRest with atText | atFeed
  · exact ⟨[], by rintro _ ⟨⟩, atText⟩
  · exact ⟨['\n'], List.forall_mem_singleton.mpr rfl, atFeed⟩

/-- The tokens of a source that is read without an error are read again from their texts, with
nothing but line feeds between these. -/
theorem drain_printLines (source : List Char)
    (complete : (ofSource source (none : Option σ)).drain.1.stop = none) :
    let tokens := (ofSource source (none : Option σ)).drain.1.tokens
    let again := (ofSource (Token.printLines (Token.beforeEnd tokens)) (none : Option σ)).drain.1
    again.stop = none ∧ again.tokens.map Token.word = tokens.map Token.word :=
  drain_again_of_isPlain (isPlain_ofSource source σ) complete _ (isPlain_ofSource _ σ) (Or.inl rfl)

/-- The hypothesis holds for operators side by side, numerals that break off, quoted line feeds and
comments between tokens. -/
theorem drain_printLines_adjacent :
    let source := "a/**/+ +1.e-0x|/ *'\n'//b\n\"x\n\\\"/*\"+.5".toList
    let tokens := (ofSource source (none : Option Conditional)).drain.1.tokens
    let again :=
      (ofSource (Token.printLines (Token.beforeEnd tokens)) (none : Option Conditional)).drain.1
    (ofSource source (none : Option Conditional)).drain.1.stop = none ∧
      again.stop = none ∧ again.tokens.map Token.word = tokens.map Token.word := by
  intro source tokens again
  have complete : (ofSource source (none : Option Conditional)).drain.1.stop = none := by
    decide +kernel
  exact ⟨complete, drain_printLines source complete⟩

end Reader
end HeaderScan
