import HeaderScan.Proofs.Condition.Expression

namespace HeaderScan

/-!
Texts that can stand beside an operator.

The operators of a condition are looked for outside of parentheses, and the blanks around them are
dropped.  `IsPiece` says what a text has to be for that to find its borders, and
`IsPiece.splitTopLevel_join` that a connective between two such texts is found.
-/

namespace Expression

open CharClass (isIdentifierContinue)

/-- The characters that doubled make a connective. -/
def IsConnective (c : Char) : Prop :=
  c = '&' ∨ c = '|'

/-- The connectives that bind weaker than a level, whose characters do not stand outside of
parentheses there. -/
def Level.Excludes : Level → Char → Prop
  | .primary, c | .unary, c | .comparison, c => IsConnective c
  | .conjunction, c => c = '|'
  | .disjunction, _ => False

theorem Level.isConnective_of_excludes {level : Level} {c : Char} (excluded : level.Excludes c) :
    IsConnective c := by
  cases level with
  | primary | unary | comparison => exact excluded
  | conjunction => exact Or.inr excluded
  | disjunction => exact excluded.elim

/-- A text whose borders can be told when it stands beside a connective or within blanks, and
outside of whose parentheses the connectives that bind weaker than a level do not occur. -/
structure IsPiece (level : Level) (text : List Char) : Prop where
  balanced : Condition.IsBalanced text
  edges : Text.HasEdges text
  last : ∀ operator, IsConnective operator -> text.getLast? ≠ some operator
  uncut : ∀ operator, level.Excludes operator -> Condition.Uncut operator 0 text

/-- A character that neither opens nor closes parentheses and is no connective of a level. -/
def IsPlain (level : Level) (c : Char) : Prop :=
  c ≠ '(' ∧ c ≠ ')' ∧ ¬ level.Excludes c

/-- A character that means nothing to the cutting is plain at every level. -/
theorem IsPlain.of_ne (level : Level) {c : Char} (opening : c ≠ '(') (closing : c ≠ ')')
    (conjunction : c ≠ '&') (disjunction : c ≠ '|') : IsPlain level c := by
  refine ⟨opening, closing, fun excluded => ?_⟩
  exact (Level.isConnective_of_excludes excluded).elim conjunction disjunction

theorem IsPlain.of_mem_chars (level : Level) {sign : Comparison} {c : Char}
    (member : c ∈ sign.chars) : IsPlain level c := by
  rcases Comparison.mem_chars member with ⟨opening, closing, conjunction, disjunction⟩
  exact .of_ne level opening closing conjunction disjunction

theorem IsPlain.of_isIdentifierContinue (level : Level) {c : Char}
    (continues : isIdentifierContinue c = true) : IsPlain level c := by
  have other : ∀ {d : Char}, isIdentifierContinue d = false -> c ≠ d :=
    CharClass.ne_of_isIdentifierContinue continues
  exact .of_ne level (other (by decide)) (other (by decide)) (other (by decide))
    (other (by decide))

theorem IsPlain.of_isBlank (level : Level) {c : Char} (blank : Text.isBlank c = true) :
    IsPlain level c := by
  have other : ∀ {d : Char}, Text.isBlank d = false -> c ≠ d := by
    rintro d notBlank rfl
    exact Bool.false_ne_true (notBlank.symm.trans blank)
  exact .of_ne level (other (by decide)) (other (by decide)) (other (by decide))
    (other (by decide))

namespace IsPiece

variable {level : Level} {text left middle right : List Char}

theorem ne_nil (piece : IsPiece level text) : text ≠ [] := by
  rintro rfl
  rcases piece.edges.first with ⟨c, isFirst, _⟩
  cases isFirst

/-- A text without parentheses and connectives. -/
theorem of_isPlain (edges : Text.HasEdges text) (plain : ∀ c ∈ text, IsPlain .primary c) :
    IsPiece level text where
  balanced := Condition.IsBalanced.of_notMem (fun member => (plain _ member).1 rfl)
    (fun member => (plain _ member).2.1 rfl)
  edges := edges
  last operator connective isLast :=
    (plain operator (List.mem_of_getLast? isLast)).2.2 connective
  uncut operator excluded := Condition.uncut_of_notMem
    (fun member => (plain operator member).2.2 (Level.isConnective_of_excludes excluded)) 0

/-- A text of characters that can stand in an identifier. -/
theorem of_isIdentifierContinue (nonempty : text ≠ [])
    (continues : ∀ c ∈ text, isIdentifierContinue c = true) : IsPiece level text := by
  apply of_isPlain
  · constructor
    · refine ⟨text.head nonempty, List.head?_eq_some_head nonempty, ?_⟩
      exact CharClass.isBlank_eq_false_of_isIdentifierContinue
        (continues _ (List.head_mem nonempty))
    · refine ⟨text.getLast nonempty, List.getLast?_eq_some_getLast nonempty, ?_⟩
      exact CharClass.isBlank_eq_false_of_isIdentifierContinue
        (continues _ (List.getLast_mem nonempty))
  · exact fun c member => IsPlain.of_isIdentifierContinue _ (continues c member)

theorem of_isName {name : String} (isName : IsName name) : IsPiece level name.toList := by
  rcases isName.starts with ⟨c, isFirst, _⟩
  apply of_isIdentifierContinue
  · rintro isNil
    rw [isNil] at isFirst
    cases isFirst
  · exact isName.continues

/-- A piece in parentheses, whatever its own level. -/
theorem parenthesized {other : Level} {body inner : List Char} (piece : IsPiece other body)
    (spaced : Spaced body inner) : IsPiece level ('(' :: (inner ++ [')'])) := by
  have balanced : Condition.IsBalanced inner := piece.balanced.of_spaced spaced
  have isLast : ('(' :: (inner ++ [')'])).getLast? = some ')' := by
    rw [← List.cons_append, List.getLast?_append, List.getLast?_singleton, Option.some_or]
  constructor
  · exact balanced.parenthesized
  · exact ⟨⟨'(', rfl, by decide⟩, ⟨')', isLast, by decide⟩⟩
  · intro operator connective same
    rw [isLast, Option.some.injEq] at same
    rcases connective with rfl | rfl <;> cases same
  · intro operator excluded
    apply balanced.uncut_parenthesized
    rcases Level.isConnective_of_excludes excluded with rfl | rfl <;> decide

/-- Two pieces and what stands between them. -/
theorem join (pieceLeft : IsPiece level left) (plain : ∀ c ∈ middle, IsPlain level c)
    (pieceRight : IsPiece level right) : IsPiece level (left ++ (middle ++ right)) := by
  have balancedMiddle : Condition.IsBalanced middle :=
    Condition.IsBalanced.of_notMem (fun member => (plain _ member).1 rfl)
      (fun member => (plain _ member).2.1 rfl)
  constructor
  · exact pieceLeft.balanced.append (balancedMiddle.append pieceRight.balanced)
  · exact pieceLeft.edges.join pieceRight.edges middle
  · rw [← List.append_assoc, pieceRight.edges.getLast?_append]
    exact pieceRight.last
  · intro operator excluded
    apply Condition.uncut_append (pieceLeft.uncut operator excluded)
    rw [pieceLeft.balanced.depth]
    apply Condition.uncut_append
    · exact Condition.uncut_of_notMem (fun member => (plain operator member).2.2 excluded) 0
    · rw [balancedMiddle.depth]
      exact pieceRight.uncut operator excluded

/-- A level that excludes less. -/
theorem weaken {other : Level} (piece : IsPiece level text)
    (excludes : ∀ operator, other.Excludes operator -> level.Excludes operator) :
    IsPiece other text where
  balanced := piece.balanced
  edges := piece.edges
  last := piece.last
  uncut operator excluded := piece.uncut operator (excludes operator excluded)

/-- Where a connective is excluded, nothing is cut, whatever blanks stand around the text. -/
theorem splitTopLevel_spaced (piece : IsPiece level text) {operator : Char}
    (excluded : level.Excludes operator) {spaced : List Char} (isSpaced : Spaced text spaced) :
    Condition.splitTopLevel operator 0 spaced = [spaced] := by
  apply Condition.splitTopLevel_of_uncut
  have blankUncut : ∀ {blanks : List Char}, AreBlank blanks ->
      Condition.Uncut operator 0 blanks := by
    intro blanks blank
    apply Condition.uncut_of_notMem
    intro member
    exact (IsPlain.of_isBlank level (blank operator member)).2.2 excluded
  cases isSpaced with
  | intro front back blankFront blankBack =>
    have balancedFront := Condition.IsBalanced.of_areBlank blankFront
    apply Condition.uncut_append
    · apply Condition.uncut_append (blankUncut blankFront)
      rw [balancedFront.depth]
      exact piece.uncut operator excluded
    · rw [(balancedFront.append piece.balanced).depth]
      exact blankUncut blankBack

/-- A connective outside of parentheses, with blanks around it, cuts a text in two, and nothing else
of the text is cut there. -/
theorem splitTopLevel_join {operator : Char} (connective : IsConnective operator)
    (pieceLeft : IsPiece level left) (spacedMiddle : Spaced [operator, operator] middle)
    (spaced : Spaced (left ++ (middle ++ right)) text) :
    ∃ spacedLeft spacedRight, Spaced left spacedLeft ∧ Spaced right spacedRight ∧
      Condition.splitTopLevel operator 0 text =
        Condition.splitTopLevel operator 0 spacedLeft ++
          Condition.splitTopLevel operator 0 spacedRight := by
  rcases spaced with ⟨front, back, blankFront, blankBack⟩
  rcases spacedMiddle with ⟨behindLeft, beforeRight, blankBehind, blankBefore⟩
  have spacedLeft : Spaced left (front ++ left ++ behindLeft) :=
    Spaced.intro front behindLeft blankFront blankBehind
  have spacedRight : Spaced right (beforeRight ++ right ++ back) :=
    Spaced.intro beforeRight back blankBefore blankBack
  refine ⟨_, _, spacedLeft, spacedRight, ?_⟩
  have outside : Condition.depthBehind 0 (front ++ left ++ behindLeft) = 0 :=
    (pieceLeft.balanced.of_spaced spacedLeft).depth 0
  have last : (front ++ left ++ behindLeft).getLast? ≠ some operator := by
    intro isLast
    rcases spacedLeft.getLast?_eq (by rcases connective with rfl | rfl <;> decide) isLast
      with own | isNil
    · exact pieceLeft.last operator connective own
    · exact pieceLeft.ne_nil isNil
  have cut := Condition.splitTopLevel_append (by rcases connective with rfl | rfl <;> decide)
    (by rcases connective with rfl | rfl <;> decide) outside last (beforeRight ++ right ++ back)
  rw [← cut]
  simp only [List.append_assoc, List.cons_append, List.nil_append]

end IsPiece
end Expression
end HeaderScan
