import HeaderScan.Proofs.Condition.Evaluation
import Mathlib.Data.List.TakeWhile

namespace HeaderScan

/-!
Comparisons in conditions.

No comparison is understood, and so the code under a condition may be passed only if the condition
is false whatever its comparisons are.  Reading keeps to that as long as the two sides of a
comparison do not look like one text in parentheses, and no symbol has a name that looks like a
comparison (`Expression.evaluate_eq_value_of_standApart`).  Where they do look so, code can be
passed that nothing is known to exclude (`Expression.evaluate_eq_false_of_unknown`).
-/

/-! ## Characters that stay -/

namespace Text

theorem mem_dropWhile (inClass : Char → Bool) {text : List Char} {c : Char} (member : c ∈ text)
    (outside : inClass c = false) : c ∈ text.dropWhile inClass := by
  rw [← List.takeWhile_append_dropWhile (p := inClass) (l := text), List.mem_append] at member
  rcases member with dropped | stays
  · have inside := List.mem_takeWhile_imp dropped
    rw [outside] at inside
    cases inside
  · exact stays

theorem mem_dropEndWhile (inClass : Char → Bool) {text : List Char} {c : Char} (member : c ∈ text)
    (outside : inClass c = false) : c ∈ dropEndWhile inClass text :=
  List.mem_reverse.mpr (mem_dropWhile inClass (List.mem_reverse.mpr member) outside)

theorem mem_trim {text : List Char} {c : Char} (member : c ∈ text) (notBlank : isBlank c = false) :
    c ∈ trim text :=
  mem_dropEndWhile isBlank (mem_dropWhile isBlank member notBlank) notBlank

theorem mem_of_mem_trimStart {text : List Char} {c : Char} (member : c ∈ trimStart text) :
    c ∈ text :=
  (List.dropWhile_sublist _).subset member

theorem mem_of_mem_trim {text : List Char} {c : Char} (member : c ∈ trim text) : c ∈ text := by
  apply mem_of_mem_trimStart
  exact List.mem_reverse.mp ((List.dropWhile_sublist _).subset (List.mem_reverse.mp member))

end Text

namespace Comparison.IsMark

variable {c : Char}

theorem isBlank (mark : IsMark c) : Text.isBlank c = false := by
  rcases mark with rfl | rfl | rfl <;> decide

theorem notParenthesis (mark : IsMark c) : c ≠ '(' ∧ c ≠ ')' := by
  rcases mark with rfl | rfl | rfl <;> decide

theorem isIdentifierContinue (mark : IsMark c) : CharClass.isIdentifierContinue c = false := by
  rcases mark with rfl | rfl | rfl <;> decide

end Comparison.IsMark

namespace Condition

open CharClass (isIdentifierContinue isIntegerSuffix)
open Comparison (IsMark)
open Expression (IsConnective)

/-! ## Texts that are not understood -/

variable {text : List Char} {c : Char} {known : String → Option Bool}

theorem mem_testedName (member : c ∈ text) (mark : IsMark c) : c ∈ testedName text := by
  have notOpening : (c == '(') = false := beq_eq_false_iff_ne.mpr mark.notParenthesis.1
  have notClosing : (c == ')') = false := beq_eq_false_iff_ne.mpr mark.notParenthesis.2
  apply Text.mem_trim _ mark.isBlank
  apply Text.mem_dropEndWhile (· == ')') _ notClosing
  exact Text.mem_dropWhile (· == '(') (Text.mem_trim member mark.isBlank) notOpening

/-- What holds a mark of comparison is neither an integer nor a symbol. -/
theorem ofAtom_of_isMark (member : c ∈ text) (mark : IsMark c) : ofAtom text = unknown := by
  have other : ∀ {d : Char}, isIdentifierContinue d = true -> d ≠ c :=
    fun continues => CharClass.ne_of_isIdentifierContinue continues mark.isIdentifierContinue
  have notSuffix : isIntegerSuffix c = false := by
    apply Bool.eq_false_iff.mpr
    intro suffix
    exact other (CharClass.isIdentifierContinue_of_isIntegerSuffix suffix) rfl
  have notDigits : (Text.dropEndWhile isIntegerSuffix text).all Char.isDigit = false := by
    apply Bool.eq_false_iff.mpr
    intro digits
    have digit := List.all_eq_true.mp digits c (Text.mem_dropEndWhile _ member notSuffix)
    exact other (CharClass.isIdentifierContinue_of_isDigit digit) rfl
  have notWord : text.all isIdentifierContinue = false := by
    apply Bool.eq_false_iff.mpr
    intro word
    exact other (List.all_eq_true.mp word c member) rfl
  have notInteger : ofInteger text = unknown := by
    change (if (Text.dropEndWhile isIntegerSuffix text).all Char.isDigit && _ then _ else _) = _
    rw [notDigits, Bool.false_and, if_neg Bool.false_ne_true]
  rw [ofAtom, notInteger, notWord, Bool.and_false, if_neg Bool.false_ne_true, ite_self]

/-- A text that is neither negated nor enclosed and holds a mark of comparison is worth what is
known about a symbol with the mark in its name, or nothing. -/
theorem value_of_isMark (names : ∀ name, ∀ c ∈ name.toList, IsMark c -> known name = none)
    (member : c ∈ text) (mark : IsMark c) (notNegated : negated? text = none)
    (notParenthesized : parenthesized? text = none) : (ofOperand text).value known = none := by
  cases found : definitionTest? text with
  | none =>
    rw [ofOperand_of_none notNegated notParenthesized found, ofAtom_of_isMark member mark]
    rfl
  | some later =>
    rw [ofOperand_of_definitionTest? notNegated notParenthesized found]
    rw [(definitionTest?_eq_some_iff.mp found).1, List.mem_append] at member
    have isLater : c ∈ later := by
      rcases member with inTest | inLater
      · have continues := Expression.isIdentifierContinue_of_mem_test c inTest
        rw [mark.isIdentifierContinue] at continues
        cases continues
      · exact inLater
    apply names _ c _ mark
    rw [String.toList_ofList]
    exact mem_testedName isLater mark

/-- A text with a mark of comparison and without connectives. -/
structure IsMarked (text : List Char) : Prop where
  mark : ∃ c ∈ text, IsMark c
  noConnective : ∀ c ∈ text, ¬ IsConnective c

namespace IsMarked

/-- What of a text keeps its marks keeps it marked. -/
theorem of_subset {part : List Char} (marked : IsMarked text)
    (marks : ∀ c ∈ text, IsMark c -> c ∈ part) (subset : ∀ c ∈ part, c ∈ text) :
    IsMarked part where
  mark := by
    rcases marked.mark with ⟨c, member, mark⟩
    exact ⟨c, marks c member mark, mark⟩
  noConnective c member := marked.noConnective c (subset c member)

theorem trim (marked : IsMarked text) : IsMarked (Text.trim text) :=
  marked.of_subset (fun _ member mark => Text.mem_trim member mark.isBlank)
    (fun _ => Text.mem_of_mem_trim)

/-- Nothing is cut in such a text. -/
theorem ofText (marked : IsMarked text) :
    Condition.ofText text = ofOperand (Text.trim (Text.trim text)) := by
  have whole : ∀ {operator : Char} {part : List Char}, IsConnective operator -> IsMarked part ->
      splitTopLevel operator 0 part = [part] := by
    intro operator part connective markedPart
    apply splitTopLevel_of_uncut
    exact uncut_of_notMem (fun member => markedPart.noConnective operator member connective) 0
  rw [ofText_eq, whole (Or.inr rfl) marked, List.map_singleton, ofConjunction,
    whole (Or.inl rfl) marked.trim, List.map_singleton]
  rfl

end IsMarked

/-- Of a text without connectives nothing is known once it holds a mark of comparison, whatever is
taken off it. -/
theorem value_of_isMarked (names : ∀ name, ∀ c ∈ name.toList, IsMark c -> known name = none)
    (text : List Char) (marked : IsMarked text) : (ofOperand text).value known = none := by
  rcases marked.mark with ⟨c, member, mark⟩
  cases foundNegated : negated? text with
  | some later =>
    have shorter := length_of_negated? foundNegated
    have markedLater : IsMarked later := by
      rcases negated?_eq_some_iff.mp foundNegated with ⟨rest, rfl, rfl⟩
      apply marked.of_subset
      · intro d inText isMark
        rcases List.mem_cons.mp inText with rfl | inRest
        · rcases isMark with same | same | same <;> cases same
        · exact Text.mem_dropWhile _ inRest isMark.isBlank
      · exact fun d inLater => List.mem_cons_of_mem _ (Text.mem_of_mem_trimStart inLater)
    rw [ofOperand_of_negated? foundNegated]
    exact congrArg Kleene.not (value_of_isMarked names later markedLater)
  | none =>
    cases foundParenthesized : parenthesized? text with
    | some inner =>
      have shorter := length_of_parenthesized? foundParenthesized
      have trimmed : (Text.trim (Text.trim inner)).length ≤ inner.length :=
        Nat.le_trans (Text.length_trim_le _) (Text.length_trim_le _)
      have markedInner : IsMarked inner := by
        rcases parenthesized?_eq_some_iff.mp foundParenthesized with ⟨rest, rfl, rfl⟩
        apply marked.of_subset
        · intro d inText isMark
          apply Text.mem_trim _ isMark.isBlank
          simpa [isMark.notParenthesis] using inText
        · intro d inInner
          exact List.mem_cons_of_mem _ (List.mem_append_left _ (Text.mem_of_mem_trim inInner))
      rw [ofOperand_of_parenthesized? foundNegated foundParenthesized, markedInner.ofText]
      exact value_of_isMarked names _ markedInner.trim.trim
    | none => exact value_of_isMark names member mark foundNegated foundParenthesized
termination_by text.length

end Condition

/-! ## Comparisons between operands that stand apart -/

namespace Expression

variable {mayCompare : List Char → List Char → Prop} {expression first second : Expression}
  {left middle right text : List Char} {sign : Comparison} {known : String → Option Bool}

/-- Two operands that do not look like one text in parentheses with connectives in it. -/
def StandApart (left right : List Char) : Prop :=
  left.head? ≠ some '(' ∨ right.getLast? ≠ some ')' ∨ ∀ c ∈ left ++ right, ¬ IsConnective c

/-- Nothing that binds strongest begins with a negation. -/
theorem Writes.head?_ne (writes : Writes mayCompare .primary expression text) :
    text.head? ≠ some '!' := by
  cases writes with
  | literal nonempty areDigits _ _ => exact head?_ne_of_digits nonempty areDigits _ (by decide)
  | symbol isName => exact isName.head?_ne (by decide)
  | definition | definitionInParentheses | parenthesized => exact fun isFirst => nomatch isFirst

/-- Nothing is known of what a comparison is read as whose operands stand apart. -/
theorem value_comparison
    (names : ∀ name, ∀ c ∈ name.toList, Comparison.IsMark c -> known name = none)
    (writesFirst : Writes mayCompare .primary first left)
    (writesSecond : Writes mayCompare .primary second right)
    (spaced : Spaced sign.chars middle) (apart : StandApart left right) :
    (Condition.ofOperand (left ++ (middle ++ right))).value known = none := by
  rcases sign.exists_isMark with ⟨c, inSign, mark⟩
  have inMiddle : c ∈ middle := by
    cases spaced with
    | intro front back _ _ =>
      exact List.mem_append_left _ (List.mem_append_right _ inSign)
  have member : c ∈ left ++ (middle ++ right) :=
    List.mem_append_right _ (List.mem_append_left _ inMiddle)
  have isFirst : (left ++ (middle ++ right)).head? = left.head? :=
    writesFirst.isPiece.edges.head?_append _
  have isLast : (left ++ (middle ++ right)).getLast? = right.getLast? := by
    rw [← List.append_assoc]
    exact writesSecond.isPiece.edges.getLast?_append _
  have notNegated : Condition.negated? (left ++ (middle ++ right)) = none := by
    apply Condition.negated?_eq_none
    rw [isFirst]
    exact writesFirst.head?_ne
  rcases apart with notOpened | notClosed | noConnective
  · apply Condition.value_of_isMark names member mark notNegated
    exact Condition.parenthesized?_eq_none (Or.inl (isFirst ▸ notOpened))
  · apply Condition.value_of_isMark names member mark notNegated
    exact Condition.parenthesized?_eq_none (Or.inr (isLast ▸ notClosed))
  · apply Condition.value_of_isMarked names
    refine ⟨⟨c, member, mark⟩, ?_⟩
    have plainMiddle : ∀ d ∈ middle, IsPlain .primary d :=
      spaced.forall_mem (fun d => IsPlain.of_isBlank _) fun d => IsPlain.of_mem_chars _
    intro d member
    simp only [List.mem_append] at member noConnective
    rcases member with inLeft | inMiddle | inRight
    · exact noConnective d (Or.inl inLeft)
    · exact (plainMiddle d inMiddle).2.2
    · exact noConnective d (Or.inr inRight)

/-- With comparisons between operands that stand apart, the evaluation of a condition is Kleene
logic in which no comparison is known.  The known symbols do not have the names of comparisons. -/
theorem evaluate_eq_value_of_standApart (state : Conditional.State)
    (names : ∀ name, ∀ c ∈ name.toList, Comparison.IsMark c -> state.symbols.lookup name = none)
    {expression : Expression} {text : List Char} (written : IsWritten StandApart expression text) :
    state.evaluate text = Kleene.orTrue (expression.value state.symbols.lookup) :=
  congrArg Kleene.orTrue (value_parse written (value_comparison names))

/-- A comparison of which nothing is known, beside the negation of a defined symbol. -/
theorem evaluate_eq_value_of_standApart_mixed :
    (∀ name, ∀ c ∈ name.toList, Comparison.IsMark c ->
        (SymbolTable.initial.define "C").lookup name = none) ∧
      IsWritten StandApart
        (.and (.comparison .equal (.and (.symbol "A") (.symbol "B")) (.literal 0))
          (.not (.symbol "C")))
        "(A && B) == 0 && !C".toList ∧
      (Conditional.State.ofSymbols (SymbolTable.initial.define "C")).evaluate
        "(A && B) == 0 && !C".toList = false := by
  have names : ∀ name, ∀ c ∈ name.toList, Comparison.IsMark c ->
      (SymbolTable.initial.define "C").lookup name = none := by
    intro name c member mark
    have other : name ≠ "C" := by
      rintro rfl
      rw [List.mem_singleton.mp member] at mark
      rcases mark with same | same | same <;> cases same
    rw [SymbolTable.define, SymbolTable.lookup_write, if_neg other]
    rfl
  have isNameA : IsName "A" := ⟨⟨'A', rfl, by decide⟩, List.all_eq_true.mp rfl, by decide⟩
  have isNameB : IsName "B" := ⟨⟨'B', rfl, by decide⟩, List.all_eq_true.mp rfl, by decide⟩
  have isNameC : IsName "C" := ⟨⟨'C', rfl, by decide⟩, List.all_eq_true.mp rfl, by decide⟩
  have zero : Writes StandApart .primary (.literal 0) "0".toList :=
    @Writes.literal _ ['0'] [] (by decide) (List.all_eq_true.mp rfl)
      (List.all_eq_true.mp rfl) (by decide)
  have both : Writes StandApart .primary (.and (.symbol "A") (.symbol "B")) "(A && B)".toList :=
    .parenthesized (.disjunct (.and (.conjunct (.operand (.unary (.symbol isNameA))))
      (.conjunct (.operand (.unary (.symbol isNameB)))) (.intro [' '] [' '] areBlank_space
      areBlank_space))) (Spaced.refl _)
  have apart : StandApart "(A && B)".toList "0".toList :=
    Or.inr (Or.inl (fun closed => nomatch closed))
  have compared : Writes StandApart .comparison
      (.comparison .equal (.and (.symbol "A") (.symbol "B")) (.literal 0)) "(A && B) == 0".toList :=
    @Writes.comparison _ _ _ .equal _ [' ', '=', '=', ' '] _ both zero
      (.intro [' '] [' '] areBlank_space areBlank_space) apart
  have negated : Writes StandApart .unary (.not (.symbol "C")) "!C".toList :=
    .not (.unary (.symbol isNameC)) areBlank_nil
  have written : IsWritten StandApart
      (.and (.comparison .equal (.and (.symbol "A") (.symbol "B")) (.literal 0))
        (.not (.symbol "C")))
      "(A && B) == 0 && !C".toList :=
    ⟨_, .disjunct (.and (.conjunct compared) (.conjunct (.operand negated))
      (.intro [' '] [' '] areBlank_space areBlank_space)), Spaced.refl _⟩
  exact ⟨names, written, evaluate_eq_value_of_standApart _ names written⟩

/-- Two operands in parentheses can look like one text in parentheses, and a symbol can have the
name that a comparison looks like.  Then code is passed although nothing is known to exclude it. -/
theorem evaluate_eq_false_of_unknown :
    (IsWritten (fun _ _ => True)
        (.comparison .equal (.literal 0) (.and (.literal 0) (.literal 0)))
        "(0) == (0 && 0)".toList ∧
      (Expression.comparison .equal (.literal 0) (.and (.literal 0) (.literal 0))).value
        SymbolTable.initial.lookup = none ∧
      (Conditional.State.ofSymbols SymbolTable.initial).evaluate "(0) == (0 && 0)".toList =
        false) ∧
    (IsWritten StandApart (.comparison .equal (.definition "A") (.symbol "B"))
        "defined A == B".toList ∧
      (Expression.comparison .equal (.definition "A") (.symbol "B")).value
        (SymbolTable.initial.undefine "A == B").lookup = none ∧
      (Conditional.State.ofSymbols (SymbolTable.initial.undefine "A == B")).evaluate
        "defined A == B".toList = false) := by
  constructor
  · have zero : Writes (fun _ _ => True) .primary (.literal 0) "0".toList :=
      @Writes.literal _ ['0'] [] (by decide) (List.all_eq_true.mp rfl)
      (List.all_eq_true.mp rfl) (by decide)
    have conjunct : Writes (fun _ _ => True) .conjunction (.literal 0) "0".toList :=
      .conjunct (.operand (.unary zero))
    have left : Writes (fun _ _ => True) .primary (.literal 0) "(0)".toList :=
      .parenthesized (.disjunct conjunct) (Spaced.refl _)
    have right : Writes (fun _ _ => True) .primary (.and (.literal 0) (.literal 0))
        "(0 && 0)".toList :=
      .parenthesized (.disjunct (.and conjunct conjunct
        (.intro [' '] [' '] areBlank_space areBlank_space))) (Spaced.refl _)
    have compared : Writes (fun _ _ => True) .comparison
        (.comparison .equal (.literal 0) (.and (.literal 0) (.literal 0)))
        "(0) == (0 && 0)".toList :=
      @Writes.comparison _ _ _ .equal _ [' ', '=', '=', ' '] _ left right
        (.intro [' '] [' '] areBlank_space areBlank_space) trivial
    refine ⟨⟨_, .disjunct (.conjunct compared), Spaced.refl _⟩, rfl, ?_⟩
    decide +kernel
  · have isNameA : IsName "A" := ⟨⟨'A', rfl, by decide⟩, List.all_eq_true.mp rfl, by decide⟩
    have isNameB : IsName "B" := ⟨⟨'B', rfl, by decide⟩, List.all_eq_true.mp rfl, by decide⟩
    have left : Writes StandApart .primary (.definition "A") "defined A".toList :=
      @Writes.definition _ "A" [' '] isNameA (by decide) areBlank_space
    have apart : StandApart "defined A".toList "B".toList :=
      Or.inl (fun opened => nomatch opened)
    have compared : Writes StandApart .comparison
        (.comparison .equal (.definition "A") (.symbol "B")) "defined A == B".toList :=
      @Writes.comparison _ _ _ .equal _ [' ', '=', '=', ' '] _ left (.symbol isNameB)
        (.intro [' '] [' '] areBlank_space areBlank_space) apart
    refine ⟨⟨_, .disjunct (.conjunct compared), Spaced.refl _⟩, rfl, ?_⟩
    decide +kernel

end Expression
end HeaderScan
