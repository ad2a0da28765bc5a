import HeaderScan.Conditional
import HeaderScan.Proofs.Condition.Piece
import Mathlib.Data.List.Induction

namespace HeaderScan

/-!
What the reading of a condition makes of a text that writes an expression.

Level by level of the grammar, the value read is that of the expression, which is
`Expression.Writes.reads`.  What is read of a comparison is left open there, and no more is asked
of it than that its value is unknown; `Expression.evaluate_eq_value` is about the conditions without
comparisons.
-/

namespace Condition

open CharClass (isIdentifierStart isIdentifierContinue isDigit isIntegerSuffix)
open Expression (IsPiece IsName IsPlain Level)

/-! ## Operands -/

theorem negated?_eq_some_iff {text operand : List Char} :
    negated? text = some operand ↔
      ∃ later, text = '!' :: later ∧ Text.trimStart later = operand := by
  constructor
  · intro found
    unfold negated? at found
    split at found
    next later => exact ⟨later, rfl, Option.some.inj found⟩
    next => cases found
  · rintro ⟨later, rfl, rfl⟩
    rfl

theorem parenthesized?_eq_some_iff {text operand : List Char} :
    parenthesized? text = some operand ↔
      ∃ inner, text = '(' :: (inner ++ [')']) ∧ Text.trim inner = operand := by
  constructor
  · intro found
    unfold parenthesized? at found
    split at found
    next later =>
      split at found
      next closed =>
        rcases List.getLast?_eq_some_iff.mp closed with ⟨inner, rfl⟩
        rw [List.dropLast_concat] at found
        exact ⟨inner, rfl, Option.some.inj found⟩
      next => cases found
    next => cases found
  · rintro ⟨inner, rfl, rfl⟩
    simp [parenthesized?]

theorem definitionTest?_eq_some_iff {text later : List Char} :
    definitionTest? text = some later ↔
      text = "defined".toList ++ later ∧ later.head?.any isIdentifierContinue = false := by
  constructor
  · intro found
    unfold definitionTest? at found
    split at found
    next begins =>
      rcases List.isPrefixOf_iff_prefix.mp begins with ⟨rest, rfl⟩
      have behind : ("defined".toList ++ rest).drop "defined".length = rest := rfl
      rw [behind] at found
      change (if rest.head?.any isIdentifierContinue then none else some rest) = some later at found
      split at found
      next => cases found
      next stops =>
        rw [Option.some.injEq] at found
        rw [← found]
        exact ⟨rfl, Bool.eq_false_iff.mpr stops⟩
    next => cases found
  · rintro ⟨rfl, stops⟩
    have begins : "defined".toList.isPrefixOf ("defined".toList ++ later) = true :=
      List.isPrefixOf_iff_prefix.mpr (List.prefix_append _ _)
    have behind : ("defined".toList ++ later).drop "defined".length = later := rfl
    rw [definitionTest?, if_pos begins, behind]
    change (if later.head?.any isIdentifierContinue then none else some later) = some later
    rw [stops]
    rfl

/-- How an operand is read: by what it begins with, and at last as an integer or a symbol. -/
theorem ofOperand_eq (text : List Char) :
    ofOperand text =
      match negated? text with
      | some later => not (ofOperand later)
      | none =>
        match parenthesized? text with
        | some inner => ofText inner
        | none =>
          match definitionTest? text with
          | some later => symbol (String.ofList (testedName later))
          | none => ofAtom text := by
  rw [ofOperand]
  split
  next later found => rw [found]
  next notNegated =>
    rw [notNegated]
    split
    next inner found => rw [found]
    next notParenthesized =>
      cases definitionTest? text <;> simp only [notParenthesized]

theorem ofOperand_of_negated? {text operand : List Char} (found : negated? text = some operand) :
    ofOperand text = not (ofOperand operand) := by
  rw [ofOperand_eq, found]

theorem ofOperand_of_parenthesized? {text operand : List Char} (notNegated : negated? text = none)
    (found : parenthesized? text = some operand) : ofOperand text = ofText operand := by
  rw [ofOperand_eq, notNegated, found]

theorem negated?_eq_none {text : List Char} (first : text.head? ≠ some '!') :
    negated? text = none := by
  apply Option.eq_none_iff_forall_ne_some.mpr
  intro operand found
  rcases negated?_eq_some_iff.mp found with ⟨later, rfl, _⟩
  exact first rfl

theorem parenthesized?_eq_none {text : List Char}
    (open_or_closed : text.head? ≠ some '(' ∨ text.getLast? ≠ some ')') :
    parenthesized? text = none := by
  apply Option.eq_none_iff_forall_ne_some.mpr
  intro operand found
  rcases parenthesized?_eq_some_iff.mp found with ⟨inner, rfl, _⟩
  rcases open_or_closed with first | last
  · exact first rfl
  · exact last (by rw [← List.cons_append, List.getLast?_append]; rfl)

theorem ofOperand_of_definitionTest? {text later : List Char} (notNegated : negated? text = none)
    (notParenthesized : parenthesized? text = none) (found : definitionTest? text = some later) :
    ofOperand text = symbol (String.ofList (testedName later)) := by
  rw [ofOperand_eq, notNegated, notParenthesized, found]

theorem ofOperand_of_none {text : List Char} (notNegated : negated? text = none)
    (notParenthesized : parenthesized? text = none) (notTest : definitionTest? text = none) :
    ofOperand text = ofAtom text := by
  rw [ofOperand_eq, notNegated, notParenthesized, notTest]

/-! ### Integers -/

theorem decimalValue_eq_number (digits : List Char) :
    decimalValue digits = Expression.number digits := by
  induction digits using List.reverseRecOn with
  | nil => rfl
  | append_singleton earlier digit inductionHypothesis =>
    have behind : Expression.number (earlier ++ [digit]) =
        (digit.toNat - '0'.toNat) + 10 * Expression.number earlier := by
      rw [Expression.number, List.reverse_concat, List.map_cons, Nat.ofDigits_cons]
      rfl
    rw [behind, ← inductionHypothesis, decimalValue, List.foldl_append, Nat.add_comm]
    rfl

theorem ofAtom_of_integer {digits suffix : List Char} (nonempty : digits ≠ [])
    (areDigits : ∀ c ∈ digits, isDigit c = true) (isSuffix : ∀ c ∈ suffix, isIntegerSuffix c = true)
    (fits : Expression.number digits < UInt64.size) :
    ofAtom (digits ++ suffix) = literal (Expression.number digits != 0) := by
  have first : (digits ++ suffix).head?.any Char.isDigit = true := by
    rw [List.head?_append, List.head?_eq_some_head nonempty]
    exact areDigits _ (List.head_mem nonempty)
  have withoutSuffix : Text.dropEndWhile isIntegerSuffix (digits ++ suffix) = digits := by
    apply Text.dropEndWhile_append isSuffix
    refine ⟨_, List.getLast?_eq_some_getLast nonempty, ?_⟩
    exact CharClass.isIntegerSuffix_eq_false_of_isDigit (areDigits _ (List.getLast_mem nonempty))
  have isNumber :
      (digits.all Char.isDigit && decide (decimalValue digits < UInt64.size)) = true := by
    rw [Bool.and_eq_true, List.all_eq_true, decide_eq_true_eq, decimalValue_eq_number]
    exact ⟨areDigits, fits⟩
  rw [ofAtom, if_pos first, ofInteger, withoutSuffix]
  change (if digits.all Char.isDigit && decide (decimalValue digits < UInt64.size) then
    literal (decimalValue digits != 0) else unknown) = _
  rw [if_pos isNumber, decimalValue_eq_number]

/-! ### Names -/

theorem ofAtom_of_name {name : String} (isName : IsName name) :
    ofAtom name.toList = symbol name := by
  rcases isName.starts with ⟨c, isFirst, starts⟩
  have notDigit : name.toList.head?.any Char.isDigit = false := by
    rw [isFirst]
    apply Bool.eq_false_iff.mpr
    intro digit
    exact Bool.false_ne_true
      ((CharClass.isIdentifierStart_eq_false_of_isDigit digit).symm.trans starts)
  have isIdentifier : (name.toList.head?.any isIdentifierStart &&
      name.toList.all isIdentifierContinue) = true := by
    rw [isFirst, Bool.and_eq_true, List.all_eq_true]
    exact ⟨starts, isName.continues⟩
  rw [ofAtom, notDigit, if_neg Bool.false_ne_true, if_pos isIdentifier, String.ofList_toList]

theorem definitionTest?_of_name {name : String} (isName : IsName name) :
    definitionTest? name.toList = none := by
  apply Option.eq_none_iff_forall_ne_some.mpr
  intro later found
  rcases definitionTest?_eq_some_iff.mp found with ⟨isText, stops⟩
  cases later with
  | nil =>
    apply isName.notTest
    rw [List.append_nil] at isText
    exact String.toList_inj.mp isText
  | cons c rest =>
    have continues : isIdentifierContinue c = true := by
      apply isName.continues
      rw [isText]
      exact List.mem_append_right _ List.mem_cons_self
    exact Bool.false_ne_true (stops.symm.trans continues)

theorem testedName_of_name {name : String} (isName : IsName name) {blanks : List Char}
    (blank : AreBlank blanks) : testedName (blanks ++ name.toList) = name.toList := by
  have piece : IsPiece .primary name.toList := IsPiece.of_isName isName
  have notParenthesis : ∀ c ∈ name.toList, ∀ d, isIdentifierContinue d = false ->
      (c == d) = false := by
    intro c member d stops
    apply beq_eq_false_iff_ne.mpr
    exact CharClass.ne_of_isIdentifierContinue (isName.continues c member) stops
  have notOpened : name.toList.dropWhile (· == '(') = name.toList := by
    rcases piece.edges.first with ⟨c, isFirst, _⟩
    exact Text.dropWhile_of_head?
      ⟨c, isFirst, notParenthesis c (List.mem_of_head? isFirst) '(' (by decide)⟩
  have notClosed : Text.dropEndWhile (· == ')') (name.toList ++ []) = name.toList := by
    rcases piece.edges.last with ⟨c, isLast, _⟩
    exact Text.dropEndWhile_append (fun _ member => nomatch member)
      ⟨c, isLast, notParenthesis c (List.mem_of_getLast? isLast) ')' (by decide)⟩
  rw [List.append_nil] at notClosed
  rw [testedName, Text.trim_of_spaced piece.edges (Spaced.behind blank), notOpened, notClosed,
    Text.trim_eq_self piece.edges]

/-- Within parentheses a name may have blanks around it. -/
theorem testedName_of_parenthesized {name : String} (isName : IsName name)
    {blanks inner : List Char} (blank : AreBlank blanks) (spaced : Spaced name.toList inner) :
    testedName (blanks ++ '(' :: (inner ++ [')'])) = name.toList := by
  have piece : IsPiece .primary name.toList := IsPiece.of_isName isName
  have plain : ∀ c ∈ inner, IsPlain .primary c :=
    spaced.forall_mem (fun c => IsPlain.of_isBlank _)
      (fun c member => IsPlain.of_isIdentifierContinue _ (isName.continues c member))
  have nonempty : inner ≠ [] := by
    cases spaced with
    | intro front back _ _ => simp [piece.ne_nil]
  have opened : ('(' :: (inner ++ [')'])).dropWhile (· == '(') = inner ++ [')'] := by
    rw [List.dropWhile_cons_of_pos (by decide)]
    apply Text.dropWhile_of_head?
    refine ⟨inner.head nonempty, ?_, beq_eq_false_iff_ne.mpr (plain _ (List.head_mem nonempty)).1⟩
    rw [List.head?_append, List.head?_eq_some_head nonempty, Option.some_or]
  have closed : Text.dropEndWhile (· == ')') (inner ++ [')']) = inner := by
    apply Text.dropEndWhile_append
    · intro c member
      rw [List.mem_singleton.mp member]
      rfl
    · exact ⟨inner.getLast nonempty, List.getLast?_eq_some_getLast nonempty,
        beq_eq_false_iff_ne.mpr (plain _ (List.getLast_mem nonempty)).2.1⟩
  have enclosed : IsPiece .primary ('(' :: (inner ++ [')'])) := piece.parenthesized spaced
  rw [testedName, Text.trim_of_spaced enclosed.edges (Spaced.behind blank), opened, closed,
    Text.trim_of_spaced piece.edges spaced]

/-! ### The forms of operands -/

theorem ofOperand_of_integer {digits suffix : List Char} (nonempty : digits ≠ [])
    (areDigits : ∀ c ∈ digits, isDigit c = true) (isSuffix : ∀ c ∈ suffix, isIntegerSuffix c = true)
    (fits : Expression.number digits < UInt64.size) :
    ofOperand (digits ++ suffix) = literal (Expression.number digits != 0) := by
  have other : ∀ {c}, isDigit c = false -> (digits ++ suffix).head? ≠ some c :=
    Expression.head?_ne_of_digits nonempty areDigits suffix
  rw [ofOperand_of_none]
  · exact ofAtom_of_integer nonempty areDigits isSuffix fits
  · exact negated?_eq_none (other (by decide))
  · exact parenthesized?_eq_none (Or.inl (other (by decide)))
  · apply Option.eq_none_iff_forall_ne_some.mpr
    intro later found
    have isFirst := congrArg List.head? (definitionTest?_eq_some_iff.mp found).1
    exact other (by decide : isDigit 'd' = false) isFirst

theorem ofOperand_of_name {name : String} (isName : IsName name) :
    ofOperand name.toList = symbol name := by
  rw [ofOperand_of_none]
  · exact ofAtom_of_name isName
  · exact negated?_eq_none (isName.head?_ne (by decide))
  · exact parenthesized?_eq_none (Or.inl (isName.head?_ne (by decide)))
  · exact definitionTest?_of_name isName

/-- A word ends where blanks begin. -/
theorem wordEnds_of_areBlank {blanks later : List Char} (blank : AreBlank blanks)
    (ends : blanks = [] -> later.head?.any isIdentifierContinue = false) :
    (blanks ++ later).head?.any isIdentifierContinue = false := by
  cases blanks with
  | nil => exact ends rfl
  | cons c rest =>
    apply Bool.eq_false_iff.mpr
    intro continues
    have notBlank := CharClass.isBlank_eq_false_of_isIdentifierContinue continues
    exact Bool.false_ne_true (notBlank.symm.trans (blank c List.mem_cons_self))

theorem ofOperand_of_test {later : List Char}
    (stops : later.head?.any isIdentifierContinue = false) :
    ofOperand ("defined".toList ++ later) = symbol (String.ofList (testedName later)) := by
  apply ofOperand_of_definitionTest?
  · exact negated?_eq_none (fun same => nomatch same)
  · exact parenthesized?_eq_none (Or.inl (fun same => nomatch same))
  · exact definitionTest?_eq_some_iff.mpr ⟨rfl, stops⟩

theorem ofOperand_of_parentheses {body inner : List Char} (edges : Text.HasEdges body)
    (spaced : Spaced body inner) : ofOperand ('(' :: (inner ++ [')'])) = ofText body := by
  apply ofOperand_of_parenthesized?
  · exact negated?_eq_none (fun same => nomatch same)
  · exact parenthesized?_eq_some_iff.mpr ⟨inner, rfl, Text.trim_of_spaced edges spaced⟩

theorem ofOperand_of_negation {blanks text : List Char} (blank : AreBlank blanks)
    (edges : Text.HasEdges text) : ofOperand ('!' :: (blanks ++ text)) = not (ofOperand text) := by
  apply ofOperand_of_negated?
  exact negated?_eq_some_iff.mpr ⟨_, rfl, Text.trimStart_of_areBlank blank edges.first⟩

/-! ## Conjunctions and disjunctions -/

/-- The condition that a text is read as when it is cut at conjunctions only. -/
def ofConjunction (text : List Char) : Condition :=
  all ((splitTopLevel '&' 0 text).map fun operand => ofOperand (Text.trim operand))

theorem ofText_eq (text : List Char) :
    ofText text =
      any ((splitTopLevel '|' 0 text).map fun side => ofConjunction (Text.trim side)) := by
  rw [ofText]
  simp only [List.map_attach_eq_pmap, List.pmap_eq_map, ofConjunction]

variable {level : Level} {left middle right text : List Char} {known : String → Option Bool}

theorem ofConjunction_of_operand (piece : IsPiece level text) (notCut : level.Excludes '&')
    {spaced : List Char} (isSpaced : Spaced text spaced) :
    ofConjunction spaced = ofOperand text := by
  rw [ofConjunction, piece.splitTopLevel_spaced notCut isSpaced, List.map_singleton,
    Text.trim_of_spaced piece.edges isSpaced]
  rfl

theorem ofText_of_conjunction (piece : IsPiece level text) (notCut : level.Excludes '|')
    {spaced : List Char} (isSpaced : Spaced text spaced) :
    ofText spaced = ofConjunction text := by
  rw [ofText_eq, piece.splitTopLevel_spaced notCut isSpaced, List.map_singleton,
    Text.trim_of_spaced piece.edges isSpaced]
  rfl

theorem value_ofConjunction_join (pieceLeft : IsPiece level left)
    (spacedMiddle : Spaced ['&', '&'] middle) (spaced : Spaced (left ++ (middle ++ right)) text) :
    ∃ spacedLeft spacedRight, Spaced left spacedLeft ∧ Spaced right spacedRight ∧
      (ofConjunction text).value known =
        Kleene.and ((ofConjunction spacedLeft).value known)
          ((ofConjunction spacedRight).value known) := by
  rcases pieceLeft.splitTopLevel_join (Or.inl rfl) spacedMiddle spaced with
    ⟨spacedLeft, spacedRight, isLeft, isRight, cut⟩
  refine ⟨spacedLeft, spacedRight, isLeft, isRight, ?_⟩
  rw [ofConjunction, cut, List.map_append, value_all_append]
  rfl

theorem value_ofText_join (pieceLeft : IsPiece level left)
    (spacedMiddle : Spaced ['|', '|'] middle) (spaced : Spaced (left ++ (middle ++ right)) text) :
    ∃ spacedLeft spacedRight, Spaced left spacedLeft ∧ Spaced right spacedRight ∧
      (ofText text).value known =
        Kleene.or ((ofText spacedLeft).value known) ((ofText spacedRight).value known) := by
  rcases pieceLeft.splitTopLevel_join (Or.inr rfl) spacedMiddle spaced with
    ⟨spacedLeft, spacedRight, isLeft, isRight, cut⟩
  refine ⟨spacedLeft, spacedRight, isLeft, isRight, ?_⟩
  rw [ofText_eq, cut, List.map_append, value_any_append, ← ofText_eq, ← ofText_eq]

end Condition

/-! ## Expressions -/

namespace Expression

open CharClass (isIdentifierContinue)

variable {mayCompare : List Char → List Char → Prop} {level : Level} {expression : Expression}
  {text : List Char} {known : String → Option Bool}

/-- A text is a piece for its level. -/
theorem Writes.isPiece (writes : Writes mayCompare level expression text) :
    IsPiece level text := by
  have test : ∀ level, IsPiece level "defined".toList := fun level =>
    IsPiece.of_isIdentifierContinue (by decide) isIdentifierContinue_of_mem_test
  induction writes with
  | literal nonempty areDigits isSuffix _ =>
    apply IsPiece.of_isIdentifierContinue
    · exact List.append_ne_nil_of_left_ne_nil nonempty _
    · intro c member
      rcases List.mem_append.mp member with isDigit | inSuffix
      · exact CharClass.isIdentifierContinue_of_isDigit (areDigits c isDigit)
      · exact CharClass.isIdentifierContinue_of_isIntegerSuffix (isSuffix c inSuffix)
  | symbol isName => exact IsPiece.of_isName isName
  | definition isName _ blank =>
    exact (test _).join (fun c member => IsPlain.of_isBlank _ (blank c member))
      (IsPiece.of_isName isName)
  | definitionInParentheses isName blank spaced =>
    have piece : IsPiece .primary _ := IsPiece.of_isName isName
    exact (test _).join (fun c member => IsPlain.of_isBlank _ (blank c member))
      (piece.parenthesized spaced)
  | parenthesized _ spaced piece => exact piece.parenthesized spaced
  | unary _ piece | operand _ piece => exact piece.weaken fun _ excluded => excluded
  | not _ blank piece =>
    have sign : IsPiece .unary ['!'] := by
      apply IsPiece.of_isPlain
      · exact ⟨⟨'!', rfl, by decide⟩, ⟨'!', rfl, by decide⟩⟩
      · intro c member
        rw [List.mem_singleton.mp member]
        exact ⟨by decide, by decide, by rintro (same | same) <;> cases same⟩
    exact sign.join (fun c member => IsPlain.of_isBlank _ (blank c member)) piece
  | @comparison _ _ sign _ _ _ _ _ spaced _ first second =>
    refine IsPiece.join (first.weaken fun _ excluded => excluded) ?_
      (second.weaken fun _ excluded => excluded)
    exact spaced.forall_mem (fun c => IsPlain.of_isBlank _) fun c => IsPlain.of_mem_chars _
  | conjunct _ piece => exact piece.weaken fun _ => Or.inr
  | disjunct _ piece => exact piece.weaken fun _ excluded => excluded.elim
  | and _ _ spaced first second =>
    refine first.join (spaced.forall_mem (fun c => IsPlain.of_isBlank _) ?_) second
    intro c member
    have same : c = '&' := by simpa using member
    rw [same]
    exact ⟨by decide, by decide, fun excluded => nomatch excluded⟩
  | or _ _ spaced first second =>
    refine first.join (spaced.forall_mem (fun c => IsPlain.of_isBlank _) ?_) second
    intro c member
    have same : c = '|' := by simpa using member
    rw [same]
    exact ⟨by decide, by decide, id⟩

/-- What the reading has to make of the texts of a level.  Around an operand the blanks have been
dropped, around a text with connectives they may still stand. -/
def Level.Reads (known : String → Option Bool) : Level → Expression → List Char → Prop
  | .primary, expression, text | .unary, expression, text | .comparison, expression, text =>
    (Condition.ofOperand text).value known = expression.value known
  | .conjunction, expression, text =>
    ∀ spaced, Spaced text spaced ->
      (Condition.ofConjunction spaced).value known = expression.value known
  | .disjunction, expression, text =>
    ∀ spaced, Spaced text spaced -> (Condition.ofText spaced).value known = expression.value known

/-- Nothing is known of what the comparisons are read as that may be written. -/
def LeavesComparisons (mayCompare : List Char → List Char → Prop)
    (known : String → Option Bool) : Prop :=
  ∀ {first second : Expression} {sign : Comparison} {left middle right : List Char},
    Writes mayCompare .primary first left -> Writes mayCompare .primary second right ->
      Spaced sign.chars middle -> mayCompare left right ->
        (Condition.ofOperand (left ++ (middle ++ right))).value known = none

/-- A text of a level is read as the expression it writes, provided that nothing is known of what
the comparisons in it are read as. -/
theorem Writes.reads (writes : Writes mayCompare level expression text)
    (comparisons : LeavesComparisons mayCompare known) :
    level.Reads known expression text := by
  induction writes with
  | literal nonempty areDigits isSuffix fits =>
    exact congrArg _ (Condition.ofOperand_of_integer nonempty areDigits isSuffix fits)
  | symbol isName => exact congrArg _ (Condition.ofOperand_of_name isName)
  | @definition name blanks isName nonempty blank =>
    have stops : (blanks ++ name.toList).head?.any isIdentifierContinue = false :=
      Condition.wordEnds_of_areBlank blank fun isNil => absurd isNil nonempty
    change (Condition.ofOperand _).value known = known name
    rw [Condition.ofOperand_of_test stops, Condition.testedName_of_name isName blank,
      String.ofList_toList]
    rfl
  | @definitionInParentheses name blanks inner isName blank spaced =>
    have stops : (blanks ++ '(' :: (inner ++ [')'])).head?.any isIdentifierContinue = false :=
      Condition.wordEnds_of_areBlank blank fun _ =>
        (by decide : isIdentifierContinue '(' = false)
    change (Condition.ofOperand _).value known = known name
    rw [Condition.ofOperand_of_test stops,
      Condition.testedName_of_parenthesized isName blank spaced, String.ofList_toList]
    rfl
  | parenthesized writes spaced reads =>
    change (Condition.ofOperand _).value known = _
    rw [Condition.ofOperand_of_parentheses writes.isPiece.edges spaced]
    exact reads _ (Spaced.refl _)
  | not writes blank reads =>
    change (Condition.ofOperand _).value known = _
    rw [Condition.ofOperand_of_negation blank writes.isPiece.edges]
    exact congrArg Kleene.not reads
  | unary _ reads | operand _ reads => exact reads
  | comparison first second spaced admitted _ _ => exact comparisons first second spaced admitted
  | conjunct writes reads =>
    intro spaced isSpaced
    rw [Condition.ofConjunction_of_operand writes.isPiece (Or.inl rfl) isSpaced]
    exact reads
  | and writesFirst writesSecond spacedSign readsFirst readsSecond =>
    intro spaced isSpaced
    rcases Condition.value_ofConjunction_join writesFirst.isPiece spacedSign isSpaced with
      ⟨left, right, isLeft, isRight, joined⟩
    rw [joined, readsFirst left isLeft, readsSecond right isRight]
    rfl
  | disjunct writes reads =>
    intro spaced isSpaced
    rw [Condition.ofText_of_conjunction writes.isPiece rfl isSpaced]
    exact reads _ (Spaced.refl _)
  | or writesFirst writesSecond spacedSign readsFirst readsSecond =>
    intro spaced isSpaced
    rcases Condition.value_ofText_join writesFirst.isPiece spacedSign isSpaced with
      ⟨left, right, isLeft, isRight, joined⟩
    rw [joined, readsFirst left isLeft, readsSecond right isRight]
    rfl

theorem value_parse (written : IsWritten mayCompare expression text)
    (comparisons : LeavesComparisons mayCompare known) :
    (Condition.parse text).value known = expression.value known := by
  rcases written with ⟨body, writes, spaced⟩
  rw [Condition.parse, Text.trim_of_spaced writes.isPiece.edges spaced]
  exact writes.reads comparisons body (Spaced.refl body)

/-- The evaluation of a condition without comparisons is Kleene logic, however it is written: it is
true unless the expression that the text writes is known to be false. -/
theorem evaluate_eq_value (state : Conditional.State) {expression : Expression} {text : List Char}
    (written : IsWritten (fun _ _ => False) expression text) :
    state.evaluate text = Kleene.orTrue (expression.value state.symbols.lookup) :=
  congrArg Kleene.orTrue (value_parse written fun _ _ _ admitted => admitted.elim)

/-- A negated test of a defined symbol, and a zero beside a symbol of which nothing is known. -/
theorem evaluate_eq_value_mixed :
    IsWritten (fun _ _ => False)
        (.or (.not (.definition "A")) (.and (.literal 0) (.symbol "B")))
        "! defined( A )||(00uL && B) ".toList ∧
      (Conditional.State.ofSymbols (SymbolTable.initial.define "A")).evaluate
        "! defined( A )||(00uL && B) ".toList = false := by
  have isNameA : IsName "A" := ⟨⟨'A', rfl, by decide⟩, List.all_eq_true.mp rfl, by decide⟩
  have isNameB : IsName "B" := ⟨⟨'B', rfl, by decide⟩, List.all_eq_true.mp rfl, by decide⟩
  have test : Writes (fun _ _ => False) .unary (.not (.definition "A")) "! defined( A )".toList :=
    .not (.unary (.definitionInParentheses isNameA areBlank_nil
      (.intro [' '] [' '] areBlank_space areBlank_space))) areBlank_space
  have zero : Writes (fun _ _ => False) .primary (.literal 0) "00uL".toList :=
    @Writes.literal _ ['0', '0'] ['u', 'L'] (by decide) (List.all_eq_true.mp rfl)
      (List.all_eq_true.mp rfl) (by decide)
  have both : Writes (fun _ _ => False) .primary (.and (.literal 0) (.symbol "B"))
      "(00uL && B)".toList :=
    .parenthesized (.disjunct (.and (.conjunct (.operand (.unary zero)))
      (.conjunct (.operand (.unary (.symbol isNameB))))
      (.intro [' '] [' '] areBlank_space areBlank_space))) (Spaced.refl _)
  have written : IsWritten (fun _ _ => False)
      (.or (.not (.definition "A")) (.and (.literal 0) (.symbol "B")))
      "! defined( A )||(00uL && B) ".toList :=
    ⟨_, .or (.disjunct (.conjunct (.operand test)))
      (.disjunct (.conjunct (.operand (.unary both)))) (Spaced.refl _),
      .intro [] [' '] areBlank_nil areBlank_space⟩
  exact ⟨written, evaluate_eq_value _ written⟩

end Expression
end HeaderScan
