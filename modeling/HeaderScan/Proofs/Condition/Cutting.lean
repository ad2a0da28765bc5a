import HeaderScan.Condition.Text

namespace HeaderScan

/-!
How the text of a condition is taken apart.

A text is cut at the operators that stand outside of parentheses, and its pieces are freed of the
blanks around them.  Both are told here without the loops: `Condition.splitTopLevel_append` says
what a doubled sign in the middle of a text does, `Condition.splitTopLevel_of_uncut` when a text
stays in one piece, and `Text.trim_of_spaced` that blanks around a text do not matter.
-/

/-! ## Blanks -/

/-- A text of nothing but blanks. -/
def AreBlank (text : List Char) : Prop :=
  ∀ c ∈ text, Text.isBlank c = true

theorem areBlank_nil : AreBlank [] :=
  fun _ member => nomatch member

theorem areBlank_space : AreBlank [' '] := by
  intro c member
  rw [List.mem_singleton.mp member]
  decide

/-- A text with any blanks around it. -/
inductive Spaced (inner : List Char) : List Char → Prop
  | intro (front back : List Char) (blankFront : AreBlank front) (blankBack : AreBlank back) :
      Spaced inner (front ++ inner ++ back)

namespace Spaced

theorem refl (inner : List Char) : Spaced inner inner := by
  have spaced : Spaced inner ([] ++ inner ++ []) := Spaced.intro [] [] areBlank_nil areBlank_nil
  rwa [List.nil_append, List.append_nil] at spaced

theorem behind {inner blanks : List Char} (blank : AreBlank blanks) :
    Spaced inner (blanks ++ inner) := by
  have spaced : Spaced inner (blanks ++ inner ++ []) := Spaced.intro blanks [] blank areBlank_nil
  rwa [List.append_nil] at spaced

/-- Blanks around a text keep what holds of all blanks and of all characters of the text. -/
theorem forall_mem {holds : Char → Prop} {inner text : List Char}
    (spaced : Spaced inner text) (ofBlank : ∀ c, Text.isBlank c = true -> holds c)
    (ofInner : ∀ c ∈ inner, holds c) : ∀ c ∈ text, holds c := by
  cases spaced with
  | intro front back blankFront blankBack =>
    intro c member
    simp only [List.mem_append] at member
    rcases member with (inFront | inInner) | inBack
    · exact ofBlank c (blankFront c inFront)
    · exact ofInner c inInner
    · exact ofBlank c (blankBack c inBack)

/-- The last character of a text with blanks around it is a blank or the text's own. -/
theorem getLast?_eq {inner text : List Char} (spaced : Spaced inner text) {c : Char}
    (notBlank : Text.isBlank c = false) (isLast : text.getLast? = some c) :
    inner.getLast? = some c ∨ inner = [] := by
  cases spaced with
  | intro front back blankFront blankBack =>
    cases back.eq_nil_or_concat with
    | inl isNil =>
      subst isNil
      cases inner.eq_nil_or_concat with
      | inl isNil => exact Or.inr isNil
      | inr split =>
        rcases split with ⟨earlier, d, rfl⟩
        left
        simpa [← List.append_assoc] using isLast
    | inr split =>
      rcases split with ⟨earlier, d, rfl⟩
      have same : d = c := by simpa [← List.append_assoc] using isLast
      have blank := blankBack d (by simp)
      rw [same, notBlank] at blank
      cases blank

end Spaced

namespace CharClass

/-- The letters of an integer's suffix can stand in an identifier as well. -/
theorem isIdentifierContinue_of_isIntegerSuffix {c : Char} (suffix : isIntegerSuffix c = true) :
    isIdentifierContinue c = true := by
  simp only [isIntegerSuffix, Bool.or_eq_true, beq_iff_eq] at suffix
  rcases suffix with ((rfl | rfl) | rfl) | rfl <;> decide

theorem isIntegerSuffix_eq_false_of_isDigit {c : Char} (digit : isDigit c = true) :
    isIntegerSuffix c = false := by
  apply Bool.eq_false_iff.mpr
  intro suffix
  simp only [isIntegerSuffix, Bool.or_eq_true, beq_iff_eq] at suffix
  rcases suffix with ((rfl | rfl) | rfl) | rfl <;> revert digit <;> decide

/-- No blank stands in an identifier. -/
theorem isBlank_eq_false_of_isIdentifierContinue {c : Char}
    (continues : isIdentifierContinue c = true) : Text.isBlank c = false := by
  have noneContinues : ∀ range ∈ Text.blankRanges,
      ∀ code ∈ List.range' range.1 (range.2 + 1 - range.1),
        isIdentifierContinue (Char.ofNat code) = false := by decide +kernel
  apply Bool.eq_false_iff.mpr
  intro blank
  rcases Text.CodeRange.anyHolds_iff.mp blank with ⟨range, isRange, low, high⟩
  have inRange : c.toNat ∈ List.range' range.1 (range.2 + 1 - range.1) := by
    rw [List.mem_range'_1]
    omega
  have stops := noneContinues range isRange c.toNat inRange
  rw [Char.ofNat_toNat, continues] at stops
  cases stops

/-- A character that cannot stand in an identifier is none that can. -/
theorem ne_of_isIdentifierContinue {c d : Char} (continues : isIdentifierContinue c = true)
    (stops : isIdentifierContinue d = false) : c ≠ d := by
  rintro rfl
  exact Bool.false_ne_true (stops.symm.trans continues)

end CharClass

namespace Text

theorem dropWhile_of_head? {inClass : Char → Bool} {text : List Char}
    (first : ∃ c, text.head? = some c ∧ inClass c = false) : text.dropWhile inClass = text := by
  rcases first with ⟨c, isFirst, outside⟩
  rcases List.head?_eq_some_iff.mp isFirst with ⟨later, rfl⟩
  apply List.dropWhile_cons_of_neg
  rw [outside]
  exact Bool.false_ne_true

/-- A text that begins and ends with characters other than blanks. -/
structure HasEdges (text : List Char) : Prop where
  first : ∃ c, text.head? = some c ∧ isBlank c = false
  last : ∃ c, text.getLast? = some c ∧ isBlank c = false

namespace HasEdges

variable {left right : List Char}

theorem head?_append (edges : HasEdges left) (later : List Char) :
    (left ++ later).head? = left.head? := by
  rcases edges.first with ⟨c, isFirst, _⟩
  rw [List.head?_append, isFirst, Option.some_or]

theorem getLast?_append (edges : HasEdges right) (earlier : List Char) :
    (earlier ++ right).getLast? = right.getLast? := by
  rcases edges.last with ⟨c, isLast, _⟩
  rw [List.getLast?_append, isLast, Option.some_or]

/-- Only the outer edges of a text matter. -/
theorem join (edgesLeft : HasEdges left) (edgesRight : HasEdges right) (middle : List Char) :
    HasEdges (left ++ (middle ++ right)) where
  first := by
    rw [edgesLeft.head?_append]
    exact edgesLeft.first
  last := by
    rw [← List.append_assoc, edgesRight.getLast?_append]
    exact edgesRight.last

end HasEdges

theorem trimStart_of_areBlank {front text : List Char} (blank : AreBlank front)
    (first : ∃ c, text.head? = some c ∧ isBlank c = false) : trimStart (front ++ text) = text := by
  rw [trimStart, List.dropWhile_append_of_pos blank, dropWhile_of_head? first]

/-- What stands behind the last character outside of a class is dropped. -/
theorem dropEndWhile_append {inClass : Char → Bool} {text back : List Char}
    (inside : ∀ c ∈ back, inClass c = true)
    (last : ∃ c, text.getLast? = some c ∧ inClass c = false) :
    dropEndWhile inClass (text ++ back) = text := by
  rcases last with ⟨c, isLast, outside⟩
  rcases List.getLast?_eq_some_iff.mp isLast with ⟨earlier, rfl⟩
  have reversed : ∀ d ∈ back.reverse, inClass d = true :=
    fun d member => inside d (List.mem_reverse.mp member)
  rw [dropEndWhile, List.reverse_append, List.dropWhile_append_of_pos reversed,
    List.reverse_append, List.reverse_singleton, List.singleton_append,
    List.dropWhile_cons_of_neg]
  · rw [List.reverse_cons, List.reverse_reverse]
  · rw [outside]
    exact Bool.false_ne_true

/-- Trimming takes away the blanks around a text and nothing else. -/
theorem trim_of_spaced {inner text : List Char} (edges : HasEdges inner)
    (spaced : Spaced inner text) : trim text = inner := by
  cases spaced with
  | intro front back blankFront blankBack =>
    have first : ∃ c, (inner ++ back).head? = some c ∧ isBlank c = false := by
      rw [edges.head?_append]
      exact edges.first
    rw [trim, List.append_assoc, trimStart_of_areBlank blankFront first, trimEnd]
    exact dropEndWhile_append blankBack edges.last

theorem trim_eq_self {text : List Char} (edges : HasEdges text) : trim text = text :=
  trim_of_spaced edges (Spaced.refl text)

end Text

/-! ## The depth of parentheses -/

namespace Condition

/-- The depth of parentheses behind one more character. -/
def depthAfter (depth : Int) (c : Char) : Int :=
  if c = '(' then depth + 1 else if c = ')' then depth - 1 else depth

/-- The depth of parentheses behind a text. -/
def depthBehind (depth : Int) (text : List Char) : Int :=
  text.foldl depthAfter depth

theorem depthBehind_append (depth : Int) (first second : List Char) :
    depthBehind depth (first ++ second) = depthBehind (depthBehind depth first) second :=
  List.foldl_append

theorem depthAfter_of_ne (depth : Int) {c : Char} (notOpening : c ≠ '(') (notClosing : c ≠ ')') :
    depthAfter depth c = depth := by
  rw [depthAfter, if_neg notOpening, if_neg notClosing]

/-- An operator stands nowhere in a text outside of parentheses. -/
def Uncut (operator : Char) (depth : Int) : List Char → Prop
  | [] => True
  | c :: later => ¬ (depth = 0 ∧ c = operator) ∧ Uncut operator (depthAfter depth c) later

theorem uncut_append {operator : Char} {depth : Int} {first second : List Char}
    (uncutFirst : Uncut operator depth first)
    (uncutSecond : Uncut operator (depthBehind depth first) second) :
    Uncut operator depth (first ++ second) := by
  induction first generalizing depth with
  | nil => exact uncutSecond
  | cons c later inductionHypothesis =>
    exact ⟨uncutFirst.1, inductionHypothesis uncutFirst.2 uncutSecond⟩

theorem uncut_of_notMem {operator : Char} {text : List Char} (absent : operator ∉ text)
    (depth : Int) : Uncut operator depth text := by
  induction text generalizing depth with
  | nil => trivial
  | cons c later inductionHypothesis =>
    rw [List.mem_cons, not_or] at absent
    exact ⟨fun isCut => absent.1 isCut.2.symm, inductionHypothesis absent.2 _⟩

/-- The parentheses of a text come in pairs: wherever it stands, the depth behind it is that in
front of it, and within parentheses it stays within them. -/
structure IsBalanced (text : List Char) : Prop where
  depth : ∀ depth, depthBehind depth text = depth
  inside : ∀ operator depth, 0 < depth -> Uncut operator depth text

namespace IsBalanced

variable {first second text : List Char}

theorem append (balancedFirst : IsBalanced first) (balancedSecond : IsBalanced second) :
    IsBalanced (first ++ second) where
  depth depth := by
    rw [depthBehind_append, balancedFirst.depth, balancedSecond.depth]
  inside operator depth positive := by
    apply uncut_append (balancedFirst.inside operator depth positive)
    rw [balancedFirst.depth]
    exact balancedSecond.inside operator depth positive

/-- A text without parentheses. -/
theorem of_notMem (noOpening : '(' ∉ text) (noClosing : ')' ∉ text) : IsBalanced text := by
  induction text with
  | nil => exact ⟨fun _ => rfl, fun _ _ _ => trivial⟩
  | cons c later inductionHypothesis =>
    rw [List.mem_cons, not_or] at noOpening noClosing
    have balanced := inductionHypothesis noOpening.2 noClosing.2
    have stays : ∀ depth, depthAfter depth c = depth := fun depth =>
      depthAfter_of_ne depth (Ne.symm noOpening.1) (Ne.symm noClosing.1)
    constructor
    · intro depth
      change depthBehind (depthAfter depth c) later = depth
      rw [stays, balanced.depth]
    · intro operator depth positive
      refine ⟨fun isCut => by omega, ?_⟩
      rw [stays]
      exact balanced.inside operator depth positive

theorem of_areBlank (blank : AreBlank text) : IsBalanced text := by
  apply of_notMem
  · intro member
    exact absurd (blank _ member) (by decide)
  · intro member
    exact absurd (blank _ member) (by decide)

theorem of_spaced (balanced : IsBalanced first) (spaced : Spaced first text) :
    IsBalanced text := by
  cases spaced with
  | intro front back blankFront blankBack =>
    exact ((of_areBlank blankFront).append balanced).append (of_areBlank blankBack)

/-- A balanced text in parentheses. -/
theorem parenthesized (balanced : IsBalanced text) : IsBalanced ('(' :: (text ++ [')'])) where
  depth depth := by
    change depthBehind (depth + 1) (text ++ [')']) = depth
    rw [depthBehind_append, balanced.depth]
    change depth + 1 - 1 = depth
    omega
  inside operator depth positive := by
    refine ⟨fun isCut => by omega, ?_⟩
    apply uncut_append (balanced.inside operator (depth + 1) (by omega))
    rw [balanced.depth]
    exact ⟨fun isCut => by omega, trivial⟩

/-- No operator within parentheses is outside of them. -/
theorem uncut_parenthesized (balanced : IsBalanced text) {operator : Char}
    (notOpening : operator ≠ '(') : Uncut operator 0 ('(' :: (text ++ [')'])) := by
  refine ⟨fun isCut => notOpening isCut.2.symm, ?_⟩
  apply uncut_append (balanced.inside operator 1 (by omega))
  rw [balanced.depth]
  exact ⟨fun isCut => by omega, trivial⟩

end IsBalanced

/-! ## Cutting -/

theorem splitTopLevel_ne_nil (operator : Char) (depth : Int) (text : List Char) :
    splitTopLevel operator depth text ≠ [] := by
  have notNil : ∀ c pieces, consHead c pieces ≠ [] := by
    intro c pieces
    cases pieces <;> exact List.cons_ne_nil _ _
  fun_cases splitTopLevel operator depth text with
  | case1 => exact List.cons_ne_nil _ _
  | case2 => exact notNil _ _
  | case3 => exact notNil _ _
  | case4 => exact List.cons_ne_nil _ _
  | case5 => exact List.cons_ne_nil _ _
  | case6 => exact notNil _ _

/-- Where nothing is cut, a character goes to the piece behind it. -/
theorem splitTopLevel_cons {operator c : Char} {depth : Int} {later : List Char}
    (notCut : ¬ (depth = 0 ∧ c = operator ∧ later.head? = some operator)) :
    splitTopLevel operator depth (c :: later) =
      consHead c (splitTopLevel operator (depthAfter depth c) later) := by
  by_cases opening : c = '('
  · subst opening
    rfl
  · by_cases closing : c = ')'
    · subst closing
      rfl
    · rw [depthAfter_of_ne depth opening closing]
      cases later with
      | nil => simp [splitTopLevel, consHead]
      | cons d later =>
        rw [List.head?_cons, Option.some.injEq] at notCut
        simp [splitTopLevel, notCut]

/-- Where a doubled sign is cut out, the piece in front of it ends. -/
theorem splitTopLevel_doubled {operator : Char} (notOpening : operator ≠ '(')
    (notClosing : operator ≠ ')') (later : List Char) :
    splitTopLevel operator 0 (operator :: operator :: later) =
      [] :: splitTopLevel operator 0 later := by
  rw [splitTopLevel.eq_5 _ _ _ _ _ notOpening notClosing, if_pos ⟨rfl, rfl, rfl⟩]

/-- A text in which an operator is never outside of parentheses stays in one piece. -/
theorem splitTopLevel_of_uncut {operator : Char} {depth : Int} {text : List Char}
    (uncut : Uncut operator depth text) : splitTopLevel operator depth text = [text] := by
  induction text generalizing depth with
  | nil => rfl
  | cons c later inductionHypothesis =>
    have notCut : ¬ (depth = 0 ∧ c = operator ∧ later.head? = some operator) :=
      fun isCut => uncut.1 ⟨isCut.1, isCut.2.1⟩
    rw [splitTopLevel_cons notCut, inductionHypothesis uncut.2]
    rfl

theorem consHead_append {c : Char} {pieces : List (List Char)} (nonempty : pieces ≠ [])
    (others : List (List Char)) :
    consHead c (pieces ++ others) = consHead c pieces ++ others := by
  cases pieces with
  | nil => exact absurd rfl nonempty
  | cons piece pieces => rfl

/-- A doubled sign outside of parentheses cuts a text in two, unless the same sign stands just in
front of it. -/
theorem splitTopLevel_append {operator : Char} (notOpening : operator ≠ '(')
    (notClosing : operator ≠ ')') {depth : Int} {text : List Char}
    (outside : depthBehind depth text = 0) (last : text.getLast? ≠ some operator)
    (later : List Char) :
    splitTopLevel operator depth (text ++ operator :: operator :: later) =
      splitTopLevel operator depth text ++ splitTopLevel operator 0 later := by
  have cutHere := splitTopLevel_doubled notOpening notClosing later
  fun_induction splitTopLevel operator depth text with
  | case1 depth =>
    rw [show depth = 0 from outside]
    exact cutHere
  | case2 depth rest inductionHypothesis | case3 depth rest inductionHypothesis =>
    have lastOfRest : rest.getLast? ≠ some operator := by
      cases rest with
      | nil =>
        intro isLast
        cases isLast
      | cons => exact last
    rw [← consHead_append (splitTopLevel_ne_nil _ _ _), ← inductionHypothesis outside lastOfRest]
    rfl
  | case4 depth c notOpen notClose =>
    have notSign : c ≠ operator := fun same => last (congrArg some same)
    have here : depth = 0 := by
      rw [← outside]
      exact (depthAfter_of_ne depth notOpen notClose).symm
    rw [here, List.singleton_append, splitTopLevel_cons (fun isCut => notSign isCut.2.1),
      depthAfter_of_ne 0 notOpen notClose, cutHere]
    rfl
  | case5 depth c d rest notOpen notClose isCut inductionHypothesis =>
    rcases isCut with ⟨rfl, rfl, rfl⟩
    have outsideOfRest : depthBehind 0 rest = 0 := by
      change depthBehind (depthAfter (depthAfter 0 d) d) rest = 0 at outside
      rwa [depthAfter_of_ne 0 notOpen notClose, depthAfter_of_ne 0 notOpen notClose] at outside
    -- Behind the doubled sign something follows, since the text does not end with the sign.
    have lastOfRest : rest.getLast? ≠ some d := by
      cases rest with
      | nil => exact absurd rfl last
      | cons => exact last
    rw [List.cons_append, List.cons_append, splitTopLevel_doubled notOpen notClose,
      inductionHypothesis outsideOfRest lastOfRest]
    rfl
  | case6 depth c d rest notOpen notClose notCut inductionHypothesis =>
    have stays := depthAfter_of_ne depth notOpen notClose
    have outsideOfRest : depthBehind depth (d :: rest) = 0 := by
      change depthBehind (depthAfter depth c) (d :: rest) = 0 at outside
      rwa [stays] at outside
    have notCutHere : ¬ (depth = 0 ∧ c = operator ∧
        (d :: (rest ++ operator :: operator :: later)).head? = some operator) := by
      rwa [List.head?_cons, Option.some.injEq]
    rw [List.cons_append, List.cons_append, splitTopLevel_cons notCutHere, stays,
      ← consHead_append (splitTopLevel_ne_nil _ _ _), ← inductionHypothesis outsideOfRest last]
    rfl

end Condition
end HeaderScan
