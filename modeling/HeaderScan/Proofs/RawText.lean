import Mathlib.Algebra.Ring.Parity
import Mathlib.Data.List.DropRight
import Mathlib.Order.Bounds.Defs
import HeaderScan.Proofs.Cursor.Forward

namespace HeaderScan

/-!
Raw text, told by the offsets of the source.

A raw text is read character by character with a quote that opens and closes on the way.  Here the
place where it stops is told at once: it is the least offset at which the source or a line ends, or
at which, outside of quotes, the terminator or a comment stands, and whether an offset is quoted is
decided by the number of quotes in front of it.  This place decides about everything else.
-/

namespace RawText

/-! ## Texts -/

/-- Whether quotes are open behind a piece of text, given whether they are in front of it. -/
def quotedBehind (respectQuotes quoted : Bool) (piece : List Char) : Bool :=
  quoted ^^ (respectQuotes && decide (Odd (piece.count '"')))

/-- Whether a raw text stops in front of this text. -/
def stopsBefore (terminator : Char) (quoted : Bool) : List Char → Bool
  | [] => true
  | c :: later =>
    endsLine c || (!quoted && (c == terminator || (c == '/' && opensComment later)))

variable {terminator : Char} {respectQuotes quoted : Bool}

/-- A quote opens or closes quotes if they are respected. -/
theorem quotedBehind_cons (c : Char) (piece : List Char) :
    quotedBehind respectQuotes quoted (c :: piece) =
      quotedBehind respectQuotes (if c == '"' && respectQuotes then !quoted else quoted) piece := by
  unfold quotedBehind
  by_cases isQuote : c = '"'
  · subst isQuote
    have turns : decide (Odd (piece.count '"' + 1)) = !decide (Odd (piece.count '"')) := by
      rw [← decide_not, decide_eq_decide]
      exact Nat.odd_add_one
    rw [List.count_cons_self, turns]
    cases respectQuotes <;> simp
  · rw [List.count_cons_of_ne isQuote]
    simp [isQuote]

theorem body_snd (terminator : Char) (respectQuotes quoted : Bool) (text : List Char) :
    (body terminator respectQuotes quoted text).2 =
      quotedBehind respectQuotes quoted (body terminator respectQuotes quoted text).1 := by
  fun_induction body terminator respectQuotes quoted text with
  | case1 quoted => simp [quotedBehind]
  | case2 quoted c later stops => simp [quotedBehind]
  | case3 quoted c later goesOn quotedAfter text stop shape inductionHypothesis =>
    rw [shape] at inductionHypothesis
    rw [quotedBehind_cons]
    exact inductionHypothesis

/-- A raw text stops where its body ends. -/
theorem stopsBefore_body (terminator : Char) (respectQuotes quoted : Bool) (text : List Char) :
    stopsBefore terminator (body terminator respectQuotes quoted text).2
      (text.drop (body terminator respectQuotes quoted text).1.length) = true := by
  fun_induction body terminator respectQuotes quoted text with
  | case1 quoted => rfl
  | case2 quoted c later stops => exact stops
  | case3 quoted c later goesOn quotedAfter text stop shape inductionHypothesis =>
    rw [shape] at inductionHypothesis
    exact inductionHypothesis

/-- It stops nowhere before. -/
theorem stopsBefore_eq_false (terminator : Char) (respectQuotes quoted : Bool)
    (text : List Char) :
    ∀ count < (body terminator respectQuotes quoted text).1.length,
      stopsBefore terminator (quotedBehind respectQuotes quoted (text.take count))
        (text.drop count) = false := by
  fun_induction body terminator respectQuotes quoted text with
  | case1 quoted => simp
  | case2 quoted c later stops => simp
  | case3 quoted c later goesOn quotedAfter text stop shape inductionHypothesis =>
    rw [shape] at inductionHypothesis
    intro count inside
    cases count with
    | zero =>
      have here : quotedBehind respectQuotes quoted [] = quoted := by simp [quotedBehind]
      rw [List.take_zero, List.drop_zero, here]
      exact Bool.eq_false_iff.mpr goesOn
    | succ count =>
      rw [List.take_succ_cons, List.drop_succ_cons, quotedBehind_cons]
      exact inductionHypothesis count (Nat.lt_of_succ_lt_succ inside)

/-- No end of a line is in a body. -/
theorem not_mem_body (terminator : Char) (respectQuotes quoted : Bool) (text : List Char) :
    '\n' ∉ (body terminator respectQuotes quoted text).1 := by
  fun_induction body terminator respectQuotes quoted text with
  | case1 quoted => exact List.not_mem_nil
  | case2 quoted c later stops => exact List.not_mem_nil
  | case3 quoted c later goesOn quotedAfter text stop shape inductionHypothesis =>
    rw [shape] at inductionHypothesis
    intro member
    rcases List.mem_cons.mp member with rfl | isLater
    · exact goesOn rfl
    · exact inductionHypothesis isLater

end RawText

/-! ## Offsets -/

/-- A source can be cut at an offset, and this text is what stands behind the cut. -/
def Text.StandsAt (source : List Char) (offset : Nat) (text : List Char) : Prop :=
  ∃ front, splitAt? source offset = some (front, text)

namespace Cursor

variable {source text : List Char} {offset : Nat} {cursor : Cursor source}

/-- Behind the offset of a cursor stands what is left to read. -/
theorem standsAt_offset_iff : Text.StandsAt source cursor.offset text ↔ cursor.rest = text := by
  unfold Text.StandsAt
  rw [cursor.splitAt?_offset]
  simp

/-- An offset at which the source can be cut, and which is not in front of a cursor, is come to by
moving forwards. -/
theorem exists_advance_of_standsAt (stands : Text.StandsAt source offset text)
    (behind : cursor.offset ≤ offset) :
    ∃ count ≤ cursor.rest.length,
      (cursor.advance count).offset = offset ∧ cursor.rest.drop count = text := by
  rcases stands with ⟨front, cut⟩
  rcases Text.splitAt?_eq_some_iff.mp cut with ⟨joined, size⟩
  have place := cursor.offset_eq
  rw [← cursor.passed_append_rest] at joined
  rcases List.append_eq_append_iff.mp joined with
    ⟨extra, isPassed, isText⟩ | ⟨extra, isFront, isRest⟩
  · have passed := congrArg Text.byteLength isPassed
    rw [Text.byteLength_reverse, Text.byteLength_append, size] at passed
    have few := Text.length_le_byteLength extra
    have nothing : extra = [] := List.length_eq_zero_iff.mp (by omega)
    subst nothing
    refine ⟨0, Nat.zero_le _, ?_, by simp [isText]⟩
    rw [Text.byteLength_nil] at passed
    simp only [offset_advance, List.take_zero, Text.byteLength_nil]
    omega
  · refine ⟨extra.length, by simp [isRest], ?_, by simp [isRest]⟩
    rw [offset_advance, isRest, List.take_left, ← size, isFront, Text.byteLength_append,
      Text.byteLength_reverse, place]

end Cursor

namespace RawText

/-! ## Where a raw text stops -/

/-- An offset is quoted if quotes are respected and an odd number of them stands between the start
of the text and the offset. -/
def IsQuoted (source : List Char) (options : RawTextOptions) (start offset : Nat) : Prop :=
  options.respectQuotes = true ∧
    ∃ piece ∈ Text.slice? source start offset, Odd (piece.count '"')

instance (source : List Char) (options : RawTextOptions) (start offset : Nat) :
    Decidable (IsQuoted source options start offset) :=
  inferInstanceAs (Decidable (_ ∧ _))

/-- A raw text can stop at an offset: the source or a line ends there, or the offset is not quoted
and the terminator or a comment begins there. -/
inductive StopsAt (source : List Char) (terminator : Char) (options : RawTextOptions)
    (start offset : Nat) : Prop
  | sourceEnd : Text.StandsAt source offset [] -> StopsAt source terminator options start offset
  | lineEnd {c : Char} {later : List Char} : Text.StandsAt source offset (c :: later) ->
      c = '\r' ∨ c = '\n' -> StopsAt source terminator options start offset
  | terminator {later : List Char} : Text.StandsAt source offset (terminator :: later) ->
      ¬ IsQuoted source options start offset -> StopsAt source terminator options start offset
  | comment {c : Char} {later : List Char} : Text.StandsAt source offset ('/' :: c :: later) ->
      c = '/' ∨ c = '*' -> ¬ IsQuoted source options start offset ->
      StopsAt source terminator options start offset

/-- The terminator stands where the text stops, and is to be taken.  No end of a line is taken. -/
def TakesTerminator (source : List Char) (terminator : Char) (options : RawTextOptions)
    (stop : Nat) : Prop :=
  (∃ cut ∈ Text.splitAt? source stop, cut.2.head? = some terminator) ∧
    terminator ≠ '\r' ∧ terminator ≠ '\n' ∧ options.keepTerminator = false

instance (source : List Char) (terminator : Char) (options : RawTextOptions) (stop : Nat) :
    Decidable (TakesTerminator source terminator options stop) :=
  inferInstanceAs (Decidable (_ ∧ _))

variable {source : List Char} {terminator : Char} {options : RawTextOptions}
  {cursor : Cursor source}

/-- Quotes are counted in the text that is passed. -/
theorem isQuoted_advance_iff (cursor : Cursor source) (options : RawTextOptions) (count : Nat) :
    IsQuoted source options cursor.offset (cursor.advance count).offset ↔
      quotedBehind options.respectQuotes false (cursor.rest.take count) = true := by
  unfold IsQuoted quotedBehind
  rw [cursor.slice?_advance]
  simp

/-- Whether a raw text can stop at a place in front of a cursor is seen from what stands behind the
place. -/
theorem stopsAt_advance_iff (cursor : Cursor source) (terminator : Char)
    (options : RawTextOptions) (count : Nat) :
    StopsAt source terminator options cursor.offset (cursor.advance count).offset ↔
      stopsBefore terminator (quotedBehind options.respectQuotes false (cursor.rest.take count))
        (cursor.rest.drop count) = true := by
  have isQuoted := isQuoted_advance_iff cursor options count
  have behind : (cursor.advance count).rest = cursor.rest.drop count := rfl
  rw [← behind]
  generalize quotedBehind options.respectQuotes false (cursor.rest.take count) = quoted
    at isQuoted ⊢
  constructor
  · intro stops
    cases stops with
    | sourceEnd stands => rw [Cursor.standsAt_offset_iff.mp stands, stopsBefore]
    | lineEnd stands ends =>
      rw [Cursor.standsAt_offset_iff.mp stands]
      rcases ends with rfl | rfl <;> rfl
    | terminator stands outside =>
      rw [isQuoted, Bool.not_eq_true] at outside
      rw [Cursor.standsAt_offset_iff.mp stands, outside]
      simp [stopsBefore]
    | comment stands opens outside =>
      rw [isQuoted, Bool.not_eq_true] at outside
      rw [Cursor.standsAt_offset_iff.mp stands, outside]
      rcases opens with rfl | rfl <;> simp [stopsBefore, opensComment]
  · intro stops
    rcases shape : (cursor.advance count).rest with _ | ⟨c, later⟩
    · exact .sourceEnd (Cursor.standsAt_offset_iff.mpr shape)
    have stands := Cursor.standsAt_offset_iff.mpr shape
    rw [shape, stopsBefore, Bool.or_eq_true] at stops
    rcases stops with ends | stops
    · exact .lineEnd stands (by simpa [endsLine] using ends)
    · rw [Bool.and_eq_true, Bool.not_eq_true'] at stops
      have outside : ¬ IsQuoted source options cursor.offset (cursor.advance count).offset := by
        rw [isQuoted, stops.1]
        exact Bool.false_ne_true
      rcases Bool.or_eq_true _ _ ▸ stops.2 with isTerminator | opens
      · rw [beq_iff_eq] at isTerminator
        subst isTerminator
        exact .terminator stands outside
      · rw [Bool.and_eq_true, beq_iff_eq] at opens
        rcases opens with ⟨rfl, opens⟩
        rcases later with _ | ⟨d, rest⟩
        · cases opens
        · exact .comment stands (by simpa [opensComment, or_comm] using opens) outside

/-- The body of a raw text ends at the first offset at which the text can stop. -/
theorem isLeast_stopsAt (cursor : Cursor source) (terminator : Char) (options : RawTextOptions) :
    IsLeast {offset | cursor.offset ≤ offset ∧
        StopsAt source terminator options cursor.offset offset}
      (cursor.advance
        (body terminator options.respectQuotes false cursor.rest).1.length).offset := by
  have isFront := body_isPrefix terminator options.respectQuotes false cursor.rest
  constructor
  · refine ⟨Nat.le_add_right _ _, ?_⟩
    rw [stopsAt_advance_iff, ← List.prefix_iff_eq_take.mp isFront, ← body_snd]
    exact stopsBefore_body _ _ _ _
  · rintro offset ⟨behind, stops⟩
    have cut : ∃ text, Text.StandsAt source offset text := by
      cases stops with
      | sourceEnd stands | lineEnd stands | terminator stands | comment stands =>
        exact ⟨_, stands⟩
    rcases cut with ⟨text, stands⟩
    rcases Cursor.exists_advance_of_standsAt stands behind with ⟨count, -, rfl, -⟩
    rw [stopsAt_advance_iff] at stops
    rcases Nat.lt_or_ge count
      (body terminator options.respectQuotes false cursor.rest).1.length with inside | atLeast
    · have goesOn := stopsBefore_eq_false terminator options.respectQuotes false cursor.rest count
        inside
      rw [stops] at goesOn
      cases goesOn
    · refine Cursor.Precedes.offset_le
        ⟨count - (body terminator options.respectQuotes false cursor.rest).1.length, ?_⟩
      rw [Cursor.advance_advance, Nat.add_sub_cancel' atLeast]

/-- Within quotes no terminator is taken: a text that stops there does so at an end. -/
theorem StopsAt.not_takesTerminator {start stop : Nat}
    (stops : StopsAt source terminator options start stop)
    (quoted : IsQuoted source options start stop) :
    ¬ TakesTerminator source terminator options stop := by
  rintro ⟨⟨cut, isCut, isFirst⟩, notReturn, notFeed, -⟩
  have standing : ∀ {text}, Text.StandsAt source stop text -> text.head? = some terminator := by
    rintro text ⟨front, other⟩
    rw [← isFirst, ← Option.some.inj (other.symm.trans isCut)]
  cases stops with
  | sourceEnd stands => cases standing stands
  | lineEnd stands ends =>
    have same := Option.some.inj (standing stands)
    rcases ends with rfl | rfl
    · exact notReturn same.symm
    · exact notFeed same.symm
  | terminator _ outside | comment _ _ outside => exact outside quoted

theorem takesTerminator_offset_iff :
    TakesTerminator source terminator options cursor.offset ↔
      cursor.rest.head? = some terminator ∧ terminator ≠ '\r' ∧ terminator ≠ '\n' ∧
        options.keepTerminator = false := by
  unfold TakesTerminator
  rw [cursor.splitAt?_offset]
  simp

/-- What is read behind the body is the terminator, if it is taken. -/
theorem ending_eq (cursor : Cursor source) (terminator : Char) (options : RawTextOptions) :
    (if options.keepTerminator then []
      else Text.optionalFront (fun c => c == terminator && !endsLine c) cursor.rest) =
      if TakesTerminator source terminator options cursor.offset then [terminator] else [] := by
  simp only [takesTerminator_offset_iff]
  cases options.keepTerminator with
  | true => simp
  | false =>
    rcases cursor.rest with _ | ⟨c, later⟩
    · simp
    · rw [if_neg Bool.false_ne_true, Text.optionalFront_cons]
      by_cases isTerminator : c = terminator
      · subst isTerminator
        simp [endsLine]
      · simp [isTerminator]

/-- Passing the terminator, if it is taken, does not pass the end of a line. -/
theorem advance_ending (cursor : Cursor source) (terminator : Char) (options : RawTextOptions) :
    let ending :=
      if TakesTerminator source terminator options cursor.offset then [terminator] else []
    (cursor.advance ending.length).line = cursor.line ∧
      (cursor.advance ending.length).offset =
        if TakesTerminator source terminator options cursor.offset then
          cursor.offset + terminator.utf8Size
        else cursor.offset := by
  by_cases takes : TakesTerminator source terminator options cursor.offset
  · have first := takesTerminator_offset_iff.mp takes
    rcases List.head?_eq_some_iff.mp first.1 with ⟨later, shape⟩
    simp [takes, shape, first.2.2.1]
  · simp [takes]

/-! ## Reading -/

/-- A raw text has been read that starts at a cursor and stops at an offset.  The text is what
stands between the two, and the terminator if it is taken, without the spaces and tabs at its end.
The cursor comes to stand behind it. -/
structure IsReadUpTo (start : Cursor source) (terminator : Char) (options : RawTextOptions)
    (stop : Nat) (read : Except ScanError (List Char) × Cursor source) : Prop where
  isLeast : IsLeast {offset | start.offset ≤ offset ∧
    StopsAt source terminator options start.offset offset} stop
  result : ∃ text, Text.slice? source start.offset stop = some text ∧
    let ending := if TakesTerminator source terminator options stop then [terminator] else []
    let kept := (text ++ ending).rdropWhile fun c => c == ' ' || c == '\t'
    read.1 =
      if IsQuoted source options start.offset stop then
        .error ⟨.unterminatedQuote, start.position⟩
      else if Text.byteLength kept < 1024 then .ok kept
      else .error ⟨.stringTooLong, start.position⟩
  offset : read.2.offset =
    if TakesTerminator source terminator options stop then stop + terminator.utf8Size else stop
  offset_of_isQuoted : IsQuoted source options start.offset stop -> read.2.offset = stop
  line : read.2.line = start.line

end RawText

namespace Cursor

variable {source : List Char}

/-- A raw text is read up to the first offset at which it can stop. -/
theorem isReadUpTo_readRawText (cursor : Cursor source) (terminator : Char)
    (options : RawTextOptions) :
    ∃ stop, RawText.IsReadUpTo cursor terminator options stop
      (cursor.readRawText terminator options) := by
  rcases shape : RawText.body terminator options.respectQuotes false cursor.rest with
    ⟨body, quoted⟩
  have isLeast := RawText.isLeast_stopsAt cursor terminator options
  have isFront := RawText.body_isPrefix terminator options.respectQuotes false cursor.rest
  have behind := RawText.body_snd terminator options.respectQuotes false cursor.rest
  rw [shape] at isLeast isFront behind
  have isBody := List.prefix_iff_eq_take.mp isFront
  have isQuoted := RawText.isQuoted_advance_iff cursor options body.length
  have slice := cursor.slice?_advance body.length
  rw [← isBody] at isQuoted slice
  rw [← behind] at isQuoted
  have noTerminator := isLeast.1.2.not_takesTerminator
  have ending := RawText.ending_eq (cursor.advance body.length) terminator options
  have noFeed := RawText.not_mem_body terminator options.respectQuotes false cursor.rest
  rw [shape] at noFeed
  have sameLine : (cursor.advance body.length).line = cursor.line := by
    rw [line_advance, ← isBody, List.count_eq_zero.mpr noFeed, Nat.add_zero]
  have behindEnding := RawText.advance_ending (cursor.advance body.length) terminator options
  unfold readRawText
  simp only [shape, ending]
  cases quoted with
  | true =>
    have quotes := isQuoted.mpr rfl
    refine ⟨_, isLeast, ⟨body, slice, ?_⟩, ?_, fun _ => rfl, sameLine⟩
    · simp only [if_pos quotes]
      rfl
    · simp only [if_neg (noTerminator quotes), if_true]
  | false =>
    have notQuoted := fun quotes => Bool.false_ne_true (isQuoted.mp quotes)
    refine ⟨_, isLeast, ⟨body, slice, ?_⟩, behindEnding.2,
      fun quotes => (notQuoted quotes).elim, behindEnding.1.trans sameLine⟩
    simp only [if_neg notQuoted]
    rfl

end Cursor

namespace Scanner

variable {source : List Char}

/-- Behind the trivia a raw text is read up to the first offset at which it can stop, and nothing
but the cursor changes. -/
theorem readRawText_eq (scanner : Scanner source) (terminator : Char) (options : RawTextOptions)
    {behind : Scanner source} (passed : scanner.rewind.passTrivia = (.ok (), behind)) :
    ∃ stop read, RawText.IsReadUpTo behind.cursor terminator options stop read ∧
      scanner.readRawText terminator options =
        (read.1.map String.ofList, behind.withCursor read.2) := by
  rcases behind.cursor.isReadUpTo_readRawText terminator options with ⟨stop, isRead⟩
  refine ⟨stop, _, isRead, ?_⟩
  rw [readRawText, passed]

/-- Behind a comment, and with a comma in quotes in front of the one that ends the text. -/
theorem readRawText_eq_quotedComma :
    let scanner := ofSource " /**/ \"a,\" b , c".toList
    let options := ⟨true, false⟩
    scanner.rewind.passTrivia = (.ok (), scanner.passTrivia.2) ∧
      ∃ stop read, RawText.IsReadUpTo scanner.passTrivia.2.cursor ',' options stop read ∧
        scanner.readRawText ',' options =
          (read.1.map String.ofList, scanner.passTrivia.2.withCursor read.2) := by
  intro scanner options
  have passed : scanner.rewind.passTrivia = (.ok (), scanner.passTrivia.2) :=
    Prod.ext (by decide +kernel) rfl
  exact ⟨passed, scanner.readRawText_eq ',' options passed⟩

end Scanner
end HeaderScan
