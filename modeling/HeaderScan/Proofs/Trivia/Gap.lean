import HeaderScan.Proofs.Text.Longest
import HeaderScan.Trivia

namespace HeaderScan

open CharClass (isWhitespace)

/-!
What may stand between two tokens, told without reading it.

A gap consists of white space and of whole comments.  A line comment reaches up to and with its
line feed, and only at the end of a source may the line feed be missing; a block comment ends with
the first mark that closes it.  `isLongestGap_read` says that the trivia which are read are a gap,
and that no longer gap stands at the front of the text.
-/

/-- A gap, given what comes behind it. -/
inductive IsGap : List Char → List Char → Prop
  | nothing {later : List Char} : IsGap [] later
  | blank {c : Char} {gap later : List Char} : isWhitespace c = true -> IsGap gap later ->
      IsGap (c :: gap) later
  | lineComment {body gap later : List Char} : '\n' ∉ body -> IsGap gap later ->
      IsGap ('/' :: '/' :: (body ++ '\n' :: gap)) later
  | lastLine {body : List Char} : '\n' ∉ body -> IsGap ('/' :: '/' :: body) []
  | blockComment {body gap later : List Char} : ¬ ['*', '/'] <:+: body ++ ['*'] ->
      IsGap gap later -> IsGap ('/' :: '*' :: (body ++ '*' :: '/' :: gap)) later

/-- A gap that takes in all that it can. -/
structure IsLongestGap (gap later : List Char) : Prop where
  isGap : IsGap gap later
  longest : ∀ other rest, other ++ rest = gap ++ later -> IsGap other rest ->
    other.length ≤ gap.length

namespace TriviaItem

/-! ## Comments -/

theorem blockBody?_of_closed {body : List Char} (noMark : ¬ ['*', '/'] <:+: body ++ ['*'])
    (later : List Char) : blockBody? (body ++ '*' :: '/' :: later) = some (body ++ ['*', '/']) := by
  induction body with
  | nil => rfl
  | cons c body inductionHypothesis =>
    rw [List.cons_append, List.infix_cons_iff, not_or] at noMark
    have inner := inductionHypothesis noMark.2
    rw [List.cons_append, blockBody?, inner]
    · rfl
    · -- A mark at the front would have been the first one.
      intro rest isStar isSlash
      apply noMark.1
      cases body with
      | nil => simp at isSlash
      | cons d body =>
        have isMark : d = '/' := by simpa using congrArg List.head? isSlash
        simp [isStar, isMark]

theorem closed_of_blockBody? {text body : List Char} (found : blockBody? text = some body) :
    ∃ inner, ¬ ['*', '/'] <:+: inner ++ ['*'] ∧ body = inner ++ ['*', '/'] := by
  fun_induction blockBody? text generalizing body with
  | case1 => cases found
  | case2 later =>
    refine ⟨[], ?_, (Option.some.inj found).symm⟩
    intro isInfix
    have short := isInfix.length_le
    simp at short
  | case3 c later noMark inductionHypothesis =>
    rcases Option.map_eq_some_iff.mp found with ⟨rest, isRest, rfl⟩
    rcases inductionHypothesis isRest with ⟨inner, noInner, rfl⟩
    refine ⟨c :: inner, ?_, rfl⟩
    rw [List.cons_append, List.infix_cons_iff, not_or]
    refine ⟨?_, noInner⟩
    rintro ⟨back, joined⟩
    rcases blockBody?_isPrefix isRest with ⟨rear, rfl⟩
    cases inner with
    | nil => simp at joined
    | cons d inner =>
      simp only [List.cons_append, List.nil_append, List.cons.injEq] at joined
      exact noMark _ joined.1.symm (by rw [← joined.2.1]; rfl)

theorem readLineComment_of_ended {body : List Char} (noFeed : '\n' ∉ body) (later : List Char) :
    readLineComment ('/' :: '/' :: (body ++ '\n' :: later)) =
      .lineComment ('/' :: '/' :: body) true := by
  have inLine : ∀ c ∈ body, (c != '\n') = true := by
    intro c member
    rw [bne_iff_ne]
    rintro rfl
    exact noFeed member
  simp [readLineComment, List.takeWhile_append_of_pos inLine, List.dropWhile_append_of_pos inLine]

theorem readLineComment_of_last {body : List Char} (noFeed : '\n' ∉ body) :
    readLineComment ('/' :: '/' :: body) = .lineComment ('/' :: '/' :: body) false := by
  have inLine : ∀ c ∈ body, (c != '\n') = true := by
    intro c member
    rw [bne_iff_ne]
    rintro rfl
    exact noFeed member
  have whole : body.takeWhile (· != '\n') = body := List.takeWhile_eq_self_iff.mpr inLine
  have nothing : body.dropWhile (· != '\n') = [] := List.dropWhile_eq_nil_iff.mpr inLine
  simp [readLineComment, whole, nothing]

/-- A line comment either has its line feed or is the last. -/
theorem readLineComment_cases (text : List Char) :
    ∃ body, '\n' ∉ body ∧
      ((∃ later, text = body ++ '\n' :: later) ∨ text = body) := by
  refine ⟨text.takeWhile (· != '\n'), ?_, ?_⟩
  · intro member
    have inside := List.mem_takeWhile_imp member
    simp at inside
  · have joined := List.takeWhile_append_dropWhile (p := (· != '\n')) (l := text)
    cases shape : text.dropWhile (· != '\n') with
    | nil =>
      right
      rw [shape, List.append_nil] at joined
      exact joined.symm
    | cons c later =>
      left
      have isFeed := List.head?_dropWhile_not (· != '\n') text
      have same : c = '\n' := by simpa [shape] using isFeed
      subst same
      rw [shape] at joined
      exact ⟨later, joined.symm⟩

end TriviaItem

namespace Trivia

/-! ## The trivia that are read -/

theorem chars_read_of_first? {piece later : List Char} {item : TriviaItem}
    (found : TriviaItem.first? (piece ++ later) = some item) (isPiece : item.chars = piece) :
    chars (read (piece ++ later)) = piece ++ chars (read later) := by
  rw [read]
  split
  next absent =>
    rw [absent] at found
    cases found
  next other isOther =>
    have same : other = item := by simpa [isOther] using found
    rw [same, isPiece, List.drop_left]
    simp [chars, isPiece]

theorem first?_blank {c : Char} (isBlank : isWhitespace c = true) (later : List Char) :
    ∃ item, TriviaItem.first? (c :: later) = some item ∧ item.chars = [c] := by
  rcases CharClass.isWhitespace_iff.mp isBlank with rfl | rfl | rfl | rfl <;> exact ⟨_, rfl, rfl⟩

/-- No gap at the front of a text is longer than what is read there. -/
theorem length_le_of_isGap {gap later : List Char} (isGap : IsGap gap later) :
    gap.length ≤ (chars (read (gap ++ later))).length := by
  induction isGap with
  | nothing => simp
  | @blank c gap later isBlank _ inductionHypothesis =>
    rcases first?_blank isBlank (gap ++ later) with ⟨item, found, isPiece⟩
    have found : TriviaItem.first? ([c] ++ (gap ++ later)) = some item := found
    have step : chars (read (c :: (gap ++ later))) = c :: chars (read (gap ++ later)) :=
      chars_read_of_first? found isPiece
    rw [List.cons_append, step]
    simpa using inductionHypothesis
  | @lineComment body gap later noFeed _ inductionHypothesis =>
    have found : TriviaItem.first? (('/' :: '/' :: (body ++ ['\n'])) ++ (gap ++ later)) =
        some (.lineComment ('/' :: '/' :: body) true) := by
      have comment := TriviaItem.readLineComment_of_ended noFeed (gap ++ later)
      simpa [TriviaItem.first?] using comment
    have step := chars_read_of_first? found (by simp [TriviaItem.chars])
    simp only [List.cons_append, List.append_assoc, List.nil_append] at step ⊢
    rw [step]
    simpa using inductionHypothesis
  | @lastLine body noFeed =>
    have found : TriviaItem.first? (('/' :: '/' :: body) ++ []) =
        some (.lineComment ('/' :: '/' :: body) false) := by
      have comment := TriviaItem.readLineComment_of_last noFeed
      simpa [TriviaItem.first?] using comment
    have step := chars_read_of_first? found (by simp [TriviaItem.chars])
    rw [step]
    simp
  | @blockComment body gap later noMark _ inductionHypothesis =>
    have found : TriviaItem.first? (('/' :: '*' :: (body ++ ['*', '/'])) ++ (gap ++ later)) =
        some (.blockComment ('/' :: '*' :: (body ++ ['*', '/']))) := by
      have comment := TriviaItem.blockBody?_of_closed noMark (gap ++ later)
      simp [TriviaItem.first?, comment]
    have step := chars_read_of_first? found rfl
    simp only [List.cons_append, List.append_assoc, List.nil_append] at step ⊢
    rw [step]
    simpa using inductionHypothesis

/-- One item in front of a gap makes a gap. -/
theorem isGap_append_of_first? {text : List Char} {item : TriviaItem}
    (found : TriviaItem.first? text = some item) {gap later : List Char}
    (joined : text.drop item.chars.length = gap ++ later) (isGap : IsGap gap later) :
    IsGap (item.chars ++ gap) later := by
  unfold TriviaItem.first? at found
  split at found
  case h_5 rest =>
    rcases Option.map_eq_some_iff.mp found with ⟨body, isBody, rfl⟩
    rcases TriviaItem.closed_of_blockBody? isBody with ⟨inner, noMark, rfl⟩
    simpa [TriviaItem.chars] using IsGap.blockComment noMark isGap
  case h_6 rest =>
    rw [← Option.some.inj found] at joined ⊢
    rcases TriviaItem.readLineComment_cases rest with ⟨body, noFeed, ⟨behind, rfl⟩ | rfl⟩
    · rw [TriviaItem.readLineComment_of_ended noFeed]
      simpa [TriviaItem.chars] using IsGap.lineComment noFeed isGap
    · rw [TriviaItem.readLineComment_of_last noFeed] at joined ⊢
      have nothing : gap = [] ∧ later = [] := by simpa [TriviaItem.chars] using joined.symm
      rw [nothing.1, nothing.2]
      simpa [TriviaItem.chars] using IsGap.lastLine noFeed
  case h_7 => cases found
  all_goals
    rw [← Option.some.inj found]
    exact .blank rfl isGap

/-- The trivia that are read are the longest gap. -/
theorem isLongestGap_read (text : List Char) :
    IsLongestGap (chars (read text)) (text.drop (chars (read text)).length) where
  isGap := by
    fun_induction read text with
    | case1 => exact .nothing
    | case2 text item found inductionHypothesis =>
      have front := TriviaItem.first?_isPrefix found
      have split : chars (item :: read (text.drop item.chars.length)) =
          item.chars ++ chars (read (text.drop item.chars.length)) := rfl
      have behind : text.drop (item.chars ++ chars (read (text.drop item.chars.length))).length =
          (text.drop item.chars.length).drop
            (chars (read (text.drop item.chars.length))).length := by
        simp
      rw [split, behind]
      refine isGap_append_of_first? found ?_ inductionHypothesis
      have inner := List.prefix_iff_eq_append.mp (read_isPrefix (text.drop item.chars.length))
      exact inner.symm
  longest := by
    intro other rest joined isGap
    have whole := List.prefix_iff_eq_append.mp (read_isPrefix text)
    have bound := length_le_of_isGap isGap
    rwa [joined, whole] at bound

end Trivia
end HeaderScan
