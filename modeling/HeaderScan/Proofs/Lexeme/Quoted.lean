import HeaderScan.Lexeme.Basic
import HeaderScan.Proofs.Text.Longest

namespace HeaderScan
namespace Lexeme

open Text

/-!
Quoted text: where it ends, told without reading it from its start.

A quote closes the text unless an odd number of backslashes stands before it.  The reader, which
takes each backslash together with the character behind it, stops at the first such quote.
-/

/-- Whether a backslash takes away the meaning of what stands behind a text: one does if the text
ends in an odd number of them. -/
def endsEscaping (text : List Char) : Bool :=
  (text.reverse.takeWhile (· == '\\')).length % 2 == 1

/-- The texts that end in a quote which no backslash takes the meaning from. -/
def closedForm : Language Char :=
  {word | ∃ inner, endsEscaping inner = false ∧ word = inner ++ ['"']}

theorem endsEscaping_cons {c : Char} (plain : c ≠ '\\') (text : List Char) :
    endsEscaping (c :: text) = endsEscaping text := by
  have stops : [c].takeWhile (· == '\\') = [] := by simp [plain]
  simp only [endsEscaping, List.reverse_cons, List.takeWhile_append, stops, List.append_nil]
  split
  next covered =>
    rw [← covered]
  · rfl

theorem endsEscaping_escape (escaped : Char) (text : List Char) :
    endsEscaping ('\\' :: escaped :: text) = endsEscaping text := by
  have reversed : ('\\' :: escaped :: text).reverse = text.reverse ++ [escaped, '\\'] := by simp
  simp only [endsEscaping, reversed, List.takeWhile_append]
  split
  next covered =>
    -- The text holds backslashes only, so that the pair before it lengthens the run by two or
    -- by nothing.
    rw [covered, List.length_append]
    by_cases same : escaped = '\\'
    · simp [same]
    · simp [same]
  · rfl

/-- A piece of text that no quote which closes can lie in or reach into. -/
private structure Passes (piece later : List Char) : Prop where
  lengthens : ∀ word ∈ closedForm, piece ++ word ∈ closedForm
  shortens : ∀ word ∈ closedForm, word <+: piece ++ later ->
    ∃ shorter ∈ closedForm, word = piece ++ shorter ∧ shorter <+: later

private theorem passes_escape (escaped : Char) (later : List Char) :
    Passes ['\\', escaped] later where
  lengthens := by
    rintro word ⟨inner, unescaped, rfl⟩
    exact ⟨'\\' :: escaped :: inner, by rw [endsEscaping_escape, unescaped], rfl⟩
  shortens := by
    rintro word ⟨inner, unescaped, rfl⟩ ⟨back, joined⟩
    match inner with
    | [] => simp at joined
    | [c] =>
      have isBackslash : c = '\\' := by simpa using congrArg List.head? joined
      subst isBackslash
      cases unescaped
    | c :: d :: inner =>
      simp only [List.cons_append, List.nil_append, List.cons.injEq] at joined
      rcases joined with ⟨rfl, rfl, joined⟩
      rw [endsEscaping_escape] at unescaped
      exact ⟨inner ++ ['"'], ⟨inner, unescaped, rfl⟩, rfl, back, joined⟩

private theorem passes_plain {c : Char} (noQuote : c ≠ '"') (plain : c ≠ '\\')
    (later : List Char) : Passes [c] later where
  lengthens := by
    rintro word ⟨inner, unescaped, rfl⟩
    exact ⟨c :: inner, by rw [endsEscaping_cons plain, unescaped], rfl⟩
  shortens := by
    rintro word ⟨inner, unescaped, rfl⟩ ⟨back, joined⟩
    cases inner with
    | nil => exact absurd (by simpa using congrArg List.head? joined) noQuote.symm
    | cons d inner =>
      simp only [List.cons_append, List.nil_append, List.cons.injEq] at joined
      rcases joined with ⟨rfl, joined⟩
      rw [endsEscaping_cons plain] at unescaped
      exact ⟨inner ++ ['"'], ⟨inner, unescaped, rfl⟩, rfl, back, joined⟩

private theorem Passes.isShortest {piece later body : List Char} (passes : Passes piece later)
    (shortest : IsShortestFront closedForm body later) :
    IsShortestFront closedForm (piece ++ body) (piece ++ later) where
  isFront := (List.prefix_append_right_inj piece).mpr shortest.isFront
  isWord := passes.lengthens body shortest.isWord
  shortest := by
    intro word isWord isFront
    rcases passes.shortens word isWord isFront with ⟨shorter, isShorter, rfl, shorterFront⟩
    have atLeast := shortest.shortest shorter isShorter shorterFront
    simpa using atLeast

private theorem Passes.absent {piece later : List Char} (passes : Passes piece later)
    (absent : ∀ word ∈ closedForm, ¬ word <+: later) :
    ∀ word ∈ closedForm, ¬ word <+: piece ++ later := by
  intro word isWord isFront
  rcases passes.shortens word isWord isFront with ⟨shorter, isShorter, _, shorterFront⟩
  exact absent shorter isShorter shorterFront

/-- A lone backslash at the end of a text closes nothing. -/
private theorem not_isPrefix_backslash : ∀ word ∈ closedForm, ¬ word <+: ['\\'] := by
  rintro word ⟨inner, unescaped, rfl⟩ ⟨back, joined⟩
  match inner with
  | [] => simp at joined
  | c :: inner => simp at joined

/-- What is read behind an opening quote is the shortest text that a quote closes. -/
theorem isShortest_of_quotedBody? {text body : List Char} (found : quotedBody? text = some body) :
    IsShortestFront closedForm body text := by
  fun_induction quotedBody? text generalizing body with
  | case1 => cases found
  | case2 later =>
    rw [← Option.some.inj found]
    refine ⟨by simp, ⟨[], rfl, rfl⟩, ?_⟩
    rintro word ⟨inner, _, rfl⟩ _
    simp
  | case3 escaped later inductionHypothesis =>
    rcases Option.map_eq_some_iff.mp found with ⟨inner, isInner, rfl⟩
    exact (passes_escape escaped later).isShortest (inductionHypothesis isInner)
  | case4 c later noQuote noEscape inductionHypothesis =>
    rcases Option.map_eq_some_iff.mp found with ⟨inner, isInner, rfl⟩
    by_cases isBackslash : c = '\\'
    · cases later with
      | nil => cases isInner
      | cons escaped rest => exact (noEscape escaped rest isBackslash rfl).elim
    · exact (passes_plain (fun same => noQuote same) isBackslash later).isShortest
        (inductionHypothesis isInner)

/-- Nothing is read behind an opening quote exactly where no quote closes the text. -/
theorem not_isPrefix_of_quotedBody? {text : List Char} (absent : quotedBody? text = none) :
    ∀ word ∈ closedForm, ¬ word <+: text := by
  fun_induction quotedBody? text with
  | case1 =>
    rintro word ⟨inner, _, rfl⟩ isFront
    simp at isFront
  | case2 => cases absent
  | case3 escaped later inductionHypothesis =>
    exact (passes_escape escaped later).absent
      (inductionHypothesis (Option.map_eq_none_iff.mp absent))
  | case4 c later noQuote noEscape inductionHypothesis =>
    by_cases isBackslash : c = '\\'
    · cases later with
      | nil =>
        rw [isBackslash]
        exact not_isPrefix_backslash
      | cons escaped rest => exact (noEscape escaped rest isBackslash rfl).elim
    · exact (passes_plain (fun same => noQuote same) isBackslash later).absent
        (inductionHypothesis (Option.map_eq_none_iff.mp absent))

end Lexeme
end HeaderScan
