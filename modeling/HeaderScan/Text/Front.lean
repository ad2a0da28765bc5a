namespace HeaderScan
namespace Text

/-!
Fronts of texts.  A reader of lexical forms takes one part after the other off the front of a
text; `prefix_append_drop` says that the parts, joined again, are a front of the whole.
-/

/-- The first character of a text if it is in a class, and nothing otherwise. -/
def optionalFront (inClass : Char → Bool) (text : List Char) : List Char :=
  (text.take 1).takeWhile inClass

theorem optionalFront_isPrefix (inClass : Char → Bool) (text : List Char) :
    optionalFront inClass text <+: text :=
  (List.takeWhile_prefix _).trans (List.take_prefix _ _)

@[simp]
theorem optionalFront_nil (inClass : Char → Bool) : optionalFront inClass [] = [] :=
  rfl

theorem optionalFront_cons (inClass : Char → Bool) (c : Char) (text : List Char) :
    optionalFront inClass (c :: text) = if inClass c then [c] else [] := by
  simp [optionalFront, List.takeWhile_cons]

/-- A front of a text followed by a front of what remains is a front of the text. -/
theorem prefix_append_drop {front next text : List Char} (isFront : front <+: text)
    (isNext : next <+: text.drop front.length) : front ++ next <+: text := by
  rcases isFront with ⟨back, rfl⟩
  rw [List.drop_left] at isNext
  exact (List.prefix_append_right_inj front).mpr isNext

/-- What a front leaves over is as long as the text without the front. -/
theorem length_drop_lt {front text : List Char} (isFront : front <+: text) (nonempty : front ≠ []) :
    (text.drop front.length).length < text.length := by
  have := isFront.length_le
  have := List.length_pos_iff.mpr nonempty
  rw [List.length_drop]
  omega

end Text
end HeaderScan
