import HeaderScan.Text.CodeRange

namespace HeaderScan
namespace Text

/-!
Blank characters, those with the Unicode property White_Space, and the trimming of text.
-/

/-- The code points with the property White_Space. -/
def blankRanges : List CodeRange :=
  [(0x09, 0x0D), (0x20, 0x20), (0x85, 0x85), (0xA0, 0xA0), (0x1680, 0x1680), (0x2000, 0x200A),
    (0x2028, 0x2029), (0x202F, 0x202F), (0x205F, 0x205F), (0x3000, 0x3000)]

/-- Whether a character has the property White_Space. -/
def isBlank (c : Char) : Bool :=
  CodeRange.anyHolds blankRanges c

/-- Removes the longest end of a text that lies wholly in a class of characters. -/
def dropEndWhile (inClass : Char → Bool) (text : List Char) : List Char :=
  (text.reverse.dropWhile inClass).reverse

/-- Removes the blanks in front of a text. -/
def trimStart (text : List Char) : List Char :=
  text.dropWhile isBlank

/-- Removes the blanks behind a text. -/
def trimEnd (text : List Char) : List Char :=
  dropEndWhile isBlank text

/-- Removes the blanks on both sides of a text. -/
def trim (text : List Char) : List Char :=
  trimEnd (trimStart text)

theorem dropEndWhile_isPrefix (inClass : Char → Bool) (text : List Char) :
    dropEndWhile inClass text <+: text := by
  unfold dropEndWhile
  rw [← List.reverse_suffix, List.reverse_reverse]
  exact List.dropWhile_suffix _

theorem length_dropEndWhile_le (inClass : Char → Bool) (text : List Char) :
    (dropEndWhile inClass text).length ≤ text.length :=
  (dropEndWhile_isPrefix inClass text).length_le

/-- A character at the front is removed only if everything behind it is. -/
theorem dropEndWhile_cons (inClass : Char → Bool) (c : Char) (text : List Char) :
    dropEndWhile inClass (c :: text) =
      if dropEndWhile inClass text = [] ∧ inClass c = true then []
      else c :: dropEndWhile inClass text := by
  unfold dropEndWhile
  rw [List.reverse_cons, List.dropWhile_append]
  cases List.dropWhile inClass text.reverse with
  | nil => cases isInside : inClass c <;> simp [isInside]
  | cons d kept => simp

theorem length_trimStart_le (text : List Char) : (trimStart text).length ≤ text.length :=
  (List.dropWhile_sublist _).length_le

theorem length_trim_le (text : List Char) : (trim text).length ≤ text.length :=
  Nat.le_trans (length_dropEndWhile_le _ _) (length_trimStart_le _)

end Text
end HeaderScan
