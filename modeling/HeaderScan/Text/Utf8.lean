namespace HeaderScan
namespace Text

/-!
Texts as lists of characters, measured and cut in bytes of their UTF-8 encoding.

Offsets into a source count bytes, so a cut has to fall between two characters: `splitAt?` and
`slice?` fail where it does not, and `splitAt?_eq_some_iff` says that they fail nowhere else.
-/

/-- The number of bytes that a text takes in UTF-8. -/
def byteLength : List Char → Nat
  | [] => 0
  | c :: text => c.utf8Size + byteLength text

@[simp]
theorem byteLength_nil : byteLength [] = 0 :=
  rfl

@[simp]
theorem byteLength_cons (c : Char) (text : List Char) :
    byteLength (c :: text) = c.utf8Size + byteLength text :=
  rfl

@[simp]
theorem byteLength_append (front back : List Char) :
    byteLength (front ++ back) = byteLength front + byteLength back := by
  induction front with
  | nil => simp
  | cons c front ih =>
    simp only [List.cons_append, byteLength_cons, ih]
    omega

@[simp]
theorem byteLength_reverse (text : List Char) : byteLength text.reverse = byteLength text := by
  induction text with
  | nil => rfl
  | cons c text ih => simp [ih, Nat.add_comm]

/-- A character takes at least one byte. -/
theorem length_le_byteLength (text : List Char) : text.length ≤ byteLength text := by
  induction text with
  | nil => simp
  | cons c text ih =>
    have := c.utf8Size_pos
    simp only [List.length_cons, byteLength_cons]
    omega

/-- The bytes of a text in UTF-8. -/
def bytes (text : List Char) : List UInt8 :=
  text.flatMap String.utf8EncodeChar

/-- The number of bytes of the sequence that a first byte announces; a byte that announces
none counts for itself. -/
def sequenceWidth (first : UInt8) : Nat :=
  if first < 0xC0 then 1
  else if first < 0xE0 then 2
  else if first < 0xF0 then 3
  else if first < 0xF8 then 4
  else 1

/-- Cuts a text at a byte offset, if the offset falls between two characters. -/
def splitAt? : List Char → Nat → Option (List Char × List Char)
  | text, 0 => some ([], text)
  | [], _ + 1 => none
  | c :: text, offset + 1 =>
    if c.utf8Size ≤ offset + 1 then
      (splitAt? text (offset + 1 - c.utf8Size)).map fun (front, back) => (c :: front, back)
    else none

/-- A cut succeeds exactly where the text has a front of that many bytes. -/
theorem splitAt?_eq_some_iff {text front back : List Char} {offset : Nat} :
    splitAt? text offset = some (front, back) ↔
      front ++ back = text ∧ byteLength front = offset := by
  induction text generalizing offset front back with
  | nil =>
    cases offset with
    | zero => cases front <;> simp [splitAt?, eq_comm]
    | succ offset =>
      simp only [splitAt?, reduceCtorEq, List.append_eq_nil_iff, false_iff]
      rintro ⟨⟨rfl, _⟩, size⟩
      simp at size
  | cons c text ih =>
    have positive := c.utf8Size_pos
    cases offset with
    | zero =>
      cases front with
      | nil => simp [splitAt?, eq_comm]
      | cons d front =>
        have := d.utf8Size_pos
        simp [splitAt?]
        omega
    | succ offset =>
      simp only [splitAt?]
      split
      · cases front with
        | nil => simp
        | cons d front =>
          simp only [Option.map_eq_some_iff, Prod.exists, Prod.mk.injEq, List.cons.injEq,
            List.cons_append, byteLength_cons, ih]
          constructor
          · rintro ⟨front', back', ⟨rfl, size⟩, ⟨rfl, rfl⟩, rfl⟩
            exact ⟨⟨rfl, rfl⟩, by omega⟩
          · rintro ⟨⟨rfl, rfl⟩, size⟩
            exact ⟨front, back, ⟨rfl, by omega⟩, ⟨rfl, rfl⟩, rfl⟩
      · cases front with
        | nil => simp
        | cons d front =>
          simp only [List.cons_append, List.cons.injEq, byteLength_cons, false_iff, reduceCtorEq]
          rintro ⟨⟨rfl, rfl⟩, size⟩
          omega

/-- The text between two byte offsets, if both fall between characters, in this order. -/
def slice? (text : List Char) (start stop : Nat) : Option (List Char) :=
  if start ≤ stop then
    (splitAt? text start).bind fun (_, later) => (splitAt? later (stop - start)).map Prod.fst
  else none

/-- A slice is the middle of a decomposition of the text into three parts of the right sizes. -/
theorem slice?_eq_some_iff {text piece : List Char} {start stop : Nat} :
    slice? text start stop = some piece ↔
      ∃ front back, front ++ piece ++ back = text ∧ byteLength front = start ∧
        start + byteLength piece = stop := by
  unfold slice?
  split
  case isTrue ordered =>
    constructor
    · intro found
      rcases Option.bind_eq_some_iff.mp found with ⟨⟨front, later⟩, cutFront, cutBack⟩
      rcases Option.map_eq_some_iff.mp cutBack with ⟨⟨middle, back⟩, cutMiddle, rfl⟩
      rcases splitAt?_eq_some_iff.mp cutFront with ⟨rfl, frontSize⟩
      rcases splitAt?_eq_some_iff.mp cutMiddle with ⟨rfl, middleSize⟩
      exact ⟨front, back, by simp, frontSize, by simp only at *; omega⟩
    · rintro ⟨front, back, rfl, frontSize, middleSize⟩
      have cutFront : splitAt? (front ++ piece ++ back) start = some (front, piece ++ back) :=
        splitAt?_eq_some_iff.mpr ⟨by simp, frontSize⟩
      have cutMiddle : splitAt? (piece ++ back) (stop - start) = some (piece, back) :=
        splitAt?_eq_some_iff.mpr ⟨rfl, by omega⟩
      rw [cutFront]
      simp [cutMiddle]
  case isFalse reversed =>
    simp only [false_iff, reduceCtorEq]
    rintro ⟨front, back, rfl, frontSize, middleSize⟩
    omega

end Text
end HeaderScan
