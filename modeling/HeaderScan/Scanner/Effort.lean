import HeaderScan.Scanner.Basic

namespace HeaderScan

/-!
What there is left to read, as a measure that loops over tokens end by.

A scanner's lookahead can be put back, so that the cursor alone does not measure what is left:
`unread` counts from in front of the lookahead, `ahead` from behind it.  Whoever handles
directives may also make the scanner go back, but only so many times: `rewinds`.  The three are
compared one after the other; `weight` puts them into one number.
-/

/-- What is left, to be compared from the first field to the last. -/
structure Effort where
  rewinds : Nat
  unread : Nat
  ahead : Nat

namespace Effort

instance : LT Effort where
  lt first second :=
    first.rewinds < second.rewinds ∨
      first.rewinds = second.rewinds ∧
        (first.unread < second.unread ∨
          first.unread = second.unread ∧ first.ahead < second.ahead)

instance : LE Effort where
  le first second :=
    first.rewinds < second.rewinds ∨
      first.rewinds = second.rewinds ∧
        (first.unread < second.unread ∨
          first.unread = second.unread ∧ first.ahead ≤ second.ahead)

theorem lt_def {first second : Effort} :
    first < second ↔
      first.rewinds < second.rewinds ∨
        first.rewinds = second.rewinds ∧
          (first.unread < second.unread ∨
            first.unread = second.unread ∧ first.ahead < second.ahead) :=
  Iff.rfl

theorem le_def {first second : Effort} :
    first ≤ second ↔
      first.rewinds < second.rewinds ∨
        first.rewinds = second.rewinds ∧
          (first.unread < second.unread ∨
            first.unread = second.unread ∧ first.ahead ≤ second.ahead) :=
  Iff.rfl

theorem le_of_lt {first second : Effort} (less : first < second) : first ≤ second := by
  rw [lt_def] at less
  rw [le_def]
  omega

theorem le_trans {first second third : Effort} (left : first ≤ second) (right : second ≤ third) :
    first ≤ third := by
  rw [le_def] at *
  omega

theorem lt_of_le_of_lt {first second third : Effort} (left : first ≤ second)
    (right : second < third) : first < third := by
  rw [le_def] at left
  rw [lt_def] at *
  omega

theorem lt_of_lt_of_le {first second third : Effort} (left : first < second)
    (right : second ≤ third) : first < third := by
  rw [le_def] at right
  rw [lt_def] at *
  omega

/-- An effort in one number, for a source of a size: the fields are digits to a base that is
greater than the last two of them. -/
def weight (effort : Effort) (size : Nat) : Nat :=
  (effort.rewinds * (2 * size + 2) + effort.unread) * (2 * size + 2) + effort.ahead

/-- Less effort weighs less, if the last two fields are digits to the base. -/
theorem weight_lt {first second : Effort} {size : Nat} (less : first < second)
    (unread : first.unread ≤ size) (ahead : first.ahead ≤ 2 * size + 1) :
    first.weight size < second.weight size := by
  have digits : ∀ {high high' low low' base : Nat}, high < high' → low < base →
      high * base + low < high' * base + low' := by
    intro high high' low low' base less isDigit
    have := Nat.mul_le_mul_right base (Nat.succ_le_of_lt less)
    rw [Nat.succ_mul] at this
    omega
  rw [lt_def] at less
  unfold weight
  rcases less with less | ⟨same, less | ⟨same', less⟩⟩
  · exact digits (digits less (by omega)) (by omega)
  · rw [same]
    exact digits (by omega) (by omega)
  · rw [same, same']
    omega

end Effort

namespace Scanner

variable {source : List Char}

/-- The number of characters that can still be read, counted from in front of the lookahead. -/
def unread (scanner : Scanner source) : Nat :=
  max scanner.cursor.rest.length (scanner.lookahead.elim 0 (·.before.rest.length))

/-- Twice the number of characters behind the cursor, and one more for a lookahead. -/
def ahead (scanner : Scanner source) : Nat :=
  2 * scanner.cursor.rest.length + scanner.lookahead.toList.length

/-- What is left for a scanner that can be made to go back a number of times. -/
def effort (scanner : Scanner source) (rewinds : Nat) : Effort :=
  ⟨rewinds, scanner.unread, scanner.ahead⟩

/-- The effort in one number. -/
def weight (scanner : Scanner source) (rewinds : Nat) : Nat :=
  (scanner.effort rewinds).weight source.length

/-- Less effort weighs less. -/
theorem weight_lt {before after : Scanner source} {rewindsBefore rewindsAfter : Nat}
    (less : after.effort rewindsAfter < before.effort rewindsBefore) :
    after.weight rewindsAfter < before.weight rewindsBefore := by
  have := after.cursor.length_rest_le
  refine Effort.weight_lt less ?_ ?_
  · simp only [effort, unread]
    cases after.lookahead with
    | none => simpa using this
    | some lookahead =>
      have := lookahead.before.length_rest_le
      simp only [Option.elim_some]
      omega
  · simp only [effort, ahead]
    cases after.lookahead <;> simp <;> omega

/-- Moving the cursor on leaves less. -/
theorem effort_withCursor_lt {scanner : Scanner source} {cursor : Cursor source}
    (moved : cursor.rest.length < scanner.cursor.rest.length) (rewinds : Nat) :
    (scanner.withCursor cursor).effort rewinds < scanner.effort rewinds := by
  rw [Effort.lt_def]
  refine Or.inr ⟨rfl, ?_⟩
  simp only [effort, unread, ahead, withCursor]
  omega

/-- Moving the cursor on or not at all leaves no more. -/
theorem effort_withCursor_le {scanner : Scanner source} {cursor : Cursor source}
    (moved : cursor.rest.length ≤ scanner.cursor.rest.length) (rewinds : Nat) :
    (scanner.withCursor cursor).effort rewinds ≤ scanner.effort rewinds := by
  rw [Effort.le_def]
  refine Or.inr ⟨rfl, ?_⟩
  simp only [effort, unread, ahead, withCursor]
  omega

/-- Nothing more is left behind the cursor when the lookahead is put back than was unread. -/
theorem length_rest_rewind_le (scanner : Scanner source) :
    scanner.rewind.cursor.rest.length ≤ scanner.unread := by
  unfold rewind unread
  cases scanner.lookahead with
  | none => exact Nat.le_max_left _ _
  | some lookahead => exact Nat.le_max_right _ _

/-- Putting the lookahead back leaves no more if the cursor then moves on or has come to the
end. -/
theorem effort_rewind_withCursor_le (scanner : Scanner source) {cursor : Cursor source}
    (moved : cursor.rest.length < scanner.rewind.cursor.rest.length ∨ cursor.rest = [])
    (rewinds : Nat) :
    (scanner.rewind.withCursor cursor).effort rewinds ≤ scanner.effort rewinds := by
  have rewound := scanner.length_rest_rewind_le
  have unreadAfter : (scanner.rewind.withCursor cursor).unread = cursor.rest.length := by
    simp [unread, withCursor, lookahead_rewind]
  have aheadAfter : (scanner.rewind.withCursor cursor).ahead = 2 * cursor.rest.length := by
    simp [ahead, withCursor, lookahead_rewind]
  rw [Effort.le_def]
  refine Or.inr ⟨rfl, ?_⟩
  simp only [effort]
  rcases moved with moved | atEnd
  · omega
  · have nothing : cursor.rest.length = 0 := by simp [atEnd]
    omega

/-- Reading a line leaves no more. -/
theorem effort_readLine_le (scanner : Scanner source) (rewinds : Nat) :
    scanner.readLine.2.effort rewinds ≤ scanner.effort rewinds := by
  have moved : scanner.rewind.cursor.readLine.2.rest.length < scanner.rewind.cursor.rest.length ∨
      scanner.rewind.cursor.readLine.2.rest = [] := by
    cases ending : scanner.rewind.cursor.isAtEnd with
    | false => exact Or.inl (Cursor.length_rest_readLine_lt ending)
    | true =>
      have nothing : scanner.rewind.cursor.rest = [] := by simpa [Cursor.isAtEnd] using ending
      exact Or.inr (by simp [Cursor.readLine_eq, ending, nothing])
  exact scanner.effort_rewind_withCursor_le moved rewinds

end Scanner
end HeaderScan
