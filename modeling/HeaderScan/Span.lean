namespace HeaderScan

/-!
Places in a source: byte offsets with lines, and spans between two offsets.
-/

/-- A byte offset together with the line on which it lies, counted from one. -/
structure Position where
  offset : Nat
  line : Nat
  deriving DecidableEq, Repr

/-- The bytes from `start` up to `stop`, which is not included. -/
structure Span where
  start : Nat
  stop : Nat
  deriving DecidableEq, Repr

namespace Span

/-- The empty span at an offset. -/
def point (offset : Nat) : Span :=
  ⟨offset, offset⟩

/-- The number of bytes in the span. -/
def length (span : Span) : Nat :=
  span.stop - span.start

def isEmpty (span : Span) : Bool :=
  span.start == span.stop

/-- Whether an offset lies in the span. -/
def contains (span : Span) (offset : Nat) : Bool :=
  span.start ≤ offset && offset < span.stop

/-- The least span that covers two spans. -/
def merge (first second : Span) : Span :=
  ⟨min first.start second.start, max first.stop second.stop⟩

/-- The two ends with two dots between them. -/
def render (span : Span) : String :=
  s!"{span.start}..{span.stop}"

/-- What either span contains, their merger contains. -/
theorem contains_merge {first second : Span} {offset : Nat}
    (inEither : first.contains offset = true ∨ second.contains offset = true) :
    (first.merge second).contains offset = true := by
  simp only [contains, Bool.and_eq_true, decide_eq_true_eq] at *
  simp only [merge]
  omega

end Span
end HeaderScan
