namespace HeaderScan
namespace Operator

/-!
Operators of two characters.  Two closing angle brackets are not among them: nested argument
lists end in such a pair, and the parser has to see each bracket.
-/

/-- The pairs of characters that form one symbol. -/
def compounds : List (Char × Char) :=
  [('<', '<'), ('!', '='), ('<', '='), ('>', '='), ('+', '+'), ('-', '-'), ('+', '='), ('-', '='),
    ('*', '='), ('/', '='), ('&', '&'), ('|', '|'), ('^', '^'), ('=', '='), ('*', '*'),
    ('~', '='), (':', ':')]

/-- Whether two adjacent characters form one symbol, decided by the first of them. -/
def isCompound (first second : Char) : Bool :=
  match first with
  | '<' => second == '<' || second == '='
  | '!' | '>' | '*' | '/' | '~' => second == '=' || (first == '*' && second == '*')
  | '+' => second == '+' || second == '='
  | '-' => second == '-' || second == '='
  | '&' => second == '&'
  | '|' => second == '|'
  | '^' => second == '^'
  | '=' => second == '='
  | ':' => second == ':'
  | _ => false

/-- The decision by the first character is the table's. -/
theorem isCompound_iff_mem {first second : Char} :
    isCompound first second = true ↔ (first, second) ∈ compounds := by
  unfold isCompound
  split <;> simp_all [compounds]

/-- The pairs that form one symbol, each first character of one list before each second
character of the other. -/
def compoundsAmong (firsts seconds : List Char) : List (Char × Char) :=
  firsts.flatMap fun first =>
    (seconds.filter (isCompound first)).map (first, ·)

end Operator
end HeaderScan
