import HeaderScan.Condition.Kleene
import HeaderScan.SymbolTable

namespace HeaderScan

/-!
Conditions on symbols, and what they are worth when only some symbols are known.
-/

/-- A condition.  `unknown` stands for whatever is not understood. -/
inductive Condition
  | literal (truth : Bool)
  /-- A symbol, which is true if it is defined. -/
  | symbol (name : String)
  | unknown
  | not (operand : Condition)
  | and (first second : Condition)
  | or (first second : Condition)
  deriving DecidableEq, Repr

namespace Condition

/-- The worth of a condition, given what is known about each symbol. -/
def value (known : String → Option Bool) : Condition → Option Bool
  | literal truth => some truth
  | symbol name => known name
  | unknown => none
  | not operand => Kleene.not (operand.value known)
  | and first second => Kleene.and (first.value known) (second.value known)
  | or first second => Kleene.or (first.value known) (second.value known)

/-- All of several conditions. -/
def all : List Condition → Condition
  | [] => literal true
  | [last] => last
  | first :: later => and first (all later)

/-- One of several conditions. -/
def any : List Condition → Condition
  | [] => literal false
  | [last] => last
  | first :: later => or first (any later)

theorem value_all_cons (known : String → Option Bool) (first : Condition)
    (later : List Condition) :
    (all (first :: later)).value known =
      Kleene.and (first.value known) ((all later).value known) := by
  cases later with
  | nil => simp [all, value, Kleene.and_true]
  | cons => rfl

theorem value_any_cons (known : String → Option Bool) (first : Condition)
    (later : List Condition) :
    (any (first :: later)).value known =
      Kleene.or (first.value known) ((any later).value known) := by
  cases later with
  | nil => simp [any, value, Kleene.or_false]
  | cons => rfl

/-- Several conditions and several more are worth what both groups are worth together. -/
theorem value_all_append (known : String → Option Bool) (first second : List Condition) :
    (all (first ++ second)).value known =
      Kleene.and ((all first).value known) ((all second).value known) := by
  induction first with
  | nil => exact (Kleene.true_and _).symm
  | cons condition later inductionHypothesis =>
    rw [List.cons_append, value_all_cons, value_all_cons, inductionHypothesis, Kleene.and_assoc]

theorem value_any_append (known : String → Option Bool) (first second : List Condition) :
    (any (first ++ second)).value known =
      Kleene.or ((any first).value known) ((any second).value known) := by
  induction first with
  | nil => exact (Kleene.false_or _).symm
  | cons condition later inductionHypothesis =>
    rw [List.cons_append, value_any_cons, value_any_cons, inductionHypothesis, Kleene.or_assoc]

/-- Whether the code under a condition is read: it is unless the condition is known to be
false. -/
def includes (condition : Condition) (table : SymbolTable) : Bool :=
  Kleene.orTrue (condition.value table.lookup)

end Condition
end HeaderScan
