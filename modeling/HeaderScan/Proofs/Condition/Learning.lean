import HeaderScan.Conditional

namespace HeaderScan

/-!
What is known about a condition when more is learned about the symbols.

Whatever text writes a condition, what is known about it stays known; in particular, code that is
excluded under some knowledge about the symbols is excluded under more of it:
`Condition.value_parse_isKept`.  The text decides alone how the condition is built, and the
connectives are monotone, since each of their two answers asks for known operands
(`and_eq_true_iff` and the like).
-/

namespace Kleene

variable {first second firstLater secondLater : Option Bool}

/-- What is known stays so, and what is not known may become anything. -/
def IsKept (before after : Option Bool) : Prop :=
  ∀ truth, before = some truth -> after = some truth

theorem and_eq_true_iff :
    and first second = some true ↔ first = some true ∧ second = some true := by
  rcases first with _ | _ | _ <;> rcases second with _ | _ | _ <;> decide

theorem and_eq_false_iff :
    and first second = some false ↔ first = some false ∨ second = some false := by
  rcases first with _ | _ | _ <;> rcases second with _ | _ | _ <;> decide

theorem or_eq_true_iff :
    or first second = some true ↔ first = some true ∨ second = some true := by
  rcases first with _ | _ | _ <;> rcases second with _ | _ | _ <;> decide

theorem or_eq_false_iff :
    or first second = some false ↔ first = some false ∧ second = some false := by
  rcases first with _ | _ | _ <;> rcases second with _ | _ | _ <;> decide

theorem not_eq_some_iff {truth : Bool} : not first = some truth ↔ first = some !truth := by
  rcases first with _ | _ | _ <;> cases truth <;> decide

namespace IsKept

theorem not (kept : IsKept first firstLater) : IsKept (not first) (not firstLater) := by
  intro truth known
  exact not_eq_some_iff.mpr (kept _ (not_eq_some_iff.mp known))

theorem and (isFirst : IsKept first firstLater) (isSecond : IsKept second secondLater) :
    IsKept (and first second) (and firstLater secondLater) := by
  intro truth known
  cases truth with
  | true => exact and_eq_true_iff.mpr ((and_eq_true_iff.mp known).imp (isFirst _) (isSecond _))
  | false => exact and_eq_false_iff.mpr ((and_eq_false_iff.mp known).imp (isFirst _) (isSecond _))

theorem or (isFirst : IsKept first firstLater) (isSecond : IsKept second secondLater) :
    IsKept (or first second) (or firstLater secondLater) := by
  intro truth known
  cases truth with
  | true => exact or_eq_true_iff.mpr ((or_eq_true_iff.mp known).imp (isFirst _) (isSecond _))
  | false => exact or_eq_false_iff.mpr ((or_eq_false_iff.mp known).imp (isFirst _) (isSecond _))

end IsKept

theorem orTrue_eq_false_iff {value : Option Bool} : orTrue value = false ↔ value = some false := by
  rcases value with _ | _ | _ <;> decide

end Kleene

/-! ## Symbols -/

namespace SymbolTable

/-- All that is known about the symbols in one table is known in another. -/
def IsExtendedBy (table extended : SymbolTable) : Prop :=
  ∀ name, Kleene.IsKept (table.lookup name) (extended.lookup name)

/-- Something is learned by writing down a symbol about which nothing is known. -/
theorem isExtendedBy_write {table : SymbolTable} {name : String}
    (unknown : table.lookup name = none) (isDefined : Bool) :
    table.IsExtendedBy (table.write name isDefined) := by
  intro other truth known
  rw [lookup_write]
  by_cases same : other = name
  · rw [same, unknown] at known
    cases known
  · rw [if_neg same, known]

end SymbolTable

/-! ## Conditions -/

namespace Condition

/-- What is known about a condition stays known, if what is known about each symbol does. -/
theorem value_isKept {known later : String → Option Bool}
    (kept : ∀ name, Kleene.IsKept (known name) (later name)) (condition : Condition) :
    Kleene.IsKept (condition.value known) (condition.value later) := by
  induction condition with
  | literal truth => exact fun _ => id
  | symbol name => exact kept name
  | unknown => exact fun _ => id
  | not operand isOperand => exact isOperand.not
  | and first second isFirst isSecond => exact isFirst.and isSecond
  | or first second isFirst isSecond => exact isFirst.or isSecond

/-- Whatever text writes a condition, it stays true or false when more is learned about the
symbols, and code that it excludes stays excluded. -/
theorem value_parse_isKept {table extended : SymbolTable}
    (learned : table.IsExtendedBy extended) (text : List Char) :
    Kleene.IsKept ((parse text).value table.lookup) ((parse text).value extended.lookup) ∧
      ((Conditional.ofSymbols table).evaluate text = false ->
        (Conditional.ofSymbols extended).evaluate text = false) := by
  have kept := value_isKept learned (parse text)
  refine ⟨kept, ?_⟩
  intro excluded
  exact Kleene.orTrue_eq_false_iff.mpr (kept false (Kleene.orTrue_eq_false_iff.mp excluded))

/-- The parentheses are not balanced, and `A` stays unknown. -/
theorem value_parse_isKept_unbalanced :
    let table := SymbolTable.initial.define "C"
    let extended := table.undefine "B"
    let text := "A) || (B && !defined(C".toList
    table.IsExtendedBy extended ∧ (parse text).value table.lookup = some false ∧
      (parse text).value extended.lookup = some false ∧
      (Conditional.ofSymbols extended).evaluate text = false := by
  intro table extended text
  have learned : table.IsExtendedBy extended := SymbolTable.isExtendedBy_write (by decide) false
  have known : (parse text).value table.lookup = some false := by decide +kernel
  have excluded : (Conditional.ofSymbols table).evaluate text = false := by decide +kernel
  have kept := value_parse_isKept learned text
  exact ⟨learned, known, kept.1 false known, kept.2 excluded⟩

end Condition
end HeaderScan
