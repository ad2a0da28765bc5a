namespace HeaderScan
namespace Kleene

/-!
Three-valued truth, in which `none` stands for the unknown.

A connective is unknown only where the known operands do not decide it.
-/

def not (value : Option Bool) : Option Bool :=
  value.map (!·)

def and : Option Bool → Option Bool → Option Bool
  | some false, _ => some false
  | _, some false => some false
  | some true, some true => some true
  | _, _ => none

def or : Option Bool → Option Bool → Option Bool
  | some true, _ => some true
  | _, some true => some true
  | some false, some false => some false
  | _, _ => none

/-- What is known, or true where nothing is. -/
def orTrue (value : Option Bool) : Bool :=
  value.getD true

theorem and_true (value : Option Bool) : and value (some true) = value := by
  rcases value with _ | _ | _ <;> rfl

theorem or_false (value : Option Bool) : or value (some false) = value := by
  rcases value with _ | _ | _ <;> rfl

theorem true_and (value : Option Bool) : and (some true) value = value := by
  rcases value with _ | _ | _ <;> rfl

theorem false_or (value : Option Bool) : or (some false) value = value := by
  rcases value with _ | _ | _ <;> rfl

theorem and_assoc (first second third : Option Bool) :
    and (and first second) third = and first (and second third) := by
  rcases first with _ | _ | _ <;> rcases second with _ | _ | _ <;>
    rcases third with _ | _ | _ <;> rfl

theorem or_assoc (first second third : Option Bool) :
    or (or first second) third = or first (or second third) := by
  rcases first with _ | _ | _ <;> rcases second with _ | _ | _ <;>
    rcases third with _ | _ | _ <;> rfl

end Kleene
end HeaderScan
