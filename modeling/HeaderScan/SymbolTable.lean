namespace HeaderScan

/-!
What is known about the symbols of conditions.

A symbol is defined, undefined or unknown, as the last definition or undefinition of it says.
-/

/-- The known symbols, the last written first and each only once, and the symbols that exempt the
code under a condition that names them from the search for hidden content. -/
structure SymbolTable where
  entries : List (String × Bool)
  exempt : List String
  deriving DecidableEq, Repr

namespace SymbolTable

/-- Nothing is known; editor-only data are exempt. -/
def initial : SymbolTable :=
  ⟨[], ["WITH_EDITORONLY_DATA"]⟩

/-- Writes down whether a symbol is defined. -/
def write (table : SymbolTable) (name : String) (isDefined : Bool) : SymbolTable :=
  { table with entries := (name, isDefined) :: table.entries.filter (·.1 != name) }

def define (table : SymbolTable) (name : String) : SymbolTable :=
  table.write name true

def undefine (table : SymbolTable) (name : String) : SymbolTable :=
  table.write name false

/-- Whether a symbol is defined, if anything is known about it. -/
def lookup (table : SymbolTable) (name : String) : Option Bool :=
  (table.entries.find? (·.1 == name)).map Prod.snd

/-- Definitions, and after them undefinitions, of several symbols each. -/
def writeAll (table : SymbolTable) (defines undefines : List String) : SymbolTable :=
  undefines.foldl undefine (defines.foldl define table)

/-- Names in the order of their characters, each once. -/
def sortedNames (names : List String) : List String :=
  names.eraseDups.mergeSort fun first second => !decide (second < first)

/-- The defined symbols. -/
def defined (table : SymbolTable) : List String :=
  sortedNames ((table.entries.filter Prod.snd).map Prod.fst)

/-- The undefined symbols. -/
def undefined (table : SymbolTable) : List String :=
  sortedNames ((table.entries.filter fun entry => !entry.2).map Prod.fst)

/-- Whether a symbol exempts the code under its condition. -/
def isExempt (table : SymbolTable) (name : String) : Bool :=
  table.exempt.contains name

/-- What is known about a symbol is the last thing written about it. -/
theorem lookup_write (table : SymbolTable) (name other : String) (isDefined : Bool) :
    (table.write name isDefined).lookup other =
      if other = name then some isDefined else table.lookup other := by
  by_cases same : other = name
  · simp [write, lookup, same]
  · have : (name == other) = false := by simpa using fun equal => same equal.symm
    have keeps : (table.entries.filter (·.1 != name)).find? (·.1 == other) =
        table.entries.find? (·.1 == other) := by
      induction table.entries with
      | nil => rfl
      | cons entry later ih =>
        by_cases found : entry.1 = other
        · simp [found, same]
        · have missed : (entry.1 == other) = false := by simpa using found
          by_cases dropped : (entry.1 != name) = true
          · simp [dropped, missed, ih]
          · simp [dropped, missed, ih]
    simp [write, lookup, same, this, keeps]

end SymbolTable
end HeaderScan
