import HeaderScan.Diagnostic.Terminal
import HeaderScan.SymbolTable

namespace HeaderScan

/-!
What the arguments of the scanning command ask for.
-/

/-- What is wrong with the arguments. -/
inductive OptionsError
  | unknownOption (argument : String)
  | invalidColor (value : String)
  | missingSymbol (option : String)
  | noInputFiles
  deriving DecidableEq, Repr

namespace OptionsError

/-- The fault in words. -/
def message : OptionsError → String
  | unknownOption argument => "unknown option '" ++ argument ++ "'"
  | invalidColor value =>
    "invalid --color value '" ++ value ++ "' (expected auto, always or never)"
  | missingSymbol option => "option '" ++ option ++ "' needs a symbol name"
  | noInputFiles => "no input files"

end OptionsError

/-- What to scan and how to show it; the lists are in the order of the arguments. -/
structure Options where
  showTokens : Bool
  defines : List String
  undefines : List String
  color : ColorMode
  files : List String
  deriving DecidableEq, Repr

namespace Options

/-- What no argument asks for. -/
def initial : Options :=
  ⟨false, [], [], .auto, []⟩

/-- The value of an argument that begins with the name of an option. -/
def value? (option argument : String) : Option String :=
  if option.toList.isPrefixOf argument.toList then
    some (String.ofList (argument.toList.drop option.length))
  else none

/-- The symbol that is the value of an option. -/
def symbol (option value : String) : Except OptionsError String :=
  if value.isEmpty then .error (.missingSymbol option) else .ok value

/-- Adds one argument. -/
def addArgument (options : Options) (argument : String) : Except OptionsError Options :=
  if argument = "--tokens" then .ok { options with showTokens := true }
  else if let some value := value? "--define=" argument then
    (symbol "--define" value).map fun name =>
      { options with defines := options.defines ++ [name] }
  else if let some value := value? "--undefine=" argument then
    (symbol "--undefine" value).map fun name =>
      { options with undefines := options.undefines ++ [name] }
  else if let some value := value? "--color=" argument then
    match ColorMode.ofText? value with
    | none => .error (.invalidColor value)
    | some color => .ok { options with color := color }
  else if "-".toList.isPrefixOf argument.toList then .error (.unknownOption argument)
  else .ok { options with files := options.files ++ [argument] }

/-- Reads the arguments.  The first fault counts; that no file is named counts last. -/
def ofArguments (arguments : List String) : Except OptionsError Options :=
  match arguments.foldlM addArgument initial with
  | .error error => .error error
  | .ok options => if options.files.isEmpty then .error .noInputFiles else .ok options

/-- What is known about the symbols; an undefinition counts after all definitions. -/
def symbols (options : Options) : SymbolTable :=
  SymbolTable.initial.writeAll options.defines options.undefines

end Options
end HeaderScan
