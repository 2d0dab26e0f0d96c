import Workbench.Dictionary
import Workbench.Failure
import Workbench.Text.Blank
namespace Workbench

/-!
The definition of a tool as its callers see it: a name, two lines for the reader
and its parameters in the order in which plain words fill them.  A definition
with an end mark asks for a block of lines that this mark closes.
-/

/-- A declared argument of a tool. -/
structure Parameter where
  name : String
  kind : String
  description : String
  required : Bool
  deriving DecidableEq, Repr

/-- The definition of a tool. -/
structure Definition where
  name : String
  signature : String
  summary : String
  parameters : List Parameter
  /-- The line that ends a block, for a tool that takes one. -/
  endMark : Option String
  deriving DecidableEq, Repr

namespace Definition

def takesBlock (definition : Definition) : Bool :=
  definition.endMark.isSome

def declares (definition : Definition) (name : String) : Bool :=
  definition.parameters.any (fun parameter => parameter.name == name)

/-- The texts that must stand on one line in the documentation. -/
def singleLines (definition : Definition) : List String :=
  definition.signature :: definition.summary ::
    definition.parameters.map (fun parameter => parameter.description)

/-- The first defect of a definition. -/
def defect? (definition : Definition) : Option Defect :=
  if Text.isBlankOnly definition.name.toList then some .noName
  else if definition.name.toList.any isBlank then some (.blankInName definition.name)
  else if Text.isBlankOnly definition.signature.toList then some (.noSignature definition.name)
  else if definition.singleLines.any (fun text => text.toList.contains '\n') then
    some (.manyLines definition.name)
  else none

def parameterLine (parameter : Parameter) : String :=
  "    - " ++ parameter.name ++ " (" ++ parameter.kind ++ ") [" ++
    (if parameter.required then "required" else "optional") ++ "]: " ++ parameter.description

def documentation (definition : Definition) : List String :=
  (definition.name ++ ":") ::
    ("  docstring: " ++ definition.summary) ::
    ("  signature: " ++ definition.signature) ::
    "  arguments:" :: definition.parameters.map parameterLine

end Definition

/-- The arguments of a command: values by name. -/
abbrev Arguments := Dictionary String

namespace Arguments

/-- The value of an argument that a tool cannot work without. -/
def require (arguments : Arguments) (tool name : String) : Except Failure String :=
  match arguments.get? name with
  | some value => .ok value
  | none => .error (.missingArgument tool name)

/-- The value of an argument as a whole number, blanks around it ignored. -/
def number? (arguments : Arguments) (name : String) : Except Failure (Option Nat) :=
  match arguments.get? name with
  | none => .ok none
  | some given =>
    match Decimal.read? (Text.trim given.toList) with
    | some value => .ok (some value)
    | none => .error (.notANumber name given)

/-- Is the argument set to one of the words for yes, in ASCII letters of either
case?  A flag without a value has the word `true`. -/
def isSet (arguments : Arguments) (name : String) : Bool :=
  match arguments.get? name with
  | none => false
  | some given =>
    ["true", "1", "yes"].contains
      (String.ofList ((Text.trim given.toList).map Char.toLower))

end Arguments

end Workbench
