import Workbench.Settings
import Workbench.Text.Decimal
import Workbench.Yaml.Reader
namespace Workbench

/-!
Settings as a document gives them.  The document is a mapping of sections, and a
section is a mapping of fields.  What is missing or empty keeps its default, keys
that mean nothing here are passed over, and a known key may stand only once.
-/

namespace Settings

/-- A whole number in a base, from digits that must be there. -/
def inBase? (base : Nat) (digits : List Char) : Option Nat :=
  if digits.isEmpty then none
  else
    let value? := digits.foldl (fun value? digit =>
      match value?, Yaml.hexDigit? digit with
      | some value, some digit => if digit < base then some (base * value + digit) else none
      | _, _ => none) (some 0)
    match value? with
    | some value => if value ≤ Decimal.largest then some value else none
    | none => none

/-- A whole number as settings write it: decimal without leading zeros, or with a
mark for the bases sixteen, eight and two; a plus sign may stand in front. -/
def number? (text : List Char) : Option Nat :=
  let digits :=
    match text with
    | '+' :: rest => rest
    | other => other
  match digits with
  | '0' :: 'x' :: rest => inBase? 16 rest
  | '0' :: 'o' :: rest => inBase? 8 rest
  | '0' :: 'b' :: rest => inBase? 2 rest
  | ['0'] => some 0
  | '0' :: _ => none
  | other => inBase? 10 other

/-- The number that a value gives.  Quotes make a text of it, and a block of text is
a number only if its tag says so. -/
def numberOf? : Yaml.Value → Option Nat
  | .scalar text .plain _ => number? text.toList
  | .scalar text .literal (some tag) =>
    if tag = Yaml.integerTag then number? text.toList else none
  | _ => none

/-- The text that a value gives: any scalar, as it is written. -/
def textOf? : Yaml.Value → Option String
  | .scalar text _ _ => some text
  | _ => none

/-- The known fields among the entries of a mapping.  Every key must be a scalar, and
no known key may stand twice. -/
def fields? (known : List String) :
    List (Yaml.Value × Yaml.Value) → Option (List (String × Yaml.Value))
  | [] => some []
  | (key, value) :: rest =>
    match textOf? key, fields? known rest with
    | some name, some found =>
      if !known.contains name then some found
      else if (found.lookup name).isSome then none
      else some ((name, value) :: found)
    | _, _ => none

/-- The known fields of a section, which may be left empty. -/
def section? (known : List String) : Option Yaml.Value → Option (List (String × Yaml.Value))
  | none => some []
  | some (.mapping entries) => fields? known entries
  | some (.scalar "" .plain _) => some []
  | some _ => none

/-- A number field, or its default where it is missing. -/
def numberField? (fields : List (String × Yaml.Value)) (name : String) (default : Nat) :
    Option Nat :=
  match fields.lookup name with
  | none => some default
  | some value => numberOf? value

/-- A text field, or its default where it is missing. -/
def textField? (fields : List (String × Yaml.Value)) (name default : String) : Option String :=
  match fields.lookup name with
  | none => some default
  | some value => textOf? value

/-- The settings that a document gives. -/
def ofDocument? (document : Option Yaml.Value) : Option Settings := do
  let default : Settings := {}
  let sections ← section? ["workspace", "window", "search", "web", "git"] document
  let workspace ← section? ["root"] (sections.lookup "workspace")
  let window ← section? ["lines", "overlap"] (sections.lookup "window")
  let search ← section? ["max-files", "max-matches"] (sections.lookup "search")
  let web ← section? ["timeout-ms", "max-results"] (sections.lookup "web")
  let git ← section? ["gh-command", "timeout-ms"] (sections.lookup "git")
  some
    { workspace := ← textField? workspace "root" default.workspace
      window :=
        { lines := ← numberField? window "lines" default.window.lines
          overlap := ← numberField? window "overlap" default.window.overlap }
      search :=
        { maxFiles := ← numberField? search "max-files" default.search.maxFiles
          maxMatches := ← numberField? search "max-matches" default.search.maxMatches }
      web :=
        { patience := ← numberField? web "timeout-ms" default.web.patience
          maxResults := ← numberField? web "max-results" default.web.maxResults }
      pullRequest :=
        { program := ← textField? git "gh-command" default.pullRequest.program
          patience := ← numberField? git "timeout-ms" default.pullRequest.patience } }

def ofText? (text : String) : Option Settings :=
  match Yaml.read? text with
  | none => none
  | some document => ofDocument? document

end Settings

end Workbench
