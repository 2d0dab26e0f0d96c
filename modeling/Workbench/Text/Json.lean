import Workbench.Dictionary
import Workbench.Text.Decimal
namespace Workbench

/-!
Structured values as services send and receive them, and their printed form.
Numbers are kept as they are written, since nothing here computes with them.
Objects list their members by increasing key.
-/

/-- A structured value. -/
inductive Json where
  | null
  | boolean (value : Bool)
  | number (digits : String)
  | text (value : String)
  | array (elements : List Json)
  | object (members : List (String × Json))
  deriving Inhabited

namespace Json

/-- The value under a key; what is no object has none, and what is missing is
null. -/
def member (value : Json) (key : String) : Json :=
  match value with
  | .object members => (Entry.find? key members).getD .null
  | _ => .null

/-- The text of a text value. -/
def text? : Json → Option String
  | .text value => some value
  | _ => none

/-- The object of some texts. -/
def ofTexts (members : List (String × String)) : Json :=
  .object (members.map (fun entry => (entry.1, .text entry.2)))

/-- A character as it stands in a quoted text. -/
def escape (character : Char) : List Char :=
  if character = '"' then ['\\', '"']
  else if character = '\\' then ['\\', '\\']
  else if character = '\n' then ['\\', 'n']
  else if character = '\r' then ['\\', 'r']
  else if character = '\t' then ['\\', 't']
  else if character = '\x08' then ['\\', 'b']
  else if character = '\x0c' then ['\\', 'f']
  else if character.toNat < 0x20 then
    ['\\', 'u', '0', '0', Nat.digitChar (character.toNat / 16), Nat.digitChar (character.toNat % 16)]
  else [character]

def quote (text : String) : String :=
  "\"" ++ String.ofList (text.toList.flatMap escape) ++ "\""

/-- The blanks before a line at the given depth. -/
def indent (depth : Nat) : String :=
  String.ofList (List.replicate (2 * depth) ' ')

/-- A value on several lines, two blanks deeper for every level; empty arrays and
objects take no line of their own. -/
def pretty (depth : Nat) : Json → String
  | .null => "null"
  | .boolean value => if value then "true" else "false"
  | .number digits => digits
  | .text value => quote value
  | .array elements =>
    if elements.isEmpty then "[]"
    else "[\n" ++ String.intercalate ",\n" (ofElements (depth + 1) elements) ++ "\n" ++
      indent depth ++ "]"
  | .object members =>
    if members.isEmpty then "\x7b\x7d"
    else "\x7b\n" ++ String.intercalate ",\n" (ofMembers (depth + 1) members) ++ "\n" ++
      indent depth ++ "\x7d"
where
  ofElements (depth : Nat) : List Json → List String
    | [] => []
    | element :: rest => (indent depth ++ pretty depth element) :: ofElements depth rest
  ofMembers (depth : Nat) : List (String × Json) → List String
    | [] => []
    | (key, value) :: rest =>
      (indent depth ++ quote key ++ ": " ++ pretty depth value) :: ofMembers depth rest

end Json

end Workbench
