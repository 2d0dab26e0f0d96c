import Workbench.Text.Printable
namespace Workbench

/-!
A text in quotes, as it is shown where its exact characters matter.  The quote
and the backslash are escaped, the common controls have their short names, and
every other character without a shape of its own is given by its code point.
-/

namespace Quoted

/-- Which marks a quoted text escapes besides the backslash. -/
inductive Manner where
  /-- Only the double quote, which encloses the text. -/
  | double
  /-- The double quote and the single quote. -/
  | both
  deriving DecidableEq

/-- A character as it stands inside quotes. -/
def escape (manner : Manner) (character : Char) : List Char :=
  if character = '\x00' then ['\\', '0']
  else if character = '\t' then ['\\', 't']
  else if character = '\r' then ['\\', 'r']
  else if character = '\n' then ['\\', 'n']
  else if character = '"' then ['\\', '"']
  else if character = '\\' then ['\\', '\\']
  else if character = '\'' ∧ manner = .both then ['\\', '\'']
  else if Printable.isPrintable character then [character]
  else "\\u\x7b".toList ++ Nat.toDigits 16 character.toNat ++ ['}']

def quote (manner : Manner) (text : String) : String :=
  "\"" ++ String.ofList (text.toList.flatMap (escape manner)) ++ "\""

end Quoted

end Workbench
