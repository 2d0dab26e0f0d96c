import Workbench.Text.Utf8
namespace Workbench

/-!
Names in directories.  To the system a name is a sequence of bytes.  A name that is UTF-8 is held
as its text.  Any other name is held behind a zero character, with one character for each byte.

No name has a zero byte, and no path that holds one is taken.  So a name that is not UTF-8 is met
on a walk, but no text leads to what bears it.
-/

namespace Name

/-- The character in front of a name that is not UTF-8. -/
def mark : Char := '\x00'

/-- The name that these bytes are held as. -/
def ofBytes (bytes : List UInt8) : String :=
  match String.fromUTF8? ⟨bytes.toArray⟩ with
  | some text => text
  | none => String.ofList (mark :: bytes.map (fun byte => Char.ofNat byte.toNat))

/-- Is this the text of a name that is UTF-8? -/
def isText (name : String) : Bool :=
  name.toList.head? != some mark

/-- The bytes of a name. -/
def bytes (name : String) : List UInt8 :=
  if isText name then name.toUTF8.data.toList
  else name.toList.tail.map (fun character => UInt8.ofNat character.toNat)

/-- The text of a name, if there is one. -/
def text? (name : String) : Option String :=
  if isText name then some name else none

/-- A text for every name.  What is not UTF-8 in it is replaced, so two names can be shown alike. -/
def shown (name : String) : String :=
  if isText name then name else Utf8.decode ⟨(bytes name).toArray⟩

example : bytes (ofBytes [0x61, 0xFF]) = [0x61, 0xFF] ∧ shown (ofBytes [0x61, 0xFF]) = "a\ufffd" ∧
    shown (ofBytes [0x61, 0xFE]) = "a\ufffd" := by
  decide +kernel

end Name

end Workbench
