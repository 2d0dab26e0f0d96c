namespace Workbench

/-!
The encoding of form fields in an address.  Letters, digits and four marks stand
for themselves, a space becomes a plus sign, and every other byte is written as a
percent sign and two hexadecimal digits.
-/

namespace FormEncoding

/-- The bytes that stand for themselves. -/
def isPlain (byte : Nat) : Bool :=
  (0x30 ≤ byte && byte ≤ 0x39) || (0x41 ≤ byte && byte ≤ 0x5A) || (0x61 ≤ byte && byte ≤ 0x7A) ||
    byte == 0x2A || byte == 0x2D || byte == 0x2E || byte == 0x5F

/-- A hexadecimal digit with a capital letter. -/
def digit (value : Nat) : Char :=
  if value < 10 then Char.ofNat (0x30 + value) else Char.ofNat (0x41 + (value - 10))

def encodeByte (byte : UInt8) : List Char :=
  let value := byte.toNat
  if isPlain value then [Char.ofNat value]
  else if value = 0x20 then ['+']
  else ['%', digit (value / 16), digit (value % 16)]

/-- The written form of a text. -/
def encode (text : String) : String :=
  String.ofList (text.toUTF8.data.toList.flatMap encodeByte)

/-- The written form of fields, joined as in an address. -/
def fields (entries : List (String × String)) : String :=
  String.intercalate "&" (entries.map (fun entry => encode entry.1 ++ "=" ++ encode entry.2))

example : encode "a b*é/~" = "a+b*%C3%A9%2F%7E" := by decide +kernel

end FormEncoding

end Workbench
