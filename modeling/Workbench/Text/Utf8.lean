namespace Workbench

/-!
Reading bytes as UTF-8 where every input must give a text.  Bytes that begin a
character without completing it are replaced together by one replacement
character, and so is every byte that can begin none.
-/

namespace Utf8

/-- The character that stands for bytes that encode none. -/
def replacement : Char := '\ufffd'

/-- A character whose first bytes have been read. -/
structure Partial where
  /-- How many bytes are missing. -/
  missing : Nat
  /-- The least and the greatest byte that may come next. -/
  low : Nat
  high : Nat
  /-- The value of the bytes so far. -/
  value : Nat

/-- What a byte means that stands where a character may begin. -/
inductive Opening where
  | whole (character : Char)
  | lead (begun : Partial)
  | stray

/-- The meaning of a byte where a character may begin. -/
def opening (byte : Nat) : Opening :=
  if byte < 0x80 then .whole (Char.ofNat byte)
  else if byte < 0xC2 then .stray
  else if byte < 0xE0 then .lead ⟨1, 0x80, 0xBF, byte - 0xC0⟩
  else if byte = 0xE0 then .lead ⟨2, 0xA0, 0xBF, 0⟩
  else if byte = 0xED then .lead ⟨2, 0x80, 0x9F, 0xD⟩
  else if byte < 0xF0 then .lead ⟨2, 0x80, 0xBF, byte - 0xE0⟩
  else if byte = 0xF0 then .lead ⟨3, 0x90, 0xBF, 0⟩
  else if byte < 0xF4 then .lead ⟨3, 0x80, 0xBF, byte - 0xF0⟩
  else if byte = 0xF4 then .lead ⟨3, 0x80, 0x8F, 4⟩
  else .stray

/-- The text of bytes, given the character that has been begun before them. -/
def decodeFrom : Option Partial → List UInt8 → List Char
  | none, [] => []
  | some _, [] => [replacement]
  | begun, byte :: rest =>
    let value := byte.toNat
    let anew : List Char :=
      match opening value with
      | .whole character => character :: decodeFrom none rest
      | .lead next => decodeFrom (some next) rest
      | .stray => replacement :: decodeFrom none rest
    match begun with
    | none => anew
    | some part =>
      if part.low ≤ value ∧ value ≤ part.high then
        let sum := 64 * part.value + (value - 0x80)
        if part.missing ≤ 1 then Char.ofNat sum :: decodeFrom none rest
        else decodeFrom (some ⟨part.missing - 1, 0x80, 0xBF, sum⟩) rest
      else replacement :: anew

def decode (bytes : ByteArray) : String :=
  String.ofList (decodeFrom none bytes.data.toList)

example : decode ⟨#[0x61, 0xE2, 0x82, 0x62, 0xFF]⟩ = "a\ufffdb\ufffd" := by decide +kernel

end Utf8

end Workbench
