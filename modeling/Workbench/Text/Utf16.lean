import Workbench.Text.Utf8
namespace Workbench

/-!
Reading bytes as UTF-16 in either order of bytes.  A surrogate without its
partner, or a single byte at the end, gives a replacement character.
-/

namespace Utf16

/-- Which byte of a unit comes first. -/
inductive ByteOrder where
  | little
  | big
  deriving DecidableEq

def unit (order : ByteOrder) (first second : UInt8) : Nat :=
  match order with
  | .little => first.toNat + 256 * second.toNat
  | .big => 256 * first.toNat + second.toNat

/-- Is this unit the first half of a pair? -/
def isHigh (unit : Nat) : Bool :=
  0xD800 ≤ unit && unit < 0xDC00

/-- Is this unit the second half of a pair? -/
def isLow (unit : Nat) : Bool :=
  0xDC00 ≤ unit && unit < 0xE000

/-- The text of bytes, given the first half of a pair that stands before them. -/
def decodeFrom (order : ByteOrder) : Option Nat → List UInt8 → List Char
  | none, [] => []
  | some _, [] => [Utf8.replacement]
  | _, [_] => [Utf8.replacement]
  | high, first :: second :: rest =>
    let value := unit order first second
    let anew : List Char :=
      if isHigh value then decodeFrom order (some value) rest
      else if isLow value then Utf8.replacement :: decodeFrom order none rest
      else Char.ofNat value :: decodeFrom order none rest
    match high with
    | none => anew
    | some half =>
      if isLow value then
        Char.ofNat (0x10000 + 1024 * (half - 0xD800) + (value - 0xDC00)) ::
          decodeFrom order none rest
      else Utf8.replacement :: anew

def decode (order : ByteOrder) (bytes : List UInt8) : String :=
  String.ofList (decodeFrom order none bytes)

example : decode .little [0x3D, 0xD8, 0x00, 0xDE, 0x61] = "😀\ufffd" := by decide +kernel

end Utf16

end Workbench
