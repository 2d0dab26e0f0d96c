namespace Workbench

/-!
Whole numbers as decimal text.  A number is read from a non-empty run of ASCII
digits, after an optional plus sign, and must fit into 64 bits; leading zeros
are harmless.  A number is written with its digits alone.
-/

namespace Decimal

/-- The largest number that can be read. -/
def largest : Nat := 18446744073709551615

def digit? (character : Char) : Option Nat :=
  if '0' ≤ character ∧ character ≤ '9' then some (character.toNat - '0'.toNat) else none

/-- The value of a run of digits, after the value read so far. -/
def valueFrom? (value : Nat) : List Char → Option Nat
  | [] => some value
  | first :: rest =>
    match digit? first with
    | none => none
    | some digit => valueFrom? (10 * value + digit) rest

/-- The value of a non-empty run of digits that fits into 64 bits. -/
def digitsValue? (digits : List Char) : Option Nat :=
  if digits.isEmpty then none
  else
    match valueFrom? 0 digits with
    | none => none
    | some value => if value ≤ largest then some value else none

/-- Reads a number, with an optional plus sign in front. -/
def read? : List Char → Option Nat
  | '+' :: digits => digitsValue? digits
  | digits => digitsValue? digits

/-- Writes a number in its shortest decimal form. -/
def write (value : Nat) : String :=
  String.ofList (Nat.toDigits 10 value)

example : read? "+0042".toList = some 42 := by decide
example : read? "+".toList = none := by decide
example : read? "-0".toList = none := by decide
example : read? "18446744073709551616".toList = none := by decide

end Decimal

end Workbench
