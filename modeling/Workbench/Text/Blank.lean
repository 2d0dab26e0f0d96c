namespace Workbench

/-!
White space as Unicode names it.  Commands are split, trimmed and compared by
this one class, so the class is stated once, by its code points.  It holds the
line separators and the wide spaces, but neither the zero-width space nor the
byte order mark nor the four information separators of ASCII.
-/

/-- The code points with the White_Space property. -/
def isBlank (character : Char) : Bool :=
  let code := character.toNat
  (9 ≤ code && code ≤ 13) || code == 0x20 || code == 0x85 || code == 0xA0 ||
    code == 0x1680 || (0x2000 ≤ code && code ≤ 0x200A) || code == 0x2028 ||
    code == 0x2029 || code == 0x202F || code == 0x205F || code == 0x3000

namespace Text

/-- A text of white space only; the empty text is one. -/
def isBlankOnly (text : List Char) : Bool :=
  text.all isBlank

def trimStart (text : List Char) : List Char :=
  text.dropWhile isBlank

def trimEnd : List Char → List Char
  | [] => []
  | first :: rest =>
    match trimEnd rest with
    | [] => if isBlank first then [] else [first]
    | kept => first :: kept

def trim (text : List Char) : List Char :=
  trimEnd (trimStart text)

/-- The first run of characters that are not blank, if there is one. -/
def firstWord? (text : List Char) : Option (List Char) :=
  match (trimStart text).takeWhile (fun character => !isBlank character) with
  | [] => none
  | word => some word

/-- Every blank of the core library is a blank here. -/
theorem isBlank_of_isWhitespace (character : Char)
    (whitespace : character.isWhitespace = true) : isBlank character = true := by
  simp only [Char.isWhitespace, Bool.or_eq_true, decide_eq_true_eq] at whitespace
  rcases whitespace with ((space | tab) | feed) | line
  · subst space; decide
  · subst tab; decide
  · subst feed; decide
  · subst line; decide

example : isBlank '\u200b' = false ∧ isBlank '\ufeff' = false ∧ isBlank '\u001c' = false := by
  decide

end Text

end Workbench
