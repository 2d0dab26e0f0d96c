namespace Workbench

/-!
Patterns for file names.  A question mark stands for one character, a star for
any run of characters, and brackets for one character of a class, or outside of
it after an exclamation mark.  Two stars that fill a whole path component stand
for any directories; since a file name holds none, they take the whole name or
nothing of it.
-/

/-- One element of a pattern. -/
inductive Glyph where
  | exactly (character : Char)
  | anyOne
  | anyRun
  | anyDirectories
  /-- One character that lies in one of the ranges. -/
  | within (ranges : List (Char × Char))
  /-- One character that lies in none of the ranges. -/
  | without (ranges : List (Char × Char))
  deriving DecidableEq, Repr

/-- What is wrong with a pattern. -/
inductive PatternFault where
  | tooManyStars
  | starsBesideName
  | brokenClass
  deriving DecidableEq, Repr

namespace PatternFault

def message : PatternFault → String
  | tooManyStars => "wildcards are either regular `*` or recursive `**`"
  | starsBesideName => "recursive wildcards must form a single path component"
  | brokenClass => "invalid range pattern"

end PatternFault

/-- A fault and the position in the pattern near which it lies. -/
structure PatternComplaint where
  position : Nat
  fault : PatternFault
  deriving DecidableEq, Repr

namespace PatternComplaint

def message (complaint : PatternComplaint) : String :=
  "Pattern syntax error near position " ++ String.ofList (Nat.toDigits 10 complaint.position) ++
    ": " ++ complaint.fault.message

end PatternComplaint

namespace Pattern

/-- The ranges that a class lists: three characters with a dash in the middle are
a range, any other character stands for itself. -/
def ranges : List Char → List (Char × Char)
  | low :: '-' :: high :: rest => (low, high) :: ranges rest
  | character :: rest => (character, character) :: ranges rest
  | [] => []

/-- Cuts a text at its first closing bracket. -/
def cutAtBracket : List Char → Option (List Char × List Char)
  | [] => none
  | first :: rest =>
    if first = ']' then some ([], rest)
    else (cutAtBracket rest).map (fun parts => (first :: parts.1, parts.2))

/-- The class that opens a text after its bracket, and the text behind it.  The
first character of a class is never its end. -/
def class? : List Char → Option (Glyph × List Char)
  | '!' :: first :: rest =>
    (cutAtBracket rest).map (fun parts => (.without (ranges (first :: parts.1)), parts.2))
  | ['!'] => none
  | first :: rest =>
    (cutAtBracket rest).map (fun parts => (.within (ranges (first :: parts.1)), parts.2))
  | [] => none

theorem length_cutAtBracket {text inside behind : List Char}
    (found : cutAtBracket text = some (inside, behind)) : behind.length < text.length := by
  induction text generalizing inside with
  | nil => simp [cutAtBracket] at found
  | cons first rest inductionHypothesis =>
      unfold cutAtBracket at found
      split at found
      · simp at found
        simp [found.2]
      · simp only [Option.map_eq_some_iff, Prod.mk.injEq, Prod.exists] at found
        obtain ⟨before, after, cut, _, same⟩ := found
        subst same
        exact Nat.lt_succ_of_lt (inductionHypothesis cut)

theorem length_class {text behind : List Char} {glyph : Glyph}
    (found : class? text = some (glyph, behind)) : behind.length < text.length := by
  unfold class? at found
  split at found
  · simp only [Option.map_eq_some_iff, Prod.mk.injEq, Prod.exists] at found
    obtain ⟨before, after, cut, _, same⟩ := found
    subst same
    have shorter := length_cutAtBracket cut
    simp only [List.length_cons]
    omega
  · simp at found
  · simp only [Option.map_eq_some_iff, Prod.mk.injEq, Prod.exists] at found
    obtain ⟨before, after, cut, _, same⟩ := found
    subst same
    have shorter := length_cutAtBracket cut
    simp only [List.length_cons]
    omega
  · simp at found

/-- Reads a pattern from a position on; the character before it decides whether
two stars may stand here. -/
def readFrom (before : Option Char) (position : Nat) (text : List Char) :
    Except PatternComplaint (List Glyph) :=
  match text with
  | [] => .ok []
  | '?' :: rest => (readFrom (some '?') (position + 1) rest).map (.anyOne :: ·)
  | '*' :: '*' :: '*' :: _ => .error ⟨position + 2, .tooManyStars⟩
  | '*' :: '*' :: rest =>
    if before = none ∨ before = some '/' then
      match rest with
      | [] => .ok [.anyDirectories]
      | '/' :: more => (readFrom (some '/') (position + 3) more).map (.anyDirectories :: ·)
      | _ => .error ⟨position + 2, .starsBesideName⟩
    else .error ⟨position - 1, .starsBesideName⟩
  | '*' :: rest => (readFrom (some '*') (position + 1) rest).map (.anyRun :: ·)
  | '[' :: rest =>
    match found : class? rest with
    | none => .error ⟨position, .brokenClass⟩
    | some (glyph, behind) =>
      (readFrom (some ']') (position + 1 + (rest.length - behind.length)) behind).map (glyph :: ·)
  | character :: rest =>
    (readFrom (some character) (position + 1) rest).map (.exactly character :: ·)
termination_by text.length
decreasing_by
  all_goals simp_wf
  all_goals first
    | omega
    | (have shorter := length_class found; omega)

def read (text : String) : Except PatternComplaint (List Glyph) :=
  readFrom none 0 text.toList

/-- Does a character lie in one of the ranges? -/
def lies (ranges : List (Char × Char)) (character : Char) : Bool :=
  ranges.any (fun range => range.1 ≤ character && character ≤ range.2)

/-- Does a glyph stand for this one character? -/
def standsFor : Glyph → Char → Bool
  | .exactly expected, character => expected == character
  | .anyOne, _ => true
  | .within ranges, character => lies ranges character
  | .without ranges, character => !lies ranges character
  | .anyRun, _ => false
  | .anyDirectories, _ => false

/-- Is one of the ends of a text, the text itself included, accepted? -/
def someEnd (accepted : List Char → Bool) : List Char → Bool
  | [] => accepted []
  | first :: rest => accepted (first :: rest) || someEnd accepted rest

/-- Does a pattern match a whole file name? -/
def matchesName : List Glyph → List Char → Bool
  | [], name => name.isEmpty
  | .anyRun :: glyphs, name => someEnd (matchesName glyphs) name
  | .anyDirectories :: glyphs, name => matchesName glyphs name || matchesName glyphs []
  | _ :: _, [] => false
  | glyph :: glyphs, first :: rest => standsFor glyph first && matchesName glyphs rest

end Pattern

end Workbench
