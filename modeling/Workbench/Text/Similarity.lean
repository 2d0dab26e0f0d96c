namespace Workbench

/-!
How alike two words are.  Characters match when they are equal and stand not too far
apart; the measure is the mean of three shares: the matched part of either word, and
the part of the matches that stand in the same order.  It is kept as a fraction of
whole numbers, so that measures are compared without rounding.
-/

namespace Similarity

/-- A measure as a fraction. -/
structure Measure where
  numerator : Nat
  denominator : Nat
  deriving DecidableEq, Repr

/-- Is the first measure greater? -/
def Measure.exceeds (first second : Measure) : Bool :=
  second.numerator * first.denominator < first.numerator * second.denominator

/-- The first position from `start` on and before `stop` that holds this character
and is not taken. -/
def partner? (word : List Char) (character : Char) (taken : List Nat) (start stop : Nat) :
    Option Nat :=
  (List.range stop).find? (fun position =>
    start ≤ position && !taken.contains position && word[position]? == some character)

/-- The positions in the second word that match the characters of the first one from
a position on, each with the position that it matches. -/
def partners (reach : Nat) (second : List Char) :
    Nat → List Nat → List Char → List (Nat × Nat)
  | _, _, [] => []
  | position, taken, character :: rest =>
    match partner? second character taken (position - reach)
        (min second.length (position + reach + 1)) with
    | some partner =>
      (position, partner) :: partners reach second (position + 1) (partner :: taken) rest
    | none => partners reach second (position + 1) taken rest

/-- The measure for two words; words without a match have the measure zero. -/
def measure (first second : String) : Measure :=
  let left := first.toList
  let right := second.toList
  let reach := max left.length right.length / 2 - 1
  let pairs := partners reach right 0 [] left
  let matched := pairs.length
  let inSecond := (List.range right.length).filter (fun position =>
    pairs.any (fun pair => pair.2 == position))
  let displaced := ((pairs.zip inSecond).filter (fun (pair, position) =>
    left[pair.1]? != right[position]?)).length
  let ordered := matched - displaced / 2
  if matched = 0 then ⟨0, 1⟩
  else
    ⟨matched * matched * right.length + matched * matched * left.length +
        ordered * left.length * right.length,
      3 * matched * left.length * right.length⟩

/-- The measure that a suggestion must exceed. -/
def threshold : Measure :=
  ⟨7, 10⟩

/-- Puts a word with its measure behind those that are no more alike. -/
def place (entry : Measure × String) : List (Measure × String) → List (Measure × String)
  | [] => [entry]
  | other :: rest =>
    if other.1.exceeds entry.1 then entry :: other :: rest else other :: place entry rest

/-- The words that are much like a given one, the most alike last. -/
def suggestions (word : String) (known : List String) : List String :=
  let measured := known.map (fun other => (measure word other, other))
  let alike := measured.filter (fun entry => entry.1.exceeds threshold)
  (alike.foldl (fun sorted entry => place entry sorted) []).map (fun entry => entry.2)

example : suggestions "verison" ["config", "verbose", "version"] = ["verbose", "version"] := by
  decide +kernel

end Similarity

end Workbench
