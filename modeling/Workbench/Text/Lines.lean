namespace Workbench

/-!
Lines of a text.  A line ends at a line feed, and a carriage return directly
before that line feed belongs to the line's end and not to the line.  A
carriage return elsewhere is an ordinary character.  Two views are kept apart:
`pieces` cuts the text and loses nothing, `lines` gives what a reader sees.
-/

namespace Text

/-- Cuts a text after every line feed.  Only the last piece can lack one. -/
def pieces : List Char → List (List Char)
  | [] => []
  | first :: rest =>
    if first = '\n' then ['\n'] :: pieces rest
    else
      match pieces rest with
      | [] => [[first]]
      | piece :: others => (first :: piece) :: others

theorem flatten_pieces (text : List Char) : (pieces text).flatten = text := by
  induction text with
  | nil => rfl
  | cons first rest inductionHypothesis =>
      unfold pieces
      split
      · rename_i lineFeed
        simp [inductionHypothesis, lineFeed]
      · split
        · rename_i none
          rw [none] at inductionHypothesis
          simp at inductionHypothesis
          simp [← inductionHypothesis]
        · rename_i piece others some
          rw [some] at inductionHypothesis
          simpa using inductionHypothesis

/-- Drops one carriage return from the end of a line. -/
def dropReturn (line : List Char) : List Char :=
  if line.getLast? = some '\r' then line.dropLast else line

/-- A piece without its line end. -/
def bare (piece : List Char) : List Char :=
  if piece.getLast? = some '\n' then dropReturn piece.dropLast else piece

/-- The lines of a text as a reader sees them. -/
def lines (text : List Char) : List (List Char) :=
  (pieces text).map bare

/-- Cuts a text at every line feed, which is dropped; a text without one is a
single part, also when it is empty. -/
def parts : List Char → List (List Char)
  | [] => [[]]
  | first :: rest =>
    if first = '\n' then [] :: parts rest
    else
      match parts rest with
      | [] => [[first]]
      | part :: others => (first :: part) :: others

/-- Joins texts with a separator between neighbours. -/
def join (separator : List Char) : List (List Char) → List Char
  | [] => []
  | [text] => text
  | text :: others => text ++ separator ++ join separator others

theorem parts_ne_nil (text : List Char) : parts text ≠ [] := by
  cases text with
  | nil => simp [parts]
  | cons first rest =>
      unfold parts
      split
      · simp
      · split <;> simp

theorem join_parts (text : List Char) : join ['\n'] (parts text) = text := by
  induction text with
  | nil => rfl
  | cons first rest inductionHypothesis =>
      unfold parts
      cases found : parts rest with
      | nil => exact absurd found (parts_ne_nil rest)
      | cons part others =>
          rw [found] at inductionHypothesis
          split
          · rename_i lineFeed
            simp [join, inductionHypothesis, lineFeed]
          · cases others <;> simp [join] at * <;> simp [← inductionHypothesis]

end Text

end Workbench
