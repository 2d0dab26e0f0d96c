import Workbench.Text.Blank
namespace Workbench

/-!
Splitting a command line into tokens.  White space separates tokens outside
quotes.  A single or double quote opens a span that only the same character
closes; the span is a token of its own, whatever touches it on either side, so
quotes never glue words together.  A quote that is left open runs to the end of
the line.
-/

namespace Token

/-- Where a scan stands: between or inside plain words, or inside a quoted span
that the given mark closes. -/
inductive Quoting where
  | outside
  | inside (mark : Char)
  deriving DecidableEq, Repr

/-- The two characters that open a quoted span. -/
def isMark (character : Char) : Bool :=
  character == '"' || character == '\''

/-- The token held so far, if any character is held; characters are held last
first. -/
def flush : List Char → List (List Char)
  | [] => []
  | held => [held.reverse]

/-- The tokens of the rest of a line, given where the scan stands and which
characters it holds. -/
def scanFrom : Quoting → List Char → List Char → List (List Char)
  | .outside, held, [] => flush held
  | .inside _, held, [] => [held.reverse]
  | .inside mark, held, first :: rest =>
    if first = mark then held.reverse :: scanFrom .outside [] rest
    else scanFrom (.inside mark) (first :: held) rest
  | .outside, held, first :: rest =>
    if isMark first then flush held ++ scanFrom (.inside first) [] rest
    else if isBlank first then flush held ++ scanFrom .outside [] rest
    else scanFrom .outside (first :: held) rest

/-- The tokens of a line, quotes removed. -/
def scan (line : List Char) : List (List Char) :=
  scanFrom .outside [] line

/-- The quoting in which a line leaves the scan. -/
def quotingAfter : Quoting → List Char → Quoting
  | quoting, [] => quoting
  | .inside mark, first :: rest =>
    if first = mark then quotingAfter .outside rest else quotingAfter (.inside mark) rest
  | .outside, first :: rest =>
    if isMark first then quotingAfter (.inside first) rest else quotingAfter .outside rest

/-- Puts a text between two copies of a quote mark. -/
def enclose (mark : Char) (text : List Char) : List Char :=
  mark :: (text ++ [mark])

/-- The text between quotes, with a mark that it lacks if it lacks one. -/
def quote (text : List Char) : List Char :=
  if '"' ∈ text then enclose '\'' text else enclose '"' text

/-- A span that is scanned without meeting its mark is held as it stands. -/
theorem scanFrom_inside_of_not_mem {mark : Char} (text : List Char) (lacks : mark ∉ text)
    (held rest : List Char) :
    scanFrom (.inside mark) held (text ++ mark :: rest) =
      (held.reverse ++ text) :: scanFrom .outside [] rest := by
  induction text generalizing held with
  | nil => simp [scanFrom]
  | cons first others inductionHypothesis =>
      simp only [List.mem_cons, not_or] at lacks
      have different : first ≠ mark := fun same => lacks.1 same.symm
      simp [scanFrom, different, inductionHypothesis lacks.2]

end Token

end Workbench
