import Workbench.Text.Lines
namespace Workbench

/-!
Replacing a range of lines in a text.  The text is taken as its lines, the lines
from the first to the last of the range give way to the lines of the new text, and
the result is joined with line feeds.  A text that was empty or ended with a line
feed ends with one again, unless no line is left.
-/

namespace Splice

/-- The lines after replacing those from `start` to `stop`, counted from one; a
range that starts behind the last line adds lines at the end. -/
def replace {Line : Type} (start stop : Nat) (new lines : List Line) : List Line :=
  lines.take (start - 1) ++ new ++ lines.drop (max (min stop lines.length) (start - 1))

/-- Does the result of replacing end with a line feed? -/
def endsLine (text : List Char) : Bool :=
  text.isEmpty || text.getLast? == some '\n'

/-- The text after replacing a range of its lines. -/
def apply (start stop : Nat) (content text : List Char) : List Char :=
  let lines := replace start stop (Text.lines content) (Text.lines text)
  Text.join ['\n'] lines ++ (if !lines.isEmpty && endsLine text then ['\n'] else [])

/-- Why a range is turned down. -/
inductive Fault where
  /-- The range starts at no line and not directly behind the last one either. -/
  | startOutside (total : Nat)
  | stopBeforeStart (start stop : Nat)
  deriving DecidableEq, Repr

/-- The first fault of a range for a text of so many lines. -/
def fault? (total start stop : Nat) : Option Fault :=
  if start = 0 ∨ total + 1 < start then some (.startOutside total)
  else if stop < start then some (.stopBeforeStart start stop)
  else none

end Splice

end Workbench
