import Workbench.Settings
import Workbench.Text.Lines
namespace Workbench

/-!
The window onto a text.  It shows a run of consecutive lines with their numbers
and says how many lines lie above and below.  The first line is moved so far up
that the window is full whenever the text has lines enough.
-/

namespace Window

def linesOf (text : String) : List String :=
  (Text.lines text.toList).map String.ofList

/-- The first line of a window that has the given line in its middle. -/
def centered (settings : WindowSettings) (line : Nat) : Nat :=
  max (line - settings.lines / 2) 1

/-- The first line that is shown when another one is asked for. -/
def clamp (settings : WindowSettings) (total first : Nat) : Nat :=
  if total = 0 then 1 else min (max first 1) (max (total - settings.lines + 1) 1)

/-- Lines with their numbers, counted from the given one. -/
def numbered : Nat → List String → List String
  | _, [] => []
  | number, line :: rest => (Decimal.write number ++ ":" ++ line) :: numbered (number + 1) rest

/-- The window's own lines, from the given first line on. -/
def rows (settings : WindowSettings) (lines : List String) (first : Nat) : List String :=
  numbered first ((lines.drop (first - 1)).take settings.lines)

/-- The text of a window onto the lines of a file of the given name. -/
def render (settings : WindowSettings) (name : String) (lines : List String) (first : Nat) :
    String :=
  let total := lines.length
  let last := min (first - 1 + settings.lines) total
  let heading := "[File: " ++ name ++ " (" ++ Decimal.write total ++ " lines total)]"
  let above :=
    if 1 < first then ["(" ++ Decimal.write (first - 1) ++ " more lines above)"] else []
  let below :=
    if last < total then ["(" ++ Decimal.write (total - last) ++ " more lines below)"] else []
  String.intercalate "\n" (heading :: above ++ rows settings lines first ++ below)

end Window

end Workbench
