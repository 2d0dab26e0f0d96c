import Workbench.Proofs.Guarded.Word
import Workbench.Proofs.Splice.Untouched
import Workbench.Proofs.Tool.Remembering
namespace Workbench

/-!
# Windows and ranges in words

The process moves a window with sums, differences and a clamp of words, and replaces lines by
a range of positions.  Here a window is drawn and a range is replaced in this way.  What keeps
both from aborting is little: the first line is at least one and no further down than the
clamp leaves it, and the range has passed the test that comes before.
-/

namespace Guarded

namespace Window

/-- The first line that is shown when another one is asked for. -/
def clampFirst (settings : WindowSettings) (total asked : Nat) : Run Nat :=
  if total = 0 then pure 1
  else do
    let last ← add (total - settings.lines) 1
    clamp asked 1 (max last 1)

/-- Lines with their numbers, counted from the position before. -/
def numbered : Nat → List String → Run (List String)
  | _, [] => pure []
  | position, line :: rest => do
    let number ← add position 1
    let others ← numbered number rest
    pure ((Decimal.write number ++ ":" ++ line) :: others)

/-- The text of a window onto the lines of a file of the given name. -/
def render (settings : WindowSettings) (name : String) (lines : List String) (first : Nat) :
    Run String := do
  let total := lines.length
  let skipped ← sub first 1
  let reach ← add skipped settings.lines
  let last := min reach total
  let heading := "[File: " ++ name ++ " (" ++ Decimal.write total ++ " lines total)]"
  let above :=
    if 1 < first then ["(" ++ Decimal.write skipped ++ " more lines above)"] else []
  let rows ← numbered skipped ((lines.take last).drop skipped)
  if last < total then
    let rest ← sub total last
    let below := ["(" ++ Decimal.write rest ++ " more lines below)"]
    pure (String.intercalate "\n" (heading :: above ++ rows ++ below))
  else pure (String.intercalate "\n" (heading :: above ++ rows ++ []))

theorem gives_clampFirst (settings : WindowSettings) (total asked : Nat) :
    Gives (total < Decimal.largest) (Workbench.Window.clamp settings total asked)
      (clampFirst settings total asked) := by
  unfold clampFirst Workbench.Window.clamp
  split
  · exact .ok
  · refine ((gives_add _ _).of_imp fun fits => ?_).bind
      ((gives_clamp _ _ _).of_imp fun _ => Nat.le_max_right _ _)
    omega

theorem gives_numbered (position : Nat) (lines : List String) :
    Gives (position + lines.length ≤ Decimal.largest)
      (Workbench.Window.numbered (position + 1) lines) (numbered position lines) := by
  induction lines generalizing position with
  | nil => exact .ok
  | cons line rest inductionHypothesis =>
      rw [List.length_cons]
      refine ((gives_add _ _).of_imp fun fits => ?_).bind
        (((inductionHypothesis _).of_imp fun fits => ?_).bind .ok)
      · omega
      · omega

/-- The lines between two positions are as many lines from the first one on. -/
theorem drop_take_min {Line : Type} (lines : List Line) (skipped height : Nat) :
    (lines.take (min (skipped + height) lines.length)).drop skipped =
      (lines.drop skipped).take height := by
  rw [← List.take_take, List.take_length, List.drop_take, Nat.add_sub_cancel_left]

/-- A window is drawn without aborting if its last line, whether the file has it or not, can
be counted. -/
theorem gives_render (settings : WindowSettings) (name : String) (lines : List String)
    {first : Nat} (positive : 1 ≤ first) :
    Gives (first - 1 + settings.lines ≤ Decimal.largest)
      (Workbench.Window.render settings name lines first) (render settings name lines first) := by
  unfold render Workbench.Window.render Workbench.Window.rows
  refine ((gives_sub _ _).of_imp fun _ => positive).bind ((gives_add _ _).bind ?_)
  dsimp only
  rw [drop_take_min]
  refine ((gives_numbered _ _).of_imp fun reaches => ?_).bind ?_
  · rw [List.length_take]
    omega
  · rw [Nat.sub_add_cancel positive]
    by_cases more : min (first - 1 + settings.lines) lines.length < lines.length
    · rw [if_pos more, if_pos more]
      exact ((gives_sub _ _).of_imp fun _ => Nat.le_of_lt more).bind .ok
    · rw [if_neg more, if_neg more]
      exact .ok

/-- A line that the clamp has chosen can always be the first one. -/
theorem gives_render_clamp (settings : WindowSettings) (name : String) (lines : List String)
    (asked : Nat) :
    Gives (settings.lines < 2 ^ 63 ∧ lines.length < Decimal.largest)
      (Workbench.Window.render settings name lines
        (Workbench.Window.clamp settings lines.length asked))
      (render settings name lines (Workbench.Window.clamp settings lines.length asked)) := by
  apply (gives_render _ _ _ (Workbench.Window.one_le_clamp settings lines.length asked)).of_imp
  rintro ⟨height, fits⟩
  have fitting := Workbench.Window.clamp_le_fitting settings lines.length asked
  unfold Decimal.largest at fits ⊢
  omega

end Window

namespace Splice

/-- The first fault of a range for a text of so many lines. -/
def fault? (total start stop : Nat) : Run (Option Workbench.Splice.Fault) := do
  let next ← add total 1
  if start = 0 ∨ next < start then pure (some (.startOutside total))
  else if stop < start then pure (some (.stopBeforeStart start stop))
  else pure none

/-- The lines after replacing those of a range. -/
def replace {Line : Type} (start stop : Nat) (new lines : List Line) : Run (List Line) := do
  let above ← sub start 1
  splice lines above (max (min stop lines.length) above) new

/-- The text after replacing a range of its lines. -/
def apply (start stop : Nat) (content text : List Char) : Run (List Char) := do
  let lines ← replace start stop (Text.lines content) (Text.lines text)
  pure (Text.join ['\n'] lines ++
    (if !lines.isEmpty && Workbench.Splice.endsLine text then ['\n'] else []))

theorem gives_fault? (total start stop : Nat) :
    Gives (total < Decimal.largest) (Workbench.Splice.fault? total start stop)
      (fault? total start stop) := by
  unfold fault? Workbench.Splice.fault?
  refine ((gives_add total 1).of_imp fun fits => Nat.succ_le_of_lt fits).bind ?_
  split
  · exact .ok
  · split
    · exact .ok
    · exact .ok

/-- A range that passes the test lies in the vector of the lines, or right behind it. -/
theorem gives_apply (start stop : Nat) (content text : List Char) :
    Gives (Workbench.Splice.fault? (Text.lines text).length start stop = none)
      (Workbench.Splice.apply start stop content text) (apply start stop content text) := by
  unfold apply replace
  refine (((gives_sub _ _).of_imp fun passes => ?_).bind
    ((gives_splice _ _ _ _).of_imp fun passes => ?_)).bind .ok
  · have bounds := Workbench.Splice.bounds_of_fault? passes
    omega
  · have bounds := Workbench.Splice.bounds_of_fault? passes
    omega

end Splice

end Guarded

end Workbench
