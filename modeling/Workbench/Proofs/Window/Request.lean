import Workbench.Proofs.Tool.Editing
import Workbench.Proofs.Window.Showing
namespace Workbench

/-!
# The requested line

A line is asked for in three ways: a file is opened at it, the window of the open file is moved to
it, or an edit starts there.  Each time the window is put around the line, but two things pull the
window away from it.  Near the top it cannot start above the first line, and near the end it is
moved up until it is full.  The line stays in sight, because the first movement is shorter than half
of the window and the second one ends where the last line of the file is the last row.

Opening a file and going to a line are two ways to the same end for a file that is open already.
They find the file differently, by the path that the caller gives and by the one that is stored, and
they check the number of the line each for itself.  Yet they answer alike, whatever the text of the
number is.
-/

namespace Viewer

variable {settings : WindowSettings} {environment : Environment} {world : World} {place : Place}
  {text : String} {number : Nat}

/-- The answer is a window onto these lines, and the line of this number is one of its rows. -/
def Displays (settings : WindowSettings) (lines : List String) (number : Nat)
    (result : Except Failure String × World) : Prop :=
  ∃ (listing : Window.Listing) (after : World), result = (.ok listing.text, after) ∧
    listing.Partitions settings lines ∧ number ∈ listing.numbers

/-- A regular file with this text is found at the place. -/
def HoldsText (environment : Environment) (world : World) (place : Place) (text : String) : Prop :=
  ∃ executable, world.tree.find? environment.host.standing place.text =
    some (.file text.toUTF8 executable)

/-- A window that is put around a line of the file shows it. -/
theorem displays_centered (tall : 0 < settings.lines)
    (read : contentOf environment world place = .ok text) (positive : 1 ≤ number)
    (inside : number ≤ (Window.linesOf text).length) :
    Displays settings (Window.linesOf text) number
      (showWindow settings environment world place (Window.centered settings number)) := by
  have fits := Window.fits_clamp settings (Window.linesOf text).length
    (Window.centered settings number)
  rcases Window.centered_holds tall positive inside with ⟨above, below⟩
  rw [showWindow_of_content read, shown, ← Window.text_listing fits]
  refine ⟨_, _, rfl, Window.partitions_listing fits _, ?_⟩
  rw [Window.mem_numbers_listing_iff fits]
  have positive := fits.positive
  have within := fits.within
  omega

/-! ## The number of a line -/

/-- Only the text of the number counts. -/
theorem requestedLine_congr {arguments others : Arguments}
    (same : arguments.get? "line_number" = others.get? "line_number") (total : Nat) :
    requestedLine arguments total = requestedLine others total := by
  rw [requestedLine, requestedLine, Arguments.number?, Arguments.number?, same]

/-- Where there is a text, a line is requested, or there is a report of why none is. -/
theorem requestedLine_ne_none {arguments : Arguments} {written : String}
    (given : arguments.get? "line_number" = some written) (total : Nat) :
    requestedLine arguments total ≠ .ok none := by
  intro unasked
  rw [requestedLine, Arguments.number?, given] at unasked
  cases value : Decimal.read? (Text.trim written.toList) with
  | none =>
      simp only [value] at unasked
      cases unasked
  | some line =>
      simp only [value] at unasked
      split at unasked <;> cases unasked

/-! ## The commands -/

theorem fileAt_of_holdsText (held : HoldsText environment world place text) :
    world.tree.fileAt environment.host.standing place.text = true := by
  rcases held with ⟨executable, found⟩
  rw [Node.fileAt, found]

theorem contentOf_of_holdsText (held : HoldsText environment world place text) :
    contentOf environment world place = .ok text := by
  rcases held with ⟨executable, found⟩
  exact contentOf_of_find? found

theorem displays_openFile (tall : 0 < settings.lines) {arguments : Arguments} {path : String}
    (held : HoldsText environment world place text) (given : arguments.get? "path" = some path)
    (resolved : environment.resolve path = .ok place)
    (asked : arguments.number? "line_number" = .ok (some number)) (positive : 1 ≤ number)
    (inside : number ≤ (Window.linesOf text).length) :
    Displays settings (Window.linesOf text) number
      (openFile settings environment arguments world) := by
  have read := contentOf_of_holdsText held
  rw [openFile_of_number settings given resolved (fileAt_of_holdsText held) read asked positive
    inside]
  exact displays_centered tall read positive inside

theorem displays_goToLine (tall : 0 < settings.lines) {arguments : Arguments}
    (opened : openPlace environment world = .ok place)
    (read : contentOf environment world place = .ok text)
    (asked : arguments.number? "line_number" = .ok (some number)) (positive : 1 ≤ number)
    (inside : number ≤ (Window.linesOf text).length) :
    Displays settings (Window.linesOf text) number
      (goToLine settings environment arguments world) := by
  rw [goToLine_of_number settings opened read asked positive inside]
  exact displays_centered tall read positive inside

/-- An edit that goes through shows the file as it has become, and the window is put around the
line at which the edit starts. -/
theorem exists_shown_of_edits {arguments : Arguments} {report : String} {after : World}
    (answer : edit settings environment arguments world = (.ok report, after))
    (begins : Window.opening.toList <+: report.toList) :
    ∃ place start new tree, openPlace environment world = .ok place ∧
      bound arguments "start_line" = .ok start ∧ 1 ≤ start ∧
      contentOf environment { world with tree := tree } place = .ok new ∧
      showWindow settings environment { world with tree := tree } place
        (Window.centered settings start) = (.ok report, after) := by
  have edited : Edits settings environment arguments world after := ⟨report, answer, begins⟩
  rcases edited.exists_content with ⟨place, start, stop, old, opened, starts, stops, read⟩
  have asks : Asks arguments start stop (newText arguments) := ⟨starts, stops, rfl⟩
  cases fits : Splice.fault? (Text.lines old.toList).length start stop with
  | some fault =>
      rw [edit_of_fault settings opened read asks fits] at answer
      exact absurd begins (windowless_complain _ _ (congrArg Prod.fst answer))
  | none =>
      -- what is shown is read from the tree into which the edit has written
      rcases edit_eq_showWindow settings opened read asks fits with ⟨tree, written, shows⟩
      rcases exists_written read
          (String.ofList (Splice.apply start stop (newText arguments).toList old.toList)) with
        ⟨_, again, now⟩
      rcases Except.ok.inj (written.symm.trans again) with rfl
      exact ⟨place, start, _, tree, opened, starts, (Splice.bounds_of_fault? fits).1, now,
        shows.symm.trans answer⟩

/-- Opening a file that is open already, by the text that shows it, and going to a line of it come
to the same. -/
theorem openFile_eq_goToLine (settings : WindowSettings) {opening moving : Arguments}
    {written : String} (opened : openPlace environment world = .ok place)
    (file : world.tree.fileAt environment.host.standing place.text = true)
    (visible : Text.isBlankOnly (environment.display place).toList = false)
    (path : opening.get? "path" = some (environment.display place))
    (line : opening.get? "line_number" = some written)
    (sameLine : moving.get? "line_number" = some written) :
    openFile settings environment opening world = goToLine settings environment moving world := by
  rcases exists_input_of_openPlace opened with ⟨input, resolved⟩
  have leads : environment.resolve (environment.display place) = .ok place :=
    Workspace.resolve_display resolved visible
  unfold openFile openFileWith goToLine goToLineWith Arguments.require
  simp only [path, leads, directoryAt_of_fileAt file, file, opened,
    requestedLine_congr (line.trans sameLine.symm), Bool.false_eq_true, if_false, Bool.not_true]
  cases contentOf environment world place with
  | error cause => rfl
  | ok content =>
      dsimp only
      cases requested : requestedLine moving (Window.linesOf content).length with
      | error report => rfl
      | ok line? =>
          cases line? with
          | none => exact absurd requested (requestedLine_ne_none sameLine _)
          | some line => rfl

/-- The line that is asked for is in sight, whichever command asks for it: opening a file at the
line, going to it in the open file, and editing from it on.  If the file is open already, opening it
once more by the text that shows it and going to the line give the same answer and leave the same
world, for every text of the number. -/
theorem requested_line_in_sight (settings : WindowSettings) (environment : Environment)
    (world : World) :
    (0 < settings.lines →
      (∀ (arguments : Arguments) path place text number,
        HoldsText environment world place text → arguments.get? "path" = some path →
        environment.resolve path = .ok place →
        arguments.number? "line_number" = .ok (some number) → 1 ≤ number →
        number ≤ (Window.linesOf text).length →
          Displays settings (Window.linesOf text) number
            (openFile settings environment arguments world)) ∧
      (∀ (arguments : Arguments) place text number,
        openPlace environment world = .ok place →
        contentOf environment world place = .ok text →
        arguments.number? "line_number" = .ok (some number) → 1 ≤ number →
        number ≤ (Window.linesOf text).length →
          Displays settings (Window.linesOf text) number
            (goToLine settings environment arguments world)) ∧
      ∀ arguments report after,
        edit settings environment arguments world = (.ok report, after) →
        Window.opening.toList <+: report.toList →
          ∃ place start new, openPlace environment world = .ok place ∧
            bound arguments "start_line" = .ok start ∧
            contentOf environment after place = .ok new ∧
            (start ≤ (Window.linesOf new).length →
              Displays settings (Window.linesOf new) start (.ok report, after))) ∧
    ∀ (opening moving : Arguments) place written, openPlace environment world = .ok place →
      world.tree.fileAt environment.host.standing place.text = true →
      Text.isBlankOnly (environment.display place).toList = false →
      opening.get? "path" = some (environment.display place) →
      opening.get? "line_number" = some written → moving.get? "line_number" = some written →
        openFile settings environment opening world =
          goToLine settings environment moving world := by
  refine ⟨fun tall => ⟨?_, ?_, ?_⟩, ?_⟩
  · intro arguments path place text number held given resolved asked positive inside
    exact displays_openFile tall held given resolved asked positive inside
  · intro arguments place text number opened read asked positive inside
    exact displays_goToLine tall opened read asked positive inside
  · intro arguments report after answer begins
    rcases exists_shown_of_edits answer begins with
      ⟨place, start, new, tree, opened, starts, positive, now, shows⟩
    have later : after = remember environment { world with tree := tree } place
        (Window.clamp settings (Window.linesOf new).length (Window.centered settings start)) := by
      rw [showWindow_of_content now] at shows
      exact (congrArg Prod.snd shows).symm
    refine ⟨place, start, new, opened, starts, ?_, fun inside => ?_⟩
    · rw [later, contentOf_remember]
      exact now
    · rw [← shows]
      exact displays_centered tall now positive inside
  · intro opening moving place written opened file visible path line sameLine
    exact openFile_eq_goToLine settings opened file visible path line sameLine

end Viewer

namespace Sample

def lineArguments (line : String) : Arguments :=
  Dictionary.empty.insert "line_number" line

def openArguments (line : String) : Arguments :=
  (lineArguments line).insert "path" "a.txt"

theorem holdsText_threeWorld :
    Viewer.HoldsText environment threeWorld ⟨true, ["ws", "a.txt"]⟩ three :=
  ⟨false, rfl⟩

end Sample

namespace Viewer

/-- In a window of one line there is only the line that is asked for.  The third request is no
number at all. -/
theorem requested_line_in_sight_of_three :
    Displays { lines := 1 } Sample.threeLines 2
      (openFile { lines := 1 } Sample.environment (Sample.openArguments "2") Sample.threeWorld) ∧
    Displays { lines := 1 } Sample.threeLines 3
      (goToLine { lines := 1 } Sample.environment (Sample.lineArguments " +3")
        Sample.threeWorld) ∧
    (∃ report after, edit { lines := 1 } Sample.environment (Sample.arguments "2" "2" "2\n2")
        Sample.threeWorld = (.ok report, after) ∧
      Displays { lines := 1 } ["one", "2", "2", "three"] 2 (.ok report, after)) ∧
    openFile { lines := 1 } Sample.environment (Sample.openArguments "nine") Sample.threeWorld =
      goToLine { lines := 1 } Sample.environment (Sample.lineArguments "nine")
        Sample.threeWorld := by
  rcases requested_line_in_sight { lines := 1 } Sample.environment Sample.threeWorld with
    ⟨shows, agree⟩
  rcases shows (by decide) with ⟨opening, moving, editing⟩
  have opened := Sample.openPlace_world "" Sample.three
  have read := Sample.contentOf_world "" Sample.three "a.txt"
  have named : Sample.environment.display ⟨true, ["ws", "a.txt"]⟩ = "a.txt" := by
    decide +kernel
  have resolved : Sample.environment.resolve "a.txt" = .ok ⟨true, ["ws", "a.txt"]⟩ := by
    decide +kernel
  refine ⟨?_, ?_, ?_, ?_⟩
  · rw [← Sample.linesOf_three]
    exact opening _ "a.txt" _ _ 2 Sample.holdsText_threeWorld rfl resolved rfl (by decide)
      (by decide)
  · rw [← Sample.linesOf_three]
    exact moving _ _ _ 3 opened read rfl (by decide) (by decide)
  · have asks : Asks (Sample.arguments "2" "2" "2\n2") 2 2 "2\n2" := ⟨by rfl, by rfl, by rfl⟩
    rcases edits_of_fits { lines := 1 } opened read asks (by decide) with
      ⟨after, ⟨report, answer, begins⟩, now, _⟩
    rcases editing _ report after answer begins with ⟨place, start, new, found, starts, held, seen⟩
    rcases Except.ok.inj (found.symm.trans opened) with rfl
    rcases Except.ok.inj (starts.symm.trans asks.starts) with rfl
    rcases Except.ok.inj (held.symm.trans now) with rfl
    exact ⟨report, after, answer, seen (by decide)⟩
  · apply agree _ _ _ "nine" opened
    · exact fileAt_of_holdsText Sample.holdsText_threeWorld
    · rw [named]
      decide
    · rw [named]
      rfl
    · rfl
    · rfl

end Viewer

end Workbench
