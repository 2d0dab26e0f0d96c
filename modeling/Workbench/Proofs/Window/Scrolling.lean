import Workbench.Proofs.Window.Request
namespace Workbench

/-!
# Scrolling

A scroll starts from what the last window has left: the path of the file and the first line in
sight, both of them texts in the store.  It reads the line, adds or takes away its step, and has the
result clamped, so a scroll and one in the other direction need not lead back.  They do if neither
of the two is cut short by the clamp, and then not only the window is the same but everything in the
store as well.

That a scroll finds the file at all is a matter of its path.  The path is resolved anew, and a blank
one does not lead back to the file.  In a workspace without a name there are such paths, and behind
a window of such a file no scroll leads anywhere.
-/

namespace Viewer

variable {settings : WindowSettings} {environment : Environment} {world after : World}
  {place : Place} {text report : String} {first total : Nat} {direction : Direction}

/-! ## What a window leaves -/

/-- A command of the viewer has answered with this window, and has left this world. -/
def LeavesWindow (settings : WindowSettings) (environment : Environment) (report : String)
    (after : World) : Prop :=
  ∃ tool ∈ tools settings, ∃ arguments before,
    tool.action environment arguments before = (.ok report, after) ∧
      Window.opening.toList <+: report.toList

/-- The window of the text of a place from a line on has been shown in this world. -/
structure View (settings : WindowSettings) (environment : Environment) (place : Place)
    (text : String) (first : Nat) (report : String) (after : World) : Prop where
  found : ∃ input, environment.resolve input = .ok place
  read : contentOf environment after place = .ok text
  fits : Window.Fits settings (Window.linesOf text).length first
  shows : (.ok report, after) =
    shown settings environment after place (Window.linesOf text) first

theorem ends_of_mem_tools {tool : Tool Action} (member : tool ∈ tools settings)
    (environment : Environment) (arguments : Arguments) (world : World) :
    Ends settings environment world (tool.action environment arguments world) := by
  simp only [tools, List.mem_cons, List.not_mem_nil, or_false] at member
  rcases member with rfl | rfl | rfl | rfl | rfl | rfl
  · exact ends_openFile settings environment arguments world
  · exact ends_goToLine settings environment arguments world
  · exact ends_scroll settings .down environment arguments world
  · exact ends_scroll settings .up environment arguments world
  · exact ends_create settings environment arguments world
  · exact ends_edit settings environment arguments world

/-- Two places of the workspace with one text are one place. -/
theorem eq_of_text_eq {other : Place} (found : ∃ input, environment.resolve input = .ok place)
    (foundOther : ∃ input, environment.resolve input = .ok other)
    (same : other.text = place.text) : other = place := by
  rcases found with ⟨_, resolved⟩
  rcases foundOther with ⟨_, resolvedOther⟩
  have plain := (Workspace.held_of_resolve resolved).1
  have plainOther := (Workspace.held_of_resolve resolvedOther).1
  rw [← Workspace.ofPath_text_of_plain plain, ← same, Workspace.ofPath_text_of_plain plainOther]

/-- A window that a command leaves is the window of a file of the workspace. -/
theorem exists_view (left : LeavesWindow settings environment report after) :
    ∃ place text first, View settings environment place text first report after := by
  rcases left with ⟨tool, member, arguments, before, answer, begins⟩
  have ended := ends_of_mem_tools member environment arguments before
  rw [answer] at ended
  cases ended with
  | unseen windowless _ => exact absurd begins (windowless report rfl)
  | @seen place text first _ found read positive fits _ kept =>
      have own := Environment.Shares.refl environment
      -- remembering has been the last thing that the command did, so doing it again changes nothing
      have held : remember environment after place first = after := by
        apply remember_of_held
        · rw [Environment.value?_of_memory kept]
          exact value?_remember_currentFile own before place first
        · rw [Environment.value?_of_memory kept]
          exact value?_remember_firstLine own before place first
      exact ⟨place, text, first, found, read, ⟨positive, by omega⟩, by rw [shown, held]⟩

/-- A window that is shown is the view of the world that it leaves. -/
theorem view_shown (found : ∃ input, environment.resolve input = .ok place)
    (read : contentOf environment world place = .ok text)
    (fits : Window.Fits settings (Window.linesOf text).length first) :
    View settings environment place text first
      (Window.render settings (environment.display place) (Window.linesOf text) first)
      (remember environment world place first) where
  found := found
  read := read
  fits := fits
  shows := by rw [shown, remember_remember]

namespace View

variable (view : View settings environment place text first report after)

include view

/-- The variables say already what has been shown. -/
theorem remembered : remember environment after place first = after :=
  (congrArg Prod.snd view.shows).symm

theorem file : environment.value? after currentFile = some place.text := by
  rw [← view.remembered]
  exact value?_remember_currentFile (Environment.Shares.refl environment) after place first

theorem line : environment.value? after firstLine = some (Decimal.write first) := by
  rw [← view.remembered]
  exact value?_remember_firstLine (Environment.Shares.refl environment) after place first

end View

/-! ## One scroll -/

/-- The first line after a scroll. -/
def moved (settings : WindowSettings) (total : Nat) (direction : Direction) (first : Nat) : Nat :=
  Window.clamp settings total (direction.target settings.step first)

theorem moved_down (fits : Window.Fits settings total first) :
    moved settings total .down first =
      min (first + settings.step) (total - settings.lines + 1) := by
  have positive := fits.positive
  have within := fits.within
  simp only [moved, Direction.target, Window.clamp_eq]
  omega

theorem moved_up (fits : Window.Fits settings total first) :
    moved settings total .up first = max (first - settings.step) 1 := by
  have positive := fits.positive
  have within := fits.within
  simp only [moved, Direction.target, Window.clamp_eq]
  omega

/-- A scroll reads back what has been remembered, and remembers where it comes to. -/
theorem scroll_remember (found : ∃ input, environment.resolve input = .ok place)
    (visible : Text.isBlankOnly place.text.toList = false)
    (read : contentOf environment world place = .ok text) (small : first ≤ Decimal.largest)
    (settings : WindowSettings) (direction : Direction) (arguments : Arguments) :
    scroll settings direction environment arguments (remember environment world place first) =
      shown settings environment world place (Window.linesOf text)
        (moved settings (Window.linesOf text).length direction first) := by
  have opened := openPlace_remember found world first
  rw [visible] at opened
  unfold scroll scrollWith
  rw [opened]
  dsimp only [Bool.false_eq_true, if_false]
  rw [lineInSight_remember environment world place small]
  exact showWindow_remember settings read first _

/-- A blank path is not found again. -/
theorem scroll_remember_of_blank (found : ∃ input, environment.resolve input = .ok place)
    (blank : Text.isBlankOnly place.text.toList = true) (settings : WindowSettings)
    (direction : Direction) (arguments : Arguments) (world : World) (first : Nat) :
    scroll settings direction environment arguments (remember environment world place first) =
      (.error (.machine .notFound), remember environment world place first) := by
  have opened := openPlace_remember found world first
  rw [blank] at opened
  unfold scroll scrollWith
  rw [opened]
  rfl

/-! ## A scroll and one back -/

/-- A scroll in one direction moves the window to the next line, and then one in the other answers
with this window and leaves this world. -/
def LeadBack (settings : WindowSettings) (environment : Environment) (there back : Direction)
    (next : Nat) (report : String) (world : World) : Prop :=
  ∀ arguments others, ∃ further between,
    scroll settings there environment arguments world = (.ok further, between) ∧
      environment.value? between firstLine = some (Decimal.write next) ∧
      scroll settings back environment others between = (.ok report, world)

/-- Scrolls lead back if the movements of the first line do. -/
theorem leadBack_of_moved (view : View settings environment place text first report after)
    (visible : Text.isBlankOnly place.text.toList = false) {there back : Direction} {next : Nat}
    (small : first ≤ Decimal.largest) (further : next ≤ Decimal.largest)
    (away : moved settings (Window.linesOf text).length there first = next)
    (home : moved settings (Window.linesOf text).length back next = first) :
    LeadBack settings environment there back next report after := by
  intro arguments others
  have goes := scroll_remember view.found visible view.read small settings there arguments
  have returns := scroll_remember view.found visible view.read further settings back others
  have line := value?_remember_firstLine (Environment.Shares.refl environment) after place next
  rw [view.remembered, away] at goes
  rw [home, ← view.shows] at returns
  exact ⟨_, _, goes, line, returns⟩

/-- Where the path of the file is blank, already the first scroll fails. -/
theorem not_leadBack_of_blank (view : View settings environment place text first report after)
    (blank : Text.isBlankOnly place.text.toList = true) {there back : Direction} {next : Nat} :
    ¬ LeadBack settings environment there back next report after := by
  intro leads
  rcases leads Dictionary.empty Dictionary.empty with ⟨further, between, goes, _, _⟩
  have fails :=
    scroll_remember_of_blank view.found blank settings there Dictionary.empty after first
  rw [view.remembered, goes] at fails
  cases fails

/-- Scrolls whose movements of the first line lead back do so if and only if the file is found
again. -/
theorem leadBack_iff (view : View settings environment place text first report after)
    {there back : Direction} {next : Nat} (small : first ≤ Decimal.largest)
    (further : next ≤ Decimal.largest)
    (away : moved settings (Window.linesOf text).length there first = next)
    (home : moved settings (Window.linesOf text).length back next = first) :
    LeadBack settings environment there back next report after ↔
      Text.isBlankOnly place.text.toList = false := by
  constructor
  · intro leads
    by_contra blank
    exact not_leadBack_of_blank view (Bool.of_not_eq_false blank) leads
  · exact fun visible => leadBack_of_moved view visible small further away home

/-- What a command of the viewer has shown comes back, with the whole world, after a scroll down and
one up if the first of them is not stopped by the end of the file, and after a scroll up and one
down if the first of them is not stopped by its top.  In between the window is a whole step away.
This holds for every file except one whose path, as it is stored for the open file, is blank; there
it never holds.  The lines of the file are counted in 64 bits. -/
theorem scrolls_lead_back_iff (settings : WindowSettings)
    (left : LeavesWindow settings environment report after)
    (found : ∃ input, environment.resolve input = .ok place)
    (file : environment.value? after currentFile = some place.text)
    (read : contentOf environment after place = .ok text)
    (countable : (Window.linesOf text).length < Decimal.largest)
    (line : environment.value? after firstLine = some (Decimal.write first)) :
    (first + settings.step ≤ max 1 ((Window.linesOf text).length - settings.lines + 1) →
      (LeadBack settings environment .down .up (first + settings.step) report after ↔
        Text.isBlankOnly place.text.toList = false)) ∧
    (settings.step < first →
      (LeadBack settings environment .up .down (first - settings.step) report after ↔
        Text.isBlankOnly place.text.toList = false)) := by
  rcases exists_view left with ⟨other, _, start, view⟩
  rcases eq_of_text_eq found view.found
    (Option.some.inj (view.file.symm.trans file)) with rfl
  rcases Except.ok.inj (read.symm.trans view.read) with rfl
  rcases Decimal.write_inj (Option.some.inj (line.symm.trans view.line)) with rfl
  have positive := view.fits.positive
  have within := view.fits.within
  have least : 1 ≤ settings.step := Nat.le_max_right _ _
  constructor
  · intro room
    have fits : Window.Fits settings (Window.linesOf text).length (first + settings.step) :=
      ⟨by omega, by omega⟩
    have away : moved settings (Window.linesOf text).length .down first =
        first + settings.step := by
      rw [moved_down view.fits]
      omega
    have home : moved settings (Window.linesOf text).length .up (first + settings.step) =
        first := by
      rw [moved_up fits]
      omega
    exact leadBack_iff view (by omega) (by omega) away home
  · intro room
    have fits : Window.Fits settings (Window.linesOf text).length (first - settings.step) :=
      ⟨by omega, by omega⟩
    have away : moved settings (Window.linesOf text).length .up first =
        first - settings.step := by
      rw [moved_up view.fits]
      omega
    have home : moved settings (Window.linesOf text).length .down (first - settings.step) =
        first := by
      rw [moved_down fits]
      omega
    exact leadBack_iff view (by omega) (by omega) away home

/-- Opening a file at a line leaves a window. -/
theorem leavesWindow_openFile {arguments : Arguments} {before : World} {lines : List String}
    (answer : openFile settings environment arguments before =
      shown settings environment before place lines first) :
    LeavesWindow settings environment
      (Window.render settings (environment.display place) lines first)
      (remember environment before place first) :=
  ⟨⟨openDefinition, openFile settings⟩, List.mem_cons_self, arguments, before, answer,
    opening_render _ _ _ _⟩

/-- A window of one line in the middle of three. -/
theorem scrolls_lead_back_in_three :
    ∃ report after, LeavesWindow { lines := 1 } Sample.environment report after ∧
      Sample.environment.value? after currentFile =
        some (Place.text ⟨true, ["ws", "a.txt"]⟩) ∧
      contentOf Sample.environment after ⟨true, ["ws", "a.txt"]⟩ = .ok Sample.three ∧
      Sample.environment.value? after firstLine = some (Decimal.write 2) ∧
      LeadBack { lines := 1 } Sample.environment .down .up 3 report after ∧
      LeadBack { lines := 1 } Sample.environment .up .down 1 report after := by
  have resolved : Sample.environment.resolve "a.txt" = .ok ⟨true, ["ws", "a.txt"]⟩ := by
    decide +kernel
  have read := Sample.contentOf_world "" Sample.three "a.txt"
  have own := Environment.Shares.refl Sample.environment
  have answer : openFile { lines := 1 } Sample.environment (Sample.openArguments "2")
      Sample.threeWorld = shown { lines := 1 } Sample.environment Sample.threeWorld
        ⟨true, ["ws", "a.txt"]⟩ (Window.linesOf Sample.three) 2 := by
    have start : Window.clamp { lines := 1 } (Window.linesOf Sample.three).length
        (Window.centered { lines := 1 } 2) = 2 := by
      decide
    rw [openFile_of_number { lines := 1 } rfl resolved
      (fileAt_of_holdsText Sample.holdsText_threeWorld) read rfl (by decide) (by decide)]
    exact (showWindow_of_content read _).trans (congrArg _ start)
  have left := leavesWindow_openFile answer
  have file := value?_remember_currentFile own Sample.threeWorld ⟨true, ["ws", "a.txt"]⟩ 2
  have line := value?_remember_firstLine own Sample.threeWorld ⟨true, ["ws", "a.txt"]⟩ 2
  have back := scrolls_lead_back_iff { lines := 1 } left ⟨"a.txt", resolved⟩ file read (by decide)
    line
  exact ⟨_, _, left, file, read, line, (back.1 (by decide)).mpr (by decide),
    (back.2 (by decide)).mpr (by decide)⟩

end Viewer

namespace Sample

def pathArguments (path : String) : Arguments :=
  Dictionary.empty.insert "path" path

/-- The files among which the one that is named by a blank can be opened, and no variables. -/
def blankStart : World where
  tree := (blankWorld "one\ntwo\n").tree
  memory := Memory.empty

theorem holdsText_blankStart :
    Viewer.HoldsText rootless blankStart ⟨false, [" "]⟩ "one\ntwo\n" :=
  ⟨false, rfl⟩

theorem resolve_blank : rootless.resolve "./ " = .ok ⟨false, [" "]⟩ := by
  rfl

/-- The file that is named by a blank is opened in a workspace that is not named. -/
theorem openFile_blankStart :
    Viewer.openFile { lines := 1 } rootless (pathArguments "./ ") blankStart =
      Viewer.shown { lines := 1 } rootless blankStart ⟨false, [" "]⟩
        (Window.linesOf "one\ntwo\n") 1 :=
  Viewer.openFile_of_find? rfl resolve_blank rfl holdsText_blankStart.choose_spec

end Sample

namespace Viewer

/-- The first of two lines is shown of the file that is named by a blank, and there is room for a
scroll, but neither the scroll down nor the one up shows a window. -/
theorem scrolls_lose_blank_path :
    ∃ report after, LeavesWindow { lines := 1 } Sample.rootless report after ∧
      Sample.rootless.value? after currentFile = some (Place.text ⟨false, [" "]⟩) ∧
      contentOf Sample.rootless after ⟨false, [" "]⟩ = .ok "one\ntwo\n" ∧
      Sample.rootless.value? after firstLine = some (Decimal.write 1) ∧
      1 + ({ lines := 1 } : WindowSettings).step ≤
        max 1 ((Window.linesOf "one\ntwo\n").length - 1 + 1) ∧
      ¬ LeadBack { lines := 1 } Sample.rootless .down .up 2 report after := by
  have own := Environment.Shares.refl Sample.rootless
  have left := leavesWindow_openFile Sample.openFile_blankStart
  have found : ∃ input, Sample.rootless.resolve input = .ok ⟨false, [" "]⟩ :=
    ⟨"./ ", Sample.resolve_blank⟩
  have file := value?_remember_currentFile own Sample.blankStart ⟨false, [" "]⟩ 1
  have line := value?_remember_firstLine own Sample.blankStart ⟨false, [" "]⟩ 1
  have read := contentOf_of_holdsText Sample.holdsText_blankStart
  have room : 1 + ({ lines := 1 } : WindowSettings).step ≤
      max 1 ((Window.linesOf "one\ntwo\n").length - 1 + 1) := by
    decide
  exact ⟨_, _, left, file, read, line, room,
    not_leadBack_of_blank (view_shown found read ⟨by decide, by decide⟩) (by decide)⟩

end Viewer

end Workbench
