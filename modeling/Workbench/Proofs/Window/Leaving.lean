import Workbench.Proofs.Window.Scrolling
namespace Workbench

/-!
# What a command of the viewer leaves behind

A command of the viewer has many ways to end early: an argument is missing or is no number, a path
lies outside of the workspace or leads to no file, a file is no text, a line or a range does not
exist.  Whichever it is, the view must be what it was, because the next command starts from it.
Two of the ways need an argument.  An edit writes the file first and reads it again for the window.
That it could be read before is the reason why it can be read now, so no edited file is left with
the old view.  And the two variables of the viewer are written one after the other, but nothing
stands between them that can fail.

Files are left alone as well when no window is shown.  The command that creates a file is the one
exception, for the directories that it has made.
-/

namespace Viewer

variable {settings : WindowSettings} {environment : Environment} {before after : World}
  {place : Place} {first : Nat}

/-- Of all variables in all stores only the two of the caller's view may differ, and they name this
file and this line. -/
structure MovesView (environment : Environment) (place : Place) (first : Nat)
    (before after : World) : Prop where
  file : environment.value? after currentFile = some place.text
  line : environment.value? after firstLine = some (Decimal.write first)
  others : ∀ store workspace key,
    ¬ (store = environment.store ∧ workspace = environment.root.components ∧
      key ∈ Variables.reserved) →
    (after.memory store workspace).get? key = (before.memory store workspace).get? key

/-- The report is a window onto a file as the file is now, and nothing else is remembered than that
it is this file and where the window starts. -/
def LeavesView (settings : WindowSettings) (environment : Environment) (before after : World)
    (report : String) : Prop :=
  ∃ (place : Place) (text : String) (listing : Window.Listing),
    report = listing.text ∧ listing.name = environment.display place ∧
    contentOf environment after place = .ok text ∧
    listing.Partitions settings (Window.linesOf text) ∧
    MovesView environment place (listing.above + 1) before after

/-- Remembering a view changes its two variables and no other one. -/
theorem movesView_of_kept
    (kept : after.memory = (remember environment before place first).memory) :
    MovesView environment place first before after where
  file := by
    rw [Environment.value?_of_memory kept]
    exact value?_remember_currentFile (Environment.Shares.refl environment) before place first
  line := by
    rw [Environment.value?_of_memory kept]
    exact value?_remember_firstLine (Environment.Shares.refl environment) before place first
  others := by
    intro store workspace key elsewhere
    rw [kept, remember_eq]
    by_cases own : store = environment.store ∧ workspace = environment.root.components
    · rcases own with ⟨rfl, rfl⟩
      have free : key ∉ Variables.reserved := fun reserved => elsewhere ⟨rfl, rfl, reserved⟩
      simp only [Variables.reserved, List.mem_cons, List.not_mem_nil, or_false, not_or] at free
      simp only [Environment.withBindings, Memory.update, and_self, if_true]
      rw [Dictionary.get?_insert, if_neg free.2, Dictionary.get?_insert, if_neg free.1]
      rfl
    · simp only [Environment.withBindings, Memory.update, if_neg own]

/-- A window that a command reports is the view that it leaves. -/
theorem leavesView_of_ends {result : Except Failure String × World}
    (ended : Ends settings environment before result) {report : String}
    (reported : result.1 = .ok report) (begins : Window.opening.toList <+: report.toList) :
    LeavesView settings environment before result.2 report := by
  cases ended with
  | unseen windowless _ => exact absurd begins (windowless report reported)
  | @seen place text first after found read positive fits _ kept =>
      have within : Window.Fits settings (Window.linesOf text).length first :=
        ⟨positive, by omega⟩
      have start : first - 1 + 1 = first := by
        omega
      refine ⟨place, text,
        Window.listing settings (environment.display place) (Window.linesOf text) first, ?_, rfl,
        read, Window.partitions_listing within _, ?_⟩
      · rw [← Except.ok.inj reported, Window.text_listing within]
      · exact (congrArg (MovesView environment place · before after) start).mpr
          (movesView_of_kept kept)

/-- Without a window no variable is different. -/
theorem memory_of_windowless {result : Except Failure String × World}
    (ended : Ends settings environment before result) (windowless : Windowless result.1) :
    result.2.memory = before.memory := by
  cases ended with
  | unseen _ kept => exact kept
  | seen _ _ _ _ _ _ => exact absurd (opening_render _ _ _ _) (windowless _ rfl)

/-! ## Files -/

/-- An edit that has written the file shows a window, because what could be read before can be
read again. -/
theorem tree_edit_of_windowless (settings : WindowSettings) (environment : Environment)
    (arguments : Arguments) (before : World)
    (windowless : Windowless (edit settings environment arguments before).1) :
    (edit settings environment arguments before).2.tree = before.tree := by
  rcases edit_cases settings environment arguments before with
    same | ⟨place, start, stop, text, tree, opened, read, _, written, shows⟩
  · rw [same]
  · rcases showWindow_of_written settings opened read written (Window.centered settings start) with
      ⟨report, after, window, begins, _, _⟩
    rw [shows, window] at windowless
    exact absurd begins (windowless report rfl)

theorem tree_of_windowless {tool : Tool Action} (member : tool ∈ tools settings)
    (keeps : tool.name ≠ "create") (environment : Environment) (arguments : Arguments)
    (before : World) (windowless : Windowless (tool.action environment arguments before).1) :
    (tool.action environment arguments before).2.tree = before.tree := by
  simp only [tools, List.mem_cons, List.not_mem_nil, or_false] at member
  rcases member with rfl | rfl | rfl | rfl | rfl | rfl
  · exact leavesFiles_openFile settings environment arguments before
  · exact leavesFiles_goToLine settings environment arguments before
  · exact leavesFiles_scroll settings .down environment arguments before
  · exact leavesFiles_scroll settings .up environment arguments before
  · exact absurd rfl keeps
  · exact tree_edit_of_windowless settings environment arguments before windowless

/-! ## All commands of the viewer -/

/-- A command of the viewer that reports a window leaves the view of it and changes no variable
besides.  With any other outcome every variable is what it was, and so is the tree of files, unless
the command creates files. -/
theorem view_moves_with_window (settings : WindowSettings) {tool : Tool Action}
    (member : tool ∈ tools settings) (environment : Environment) (arguments : Arguments)
    (before : World) :
    (∀ report, (tool.action environment arguments before).1 = .ok report →
      Window.opening.toList <+: report.toList →
        LeavesView settings environment before (tool.action environment arguments before).2
          report) ∧
    (Windowless (tool.action environment arguments before).1 →
      (tool.action environment arguments before).2.memory = before.memory ∧
        (tool.name ≠ "create" →
          (tool.action environment arguments before).2.tree = before.tree)) := by
  have ended := ends_of_mem_tools member environment arguments before
  refine ⟨fun report reported begins => leavesView_of_ends ended reported begins, ?_⟩
  intro windowless
  exact ⟨memory_of_windowless ended windowless, fun keeps =>
    tree_of_windowless member keeps environment arguments before windowless⟩

/-- A file of three lines is open.  An edit that starts behind its end is turned down and leaves
everything as it was, and opening the file at its second line leaves the view of that line. -/
theorem view_moves_with_window_in_three :
    (⟨editDefinition, edit { lines := 1 }⟩ : Tool Action) ∈ tools { lines := 1 } ∧
    Windowless (edit { lines := 1 } Sample.environment (Sample.arguments "9" "9" "x")
      Sample.threeWorld).1 ∧
    (edit { lines := 1 } Sample.environment (Sample.arguments "9" "9" "x") Sample.threeWorld).2 =
      Sample.threeWorld ∧
    (⟨openDefinition, openFile { lines := 1 }⟩ : Tool Action) ∈ tools { lines := 1 } ∧
    ∃ report after,
      openFile { lines := 1 } Sample.environment (Sample.openArguments "2") Sample.threeWorld =
        (.ok report, after) ∧
      Window.opening.toList <+: report.toList ∧
      LeavesView { lines := 1 } Sample.environment Sample.threeWorld after report := by
  have resolved : Sample.environment.resolve "a.txt" = .ok ⟨true, ["ws", "a.txt"]⟩ := by
    decide +kernel
  have read := Sample.contentOf_world "" Sample.three "a.txt"
  have editor : (⟨editDefinition, edit { lines := 1 }⟩ : Tool Action) ∈ tools { lines := 1 } := by
    simp [tools]
  have opener : (⟨openDefinition, openFile { lines := 1 }⟩ : Tool Action) ∈ tools { lines := 1 } :=
    List.mem_cons_self
  have behind : Splice.fault? (Text.lines Sample.three.toList).length 9 9 =
      some (.startOutside 3) := by
    decide
  have asks : Asks (Sample.arguments "9" "9" "x") 9 9 "x" :=
    ⟨by rfl, by rfl, by rfl⟩
  have answer := edit_of_fault { lines := 1 } (Sample.openPlace_world "" Sample.three) read asks
    behind
  have unseen : Windowless (edit { lines := 1 } Sample.environment (Sample.arguments "9" "9" "x")
      Sample.threeWorld).1 := by
    rw [Sample.threeWorld, answer]
    exact windowless_complain _
  have kept := (view_moves_with_window { lines := 1 } editor Sample.environment
    (Sample.arguments "9" "9" "x") Sample.threeWorld).2 unseen
  have shows : openFile { lines := 1 } Sample.environment (Sample.openArguments "2")
      Sample.threeWorld = shown { lines := 1 } Sample.environment Sample.threeWorld
        ⟨true, ["ws", "a.txt"]⟩ (Window.linesOf Sample.three)
        (Window.clamp { lines := 1 } (Window.linesOf Sample.three).length
          (Window.centered { lines := 1 } 2)) := by
    rw [openFile_of_number { lines := 1 } rfl resolved
      (fileAt_of_holdsText Sample.holdsText_threeWorld) read rfl (by decide) (by decide)]
    exact showWindow_of_content read _
  have begins := opening_render { lines := 1 }
    (Sample.environment.display ⟨true, ["ws", "a.txt"]⟩) (Window.linesOf Sample.three)
    (Window.clamp { lines := 1 } (Window.linesOf Sample.three).length
      (Window.centered { lines := 1 } 2))
  have left := (view_moves_with_window { lines := 1 } opener Sample.environment
    (Sample.openArguments "2") Sample.threeWorld).1 _ (congrArg Prod.fst shows) begins
  refine ⟨editor, unseen, ?_, opener, _, _, shows, begins, ?_⟩
  · exact congrArg₂ World.mk (kept.2 (by decide)) kept.1
  · simp only [shows] at left
    exact left

end Viewer

end Workbench
