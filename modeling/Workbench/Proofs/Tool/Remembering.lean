import Workbench.Proofs.Command.Registration
import Workbench.Proofs.Memory.Sharing
import Workbench.Proofs.Splice.Untouched
import Workbench.Proofs.Tool.Reach
namespace Workbench

/-!
# What the tools remember

Of the standard tools only the viewer's and the one that writes a variable change the
memory at all.  A tool of the viewer changes it exactly when it shows a window, and then the
two variables of the viewer say what the window shows: the path has just been resolved, and
the first line is one from which the window fits the file.  The tool that writes a variable
writes the one that it is told, and never one of those two.
-/

namespace Window

/-- How the text of every window begins, and no other report of the viewer. -/
def opening : String := "[File: "

theorem one_le_clamp (settings : WindowSettings) (total first : Nat) :
    1 ≤ clamp settings total first := by
  unfold clamp
  split
  · exact Nat.le_refl 1
  · omega

/-- The window fits the file, unless the file is shorter than the window. -/
theorem clamp_le_fitting (settings : WindowSettings) (total first : Nat) :
    clamp settings total first ≤ max 1 (total - settings.lines + 1) := by
  unfold clamp
  split
  · exact Nat.le_max_left _ _
  · omega

/-- The window never moves further down than it is asked to. -/
theorem clamp_le_asked (settings : WindowSettings) (total first : Nat) :
    clamp settings total first ≤ max 1 first := by
  unfold clamp
  split
  · exact Nat.le_max_left _ _
  · omega

end Window

variable {environment : Environment} {world : World} {place : Place}

/-! ## The viewer -/

namespace Viewer

/-- The outcome shows no window. -/
def Windowless (outcome : Except Failure String) : Prop :=
  ∀ content, outcome = .ok content → ¬ Window.opening.toList <+: content.toList

theorem windowless_failure (failure : Failure) : Windowless (.error failure) := nofun

/-- A window begins with a bracket. -/
theorem windowless_of_head {report : String} (other : report.toList.head? ≠ some '[') :
    Windowless (.ok report) := by
  intro content said
  rw [← Except.ok.inj said]
  rintro ⟨rest, written⟩
  apply other
  rw [← written]
  rfl

theorem windowless_complain (message : String) : Windowless (complain message) := by
  apply windowless_of_head
  simp [String.toList_append]

theorem windowless_of_openPlace {report : String}
    (closed : openPlace environment world = .error report) : Windowless (.ok report) := by
  unfold openPlace at closed
  split at closed
  · rw [← Except.error.inj closed]
    exact windowless_of_head (by decide)
  · split at closed
    · cases closed
    · rw [← Except.error.inj closed]
      exact windowless_complain _

theorem windowless_of_requestedLine {arguments : Arguments} {total : Nat} {report : String}
    (unfit : requestedLine arguments total = .error report) : Windowless (.ok report) := by
  unfold requestedLine at unfit
  split at unfit
  · rw [← Except.error.inj unfit]
    exact windowless_complain _
  · cases unfit
  · split at unfit
    · cases unfit
    · rw [← Except.error.inj unfit]
      apply windowless_of_head
      simp [String.toList_append]

/-- The line was reached in the file as it is in this world, unless it is the top. -/
def Reached (environment : Environment) (world : World) (place : Place) (line : Nat) : Prop :=
  line = 1 ∨ ∃ text, contentOf environment world place = .ok text ∧
    line ≤ (Window.linesOf text).length + 1

/-- What an action of the viewer may come to. -/
inductive Ends (settings : WindowSettings) (environment : Environment) (before : World) :
    Except Failure String × World → Prop where
  /-- No window is shown, and no variable changes. -/
  | unseen {outcome : Except Failure String} {after : World} (windowless : Windowless outcome)
      (kept : after.memory = before.memory) : Ends settings environment before (outcome, after)
  /-- The window of a file is shown as the file now is, and the variables say so. -/
  | seen {place : Place} {text : String} {first : Nat} {after : World}
      (found : ∃ input, environment.resolve input = .ok place)
      (read : contentOf environment after place = .ok text)
      (positive : 1 ≤ first)
      (fits : first ≤ max 1 ((Window.linesOf text).length - settings.lines + 1))
      (reached : Reached environment before place first)
      (kept : after.memory = (remember environment before place first).memory) :
      Ends settings environment before
        (.ok (Window.render settings (environment.display place) (Window.linesOf text) first),
          after)

variable {settings : WindowSettings}

/-- A line that is no further down than one behind the last has been reached. -/
theorem reached_of_le {text : String} (read : contentOf environment world place = .ok text)
    {line : Nat} (inside : line ≤ (Window.linesOf text).length + 1) :
    Reached environment world place line :=
  Or.inr ⟨text, read, inside⟩

/-- A window is shown as the file is in a later world, which has the same variables. -/
theorem ends_showWindow {later : World} {first : Nat}
    (found : ∃ input, environment.resolve input = .ok place)
    (same : later.memory = world.memory)
    (reached : ∀ text, contentOf environment later place = .ok text →
      Reached environment world place (Window.clamp settings (Window.linesOf text).length first)) :
    Ends settings environment world (showWindow settings environment later place first) := by
  unfold showWindow
  split
  · exact .unseen (windowless_failure _) same
  · rename_i text read
    refine .seen found read (Window.one_le_clamp settings _ first)
      (Window.clamp_le_fitting settings _ first) (reached text read) ?_
    simp only [remember, Environment.setVariable, Environment.withBindings, Environment.bindings,
      same]

/-- Any line may be asked for, because the window stops at the end of the file. -/
theorem ends_showWindow_here (found : ∃ input, environment.resolve input = .ok place)
    (first : Nat) :
    Ends settings environment world (showWindow settings environment world place first) := by
  apply ends_showWindow found rfl
  intro text read
  apply reached_of_le read
  have fits := Window.clamp_le_fitting settings (Window.linesOf text).length first
  omega

theorem exists_input_of_openPlace (opened : openPlace environment world = .ok place) :
    ∃ input, environment.resolve input = .ok place := by
  unfold openPlace at opened
  cases held : environment.value? world currentFile with
  | none =>
      rw [held] at opened
      cases opened
  | some stored =>
      simp only [held] at opened
      cases resolved : environment.resolve stored with
      | error failure =>
          rw [resolved] at opened
          cases opened
      | ok found =>
          rw [resolved] at opened
          exact ⟨stored, resolved.trans (congrArg Except.ok (Except.ok.inj opened))⟩

theorem ends_openFile (settings : WindowSettings) (environment : Environment)
    (arguments : Arguments) (world : World) :
    Ends settings environment world (openFile settings environment arguments world) := by
  unfold openFile openFileWith
  split
  · exact .unseen (windowless_failure _) rfl
  · split
    · exact .unseen (windowless_complain _) rfl
    · rename_i path _ _ place resolved
      split
      · exact .unseen (windowless_complain _) rfl
      · split
        · exact .unseen (windowless_complain _) rfl
        · split
          · exact .unseen (windowless_failure _) rfl
          · split
            · rename_i unfit
              exact .unseen (windowless_of_requestedLine unfit) rfl
            · exact ends_showWindow_here ⟨path, resolved⟩ 1
            · exact ends_showWindow_here ⟨path, resolved⟩ _

theorem ends_goToLine (settings : WindowSettings) (environment : Environment)
    (arguments : Arguments) (world : World) :
    Ends settings environment world (goToLine settings environment arguments world) := by
  unfold goToLine goToLineWith
  split
  · rename_i closed
    exact .unseen (windowless_of_openPlace closed) rfl
  · rename_i opened
    split
    · exact .unseen (windowless_failure _) rfl
    · split
      · rename_i unfit
        exact .unseen (windowless_of_requestedLine unfit) rfl
      · exact .unseen (windowless_failure _) rfl
      · exact ends_showWindow_here (exists_input_of_openPlace opened) _

theorem ends_scroll (settings : WindowSettings) (direction : Direction) (environment : Environment)
    (arguments : Arguments) (world : World) :
    Ends settings environment world
      (scroll settings direction environment arguments world) := by
  unfold scroll scrollWith
  split
  · rename_i closed
    exact .unseen (windowless_of_openPlace closed) rfl
  · rename_i opened
    exact ends_showWindow_here (exists_input_of_openPlace opened) _

theorem ends_create (settings : WindowSettings) (environment : Environment)
    (arguments : Arguments) (world : World) :
    Ends settings environment world (create settings environment arguments world) := by
  unfold create createWith
  split
  · exact .unseen (windowless_failure _) rfl
  · split
    · exact .unseen (windowless_complain _) rfl
    · rename_i name _ _ place resolved
      simp only []
      split
      · exact .unseen (windowless_complain _) rfl
      · split
        · exact .unseen (windowless_failure _) rfl
        · split
          · exact .unseen (windowless_failure _) rfl
          · refine ends_showWindow ⟨name, resolved⟩ rfl ?_
            intro text _
            have low := Window.one_le_clamp settings (Window.linesOf text).length 1
            have high := Window.clamp_le_asked settings (Window.linesOf text).length 1
            exact Or.inl (by omega)

theorem ends_edit (settings : WindowSettings) (environment : Environment) (arguments : Arguments)
    (world : World) :
    Ends settings environment world (edit settings environment arguments world) := by
  unfold edit editWith
  split
  · rename_i closed
    exact .unseen (windowless_of_openPlace closed) rfl
  · rename_i place opened
    split
    · exact .unseen (windowless_failure _) rfl
    · rename_i start _
      split
      · exact .unseen (windowless_failure _) rfl
      · split
        · exact .unseen (windowless_failure _) rfl
        · rename_i text read
          dsimp only
          split
          · exact .unseen (windowless_complain _) rfl
          · rename_i fits
            split
            · exact .unseen (windowless_failure _) rfl
            · refine ends_showWindow (exists_input_of_openPlace opened) rfl ?_
              intro changed _
              apply reached_of_le read
              -- the window is put around a line of the file as it was before the edit
              have bounds := Splice.bounds_of_fault? fits
              have high := Window.clamp_le_asked settings (Window.linesOf changed).length
                (Window.centered settings start)
              unfold Window.centered at high ⊢
              omega

/-- The names of the tools that show windows. -/
def names : List String :=
  ["open", "goto", "scroll_down", "scroll_up", "create", "edit"]

/-! ### Who finds what was remembered -/

variable {caller other : Environment}

theorem currentFile_ne_firstLine : currentFile ≠ firstLine := by
  decide

theorem value?_remember_currentFile (shared : caller.Shares other) (world : World) (place : Place)
    (first : Nat) : other.value? (remember caller world place first) currentFile =
      some place.text := by
  rw [remember, Environment.value?_setVariable_of_ne currentFile_ne_firstLine,
    Environment.value?_setVariable_of_shares shared, if_pos rfl]

theorem value?_remember_firstLine (shared : caller.Shares other) (world : World) (place : Place)
    (first : Nat) : other.value? (remember caller world place first) firstLine =
      some (Decimal.write first) := by
  rw [remember, Environment.value?_setVariable_of_shares shared, if_pos rfl]

theorem value?_remember_of_apart (apart : ¬ caller.Shares other) (world : World) (place : Place)
    (first : Nat) (key : String) :
    other.value? (remember caller world place first) key = other.value? world key := by
  rw [remember, Environment.value?_setVariable_of_apart apart,
    Environment.value?_setVariable_of_apart apart]

theorem value?_remember_of_free {key : String} (free : key ∉ Variables.reserved)
    (caller other : Environment) (world : World) (place : Place) (first : Nat) :
    other.value? (remember caller world place first) key = other.value? world key := by
  simp only [Variables.reserved, List.mem_cons, List.not_mem_nil, or_false, not_or] at free
  rw [remember, Environment.value?_setVariable_of_ne free.2,
    Environment.value?_setVariable_of_ne free.1]

end Viewer

/-! ## All standard tools -/

namespace Standard

/-- What running the standard tool of a name may come to, as far as variables are concerned. -/
inductive Ends (settings : Settings) (environment : Environment) (name : String)
    (arguments : Arguments) (before : World) (result : Except Failure String × World) : Prop where
  | viewed (viewer : name ∈ Viewer.names)
      (ended : Viewer.Ends settings.window environment before result)
  /-- A variable is written that is not one of the viewer's. -/
  | wrote {key value : String} (writer : name = "write_env")
      (given : arguments.get? "key" = some key) (free : key ∉ Variables.reserved)
      (kept : result.2.memory = (environment.setVariable before key value).memory)
  | told (other : name ∉ Viewer.names) (kept : result.2.memory = before.memory)

theorem ends_write (settings : Settings) (environment : Environment) (arguments : Arguments)
    (world : World) :
    Ends settings environment "write_env" arguments world
      (Variables.write environment arguments world) := by
  have other : "write_env" ∉ Viewer.names := by decide
  unfold Variables.write
  split
  · exact .told other rfl
  · rename_i key given
    split
    · exact .told other rfl
    · rename_i value _
      split
      · exact .told other rfl
      · split
        · exact .told other rfl
        · rename_i free
          refine .wrote rfl ?_ (fun reserved => free (List.contains_iff_mem.mpr reserved)) rfl
          unfold Arguments.require at given
          split at given
          · rename_i held
            rw [held, Except.ok.inj given]
          · cases given

theorem kept_create (settings : PullRequestSettings) (environment : Environment)
    (arguments : Arguments) (world : World) :
    (PullRequest.create settings environment arguments world).2.memory = world.memory := by
  unfold PullRequest.create
  split
  · rfl
  · split
    · rfl
    · simp only []
      split
      · rfl
      · split <;> rfl

/-- Every standard tool either shows a window, or writes a variable of its own, or keeps all
variables. -/
theorem ends_of_mem {settings : Settings} {tool : Tool Action} (member : tool ∈ tools settings)
    (environment : Environment) (arguments : Arguments) (world : World) :
    Ends settings environment tool.name arguments world
      (tool.action environment arguments world) := by
  have shows (name : String) (viewer : name ∈ Viewer.names) {action : Action}
      (ended : Viewer.Ends settings.window environment world
        (action environment arguments world)) :
      Ends settings environment name arguments world (action environment arguments world) :=
    .viewed viewer ended
  have quiet (name : String) (other : name ∉ Viewer.names) {action : Action}
      (reports : OnlyReports action) :
      Ends settings environment name arguments world (action environment arguments world) :=
    .told other (congrArg World.memory (reports environment arguments world))
  rcases mem_tools_iff.mp member with
    rfl | rfl | rfl | rfl | rfl | rfl | rfl | rfl | rfl | rfl | rfl | rfl | rfl
  · exact shows "open" (by decide) (Viewer.ends_openFile _ environment arguments world)
  · exact shows "goto" (by decide) (Viewer.ends_goToLine _ environment arguments world)
  · exact shows "scroll_down" (by decide) (Viewer.ends_scroll _ .down environment arguments world)
  · exact shows "scroll_up" (by decide) (Viewer.ends_scroll _ .up environment arguments world)
  · exact shows "create" (by decide) (Viewer.ends_create _ environment arguments world)
  · exact shows "edit" (by decide) (Viewer.ends_edit _ environment arguments world)
  · exact quiet "search_dir" (by decide) (Search.onlyReports_inDirectory settings.search)
  · exact quiet "search_file" (by decide) (Search.onlyReports_inFile settings.search)
  · exact quiet "find_file" (by decide) (Search.onlyReports_byName settings.search)
  · exact quiet "read_env" (by decide) Variables.onlyReports_read
  · exact ends_write settings environment arguments world
  · exact quiet "web_search" (by decide) (Web.onlyReports_search settings.web)
  · have other : "create_pr" ∉ Viewer.names := by decide
    exact .told other (kept_create settings.pullRequest environment arguments world)

end Standard

end Workbench
