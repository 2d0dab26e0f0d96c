import Workbench.Proofs.Tree.Scope
import Workbench.Proofs.Workspace.Containment
import Workbench.Tool.Standard
namespace Workbench

/-!
# What the tools reach

Every path that a tool looks up has been resolved, whether a command or a
variable named it, so it leads to a place of the workspace.  Of all tools only
three ever change the tree of files: one writes an existing file, one makes new
files and directories, and one starts a program.
-/

section Tools

variable {environment : Environment} {world : World} {place : Place}

/-! ## Places of the workspace -/

namespace Environment

theorem anchored_root (named : environment.directory ≠ "") : environment.root.anchored = true := by
  rw [root, Workspace.root_of_named _ _ named]

/-- What resolves in a named workspace lies at or below its root. -/
theorem within_of_resolve (named : environment.directory ≠ "") {input : String}
    (resolved : environment.resolve input = .ok place) : place.Within environment.root.names := by
  obtain ⟨anchored, below, plain⟩ :=
    Workspace.within_of_resolve (anchored_root named) resolved
  exact ⟨anchored, below, plain⟩

end Environment

namespace Viewer

/-- The open file lies in the workspace, whatever the variable holds. -/
theorem within_of_openPlace (named : environment.directory ≠ "")
    (opened : openPlace environment world = .ok place) : place.Within environment.root.names := by
  unfold openPlace at opened
  split at opened
  · cases opened
  · split at opened
    · rename_i resolved
      cases opened
      exact Environment.within_of_resolve named resolved
    · cases opened

end Viewer

namespace Search

theorem within_of_target (named : environment.directory ≠ "") {arguments : Arguments}
    (aimed : target environment arguments world = .ok place) :
    place.Within environment.root.names := by
  unfold target at aimed
  split at aimed
  · exact Viewer.within_of_openPlace named aimed
  · split at aimed
    · rename_i resolved
      cases aimed
      exact Environment.within_of_resolve named resolved
    · cases aimed

end Search

/-! ## Tools that leave the files alone -/

/-- The action never changes the tree of files. -/
def LeavesFiles (action : Action) : Prop :=
  ∀ environment arguments world, (action environment arguments world).2.tree = world.tree

/-- The action only tells something: it changes neither files nor variables. -/
def OnlyReports (action : Action) : Prop :=
  ∀ environment arguments world, (action environment arguments world).2 = world

theorem OnlyReports.leavesFiles {action : Action} (reports : OnlyReports action) :
    LeavesFiles action :=
  fun environment arguments world => congrArg World.tree (reports environment arguments world)

namespace Viewer

/-- Showing a window changes variables only. -/
theorem tree_showWindow (settings : WindowSettings) (environment : Environment) (world : World)
    (place : Place) (first : Nat) :
    (showWindow settings environment world place first).2.tree = world.tree := by
  unfold showWindow
  split
  · rfl
  · rfl

theorem leavesFiles_openFile (settings : WindowSettings) : LeavesFiles (openFile settings) := by
  intro environment arguments world
  unfold openFile openFileWith
  split
  · rfl
  · split
    · rfl
    · split
      · rfl
      · split
        · rfl
        · split
          · rfl
          · split
            · rfl
            · exact tree_showWindow settings environment world _ _
            · exact tree_showWindow settings environment world _ _

theorem leavesFiles_goToLine (settings : WindowSettings) : LeavesFiles (goToLine settings) := by
  intro environment arguments world
  unfold goToLine goToLineWith
  split
  · rfl
  · split
    · rfl
    · split
      · rfl
      · rfl
      · exact tree_showWindow settings environment world _ _

theorem leavesFiles_scroll (settings : WindowSettings) (direction : Direction) :
    LeavesFiles (scroll settings direction) := by
  intro environment arguments world
  unfold scroll scrollWith
  split
  · rfl
  · exact tree_showWindow settings environment world _ _

end Viewer

namespace Search

theorem onlyReports_inDirectory (settings : SearchSettings) :
    OnlyReports (inDirectory settings) := by
  intro environment arguments world
  unfold inDirectory inDirectoryWith
  split
  · rfl
  · split
    · rfl
    · split
      · rfl
      · rw [tallyReportWith_eq]

theorem onlyReports_inFile (settings : SearchSettings) : OnlyReports (inFile settings) := by
  intro environment arguments world
  unfold inFile
  split
  · rfl
  · split
    · rfl
    · simp only []
      split
      · rfl
      · rfl

theorem onlyReports_byName (settings : SearchSettings) : OnlyReports (byName settings) := by
  intro environment arguments world
  unfold byName
  split
  · rfl
  · split
    · rfl
    · split
      · rfl
      · split
        · rfl
        · rfl

end Search

namespace Variables

theorem onlyReports_read : OnlyReports read := by
  intro environment arguments world
  unfold read
  split
  · rfl
  · split
    · rfl
    · split <;> rfl

theorem leavesFiles_write : LeavesFiles write := by
  intro environment arguments world
  unfold write
  split
  · rfl
  · split
    · rfl
    · split
      · rfl
      · split <;> rfl

end Variables

namespace Web

theorem onlyReports_search (settings : WebSettings) : OnlyReports (search settings) := by
  intro environment arguments world
  unfold search
  split
  · rfl
  · split <;> rfl

end Web

/-! ## Tools that change files -/

namespace Viewer

/-- An edit either leaves the world as it is or writes the spliced text of the
open file and shows the window there. -/
theorem edit_cases (settings : WindowSettings) (environment : Environment) (arguments : Arguments)
    (world : World) :
    (edit settings environment arguments world).2 = world ∨
      ∃ place start stop text tree,
        openPlace environment world = .ok place ∧
        contentOf environment world place = .ok text ∧
        Splice.fault? (Window.linesOf text).length start stop = none ∧
        world.tree.writeText environment.host.standing place.text
            (String.ofList (Splice.apply start stop
              ((arguments.get? "content").getD "").toList text.toList)) = .ok tree ∧
        edit settings environment arguments world =
          showWindow settings environment { world with tree := tree } place
            (Window.centered settings start) := by
  unfold edit editWith
  cases opened : openPlace environment world with
  | error report => exact Or.inl rfl
  | ok place =>
      cases bound arguments "start_line" with
      | error failure => exact Or.inl rfl
      | ok start =>
          cases bound arguments "end_line" with
          | error failure => exact Or.inl rfl
          | ok stop =>
              cases read : contentOf environment world place with
              | error cause => exact Or.inl (by simp only [read])
              | ok text =>
                  cases fault : Splice.fault? (Window.linesOf text).length start stop with
                  | some found => exact Or.inl (by simp only [read, fault])
                  | none =>
                      cases written : world.tree.writeText environment.host.standing place.text
                          (String.ofList (Splice.apply start stop
                            ((arguments.get? "content").getD "").toList text.toList)) with
                      | error cause => exact Or.inl (by simp only [read, fault, written])
                      | ok tree =>
                          exact Or.inr ⟨place, start, stop, text, tree, rfl, read, fault, written,
                            by simp only [read, fault, written]⟩

/-- An edit rewrites the open file or nothing. -/
theorem tree_edit (named : environment.directory ≠ "")
    (hosts : world.tree.Hosts environment.root.names) (settings : WindowSettings)
    (arguments : Arguments) :
    (edit settings environment arguments world).2.tree = world.tree ∨
      Node.Rewrites environment.root.names world.tree
        (edit settings environment arguments world).2.tree := by
  rcases edit_cases settings environment arguments world with
    same | ⟨place, start, stop, text, tree, opened, read, _, written, shown⟩
  · exact Or.inl (by rw [same])
  · refine Or.inr ?_
    rw [shown, tree_showWindow]
    exact Node.writeBytes_rewrites hosts (within_of_openPlace named opened)
      (Node.readText_eq_ok_iff.mp read) written

theorem create_of_absent (settings : WindowSettings) {arguments : Arguments} {name : String}
    (given : arguments.require "create" "filename" = .ok name)
    (resolved : environment.resolve name = .ok place)
    (absent : world.tree.existsAt environment.host.standing place.text = false) :
    create settings environment arguments world =
      match world.tree.makeAbove environment.host.standing place with
      | (.error cause, tree) => (.error (.machine cause), { world with tree := tree })
      | (.ok _, tree) =>
        match tree.writeText environment.host.standing place.text "" with
        | .error cause => (.error (.machine cause), { world with tree := tree })
        | .ok changed =>
            showWindow settings environment { world with tree := changed } place 1 := by
  unfold create createWith
  rcases made : world.tree.makeAbove environment.host.standing place with ⟨_ | _, tree⟩
  · simp only [given, resolved, absent, made, Bool.false_eq_true, if_false]
  · cases written : tree.writeText environment.host.standing place.text "" <;>
      simp only [given, resolved, absent, made, written, Bool.false_eq_true, if_false]

/-- Creating a file either leaves the world as it is, or it has made directories
above a place where nothing is found, and failed, or it has then written an empty
file there and shows the window. -/
theorem create_cases (settings : WindowSettings) (environment : Environment) (arguments : Arguments)
    (world : World) :
    (create settings environment arguments world).2 = world ∨
      ∃ name place, environment.resolve name = .ok place ∧
        world.tree.existsAt environment.host.standing place.text = false ∧
        ((create settings environment arguments world).2.tree =
            (world.tree.makeAbove environment.host.standing place).2 ∨
          ∃ tree, (world.tree.makeAbove environment.host.standing place).2.writeText
                environment.host.standing place.text "" = .ok tree ∧
              create settings environment arguments world =
                showWindow settings environment { world with tree := tree } place 1) := by
  cases given : arguments.require "create" "filename" with
  | error failure =>
      unfold create createWith
      rw [given]
      exact Or.inl rfl
  | ok name =>
      cases resolved : environment.resolve name with
      | error failure =>
          unfold create createWith
          rw [given]
          exact Or.inl (by simp only [resolved])
      | ok place =>
          cases found : world.tree.existsAt environment.host.standing place.text with
          | true =>
              unfold create createWith
              rw [given]
              exact Or.inl (by simp only [resolved, found, if_true])
          | false =>
              refine Or.inr ⟨name, place, resolved, found, ?_⟩
              rw [create_of_absent settings given resolved found]
              cases world.tree.makeAbove environment.host.standing place with
              | mk made tree =>
                  cases made with
                  | error cause => exact Or.inl rfl
                  | ok _ =>
                      cases written : tree.writeText environment.host.standing place.text "" with
                      | error cause => exact Or.inl (by simp only [written])
                      | ok changed => exact Or.inr ⟨changed, rfl, by simp only [written]⟩

/-- Creating a file makes the tree grow. -/
theorem tree_create (named : environment.directory ≠ "")
    (hosts : world.tree.Hosts environment.root.names) (settings : WindowSettings)
    (arguments : Arguments) :
    Node.Grows environment.root.names world.tree
      (create settings environment arguments world).2.tree := by
  rcases create_cases settings environment arguments world with
    same | ⟨name, place, resolved, absent, outcome⟩
  · rw [same]
    exact ⟨none, Node.GrowsBy.refl none _ _⟩
  · have within := Environment.within_of_resolve named resolved
    have above := Node.makeAbove_grows hosts within environment.host.standing
    rcases outcome with failed | ⟨tree, written, shown⟩
    · rw [failed]
      exact ⟨none, above⟩
    · rw [shown, tree_showWindow]
      exact ⟨some place.names, Node.writeBytes_grows hosts within absent above written⟩

end Viewer

end Tools

/-! ## A small world

A workspace with one file, beside a directory that holds a file of its own. -/

namespace Sample

/-- A process without variables, without a network and without programs. -/
def host : Host where
  standing := []
  bindings := []
  fetch := fun _ => .unreachable
  launch := fun _ _ => .error .notFound

def environment : Environment where
  host := host
  directory := "/ws"
  store := 0

def tree (outside inside : String) : Node :=
  .directory
    [("etc", .directory [("passwd", .file outside.toUTF8 false)]),
      ("ws", .directory [("a.txt", .file inside.toUTF8 false)])]

/-- The world in which a path is stored as the open file. -/
def world (outside inside opened : String) : World where
  tree := tree outside inside
  memory := fun _ _ => Dictionary.empty.insert Viewer.currentFile opened

theorem names_root : environment.root.names = ["ws"] := by
  decide

theorem hosts_tree (outside inside : String) :
    (tree outside inside).Hosts environment.root.names where
  linkless := by
    apply Node.linkless_directory
    simp only [List.forall_mem_cons]
    refine ⟨Node.linkless_directory ?_, Node.linkless_directory ?_, by simp⟩
    · simpa using Node.linkless_file _ _
    · simpa using Node.linkless_file _ _
  present := by
    rw [names_root]
    rfl

def arguments (start stop content : String) : Arguments :=
  ((Dictionary.empty.insert "start_line" start).insert "end_line" stop).insert "content" content

theorem openPlace_world (outside inside : String) :
    Viewer.openPlace environment (world outside inside "a.txt") = .ok ⟨true, ["ws", "a.txt"]⟩ := by
  rfl

theorem contentOf_world (outside inside opened : String) :
    Viewer.contentOf environment (world outside inside opened) ⟨true, ["ws", "a.txt"]⟩ =
      .ok inside := by
  apply Node.readText_eq_ok_iff.mpr
  rfl

end Sample

end Workbench
