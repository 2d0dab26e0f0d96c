import Workbench.Proofs.Guarded.Lines
import Workbench.Proofs.Text.Sizes
import Workbench.Proofs.Tree.Short
namespace Workbench

/-!
# The viewer in words

The actions of the viewer, with every position and every height a word.  The bounds lean on
one another: the first line in sight comes from an earlier window, onto a file that may since
have become shorter or longer, and a scroll adds its step to it before the clamp takes it
back.  So what is asked for is not that the line in sight lies in the file, but only that it
is no further down than a file can have a line, and with that no action aborts.

The bodies are those of the viewer itself; only the arithmetic is put in here.  So an action that
does not abort does what it does in numbers of any size, whatever the circumstances are.  In
particular a scroll from far down either asks for the sum of the line and the step or aborts.
-/

namespace Guarded

/-- What a tool does if it does not abort. -/
abbrev Action := Environment → Arguments → World → Run (Except Failure String × World)

/-- Where the numbers that an action of the viewer meets come from is small. -/
structure Moderate (settings : WindowSettings) (environment : Environment)
    (arguments : Arguments) (world : World) : Prop where
  height : settings.lines < 2 ^ 63
  files : world.tree.Short
  sight : Viewer.lineInSight environment world ≤ 2 ^ 63
  content : ∀ text, arguments.get? "content" = some text →
    (Text.lines text.toList).length < 2 ^ 63

theorem Moderate.lines_content {settings : WindowSettings} {environment : Environment}
    {arguments : Arguments} {world : World}
    (moderate : Moderate settings environment arguments world) :
    (Text.lines ((arguments.get? "content").getD "").toList).length < 2 ^ 63 := by
  cases held : arguments.get? "content" with
  | none => exact Nat.two_pow_pos 63
  | some content => exact moderate.content content held

/-- The action does what the other one does or aborts, and in moderate circumstances it does not
abort. -/
def Follows (settings : WindowSettings) (guarded : Action) (action : Workbench.Action) : Prop :=
  ∀ environment arguments world,
    Gives (Moderate settings environment arguments world) (action environment arguments world)
      (guarded environment arguments world)

namespace Viewer

def showWindow (settings : WindowSettings) (environment : Environment) (world : World)
    (place : Place) (asked : Nat) : Run (Except Failure String × World) :=
  match Viewer.contentOf environment world place with
  | .error cause => pure (.error (.machine cause), world)
  | .ok content => do
    let lines := Workbench.Window.linesOf content
    let first ← Window.clampFirst settings lines.length asked
    let text ← Window.render settings (environment.display place) lines first
    pure (.ok text, Viewer.remember environment world place first)

def openFile (settings : WindowSettings) : Action := fun environment arguments world =>
  Viewer.openFileWith settings pure (showWindow settings environment) environment arguments world

def goToLine (settings : WindowSettings) : Action := fun environment arguments world =>
  Viewer.goToLineWith settings pure (showWindow settings environment) environment arguments world

/-- The line that a scroll asks for.  Where the line in sight and the step come to more than a
word, the process aborts and nothing is shown. -/
def target (direction : Viewer.Direction) (step line : Nat) : Run Nat :=
  match direction with
  | .up => pure (max (line - step) 1)
  | .down => add line step

def scroll (settings : WindowSettings) (direction : Viewer.Direction) : Action :=
  fun environment _ world =>
    Viewer.scrollWith pure (showWindow settings environment)
      (fun line go => target direction settings.step line >>= go) environment world

def create (settings : WindowSettings) : Action := fun environment arguments world =>
  Viewer.createWith pure (showWindow settings environment) environment arguments world

def edit (settings : WindowSettings) : Action := fun environment arguments world =>
  Viewer.editWith settings pure (showWindow settings environment)
    (fun total start stop go => Splice.fault? total start stop >>= go)
    (fun start stop content text go => Splice.apply start stop content text >>= go) environment
    arguments world

def tools (settings : WindowSettings) : List (Tool Action) :=
  [⟨Viewer.openDefinition, openFile settings⟩,
    ⟨Viewer.goToDefinition, goToLine settings⟩,
    ⟨Viewer.scrollDefinition settings .down, scroll settings .down⟩,
    ⟨Viewer.scrollDefinition settings .up, scroll settings .up⟩,
    ⟨Viewer.createDefinition, create settings⟩,
    ⟨Viewer.editDefinition, edit settings⟩]

/-! ## What is shown -/

variable {settings : WindowSettings} {environment : Environment} {world : World} {place : Place}
  {Safe : Prop}

theorem gives_showWindow (settings : WindowSettings) (environment : Environment) (world : World)
    (place : Place) (asked : Nat) :
    Gives (settings.lines < 2 ^ 63 ∧
        ∀ text, Viewer.contentOf environment world place = .ok text →
          (Workbench.Window.linesOf text).length < Decimal.largest)
      (Workbench.Viewer.showWindow settings environment world place asked)
      (showWindow settings environment world place asked) := by
  unfold showWindow Workbench.Viewer.showWindow
  cases read : Viewer.contentOf environment world place with
  | error cause => exact .ok
  | ok content =>
      refine ((Window.gives_clampFirst _ _ _).of_imp fun safe => safe.2 content rfl).bind
        (((Window.gives_render_clamp _ _ _ _).of_imp fun safe => ?_).bind .ok)
      exact ⟨safe.1, safe.2 content rfl⟩

theorem lines_lt_largest (files : world.tree.Short) {text : String}
    (read : Viewer.contentOf environment world place = .ok text) :
    (Workbench.Window.linesOf text).length < Decimal.largest := by
  have short := files.of_readText read
  unfold Decimal.largest
  omega

/-- A window onto a short file can be shown from any line on. -/
theorem gives_showWindow_of_short (height : Safe → settings.lines < 2 ^ 63)
    (files : Safe → world.tree.Short) (asked : Nat) :
    Gives Safe (Workbench.Viewer.showWindow settings environment world place asked)
      (showWindow settings environment world place asked) :=
  (gives_showWindow settings environment world place asked).of_imp fun safe =>
    ⟨height safe, fun _ read => lines_lt_largest (files safe) read⟩

theorem openFile_follows (settings : WindowSettings) :
    Follows settings (openFile settings) (Workbench.Viewer.openFile settings) := by
  intro environment arguments world
  have shows (place : Place) (asked : Nat) :
      Gives (Moderate settings environment arguments world)
        (Workbench.Viewer.showWindow settings environment world place asked)
        (showWindow settings environment world place asked) :=
    gives_showWindow_of_short Moderate.height Moderate.files asked
  unfold openFile Workbench.Viewer.openFile Viewer.openFileWith
  cases arguments.require "open" "path" with
  | error failure => exact .ok
  | ok path =>
      dsimp only
      cases environment.resolve path with
      | error failure => exact .ok
      | ok place =>
          dsimp only
          split
          · exact .ok
          · split
            · exact .ok
            · cases Viewer.contentOf environment world place with
              | error cause => exact .ok
              | ok content =>
                  dsimp only
                  cases Viewer.requestedLine arguments
                      (Workbench.Window.linesOf content).length with
                  | error report => exact .ok
                  | ok line? =>
                      cases line? with
                      | none => exact shows place 1
                      | some line => exact shows place _

theorem goToLine_follows (settings : WindowSettings) :
    Follows settings (goToLine settings) (Workbench.Viewer.goToLine settings) := by
  intro environment arguments world
  unfold goToLine Workbench.Viewer.goToLine Viewer.goToLineWith
  cases Viewer.openPlace environment world with
  | error report => exact .ok
  | ok place =>
      dsimp only
      cases Viewer.contentOf environment world place with
      | error cause => exact .ok
      | ok content =>
          dsimp only
          cases Viewer.requestedLine arguments (Workbench.Window.linesOf content).length with
          | error report => exact .ok
          | ok line? =>
              cases line? with
              | none => exact .ok
              | some line => exact gives_showWindow_of_short Moderate.height Moderate.files _

/-- The line in sight and the step of a scroll add up to a word at most. -/
theorem gives_target (direction : Viewer.Direction) (line : Nat) :
    Gives (settings.lines < 2 ^ 63 ∧ line ≤ 2 ^ 63) (direction.target settings.step line)
      (target direction settings.step line) := by
  cases direction with
  | up => exact .ok
  | down =>
      apply (gives_add line settings.step).of_imp
      rintro ⟨height, sight⟩
      unfold WindowSettings.step Decimal.largest
      omega

theorem scroll_follows (settings : WindowSettings) (direction : Viewer.Direction) :
    Follows settings (scroll settings direction) (Workbench.Viewer.scroll settings direction) := by
  intro environment arguments world
  unfold scroll Workbench.Viewer.scroll Viewer.scrollWith
  cases Viewer.openPlace environment world with
  | error report => exact .ok
  | ok place =>
      refine ((gives_target direction _).of_imp fun moderate => ?_).bind
        (gives_showWindow_of_short Moderate.height Moderate.files _)
      exact ⟨moderate.height, moderate.sight⟩

theorem create_follows (settings : WindowSettings) :
    Follows settings (create settings) (Workbench.Viewer.create settings) := by
  intro environment arguments world
  unfold create Workbench.Viewer.create Viewer.createWith
  cases arguments.require "create" "filename" with
  | error failure => exact .ok
  | ok name =>
      dsimp only
      cases environment.resolve name with
      | error failure => exact .ok
      | ok place =>
          dsimp only
          split
          · exact .ok
          · cases made : world.tree.makeAbove environment.host.standing place with
            | mk outcome tree =>
                cases outcome with
                | error cause => exact .ok
                | ok _ =>
                    dsimp only
                    cases written : tree.writeText environment.host.standing place.text "" with
                    | error cause => exact .ok
                    | ok changed =>
                        refine gives_showWindow_of_short Moderate.height (fun moderate => ?_) 1
                        have short :=
                          Node.short_makeAbove moderate.files environment.host.standing place
                        rw [made] at short
                        exact Node.short_writeText_empty short written

/-- What an edit writes is what the window then shows, and it has no more lines than the file
and the new text had together. -/
theorem lines_lt_largest_of_edit (files : world.tree.Short)
    {text : String} (read : Viewer.contentOf environment world place = .ok text)
    {start stop : Nat} (fits : Workbench.Splice.fault?
      (Text.lines text.toList).length start stop = none)
    {content : List Char} (small : (Text.lines content).length < 2 ^ 63) {tree : Node}
    (written : world.tree.writeText environment.host.standing place.text
      (String.ofList (Workbench.Splice.apply start stop content text.toList)) = .ok tree)
    {changed : String}
    (reread : Viewer.contentOf environment { world with tree := tree } place = .ok changed) :
    (Workbench.Window.linesOf changed).length < Decimal.largest := by
  have short := files.of_readText read
  rcases Node.writeBytes_of_readBytes (Node.readText_eq_ok_iff.mp read)
      (String.ofList (Workbench.Splice.apply start stop content text.toList)).toUTF8 with
    ⟨names, executable, _, _, rewritten, back⟩
  cases written.symm.trans rewritten
  have same : changed.toUTF8 =
      (String.ofList (Workbench.Splice.apply start stop content text.toList)).toUTF8 :=
    Except.ok.inj ((Node.readText_eq_ok_iff.mp reread).symm.trans back)
  rw [String.toByteArray_inj.mp same]
  unfold Workbench.Window.linesOf at short ⊢
  rw [List.length_map] at short ⊢
  rw [String.toList_ofList]
  have together : (Text.lines (Workbench.Splice.apply start stop content text.toList)).length ≤
      (Text.lines text.toList).length + (Text.lines content).length :=
    Workbench.Splice.length_lines_apply_le fits
  unfold Decimal.largest
  omega

theorem edit_follows (settings : WindowSettings) :
    Follows settings (edit settings) (Workbench.Viewer.edit settings) := by
  intro environment arguments world
  unfold edit Workbench.Viewer.edit Viewer.editWith
  cases Viewer.openPlace environment world with
  | error report => exact .ok
  | ok place =>
      dsimp only
      cases Viewer.bound arguments "start_line" with
      | error failure => exact .ok
      | ok start =>
          dsimp only
          cases Viewer.bound arguments "end_line" with
          | error failure => exact .ok
          | ok stop =>
              dsimp only
              cases read : Viewer.contentOf environment world place with
              | error cause => exact .ok
              | ok text =>
                  dsimp only
                  refine ((Splice.gives_fault? _ start stop).of_imp fun moderate =>
                    lines_lt_largest moderate.files read).bind ?_
                  cases fits : Workbench.Splice.fault? (Workbench.Window.linesOf text).length
                      start stop with
                  | some fault => exact .ok
                  | none =>
                      have passes := fits
                      unfold Workbench.Window.linesOf at passes
                      rw [List.length_map] at passes
                      refine ((Splice.gives_apply _ _ _ _).of_imp fun _ => passes).bind ?_
                      cases written : world.tree.writeText environment.host.standing place.text
                          (String.ofList (Workbench.Splice.apply start stop
                            ((arguments.get? "content").getD "").toList text.toList)) with
                      | error cause => exact .ok
                      | ok tree =>
                          apply (gives_showWindow _ _ _ _ _).of_imp
                          intro moderate
                          refine ⟨moderate.height, fun _ reread => ?_⟩
                          exact lines_lt_largest_of_edit moderate.files read passes
                            moderate.lines_content written reread

end Viewer

end Guarded

end Workbench
