import Workbench.Proofs.Command.Registration
import Workbench.Proofs.Command.Requirements
namespace Workbench

/-!
# What the tools ask for

A tool names its arguments twice, once in its definition and once in its action.  The two
agree in every standard tool: whatever an action misses, its definition requires.  The one
tool that takes a block requires only what a block gives.
-/

/-- Must an argument of this name be given? -/
def Definition.requires (definition : Definition) (name : String) : Bool :=
  definition.parameters.any (fun parameter => parameter.name == name && parameter.required)

theorem Definition.requires_iff {definition : Definition} {name : String} :
    definition.requires name = true ↔
      ∃ parameter ∈ definition.parameters, parameter.name = name ∧ parameter.required = true := by
  simp only [requires, List.any_eq_true, Bool.and_eq_true, beq_iff_eq]

/-- The outcomes of an action that misses nothing but what the definition requires. -/
inductive Declared (definition : Definition) (arguments : Arguments) :
    Except Failure String → Prop where
  | report (text : String) : Declared definition arguments (.ok text)
  | lacks {argument : String} (required : definition.requires argument = true)
      (absent : arguments.contains argument = false) :
      Declared definition arguments (.error (.missingArgument definition.name argument))
  | garbled (argument given : String) :
      Declared definition arguments (.error (.notANumber argument given))
  | machine (cause : Cause) : Declared definition arguments (.error (.machine cause))

/-- The action misses nothing but what the definition requires. -/
def Action.Fits (action : Action) (definition : Definition) : Prop :=
  ∀ environment arguments world,
    Declared definition arguments (action environment arguments world).1

theorem Declared.of_require {definition : Definition} {arguments : Arguments} {name : String}
    (required : definition.requires name = true) {failure : Failure}
    (failed : arguments.require definition.name name = .error failure) :
    Declared definition arguments (.error failure) := by
  unfold Arguments.require at failed
  split at failed
  · cases failed
  · rename_i absent
    cases failed
    exact .lacks required (by rw [Dictionary.contains, absent]; rfl)

namespace Viewer

theorem declared_showWindow (definition : Definition) (arguments : Arguments)
    (settings : WindowSettings) (environment : Environment) (world : World) (place : Place)
    (first : Nat) :
    Declared definition arguments (showWindow settings environment world place first).1 := by
  unfold showWindow
  split
  · exact .machine _
  · exact .report _

theorem fits_openFile (settings : WindowSettings) :
    Action.Fits (openFile settings) openDefinition := by
  intro environment arguments world
  unfold openFile openFileWith
  split
  · rename_i failure failed
    exact .of_require rfl failed
  · split
    · exact .report _
    · split
      · exact .report _
      · split
        · exact .report _
        · split
          · exact .machine _
          · split
            · exact .report _
            · exact declared_showWindow _ _ settings environment world _ _
            · exact declared_showWindow _ _ settings environment world _ _

/-- There is no requested line without the argument that gives it. -/
theorem absent_of_requestedLine {arguments : Arguments} {total : Nat}
    (unasked : requestedLine arguments total = .ok none) :
    arguments.contains "line_number" = false := by
  unfold requestedLine at unasked
  split at unasked
  · cases unasked
  · rename_i unread
    unfold Arguments.number? at unread
    split at unread
    · rename_i absent
      rw [Dictionary.contains, absent]
      rfl
    · split at unread
      · cases unread
      · cases unread
  · split at unasked
    · cases unasked
    · cases unasked

theorem fits_goToLine (settings : WindowSettings) :
    Action.Fits (goToLine settings) goToDefinition := by
  intro environment arguments world
  unfold goToLine goToLineWith
  split
  · exact .report _
  · split
    · exact .machine _
    · split
      · exact .report _
      · rename_i unasked
        exact .lacks rfl (absent_of_requestedLine unasked)
      · exact declared_showWindow _ _ settings environment world _ _

theorem fits_scroll (settings : WindowSettings) (direction : Direction) :
    Action.Fits (scroll settings direction) (scrollDefinition settings direction) := by
  intro environment arguments world
  unfold scroll scrollWith
  split
  · exact .report _
  · exact declared_showWindow _ _ settings environment world _ _

theorem fits_create (settings : WindowSettings) :
    Action.Fits (create settings) createDefinition := by
  intro environment arguments world
  unfold create createWith
  split
  · rename_i failure failed
    exact .of_require rfl failed
  · split
    · exact .report _
    · simp only []
      split
      · exact .report _
      · split
        · exact .machine _
        · split
          · exact .machine _
          · exact declared_showWindow _ _ settings environment _ _ 1

/-- A bound that cannot be had is missing or is no number. -/
theorem declared_bound {arguments : Arguments} {name : String}
    (required : editDefinition.requires name = true) {failure : Failure}
    (failed : bound arguments name = .error failure) :
    Declared editDefinition arguments (.error failure) := by
  unfold bound Arguments.number? at failed
  cases held : arguments.get? name with
  | none =>
      rw [held] at failed
      cases failed
      exact .lacks required (by rw [Dictionary.contains, held]; rfl)
  | some given =>
      simp only [held] at failed
      cases read : Decimal.read? (Text.trim given.toList) with
      | none =>
          rw [read] at failed
          cases failed
          exact .garbled name given
      | some value =>
          rw [read] at failed
          cases failed

theorem fits_edit (settings : WindowSettings) : Action.Fits (edit settings) editDefinition := by
  intro environment arguments world
  unfold edit editWith
  split
  · exact .report _
  · split
    · rename_i failure failed
      exact declared_bound rfl failed
    · split
      · rename_i failure failed
        exact declared_bound rfl failed
      · split
        · exact .machine _
        · dsimp only
          split
          · exact .report _
          · split
            · exact .machine _
            · exact declared_showWindow _ _ settings environment _ _ _

end Viewer

namespace Search

theorem fits_inDirectory (settings : SearchSettings) :
    Action.Fits (inDirectory settings) inDirectoryDefinition := by
  intro environment arguments world
  unfold inDirectory inDirectoryWith
  split
  · rename_i failure failed
    exact .of_require rfl failed
  · split
    · exact .report _
    · split
      · exact .report _
      · rw [tallyReportWith_eq]
        exact .report _

theorem fits_inFile (settings : SearchSettings) :
    Action.Fits (inFile settings) inFileDefinition := by
  intro environment arguments world
  unfold inFile
  split
  · rename_i failure failed
    exact .of_require rfl failed
  · split
    · exact .report _
    · simp only []
      split
      · exact .report _
      · exact .report _

theorem fits_byName (settings : SearchSettings) :
    Action.Fits (byName settings) byNameDefinition := by
  intro environment arguments world
  unfold byName
  split
  · rename_i failure failed
    exact .of_require rfl failed
  · split
    · exact .report _
    · split
      · exact .report _
      · split
        · exact .report _
        · exact .report _

end Search

namespace Variables

theorem fits_read : Action.Fits read readDefinition := by
  intro environment arguments world
  unfold read
  split
  · rename_i failure failed
    exact .of_require rfl failed
  · split
    · exact .report _
    · split
      · exact .report _
      · exact .report _

theorem fits_write : Action.Fits write writeDefinition := by
  intro environment arguments world
  unfold write
  split
  · rename_i failure failed
    exact .of_require rfl failed
  · split
    · rename_i failure failed
      exact .of_require rfl failed
    · split
      · exact .report _
      · split
        · exact .report _
        · exact .report _

end Variables

theorem Web.fits_search (settings : WebSettings) : Action.Fits (search settings) definition := by
  intro environment arguments world
  unfold search
  split
  · rename_i failure failed
    exact .of_require rfl failed
  · split
    · exact .report _
    · exact .report _

theorem PullRequest.fits_create (settings : PullRequestSettings) :
    Action.Fits (create settings) definition := by
  intro environment arguments world
  unfold create
  split
  · rename_i failure failed
    exact .of_require rfl failed
  · split
    · exact .report _
    · simp only []
      split
      · exact .report _
      · split
        · exact .report _
        · exact .report _

namespace Standard

variable {settings : Settings} {tool : Tool Workbench.Action}

/-- No standard tool misses anything but what its definition requires. -/
theorem fits_of_mem (member : tool ∈ tools settings) :
    Action.Fits tool.action tool.definition := by
  rcases mem_tools_iff.mp member with
    rfl | rfl | rfl | rfl | rfl | rfl | rfl | rfl | rfl | rfl | rfl | rfl | rfl
  · exact Viewer.fits_openFile settings.window
  · exact Viewer.fits_goToLine settings.window
  · exact Viewer.fits_scroll settings.window .down
  · exact Viewer.fits_scroll settings.window .up
  · exact Viewer.fits_create settings.window
  · exact Viewer.fits_edit settings.window
  · exact Search.fits_inDirectory settings.search
  · exact Search.fits_inFile settings.search
  · exact Search.fits_byName settings.search
  · exact Variables.fits_read
  · exact Variables.fits_write
  · exact Web.fits_search settings.web
  · exact PullRequest.fits_create settings.pullRequest

/-- A standard tool that takes a block requires only what a block gives. -/
theorem mem_blockArguments_of_marked (member : tool ∈ tools settings)
    (marked : tool.definition.endMark ≠ none) :
    ∀ parameter ∈ tool.definition.parameters, parameter.required = true →
      parameter.name ∈ Reading.blockArguments := by
  rcases mem_tools_iff.mp member with
    rfl | rfl | rfl | rfl | rfl | rfl | rfl | rfl | rfl | rfl | rfl | rfl | rfl
  case inr.inr.inr.inr.inr.inl =>
    show ∀ parameter ∈ Viewer.editDefinition.parameters, parameter.required = true →
      parameter.name ∈ Reading.blockArguments
    decide
  all_goals exact absurd rfl marked

end Standard

end Workbench
