import Workbench.Proofs.Session.Routing
import Workbench.Proofs.Tool.Demands
import Workbench.Proofs.Tool.Reach
namespace Workbench

/-!
# Running what was read

Reading a command gives an action all that its definition requires, and a standard action
misses nothing else.  So a command that the standard catalog can read may still fail, but
not for want of an argument, and not for want of a tool.
-/

namespace Turn

variable {settings : Settings} {catalog : Catalog Action}

/-- A command that the standard catalog reads runs a standard tool, with all that this tool
requires. -/
theorem exists_tool_of_read (standard : Standard.catalog settings = .ok catalog) {text : String}
    {invocation : Invocation} (given : Reading.read catalog.find? text = .ok (some invocation)) :
    ∃ tool ∈ Standard.tools settings, run catalog invocation.name = tool.action ∧
      ∀ argument, tool.definition.requires argument = true →
        invocation.arguments.contains argument = true := by
  rcases Reading.named?_of_read given with ⟨first, others, definition, written, named, sameName⟩
  rcases Catalog.exists_tool_of_named named with ⟨tool, rfl, _, found⟩
  have member := (Standard.mem_tools_of_tool? standard found).1
  refine ⟨tool, member, ?_, ?_⟩
  · rw [sameName]
    exact run_of_tool? found
  · intro argument required
    rcases Definition.requires_iff.mp required with ⟨parameter, listed, rfl, must⟩
    exact Reading.contains_required_of_read written named
      (Standard.mem_blockArguments_of_marked member) given parameter listed must

/-- With all that the definition requires, no argument is missing. -/
theorem ne_of_declared {definition : Definition} {arguments : Arguments}
    {outcome : Except Failure String} (declared : Declared definition arguments outcome)
    (held : ∀ argument, definition.requires argument = true →
      arguments.contains argument = true) :
    (∀ tool argument, outcome ≠ .error (.missingArgument tool argument)) ∧
      ∀ name, outcome ≠ .error (.unknownTool name) := by
  cases declared with
  | report text => exact ⟨nofun, nofun⟩
  | lacks required absent =>
      rw [held _ required] at absent
      cases absent
  | garbled argument given => exact ⟨nofun, nofun⟩
  | machine cause => exact ⟨nofun, nofun⟩

/-- Whatever the settings, a command that the standard catalog reads never fails in any
world for want of an argument or of a tool. -/
theorem run_lacks_nothing (settings : Settings) :
    ∃ catalog, Standard.catalog settings = .ok catalog ∧
      ∀ text invocation, Reading.read catalog.find? text = .ok (some invocation) →
        ∀ environment world,
          (∀ tool argument,
            (run catalog invocation.name environment invocation.arguments world).1 ≠
              .error (.missingArgument tool argument)) ∧
          ∀ name, (run catalog invocation.name environment invocation.arguments world).1 ≠
            .error (.unknownTool name) := by
  rcases Standard.exists_catalog settings with ⟨catalog, standard⟩
  refine ⟨catalog, standard, ?_⟩
  intro text invocation given environment world
  rcases exists_tool_of_read standard given with ⟨tool, member, dispatched, held⟩
  rw [dispatched]
  exact ne_of_declared (Standard.fits_of_mem member environment invocation.arguments world) held

/-- A block for an editor with an open file. -/
theorem run_lacks_nothing_of_edit :
    ∃ catalog invocation, Standard.catalog {} = .ok catalog ∧
      Reading.read catalog.find? "edit 1:2\nx\nend_of_edit" = .ok (some invocation) ∧
      (∀ tool argument,
        (run catalog invocation.name Sample.environment invocation.arguments
          (Sample.world "" "one\ntwo\n" "a.txt")).1 ≠ .error (.missingArgument tool argument)) ∧
      ∀ name, (run catalog invocation.name Sample.environment invocation.arguments
        (Sample.world "" "one\ntwo\n" "a.txt")).1 ≠ .error (.unknownTool name) := by
  rcases run_lacks_nothing {} with ⟨catalog, standard, lacksNothing⟩
  have registered : (⟨Viewer.editDefinition, Viewer.edit {}⟩ : Tool Action) ∈ catalog.tools := by
    rw [Standard.tools_of_catalog standard]
    exact Standard.mem_tools_iff.mpr (by simp)
  have named : Reading.named? catalog.find? "edit 1:2\nx\nend_of_edit".toList =
      some Viewer.editDefinition := by
    have begins : Text.firstWord? "edit 1:2\nx\nend_of_edit".toList = some "edit".toList := by
      decide
    rw [Reading.named?, begins, Option.bind_some, String.ofList_toList]
    exact Catalog.find?_of_mem registered
  have given : Reading.read catalog.find? "edit 1:2\nx\nend_of_edit" =
      .ok (some ⟨"edit", Sample.arguments "1" "2" "x"⟩) := by
    rw [Reading.read_eq_readAs named]
    rfl
  exact ⟨catalog, _, standard, given, lacksNothing _ _ given Sample.environment
    (Sample.world "" "one\ntwo\n" "a.txt")⟩

end Turn

end Workbench
