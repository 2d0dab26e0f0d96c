import Workbench.Proofs.Command.Completion
import Workbench.Proofs.Command.History
import Workbench.Proofs.Tool.Reach
import Workbench.Turn
namespace Workbench

/-!
# From a text to one tool

A text passes three lookups: one tells whether it is a command, one reads it, and one
finds the tool to run.  The first looks at the text as it is, the second at the first line
of the trimmed text, and the third only has the name that the second gave.  They meet the
same tool whatever was registered, namely the last one that was accepted under the text's
first word.
-/

namespace Reading

/-- Reads a text as a command of this tool, whatever its first word is. -/
def readAs (definition : Definition) (text : String) : Except Failure (Option Invocation) :=
  read (fun _ => some definition) text

/-- Reading looks at no definition but the one that the first word names. -/
theorem read_eq_readAs {find : String → Option Definition} {text : String}
    {definition : Definition} (named : named? find text.toList = some definition) :
    read find text = readAs definition text := by
  rcases exists_lines_of_named named with ⟨first, others, written, begins⟩
  rcases Option.bind_eq_some_iff.mp begins with ⟨word, leads, _⟩
  have alone : named? (fun _ => some definition) first = some definition := by
    rw [named?, leads]
    rfl
  rw [readAs, read, read, written]
  simp only [begins, alone]

theorem isCommand_eq_false_iff {find : String → Option Definition} {text : String} :
    isCommand find text = false ↔ named? find text.toList = none := by
  rw [isCommand, Option.isSome_eq_false_iff, Option.isNone_iff_eq_none]

/-- Reading fails for want of an argument only, never for want of a tool. -/
theorem read_ne_unknownTool (find : String → Option Definition) (text name : String) :
    read find text ≠ .error (.unknownTool name) := by
  intro unknown
  cases named : named? find text.toList with
  | none =>
      rw [read_eq_none_iff.mpr named] at unknown
      cases unknown
  | some definition =>
      rcases read_of_named named with ⟨arguments, given⟩ | ⟨argument, missing⟩
      · rw [given] at unknown
        cases unknown
      · rw [missing] at unknown
        cases unknown

end Reading

namespace Turn

/-- The text calls this tool: its first word is the tool's name, and of the register calls
under this name, the tool's own was the last one that was accepted. -/
structure Calls (calls : List (Tool Action)) (text : String) (tool : Tool Action) : Prop where
  command : Reading.isCommand (Catalog.after calls).find? text = true
  begins : Text.firstWord? text.toList = some tool.name.toList
  last : Catalog.LastAccepted calls tool

/-- The text gives these arguments to this tool: its definition alone decides them, and the
dispatch under its name is its own action. -/
structure Gives (calls : List (Tool Action)) (text : String) (tool : Tool Action)
    (arguments : Arguments) : Prop where
  called : Calls calls text tool
  read : Reading.read (Catalog.after calls).find? text = .ok (some ⟨tool.name, arguments⟩)
  own : Reading.readAs tool.definition text = .ok (some ⟨tool.name, arguments⟩)
  dispatched : run (Catalog.after calls) tool.name = tool.action

/-- What may come of a text after these register calls. -/
inductive Handled (calls : List (Tool Action)) (environment : Environment) (text : String)
    (world : World) : Option Reply × World → Prop where
  /-- The text is no command: no tool runs. -/
  | plain (stranger : Reading.isCommand (Catalog.after calls).find? text = false)
      (unread : Reading.read (Catalog.after calls).find? text = .ok none) :
      Handled calls environment text world (none, world)
  /-- The text calls a tool but lacks one of its arguments: no tool runs. -/
  | malformed {tool : Tool Action} {argument : String} (called : Calls calls text tool)
      (unread : Reading.read (Catalog.after calls).find? text =
        .error (.missingArgument tool.name argument)) :
      Handled calls environment text world
        (some ⟨(Failure.missingArgument tool.name argument).message, true⟩, world)
  | succeeded {tool : Tool Action} {arguments : Arguments} {content : String} {final : World}
      (given : Gives calls text tool arguments)
      (ran : tool.action environment arguments world = (.ok content, final)) :
      Handled calls environment text world (some ⟨content, false⟩, final)
  | failed {tool : Tool Action} {arguments : Arguments} {failure : Failure} {final : World}
      (given : Gives calls text tool arguments)
      (ran : tool.action environment arguments world = (.error failure, final)) :
      Handled calls environment text world (some ⟨failure.message, true⟩, final)

variable {calls : List (Tool Action)} {text : String}

/-- A command calls the tool whose definition its first word names. -/
theorem exists_calls {definition : Definition}
    (named : Reading.named? (Catalog.after calls).find? text.toList = some definition) :
    ∃ tool, tool.definition = definition ∧ Calls calls text tool ∧
      (Catalog.after calls).tool? tool.name = some tool := by
  rcases Catalog.exists_tool_of_named named with ⟨tool, same, begins, found⟩
  have command : Reading.isCommand (Catalog.after calls).find? text = true := by
    rw [Reading.isCommand, named]
    rfl
  exact ⟨tool, same, ⟨command, begins, Catalog.lastAccepted_of_tool? found⟩, found⟩

theorem run_of_tool? {catalog : Catalog Action} {name : String} {tool : Tool Action}
    (found : catalog.tool? name = some tool) : run catalog name = tool.action := by
  funext environment arguments world
  rw [run, found]

theorem take_of_invocation {catalog : Catalog Action} {invocation : Invocation}
    (given : Reading.read catalog.find? text = .ok (some invocation)) (environment : Environment)
    (world : World) :
    take catalog environment text world =
      (some (Reply.ofOutcome
          (run catalog invocation.name environment invocation.arguments world).1),
        (run catalog invocation.name environment invocation.arguments world).2) := by
  rw [take, given]

/-- Every text is handled in one of the four ways. -/
theorem handled (calls : List (Tool Action)) (environment : Environment) (text : String)
    (world : World) :
    Handled calls environment text world (take (Catalog.after calls) environment text world) := by
  cases named : Reading.named? (Catalog.after calls).find? text.toList with
  | none =>
      have unread := Reading.read_eq_none_iff.mpr named
      rw [take, unread]
      exact .plain (Reading.isCommand_eq_false_iff.mpr named) unread
  | some definition =>
      rcases exists_calls named with ⟨tool, rfl, called, found⟩
      rcases Reading.read_of_named named with ⟨arguments, read⟩ | ⟨argument, missing⟩
      · have given : Gives calls text tool arguments :=
          ⟨called, read, (Reading.read_eq_readAs named).symm.trans read, run_of_tool? found⟩
        have dispatched : run (Catalog.after calls) tool.definition.name = tool.action :=
          given.dispatched
        rw [take_of_invocation read]
        simp only [dispatched]
        rcases ran : tool.action environment arguments world with ⟨outcome, final⟩
        cases outcome with
        | ok content => exact .succeeded given ran
        | error failure => exact .failed given ran
      · rw [take, missing]
        exact .malformed called missing

theorem take_eq_none_iff (catalog : Catalog Action) (environment : Environment) (world : World) :
    (take catalog environment text world).1 = none ↔
      Reading.read catalog.find? text = .ok none := by
  unfold take
  split
  · rename_i unread
    simp only [unread]
  · rename_i failure unread
    simp only [unread, reduceCtorEq]
  · rename_i invocation given
    simp only [given, reduceCtorEq, Except.ok.injEq]

/-- What is read is dispatched to the action of a registered tool. -/
theorem exists_dispatch {invocation : Invocation}
    (given : Reading.read (Catalog.after calls).find? text = .ok (some invocation)) :
    ∃ tool ∈ calls, run (Catalog.after calls) invocation.name = tool.action := by
  rcases Reading.named?_of_read given with ⟨first, others, definition, _, named, sameName⟩
  rcases Catalog.exists_tool_of_named named with ⟨tool, rfl, _, found⟩
  refine ⟨tool, (Catalog.lastAccepted_of_tool? found).mem, ?_⟩
  rw [sameName]
  exact run_of_tool? found

/-- After any register calls, a text gets no reply exactly if it is no command, which is
exactly if it is read as none.  Otherwise either an argument is missing, and the reply tells
which, or the text is run as a command of the tool that was last accepted under its first
word.  Neither reading nor the dispatch ever misses a tool. -/
theorem take_routes (calls : List (Tool Action)) (environment : Environment) (text : String)
    (world : World) :
    ((take (Catalog.after calls) environment text world).1 = none ↔
        Reading.isCommand (Catalog.after calls).find? text = false) ∧
      (Reading.isCommand (Catalog.after calls).find? text = false ↔
        Reading.read (Catalog.after calls).find? text = .ok none) ∧
      Handled calls environment text world
        (take (Catalog.after calls) environment text world) ∧
      (∀ name, Reading.read (Catalog.after calls).find? text ≠ .error (.unknownTool name)) ∧
      ∀ invocation, Reading.read (Catalog.after calls).find? text = .ok (some invocation) →
        ∃ tool ∈ calls, run (Catalog.after calls) invocation.name = tool.action := by
  have stranger : Reading.isCommand (Catalog.after calls).find? text = false ↔
      Reading.read (Catalog.after calls).find? text = .ok none :=
    Reading.isCommand_eq_false_iff.trans Reading.read_eq_none_iff.symm
  exact ⟨(take_eq_none_iff _ environment world).trans stranger.symm, stranger,
    handled calls environment text world, Reading.read_ne_unknownTool _ text,
    fun _ given => exists_dispatch given⟩

end Turn

namespace Sample

/-- A tool that has one answer. -/
def answering (signature answer : String) : Tool Action where
  definition :=
    { name := "note", signature := signature, summary := "", parameters := [], endMark := none }
  action := fun _ _ world => (.ok answer, world)

/-- Three calls under one name.  The last one is rejected for its empty signature. -/
def calls : List (Tool Action) :=
  [answering "note" "first", answering "note" "second", answering "" "third"]

end Sample

theorem Turn.take_routes_of_replaced :
    Turn.Handled Sample.calls Sample.environment " note " (Sample.world "" "" "")
        (some ⟨"second", false⟩, Sample.world "" "" "") ∧
      ∃ tool ∈ Sample.calls, Turn.run (Catalog.after Sample.calls) "note" = tool.action := by
  rcases Turn.take_routes Sample.calls Sample.environment " note " (Sample.world "" "" "") with
    ⟨_, _, handled, _, dispatched⟩
  have taken : Turn.take (Catalog.after Sample.calls) Sample.environment " note "
      (Sample.world "" "" "") = (some ⟨"second", false⟩, Sample.world "" "" "") := by
    rfl
  have given : Reading.read (Catalog.after Sample.calls).find? " note " =
      .ok (some ⟨"note", Dictionary.empty⟩) := by
    rfl
  rw [taken] at handled
  exact ⟨handled, dispatched _ given⟩

end Workbench
