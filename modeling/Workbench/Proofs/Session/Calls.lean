import Workbench.Proofs.Session.Routing
import Workbench.Proofs.Session.Turns
import Workbench.Proofs.Tool.Remembering
namespace Workbench

/-!
# Calls over changing files

Texts may come from several callers, and between two of them anyone may change the files.
What a call then leaves for the next one is the memory alone, so a history is a list of calls
in which each brings its own caller and its own files.  What every single call keeps in the
memory, a history keeps.
-/

/-- A text that a caller hands over, and the files as they are at that moment. -/
structure Call where
  environment : Environment
  tree : Node
  text : String

namespace Call

/-- The reply to a call, and the world that it leaves. -/
def take (catalog : Catalog Action) (call : Call) (memory : Memory) : Option Reply × World :=
  Turn.take catalog call.environment call.text ⟨call.tree, memory⟩

/-- The memory after calls, one after the other. -/
def memoryAfter (catalog : Catalog Action) : List Call → Memory → Memory
  | [], memory => memory
  | call :: others, memory => memoryAfter catalog others (call.take catalog memory).2.memory

variable {settings : Settings} {catalog : Catalog Action}

/-- What each of the calls keeps, all of them keep. -/
theorem keeps_memoryAfter (Keeps : Memory → Prop) {calls : List Call}
    (step : ∀ call ∈ calls, ∀ memory, Keeps memory → Keeps (call.take catalog memory).2.memory)
    {memory : Memory} (initial : Keeps memory) : Keeps (memoryAfter catalog calls memory) := by
  induction calls generalizing memory with
  | nil => exact initial
  | cons first others inductionHypothesis =>
      have here := step first List.mem_cons_self memory initial
      exact inductionHypothesis (fun call later => step call (List.mem_cons_of_mem _ later)) here

/-! ## One call -/

/-- What a call of the standard catalog may come to. -/
inductive Ends (settings : Settings) (catalog : Catalog Action) (call : Call) (memory : Memory) :
    Option Reply × World → Prop where
  /-- No tool runs. -/
  | idle {reply : Option Reply}
      (unread : ∀ invocation, Reading.read catalog.find? call.text ≠ .ok (some invocation)) :
      Ends settings catalog call memory (reply, ⟨call.tree, memory⟩)
  | ran {invocation : Invocation} {result : Except Failure String × World}
      (given : Reading.read catalog.find? call.text = .ok (some invocation))
      (ended : Standard.Ends settings call.environment invocation.name invocation.arguments
        ⟨call.tree, memory⟩ result) :
      Ends settings catalog call memory (some (Reply.ofOutcome result.1), result.2)

/-- A standard tool runs under its own name. -/
theorem run_of_mem (standard : Standard.catalog settings = .ok catalog) {tool : Tool Action}
    (member : tool ∈ Standard.tools settings) : Turn.run catalog tool.name = tool.action := by
  apply Turn.run_of_tool?
  apply Catalog.tool?_of_mem
  rw [Standard.tools_of_catalog standard]
  exact member

/-- A text that is read as an invocation of a standard tool runs this tool. -/
theorem take_of_mem (standard : Standard.catalog settings = .ok catalog) {tool : Tool Action}
    (member : tool ∈ Standard.tools settings) {text : String} {arguments : Arguments}
    (given : Reading.read catalog.find? text = .ok (some ⟨tool.name, arguments⟩))
    (environment : Environment) (tree : Node) (memory : Memory) :
    take catalog ⟨environment, tree, text⟩ memory =
      (some (Reply.ofOutcome (tool.action environment arguments ⟨tree, memory⟩).1),
        (tool.action environment arguments ⟨tree, memory⟩).2) := by
  have ran : take catalog ⟨environment, tree, text⟩ memory = _ :=
    Turn.take_of_invocation given environment ⟨tree, memory⟩
  rw [ran, run_of_mem standard member]

/-- The tool that a command calls is a standard tool of the name that was read. -/
theorem exists_named_of_read (standard : Standard.catalog settings = .ok catalog) {text : String}
    {invocation : Invocation} (given : Reading.read catalog.find? text = .ok (some invocation)) :
    ∃ tool ∈ Standard.tools settings, tool.name = invocation.name ∧
      Turn.run catalog invocation.name = tool.action := by
  rcases Reading.named?_of_read given with ⟨_, _, definition, _, named, sameName⟩
  rcases Catalog.exists_tool_of_named named with ⟨tool, rfl, _, found⟩
  refine ⟨tool, (Standard.mem_tools_of_tool? standard found).1, sameName.symm, ?_⟩
  rw [sameName]
  exact Turn.run_of_tool? found

theorem ends_take (standard : Standard.catalog settings = .ok catalog) (call : Call)
    (memory : Memory) : Ends settings catalog call memory (call.take catalog memory) := by
  cases read : Reading.read catalog.find? call.text with
  | error failure =>
      rw [take, Turn.take, read]
      exact .idle (fun invocation given => by cases read.symm.trans given)
  | ok invocation? =>
      cases invocation? with
      | none =>
          rw [take, Turn.take, read]
          exact .idle (fun invocation given => by cases read.symm.trans given)
      | some invocation =>
          rcases exists_named_of_read standard read with ⟨tool, member, named, dispatched⟩
          rw [take, Turn.take_of_invocation read, dispatched]
          have ended := Standard.ends_of_mem member call.environment invocation.arguments
            ⟨call.tree, memory⟩
          rw [named] at ended
          exact .ran read ended

end Call

end Workbench
