import Workbench.Proofs.Command.Forms
import Workbench.Proofs.Command.Registration
import Workbench.Proofs.Tool.Reach
import Workbench.Turn
namespace Workbench

/-!
# Turn after turn

A session is a list of texts, each taken in the world that the last one left.
Its replies come in the order of the texts.  A turn changes the world only by
running a tool of the catalog, so what every tool keeps a session keeps.
-/

namespace Turn

/-- Takes a turn for each text, one after the other. -/
def takeAll (catalog : Catalog Action) (environment : Environment) :
    List String → World → List (Option Reply) × World
  | [], world => ([], world)
  | text :: others, world =>
    let (reply, after) := take catalog environment text world
    let (replies, final) := takeAll catalog environment others after
    (reply :: replies, final)

/-- The tool that a text calls, if it is a command that can be read. -/
def command? (catalog : Catalog Action) (text : String) : Option String :=
  match Reading.read catalog.find? text with
  | .ok (some invocation) => some invocation.name
  | _ => none

variable {catalog : Catalog Action} {environment : Environment}

theorem command?_eq_some_iff {text name : String} :
    command? catalog text = some name ↔
      ∃ invocation, Reading.read catalog.find? text = .ok (some invocation) ∧
        invocation.name = name := by
  unfold command?
  split
  · rename_i invocation given
    simp only [given, Except.ok.injEq, Option.some.injEq, exists_eq_left']
  · rename_i unread
    simp only [reduceCtorEq, false_iff, not_exists, not_and]
    exact fun invocation given => absurd given (unread invocation)

/-- The tool that a text calls is named by the text's first word. -/
theorem firstWord?_of_command? {text name : String} (called : command? catalog text = some name) :
    ∃ first others, Text.lines (Text.trim text.toList) = first :: others ∧
      Text.firstWord? first = some name.toList := by
  unfold command? at called
  split at called
  · rename_i invocation given
    obtain ⟨first, others, definition, written, named, sameName⟩ := Reading.named?_of_read given
    refine ⟨first, others, written, ?_⟩
    rcases Catalog.exists_tool_of_named named with ⟨tool, same, begins, _⟩
    rw [begins, ← Option.some.inj called, sameName, ← same]
    rfl
  · cases called

theorem takeAll_cons (text : String) (others : List String) (world : World) :
    takeAll catalog environment (text :: others) world =
      ((take catalog environment text world).1 ::
          (takeAll catalog environment others (take catalog environment text world).2).1,
        (takeAll catalog environment others (take catalog environment text world).2).2) := rfl

/-- One more text at the end is one more turn in the world that the others left. -/
theorem takeAll_concat (texts : List String) (text : String) (world : World) :
    (takeAll catalog environment (texts ++ [text]) world).2 =
      (take catalog environment text (takeAll catalog environment texts world).2).2 := by
  induction texts generalizing world with
  | nil => rfl
  | cons first others inductionHypothesis =>
      rw [List.cons_append, takeAll_cons, takeAll_cons]
      exact inductionHypothesis _

/-- What a text means to a catalog. -/
inductive Meaning (catalog : Catalog Action) (text : String) : Prop where
  /-- No tool runs, and the reply is the same in every world. -/
  | idle (reply : Option Reply)
      (turn : ∀ environment world, take catalog environment text world = (reply, world))
  /-- The text calls a tool of the catalog, which runs. -/
  | call (tool : Tool Action) (arguments : Arguments)
      (named : command? catalog text = some tool.name)
      (found : catalog.tool? tool.name = some tool)
      (turn : ∀ environment world, take catalog environment text world =
        (some (Reply.ofOutcome (tool.action environment arguments world).1),
          (tool.action environment arguments world).2))

/-- A text runs one tool of the catalog or none. -/
theorem meaning (catalog : Catalog Action) (text : String) : Meaning catalog text := by
  cases read : Reading.read catalog.find? text with
  | error failure =>
      refine .idle (some (Reply.ofOutcome (.error failure))) ?_
      intro environment world
      rw [take, read]
  | ok invocation? =>
      cases invocation? with
      | none =>
          refine .idle none ?_
          intro environment world
          rw [take, read]
      | some invocation =>
          cases found : catalog.tool? invocation.name with
          | none =>
              refine .idle (some (Reply.ofOutcome (.error (.unknownTool invocation.name)))) ?_
              intro environment world
              rw [take, read]
              simp only [run, found]
          | some tool =>
              have sameName := (Catalog.tool?_eq_some found).2
              have named : command? catalog text = some tool.name := by
                rw [command?, read, sameName]
              refine .call tool invocation.arguments named (sameName.symm ▸ found) ?_
              intro environment world
              rw [take, read]
              simp only [run, found]

end Turn

/-! ## A small session -/

namespace Sample

def texts : List String :=
  ["edit 1:1\nX\nend_of_edit", "create ../etc/new.txt", "open a.txt"]

theorem command?_ne_of_mem_texts (catalog : Catalog Action) :
    ∀ text ∈ texts, Turn.command? catalog text ≠ some "create_pr" := by
  intro text member called
  obtain ⟨first, others, written, begins⟩ := Turn.firstWord?_of_command? called
  have words : ∀ text ∈ texts, (Text.lines (Text.trim text.toList)).head?.bind Text.firstWord? ≠
      some "create_pr".toList := by
    decide +kernel
  refine words text member ?_
  rw [written]
  exact begins

end Sample

end Workbench
