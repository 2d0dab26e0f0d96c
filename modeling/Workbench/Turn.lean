import Workbench.Command.Catalog
import Workbench.Command.Reading
import Workbench.World
namespace Workbench

/-!
One turn: a text comes in, and if it is a command, one tool is run and a reply
goes out.  A command that cannot be read and a tool that fails give an error
reply; a text that is no command gives no reply and changes nothing.
-/

structure Reply where
  content : String
  isError : Bool
  deriving DecidableEq, Repr

namespace Reply

/-- The reply to what a tool has come to. -/
def ofOutcome : Except Failure String → Reply
  | .ok content => ⟨content, false⟩
  | .error failure => ⟨failure.message, true⟩

end Reply

namespace Turn

/-- Runs the tool of a name. -/
def run (catalog : Catalog Action) (name : String) : Action := fun environment arguments world =>
  match catalog.tool? name with
  | none => (.error (.unknownTool name), world)
  | some tool => tool.action environment arguments world

/-- Takes a turn. -/
def take (catalog : Catalog Action) (environment : Environment) (text : String) (world : World) :
    Option Reply × World :=
  match Reading.read catalog.find? text with
  | .ok none => (none, world)
  | .error failure => (some (Reply.ofOutcome (.error failure)), world)
  | .ok (some invocation) =>
    let (outcome, after) := run catalog invocation.name environment invocation.arguments world
    (some (Reply.ofOutcome outcome), after)

end Turn

/-- What came of one line of a conversation. -/
inductive LineOutcome where
  /-- The block is not complete: it waits for this end mark. -/
  | more (endMark : String)
  /-- The text is no command. -/
  | plain (text : String)
  | reply (reply : Reply)
  deriving DecidableEq, Repr

/-- A conversation: the lines of a block that is not complete yet. -/
structure Conversation where
  pending : List String
  deriving DecidableEq, Repr

namespace Conversation

def start : Conversation :=
  ⟨[]⟩

/-- Takes one line.  The lines of a block are kept until its end mark comes, and
then they are taken together. -/
def feed (catalog : Catalog Action) (environment : Environment) (conversation : Conversation)
    (line : String) (world : World) : LineOutcome × Conversation × World :=
  let lines := conversation.pending ++ [line]
  let text := String.intercalate "\n" lines
  match Reading.awaited? catalog.find? text with
  | some endMark => (.more endMark, ⟨lines⟩, world)
  | none =>
    match Turn.take catalog environment text world with
    | (some reply, after) => (.reply reply, start, after)
    | (none, after) => (.plain (String.ofList (Text.trim text.toList)), start, after)

end Conversation

end Workbench
