import Workbench.Text.Cluster
import Workbench.Turn
namespace Workbench

/-!
The console: a conversation with someone who types.  It prompts for every line, also
for the one that does not come any more.  Lines that begin with a slash are orders to
the console itself, unless a block is being typed.  Whoever types can interrupt the
console instead of typing a line, and then a block that is not complete is dropped.

How lines are typed is the matter of a line editor.  The console is told what each of
its prompts has come to.  What is made out here of a text that is piped in is for a
program that is run on a pipe, and nothing that is shown of the console rests on it.
-/

namespace Console

/-- What a prompt comes to, unless there is no further input. -/
inductive Input where
  | line (text : String)
  | interrupt
  /-- No line can be read. -/
  | failure (complaint : String)
  deriving DecidableEq, Repr

/-- A line as it stands after the corrections that were typed into it: a backspace takes
back the cluster that stands last by then. -/
def corrected (line : List Char) : List Char :=
  ((Cluster.cut line).foldl (fun typed cluster =>
    if cluster = ['\x08'] then typed.tail else cluster :: typed) []).reverse.flatten

/-- The lines of a text that is piped in: line ends are taken off. -/
def typedLines (input : String) : List String :=
  (Text.lines input.toList).map (fun line => String.ofList (corrected line))

/-- What the console is asked to do by a line of its own. -/
inductive Order where
  | help
  | docs
  | state
  | quit
  | unknown (word : String)
  deriving DecidableEq, Repr

/-- The order in a line that begins with a slash. -/
def order (line : List Char) : Order :=
  let word := String.ofList ((Text.firstWord? line).getD [])
  if word = "/help" ∨ word = "/h" then .help
  else if word = "/docs" then .docs
  else if word = "/state" then .state
  else if word = "/quit" ∨ word = "/exit" ∨ word = "/q" then .quit
  else .unknown word

def greeting (environment : Environment) : String :=
  "\ntoolcmd Interactive REPL\nWorkspace: " ++ environment.directory ++
    "\nType /help for help, /quit to quit\n\n"

def help : String :=
  "Commands:\n  /help   show this help\n  /docs   print the tool catalog\n" ++
    "  /state  print workspace state variables\n  /quit   exit\n\n" ++
    "Anything else is parsed as a tool command, e.g. search_dir needle src\n"

/-- The listing of the workspace's variables. -/
def listing (bindings : Dictionary String) : String :=
  if bindings.entries.isEmpty then "(no workspace state)\n"
  else String.join (bindings.entries.map (fun entry => entry.1 ++ "=" ++ entry.2 ++ "\n"))

/-- What is printed for the outcome of a line. -/
def shown : LineOutcome → String
  | .more _ => ""
  | .plain text => "Not a tool command: " ++ text ++ "\n"
  | .reply reply => (if reply.isError then "Error: " else "") ++ reply.content ++ "\n"

def prompt (conversation : Conversation) : String :=
  if conversation.pending.isEmpty then "> " else "... "

def farewell : String := "Goodbye!\n"

/-- What a line comes to: the text that is printed, the conversation unless it is
over, and the world. -/
structure Answer where
  text : String
  next : Option Conversation
  world : World

/-- Answers one line. -/
def answer (catalog : Catalog Action) (environment : Environment) (conversation : Conversation)
    (line : String) (world : World) : Answer :=
  let trimmed := Text.trim line.toList
  let stay (text : String) : Answer := ⟨text, some conversation, world⟩
  if conversation.pending.isEmpty && trimmed.isEmpty then stay ""
  else if conversation.pending.isEmpty && trimmed.head? == some '/' then
    match order trimmed with
    | .help => stay help
    | .docs => stay (catalog.documentation ++ "\n")
    | .state => stay (listing (environment.bindings world))
    | .unknown word => stay ("Unknown command: " ++ word ++ "\n")
    | .quit => ⟨"", none, world⟩
  else
    let (outcome, next, after) := conversation.feed catalog environment line world
    ⟨shown outcome, some next, after⟩

/-- What a run of the console has come to: the text that has been printed, the complaint
with which it has ended, if it has not ended well, and the world. -/
structure Ending where
  printed : String
  complaint : Option String
  world : World

namespace Ending

/-- The same ending, with a text printed before. -/
def behind (ending : Ending) (text : String) : Ending :=
  { ending with printed := text ++ ending.printed }

end Ending

/-- Takes what is typed, one line after the other. -/
def converse (catalog : Catalog Action) (environment : Environment) :
    List Input → Conversation → World → Ending
  | [], conversation, world => ⟨prompt conversation ++ "\n" ++ farewell, none, world⟩
  | .line line :: rest, conversation, world =>
    let answered := answer catalog environment conversation line world
    match answered.next with
    | none => ⟨prompt conversation ++ answered.text ++ farewell, none, answered.world⟩
    | some next =>
      (converse catalog environment rest next answered.world).behind
        (prompt conversation ++ answered.text)
  | .interrupt :: rest, conversation, world =>
    (converse catalog environment rest .start world).behind (prompt conversation ++ "^C\n")
  | .failure complaint :: _, conversation, world =>
    ⟨prompt conversation, some ("Readline error: " ++ complaint), world⟩

/-- Runs the console on everything that is typed. -/
def run (catalog : Catalog Action) (environment : Environment) (inputs : List Input)
    (world : World) : Ending :=
  (converse catalog environment inputs .start world).behind (greeting environment)

end Console

end Workbench
