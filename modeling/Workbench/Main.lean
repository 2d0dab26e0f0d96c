import Workbench.CommandLine.Outcome
import Workbench.Machine.Program
import Workbench.Tree.Walk
namespace Workbench

/-!
The program.  It loads the files that a run can reach, lets the command line be
carried out on them, and writes back what has changed; in the console it does so
line by line.  No decision is made here.  There is no way to a network, and programs
run on the small machine of this library.  Links are loaded with the places that they
finally lead to.  Directories are listed here with names that are texts, so one with a
name that is not UTF-8 is not loaded.
-/

namespace Disk

/-- Loads what is at a path: a directory with everything below it, a link, or a
regular file.  A file that opens like a script counts as a program. -/
partial def read? (path : String) : IO (Option Node) := do
  let found ← (do
    let place ← IO.FS.realPath path
    let kind := (← place.metadata).type
    pure (some (place, kind))) <|> pure none
  match found with
  | some (place, IO.FS.FileType.dir) =>
    let mut members : List (String × Node) := []
    for entry in ← place.readDir do
      let below := path ++ "/" ++ entry.fileName
      let kind? ← (do pure (some (← entry.path.symlinkMetadata).type)) <|> pure none
      let node? ←
        match kind? with
        | none => pure none
        | some IO.FS.FileType.symlink =>
          (do pure (some (Node.link (← IO.FS.realPath below).toString))) <|> pure none
        | some _ => read? below
      match node? with
      | some node => members := Entry.insert entry.fileName node members
      | none => pure ()
    return some (.directory members)
  | some (_, IO.FS.FileType.file) =>
    let content ← IO.FS.readBinFile path
    return some (.file content (content.toList.take 2 == "#!".toUTF8.toList))
  | _ => return none

/-- Loads what is at a place into a tree. -/
def load (place : Place) (tree : Node) : IO Node := do
  let above := (place.parent?.map Place.names).getD []
  let ready := (tree.makeDirectories [] ⟨true, above⟩).2
  match ← read? place.text with
  | some node => return ready.set node place.names
  | none => return ready

/-- Writes back one difference; links stay as they are. -/
def write (path : String) : Option Node.Mark → IO Unit
  | some .directory => IO.FS.createDirAll path
  | some (.file content) => IO.FS.writeBinFile path content
  | some (.link _) => pure ()
  | none => if path.endsWith "/" then IO.FS.removeDirAll path else IO.FS.removeFile path

/-- Writes back all differences between two trees. -/
def writeChanges (before after : Node) : IO Unit := do
  for (path, mark) in before.changes after do
    write ("/" ++ path) mark <|> pure ()

/-- Loads the files that a run can reach: its settings and its workspace. -/
def reach (host : Host) (arguments : List String) : IO Node := do
  let start := (Node.emptyDirectory.makeDirectories [] ⟨true, host.standing⟩).2
  match CommandLine.read arguments with
  | .ok (.carryOut _ _ values) =>
    let places := (CommandLine.settingsPaths host values).map (Workspace.root host.standing)
    let tree ← places.foldlM (fun tree place => load place tree) start
    match Settings.load tree host (values.lookup .config) with
    | .ok settings =>
      load (Workspace.root host.standing (CommandLine.workspaceText settings values)) tree
    | .error _ => return tree
  | _ => return start

/-- The variables of the process that matter to a run. -/
def bindings : IO (List (String × String)) := do
  let mut found : List (String × String) := []
  for name in CommandLine.variableNames do
    match ← IO.getEnv name with
    | some value => found := found ++ [(name, value)]
    | none => pure ()
  return found

end Disk

namespace Console

/-- Talks to someone who types, one line at a time.  An interrupt ends the process here, before it
becomes an input of the console. -/
partial def talk (session : CommandLine.Session) (conversation : Conversation) (world : World) :
    IO Unit := do
  let output ← IO.getStdout
  output.putStr (prompt conversation)
  output.flush
  let line ← (← IO.getStdin).getLine
  match typedLines line with
  | [] => output.putStr ("\n" ++ farewell)
  | typed :: _ =>
    let answered := answer session.catalog session.environment conversation typed world
    Disk.writeChanges world.tree answered.world.tree
    output.putStr answered.text
    match answered.next with
    | some next => talk session next answered.world
    | none => output.putStr farewell

end Console

namespace CommandLine

/-- Prints what a run has come to, and writes back what it has changed. -/
def conclude (before : Node) (outcome : Outcome) : IO UInt32 := do
  Disk.writeChanges before outcome.tree
  IO.print outcome.output
  IO.eprint outcome.complaints
  return outcome.code.toUInt32

/-- Carries out a session with what comes in, if it looks at that. -/
def perform (session : Session) (tree : Node) : IO UInt32 := do
  if session.level = .repl then
    IO.print (Console.greeting session.environment)
    Console.talk session Conversation.start ⟨tree, Memory.empty⟩
    return 0
  else
    let input ← if session.readsInput then (do (← IO.getStdin).readToEnd) else pure ""
    conclude tree (session.carryOut input tree)

end CommandLine

end Workbench

open Workbench in
/-- Runs the command line on the files of the machine. -/
def main (arguments : List String) : IO UInt32 := do
  let bindings ← Disk.bindings
  let standing := (Place.ofPath (← IO.currentDir).toString).names
  let host : Host :=
    { standing := standing
      bindings := bindings
      fetch := fun _ => .unreachable
      launch := Machine.launch bindings standing }
  let tree ← Disk.reach host arguments
  match CommandLine.prepare host arguments tree with
  | .error outcome => CommandLine.conclude tree outcome
  | .ok session => CommandLine.perform session tree
