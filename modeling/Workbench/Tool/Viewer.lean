import Workbench.Splice
import Workbench.Window
import Workbench.World
import Workbench.Command.Catalog
namespace Workbench

/-!
The viewer: opening a file, moving its window, creating a file and editing the
open one.  The open file and the first line in sight are two variables of the
workspace, so that each command continues where the last one ended; they change
only together and only when a window is shown.  The path of the open file is
resolved anew each time, because anyone may have put a path there.

The body of each command is written once and leaves open what its arithmetic is.  It hands its end
to one of two continuations: an answer without a window, or a window of a place from a line on.
The commands themselves count with numbers of any size.
-/

namespace Viewer

/-- The variable that holds the path of the open file. -/
def currentFile : String := "CURRENT_FILE"

/-- The variable that holds the first line in sight. -/
def firstLine : String := "FIRST_LINE"

/-- The line that ends the text of an edit. -/
def endOfEdit : String := "end_of_edit"

/-- An outcome that is reported as an error but lets the command end well. -/
def complain (message : String) : Except Failure String :=
  .ok ("Error: " ++ message)

/-- The place of the open file, or the report of why there is none. -/
def openPlace (environment : Environment) (world : World) : Except String Place :=
  match environment.value? world currentFile with
  | none => .error "No file open. Use the open command first."
  | some stored =>
    match environment.resolve stored with
    | .ok place => .ok place
    | .error failure => .error ("Error: " ++ failure.message)

/-- The first line in sight; a variable that holds no number counts as one. -/
def lineInSight (environment : Environment) (world : World) : Nat :=
  match environment.value? world firstLine with
  | none => 1
  | some stored => (Decimal.read? stored.toList).getD 1

/-- The world in which this file is open at this line. -/
def remember (environment : Environment) (world : World) (place : Place) (first : Nat) : World :=
  environment.setVariable (environment.setVariable world currentFile place.text)
    firstLine (Decimal.write first)

def contentOf (environment : Environment) (world : World) (place : Place) :
    Except Cause String :=
  world.tree.readText environment.host.standing place.text

/-- Shows the window of a file at a line, or as near to it as the file allows. -/
def showWindow (settings : WindowSettings) (environment : Environment) (world : World)
    (place : Place) (first : Nat) : Except Failure String × World :=
  match contentOf environment world place with
  | .error cause => (.error (.machine cause), world)
  | .ok content =>
    let lines := Window.linesOf content
    let first := Window.clamp settings lines.length first
    (.ok (Window.render settings (environment.display place) lines first),
      remember environment world place first)

/-- The line that the arguments ask for in a file of so many lines, or the report
of why there is no such line. -/
def requestedLine (arguments : Arguments) (total : Nat) : Except String (Option Nat) :=
  match arguments.number? "line_number" with
  | .error failure => .error ("Error: " ++ failure.message)
  | .ok none => .ok none
  | .ok (some line) =>
    if 1 ≤ line ∧ line ≤ max total 1 then .ok (some line)
    else .error ("Error: line_number must be between 1 and " ++ Decimal.write (max total 1))

section Bodies

variable {Result : Type} (settings : WindowSettings)
  (answer : Except Failure String × World → Result) (window : World → Place → Nat → Result)

def openFileWith (environment : Environment) (arguments : Arguments) (world : World) : Result :=
  match arguments.require "open" "path" with
  | .error failure => answer (.error failure, world)
  | .ok path =>
    match environment.resolve path with
    | .error failure => answer (complain failure.message, world)
    | .ok place =>
      if world.tree.directoryAt environment.host.standing place.text then
        answer (complain (path ++ " is a directory. You can only open files."), world)
      else if !world.tree.fileAt environment.host.standing place.text then
        answer (complain ("File " ++ path ++ " not found"), world)
      else
        match contentOf environment world place with
        | .error cause => answer (.error (.machine cause), world)
        | .ok content =>
          match requestedLine arguments (Window.linesOf content).length with
          | .error report => answer (.ok report, world)
          | .ok none => window world place 1
          | .ok (some line) => window world place (Window.centered settings line)

def goToLineWith (environment : Environment) (arguments : Arguments) (world : World) : Result :=
  match openPlace environment world with
  | .error report => answer (.ok report, world)
  | .ok place =>
    match contentOf environment world place with
    | .error cause => answer (.error (.machine cause), world)
    | .ok content =>
      match requestedLine arguments (Window.linesOf content).length with
      | .error report => answer (.ok report, world)
      | .ok none => answer (.error (.missingArgument "goto" "line_number"), world)
      | .ok (some line) => window world place (Window.centered settings line)

/-- Moves the window to the line that `target` makes of the line in sight. -/
def scrollWith (target : Nat → (Nat → Result) → Result) (environment : Environment)
    (world : World) : Result :=
  match openPlace environment world with
  | .error report => answer (.ok report, world)
  | .ok place => target (lineInSight environment world) (window world place)

/-- Creates an empty file, with the directories above it, and opens it. -/
def createWith (environment : Environment) (arguments : Arguments) (world : World) : Result :=
  match arguments.require "create" "filename" with
  | .error failure => answer (.error failure, world)
  | .ok name =>
    match environment.resolve name with
    | .error failure => answer (complain failure.message, world)
    | .ok place =>
      let standing := environment.host.standing
      if world.tree.existsAt standing place.text then
        answer (complain ("File '" ++ name ++ "' already exists."), world)
      else
        match world.tree.makeAbove standing place with
        | (.error cause, tree) => answer (.error (.machine cause), { world with tree := tree })
        | (.ok _, tree) =>
          match tree.writeText standing place.text "" with
          | .error cause => answer (.error (.machine cause), { world with tree := tree })
          | .ok changed => window { world with tree := changed } place 1

end Bodies

/-- Opens a file. -/
def openFile (settings : WindowSettings) : Action := fun environment arguments world =>
  openFileWith settings (fun outcome => outcome) (showWindow settings environment) environment
    arguments world

/-- Moves the window of the open file. -/
def goToLine (settings : WindowSettings) : Action := fun environment arguments world =>
  goToLineWith settings (fun outcome => outcome) (showWindow settings environment) environment
    arguments world

/-- The two ways to scroll. -/
inductive Direction where
  | up
  | down
  deriving DecidableEq, Repr

namespace Direction

def word : Direction → String
  | up => "up"
  | down => "down"

/-- The line that a scroll asks for, in numbers of any size.  A process whose words are bounded
gives up where this would leave them, and does nothing else otherwise; that is shown of every
command where the guarded tools are. -/
def target (direction : Direction) (step line : Nat) : Nat :=
  match direction with
  | up => max (line - step) 1
  | down => line + step

end Direction

/-- Moves the window of the open file by a step. -/
def scroll (settings : WindowSettings) (direction : Direction) : Action :=
  fun environment _ world =>
    scrollWith (fun outcome => outcome) (showWindow settings environment)
      (fun line go => go (direction.target settings.step line)) environment world

def create (settings : WindowSettings) : Action := fun environment arguments world =>
  createWith (fun outcome => outcome) (showWindow settings environment) environment arguments world

/-- The report of a range that is turned down. -/
def faultReport : Splice.Fault → String
  | .startOutside total =>
    "start_line must be between 1 and " ++ Decimal.write (total + 1)
  | .stopBeforeStart start stop =>
    "end_line (" ++ Decimal.write stop ++ ") must be greater than or equal to start_line (" ++
      Decimal.write start ++ ")"

/-- A bound of an edit, which must be given. -/
def bound (arguments : Arguments) (name : String) : Except Failure Nat :=
  match arguments.number? name with
  | .error failure => .error failure
  | .ok none => .error (.missingArgument "edit" name)
  | .ok (some value) => .ok value

/-- Replaces a range of lines of the open file.  `fault` looks for a fault of the range, and
`splice` replaces it. -/
def editWith {Result : Type} (settings : WindowSettings)
    (answer : Except Failure String × World → Result) (window : World → Place → Nat → Result)
    (fault : Nat → Nat → Nat → (Option Splice.Fault → Result) → Result)
    (splice : Nat → Nat → List Char → List Char → (List Char → Result) → Result)
    (environment : Environment) (arguments : Arguments) (world : World) : Result :=
  match openPlace environment world with
  | .error report => answer (.ok report, world)
  | .ok place =>
    match bound arguments "start_line" with
    | .error failure => answer (.error failure, world)
    | .ok start =>
      match bound arguments "end_line" with
      | .error failure => answer (.error failure, world)
      | .ok stop =>
        match contentOf environment world place with
        | .error cause => answer (.error (.machine cause), world)
        | .ok text =>
          fault (Window.linesOf text).length start stop fun fault? =>
            match fault? with
            | some found => answer (complain (faultReport found), world)
            | none =>
              let content := (arguments.get? "content").getD ""
              splice start stop content.toList text.toList fun changed =>
                match world.tree.writeText environment.host.standing place.text
                    (String.ofList changed) with
                | .error cause => answer (.error (.machine cause), world)
                | .ok tree =>
                  window { world with tree := tree } place (Window.centered settings start)

def edit (settings : WindowSettings) : Action := fun environment arguments world =>
  editWith settings (fun outcome => outcome) (showWindow settings environment)
    (fun total start stop go => go (Splice.fault? total start stop))
    (fun start stop content text go => go (Splice.apply start stop content text)) environment
    arguments world

def openDefinition : Definition where
  name := "open"
  signature := "open <path> [<line_number>]"
  summary := "opens the file at the given path in the editor. If line_number is provided, " ++
    "the window will be moved to include that line"
  parameters :=
    [⟨"path", "string", "the path to the file to open", true⟩,
      ⟨"line_number", "integer", "the line number to move the window to (if not provided, " ++
        "the window will start at the top of the file)", false⟩]
  endMark := none

def goToDefinition : Definition where
  name := "goto"
  signature := "goto <line_number>"
  summary := "moves the window to show <line_number>"
  parameters := [⟨"line_number", "integer", "the line number to move the window to", true⟩]
  endMark := none

def scrollDefinition (settings : WindowSettings) (direction : Direction) : Definition where
  name := "scroll_" ++ direction.word
  signature := "scroll_" ++ direction.word
  summary := "moves the window " ++ direction.word ++ " " ++ Decimal.write settings.step ++ " lines"
  parameters := []
  endMark := none

def createDefinition : Definition where
  name := "create"
  signature := "create <filename>"
  summary := "creates and opens a new file with the given name"
  parameters := [⟨"filename", "string", "the name of the file to create", true⟩]
  endMark := none

def editDefinition : Definition where
  name := "edit"
  signature := "edit <start_line>:<end_line>"
  summary := "replaces lines <start_line> through <end_line> (inclusive) with the given text " ++
    "in the open file. The replacement text goes on the lines after the command and is " ++
    "terminated by a line with only " ++ endOfEdit ++ " on it"
  parameters :=
    [⟨"start_line", "integer", "the line number to start the edit at", true⟩,
      ⟨"end_line", "integer", "the line number to end the edit at (inclusive)", true⟩,
      ⟨"content", "string", "the text to replace the current selection with", true⟩]
  endMark := some endOfEdit

def tools (settings : WindowSettings) : List (Tool Action) :=
  [⟨openDefinition, openFile settings⟩,
    ⟨goToDefinition, goToLine settings⟩,
    ⟨scrollDefinition settings .down, scroll settings .down⟩,
    ⟨scrollDefinition settings .up, scroll settings .up⟩,
    ⟨createDefinition, create settings⟩,
    ⟨editDefinition, edit settings⟩]

end Viewer

end Workbench
