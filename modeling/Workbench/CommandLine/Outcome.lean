import Workbench.CommandLine.Request
import Workbench.Console
import Workbench.Settings.Load
import Workbench.Tool.Standard
namespace Workbench

/-!
Carrying out the command line: what a run of the program prints on its two streams,
the code it ends with and the files it leaves.
-/

namespace CommandLine

/-- What a run comes to. -/
structure Outcome where
  code : Nat
  output : String
  complaints : String
  tree : Node

/-- The lines of a chain of reasons, numbered from zero. -/
def numberedReasons : Nat → List String → List String
  | _, [] => []
  | number, reason :: rest =>
    ("   " ++ Decimal.write number ++ ": " ++ reason ++ "\n") :: numberedReasons (number + 1) rest

/-- The report of an error with the reasons behind it.  A single reason stands alone,
several are numbered. -/
def errorReport : List String → String
  | [] => ""
  | [message] => "Error: " ++ message ++ "\n"
  | [message, reason] => "Error: " ++ message ++ "\n\nCaused by:\n    " ++ reason ++ "\n"
  | message :: reasons =>
    "Error: " ++ message ++ "\n\nCaused by:\n" ++ String.join (numberedReasons 0 reasons)

def invocationValue (invocation : Invocation) : Json :=
  .object [("name", .text invocation.name), ("args", Json.ofTexts invocation.arguments.entries)]

/-- The complaint about a text that is no command. -/
def notACommand : String := "Not a tool command\n"

/-- A run that can begin: what is to be done, with which tools and where. -/
structure Session where
  level : Level
  text : String
  catalog : Catalog Action
  environment : Environment

namespace Session

/-- Does the session take its text from what comes in?  A single dash asks for it. -/
def readsInput (session : Session) : Bool :=
  session.text == "-"

/-- The text that a command works on. -/
def givenText (session : Session) (input : String) : String :=
  if session.readsInput then input else session.text

/-- Carries out a session. -/
def carryOut (session : Session) (input : String) (tree : Node) : Outcome :=
  let world : World := ⟨tree, Memory.empty⟩
  match session.level with
  | .top => ⟨0, explanation .top ++ "\n", "", tree⟩
  | .docs => ⟨0, session.catalog.documentation ++ "\n", "", tree⟩
  | .parse =>
    match Reading.read session.catalog.find? (session.givenText input) with
    | .ok (some invocation) => ⟨0, (invocationValue invocation).pretty 0 ++ "\n", "", tree⟩
    | .ok none => ⟨2, "", notACommand, tree⟩
    | .error failure => ⟨1, "", errorReport ["Failed to parse command", failure.message], tree⟩
  | .run =>
    match Turn.take session.catalog session.environment (session.givenText input) world with
    | (none, after) => ⟨2, "", notACommand, after.tree⟩
    | (some reply, after) =>
      if reply.isError then ⟨1, "", "Error: " ++ reply.content ++ "\n", after.tree⟩
      else ⟨0, reply.content ++ "\n", "", after.tree⟩
  | .repl =>
    let ending := Console.run session.catalog session.environment
      ((Console.typedLines input).map .line) world
    match ending.complaint with
    | none => ⟨0, ending.printed, "", ending.world.tree⟩
    | some complaint => ⟨1, ending.printed, errorReport [complaint], ending.world.tree⟩

end Session

/-- The text that names the workspace: the one that is given beats the settings. -/
def workspaceText (settings : Settings) (values : List (Flag × String)) : String :=
  (values.lookup .workspace).getD settings.workspace

/-- The paths at which a run may look for its settings. -/
def settingsPaths (host : Host) (values : List (Flag × String)) : List String :=
  match values.lookup .config with
  | some path => [path]
  | none => Settings.fallbacks host.bindings

/-- The names of the variables that matter to a run. -/
def variableNames : List String :=
  ["HOME", "XDG_CONFIG_HOME"] ++ Web.Service.all.map Web.Service.keyVariable

/-- What the arguments of a run lead to: a session, or an outcome at once. -/
def prepare (host : Host) (arguments : List String) (tree : Node) : Except Outcome Session :=
  match read arguments with
  | .error complaint => .error ⟨2, "", complaint.message, tree⟩
  | .ok (.explain text) => .error ⟨0, text, "", tree⟩
  | .ok .tellVersion => .error ⟨0, program ++ " " ++ version ++ "\n", "", tree⟩
  | .ok (.carryOut level text values) =>
    match Settings.load tree host (values.lookup .config) with
    | .error fault =>
      .error ⟨1, "", errorReport ("Failed to load configuration" :: fault.chain), tree⟩
    | .ok settings =>
      match Standard.catalog settings with
      | .error failure =>
        .error ⟨1, "", errorReport ["Failed to build tool registry", failure.message], tree⟩
      | .ok catalog =>
        .ok
          { level := level
            text := text.getD ""
            catalog := catalog
            environment :=
              { host := host
                directory := workspaceText settings values
                store := 0 } }

/-- Runs the program on everything that comes in. -/
def run (host : Host) (arguments : List String) (input : String) (tree : Node) : Outcome :=
  match prepare host arguments tree with
  | .error outcome => outcome
  | .ok session => session.carryOut input tree

end CommandLine

end Workbench
