import Workbench.Text.Similarity
namespace Workbench

/-!
The words of the command line: its flags, its commands, and the texts that explain
them.
-/

namespace CommandLine

def program : String := "tc"

def version : String := "0.1.0"

inductive Flag where
  | config
  | verbose
  | workspace
  | help
  | version
  deriving DecidableEq, Repr

namespace Flag

def long : Flag → String
  | config => "config"
  | verbose => "verbose"
  | workspace => "workspace"
  | help => "help"
  | version => "version"

def short : Flag → Char
  | config => 'c'
  | verbose => 'v'
  | workspace => 'w'
  | help => 'h'
  | version => 'V'

/-- The word for the value of a flag, if it takes one. -/
def valueName? : Flag → Option String
  | config => some "CONFIG"
  | workspace => some "WORKSPACE"
  | _ => none

def takesValue (flag : Flag) : Bool :=
  flag.valueName?.isSome

/-- A flag as messages show it. -/
def shown (flag : Flag) : String :=
  match flag.valueName? with
  | some name => "--" ++ flag.long ++ " <" ++ name ++ ">"
  | none => "--" ++ flag.long

/-- The flags that hold for all commands. -/
def general : List Flag :=
  [config, verbose, workspace]

def summary : Flag → String
  | config => "Path to config file"
  | verbose => "Enable verbose output"
  | workspace => "Workspace root all tools are confined to"
  | help => "Print help"
  | version => "Print version"

end Flag

/-- The levels of the command line: the program itself and its commands. -/
inductive Level where
  | top
  | docs
  | parse
  | run
  | repl
  deriving DecidableEq, Repr

namespace Level

def commands : List Level :=
  [docs, parse, run, repl]

def word : Level → String
  | top => program
  | docs => "docs"
  | parse => "parse"
  | run => "run"
  | repl => "repl"

def summary : Level → String
  | top => "Parse and run plain-text agent tool commands"
  | docs => "Print the tool catalog documentation"
  | parse => "Parse a command and print the resolved invocation as JSON"
  | run => "Parse and execute a single command"
  | repl => "Read commands interactively"

def takesText : Level → Bool
  | parse => true
  | run => true
  | _ => false

/-- The words that lead to a level. -/
def path (level : Level) : String :=
  match level with
  | top => program
  | other => program ++ " " ++ other.word

/-- The flags of a level; only the top one tells the version. -/
def flags : Level → List Flag
  | top => [.config, .verbose, .workspace, .help, .version]
  | _ => [.config, .verbose, .workspace, .help]

end Level

def helpWord : String := "help"

def helpSummary : String :=
  "Print this message or the help of the given subcommand(s)"

/-- All words that name a command. -/
def commandWords : List String :=
  Level.commands.map Level.word ++ [helpWord]

/-- Flags in a line of usage: those that were given and others that are meant.  At the
top level the general flags are one choice as soon as one of them was given. -/
def flagUsage (level : Level) (given meant : List Flag) : String :=
  let together := level = .top && given.any Flag.general.contains
  let single := (given ++ meant).eraseDups.filter (fun flag =>
    !(together && Flag.general.contains flag))
  String.join (single.map (fun flag => " " ++ flag.shown)) ++
    (if together then " <" ++ String.intercalate "|" (Flag.general.map Flag.shown) ++ ">" else "")

/-- The text that a level takes, as usage shows it. -/
def operand (level : Level) : String :=
  if level.takesText then " <COMMAND>" else ""

/-- How a level is used. -/
def usage (level : Level) : String :=
  "Usage: " ++ level.path ++ " [OPTIONS]" ++ operand level ++
    (if level = .top then " [COMMAND]" else "")

/-- How a level is used with the flags that were given and others that are meant. -/
def usageWith (level : Level) (given meant : List Flag) : String :=
  "Usage: " ++ level.path ++ flagUsage level given meant ++ operand level

/-- A text with blanks up to a width. -/
def padded (width : Nat) (text : String) : String :=
  text ++ String.ofList (List.replicate (width - text.toList.length) ' ')

/-- The lines that explain words, in two columns. -/
def columns (entries : List (String × String)) : String :=
  let width := (entries.map (fun entry => entry.1.toList.length)).foldl max 0
  String.join (entries.map (fun entry =>
    "  " ++ padded width entry.1 ++ "  " ++ entry.2 ++ "\n"))

/-- A flag as the explanation shows it. -/
def flagColumn (flag : Flag) : String × String :=
  (String.ofList ['-', flag.short, ',', ' '] ++ flag.shown, flag.summary)

/-- The explanation of a level. -/
def explanation (level : Level) : String :=
  let commands :=
    if level = .top then
      "Commands:\n" ++
        columns (Level.commands.map (fun command => (command.word, command.summary)) ++
          [(helpWord, helpSummary)]) ++ "\n"
    else ""
  let text :=
    if level.takesText then
      "Arguments:\n" ++ columns [("<COMMAND>", "Command text; `-` reads it from stdin")] ++ "\n"
    else ""
  let closing :=
    if level = .top then "\nLogs are written to: ~/.local/share/toolcmd/logs/toolcmd.log\n" else ""
  level.summary ++ "\n\n" ++ usage level ++ "\n\n" ++ commands ++ text ++ "Options:\n" ++
    columns (level.flags.map flagColumn) ++ closing

def helpUsage : String :=
  "Usage: " ++ program ++ " " ++ helpWord ++ " [COMMAND]..."

def helpExplanation : String :=
  helpSummary ++ "\n\n" ++ helpUsage ++ "\n\nArguments:\n" ++
    columns [("[COMMAND]...", "Print help for the subcommand(s)")]

/-- What is wrong with a command line. -/
inductive Complaint where
  /-- An argument that means nothing at this level, with a hint, and the flags that
  were given if the usage is to show them. -/
  | unexpected (level : Level) (argument : String) (hint : Option String)
      (given : Option (List Flag))
  | unknownCommand (level : Level) (word : String) (alike : List String)
  /-- A word to explain below the explaining command itself. -/
  | unknownTopic (word : String)
  | valueMissing (flag : Flag)
  | repeated (level : Level) (flag : Flag)
  | needlessValue (level : Level) (flag : Flag) (value : String) (flags : List Flag)
  | textMissing (level : Level) (flags : List Flag)
  deriving DecidableEq, Repr

namespace Complaint

def quoted (text : String) : String :=
  "'" ++ text ++ "'"

/-- A hint, set off from the message. -/
def tip (text : String) : String :=
  "\n\n  tip: " ++ text

/-- The wording of a complaint without its frame. -/
def body : Complaint → String
  | unexpected level argument hint given =>
    "unexpected argument " ++ quoted argument ++ " found" ++ (hint.map tip).getD "" ++ "\n\n" ++
      (match given with
        | none => usage level
        | some flags => usageWith level flags [])
  | unknownCommand level word alike =>
    let hint :=
      match alike with
      | [] => ""
      | [single] => tip ("a similar subcommand exists: " ++ quoted single)
      | several =>
        tip ("some similar subcommands exist: " ++ String.intercalate ", " (several.map quoted))
    "unrecognized subcommand " ++ quoted word ++ hint ++ "\n\n" ++ usage level
  | unknownTopic word => "unrecognized subcommand " ++ quoted word ++ "\n\n" ++ helpUsage
  | valueMissing flag =>
    "a value is required for " ++ quoted flag.shown ++ " but none was supplied"
  | repeated level flag =>
    "the argument " ++ quoted flag.shown ++ " cannot be used multiple times\n\n" ++
      usage level
  | needlessValue level flag value flags =>
    "unexpected value " ++ quoted value ++ " for " ++ quoted flag.shown ++
      " found; no more were expected\n\n" ++ usageWith level flags [flag]
  | textMissing level flags =>
    "the following required arguments were not provided:\n  <COMMAND>\n\n" ++
      usageWith level flags []

/-- Where to read on.  The explaining command has no explanation that a flag asks for. -/
def pointer : Complaint → String
  | unknownTopic _ => ""
  | _ => "\n\nFor more information, try '--help'."

/-- The wording of a complaint. -/
def message (complaint : Complaint) : String :=
  "error: " ++ complaint.body ++ complaint.pointer ++ "\n"

end Complaint

end CommandLine

end Workbench
