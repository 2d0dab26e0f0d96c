import Workbench.CommandLine.Grammar
namespace Workbench

/-!
Reading the command line.  Flags may stand before and after the command; the flags
after it win.  A flag takes its value from the same word or from the next one.  After
two dashes nothing is a flag any more.
-/

namespace CommandLine

/-- What the command line asks for. -/
inductive Request where
  | explain (text : String)
  | tellVersion
  /-- A level to carry out, with its text and the values of the flags. -/
  | carryOut (level : Level) (text : Option String) (values : List (Flag × String))

/-- What has been read at one level. -/
structure Progress where
  /-- The flags that count, in order. -/
  flags : List Flag := []
  values : List (Flag × String) := []
  text : Option String := none
  /-- A flag that takes its value from the next argument.  It counts only when
  something else follows the value. -/
  pending : Option (Flag × Option String) := none
  /-- Have the two dashes been passed? -/
  plain : Bool := false

/-- Why reading stops before the end. -/
inductive Stop where
  | complaint (complaint : Complaint)
  | request (request : Request)

namespace Progress

/-- Counts a flag; one may not be given twice. -/
def mark (level : Level) (flag : Flag) (progress : Progress) : Except Stop Progress :=
  if progress.flags.contains flag then .error (.complaint (.repeated level flag))
  else .ok { progress with flags := progress.flags ++ [flag] }

/-- Counts a flag with its value, which may not be empty. -/
def give (level : Level) (flag : Flag) (value : String) (progress : Progress) :
    Except Stop Progress :=
  match mark level flag progress with
  | .error stop => .error stop
  | .ok marked =>
    if value.isEmpty then .error (.complaint (.valueMissing flag))
    else .ok { marked with values := marked.values ++ [(flag, value)] }

/-- Counts the pending flag, which must have its value by now. -/
def settled (level : Level) (progress : Progress) : Except Stop Progress :=
  match progress.pending with
  | none => .ok progress
  | some (flag, none) => .error (.complaint (.valueMissing flag))
  | some (flag, some value) => { progress with pending := none }.give level flag value

/-- The flags that count when a complaint is made, with those that are meant; nothing
if nothing has been given. -/
def given? (level : Level) (meant : List Flag) (progress : Progress) : Option (List Flag) :=
  let counted :=
    match progress.settled level with
    | .ok progress => progress.flags
    | .error _ => progress.flags
  if counted.isEmpty && meant.isEmpty && progress.text.isNone then none
  else some (counted ++ meant)

/-- Is there a flag that waits for the next argument? -/
def isWaiting (progress : Progress) : Bool :=
  match progress.pending with
  | some (_, none) => true
  | _ => false

end Progress

/-- What a flag without a value does. -/
def raise (level : Level) (flag : Flag) (progress : Progress) : Except Stop Progress :=
  match progress.settled level with
  | .error stop => .error stop
  | .ok progress =>
    match flag with
    | .help => .error (.request (.explain (explanation level)))
    | .version => .error (.request .tellVersion)
    | other => progress.mark level other

/-- What a flag with a value does: the value is attached to it, or follows. -/
def assign (level : Level) (flag : Flag) (value : Option String) (progress : Progress) :
    Except Stop Progress :=
  match progress.settled level with
  | .error stop => .error stop
  | .ok progress =>
    match value with
    | some value => progress.give level flag value
    | none => .ok { progress with pending := some (flag, none) }

/-- The hint how to pass something that looks like a flag as a text. -/
def asTextHint? (level : Level) (name : String) : Option String :=
  if level.takesText then
    some ("to pass '" ++ name ++ "' as a value, use '-- " ++ name ++ "'")
  else none

/-- Takes a flag by its long name, with the value that is attached to it. -/
def takeLong (level : Level) (name : String) (value : Option String) (progress : Progress) :
    Except Stop Progress :=
  match level.flags.find? (fun flag => flag.long == name) with
  | none =>
    match (Similarity.suggestions name (level.flags.map Flag.long)).getLast? with
    | some alike =>
      .error (.complaint (.unexpected level ("--" ++ name)
        (some ("a similar argument exists: '--" ++ alike ++ "'"))
        (progress.given? level (level.flags.filter (fun flag => flag.long == alike)))))
    | none =>
      .error (.complaint (.unexpected level ("--" ++ name) (asTextHint? level ("--" ++ name))
        (progress.given? level [])))
  | some flag =>
    if flag.takesValue then assign level flag value progress
    else
      match value with
      | some value => .error (.complaint (.needlessValue level flag value progress.flags))
      | none => raise level flag progress

/-- Takes flags by their short names, written together. -/
def takeShort (level : Level) : List Char → Progress → Except Stop Progress
  | [], progress => .ok progress
  | letter :: rest, progress =>
    match level.flags.find? (fun flag => flag.short == letter) with
    | none =>
      let name := String.ofList ['-', letter]
      .error (.complaint (.unexpected level name (asTextHint? level name) none))
    | some flag =>
      if flag.takesValue then
        match rest with
        | [] => assign level flag none progress
        | '=' :: value => assign level flag (some (String.ofList value)) progress
        | value => assign level flag (some (String.ofList value)) progress
      else
        match raise level flag progress with
        | .error stop => .error stop
        | .ok progress => takeShort level rest progress

/-- Takes a word that is no flag. -/
def takeWord (level : Level) (word : String) (progress : Progress) : Except Stop Progress :=
  if level.takesText && progress.text.isNone then
    match progress.settled level with
    | .error stop => .error stop
    | .ok progress => .ok { progress with text := some word }
  else if level = .top then
    if progress.plain && commandWords.contains word then
      .error (.complaint (.unexpected level word
        (some ("subcommand '" ++ word ++ "' exists; to use it, remove the '--' before it")) none))
    else
      .error (.complaint (.unknownCommand level word (Similarity.suggestions word commandWords)))
  else .error (.complaint (.unexpected level word none none))

/-- Takes one argument that is no command. -/
def take (level : Level) (argument : String) (progress : Progress) : Except Stop Progress :=
  if progress.plain then takeWord level argument progress
  else
    match argument.toList with
    | ['-', '-'] => .ok { progress with plain := true }
    | '-' :: '-' :: rest =>
      match rest.span (· != '=') with
      | (name, []) => takeLong level (String.ofList name) none progress
      | (name, _ :: value) =>
        takeLong level (String.ofList name) (some (String.ofList value)) progress
    | '-' :: letter :: rest => takeShort level (letter :: rest) progress
    | _ =>
      match progress.pending with
      | some (flag, none) => .ok { progress with pending := some (flag, some argument) }
      | _ => takeWord level argument progress

/-- Takes all arguments of a level. -/
def takeAll (level : Level) : List String → Progress → Except Stop Progress
  | [], progress => progress.settled level
  | argument :: rest, progress =>
    match take level argument progress with
    | .error stop => .error stop
    | .ok progress => takeAll level rest progress

/-- The explanation that the words after the explaining command ask for. -/
def explain : List String → Stop
  | [] => .request (.explain (explanation .top))
  | word :: rest =>
    if word = helpWord then
      match rest with
      | [] => .request (.explain helpExplanation)
      | other :: _ => .complaint (.unknownTopic other)
    else
      match Level.commands.find? (fun command => command.word == word) with
      | none => .complaint (.unknownCommand .top word [])
      | some command =>
        match rest with
        | [] => .request (.explain (explanation command))
        | other :: _ => .complaint (.unknownCommand command other [])

/-- Reads the arguments of a command: what has been read, with its text if it takes
one. -/
def readCommand (command : Level) (arguments : List String) : Except Stop Progress :=
  match takeAll command arguments {} with
  | .error stop => .error stop
  | .ok progress =>
    if command.takesText && progress.text.isNone then
      .error (.complaint (.textMissing command progress.flags))
    else .ok progress

/-- Reads a command line from its top level on.  What is wrong with a command is told
before what is wrong in front of it. -/
def readFrom (progress : Progress) : List String → Except Stop Request
  | [] =>
    match progress.settled .top with
    | .error stop => .error stop
    | .ok progress => .ok (.carryOut .top none progress.values)
  | argument :: rest =>
    if progress.plain || progress.isWaiting || !commandWords.contains argument then
      match take .top argument progress with
      | .error stop => .error stop
      | .ok progress => readFrom progress rest
    else
      match Level.commands.find? (fun command => command.word == argument) with
      | none => .error (explain rest)
      | some command =>
        match readCommand command rest with
        | .error stop => .error stop
        | .ok inner =>
          match progress.settled .top with
          | .error stop => .error stop
          | .ok before =>
            .ok (.carryOut command inner.text (inner.values ++ before.values))

/-- Reads a command line. -/
def read (arguments : List String) : Except Complaint Request :=
  match readFrom {} arguments with
  | .ok request => .ok request
  | .error (.request request) => .ok request
  | .error (.complaint complaint) => .error complaint

end CommandLine

end Workbench
