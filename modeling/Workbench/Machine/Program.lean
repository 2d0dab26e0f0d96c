import Workbench.Machine.Script
import Workbench.Text.Blank
import Workbench.Tree.Name
import Workbench.World
namespace Workbench

/-!
Programs of the machine below: a few small ones that every machine has, and
scripts that are made of them.  A program gets words, prints on two streams, may
change files and ends with a code or by a signal.

A word is a sequence of bytes and is held as a name is.  A word that is not UTF-8 can
name a node of the directory in which the script runs.
-/

namespace Program

/-- How a program prints and ends. -/
structure Printed where
  output : List UInt8 := []
  complaints : List UInt8 := []
  status : Nat := 0

def bytesOf (text : String) : List UInt8 :=
  Name.bytes text

/-- The value of up to three octal digits, and what follows them. -/
def octal : Nat → Nat → List Char → Nat × List Char
  | 0, value, rest => (value, rest)
  | left + 1, value, first :: rest =>
    if '0' ≤ first ∧ first ≤ '7' then octal left (8 * value + (first.toNat - '0'.toNat)) rest
    else (value, first :: rest)
  | _, value, [] => (value, [])

/-- The character that a letter after a backslash stands for. -/
def control? (letter : Char) : Option UInt8 :=
  ([('a', 7), ('b', 8), ('f', 12), ('n', 10), ('r', 13), ('t', 9), ('v', 11), ('\\', 92)] :
    List (Char × UInt8)).lookup letter

/-- A text with its backslashes read; the flag tells whether the text asks to stop
there.  With `zero`, octal numbers need a zero in front.  `fuel` bounds the number
of steps. -/
def unescape (zero : Bool) : Nat → List Char → List UInt8 × Bool
  | 0, _ => ([], false)
  | _, [] => ([], false)
  | fuel + 1, '\\' :: 'c' :: rest =>
    if zero then ([], true)
    else
      let (bytes, stop) := unescape zero fuel rest
      (bytesOf "\\c" ++ bytes, stop)
  | fuel + 1, '\\' :: letter :: rest =>
    match control? letter with
    | some byte =>
      let (bytes, stop) := unescape zero fuel rest
      (byte :: bytes, stop)
    | none =>
      if letter.isDigit && (!zero || letter == '0') && letter ≤ '7' then
        let (value, behind) :=
          if zero then octal 3 0 rest else octal 3 0 (letter :: rest)
        let (bytes, stop) := unescape zero fuel behind
        (UInt8.ofNat value :: bytes, stop)
      else
        let (bytes, stop) := unescape zero fuel rest
        (bytesOf (String.ofList ['\\', letter]) ++ bytes, stop)
  | fuel + 1, first :: rest =>
    let (bytes, stop) := unescape zero fuel rest
    (bytesOf (String.ofList [first]) ++ bytes, stop)

/-- Prints words with spaces between them; within a script backslashes are
read. -/
def echo (inScript : Bool) (words : List String) : Printed :=
  let (words, feed) :=
    match words with
    | "-n" :: rest => (rest, false)
    | other => (other, true)
  let text := String.intercalate " " words
  let (bytes, stop) :=
    if inScript then unescape true text.toList.length text.toList else (bytesOf text, false)
  { output := bytes ++ (if feed && !stop then [10] else []) }

/-- Prints the words once through a format; gives what is printed, the words that
are left and whether the format takes words. -/
def formatOnce : Nat → List Char → List String → List UInt8 × List String × Bool
  | 0, _, words => ([], words, false)
  | _, [], words => ([], words, false)
  | fuel + 1, '%' :: '%' :: rest, words =>
    let (bytes, left, takes) := formatOnce fuel rest words
    (37 :: bytes, left, takes)
  | fuel + 1, '%' :: kind :: rest, words =>
    let word := words.headD ""
    let shown :=
      if kind == 'd' || kind == 'i' || kind == 'u' then
        bytesOf (if word.isEmpty then "0" else word)
      else if kind == 'c' then bytesOf (String.ofList (word.toList.take 1))
      else if kind == 'b' then (unescape true word.toList.length word.toList).1
      else bytesOf word
    let (bytes, left, _) := formatOnce fuel rest (words.drop 1)
    (shown ++ bytes, left, true)
  | fuel + 1, '\\' :: letter :: rest, words =>
    match control? letter with
    | some byte =>
      let (bytes, left, takes) := formatOnce fuel rest words
      (byte :: bytes, left, takes)
    | none =>
      if '0' ≤ letter ∧ letter ≤ '7' then
        let (value, behind) := octal 3 0 (letter :: rest)
        let (bytes, left, takes) := formatOnce fuel behind words
        (UInt8.ofNat value :: bytes, left, takes)
      else
        let (bytes, left, takes) := formatOnce fuel rest words
        (bytesOf (String.ofList ['\\', letter]) ++ bytes, left, takes)
  | fuel + 1, first :: rest, words =>
    let (bytes, left, takes) := formatOnce fuel rest words
    (bytesOf (String.ofList [first]) ++ bytes, left, takes)

/-- Prints words through a format, again and again while words are left. -/
def formatAll : Nat → List Char → List String → List UInt8
  | 0, _, _ => []
  | fuel + 1, format, words =>
    let (bytes, left, takes) := formatOnce (format.length + 1) format words
    if takes && !left.isEmpty then bytes ++ formatAll fuel format left else bytes

/-- Prints files one after the other. -/
def concatenate (tree : Node) (standing : List String) : List String → Printed
  | [] => {}
  | name :: rest =>
    let others := concatenate tree standing rest
    match tree.readBytes standing name with
    | .ok content => { others with output := content.data.toList ++ others.output }
    | .error cause =>
      let reason := String.ofList (cause.message.toList.takeWhile (· != '('))
      { others with
        complaints := bytesOf ("cat: " ++ name ++ ": " ++
          String.ofList (Workbench.Text.trimEnd reason.toList) ++ "\n") ++ others.complaints
        status := 1 }

/-- A number of seconds, with up to three decimals, in milliseconds. -/
def milliseconds? (text : String) : Option Nat :=
  match text.toList.span (· != '.') with
  | (whole, []) => (Decimal.read? whole).map (1000 * ·)
  | (whole, _ :: part) =>
    let digits := (part ++ ['0', '0', '0']).take 3
    match Decimal.read? (if whole.isEmpty then ['0'] else whole), Decimal.read? digits with
    | some seconds, some thousandths => some (1000 * seconds + thousandths)
    | _, _ => none

end Program

/-- A running script. -/
structure Shell where
  /-- The name under which the script was started. -/
  name : String
  arguments : List String
  bindings : List (String × String)
  standing : List String
  tree : Node
  output : List UInt8 := []
  complaints : List UInt8 := []
  status : Nat := 0
  elapsed : Nat := 0
  /-- Set once the script has ended; a signal leaves no code. -/
  ended : Option (Option Nat) := none

namespace Shell

open Script

/-- The number under which a script runs. -/
def processNumber : String := "1000"

/-- The value of a parameter that is one text. -/
def value (shell : Shell) : Script.Reference → String
  | .argument 0 => shell.name
  | .argument (index + 1) => (shell.arguments[index]?).getD ""
  | .allArguments => String.intercalate " " shell.arguments
  | .joinedArguments => String.intercalate " " shell.arguments
  | .argumentCount => Decimal.write shell.arguments.length
  | .status => Decimal.write shell.status
  | .processNumber => processNumber
  | .variable "PWD" => Place.text ⟨true, shell.standing⟩
  | .variable name => (shell.bindings.lookup name).getD ""

/-- Adds a text to the word that is being built; words stand last first. -/
def addText (words : List String) (started : Bool) (text : String) : List String :=
  match started, words with
  | true, last :: others => (last ++ text) :: others
  | _, _ => text :: words

/-- Adds several words, the first of them to the one that is being built. -/
def addWords (words : List String) (started : Bool) : List String → List String
  | [] => words
  | first :: rest => rest.reverse ++ addText words started first

/-- The words that a word of a script comes to, last first. -/
def expandFrom (shell : Shell) : List Piece → List String → Bool → List String
  | [], words, _ => words
  | .text text :: rest, words, started => expandFrom shell rest (addText words started text) true
  | .expansion .allArguments _ :: rest, words, started =>
    expandFrom shell rest (addWords words started shell.arguments)
      (started || !shell.arguments.isEmpty)
  | .expansion parameter true :: rest, words, started =>
    expandFrom shell rest (addText words started (shell.value parameter)) true
  | .expansion parameter false :: rest, words, started =>
    let parts := ((shell.value parameter).splitToList
      (fun character => character == ' ' || character == '\t' || character == '\n')).filter
        (fun part => !part.isEmpty)
    expandFrom shell rest (addWords words started parts) (started || !parts.isEmpty)

/-- The words that the words of a command come to. -/
def expand (shell : Shell) (words : List (List Piece)) : List String :=
  words.flatMap (fun pieces =>
    match pieces with
    | [.text "", .expansion .allArguments true] => shell.arguments
    | other => (expandFrom shell other [] false).reverse)

/-- The spot that a word names, with a last link not followed. -/
def spot (shell : Shell) (word : String) : Except Cause Spot :=
  if Name.isText word then shell.tree.locate shell.standing false word
  else
    let names := shell.standing ++ [word]
    .ok ⟨names, shell.tree.get? names⟩

/-- Gives a variable the first line of an input; it fails if the input ends there. -/
def readLine (shell : Shell) (key : String) (input : List UInt8) : Program.Printed × Shell :=
  let (line, behind) := input.span (· != 10)
  ({ status := if behind.isEmpty then 1 else 0 },
    { shell with bindings := (key, Name.ofBytes line) :: shell.bindings })

/-- Gives a node another name. -/
def rename (shell : Shell) (source target : String) : Program.Printed × Shell :=
  match shell.spot source, shell.spot target with
  | .ok ⟨old, some node⟩, .ok ⟨new, _⟩ =>
    ({}, { shell with tree := (shell.tree.remove old).set node new })
  | _, _ => ({ status := 1 }, shell)

/-- Runs one of the machine's small programs; an unknown one gives `none`. -/
def runNamed (shell : Shell) (patience : Nat) (input : List UInt8) (name : String)
    (words : List String) : Option (Program.Printed × Shell) :=
  match name, words with
  | "true", _ => some ({}, shell)
  | ":", _ => some ({}, shell)
  | "false", _ => some ({ status := 1 }, shell)
  | "echo", words => some (Program.echo true words, shell)
  | "printf", format :: words =>
    some ({ output := Program.formatAll (words.length + 1) format.toList words }, shell)
  | "pwd", _ =>
    some ({ output := Program.bytesOf (Place.text ⟨true, shell.standing⟩ ++ "\n") }, shell)
  | "cat", names => some (Program.concatenate shell.tree shell.standing names, shell)
  | "exit", [] => some ({}, { shell with ended := some (some shell.status) })
  | "exit", code :: _ =>
    some ({}, { shell with ended := some (some (((Decimal.read? code.toList).getD 2) % 256)) })
  | "kill", words =>
    if words.getLast? == some processNumber then some ({}, { shell with ended := some none })
    else some ({ status := 1 }, shell)
  | "sleep", length :: _ =>
    match Program.milliseconds? length with
    | none => some ({ status := 1 }, shell)
    | some duration =>
      let elapsed := shell.elapsed + duration
      some ({}, { shell with
        elapsed := elapsed, ended := if patience ≤ elapsed then some none else shell.ended })
  | "touch", names =>
    some ({}, { shell with
      tree := names.foldl (fun tree name =>
        if tree.existsAt shell.standing name then tree
        else
          match tree.writeText shell.standing name "" with
          | .ok changed => changed
          | .error _ => tree) shell.tree })
  | "mkdir", names =>
    some ({}, { shell with
      tree := names.foldl (fun tree name =>
        match tree.makeDirectory shell.standing name with
        | .ok changed => changed
        | .error _ => tree) shell.tree })
  | "rm", names =>
    some ({}, { shell with
      tree := names.foldl (fun tree name =>
        match ({ shell with tree := tree }).spot name with
        | .ok spot => tree.remove spot.names
        | .error _ => tree) shell.tree })
  | "mv", [source, target] => some (shell.rename source target)
  | "read", [key] => some (shell.readLine key input)
  | _, _ => none

/-- Where the two streams go after the redirections of a command. -/
def streams (sinks : List (Nat × Sink)) : Sink × Sink :=
  (sinks.filter (fun entry => entry.1 != 0)).foldl (fun (output, complaints) (stream, sink) =>
    let target :=
      match sink with
      | .stream 1 => output
      | .stream 2 => complaints
      | other => other
    if stream = 2 then (output, target) else (target, complaints))
    (.stream 1, .stream 2)

/-- Sends bytes to where a stream goes. -/
def send (shell : Shell) (sink : Sink) (bytes : List UInt8) : Shell :=
  match sink with
  | .stream 2 => { shell with complaints := shell.complaints ++ bytes }
  | .stream _ => { shell with output := shell.output ++ bytes }
  | .file append pieces =>
    let name := String.intercalate " " (shell.expand [pieces])
    if name == "/dev/null" then shell
    else
      let old :=
        if append then
          match shell.tree.readBytes shell.standing name with
          | .ok content => content.data.toList
          | .error _ => []
        else []
      match shell.tree.writeBytes shell.standing name ⟨(old ++ bytes).toArray⟩ with
      | .ok tree => { shell with tree := tree }
      | .error _ => shell

/-- What a command reads after its redirections. -/
def inputOf (shell : Shell) (sinks : List (Nat × Sink)) : List UInt8 :=
  match sinks.lookup 0 with
  | some (.file _ pieces) =>
    match shell.tree.readBytes shell.standing (String.intercalate " " (shell.expand [pieces])) with
    | .ok content => content.data.toList
    | .error _ => []
  | _ => []

/-- Is this command due after the status of the one before it? -/
def isDue (shell : Shell) : Joint → Bool
  | .always => true
  | .onSuccess => shell.status == 0
  | .onFailure => shell.status != 0

/-- The name and the value of an assignment. -/
def assignment? (word : String) : Option (String × String) :=
  match word.toList.span isNameCharacter with
  | (name, '=' :: value) =>
    if name.isEmpty then none else some (String.ofList name, String.ofList value)
  | _ => none

/-- Runs one command. -/
def step (patience : Nat) (shell : Shell) (command : Simple) : Shell :=
  if shell.ended.isSome || !shell.isDue command.joint then shell
  else
    let (output, complaints) := streams command.sinks
    match shell.expand command.words with
    | [] => if command.sinks.isEmpty then shell else shell.send output []
    | name :: words =>
      match assignment? name with
      | some (key, value) =>
        { shell with bindings := (key, value) :: shell.bindings, status := 0 }
      | none =>
        match shell.runNamed patience (shell.inputOf command.sinks) name words with
        | some (printed, after) =>
          let sent := (after.send output printed.output).send complaints printed.complaints
          { sent with status := printed.status }
        | none =>
          let message := shell.name ++ ": " ++ Decimal.write command.line ++ ": " ++ name ++
            ": not found\n"
          { shell.send complaints (Program.bytesOf message) with status := 127 }

/-- What a script leaves behind. -/
def finish (shell : Shell) : Finished × Node :=
  (⟨(shell.ended).getD (some shell.status), ⟨shell.output.toArray⟩, ⟨shell.complaints.toArray⟩,
    shell.elapsed⟩, shell.tree)

def run (shell : Shell) (patience : Nat) (script : String) : Finished × Node :=
  finish ((Script.commands script.toList).foldl (step patience) shell)

end Shell

namespace Machine

/-- The directories in which programs are looked for by their bare names. -/
def programDirectories : List (List String) :=
  [["usr", "bin"], ["bin"]]

/-- The programs that every machine has. -/
def stock : List String :=
  ["echo", "true", "false"]

def runStock (name : String) (arguments : List String) : Finished :=
  let printed : Program.Printed :=
    if name == "echo" then Program.echo false arguments
    else if name == "false" then { status := 1 }
    else {}
  ⟨some printed.status, ⟨printed.output.toArray⟩, ⟨printed.complaints.toArray⟩, 0⟩

/-- The stock program that a name or a path means. -/
def stock? (program : String) : Option String :=
  if stock.contains program then some program
  else
    stock.find? (fun name =>
      programDirectories.any (fun directory =>
        Place.ofPath program == Place.mk true (directory ++ [name])))

/-- The interpreters that run scripts of this library's kind. -/
def interpreters : List String :=
  ["/bin/sh", "/usr/bin/sh", "/bin/dash", "/usr/bin/dash", "/bin/bash", "/usr/bin/bash"]

/-- The program that looks an interpreter up by its bare name. -/
def lookUp : List String :=
  ["/usr/bin/env", "/bin/env"]

/-- The words of the first line of a script, if it asks for an interpreter. -/
def interpreter? (content : List Char) : Option (List String) :=
  match content with
  | '#' :: '!' :: rest =>
    some (((String.ofList (rest.takeWhile (· != '\n'))).splitToList
      (fun character => character == ' ' || character == '\t')).filter (fun word => !word.isEmpty))
  | _ => none

/-- Do these words name an interpreter of scripts? -/
def isInterpreter : List String → Bool
  | [path, name] =>
    interpreters.contains path ||
      (lookUp.contains path && interpreters.contains ("/bin/" ++ name))
  | path :: _ => interpreters.contains path
  | [] => false

/-- Starts a program and waits for its end, or for as long as it is waited
for. -/
def launch (bindings : List (String × String)) (standing : List String) (launch : Launch)
    (tree : Node) : Except Cause (Finished × Node) :=
  let texts := launch.program :: launch.directory :: launch.arguments
  if texts.any (fun text => text.toList.contains '\x00') then .error .zeroInLaunch
  else
    match tree.locate standing true launch.directory with
    | .error cause => .error cause
    | .ok ⟨_, none⟩ => .error .notFound
    | .ok ⟨place, some node⟩ =>
      if !node.isDirectory then .error .notADirectory
      else if launch.program.isEmpty then .error .notFound
      else
        match stock? launch.program with
        | some name => .ok (runStock name launch.arguments, tree)
        | none =>
          if !launch.program.toList.contains '/' then .error .notFound
          else
            match tree.locate place true launch.program with
            | .error cause => .error cause
            | .ok ⟨_, none⟩ => .error .notFound
            | .ok ⟨_, some (.file content true)⟩ =>
              match String.fromUTF8? content with
              | none => .error .badExecutable
              | some script =>
                match interpreter? script.toList with
                | none => .error .badExecutable
                | some interpreter =>
                  if isInterpreter interpreter then
                    .ok (Shell.run
                      { name := launch.program
                        arguments := launch.arguments
                        bindings := bindings
                        standing := place
                        tree := tree } launch.patience script)
                  else .error .notFound
            | .ok ⟨_, some _⟩ => .error .permissionDenied

end Machine

end Workbench
