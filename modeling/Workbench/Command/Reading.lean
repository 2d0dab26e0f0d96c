import Workbench.Command.Definition
import Workbench.Command.Token
import Workbench.Text.Lines
namespace Workbench

/-!
Reading commands.  A text is a command when its first word names a tool.  The
single-line form mixes flags and plain words in any order: flags claim their
arguments by name, plain words fill the declared arguments that are left, in the
order of their declaration, and words beyond those join one argument that may
hold free text.  The block form of a tool with an end mark gives a range on the
first line and then the lines of a block.
-/

/-- A command that is ready to be carried out. -/
structure Invocation where
  name : String
  arguments : Arguments

namespace Reading

/-- The name that a token gives as a flag: it starts with two dashes and has
more than dashes. -/
def flagName? (token : String) : Option String :=
  match token.toList with
  | '-' :: '-' :: rest =>
    match rest.dropWhile (· == '-') with
    | [] => none
    | name => some (String.ofList name)
  | _ => none

/-- The tokens after a tool's name, sorted into flags with their values and
plain words, both in their order of appearance. -/
structure Sorted where
  flags : List (String × String)
  words : List String

/-- Sorts tokens.  A flag takes the next token as its value unless there is none
or it is a flag itself; then its value is `true`. -/
def sort : List String → Sorted
  | [] => ⟨[], []⟩
  | token :: rest =>
    match flagName? token with
    | none =>
      let sorted := sort rest
      { sorted with words := token :: sorted.words }
    | some flag =>
      match rest with
      | [] => ⟨[(flag, "true")], []⟩
      | value :: others =>
        match flagName? value with
        | some _ =>
          let sorted := sort (value :: others)
          { sorted with flags := (flag, "true") :: sorted.flags }
        | none =>
          let sorted := sort others
          { sorted with flags := (flag, value) :: sorted.flags }

/-- Fills the declared arguments that have no value yet from the plain words, in
the order of declaration, and gives the words that are left.  Running out of
words before a required argument is a failure. -/
def fill (tool : String) :
    List Parameter → Arguments → List String → Except Failure (Arguments × List String)
  | [], arguments, words => .ok (arguments, words)
  | parameter :: others, arguments, words =>
    if arguments.contains parameter.name then fill tool others arguments words
    else
      match words with
      | word :: rest => fill tool others (arguments.insert parameter.name word) rest
      | [] =>
        if parameter.required then .error (.missingArgument tool parameter.name)
        else fill tool others arguments []

/-- The arguments that may take surplus words, in order of preference. -/
def openEnded : List String :=
  ["query", "search_term", "content"]

/-- Adds surplus words to the first open-ended argument that is declared and was
not given as a flag; without such an argument they are dropped. -/
def absorb (definition : Definition) (flagged arguments : Arguments) (surplus : List String) :
    Arguments :=
  if surplus.isEmpty then arguments
  else
    match openEnded.find? (fun name => definition.declares name && !flagged.contains name) with
    | none => arguments
    | some name =>
      match arguments.get? name with
      | some first => arguments.insert name (String.intercalate " " (first :: surplus))
      | none => arguments.insert name (String.intercalate " " surplus)

/-- Resolves the tokens after a tool's name against its definition. -/
def resolve (definition : Definition) (tokens : List String) : Except Failure Invocation :=
  let sorted := sort tokens
  let flagged : Arguments := Dictionary.ofList sorted.flags
  match fill definition.name definition.parameters flagged sorted.words with
  | .error failure => .error failure
  | .ok (arguments, surplus) =>
    .ok ⟨definition.name, absorb definition flagged arguments surplus⟩

/-- The tokens of a text after its first one. -/
def operands (text : List Char) : List String :=
  ((Token.scan text).drop 1).map String.ofList

/-- Reads a single-line command. -/
def single (definition : Definition) (text : List Char) : Except Failure Invocation :=
  resolve definition (operands text)

def cutAtColon (text : List Char) : Option (List Char × List Char) :=
  match text.span (· != ':') with
  | (_, []) => none
  | (before, _ :: after) => some (before, after)

/-- The two ends of a range: one token with a colon between them, or two
tokens. -/
def range (tokens : List String) : Option String × Option String :=
  match tokens with
  | [] => (none, none)
  | first :: rest =>
    match cutAtColon first.toList with
    | some (start, stop) => (some (String.ofList start), some (String.ofList stop))
    | none => (some first, rest.head?)

/-- A bound of a range that must be given and must not be empty. -/
def bound (tool name : String) (given : Option String) : Except Failure String :=
  match given with
  | none => .error (.missingArgument tool name)
  | some text => if text.isEmpty then .error (.missingArgument tool name) else .ok text

/-- Reads a block command from its first line and the lines of its block. -/
def block (definition : Definition) (first : List Char) (body : List (List Char)) :
    Except Failure Invocation :=
  let (start, stop) := range (operands first)
  match bound definition.name "start_line" start with
  | .error failure => .error failure
  | .ok start =>
    match bound definition.name "end_line" stop with
    | .error failure => .error failure
    | .ok stop =>
      .ok ⟨definition.name,
        ((Dictionary.empty.insert "start_line" start).insert "end_line" stop).insert "content"
          (String.ofList (Text.join ['\n'] body))⟩

/-- Is this line the end mark, blanks around it ignored? -/
def isEnd (mark : String) (line : List Char) : Bool :=
  Text.trim line == mark.toList

/-- The lines before the first one that is the end mark, if there is one. -/
def untilEnd? (mark : String) : List (List Char) → Option (List (List Char))
  | [] => none
  | line :: others =>
    if isEnd mark line then some [] else (untilEnd? mark others).map (line :: ·)

/-- The definition that the first word of a text names. -/
def named? (find : String → Option Definition) (text : List Char) : Option Definition :=
  (Text.firstWord? text).bind (fun word => find (String.ofList word))

/-- Is this text a command? -/
def isCommand (find : String → Option Definition) (text : String) : Bool :=
  (named? find text.toList).isSome

/-- Reads a command; a text that is none gives `none`.  Blanks around the text
are ignored.  A block without its end falls back to its first line. -/
def read (find : String → Option Definition) (text : String) :
    Except Failure (Option Invocation) :=
  let trimmed := Text.trim text.toList
  match Text.lines trimmed with
  | [] => .ok none
  | first :: others =>
    match named? find first with
    | none => .ok none
    | some definition =>
      match definition.endMark, others with
      | some mark, _ :: _ =>
        match untilEnd? mark others with
        | some body => (block definition first body).map some
        | none => (single definition first).map some
      | _, _ => (single definition trimmed).map some

/-- The end mark that a block command still waits for. -/
def awaited? (find : String → Option Definition) (text : String) : Option String :=
  match Text.lines (Text.trim text.toList) with
  | [] => none
  | first :: others =>
    match named? find first with
    | none => none
    | some definition =>
      match definition.endMark with
      | none => none
      | some mark => if (untilEnd? mark others).isSome then none else some mark

end Reading

end Workbench
