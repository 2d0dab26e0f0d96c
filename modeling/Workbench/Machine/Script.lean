import Workbench.Text.Decimal
namespace Workbench

/-!
Shell scripts, as far as small helper programs need them: simple commands with
quoted words and parameters, joined in sequence or by success and failure, with
their output sent elsewhere where they say so.
-/

namespace Script

/-- What a word may refer to. -/
inductive Reference where
  | argument (number : Nat)
  /-- Every argument as a word of its own. -/
  | allArguments
  /-- All arguments as one text. -/
  | joinedArguments
  | argumentCount
  | status
  | processNumber
  | variable (name : String)
  deriving DecidableEq, Repr

inductive Piece where
  | text (text : String)
  | expansion (reference : Reference) (quoted : Bool)
  deriving DecidableEq, Repr

/-- How a command hangs on the one before it. -/
inductive Joint where
  | always
  | onSuccess
  | onFailure
  deriving DecidableEq, Repr

/-- Where an output can be sent, or an input come from. -/
inductive Sink where
  | stream (number : Nat)
  | file (append : Bool) (name : List Piece)
  deriving DecidableEq, Repr

/-- A token of a script. -/
inductive Token where
  | word (pieces : List Piece)
  | joint (joint : Joint)
  | lineEnd
  | copy (stream source : Nat)
  /-- The next word names the file for a stream; stream 0 is what a command reads. -/
  | toFile (stream : Nat) (append : Bool)
  deriving DecidableEq, Repr

/-- A command: its words and where its streams go. -/
structure Simple where
  line : Nat
  joint : Joint
  words : List (List Piece)
  sinks : List (Nat × Sink)

/-- Can a character stand in the name of a value? -/
def isNameCharacter (character : Char) : Bool :=
  character.isAlphanum || character == '_'

/-- The parameter that opens a text after its dollar sign, and what follows it. -/
def reference? : List Char → Option (Reference × List Char)
  | '@' :: rest => some (.allArguments, rest)
  | '*' :: rest => some (.joinedArguments, rest)
  | '#' :: rest => some (.argumentCount, rest)
  | '?' :: rest => some (.status, rest)
  | '$' :: rest => some (.processNumber, rest)
  | '{' :: rest =>
    match rest.span (· != '}') with
    | (name, _ :: behind) =>
      match Decimal.read? name with
      | some number => some (.argument number, behind)
      | none => some (.variable (String.ofList name), behind)
    | (_, []) => none
  | first :: rest =>
    if first.isDigit then some (.argument (first.toNat - '0'.toNat), rest)
    else if isNameCharacter first then
      let (name, behind) := (first :: rest).span isNameCharacter
      some (.variable (String.ofList name), behind)
    else none
  | [] => none

/-- Scans the inside of double quotes; `fuel` bounds the number of steps. -/
def scanQuoted : Nat → List Char → List Piece × List Char
  | 0, text => ([], text)
  | _, [] => ([], [])
  | _, '"' :: rest => ([], rest)
  | fuel + 1, '\\' :: next :: rest =>
    let (pieces, behind) := scanQuoted fuel rest
    let shown :=
      if next == '"' || next == '\\' || next == '$' || next == '`' then [next]
      else if next == '\n' then [] else ['\\', next]
    (.text (String.ofList shown) :: pieces, behind)
  | fuel + 1, '$' :: rest =>
    match reference? rest with
    | some (parameter, behind) =>
      let (pieces, after) := scanQuoted fuel behind
      (.expansion parameter true :: pieces, after)
    | none =>
      let (pieces, after) := scanQuoted fuel rest
      (.text "$" :: pieces, after)
  | fuel + 1, first :: rest =>
    let (pieces, behind) := scanQuoted fuel rest
    (.text (String.ofList [first]) :: pieces, behind)

/-- The word held so far as a token, if there is one. -/
def flush : Option (List Piece) → List Token
  | none => []
  | some pieces => [.word pieces]

/-- The word held so far with further pieces. -/
def extend (held : Option (List Piece)) (pieces : List Piece) : Option (List Piece) :=
  some (held.getD [] ++ pieces)

/-- The stream that a held word names before an angle bracket, and the word if it
names none. -/
def streamOf (held : Option (List Piece)) : Nat × List Token :=
  match held with
  | some [.text "1"] => (1, [])
  | some [.text "2"] => (2, [])
  | other => (1, flush other)

/-- Scans a script; `fuel` bounds the number of steps. -/
def scanFrom : Nat → Option (List Piece) → List Char → List Token
  | 0, held, _ => flush held
  | _, held, [] => flush held
  | fuel + 1, held, '\\' :: '\n' :: rest => scanFrom fuel held rest
  | fuel + 1, held, '\\' :: next :: rest =>
    scanFrom fuel (extend held [.text (String.ofList [next])]) rest
  | fuel + 1, held, '\'' :: rest =>
    let (inside, behind) := rest.span (· != '\'')
    scanFrom fuel (extend held [.text (String.ofList inside)]) (behind.drop 1)
  | fuel + 1, held, '"' :: rest =>
    let (pieces, behind) := scanQuoted rest.length rest
    scanFrom fuel (extend held (.text "" :: pieces)) behind
  | fuel + 1, held, '$' :: rest =>
    match reference? rest with
    | some (parameter, behind) => scanFrom fuel (extend held [.expansion parameter false]) behind
    | none => scanFrom fuel (extend held [.text "$"]) rest
  | fuel + 1, none, '#' :: rest => scanFrom fuel none (rest.dropWhile (· != '\n'))
  | fuel + 1, held, '&' :: '&' :: rest => flush held ++ .joint .onSuccess :: scanFrom fuel none rest
  | fuel + 1, held, '|' :: '|' :: rest => flush held ++ .joint .onFailure :: scanFrom fuel none rest
  | fuel + 1, held, '>' :: '>' :: rest =>
    let (stream, tokens) := streamOf held
    tokens ++ .toFile stream true :: scanFrom fuel none rest
  | fuel + 1, held, '>' :: '&' :: source :: rest =>
    let (stream, tokens) := streamOf held
    tokens ++ .copy stream (source.toNat - '0'.toNat) :: scanFrom fuel none rest
  | fuel + 1, held, '>' :: rest =>
    let (stream, tokens) := streamOf held
    tokens ++ .toFile stream false :: scanFrom fuel none rest
  | fuel + 1, held, '<' :: rest => flush held ++ .toFile 0 false :: scanFrom fuel none rest
  | fuel + 1, held, first :: rest =>
    if first == '\n' then flush held ++ .lineEnd :: scanFrom fuel none rest
    else if first == ';' then flush held ++ .joint .always :: scanFrom fuel none rest
    else if first == ' ' || first == '\t' then flush held ++ scanFrom fuel none rest
    else scanFrom fuel (extend held [.text (String.ofList [first])]) rest

/-- Adds a token to a list of commands, the last one first. -/
def addToken (commands : List Simple) (token : Token) : List Simple :=
  match token, commands with
  | _, [] => []
  | .joint joint, last :: others => ⟨last.line, joint, [], []⟩ :: last :: others
  | .lineEnd, last :: others => ⟨last.line + 1, .always, [], []⟩ :: last :: others
  | .word pieces, last :: others =>
    match last.sinks with
    | (stream, .file append []) :: sinks =>
      { last with sinks := (stream, .file append pieces) :: sinks } :: others
    | _ => { last with words := last.words ++ [pieces] } :: others
  | .copy stream source, last :: others =>
    { last with sinks := (stream, .stream source) :: last.sinks } :: others
  | .toFile stream append, last :: others =>
    { last with sinks := (stream, .file append []) :: last.sinks } :: others

/-- The commands of a script. -/
def commands (text : List Char) : List Simple :=
  ((scanFrom (text.length + 1) none text).foldl addToken [⟨1, .always, [], []⟩]).reverse.map
    (fun command => { command with sinks := command.sinks.reverse })

end Script

end Workbench
