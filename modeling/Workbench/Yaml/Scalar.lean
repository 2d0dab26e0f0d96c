import Workbench.Yaml.Value
namespace Workbench

/-!
Characters and scalars of YAML.  Blanks inside a scalar are kept until it is known
whether more text follows: a run of blanks stays as it is, one line break becomes
a space, and of several line breaks all but the first stay.
-/

namespace Yaml

/-- A position in a document: what is left of it, the line and the column. -/
structure Cursor where
  rest : List Char
  line : Nat := 0
  column : Nat := 0

namespace Cursor

/-- The position some characters further on the same line. -/
def skip (cursor : Cursor) (count : Nat) : Cursor :=
  { cursor with rest := cursor.rest.drop count, column := cursor.column + count }

end Cursor

def isBreak (character : Char) : Bool :=
  character == '\n' || character == '\u2028' || character == '\u2029'

def isSpace (character : Char) : Bool :=
  character == ' ' || character == '\t'

/-- Does a blank, a line break or the end of the document stand here? -/
def atBlank : List Char → Bool
  | [] => true
  | first :: _ => isSpace first || isBreak first

/-- Can this character stand in a document? -/
def isAllowed (character : Char) : Bool :=
  let code := character.toNat
  code == 9 || code == 10 || code == 13 || (0x20 ≤ code && code ≤ 0x7E) || code == 0x85 ||
    (0xA0 ≤ code && code ≤ 0xFFFD) || 0x10000 ≤ code

/-- A text with every kind of line end written as a line feed. -/
def unifyBreaks : List Char → List Char
  | '\r' :: '\n' :: rest => '\n' :: unifyBreaks rest
  | '\r' :: rest => '\n' :: unifyBreaks rest
  | '\u0085' :: rest => '\n' :: unifyBreaks rest
  | first :: rest => first :: unifyBreaks rest
  | [] => []

/-- The marks that begin and end a document. -/
inductive Marker where
  | start
  | stop
  deriving DecidableEq

/-- The mark that stands at a position, at the beginning of a line. -/
def marker? (column : Nat) (rest : List Char) : Option Marker :=
  if column ≠ 0 then none
  else
    match rest with
    | '-' :: '-' :: '-' :: behind => if atBlank behind then some .start else none
    | '.' :: '.' :: '.' :: behind => if atBlank behind then some .stop else none
    | _ => none

/-- The blanks between two stretches of text in a scalar. -/
inductive Gap where
  | none
  /-- Blanks within a line, the last one first. -/
  | spaces (characters : List Char)
  /-- Line breaks: the first one, unless it was escaped, and the others, the last
  one first. -/
  | lines (first : List Char) (others : List Char)

namespace Gap

def space (gap : Gap) (character : Char) : Gap :=
  match gap with
  | .none => .spaces [character]
  | .spaces characters => .spaces (character :: characters)
  | .lines first others => .lines first others

def newLine (gap : Gap) (character : Char) : Gap :=
  match gap with
  | .lines first others => .lines first (character :: others)
  | _ => .lines [character] []

/-- The text that a gap comes to, the last character first. -/
def fold : Gap → List Char
  | .none => []
  | .spaces characters => characters
  | .lines ['\n'] [] => [' ']
  | .lines ['\n'] others => others
  | .lines first others => others ++ first

def crossesLine : Gap → Bool
  | .lines _ _ => true
  | _ => false

def isNone : Gap → Bool
  | .none => true
  | _ => false

end Gap

/-- Does a plain scalar end before these characters? -/
def endsPlain (inFlow : Bool) : List Char → Bool
  | [] => true
  | ':' :: rest => atBlank rest
  | first :: _ => inFlow && [',', '[', ']', '{', '}'].contains first

/-- Is there a colon here that may not stand in a plain scalar? -/
def isMisplacedColon (inFlow : Bool) : List Char → Bool
  | ':' :: next :: _ => inFlow && [',', '?', '[', ']', '{', '}'].contains next
  | _ => false

/-- Reads a plain scalar from a position on, given the text so far, the last
character first, and the gap behind it.  Outside of brackets its further lines
must stand at least at the column `indent`. -/
def plainFrom (inFlow : Bool) (indent : Nat) (text : List Char) (gap : Gap) (line column : Nat) :
    List Char → Option (String × Cursor)
  | [] => some (String.ofList text.reverse, ⟨[], line, column⟩)
  | first :: rest =>
    if isBreak first then plainFrom inFlow indent text (gap.newLine first) (line + 1) 0 rest
    else if isSpace first then
      if first == '\t' && gap.crossesLine && column < indent then none
      else plainFrom inFlow indent text (gap.space first) line (column + 1) rest
    else
      let outdented := gap.crossesLine && !inFlow && column < indent
      let atComment := first == '#' && !gap.isNone
      if outdented || atComment || (marker? column (first :: rest)).isSome ||
          endsPlain inFlow (first :: rest) then
        some (String.ofList text.reverse, ⟨first :: rest, line, column⟩)
      else if isMisplacedColon inFlow (first :: rest) then none
      else plainFrom inFlow indent (first :: (gap.fold ++ text)) .none line (column + 1) rest

/-- The characters with which no plain scalar begins. -/
def indicators : List Char :=
  [',', '[', ']', '{', '}', '#', '&', '*', '!', '|', '>', '\'', '"', '%', '@', '`']

/-- Can a plain scalar begin here? -/
def beginsPlain (inFlow : Bool) : List Char → Bool
  | [] => false
  | '-' :: rest => !atBlank rest
  | first :: rest =>
    if first == '?' || first == ':' then !inFlow && !atBlank rest
    else
      !isSpace first && !isBreak first && !indicators.contains first

/-- Reads a scalar in single quotes behind its first quote. -/
def singleQuotedFrom (text : List Char) (gap : Gap) (line column : Nat) :
    List Char → Option (String × Cursor)
  | [] => none
  | '\'' :: '\'' :: rest =>
    singleQuotedFrom ('\'' :: (gap.fold ++ text)) .none line (column + 2) rest
  | '\'' :: rest => some (String.ofList (gap.fold ++ text).reverse, ⟨rest, line, column + 1⟩)
  | first :: rest =>
    if (marker? column (first :: rest)).isSome then none
    else if isBreak first then singleQuotedFrom text (gap.newLine first) (line + 1) 0 rest
    else if isSpace first then singleQuotedFrom text (gap.space first) line (column + 1) rest
    else singleQuotedFrom (first :: (gap.fold ++ text)) .none line (column + 1) rest

/-- The character that a letter behind a backslash stands for. -/
def escape? (letter : Char) : Option Char :=
  ([('0', '\x00'), ('a', '\x07'), ('b', '\x08'), ('t', '\t'), ('\t', '\t'), ('n', '\n'),
      ('v', '\x0b'), ('f', '\x0c'), ('r', '\r'), ('e', '\x1b'), (' ', ' '), ('"', '"'), ('/', '/'),
      ('\\', '\\'), ('N', '\u0085'), ('_', '\u00a0'), ('L', '\u2028'), ('P', '\u2029')] :
    List (Char × Char)).lookup letter

/-- How many hexadecimal digits follow a letter behind a backslash. -/
def escapeLength? (letter : Char) : Option Nat :=
  ([('x', 2), ('u', 4), ('U', 8)] : List (Char × Nat)).lookup letter

def hexDigit? (character : Char) : Option Nat :=
  let code := character.toNat
  if 0x30 ≤ code ∧ code ≤ 0x39 then some (code - 0x30)
  else if 0x41 ≤ code ∧ code ≤ 0x46 then some (code - 0x37)
  else if 0x61 ≤ code ∧ code ≤ 0x66 then some (code - 0x57)
  else none

/-- The value of some hexadecimal digits. -/
def hexValue? (value : Nat) : List Char → Option Nat
  | [] => some value
  | first :: rest =>
    match hexDigit? first with
    | none => none
    | some digit => hexValue? (16 * value + digit) rest

/-- The character of a code point, if there is one. -/
def character? (code : Nat) : Option Char :=
  if code < 0xD800 ∨ (0xDFFF < code ∧ code < 0x110000) then some (Char.ofNat code) else none

/-- Reads a scalar in double quotes behind its first quote; `fuel` bounds the number
of steps. -/
def doubleQuotedFrom : Nat → List Char → Gap → Nat → Nat → List Char → Option (String × Cursor)
  | 0, _, _, _, _, _ => none
  | _, _, _, _, _, [] => none
  | _, text, gap, line, column, '"' :: rest =>
    some (String.ofList (gap.fold ++ text).reverse, ⟨rest, line, column + 1⟩)
  | fuel + 1, text, gap, line, column, '\\' :: letter :: rest =>
    if isBreak letter then doubleQuotedFrom fuel (gap.fold ++ text) (.lines [] []) (line + 1) 0 rest
    else
      match escape? letter with
      | some character =>
        doubleQuotedFrom fuel (character :: (gap.fold ++ text)) .none line (column + 2) rest
      | none =>
        match escapeLength? letter with
        | none => none
        | some length =>
          if rest.length < length then none
          else
            match (hexValue? 0 (rest.take length)).bind character? with
            | none => none
            | some character =>
              doubleQuotedFrom fuel (character :: (gap.fold ++ text)) .none line
                (column + 2 + length) (rest.drop length)
  | fuel + 1, text, gap, line, column, first :: rest =>
    if (marker? column (first :: rest)).isSome then none
    else if isBreak first then
      doubleQuotedFrom fuel text (gap.newLine first) (line + 1) 0 rest
    else if isSpace first then doubleQuotedFrom fuel text (gap.space first) line (column + 1) rest
    else doubleQuotedFrom fuel (first :: (gap.fold ++ text)) .none line (column + 1) rest

/-- What becomes of the line breaks at the end of a block of text. -/
inductive Chomping where
  | strip
  | clip
  | keep
  deriving DecidableEq

/-- The header of a block of text: what becomes of its end, how far it is indented if
that is said, and the rest of the line. -/
structure BlockHeader where
  chomping : Chomping := .clip
  indentation : Option Nat := none

/-- Reads the signs of a header. -/
def blockHeader? : List Char → Option (BlockHeader × List Char)
  | sign :: rest =>
    let chomping? : Option Chomping :=
      if sign == '+' then some .keep else if sign == '-' then some .strip else none
    let digit? (character : Char) : Option Nat :=
      if '1' ≤ character ∧ character ≤ '9' then some (character.toNat - '0'.toNat) else none
    match chomping? with
    | some chomping =>
      match rest with
      | second :: behind =>
        match digit? second with
        | some indentation => some (⟨chomping, some indentation⟩, behind)
        | none => if second == '0' then none else some (⟨chomping, none⟩, rest)
      | [] => some (⟨chomping, none⟩, [])
    | none =>
      match digit? sign with
      | none => if sign == '0' then none else some ({}, sign :: rest)
      | some indentation =>
        match rest with
        | '+' :: behind => some (⟨.keep, some indentation⟩, behind)
        | '-' :: behind => some (⟨.strip, some indentation⟩, behind)
        | _ => some (⟨.clip, some indentation⟩, rest)
  | [] => some ({}, [])

/-- The text behind the end of a header's line; blanks and a comment may stand
before it. -/
def behindHeader? (text : List Char) : Option (List Char) :=
  match text.dropWhile isSpace with
  | [] => some []
  | '#' :: rest => some ((rest.dropWhile (fun character => !isBreak character)).drop 1)
  | first :: rest => if isBreak first then some rest else none

/-- The indentation of a block of text whose header does not say it: that of its
first line with text, or of a longer blank line before it.  A tab in its place is
refused. -/
def detectIndentation : Nat → Nat → List Char → Option Nat
  | longest, column, [] => some (max longest column)
  | longest, column, first :: rest =>
    if first == ' ' then detectIndentation longest (column + 1) rest
    else if isBreak first then detectIndentation (max longest column) 0 rest
    else if first == '\t' then none
    else some (max longest column)

/-- One line of a block of text. -/
inductive BlockLine where
  /-- A line without text; its line break. -/
  | blank (lineBreak : Char) (rest : List Char)
  /-- A line of text, its line break if it has one. -/
  | text (content : List Char) (lineBreak : List Char) (rest : List Char)
  /-- The block has ended before this line. -/
  | outside
  | misplacedTab

/-- The next line of a block that is indented so far. -/
def blockLine (indentation : Nat) (rest : List Char) : BlockLine :=
  let spaces := ((rest.take indentation).takeWhile (· == ' ')).length
  match rest.drop spaces with
  | [] => .outside
  | first :: behind =>
    if isBreak first then .blank first behind
    else if spaces < indentation then (if first == '\t' then .misplacedTab else .outside)
    else
      let content := (first :: behind).takeWhile (fun character => !isBreak character)
      let after := (first :: behind).dropWhile (fun character => !isBreak character)
      .text content (after.take 1) (after.drop 1)

/-- Reads the lines of a block of text, given what has been read: the text, the last
character first, the break of its last line, the blank lines behind it, whether its
last line began with a blank, and the number of lines.  `fuel` bounds the number of
lines. -/
def blockFrom (folded : Bool) (chomping : Chomping) (indentation : Nat) :
    Nat → List Char → List Char → List Char → Bool → Nat → List Char → Option (String × Cursor)
  | 0, _, _, _, _, _, _ => none
  | fuel + 1, text, lastBreak, blanks, indented, line, rest =>
    match blockLine indentation rest with
    | .misplacedTab => none
    | .blank lineBreak behind =>
      blockFrom folded chomping indentation fuel text lastBreak (lineBreak :: blanks) indented
        (line + 1) behind
    | .text content lineBreak behind =>
      let begins := atBlank content
      let joined :=
        if folded && lastBreak == ['\n'] && !indented && !begins then
          (if blanks.isEmpty then [' '] else [])
        else lastBreak
      blockFrom folded chomping indentation fuel
        (content.reverse ++ (blanks ++ (joined ++ text))) lineBreak [] begins (line + 1) behind
    | .outside =>
      let ending :=
        match chomping with
        | .strip => []
        | .clip => lastBreak
        | .keep => blanks ++ lastBreak
      some (String.ofList (ending ++ text).reverse, ⟨rest, line, 0⟩)

/-- Reads a block of text behind its first sign.  Its lines must stand at least at
the column `indent`. -/
def block? (folded : Bool) (indent line : Nat) (text : List Char) : Option (String × Cursor) :=
  match blockHeader? text with
  | none => none
  | some (header, behind) =>
    match behindHeader? behind with
    | none => none
    | some rest =>
      let indentation? :=
        match header.indentation with
        | some increment => some (if indent = 0 then increment else indent - 1 + increment)
        | none => (detectIndentation 0 0 rest).map (fun found => max (max found indent) 1)
      match indentation? with
      | none => none
      | some indentation =>
        blockFrom folded header.chomping indentation (rest.length + 1) [] [] [] false (line + 1) rest

end Yaml

end Workbench
