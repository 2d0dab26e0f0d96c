import Workbench.Text.Decimal
import Workbench.Yaml.Scalar
namespace Workbench

/-!
Reading a YAML document.  Indentation gives the structure of blocks: a mapping or a
sequence keeps to one column, and what belongs to one of its entries stands further
to the right, except that a sequence may stand directly below the key it belongs
to.  A key must fit on one line with its colon.  Between brackets indentation means
nothing.  A text holds one document at most, and one fault anywhere spoils all.
-/

namespace Yaml

/-- The short forms of tags that need not be declared. -/
def commonHandles : List (String × String) :=
  [("!", "!"), ("!!", "tag:yaml.org,2002:")]

/-- Where reading stands, with the short forms of tags and the values that have been
given names. -/
structure Reading extends Cursor where
  handles : List (String × String) := commonHandles
  named : List (String × Value) := []

namespace Reading

/-- The reading continued from a position. -/
def resume (reading : Reading) (cursor : Cursor) : Reading :=
  { reading with toCursor := cursor }

/-- The reading some characters further on the same line. -/
def advance (reading : Reading) (count : Nat) : Reading :=
  reading.resume (reading.toCursor.skip count)

def atEnd (reading : Reading) : Bool :=
  reading.rest.isEmpty || (marker? reading.column reading.rest).isSome

end Reading

/-- Passes blanks, comments and line ends.  Tabs are no blanks where a key may
begin outside of brackets; a key may begin on every new line, and a byte order mark
may open one.  The result tells whether a key may begin at the position reached. -/
def passFrom (inFlow inComment keyAllowed : Bool) (line column : Nat) :
    List Char → Cursor × Bool
  | [] => (⟨[], line, column⟩, keyAllowed)
  | first :: rest =>
    if isBreak first then passFrom inFlow false (keyAllowed || !inFlow) (line + 1) 0 rest
    else if inComment || first == '#' then
      passFrom inFlow true keyAllowed line (column + 1) rest
    else if first == ' ' || (first == '\t' && (inFlow || !keyAllowed)) ||
        (first == '\ufeff' && column == 0) then
      passFrom inFlow false keyAllowed line (column + 1) rest
    else (⟨first :: rest, line, column⟩, keyAllowed)

/-- Passes what stands before the next token. -/
def pass (inFlow keyAllowed : Bool) (reading : Reading) : Reading × Bool :=
  let (cursor, allowed) :=
    passFrom inFlow false keyAllowed reading.line reading.column reading.rest
  (reading.resume cursor, allowed)

/-- The characters of a name for a value. -/
def isNameCharacter (character : Char) : Bool :=
  character.isAlphanum || character == '-' || character == '_'

/-- Reads a name for a value behind its sign. -/
def name? (reading : Reading) : Option (String × Reading) :=
  let name := reading.rest.takeWhile isNameCharacter
  let after := reading.advance name.length
  let ends :=
    match after.rest with
    | [] => true
    | first :: _ =>
      isSpace first || isBreak first || ['?', ':', ',', ']', '}', '%', '@', '`'].contains first
  if name.isEmpty || !ends then none else some (String.ofList name, after)

/-- Can this character stand in a tag? -/
def isTagCharacter (character : Char) : Bool :=
  isNameCharacter character ||
    [';', '/', '?', ':', '@', '&', '=', '+', '$', '.', '%', '!', '~', '*', '\'', '(', ')'].contains
      character

/-- Can this character stand in a tag that is written out between angle brackets? -/
def isFullTagCharacter (character : Char) : Bool :=
  isTagCharacter character || [',', '[', ']'].contains character

/-- The full form of a tag from what follows its first exclamation mark. -/
def fullTag? (handles : List (String × String)) (text : List Char) : Option String :=
  match text.span isNameCharacter with
  | (name, '!' :: rest) =>
    if rest.isEmpty then none
    else
      (handles.lookup (String.ofList (['!'] ++ name ++ ['!']))).map
        (fun beginning => beginning ++ String.ofList rest)
  | _ =>
    if text.isEmpty then some "!"
    else (handles.lookup "!").map (fun beginning => beginning ++ String.ofList text)

/-- Reads a tag behind its first exclamation mark. -/
def tag? (inFlow : Bool) (reading : Reading) : Option (String × Reading) :=
  let (found?, after) :=
    match reading.rest with
    | '<' :: rest =>
      let text := rest.takeWhile isFullTagCharacter
      let after := reading.advance (text.length + 1)
      if text.isEmpty || after.rest.head? != some '>' then (none, after)
      else (some (String.ofList text), after.advance 1)
    | rest =>
      let text := rest.takeWhile isTagCharacter
      (fullTag? reading.handles text, reading.advance text.length)
  if atBlank after.rest || (inFlow && after.rest.head? == some ',') then
    found?.map (fun tag => (tag, after))
  else none

/-- What may stand before a value: a name for it and a tag. -/
structure Properties where
  anchor : Option String := none
  tag : Option String := none
  /-- Was anything given? -/
  given : Bool := false

/-- Reads the properties before a value and passes what follows them.  `fuel` bounds
their number. -/
def properties (inFlow : Bool) : Nat → Properties → Bool → Reading →
    Option (Properties × Reading × Bool)
  | 0, _, _, _ => none
  | fuel + 1, found, keyAllowed, reading =>
    match reading.rest with
    | '&' :: _ =>
      if found.anchor.isSome then none
      else
        match name? (reading.advance 1) with
        | none => none
        | some (name, after) =>
          let (next, allowed) := pass inFlow false after
          properties inFlow fuel { found with anchor := some name, given := true } allowed next
    | '!' :: _ =>
      if found.tag.isSome then none
      else
        match tag? inFlow (reading.advance 1) with
        | none => none
        | some (tag, after) =>
          let (next, allowed) := pass inFlow false after
          properties inFlow fuel { found with tag := some tag, given := true } allowed next
    | _ => some (found, reading, keyAllowed)

/-- The value with its properties, and the reading in which its name is known. -/
def finish (properties : Properties) (value : Value) (reading : Reading) : Value × Reading :=
  let value := value.tagged properties.tag
  match properties.anchor with
  | none => (value, reading)
  | some name => (value, { reading with named := (name, value) :: reading.named })

/-- Reads a scalar or a value that is given by its name; brackets and blocks of text
are not among them. -/
def atom? (inFlow : Bool) (indent : Nat) (reading : Reading) : Option (Value × Reading) :=
  let scalar (style : Style) : String × Cursor → Value × Reading :=
    fun (text, cursor) => (.scalar text style none, reading.resume cursor)
  match reading.rest with
  | '\'' :: rest =>
    (singleQuotedFrom [] .none reading.line (reading.column + 1) rest).map (scalar .quoted)
  | '"' :: rest =>
    (doubleQuotedFrom (rest.length + 1) [] .none reading.line (reading.column + 1) rest).map
      (scalar .quoted)
  | '*' :: _ =>
    match name? (reading.advance 1) with
    | none => none
    | some (name, after) => (reading.named.lookup name).map (fun value => (value, after))
  | text =>
    if beginsPlain inFlow text then
      (plainFrom inFlow indent [] .none reading.line reading.column text).map (scalar .plain)
    else none

/-- How far from its beginning a key may reach. -/
def keyLimit : Nat := 1024

/-- Can a key reach from one position to the other?  It stays on its line and is
short. -/
def spansKey (start stop : Cursor) : Bool :=
  stop.line == start.line && stop.column ≤ start.column + keyLimit

/-- Does a colon that ends a key stand here? -/
def atColon (inFlow : Bool) : List Char → Bool
  | ':' :: rest => inFlow || atBlank rest
  | _ => false

/-- Is the character here followed by a blank? -/
def isSign (sign : Char) : List Char → Bool
  | first :: rest => first == sign && atBlank rest
  | [] => false

mutual

/-- Reads a value between brackets.  `fuel` bounds the number of steps. -/
def flowValue : Nat → Nat → Reading → Option (Value × Reading)
  | 0, _, _ => none
  | fuel + 1, indent, reading => do
    let (found, start, _) ← properties true 3 {} false reading
    if start.atEnd then none
    else
      match start.rest with
      | '[' :: _ =>
        let (value, after) ← flowSequence fuel indent [] true (start.advance 1)
        some (finish found value after)
      | '{' :: _ =>
        let (value, after) ← flowMapping fuel indent [] true (start.advance 1)
        some (finish found value after)
      | first :: _ =>
        if found.given && (first == ',' || first == ']' || first == '}' || first == ':') then
          some (finish found .absent start)
        else
          let (value, after) ← atom? true indent start
          if found.given && first == '*' then none else some (finish found value after)
      | [] => none

/-- Reads the rest of a sequence in brackets; `ready` tells whether an item may
follow. -/
def flowSequence : Nat → Nat → List Value → Bool → Reading → Option (Value × Reading)
  | 0, _, _, _, _ => none
  | fuel + 1, indent, items, ready, reading => do
    let (start, _) := pass true false reading
    match start.rest with
    | ']' :: _ => some (.sequence items.reverse, start.advance 1)
    | ',' :: _ =>
      if ready then none else flowSequence fuel indent items true (start.advance 1)
    | _ =>
      if !ready then none
      else
        let (item, after) ← flowEntry fuel indent start
        match item with
        | (value, none) => flowSequence fuel indent (value :: items) false after
        | (key, some value) =>
          flowSequence fuel indent (.mapping [(key, value)] :: items) false after

/-- Reads the rest of a mapping in braces; `ready` tells whether an entry may
follow. -/
def flowMapping : Nat → Nat → List (Value × Value) → Bool → Reading → Option (Value × Reading)
  | 0, _, _, _, _ => none
  | fuel + 1, indent, entries, ready, reading => do
    let (start, _) := pass true false reading
    match start.rest with
    | '}' :: _ => some (.mapping entries.reverse, start.advance 1)
    | ',' :: _ =>
      if ready then none else flowMapping fuel indent entries true (start.advance 1)
    | _ =>
      if !ready then none
      else
        let ((key, value), after) ← flowEntry fuel indent start
        flowMapping fuel indent ((key, value.getD .absent) :: entries) false after

/-- Reads an item between brackets, with a value of its own if it is a key. -/
def flowEntry : Nat → Nat → Reading → Option ((Value × Option Value) × Reading)
  | 0, _, _ => none
  | fuel + 1, indent, reading => do
    let explicit := reading.rest.head? == some '?'
    let (start, _) := if explicit then pass true false (reading.advance 1) else (reading, false)
    let (key, after) ←
      match start.rest with
      | first :: _ =>
        if explicit && (first == ':' || first == ',' || first == ']' || first == '}') then
          some (Value.absent, start)
        else flowValue fuel indent start
      | [] => none
    let (next, _) := pass true false after
    if atColon true next.rest && (explicit || spansKey start.toCursor next.toCursor) then
      let (behind, _) := pass true false (next.advance 1)
      match behind.rest with
      | first :: _ =>
        if first == ',' || first == ']' || first == '}' then
          some ((key, some Value.absent), behind)
        else
          let (value, last) ← flowValue fuel indent behind
          some ((key, some value), last)
      | [] => none
    else if explicit then some ((key, some Value.absent), next)
    else some ((key, none), next)

end

mutual

/-- Reads a value outside of brackets.  It must stand at least at the column
`indent`; with `below`, a sequence may stand one column to the left of it.  A value
that is not there is absent.  `fuel` bounds the number of steps. -/
def blockValue : Nat → Nat → Bool → Bool → Reading → Option (Value × Reading)
  | 0, _, _, _, _ => none
  | fuel + 1, indent, keyAllowed, below, reading => do
    let (start, allowed) := pass false keyAllowed reading
    if start.atEnd then some (.absent, start)
    else if isSign '-' start.rest then
      if indent ≤ start.column || (below && start.column + 1 = indent) then
        if allowed then blockSequence fuel start.column (start.column < indent) [] start else none
      else some (.absent, start)
    else if start.column < indent then some (.absent, start)
    else
      let (found, inner, innerAllowed) ← properties false 3 {} allowed start
      if found.given && inner.line != start.line then
        let (value, after) ← blockValue fuel indent innerAllowed below inner
        some (finish found value after)
      else if inner.atEnd then some (finish found .absent inner)
      else if isSign '?' inner.rest && !found.given then
        if allowed then blockMapping fuel start.column [] start else none
      else
        match inner.rest with
        | '|' :: rest =>
          let (text, cursor) ← block? false indent inner.line rest
          some (finish found (.scalar text .literal none) (inner.resume cursor))
        | '>' :: rest =>
          let (text, cursor) ← block? true indent inner.line rest
          some (finish found (.scalar text .folded none) (inner.resume cursor))
        | _ =>
          let (value, after) ← inlineValue fuel indent inner
          let (next, _) := pass false false after
          if atColon false next.rest && spansKey start.toCursor next.toCursor then
            if allowed then blockMapping fuel start.column [] start else none
          else if found.given && inner.rest.head? == some '*' then none
          else some (finish found value next)

/-- Reads a value that may be a key: a scalar, a named value or one in brackets. -/
def inlineValue : Nat → Nat → Reading → Option (Value × Reading)
  | 0, _, _ => none
  | fuel + 1, indent, reading =>
    match reading.rest with
    | '[' :: _ => flowSequence fuel indent [] true (reading.advance 1)
    | '{' :: _ => flowMapping fuel indent [] true (reading.advance 1)
    | _ => atom? false indent reading

/-- Reads the rest of a sequence whose signs stand at a column.  With `loose` it
ends at the first token there that is no sign. -/
def blockSequence : Nat → Nat → Bool → List Value → Reading → Option (Value × Reading)
  | 0, _, _, _, _ => none
  | fuel + 1, column, loose, items, reading => do
    let (item, after) ← blockValue fuel (column + 1) true false (reading.advance 1)
    let (next, _) := pass false true after
    let items := item :: items
    if next.atEnd || next.column < column then some (.sequence items.reverse, next)
    else if next.column == column && isSign '-' next.rest then
      blockSequence fuel column loose items next
    else if next.column == column && loose then some (.sequence items.reverse, next)
    else none

/-- Reads the rest of a mapping whose keys stand at a column. -/
def blockMapping : Nat → Nat → List (Value × Value) → Reading → Option (Value × Reading)
  | 0, _, _, _ => none
  | fuel + 1, column, entries, reading => do
    let ((key, value), after) ← blockEntry fuel column reading
    let (next, _) := pass false true after
    let entries := (key, value) :: entries
    if next.atEnd || next.column < column then some (.mapping entries.reverse, next)
    else if next.column == column then blockMapping fuel column entries next
    else none

/-- Reads one entry of a mapping whose keys stand at a column. -/
def blockEntry : Nat → Nat → Reading → Option ((Value × Value) × Reading)
  | 0, _, _ => none
  | fuel + 1, column, reading => do
    if isSign '?' reading.rest then
      let (key, after) ← blockValue fuel (column + 1) true true (reading.advance 1)
      let (next, _) := pass false true after
      if !next.atEnd && next.column == column && isSign ':' next.rest then
        let (value, last) ← blockValue fuel (column + 1) true true (next.advance 1)
        some ((key, value), last)
      else some ((key, .absent), next)
    else
      let (found, inner, _) ← properties false 3 {} false reading
      if found.given && inner.rest.head? == some '*' then none
      else
        let (bare, after) ←
          if found.given && atColon false inner.rest then some (Value.absent, inner)
          else inlineValue fuel (column + 1) inner
        let (key, after) := finish found bare after
        let (next, _) := pass false false after
        if atColon false next.rest && spansKey reading.toCursor next.toCursor then
          let (value, last) ← blockValue fuel (column + 1) false true (next.advance 1)
          some ((key, value), last)
        else none

end

/-- What a directive declares. -/
inductive Directive where
  | version
  | handle (handle beginning : String)

/-- Is this the short form of a tag as a directive declares it? -/
def isHandle (handle : List Char) : Bool :=
  match handle with
  | ['!'] => true
  | '!' :: rest => rest.getLast? == some '!' && rest.dropLast.all isNameCharacter
  | _ => false

/-- Is this the number of a version that can be read? -/
def isKnownVersion (version : List Char) : Bool :=
  match version.span (· != '.') with
  | (major, _ :: minor) =>
    Decimal.digitsValue? major == some 1 &&
      (Decimal.digitsValue? minor == some 1 || Decimal.digitsValue? minor == some 2)
  | _ => false

/-- What the text of a directive declares. -/
def directive? (line : List Char) : Option Directive :=
  let words := ((String.ofList line).splitToList
    (fun character => character == ' ' || character == '\t')).filter (fun word => !word.isEmpty)
  match words.takeWhile (fun word => !word.startsWith "#") with
  | ["YAML", version] => if isKnownVersion version.toList then some .version else none
  | ["TAG", handle, beginning] =>
    if isHandle handle.toList && beginning.toList.all isFullTagCharacter then
      some (.handle handle beginning)
    else none
  | _ => none

/-- Passes the directives before a document; the result tells whether there were
any.  Nothing may be declared twice.  `fuel` bounds their number. -/
def directives : Nat → List Directive → Reading → Option (Bool × Reading)
  | 0, _, _ => none
  | fuel + 1, found, reading =>
    let (start, _) := pass false true reading
    match start.rest with
    | '%' :: rest =>
      if start.column ≠ 0 then none
      else
        let line := rest.takeWhile (fun character => !isBreak character)
        let after := start.advance (line.length + 1)
        match directive? line with
        | none => none
        | some .version =>
          if found.any (fun | .version => true | _ => false) then none
          else directives fuel (.version :: found) after
        | some (.handle handle beginning) =>
          if found.any (fun | .handle other _ => other == handle | _ => false) then none
          else
            directives fuel (.handle handle beginning :: found)
              { after with handles := (handle, beginning) :: after.handles }
    | _ => some (!found.isEmpty, start)

/-- Does nothing follow but marks that end the document?  `fuel` bounds their
number. -/
def nothingFollows : Nat → Reading → Bool
  | 0, _ => false
  | fuel + 1, reading =>
    let (next, _) := pass false true reading
    match next.rest with
    | [] => true
    | _ =>
      match marker? next.column next.rest with
      | some .stop => nothingFollows fuel (next.advance 3)
      | _ => false

/-- Reads the only document of a text; a text without one has no value. -/
def read? (text : String) : Option (Option Value) := do
  if !text.toList.all isAllowed then none
  else
    let unified := unifyBreaks text.toList
    let fuel := 4 * unified.length + 16
    let (directed, start) ← directives fuel [] { rest := unified }
    match marker? start.column start.rest with
    | some .start =>
      let (value, after) ← blockValue fuel 0 false false (start.advance 3)
      if nothingFollows fuel after then some (some value) else none
    | some .stop => none
    | none =>
      if directed then none
      else if start.rest.isEmpty then some none
      else
        let (value, after) ← blockValue fuel 0 true false start
        if nothingFollows fuel after then some (some value) else none

end Yaml

end Workbench
