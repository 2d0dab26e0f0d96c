namespace Workbench

/-!
Paths as texts and as lists of components.  Slashes separate segments.  An
empty segment or one that is a single dot says nothing and is no component,
except that a dot at the very start of a relative path is kept as one.
-/

namespace Path

/-- A step that a path names. -/
inductive Component where
  /-- The top of the file tree: the path starts with a slash. -/
  | root
  /-- A dot at the start of a relative path. -/
  | here
  /-- Two dots: the directory above. -/
  | up
  | name (name : String)
  deriving DecidableEq, Repr

/-- The segments of a text between its slashes. -/
def segments : List Char → List (List Char)
  | [] => [[]]
  | first :: rest =>
    if first = '/' then [] :: segments rest
    else
      match segments rest with
      | [] => [[first]]
      | segment :: others => (first :: segment) :: others

/-- A segment that names no step. -/
def isIdle (segment : List Char) : Bool :=
  segment == [] || segment == ['.']

/-- The step that a segment names, if it names one. -/
def step? (segment : List Char) : Option Component :=
  if isIdle segment then none
  else if segment = ['.', '.'] then some .up
  else some (.name (String.ofList segment))

/-- Does a path start at the top of the file tree? -/
def isAbsolute : List Char → Bool
  | '/' :: _ => true
  | _ => false

/-- Does a relative path start with a dot as its first segment? -/
def startsHere : List Char → Bool
  | ['.'] => true
  | '.' :: '/' :: _ => true
  | _ => false

def components (path : String) : List Component :=
  let text := path.toList
  let opening :=
    if isAbsolute text then [Component.root] else if startsHere text then [Component.here] else []
  opening ++ (segments text).filterMap step?

/-- Writes one path after another: an absolute path replaces what stands before
it, and a slash is set between two texts that need one. -/
def join (base addition : String) : String :=
  if isAbsolute addition.toList then addition
  else if base.isEmpty || base.toList.getLast? == some '/' then base ++ addition
  else base ++ "/" ++ addition

example : components "./a//b/./../c/" = [.here, .name "a", .name "b", .up, .name "c"] := by
  decide +kernel
example : components "//a" = [.root, .name "a"] := by decide +kernel

end Path

end Workbench
