import Workbench.Failure
import Workbench.Path.Place
import Workbench.Tree.Node
namespace Workbench

/-!
Finding a node by a path, through symbolic links.  A path is followed name by
name from the top of the tree or from a standing directory.  A link on the way is
followed, and so is a last one if the caller asks for it; a path may pass forty
links.  The result is a spot: the exact names of the node, or of the free name in
an existing directory where it would be.
-/

/-- A step along a path while it is followed. -/
inductive Step where
  /-- Stay; what has been reached must be a directory. -/
  | stay
  /-- Go to the directory above, which at the top is the top itself. -/
  | up
  | enter (name : String)
  deriving DecidableEq

namespace Step

/-- The step of a segment of a path text. -/
def ofSegment (segment : List Char) : Step :=
  if Path.isIdle segment then .stay
  else if segment = ['.', '.'] then .up
  else .enter (String.ofList segment)

/-- The steps of a path text.  Idle segments count, so that a path that ends in a
slash asks for a directory. -/
def ofPath (path : String) : List Step :=
  (Path.segments path.toList).map ofSegment

end Step

/-- Where a path leads: exact names, and the node there if there is one. -/
structure Spot where
  names : List String
  node : Option Node

namespace Node

/-- The longest name that a directory can hold, in bytes. -/
def longestName : Nat := 255

/-- The length from which on a path is refused, in bytes. -/
def pathLimit : Nat := 4096

/-- The number of links that a path may pass. -/
def linkLimit : Nat := 40

/-- Follows steps from a directory with the given names.  What is to be done with
a link is the caller's matter: it is told the directory and the steps that the
link and the rest of the path make together. -/
def followWith (tree : Node) (through : Bool)
    (onLink : List String → List Step → Except Cause Spot) :
    List String → List Step → Except Cause Spot
  | names, [] => .ok ⟨names, tree.get? names⟩
  | names, .stay :: rest => followWith tree through onLink names rest
  | names, .up :: rest => followWith tree through onLink names.dropLast rest
  | names, .enter name :: rest =>
    if name.utf8ByteSize > longestName then .error .nameTooLong
    else
      match tree.get? (names ++ [name]) with
      | none => if rest.isEmpty then .ok ⟨names ++ [name], none⟩ else .error .notFound
      | some (.directory _) => followWith tree through onLink (names ++ [name]) rest
      | some (.file content executable) =>
        if rest.isEmpty then .ok ⟨names ++ [name], some (.file content executable)⟩
        else .error .notADirectory
      | some (.link target) =>
        if rest.isEmpty && !through then .ok ⟨names ++ [name], some (.link target)⟩
        else if target.isEmpty then .error .notFound
        else
          onLink (if Path.isAbsolute target.toList then [] else names)
            (Step.ofPath target ++ rest)

/-- Follows steps with a number of links left to pass. -/
def follow (tree : Node) (through : Bool) : Nat → List String → List Step → Except Cause Spot
  | 0, names, steps => followWith tree through (fun _ _ => .error .tooManyLinks) names steps
  | left + 1, names, steps => followWith tree through (follow tree through left) names steps

/-- Finds the spot of a path for a reader that stands in the given directory. -/
def locate (tree : Node) (standing : List String) (through : Bool) (path : String) :
    Except Cause Spot :=
  if path.toList.contains '\x00' then .error .zeroInName
  else if path.isEmpty then .error .notFound
  else if pathLimit ≤ path.utf8ByteSize then .error .nameTooLong
  else
    let start := if Path.isAbsolute path.toList then [] else standing
    follow tree through linkLimit start (Step.ofPath path)

/-- The spot of an existing node, links followed. -/
def find? (tree : Node) (standing : List String) (path : String) : Option Node :=
  match tree.locate standing true path with
  | .ok spot => spot.node
  | .error _ => none

/-- Is there anything at this path, links followed? -/
def existsAt (tree : Node) (standing : List String) (path : String) : Bool :=
  (tree.find? standing path).isSome

def directoryAt (tree : Node) (standing : List String) (path : String) : Bool :=
  match tree.find? standing path with
  | some (.directory _) => true
  | _ => false

def fileAt (tree : Node) (standing : List String) (path : String) : Bool :=
  match tree.find? standing path with
  | some (.file _ _) => true
  | _ => false

end Node

end Workbench
