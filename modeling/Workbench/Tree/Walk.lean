import Workbench.Path.Place
import Workbench.Tree.Lookup
import Workbench.Tree.Name
namespace Workbench

/-!
Walking a tree.  A walk visits the members of every directory in the order of
their names and goes down as soon as it meets a directory.  It finds regular
files.  Members whose names begin with a dot are passed over with everything
below them, if it can be told: a name that is not UTF-8 is not taken for one that
begins with a dot.  Links are neither found nor followed.

A directory is opened by the path that has led to it.  One whose path has become
too long cannot be opened, and the walk goes on as if there were nothing in it.
-/

namespace Place

/-- The path of a place as the system takes it. -/
def encoded (place : Place) : List UInt8 :=
  (if place.anchored then [47] else []) ++ List.intercalate [47] (place.names.map Name.bytes)

end Place

namespace Node

def isHidden (name : String) : Bool :=
  match Name.text? name with
  | some text => text.toList.head? == some '.'
  | none => false

/-- A regular file that a walk has found: its place and its content. -/
structure Found where
  place : Place
  content : ByteArray

/-- Puts what lies below a member at its turn, by the bytes of its name. -/
def inTurn (name : String) (below : List Found) :
    List (String × List Found) → List (String × List Found)
  | [] => [(name, below)]
  | other :: rest =>
    if Name.bytes name < Name.bytes other.1 then (name, below) :: other :: rest
    else other :: inTurn name below rest

/-- The regular files that a walk finds which comes to a node at this place. -/
def filesBelow (place : Place) : Node → List Found
  | .file content _ => [⟨place, content⟩]
  | .link _ => []
  | .directory members =>
    if pathLimit ≤ place.encoded.length then []
    else (ofMembers place members).flatMap (fun turn => turn.2)
where
  /-- What a walk finds below each member of a directory. -/
  ofMembers (place : Place) : List (String × Node) → List (String × List Found)
    | [] => []
    | (name, child) :: rest =>
      if isHidden name then ofMembers place rest
      else inTurn name (filesBelow (place.child name) child) (ofMembers place rest)

/-- What a report says of a node. -/
inductive Mark where
  | directory
  | link (target : String)
  | file (content : ByteArray)
  deriving BEq

/-- The nodes below this one, named by their paths; the path of a directory ends
in a slash. -/
def marks (above : String) : Node → List (String × Mark)
  | .file _ _ => []
  | .link _ => []
  | .directory members => ofMembers above members
where
  /-- The nodes at and below the members of a directory. -/
  ofMembers (above : String) : List (String × Node) → List (String × Mark)
    | [] => []
    | (name, child) :: rest =>
      (match child with
        | .file content _ => [(above ++ name, Mark.file content)]
        | .link target => [(above ++ name, Mark.link target)]
        | .directory members =>
          (above ++ name ++ "/", Mark.directory) :: ofMembers (above ++ name ++ "/") members) ++
        ofMembers above rest

/-- What is different in a later tree: the marks that are new or changed, and no
mark for what is gone. -/
def changes (before after : Node) : List (String × Option Mark) :=
  let old := before.marks ""
  let new := after.marks ""
  (new.filter (fun entry => old.lookup entry.1 != some entry.2)).map
      (fun entry => (entry.1, some entry.2)) ++
    (old.filter (fun entry => (new.lookup entry.1).isNone)).map (fun entry => (entry.1, none))

end Node

end Workbench
