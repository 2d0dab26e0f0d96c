import Workbench.Dictionary
namespace Workbench

/-!
The tree of files.  A node is a regular file, a symbolic link or a directory,
and a directory lists its members by name.  A list of names leads from a node
to one of the nodes below it; the functions of this module follow such names
exactly and never look through a link.

A name that is UTF-8 stands for itself.  How any other name is held is told where names
are, and only walks ever meet one.
-/

inductive Node where
  | file (content : ByteArray) (executable : Bool)
  | link (target : String)
  | directory (members : List (String × Node))

namespace Node

def emptyDirectory : Node :=
  .directory []

def isDirectory : Node → Bool
  | .directory _ => true
  | _ => false

/-- The node that the names lead to. -/
def get? : Node → List String → Option Node
  | node, [] => some node
  | .directory members, name :: rest =>
    match Entry.find? name members with
    | some child => child.get? rest
    | none => none
  | _, _ :: _ => none

/-- Sets the node that the names lead to.  Only the last name may be new; where
the names lead through something that is no directory, nothing changes. -/
def set : Node → Node → List String → Node
  | _, entry, [] => entry
  | .directory members, entry, name :: rest =>
    match Entry.find? name members with
    | some child => .directory (Entry.insert name (set child entry rest) members)
    | none =>
      if rest.isEmpty then .directory (Entry.insert name entry members)
      else .directory members
  | node, _, _ :: _ => node

/-- Removes the node that the names lead to. -/
def remove : Node → List String → Node
  | .directory members, [name] => .directory (Entry.erase name members)
  | .directory members, name :: rest =>
    match Entry.find? name members with
    | some child => .directory (Entry.insert name (remove child rest) members)
    | none => .directory members
  | node, _ => node

end Node

end Workbench
