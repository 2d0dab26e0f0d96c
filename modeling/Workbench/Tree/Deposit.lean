import Workbench.Tree.Change
namespace Workbench

/-!
Placing nodes into a tree from outside, as someone with the files at hand does.
Missing directories above are made, and what cannot be placed is left out.
-/

/-- What is placed. -/
inductive Deposit where
  | file (content : ByteArray)
  | program (content : ByteArray)
  | directory
  | link (target : String)

namespace Node

/-- Sets the node at a path whose last name is not followed. -/
def replaceAt (tree : Node) (standing : List String) (path : String) (node : Node) : Node :=
  match tree.locate standing false path with
  | .ok spot => tree.set node spot.names
  | .error _ => tree

/-- Places something at a path below a directory. -/
def deposit (tree : Node) (standing : List String) (path : String) (deposit : Deposit) : Node :=
  let place := Place.ofPath path
  let ready :=
    match place.parent? with
    | none => tree
    | some parent => (tree.makeDirectories standing parent).2
  match deposit with
  | .directory => (tree.makeDirectories standing place).2
  | .link target => ready.replaceAt standing path (.link target)
  | .file content =>
    match ready.writeBytes standing path content with
    | .ok changed => changed
    | .error _ => ready
  | .program content =>
    match ready.locate standing true path with
    | .ok spot => ready.set (.file content true) spot.names
    | .error _ => ready

def depositAll (tree : Node) (standing : List String) (deposits : List (String × Deposit)) : Node :=
  deposits.foldl (fun tree entry => tree.deposit standing entry.1 entry.2) tree

/-- Takes away what is at a path, with everything below it. -/
def discard (tree : Node) (standing : List String) (path : String) : Node :=
  match tree.locate standing false path with
  | .ok spot => tree.remove spot.names
  | .error _ => tree

end Node

end Workbench
