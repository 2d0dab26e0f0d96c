import Workbench.Tree.Lookup
namespace Workbench

/-!
Reading and changing files by their paths.  A refused change leaves the tree as
it was, but for the making of several directories in a row, which keeps those
that were made before the refusal.
-/

namespace Node

/-- The bytes of the regular file at a path. -/
def readBytes (tree : Node) (standing : List String) (path : String) : Except Cause ByteArray :=
  match tree.locate standing true path with
  | .error cause => .error cause
  | .ok ⟨_, none⟩ => .error .notFound
  | .ok ⟨_, some (.file content _)⟩ => .ok content
  | .ok ⟨_, some (.directory _)⟩ => .error .isADirectory
  | .ok ⟨_, some (.link _)⟩ => .error .tooManyLinks

/-- The text of the regular file at a path. -/
def readText (tree : Node) (standing : List String) (path : String) : Except Cause String :=
  match tree.readBytes standing path with
  | .error cause => .error cause
  | .ok content =>
    match String.fromUTF8? content with
    | some text => .ok text
    | none => .error .notText

/-- Writes a regular file: an existing one gets the new content, a free name
becomes a plain file. -/
def writeBytes (tree : Node) (standing : List String) (path : String) (content : ByteArray) :
    Except Cause Node :=
  match tree.locate standing true path with
  | .error cause => .error cause
  | .ok ⟨names, none⟩ => .ok (tree.set (.file content false) names)
  | .ok ⟨names, some (.file _ executable)⟩ => .ok (tree.set (.file content executable) names)
  | .ok ⟨_, some (.directory _)⟩ => .error .isADirectory
  | .ok ⟨_, some (.link _)⟩ => .error .tooManyLinks

def writeText (tree : Node) (standing : List String) (path : String) (text : String) :
    Except Cause Node :=
  tree.writeBytes standing path text.toUTF8

/-- Makes one directory at a free name; a link there counts as taken. -/
def makeDirectory (tree : Node) (standing : List String) (path : String) : Except Cause Node :=
  match tree.locate standing false path with
  | .error cause => .error cause
  | .ok ⟨names, none⟩ => .ok (tree.set emptyDirectory names)
  | .ok ⟨_, some _⟩ => .error .alreadyExists

/-- What making one directory comes to if an existing directory is as good. -/
def settleDirectory (tree : Node) (standing : List String) (path : String) :
    Except Cause Unit × Node :=
  match tree.makeDirectory standing path with
  | .ok changed => (.ok (), changed)
  | .error cause =>
    if tree.directoryAt standing path then (.ok (), tree) else (.error cause, tree)

/-- Makes a directory and the missing ones above it; the names come last one
first.  The top and the empty place need no making. -/
def makeDirectoriesUp (standing : List String) (anchored : Bool) :
    List String → Node → Except Cause Unit × Node
  | [], tree => (.ok (), tree)
  | name :: above, tree =>
    let path := Place.text ⟨anchored, (name :: above).reverse⟩
    match tree.makeDirectory standing path with
    | .ok changed => (.ok (), changed)
    | .error .notFound =>
      match makeDirectoriesUp standing anchored above tree with
      | (.ok (), changed) => changed.settleDirectory standing path
      | (.error cause, changed) => (.error cause, changed)
    | .error cause =>
      if tree.directoryAt standing path then (.ok (), tree) else (.error cause, tree)

/-- Makes the directory at a place and the missing ones above it. -/
def makeDirectories (tree : Node) (standing : List String) (place : Place) :
    Except Cause Unit × Node :=
  makeDirectoriesUp standing place.anchored place.names.reverse tree

/-- The directories above a place, made as far as they can be. -/
def makeAbove (tree : Node) (standing : List String) (place : Place) : Except Cause Unit × Node :=
  match place.parent? with
  | none => (.ok (), tree)
  | some parent => tree.makeDirectories standing parent

end Node

end Workbench
