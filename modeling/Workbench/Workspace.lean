import Workbench.Failure
import Workbench.Path.Place
import Workbench.Text.Blank
namespace Workbench

/-!
The workspace confines every path that a command names.  Its root is a place.
Resolving a path is done on its face alone: the path is written after the root,
folded, and turned down if the result lies neither at the root nor below it.
Membership goes by whole names, so a directory whose name merely begins like the
root's is outside.
-/

namespace Workspace

/-- The root of the workspace that a directory text names, for a process that
stands in the given directory.  The empty text names the empty place. -/
def root (standing : List String) (directory : String) : Place :=
  if directory.isEmpty then Place.nowhere
  else Place.ofPath (Path.join (Place.text ⟨true, standing⟩) directory)

/-- What is looked up for an input: a blank input means the root itself. -/
def candidate (input : String) : String :=
  if Text.isBlankOnly input.toList then "." else input

/-- Resolves a path against the root of a workspace. -/
def resolve (root : Place) (input : String) : Except Failure Place :=
  let place := Place.ofPath (Path.join root.text (candidate input))
  if root.holds place then .ok place else .error (.outsideWorkspace input root.text)

/-- How a place is shown: by its names below the root, as a dot for the root
itself, and in full outside of the workspace. -/
def display (root place : Place) : String :=
  if root.holds place then
    let below : Place := ⟨place.anchored && !root.anchored, place.names.drop root.names.length⟩
    if below = Place.nowhere then "." else below.text
  else place.text

/-- The segments that follow the given names, idle segments passed over. -/
def after? : List String → List (List Char) → Option (List (List Char))
  | [], segments => some segments
  | _ :: _, [] => none
  | name :: others, segment :: rest =>
    if Path.isIdle segment then after? (name :: others) rest
    else if String.ofList segment = name then after? others rest
    else none

/-- Segments without the idle ones at the end. -/
def dropIdleEnd (segments : List (List Char)) : List (List Char) :=
  (segments.reverse.dropWhile Path.isIdle).reverse

/-- Segments with slashes between them. -/
def slashed (segments : List (List Char)) : String :=
  String.intercalate "/" (segments.map String.ofList)

/-- The part of a path text below a root, as it is written in the text; idle
segments at its two ends are dropped and inner ones are kept.  The empty root
takes nothing away, so there the opening of the text stays too. -/
def below? (root : Place) (path : String) : Option String :=
  let text := path.toList
  let segments := Path.segments text
  if root.anchored then
    if Path.isAbsolute text then
      (after? root.names segments).map
        (fun rest => slashed (dropIdleEnd (rest.dropWhile Path.isIdle)))
    else none
  else if Path.isAbsolute text then
    some ("/" ++ slashed (dropIdleEnd (segments.drop 1)))
  else if Path.startsHere text then
    some (slashed (['.'] :: dropIdleEnd (segments.drop 1)))
  else some (slashed (dropIdleEnd segments))

/-- How a path text is shown that has not been resolved. -/
def displayText (root : Place) (path : String) : String :=
  match below? root path with
  | none => path
  | some below => if below.isEmpty then "." else below

end Workspace

end Workbench
