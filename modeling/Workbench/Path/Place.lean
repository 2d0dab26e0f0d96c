import Workbench.Path.Component
namespace Workbench

/-!
Places: paths without idle segments and without two dots.  A place is given by
the names that lead to it, from the top of the file tree or, for a place that is
not anchored, from wherever its reader stands.  Folding a path's components one
after the other gives the place that the path means on its face, without a look
at any file.
-/

/-- A path in plain form. -/
structure Place where
  anchored : Bool
  names : List String
  deriving DecidableEq, Repr

namespace Place

def top : Place :=
  ⟨true, []⟩

/-- The place that is reached by no step at all. -/
def nowhere : Place :=
  ⟨false, []⟩

def text (place : Place) : String :=
  (if place.anchored then "/" else "") ++ String.intercalate "/" place.names

def components (place : Place) : List Path.Component :=
  (if place.anchored then [Path.Component.root] else []) ++ place.names.map Path.Component.name

/-- The place one component further.  Above the first name there is no step. -/
def follow (place : Place) : Path.Component → Place
  | .root => top
  | .here => place
  | .up => { place with names := place.names.dropLast }
  | .name name => { place with names := place.names ++ [name] }

/-- The place that a path means on its face. -/
def ofPath (path : String) : Place :=
  (Path.components path).foldl follow nowhere

/-- Does the second place equal the first one or lie below it? -/
def holds (outer inner : Place) : Bool :=
  outer.components.isPrefixOf inner.components

/-- The place above, if the place has a last name. -/
def parent? (place : Place) : Option Place :=
  if place.names.isEmpty then none
  else some { place with names := place.names.dropLast }

def lastName? (place : Place) : Option String :=
  place.names.getLast?

def child (place : Place) (name : String) : Place :=
  { place with names := place.names ++ [name] }

end Place

end Workbench
