namespace Workbench

/-!
Values of the YAML data format, as far as a reader of settings must tell them
apart: a scalar keeps its text, whether it stood without quotes, and its tag;
collections keep their elements in order, and mappings may repeat a key.
-/

namespace Yaml

/-- How a scalar is written. -/
inductive Style where
  | plain
  | quoted
  | literal
  | folded
  deriving DecidableEq, Repr

/-- The tag of whole numbers. -/
def integerTag : String := "tag:yaml.org,2002:int"

/-- A value with its tag. -/
inductive Value where
  | scalar (text : String) (style : Style) (tag : Option String)
  | sequence (items : List Value)
  | mapping (entries : List (Value × Value))
  deriving Inhabited

namespace Value

/-- What stands where nothing is written. -/
def absent : Value :=
  .scalar "" .plain none

/-- The value with a tag, if it can carry one. -/
def tagged (tag : Option String) : Value → Value
  | .scalar text style none => .scalar text style tag
  | other => other

end Value

end Yaml

end Workbench
