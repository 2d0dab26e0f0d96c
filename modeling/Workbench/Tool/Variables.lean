import Workbench.Tool.Viewer
namespace Workbench

/-!
Variables of the workspace: reading one and writing one.  The two variables of
the viewer can be read like any other, but only the viewer writes them.
-/

namespace Variables

/-- The variables that only the viewer writes. -/
def reserved : List String :=
  [Viewer.currentFile, Viewer.firstLine]

/-- Reads a variable, or gives the default for one that is not set. -/
def read : Action := fun environment arguments world =>
  match arguments.require "read_env" "key" with
  | .error failure => (.error failure, world)
  | .ok key =>
    match environment.value? world key with
    | some value => (.ok value, world)
    | none =>
      match arguments.get? "default" with
      | some value => (.ok value, world)
      | none => (.ok ("Variable " ++ key ++ " is not set"), world)

def write : Action := fun environment arguments world =>
  match arguments.require "write_env" "key" with
  | .error failure => (.error failure, world)
  | .ok key =>
    match arguments.require "write_env" "value" with
    | .error failure => (.error failure, world)
    | .ok value =>
      if key.toList.any isBlank then
        (Viewer.complain ("variable name '" ++ key ++ "' must not contain whitespace"), world)
      else if reserved.contains key then
        (Viewer.complain (key ++ " is managed by the editor window and cannot be set"), world)
      else (.ok ("Set " ++ key), environment.setVariable world key value)

def readDefinition : Definition where
  name := "read_env"
  signature := "read_env <key> [<default>]"
  summary := "reads a variable from the workspace state; prints the default if it is not set"
  parameters :=
    [⟨"key", "string", "name of the variable", true⟩,
      ⟨"default", "string", "value returned when the variable is not set", false⟩]
  endMark := none

def writeDefinition : Definition where
  name := "write_env"
  signature := "write_env <key> <value>"
  summary := "stores a variable in the workspace state for later commands"
  parameters :=
    [⟨"key", "string", "name of the variable", true⟩,
      ⟨"value", "string", "value to store (quote it if it contains spaces)", true⟩]
  endMark := none

def tools : List (Tool Action) :=
  [⟨readDefinition, read⟩, ⟨writeDefinition, write⟩]

end Variables

end Workbench
