import Workbench.Text.Decimal
namespace Workbench

/-!
What can go wrong, as causes and not as wording.  A `Cause` is a refusal of the
machine below: of its files, of its programs or of the text decoder.  A `Defect`
is a reason to turn down a tool's definition.  A `Failure` is what a command
ends with when it does not end with a report.  The wording of each is one
function beside it.
-/

/-- Refusals of the machine below. -/
inductive Cause where
  | notFound
  | permissionDenied
  | badExecutable
  | alreadyExists
  | notADirectory
  | isADirectory
  | nameTooLong
  | tooManyLinks
  /-- A file was to be read as text and is not encoded as UTF-8. -/
  | notText
  /-- A file name holds the character with code point zero. -/
  | zeroInName
  /-- The program, an argument or the directory of a launch holds the character
  with code point zero. -/
  | zeroInLaunch
  deriving DecidableEq, Repr

namespace Cause

def message : Cause → String
  | notFound => "No such file or directory (os error 2)"
  | badExecutable => "Exec format error (os error 8)"
  | permissionDenied => "Permission denied (os error 13)"
  | alreadyExists => "File exists (os error 17)"
  | notADirectory => "Not a directory (os error 20)"
  | isADirectory => "Is a directory (os error 21)"
  | nameTooLong => "File name too long (os error 36)"
  | tooManyLinks => "Too many levels of symbolic links (os error 40)"
  | notText => "stream did not contain valid UTF-8"
  | zeroInName => "file name contained an unexpected NUL byte"
  | zeroInLaunch => "nul byte found in provided data"

end Cause

/-- Reasons to turn down a tool's definition. -/
inductive Defect where
  | noName
  | blankInName (name : String)
  | noSignature (name : String)
  /-- The signature, the summary or a parameter's description holds a line feed. -/
  | manyLines (name : String)
  deriving DecidableEq, Repr

namespace Defect

def message : Defect → String
  | noName => "tool name is required"
  | blankInName name => "tool name '" ++ name ++ "' must not contain whitespace"
  | noSignature name => "tool '" ++ name ++ "' has no signature"
  | manyLines name =>
    "tool '" ++ name ++ "' has a multi-line signature, docstring or argument description"

end Defect

/-- Ways for a command to end without a report. -/
inductive Failure where
  | badDefinition (defect : Defect)
  | missingArgument (tool argument : String)
  | unknownTool (name : String)
  /-- A path leaves the workspace with the given root. -/
  | outsideWorkspace (path root : String)
  /-- An argument should have been a whole number. -/
  | notANumber (argument given : String)
  | machine (cause : Cause)
  deriving DecidableEq, Repr

namespace Failure

def message : Failure → String
  | badDefinition defect => "Invalid tool definition: " ++ defect.message
  | missingArgument tool argument =>
    "Missing required argument '" ++ argument ++ "' for tool '" ++ tool ++ "'"
  | unknownTool name => "Tool not found: " ++ name
  | outsideWorkspace path root =>
    "path outside workspace: " ++ path ++ " (workspace: " ++ root ++ ")"
  | notANumber argument given =>
    "Invalid argument: " ++ argument ++ " must be an integer, got '" ++ given ++ "'"
  | machine cause => "IO error: " ++ cause.message

end Failure

end Workbench
