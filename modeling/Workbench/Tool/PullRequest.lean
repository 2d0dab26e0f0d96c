import Workbench.Text.Utf8
import Workbench.Tool.Viewer
namespace Workbench

/-!
Opening a pull request.  The work is done by a program that is started in the
root of the workspace; what it prints, or how it fails, becomes the report.
-/

namespace PullRequest

def programArguments (arguments : Arguments) (title : String) : List String :=
  let base :=
    match arguments.get? "base" with
    | some branch => ["--base", branch]
    | none => []
  let draft := if arguments.isSet "draft" then ["--draft"] else []
  ["pr", "create", "--title", title, "--body", (arguments.get? "body").getD ""] ++ base ++ draft

/-- What a program printed, without the blanks around it. -/
def printed (bytes : ByteArray) : String :=
  String.ofList (Text.trim (Utf8.decode bytes).toList)

/-- The exit code as it is reported; a program that a signal ended has minus
one. -/
def codeText : Option Nat → String
  | some code => Decimal.write code
  | none => "-1"

/-- The report of a program that has ended in time. -/
def report (finished : Finished) : String :=
  let output := printed finished.output
  let complaints := printed finished.complaints
  if finished.code = some 0 then "Pull request created: " ++ output
  else
    "Error: pull request creation failed (exit code " ++ codeText finished.code ++ ")\n" ++
      (if complaints.isEmpty then output else complaints)

def create (settings : PullRequestSettings) : Action := fun environment arguments world =>
  match arguments.require "create_pr" "title" with
  | .error failure => (.error failure, world)
  | .ok title =>
    if Text.isBlankOnly title.toList then (Viewer.complain "title must not be empty", world)
    else
      let launch : Launch :=
        { program := settings.program
          arguments := programArguments arguments title
          directory := environment.root.text
          patience := settings.patience }
      match environment.host.launch launch world.tree with
      | .error cause =>
        (Viewer.complain ("failed to run " ++ settings.program ++ ": " ++ cause.message), world)
      | .ok (finished, tree) =>
        if settings.patience ≤ finished.duration then
          (Viewer.complain ("command timed out after " ++ Decimal.write settings.patience ++ "ms"),
            { world with tree := tree })
        else (.ok (report finished), { world with tree := tree })

def definition : Definition where
  name := "create_pr"
  signature := "create_pr --title <title> [--body <body>] [--base <branch>] [--draft]"
  summary := "opens a pull request for the current branch using the GitHub CLI"
  parameters :=
    [⟨"title", "string", "the pull request title", true⟩,
      ⟨"body", "string", "the pull request description", false⟩,
      ⟨"base", "string", "the branch to merge into", false⟩,
      ⟨"draft", "boolean", "open the pull request as a draft", false⟩]
  endMark := none

def tools (settings : PullRequestSettings) : List (Tool Action) :=
  [⟨definition, create settings⟩]

end PullRequest

end Workbench
