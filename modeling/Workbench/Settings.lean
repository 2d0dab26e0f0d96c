import Workbench.Text.Json
namespace Workbench

/-!
Settings: what can be chosen for a run, with the values that hold where nothing
is chosen.
-/

/-- The window onto an open file. -/
structure WindowSettings where
  /-- How many lines the window shows. -/
  lines : Nat := 100
  /-- How many lines stay in sight when the window scrolls. -/
  overlap : Nat := 2
  deriving DecidableEq, Repr

namespace WindowSettings

/-- How far one scroll moves the window; it always moves. -/
def step (settings : WindowSettings) : Nat :=
  max (settings.lines - settings.overlap) 1

end WindowSettings

structure SearchSettings where
  /-- The greatest number of files that is listed. -/
  maxFiles : Nat := 100
  /-- The greatest number of lines that is listed. -/
  maxMatches : Nat := 500
  deriving DecidableEq, Repr

structure WebSettings where
  /-- How long an answer may take, in milliseconds. -/
  patience : Nat := 30000
  /-- The number of results to ask for. -/
  maxResults : Nat := 5
  deriving DecidableEq, Repr

structure PullRequestSettings where
  /-- The program that opens them. -/
  program : String := "gh"
  /-- How long the program may take, in milliseconds. -/
  patience : Nat := 120000
  deriving DecidableEq, Repr

structure Settings where
  /-- The text that names the workspace. -/
  workspace : String := "."
  window : WindowSettings := {}
  search : SearchSettings := {}
  web : WebSettings := {}
  pullRequest : PullRequestSettings := {}
  deriving DecidableEq, Repr

end Workbench
