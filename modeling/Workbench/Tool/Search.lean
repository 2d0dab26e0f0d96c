import Workbench.Search.Hit
import Workbench.Search.Pattern
import Workbench.Tool.Viewer
import Workbench.Tree.Walk
namespace Workbench

/-!
Searching: counting the lines that hold a text in the files below a directory,
listing them for one file, and finding files by the pattern of their names.  A
listing that would grow beyond its limit is replaced by a request to ask for
less.

A text is searched as it stands and not as a pattern.  The library that does it could
still turn one down, as too large to be made into a machine, and the tools would then
answer `Error: invalid search term`.  Memory is not bounded here and no text is turned
down, so there is no such answer.
-/

namespace Search

/-- How a file is shown that a walk has found.  What is not UTF-8 in its names is replaced. -/
def shown (environment : Environment) (place : Place) : String :=
  environment.display { place with names := place.names.map Name.shown }

def quoted (text : String) : String :=
  "\"" ++ text ++ "\""

/-- The report that nothing was found. -/
def nothing (term scope : String) : String :=
  "No matches found for " ++ quoted term ++ " in " ++ scope

/-- The report that there is no such directory. -/
def missing (scope : String) : String :=
  "Directory " ++ scope ++ " not found"

/-- The report that too much was found. -/
def tooMany (limit : Nat) (unit term scope : String) : String :=
  "More than " ++ Decimal.write limit ++ " " ++ unit ++ " matched for " ++ quoted term ++ " in " ++
    scope ++ ". Please narrow your search."

/-- The first line of a listing. -/
def heading (count : Nat) (term scope : String) : String :=
  "Found " ++ Decimal.write count ++ " matches for " ++ quoted term ++ " in " ++ scope ++ ":"

/-- The last line of a listing. -/
def ending (term scope : String) : String :=
  "End of matches for " ++ quoted term ++ " in " ++ scope

/-- The hits in a file below a directory.  The file is opened by its path, and one whose path is
too long to be taken is skipped. -/
def hitsIn (term : String) (found : Node.Found) : List Hit :=
  if Node.pathLimit ≤ found.place.encoded.length then [] else Hit.inFile term found.content

/-- The files below a directory that hold a text, with the number of their hits. -/
def tally (term : String) (files : List Node.Found) : List (Place × Nat) :=
  (files.map (fun found => (found.place, (hitsIn term found).length))).filter
    (fun entry => 0 < entry.2)

/-- The report of the files that hold a term: how many hits they have together, and each file
with its own. -/
def directoryListing (environment : Environment) (term scope : String)
    (counts : List (Place × Nat)) (total : Nat) : String :=
  String.intercalate "\n"
    (heading total term scope ::
      counts.map (fun entry =>
        shown environment entry.1 ++ " (" ++ Decimal.write entry.2 ++ " matches)") ++
      [ending term scope])

/-- Reports the files that hold a term.  `sum` adds up their hits, which is done only if they are
listed. -/
def tallyReportWith {Result : Type} (answer : String → Result)
    (sum : List Nat → (Nat → Result) → Result) (settings : SearchSettings)
    (environment : Environment) (term scope : String) (counts : List (Place × Nat)) : Result :=
  if counts.isEmpty then answer (nothing term scope)
  else if settings.maxFiles < counts.length then
    answer (tooMany settings.maxFiles "files" term scope)
  else
    sum (counts.map (fun entry => entry.2)) fun total =>
      answer (directoryListing environment term scope counts total)

/-- Numbers added up, whatever size they come to. -/
def added (numbers : List Nat) : Nat :=
  numbers.foldr (fun number rest => number + rest) 0

/-- The report of the files that hold a term. -/
def tallyReport (settings : SearchSettings) (environment : Environment) (term scope : String)
    (counts : List (Place × Nat)) : String :=
  tallyReportWith (fun report => report) (fun numbers go => go (added numbers)) settings environment
    term scope counts

/-- With numbers of any size the report comes first, and then whatever is answered with it. -/
theorem tallyReportWith_eq {Result : Type} (answer : String → Result) (settings : SearchSettings)
    (environment : Environment) (term scope : String) (counts : List (Place × Nat)) :
    tallyReportWith answer (fun numbers go => go (added numbers)) settings environment term scope
      counts = answer (tallyReport settings environment term scope counts) := by
  unfold tallyReport tallyReportWith
  split
  · rfl
  · split <;> rfl

/-- The report of the hits in a file. -/
def listing (settings : SearchSettings) (term scope : String) (hits : List Hit) : String :=
  if hits.isEmpty then nothing term scope
  else if settings.maxMatches < hits.length then tooMany settings.maxMatches "lines" term scope
  else
    String.intercalate "\n"
      (heading hits.length term scope ::
        hits.map (fun hit => "Line " ++ Decimal.write hit.number ++ ":" ++ hit.text) ++
        [ending term scope])

/-- The report of the files whose names match a pattern. -/
def matchReport (settings : SearchSettings) (environment : Environment) (name scope : String)
    (found : List Place) : String :=
  if found.isEmpty then nothing name scope
  else if settings.maxFiles < found.length then tooMany settings.maxFiles "files" name scope
  else String.intercalate "\n"
    (heading found.length name scope :: found.map (shown environment))

/-- The directory that the arguments of a search name. -/
def scope (arguments : Arguments) : String :=
  (arguments.get? "dir").getD "."

/-- The directory that is searched: the place and the node. -/
def directory? (environment : Environment) (world : World) (place : Place) : Option Node :=
  match world.tree.find? environment.host.standing place.text with
  | some (.directory members) => some (.directory members)
  | _ => none

/-- Counts the lines that hold a text in every file below a directory.  `sum` is how their numbers
are added. -/
def inDirectoryWith {Result : Type} (answer : Except Failure String × World → Result)
    (sum : List Nat → (Nat → Result) → Result) (settings : SearchSettings)
    (environment : Environment) (arguments : Arguments) (world : World) : Result :=
  match arguments.require "search_dir" "search_term" with
  | .error failure => answer (.error failure, world)
  | .ok term =>
    match environment.resolve (scope arguments) with
    | .error failure => answer (Viewer.complain failure.message, world)
    | .ok place =>
      match directory? environment world place with
      | none => answer (.ok (missing (scope arguments)), world)
      | some directory =>
        tallyReportWith (fun report => answer (.ok report, world)) sum settings environment term
          (scope arguments) (tally term (directory.filesBelow place))

/-- Counts the lines that hold a text, with numbers of any size. -/
def inDirectory (settings : SearchSettings) : Action :=
  inDirectoryWith (fun outcome => outcome) (fun numbers go => go (added numbers)) settings

/-- The place of the file that is searched: the one that the arguments name, or
else the open one. -/
def target (environment : Environment) (arguments : Arguments) (world : World) :
    Except String Place :=
  match arguments.get? "file" with
  | none => Viewer.openPlace environment world
  | some file =>
    match environment.resolve file with
    | .ok place => .ok place
    | .error failure => .error ("Error: " ++ failure.message)

/-- Lists the lines of one file that hold a text. -/
def inFile (settings : SearchSettings) : Action := fun environment arguments world =>
  match arguments.require "search_file" "search_term" with
  | .error failure => (.error failure, world)
  | .ok term =>
    match target environment arguments world with
    | .error report => (.ok report, world)
    | .ok place =>
      let scope := environment.display place
      match world.tree.find? environment.host.standing place.text with
      | some (.file content _) =>
        (.ok (listing settings term scope (Hit.inFile term content)), world)
      | _ => (Viewer.complain ("File " ++ scope ++ " not found"), world)

/-- The files whose names are UTF-8 and match a pattern. -/
def matching (pattern : List Glyph) (files : List Node.Found) : List Place :=
  (files.map Node.Found.place).filter (fun place =>
    match place.lastName?.bind Name.text? with
    | none => false
    | some name => Pattern.matchesName pattern name.toList)

/-- Finds the files below a directory by the pattern of their names. -/
def byName (settings : SearchSettings) : Action := fun environment arguments world =>
  match arguments.require "find_file" "file_name" with
  | .error failure => (.error failure, world)
  | .ok name =>
    match environment.resolve (scope arguments) with
    | .error failure => (Viewer.complain failure.message, world)
    | .ok place =>
      match directory? environment world place with
      | none => (.ok (missing (scope arguments)), world)
      | some directory =>
        match Pattern.read name with
        | .error complaint =>
          (Viewer.complain ("invalid file pattern: " ++ complaint.message), world)
        | .ok pattern =>
          (.ok (matchReport settings environment name (scope arguments)
            (matching pattern (directory.filesBelow place))), world)

def inDirectoryDefinition : Definition where
  name := "search_dir"
  signature := "search_dir <search_term> [<dir>]"
  summary := "searches for search_term in all files in dir. If dir is not provided, searches " ++
    "in the current directory"
  parameters :=
    [⟨"search_term", "string", "the term to search for", true⟩,
      ⟨"dir", "string", "the directory to search in (if not provided, searches in the current " ++
        "directory)", false⟩]
  endMark := none

def inFileDefinition : Definition where
  name := "search_file"
  signature := "search_file <search_term> [<file>]"
  summary := "searches for search_term in file. If file is not provided, searches in the " ++
    "current open file"
  parameters :=
    [⟨"search_term", "string", "the term to search for", true⟩,
      ⟨"file", "string", "the file to search in (if not provided, searches in the current open " ++
        "file)", false⟩]
  endMark := none

def byNameDefinition : Definition where
  name := "find_file"
  signature := "find_file <file_name> [<dir>]"
  summary := "finds all files with the given name or pattern in dir. If dir is not provided, " ++
    "searches in the current directory"
  parameters :=
    [⟨"file_name", "string", "the name of the file or pattern to search for. supports " ++
        "shell-style wildcards (e.g. *.py)", true⟩,
      ⟨"dir", "string", "the directory to search in (if not provided, searches in the current " ++
        "directory)", false⟩]
  endMark := none

def tools (settings : SearchSettings) : List (Tool Action) :=
  [⟨inDirectoryDefinition, inDirectory settings⟩,
    ⟨inFileDefinition, inFile settings⟩,
    ⟨byNameDefinition, byName settings⟩]

end Search

end Workbench
