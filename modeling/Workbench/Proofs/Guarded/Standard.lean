import Workbench.Proofs.Guarded.Registry
import Workbench.Proofs.Guarded.Viewer
namespace Workbench

/-!
# The standard tools in words

Beside the viewer only the search of a directory does arithmetic with what it finds: it adds
up the hits of the files.  No bound on the single files bounds this sum, so what the search
comes to is told exactly: it aborts if and only if the hits of all listed files together are
more than a word can count.  The other tools compare and list.
-/

theorem Search.added_eq_sum (numbers : List Nat) : Search.added numbers = numbers.sum :=
  rfl

namespace Guarded

/-- An action that does no arithmetic of its own. -/
def plain (action : Workbench.Action) : Action := fun environment arguments world =>
  pure (action environment arguments world)

namespace Search

/-- Counts the lines that hold a text, with the hits of all files added up in a word. -/
def inDirectory (settings : SearchSettings) : Action :=
  Search.inDirectoryWith pure (fun numbers go => total numbers >>= go) settings

def tools (settings : SearchSettings) : List (Tool Action) :=
  [⟨Search.inDirectoryDefinition, inDirectory settings⟩,
    ⟨Search.inFileDefinition, plain (Search.inFile settings)⟩,
    ⟨Search.byNameDefinition, plain (Search.byName settings)⟩]

/-- The hits of all listed files together are more than a word can count. -/
def Spills (settings : SearchSettings) (environment : Environment) (arguments : Arguments)
    (world : World) : Prop :=
  ∃ term place directory, arguments.require "search_dir" "search_term" = .ok term ∧
    environment.resolve (Search.scope arguments) = .ok place ∧
    Search.directory? environment world place = some directory ∧
    (Search.tally term (directory.filesBelow place)).length ≤ settings.maxFiles ∧
    Decimal.largest <
      ((Search.tally term (directory.filesBelow place)).map (fun entry => entry.2)).sum

/-- A listing aborts exactly if it is made at all and the hits of its files are too many. -/
theorem tallyReportWith_total {Result : Type} (answer : String → Run Result)
    (settings : SearchSettings) (environment : Environment) (term scope : String)
    (counts : List (Place × Nat)) :
    Search.tallyReportWith answer (fun numbers go => total numbers >>= go) settings environment
        term scope counts =
      if counts.length ≤ settings.maxFiles ∧
          Decimal.largest < (counts.map (fun entry => entry.2)).sum then .error .overflow
      else answer (Search.tallyReport settings environment term scope counts) := by
  unfold Search.tallyReport Search.tallyReportWith
  cases counts with
  | nil => rfl
  | cons entry others =>
      simp only [List.isEmpty_cons, Bool.false_eq_true, if_false]
      by_cases few : (entry :: others).length ≤ settings.maxFiles
      · rw [if_neg (Nat.not_lt.mpr few), if_neg (Nat.not_lt.mpr few), total_eq]
        by_cases fits : ((entry :: others).map (fun entry => entry.2)).sum ≤ Decimal.largest
        · rw [if_pos fits, ok_bind, if_neg (fun spilled => Nat.not_lt.mpr fits spilled.2),
            Search.added_eq_sum]
        · rw [if_neg fits, error_bind, if_pos ⟨few, Nat.not_le.mp fits⟩]
      · rw [if_pos (Nat.not_le.mp few), if_pos (Nat.not_le.mp few),
          if_neg (fun spilled => few spilled.1)]

/-- The search of a directory aborts if and only if the hits are too many, and otherwise does what
it does in numbers of any size. -/
theorem inDirectory_cases (settings : SearchSettings) (environment : Environment)
    (arguments : Arguments) (world : World) :
    inDirectory settings environment arguments world =
        .ok (Workbench.Search.inDirectory settings environment arguments world) ∧
        ¬ Spills settings environment arguments world ∨
      inDirectory settings environment arguments world = .error .overflow ∧
        Spills settings environment arguments world := by
  unfold inDirectory Workbench.Search.inDirectory Search.inDirectoryWith Spills
  cases given : arguments.require "search_dir" "search_term" with
  | error failure => exact Or.inl ⟨rfl, fun ⟨_, _, _, term, _⟩ => nomatch term⟩
  | ok term =>
      dsimp only
      cases resolved : environment.resolve (Search.scope arguments) with
      | error failure => exact Or.inl ⟨rfl, fun ⟨_, _, _, _, place, _⟩ => nomatch place⟩
      | ok place =>
          dsimp only
          cases held : Search.directory? environment world place with
          | none => exact Or.inl ⟨rfl, fun ⟨_, _, _, _, same, found, _⟩ => by
              cases same
              exact nomatch held.symm.trans found⟩
          | some directory =>
              dsimp only
              rw [tallyReportWith_total, Search.tallyReportWith_eq]
              split
              · rename_i spilled
                exact Or.inr ⟨rfl, term, place, directory, rfl, rfl, held, spilled⟩
              · rename_i fits
                refine Or.inl ⟨rfl, ?_⟩
                rintro ⟨_, _, _, same, found, there, spilled⟩
                cases same
                cases found
                cases held.symm.trans there
                exact fits spilled

end Search

namespace Standard

/-- The standard tools.  Those that leave the workspace, for the web or for another program,
are taken as they are. -/
def tools (settings : Settings) : List (Tool Action) :=
  Viewer.tools settings.window ++ Search.tools settings.search ++
    [⟨Variables.readDefinition, plain Variables.read⟩,
      ⟨Variables.writeDefinition, plain Variables.write⟩] ++
    [⟨Web.definition, plain (Web.search settings.web)⟩] ++
    [⟨PullRequest.definition, plain (PullRequest.create settings.pullRequest)⟩]

/-- The registry of the standard tools, or the first defect in it. -/
def registry (settings : Settings) : Run (Except Failure (Registry Action)) :=
  Registry.empty.registerAll (tools settings)

/-- The tool is the search of a directory, and it finds too much. -/
def Spills (settings : Settings) (name : String) (environment : Environment)
    (arguments : Arguments) (world : World) : Prop :=
  name = "search_dir" ∧ Search.Spills settings.search environment arguments world

/-- Both tools have one definition.  The guarded one does what the other one does or aborts.  It
aborts if it finds too much, and in moderate circumstances only then. -/
structure Twins (settings : Settings) (guarded : Tool Action) (tool : Tool Workbench.Action) :
    Prop where
  definition : guarded.definition = tool.definition
  follows : ∀ environment arguments world,
    Gives (Moderate settings.window environment arguments world ∧
        ¬ Spills settings tool.name environment arguments world)
      (tool.action environment arguments world) (guarded.action environment arguments world)
  aborts : ∀ environment arguments world,
    Spills settings tool.name environment arguments world →
      guarded.action environment arguments world = .error .overflow

theorem Twins.of_follows {settings : Settings} {definition : Definition} {guarded : Action}
    {action : Workbench.Action} (follows : Follows settings.window guarded action)
    (other : definition.name ≠ "search_dir") :
    Twins settings ⟨definition, guarded⟩ ⟨definition, action⟩ where
  definition := rfl
  follows := fun environment arguments world =>
    (follows environment arguments world).of_imp And.left
  aborts := fun _ _ _ spills => absurd spills.1 other

theorem Twins.of_plain (settings : Settings) {definition : Definition} (action : Workbench.Action)
    (other : definition.name ≠ "search_dir") :
    Twins settings ⟨definition, plain action⟩ ⟨definition, action⟩ :=
  .of_follows (fun _ _ _ => .ok) other

theorem twins_inDirectory (settings : Settings) :
    Twins settings ⟨Search.inDirectoryDefinition, Search.inDirectory settings.search⟩
      ⟨Search.inDirectoryDefinition, Workbench.Search.inDirectory settings.search⟩ where
  definition := rfl
  follows := by
    intro environment arguments world
    rcases Search.inDirectory_cases settings.search environment arguments world with
      ⟨same, _⟩ | ⟨aborted, spills⟩
    · dsimp only
      rw [same]
      exact .ok
    · dsimp only
      rw [aborted]
      exact .error (fun safe => safe.2 ⟨rfl, spills⟩) _
  aborts := by
    rintro environment arguments world ⟨_, spills⟩
    rcases Search.inDirectory_cases settings.search environment arguments world with
      ⟨_, fits⟩ | ⟨aborted, _⟩
    · exact absurd spills fits
    · exact aborted

theorem twins_tools (settings : Settings) :
    List.Forall₂ (Twins settings) (tools settings) (Workbench.Standard.tools settings) :=
  .cons (.of_follows (Viewer.openFile_follows _) (by decide)) <|
  .cons (.of_follows (Viewer.goToLine_follows _) (by decide)) <|
  .cons (.of_follows (Viewer.scroll_follows _ .down)
    (show "scroll_down" ≠ "search_dir" by decide)) <|
  .cons (.of_follows (Viewer.scroll_follows _ .up)
    (show "scroll_up" ≠ "search_dir" by decide)) <|
  .cons (.of_follows (Viewer.create_follows _) (by decide)) <|
  .cons (.of_follows (Viewer.edit_follows _) (by decide)) <|
  .cons (twins_inDirectory settings) <|
  .cons (.of_plain settings _ (by decide)) <|
  .cons (.of_plain settings _ (by decide)) <|
  .cons (.of_plain settings _ (by decide)) <|
  .cons (.of_plain settings _ (by decide)) <|
  .cons (.of_plain settings _ (by decide)) <|
  .cons (.of_plain settings _ (by decide)) .nil

end Standard

end Guarded

end Workbench
