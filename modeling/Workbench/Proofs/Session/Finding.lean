import Workbench.Proofs.Command.Naming
import Workbench.Proofs.Session.Calls
import Workbench.Proofs.Tool.Finding
namespace Workbench

/-!
# Going to a hit

A search of a file and the window onto it number the same lines, although the search reads bytes
and cuts them for itself.  So a command can take up the number of a hit: going to it is never
turned down, and the window then shows the line of the hit under its number.  The search looks
at all bytes of the file only if none of them is zero, and it takes a byte order mark off, which
the window shows as a character of the first line; files with either are left out.
-/

namespace Viewer

theorem opener_mem (settings : Settings) :
    (⟨openDefinition, openFile settings.window⟩ : Tool Action) ∈ Standard.tools settings :=
  Standard.mem_tools_iff.mpr (by simp)

theorem mover_mem (settings : Settings) :
    (⟨goToDefinition, goToLine settings.window⟩ : Tool Action) ∈ Standard.tools settings :=
  Standard.mem_tools_iff.mpr (by simp)

end Viewer

namespace Search

theorem searcher_mem (settings : Settings) :
    (⟨inFileDefinition, inFile settings.search⟩ : Tool Action) ∈ Standard.tools settings :=
  Standard.mem_tools_iff.mpr (by simp)

end Search

namespace Reading

open Viewer (goToDefinition)

theorem not_isFlag_write (number : Nat) : ¬ IsFlag (Decimal.write number) := by
  rintro ⟨⟨rest, dashes⟩, _⟩
  have dash : '-' ∈ (Decimal.write number).toList := by
    rw [← dashes]
    exact List.mem_cons_self
  exact absurd (Decimal.isDigit_of_mem_write dash) (by decide)

theorem resolve_goTo (number : Nat) :
    resolve goToDefinition [Decimal.write number] =
      .ok ⟨"goto", Dictionary.empty.insert "line_number" (Decimal.write number)⟩ := by
  have sorted : sort [Decimal.write number] = ⟨[], [Decimal.write number]⟩ := by
    rw [sort_word (flagName?_of_not_isFlag (not_isFlag_write number))]
    rfl
  rw [resolve, sorted]
  rfl

/-- A command that goes to a written number gives this number. -/
theorem read_goTo {settings : Settings} {catalog : Catalog Action}
    (standard : Standard.catalog settings = .ok catalog) (number : Nat) :
    read catalog.find? (commandText "goto" (Decimal.write number)) =
      .ok (some ⟨"goto", Dictionary.empty.insert "line_number" (Decimal.write number)⟩) := by
  have member : (⟨goToDefinition, Viewer.goToLine settings.window⟩ : Tool Action) ∈
      catalog.tools := by
    rw [Standard.tools_of_catalog standard]
    exact Viewer.mover_mem settings
  have filled : "goto".toList ≠ [] := by
    decide
  have solid : ∀ character ∈ "goto".toList, isBlank character = false :=
    List.all_iff_forall_prop.mp (by decide)
  have whole : Token.Whole "goto".toList :=
    .unquoted (List.all_iff_forall_prop.mp (by decide))
  have ends : EndsSolid (Decimal.write number) :=
    fun _ last => (Token.isPlain_of_mem_write (List.mem_of_getLast? last)).2
  have given : read catalog.find? (commandText "goto" (Decimal.write number)) =
      (resolve goToDefinition
        (operands (Text.trim (commandText "goto" (Decimal.write number)).toList))).map some :=
    read_commandText member filled solid rfl (Decimal.write number)
  rw [given, operands_of_whole filled solid whole ends, Token.scan_write, List.map_singleton,
    String.ofList_toList, resolve_goTo]
  rfl

end Reading

namespace Call

/-- The command that goes to a line shows a window, and this line stands in it under this number,
unless windows are empty. -/
def Reaches (settings : Settings) (catalog : Catalog Action) (environment : Environment)
    (world : World) (place : Place) (lines : List String) (number : Nat) : Prop :=
  ∃ first line,
    take catalog
        ⟨environment, world.tree, Reading.commandText "goto" (Decimal.write number)⟩ world.memory =
      (some ⟨Window.render settings.window (environment.display place) lines first, false⟩,
        Viewer.remember environment world place first) ∧
    lines[number - 1]? = some line ∧
    (0 < settings.window.lines →
      Decimal.write number ++ ":" ++ line ∈ Window.rows settings.window lines first)

end Call

namespace Search

/-- The hits of a term count the lines of a file as its window does.  The hits are those lines
that hold the term, a search reports them, a window can be moved to each of them, and for the
empty term there are as many of them as the window reports lines. -/
structure CountsAlike (settings : Settings) (catalog : Catalog Action) (environment : Environment)
    (tree : Node) (place : Place) (term : String) (lines : List String) (hits : List Hit) :
    Prop where
  listed : Hit.Lists term 1 lines hits
  searched : ∀ text arguments memory,
    Reading.read catalog.find? text = .ok (some ⟨"search_file", arguments⟩) →
    arguments.get? "search_term" = some term →
    target environment arguments ⟨tree, memory⟩ = .ok place →
      Call.take catalog ⟨environment, tree, text⟩ memory =
        (some ⟨listing settings.search term (environment.display place) hits, false⟩,
          ⟨tree, memory⟩)
  opened : ∀ text arguments path memory,
    Reading.read catalog.find? text = .ok (some ⟨"open", arguments⟩) →
    arguments.get? "path" = some path → environment.resolve path = .ok place →
    arguments.get? "line_number" = none →
      Call.take catalog ⟨environment, tree, text⟩ memory =
        (some ⟨Window.render settings.window (environment.display place) lines 1, false⟩,
          Viewer.remember environment ⟨tree, memory⟩ place 1)
  reached : ∀ hit ∈ hits, hit.number ≤ Decimal.largest → ∀ memory,
    Viewer.openPlace environment ⟨tree, memory⟩ = .ok place →
      Call.Reaches settings catalog environment ⟨tree, memory⟩ place lines hit.number
  counted : term = "" → ∀ first, ∃ rest,
    Window.render settings.window (environment.display place) lines first =
      "[File: " ++ environment.display place ++ " (" ++ Decimal.write hits.length ++
        " lines total)]" ++ rest

end Search

namespace Call

variable {settings : Settings} {catalog : Catalog Action} {environment : Environment} {tree : Node}
  {place : Place} {content : String} {executable : Bool}

/-- Going to the number of a hit shows the window around the line of the hit. -/
theorem goes_to_hit (standard : Standard.catalog settings = .ok catalog)
    (held : tree.find? environment.host.standing place.text =
      some (.file content.toUTF8 executable))
    {term : String} {hits : List Hit} (listed : Hit.Lists term 1 (Window.linesOf content) hits)
    {hit : Hit} (member : hit ∈ hits) (small : hit.number ≤ Decimal.largest) {memory : Memory}
    (opened : Viewer.openPlace environment ⟨tree, memory⟩ = .ok place) :
    Reaches settings catalog environment ⟨tree, memory⟩ place (Window.linesOf content)
      hit.number := by
  rcases (listed.members hit).mp member with ⟨offset, line, found, counted, _, _⟩
  have inside := (List.getElem?_eq_some_iff.mp found).1
  have positive : 1 ≤ hit.number := by
    omega
  have fits : hit.number ≤ (Window.linesOf content).length := by
    omega
  have numbered : (Window.linesOf content)[hit.number - 1]? = some line := by
    rw [counted, Nat.add_sub_cancel_left, found]
  have given : (Dictionary.empty.insert "line_number" (Decimal.write hit.number)).get?
      "line_number" = some (Decimal.write hit.number) := rfl
  have read : Viewer.contentOf environment ⟨tree, memory⟩ place = .ok content :=
    Viewer.contentOf_of_find? held
  refine ⟨Window.clamp settings.window (Window.linesOf content).length
    (Window.centered settings.window hit.number), line, ?_, numbered, ?_⟩
  · rw [take_of_mem standard (Viewer.mover_mem settings) (Reading.read_goTo standard hit.number)]
    simp only [Viewer.goToLine_of_write opened read given small positive fits]
    rfl
  · intro tall
    rcases Window.centered_holds tall positive fits with ⟨above, below⟩
    exact Window.mem_rows numbered (Window.one_le_clamp settings.window _ _) above below

/-- A search and a window count the lines of every regular file alike whose content is a text
without zero characters and without a byte order mark, for every term without a carriage return. -/
theorem search_counts_like_window (settings : Settings) :
    ∃ catalog, Standard.catalog settings = .ok catalog ∧
      ∀ (environment : Environment) (tree : Node) (place : Place) (content : String)
        (executable : Bool) (term : String),
        tree.find? environment.host.standing place.text =
            some (.file content.toUTF8 executable) →
          '\x00' ∉ content.toList → content.toList.head? ≠ some '\ufeff' →
          '\r' ∉ term.toList →
            ∃ hits, Search.CountsAlike settings catalog environment tree place term
              (Window.linesOf content) hits := by
  rcases Standard.exists_catalog settings with ⟨catalog, standard⟩
  refine ⟨catalog, standard, fun environment tree place content executable term held clear
    unmarked plain => ⟨Hit.inFile term content.toUTF8, ?_⟩⟩
  have listed := Hit.lists_inFile clear unmarked plain
  refine ⟨listed, ?_, ?_, fun hit member small memory opened =>
    goes_to_hit standard held listed member small opened, ?_⟩
  · intro text arguments memory given asked sought
    rw [take_of_mem standard (Search.searcher_mem settings) given]
    simp only [Search.inFile_of_find? asked sought held]
    rfl
  · intro text arguments path memory given asked resolved unasked
    have shown : Viewer.openFile settings.window environment arguments ⟨tree, memory⟩ = _ :=
      Viewer.openFile_of_find? asked resolved unasked held
    rw [take_of_mem standard (Viewer.opener_mem settings) given]
    simp only [shown]
    rfl
  · intro empty first
    have all : ∀ line ∈ Window.linesOf content, term.toList <:+: line.toList := by
      intro line _
      rw [empty]
      exact List.nil_infix
    rw [listed.length_of_forall all]
    exact Window.exists_render settings.window _ _ first

end Call

namespace Sample

/-- A text with both line ends, an empty line and a carriage return without a line feed. -/
def mixed : String :=
  "one\r\ntwo\n\r\nalso one \r"

def mixedLines : List String :=
  ["one", "two", "", "also one \r"]

def searchArguments : Arguments :=
  (Dictionary.empty.insert "search_term" "one").insert "file" "a.txt"

theorem read_search {catalog : Catalog Action} (standard : Standard.catalog {} = .ok catalog) :
    Reading.read catalog.find? "search_file one a.txt" =
      .ok (some ⟨"search_file", searchArguments⟩) := by
  have begins : Text.firstWord? "search_file one a.txt".toList = some "search_file".toList := by
    decide
  rw [Reading.read_eq_readAs (Standard.named?_of_mem standard (Search.searcher_mem {}) begins)]
  rfl

theorem find?_mixed :
    (tree "" mixed).find? environment.host.standing (Place.text ⟨true, ["ws", "a.txt"]⟩) =
      some (.file mixed.toUTF8 false) := by
  rfl

end Sample

/-- The last line of such a text is found under its number, and the window goes there. -/
theorem Call.search_counts_like_window_of_mixed_ends :
    ∃ catalog, Standard.catalog {} = .ok catalog ∧ ∃ hits,
      Search.CountsAlike {} catalog Sample.environment (Sample.tree "" Sample.mixed)
        ⟨true, ["ws", "a.txt"]⟩ "one" Sample.mixedLines hits ∧
      Call.take catalog
          ⟨Sample.environment, Sample.tree "" Sample.mixed, "search_file one a.txt"⟩ Memory.empty =
        (some ⟨Search.listing {} "one" "a.txt" hits, false⟩,
          ⟨Sample.tree "" Sample.mixed, Memory.empty⟩) ∧
      ⟨4, "also one"⟩ ∈ hits ∧
      Call.Reaches {} catalog Sample.environment (Sample.world "" Sample.mixed "a.txt")
        ⟨true, ["ws", "a.txt"]⟩ Sample.mixedLines 4 := by
  rcases Call.search_counts_like_window {} with ⟨catalog, standard, counts⟩
  rcases counts Sample.environment (Sample.tree "" Sample.mixed) ⟨true, ["ws", "a.txt"]⟩
    Sample.mixed false "one" Sample.find?_mixed (by decide) (by decide) (by decide) with
    ⟨hits, alike⟩
  have lines : Window.linesOf Sample.mixed = Sample.mixedLines := by
    decide
  rw [lines] at alike
  have last : ⟨4, "also one"⟩ ∈ hits :=
    (alike.listed.members _).mpr ⟨3, "also one \r", rfl, rfl, by decide, by decide⟩
  refine ⟨catalog, standard, hits, alike, ?_, last, ?_⟩
  · exact alike.searched _ _ _ (Sample.read_search standard) rfl rfl
  · exact alike.reached _ last (by decide) _ (Sample.openPlace_world "" Sample.mixed)

end Workbench
