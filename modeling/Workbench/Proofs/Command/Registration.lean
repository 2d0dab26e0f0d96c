import Workbench.Command.Reading
import Workbench.Proofs.Text.Bytes
import Workbench.Proofs.Text.Decimal
import Workbench.Tool.Standard
import Mathlib.Data.List.Nodup
namespace Workbench

/-!
# Registered tools

Registering tools either stops at the first defect or gives a catalog in which
every tool is one of those that were registered.  No tool of the standard
catalog has a defect, under any settings: the one text among their definitions
that depends on the settings is a number, and numbers are written on one line.
-/

variable {Action : Type}

namespace Shelf

theorem mem_put {tool other : Tool Action} {tools : List (Tool Action)}
    (member : other ∈ put tool tools) : other = tool ∨ other ∈ tools := by
  induction tools with
  | nil =>
      rw [put, List.mem_singleton] at member
      exact Or.inl member
  | cons first rest inductionHypothesis =>
      unfold put at member
      split at member
      · rcases List.mem_cons.mp member with new | kept
        · exact Or.inl new
        · exact Or.inr (List.mem_cons_of_mem first kept)
      · rcases List.mem_cons.mp member with same | later
        · exact Or.inr (same ▸ List.mem_cons_self)
        · rcases inductionHypothesis later with new | kept
          · exact Or.inl new
          · exact Or.inr (List.mem_cons_of_mem first kept)

/-- A tool with a new name comes last. -/
theorem put_of_fresh {tool : Tool Action} {tools : List (Tool Action)}
    (fresh : tool.name ∉ tools.map Tool.name) : put tool tools = tools ++ [tool] := by
  induction tools with
  | nil => rfl
  | cons first rest inductionHypothesis =>
      rw [List.map_cons, List.mem_cons, not_or] at fresh
      have different : first.name ≠ tool.name := fun same => fresh.1 same.symm
      rw [put, if_neg different, inductionHypothesis fresh.2, List.cons_append]

end Shelf

namespace Catalog

theorem register_of_sound {tool : Tool Action} (sound : tool.definition.defect? = none)
    (catalog : Catalog Action) : catalog.register tool = .ok (catalog.put tool) := by
  rw [register, sound]

theorem mem_of_register {catalog larger : Catalog Action} {tool other : Tool Action}
    (registered : catalog.register tool = .ok larger) (member : other ∈ larger.tools) :
    other = tool ∨ other ∈ catalog.tools := by
  unfold register at registered
  split at registered
  · cases registered
  · cases registered
    exact Shelf.mem_put member

/-- A registered catalog holds no tools but the earlier ones and the given ones. -/
theorem mem_of_registerAll {tools : List (Tool Action)} {catalog larger : Catalog Action}
    {other : Tool Action} (registered : catalog.registerAll tools = .ok larger)
    (member : other ∈ larger.tools) : other ∈ catalog.tools ∨ other ∈ tools := by
  induction tools generalizing catalog with
  | nil =>
      cases registered
      exact Or.inl member
  | cons tool others inductionHypothesis =>
      unfold registerAll at registered
      cases first : catalog.register tool with
      | error failure => rw [first] at registered; cases registered
      | ok next =>
          rw [first] at registered
          rcases inductionHypothesis registered with earlier | given
          · rcases mem_of_register first earlier with new | kept
            · exact Or.inr (new ▸ List.mem_cons_self)
            · exact Or.inl kept
          · exact Or.inr (List.mem_cons_of_mem tool given)

/-- Tools without defects can always be registered. -/
theorem exists_registerAll {tools : List (Tool Action)}
    (sound : ∀ tool ∈ tools, tool.definition.defect? = none) (catalog : Catalog Action) :
    ∃ larger, catalog.registerAll tools = .ok larger := by
  induction tools generalizing catalog with
  | nil => exact ⟨catalog, rfl⟩
  | cons tool others inductionHypothesis =>
      rw [registerAll, register_of_sound (sound tool List.mem_cons_self)]
      exact inductionHypothesis
        (fun other member => sound other (List.mem_cons_of_mem tool member)) (catalog.put tool)

/-- Registering sound tools with new names adds them in order. -/
theorem tools_of_registerAll {tools : List (Tool Action)}
    (sound : ∀ tool ∈ tools, tool.definition.defect? = none) {catalog larger : Catalog Action}
    (distinct : ((catalog.tools ++ tools).map Tool.name).Nodup)
    (registered : catalog.registerAll tools = .ok larger) :
    larger.tools = catalog.tools ++ tools := by
  induction tools generalizing catalog with
  | nil =>
      cases registered
      rw [List.append_nil]
  | cons tool others inductionHypothesis =>
      rcases List.forall_mem_cons.mp sound with ⟨soundTool, soundOthers⟩
      rw [registerAll, register_of_sound soundTool] at registered
      have fresh : tool.name ∉ catalog.tools.map Tool.name := by
        intro member
        rw [List.map_append] at distinct
        have apart := (List.nodup_append.mp distinct).2.2
        exact apart tool.name member tool.name (List.mem_map_of_mem List.mem_cons_self) rfl
      have added : (catalog.put tool).tools = catalog.tools ++ [tool] := Shelf.put_of_fresh fresh
      rw [List.append_cons, ← added] at distinct
      rw [inductionHypothesis soundOthers distinct registered, added, List.append_assoc,
        List.singleton_append]

/-- The catalog has come about by registering tools, one after the other. -/
inductive Built : Catalog Action → Prop where
  | empty : Built empty
  | register {catalog larger : Catalog Action} {tool : Tool Action} (built : Built catalog)
      (registered : catalog.register tool = .ok larger) : Built larger

theorem Built.put {catalog : Catalog Action} (built : Built catalog) {tool : Tool Action}
    (sound : tool.definition.defect? = none) : Built (catalog.put tool) :=
  .register built (register_of_sound sound catalog)

theorem Built.registerAll {tools : List (Tool Action)} {catalog larger : Catalog Action}
    (built : Built catalog) (registered : catalog.registerAll tools = .ok larger) :
    Built larger := by
  induction tools generalizing catalog with
  | nil =>
      cases registered
      exact built
  | cons tool others inductionHypothesis =>
      unfold Catalog.registerAll at registered
      cases first : catalog.register tool with
      | error failure => rw [first] at registered; cases registered
      | ok next =>
          rw [first] at registered
          exact inductionHypothesis (.register built first) registered

/-- No tool of a registered catalog has a defect. -/
theorem Built.sound {catalog : Catalog Action} (built : Built catalog) {tool : Tool Action}
    (member : tool ∈ catalog.tools) : tool.definition.defect? = none := by
  induction built with
  | empty => cases member
  | @register catalog larger added built registered inductionHypothesis =>
      rcases mem_of_register registered member with new | kept
      · rw [new]
        unfold Catalog.register at registered
        split at registered
        · cases registered
        · assumption
      · exact inductionHypothesis kept

/-- A tool of the catalog is the one that its name finds. -/
theorem tool?_of_mem {catalog : Catalog Action} {tool : Tool Action}
    (member : tool ∈ catalog.tools) : catalog.tool? tool.name = some tool := by
  cases found : catalog.tool? tool.name with
  | none =>
      have passed := List.find?_eq_none.mp found tool member
      exact absurd (beq_self_eq_true tool.name) passed
  | some other =>
      have listed := List.mem_of_find?_eq_some found
      have named : other.name = tool.name := by
        simpa using List.find?_some found
      rw [List.inj_on_of_nodup_map catalog.distinct listed member named]

theorem find?_of_mem {catalog : Catalog Action} {tool : Tool Action}
    (member : tool ∈ catalog.tools) : catalog.find? tool.name = some tool.definition := by
  rw [find?, tool?_of_mem member]
  rfl

theorem tool?_eq_some {catalog : Catalog Action} {name : String} {tool : Tool Action}
    (found : catalog.tool? name = some tool) : tool ∈ catalog.tools ∧ tool.name = name := by
  unfold tool? at found
  constructor
  · exact List.mem_of_find?_eq_some found
  · simpa using List.find?_some found

/-- A definition that a text's first word names is the one of the tool with this name. -/
theorem exists_tool_of_named {catalog : Catalog Action} {text : List Char}
    {definition : Definition} (named : Reading.named? catalog.find? text = some definition) :
    ∃ tool, tool.definition = definition ∧ Text.firstWord? text = some tool.name.toList ∧
      catalog.tool? tool.name = some tool := by
  rcases Option.bind_eq_some_iff.mp named with ⟨word, begins, found⟩
  rcases Option.map_eq_some_iff.mp found with ⟨tool, held, same⟩
  have toolName := (tool?_eq_some held).2
  refine ⟨tool, same, ?_, ?_⟩
  · rw [begins, toolName, String.toList_ofList]
  · rw [toolName, held]

end Catalog

namespace Definition

theorem defect?_eq_none {definition : Definition}
    (named : Text.isBlankOnly definition.name.toList = false)
    (solid : definition.name.toList.any isBlank = false)
    (signed : Text.isBlankOnly definition.signature.toList = false)
    (lines : ∀ text ∈ definition.singleLines, '\n' ∉ text.toList) :
    definition.defect? = none := by
  have single : definition.singleLines.any (fun text => text.toList.contains '\n') = false := by
    rw [List.any_eq_false]
    intro text member contained
    exact lines text member (List.contains_iff_mem.mp contained)
  rw [defect?, named, solid, signed, single]
  rfl

/-- The name of a definition without defects is a word. -/
theorem solid_of_defect? {definition : Definition} (sound : definition.defect? = none) :
    definition.name.toList ≠ [] ∧
      ∀ character ∈ definition.name.toList, isBlank character = false := by
  unfold defect? at sound
  split at sound
  · cases sound
  · rename_i named
    split at sound
    · cases sound
    · rename_i solid
      constructor
      · intro none
        apply named
        rw [none]
        rfl
      · intro character member
        apply Bool.eq_false_iff.mpr
        intro blank
        apply solid
        exact List.any_eq_true.mpr ⟨character, member, blank⟩

end Definition

/-- The name of a tool in a registered catalog is a word. -/
theorem Catalog.Built.solid_name {catalog : Catalog Action} (built : catalog.Built)
    {tool : Tool Action} (member : tool ∈ catalog.tools) :
    tool.name.toList ≠ [] ∧ ∀ character ∈ tool.name.toList, isBlank character = false :=
  Definition.solid_of_defect? (built.sound member)

namespace Standard

/-- The summary of a scroll is on one line, whatever its step. -/
theorem singleLines_scrollDefinition (settings : WindowSettings) (direction : Viewer.Direction) :
    ∀ text ∈ (Viewer.scrollDefinition settings direction).singleLines, '\n' ∉ text.toList := by
  intro text member
  have number := Decimal.lineFeed_not_mem_write settings.step
  have word : '\n' ∉ direction.word.toList := by
    cases direction with
    | up => decide
    | down => decide
  simp only [Definition.singleLines, Viewer.scrollDefinition, List.map_nil, List.mem_cons,
    List.not_mem_nil, or_false] at member
  rcases member with signature | summary
  · simp [signature, String.toList_append, word]
  · simp [summary, String.toList_append, word, number]

theorem defect?_scrollDefinition (settings : WindowSettings) (direction : Viewer.Direction) :
    (Viewer.scrollDefinition settings direction).defect? = none := by
  have named : (Viewer.scrollDefinition settings direction).name = "scroll_" ++ direction.word :=
    rfl
  have signed : (Viewer.scrollDefinition settings direction).signature =
      "scroll_" ++ direction.word := rfl
  apply Definition.defect?_eq_none _ _ _ (singleLines_scrollDefinition settings direction)
  · rw [named]
    cases direction <;> decide
  · rw [named]
    cases direction <;> decide
  · rw [signed]
    cases direction <;> decide

/-- The byte of a line feed. -/
def lineFeed : UInt8 := 10

/-- A line feed shows in the bytes of a text, which are quicker to search than its
characters. -/
theorem lineFeed_mem_bytes {text : String} (member : '\n' ∈ text.toList) :
    lineFeed ∈ text.toByteArray.data.toList := by
  rw [← String.toUTF8_eq_toByteArray, Text.toList_toUTF8]
  exact (Text.ascii_mem_encoded_iff (by decide)).mpr member

/-- The definitions that do not depend on settings. -/
def fixed : List Definition :=
  [Viewer.openDefinition, Viewer.goToDefinition, Viewer.createDefinition, Viewer.editDefinition,
    Search.inDirectoryDefinition, Search.inFileDefinition, Search.byNameDefinition,
    Variables.readDefinition, Variables.writeDefinition, Web.definition, PullRequest.definition]

theorem defect?_of_mem_fixed {definition : Definition} (member : definition ∈ fixed) :
    definition.defect? = none := by
  have named : ∀ definition ∈ fixed, Text.isBlankOnly definition.name.toList = false := by
    decide +kernel
  have solid : ∀ definition ∈ fixed, definition.name.toList.any isBlank = false := by
    decide +kernel
  have signed : ∀ definition ∈ fixed, Text.isBlankOnly definition.signature.toList = false := by
    decide +kernel
  have lines : ∀ definition ∈ fixed, ∀ text ∈ definition.singleLines,
      lineFeed ∉ text.toByteArray.data.toList := by
    decide +kernel
  exact Definition.defect?_eq_none (named definition member) (solid definition member)
    (signed definition member)
    (fun text listed here => lines definition member text listed (lineFeed_mem_bytes here))

/-- The standard tools, one by one. -/
theorem mem_tools_iff {settings : Settings} {tool : Tool Workbench.Action} :
    tool ∈ tools settings ↔
      tool = ⟨Viewer.openDefinition, Viewer.openFile settings.window⟩ ∨
      tool = ⟨Viewer.goToDefinition, Viewer.goToLine settings.window⟩ ∨
      tool = ⟨Viewer.scrollDefinition settings.window .down,
        Viewer.scroll settings.window .down⟩ ∨
      tool = ⟨Viewer.scrollDefinition settings.window .up, Viewer.scroll settings.window .up⟩ ∨
      tool = ⟨Viewer.createDefinition, Viewer.create settings.window⟩ ∨
      tool = ⟨Viewer.editDefinition, Viewer.edit settings.window⟩ ∨
      tool = ⟨Search.inDirectoryDefinition, Search.inDirectory settings.search⟩ ∨
      tool = ⟨Search.inFileDefinition, Search.inFile settings.search⟩ ∨
      tool = ⟨Search.byNameDefinition, Search.byName settings.search⟩ ∨
      tool = ⟨Variables.readDefinition, Variables.read⟩ ∨
      tool = ⟨Variables.writeDefinition, Variables.write⟩ ∨
      tool = ⟨Web.definition, Web.search settings.web⟩ ∨
      tool = ⟨PullRequest.definition, PullRequest.create settings.pullRequest⟩ := by
  simp only [tools, Viewer.tools, Search.tools, Variables.tools, Web.tools, PullRequest.tools,
    List.cons_append, List.nil_append, List.mem_cons, List.not_mem_nil, or_false]

/-- No definition of the standard catalog has a defect. -/
theorem defect?_of_mem_tools {settings : Settings} {tool : Tool Workbench.Action}
    (member : tool ∈ tools settings) : tool.definition.defect? = none := by
  rcases mem_tools_iff.mp member with
    rfl | rfl | rfl | rfl | rfl | rfl | rfl | rfl | rfl | rfl | rfl | rfl | rfl
  case inr.inr.inl => exact defect?_scrollDefinition settings.window .down
  case inr.inr.inr.inl => exact defect?_scrollDefinition settings.window .up
  all_goals exact defect?_of_mem_fixed (by simp [fixed])

/-- The standard catalog can be built under any settings. -/
theorem exists_catalog (settings : Settings) : ∃ built, catalog settings = .ok built :=
  Catalog.exists_registerAll (fun _ member => defect?_of_mem_tools member) Catalog.empty

theorem nodup_names_tools (settings : Settings) : ((tools settings).map Tool.name).Nodup := by
  have names : (tools settings).map Tool.name =
      ["open", "goto", "scroll_down", "scroll_up", "create", "edit", "search_dir", "search_file",
        "find_file", "read_env", "write_env", "web_search", "create_pr"] := rfl
  rw [names]
  decide

/-- The standard catalog holds the standard tools and no others. -/
theorem tools_of_catalog {settings : Settings} {built : Catalog Workbench.Action}
    (standard : catalog settings = .ok built) : built.tools = tools settings := by
  have sound : ∀ tool ∈ tools settings, tool.definition.defect? = none :=
    fun _ member => defect?_of_mem_tools member
  have distinct : (((Catalog.empty : Catalog Workbench.Action).tools ++ tools settings).map
      Tool.name).Nodup := nodup_names_tools settings
  exact Catalog.tools_of_registerAll sound distinct standard

/-- The tool of a name in the standard catalog is the standard tool of that name. -/
theorem mem_tools_of_tool? {settings : Settings} {built : Catalog Workbench.Action}
    (standard : catalog settings = .ok built) {name : String} {tool : Tool Workbench.Action}
    (found : built.tool? name = some tool) : tool ∈ tools settings ∧ tool.name = name := by
  obtain ⟨member, named⟩ := Catalog.tool?_eq_some found
  rcases Catalog.mem_of_registerAll standard member with impossible | given
  · cases impossible
  · exact ⟨given, named⟩

theorem built_of_catalog {settings : Settings} {built : Catalog Workbench.Action}
    (standard : catalog settings = .ok built) : built.Built :=
  Catalog.Built.empty.registerAll standard

/-- A text that begins with the name of a standard tool calls this tool. -/
theorem named?_of_mem {settings : Settings} {built : Catalog Workbench.Action}
    (standard : catalog settings = .ok built) {tool : Tool Workbench.Action}
    (member : tool ∈ tools settings) {text : List Char}
    (begins : Text.firstWord? text = some tool.name.toList) :
    Reading.named? built.find? text = some tool.definition := by
  rw [Reading.named?, begins, Option.bind_some, String.ofList_toList]
  apply Catalog.find?_of_mem
  rw [tools_of_catalog standard]
  exact member

end Standard

/-! ## Small catalogs -/

namespace Sample

/-- A catalog with one tool, whose action is left out. -/
def searching : Catalog Unit :=
  Catalog.empty.put ⟨Search.inDirectoryDefinition, ()⟩

theorem built_searching : searching.Built := by
  apply Catalog.Built.empty.put
  exact Standard.defect?_of_mem_fixed (by simp [Standard.fixed])

/-- A catalog with one tool that takes a block. -/
def editing : Catalog Unit :=
  Catalog.empty.put ⟨Viewer.editDefinition, ()⟩

theorem built_editing : editing.Built := by
  apply Catalog.Built.empty.put
  exact Standard.defect?_of_mem_fixed (by simp [Standard.fixed])

end Sample

end Workbench
