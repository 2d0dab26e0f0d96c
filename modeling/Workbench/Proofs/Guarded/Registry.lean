import Workbench.Proofs.Command.Registration
import Workbench.Proofs.Dictionary
import Workbench.Proofs.Guarded.Word
namespace Workbench

/-!
# The registry and its slots

A catalog finds a tool by going through the list.  The process keeps its tools in a vector and
beside it an index from names to slots of the vector, and reads the slots without looking.  An
index that is built along with the vector always has the slot in which the tool of the name
stands, so no slot is ever out of range, and the registry answers like the catalog.
-/

/-- Putting a tool on a shelf is setting the item at the place of its name, or adding one. -/
theorem Shelf.put_eq {Action : Type} (tool : Tool Action) (tools : List (Tool Action)) :
    Shelf.put tool tools =
      match (tools.map Tool.name).findIdx? (· == tool.name) with
      | some slot => tools.set slot tool
      | none => tools ++ [tool] := by
  induction tools with
  | nil => rfl
  | cons other rest inductionHypothesis =>
      rw [Shelf.put, List.map_cons, List.findIdx?_cons]
      by_cases same : other.name = tool.name
      · simp [same]
      · simp only [same, if_false, beq_eq_false_iff_ne.mpr same, Bool.false_eq_true,
          inductionHypothesis]
        cases (rest.map Tool.name).findIdx? (· == tool.name) with
        | none => rfl
        | some slot => rfl

namespace Guarded

/-- Tools in a vector, with the slot of each name. -/
structure Registry (Action : Type) where
  entries : List (Tool Action)
  index : Dictionary Nat

variable {Action : Type}

namespace Registry

def empty : Registry Action :=
  ⟨[], Dictionary.empty⟩

/-- Registers a tool: in the slot of its name, or in a new one at the end. -/
def register (registry : Registry Action) (tool : Tool Action) :
    Run (Except Failure (Registry Action)) :=
  match tool.definition.defect? with
  | some defect => .ok (.error (.badDefinition defect))
  | none =>
    match registry.index.get? tool.name with
    | some slot => do
      let entries ← assign registry.entries slot tool
      pure (.ok { registry with entries := entries })
    | none =>
      pure (.ok ⟨registry.entries ++ [tool],
        registry.index.insert tool.name registry.entries.length⟩)

/-- Registers tools one after the other, up to the first defect. -/
def registerAll (registry : Registry Action) :
    List (Tool Action) → Run (Except Failure (Registry Action))
  | [] => pure (.ok registry)
  | tool :: others => do
    match ← registry.register tool with
    | .error failure => pure (.error failure)
    | .ok larger => larger.registerAll others

def tool? (registry : Registry Action) (name : String) : Run (Option (Tool Action)) :=
  match registry.index.get? name with
  | none => pure none
  | some slot => do
    let tool ← item registry.entries slot
    pure (some tool)

def find? (registry : Registry Action) (name : String) : Run (Option Definition) :=
  match registry.index.get? name with
  | none => pure none
  | some slot => do
    let tool ← item registry.entries slot
    pure (some tool.definition)

/-- The registry holds the tools of the catalog, and its index knows where. -/
structure Holds (registry : Registry Action) (catalog : Catalog Action) : Prop where
  entries : registry.entries = catalog.tools
  slots : ∀ name, registry.index.get? name = catalog.names.findIdx? (· == name)

theorem holds_empty : Holds (empty : Registry Action) Catalog.empty where
  entries := rfl
  slots := fun _ => rfl

end Registry

namespace Registry

variable {registry : Registry Action} {catalog : Catalog Action}

/-- The slot of a name is in range, and its tool is the one of this name. -/
theorem Holds.exists_of_slot (holds : Holds registry catalog) {name : String} {slot : Nat}
    (known : registry.index.get? name = some slot) :
    ∃ tool, registry.entries[slot]? = some tool ∧ catalog.tool? name = some tool := by
  rw [holds.slots, List.findIdx?_eq_some_iff_getElem] at known
  rcases known with ⟨inside, same, _⟩
  have listed : slot < catalog.tools.length := by
    simpa [Catalog.names] using inside
  have named : (catalog.tools[slot]).name = name := by
    simpa [Catalog.names] using same
  refine ⟨catalog.tools[slot], ?_, ?_⟩
  · rw [holds.entries, List.getElem?_eq_getElem listed]
  · rw [← named]
    exact Catalog.tool?_of_mem (List.getElem_mem listed)

theorem Holds.tool?_of_no_slot (holds : Holds registry catalog) {name : String}
    (unknown : registry.index.get? name = none) : catalog.tool? name = none := by
  rw [holds.slots, List.findIdx?_eq_none_iff] at unknown
  apply List.find?_eq_none.mpr
  intro tool member
  rw [unknown tool.name (List.mem_map_of_mem member)]
  decide

theorem tool?_eq (holds : Holds registry catalog) (name : String) :
    registry.tool? name = .ok (catalog.tool? name) := by
  unfold tool?
  split
  · rename_i unknown
    rw [holds.tool?_of_no_slot unknown]
    rfl
  · rename_i slot known
    rcases holds.exists_of_slot known with ⟨tool, there, found⟩
    rw [item_of_some there, found]
    rfl

theorem find?_eq (holds : Holds registry catalog) (name : String) :
    registry.find? name = .ok (catalog.find? name) := by
  unfold find? Catalog.find?
  split
  · rename_i unknown
    rw [holds.tool?_of_no_slot unknown]
    rfl
  · rename_i slot known
    rcases holds.exists_of_slot known with ⟨tool, there, found⟩
    rw [item_of_some there, found]
    rfl

/-- Two ways to register come to the same. -/
inductive Alike : Except Failure (Registry Action) → Except Failure (Catalog Action) → Prop where
  | refused (failure : Failure) : Alike (.error failure) (.error failure)
  | accepted {registry : Registry Action} {catalog : Catalog Action}
      (holds : Holds registry catalog) : Alike (.ok registry) (.ok catalog)

theorem Holds.put_new (holds : Holds registry catalog) {tool : Tool Action}
    (unknown : registry.index.get? tool.name = none) :
    Holds ⟨registry.entries ++ [tool],
      registry.index.insert tool.name registry.entries.length⟩ (catalog.put tool) := by
  have absent : (catalog.tools.map Tool.name).findIdx? (· == tool.name) = none :=
    (holds.slots tool.name).symm.trans unknown
  have added : (catalog.put tool).tools = catalog.tools ++ [tool] :=
    (Shelf.put_eq tool catalog.tools).trans (by rw [absent])
  constructor
  · rw [added, ← holds.entries]
  · intro name
    have names : (catalog.put tool).names = catalog.names ++ [tool.name] := by
      rw [Catalog.names, added, List.map_append]
      rfl
    rw [names, List.findIdx?_append, ← holds.slots, Dictionary.get?_insert]
    by_cases same : name = tool.name
    · rw [if_pos same, same, unknown, holds.entries]
      simp [Catalog.names]
    · have different : (tool.name == name) = false := beq_eq_false_iff_ne.mpr (Ne.symm same)
      rw [if_neg same]
      simp [different]

theorem Holds.put_again (holds : Holds registry catalog) {tool : Tool Action} {slot : Nat}
    (known : registry.index.get? tool.name = some slot) :
    Holds { registry with entries := registry.entries.set slot tool } (catalog.put tool) := by
  have here : (catalog.tools.map Tool.name).findIdx? (· == tool.name) = some slot :=
    (holds.slots tool.name).symm.trans known
  have listed : tool.name ∈ catalog.tools.map Tool.name := by
    rcases List.findIdx?_eq_some_iff_getElem.mp here with ⟨inside, same, _⟩
    rw [← eq_of_beq same]
    exact List.getElem_mem inside
  constructor
  · have changed : (catalog.put tool).tools = catalog.tools.set slot tool :=
      (Shelf.put_eq tool catalog.tools).trans (by rw [here])
    rw [changed, holds.entries]
  · intro name
    have names : (catalog.put tool).names = catalog.names := by
      rw [Catalog.names, Catalog.put, Shelf.names_put, if_pos listed]
      rfl
    rw [names, ← holds.slots]

/-- Registering never aborts and comes to what it comes to in the catalog. -/
theorem register_alike (holds : Holds registry catalog) (tool : Tool Action) :
    ∃ outcome, registry.register tool = .ok outcome ∧ Alike outcome (catalog.register tool) := by
  unfold register Catalog.register
  cases tool.definition.defect? with
  | some defect => exact ⟨_, rfl, .refused _⟩
  | none =>
      cases known : registry.index.get? tool.name with
      | none => exact ⟨_, rfl, .accepted (holds.put_new known)⟩
      | some slot =>
          rcases holds.exists_of_slot known with ⟨_, there, _⟩
          have inside := (List.getElem?_eq_some_iff.mp there).1
          simp only [assign_of_lt inside, ok_bind]
          exact ⟨_, rfl, .accepted (holds.put_again known)⟩

theorem registerAll_alike (holds : Holds registry catalog) (tools : List (Tool Action)) :
    ∃ outcome, registry.registerAll tools = .ok outcome ∧
      Alike outcome (catalog.registerAll tools) := by
  induction tools generalizing registry catalog with
  | nil => exact ⟨_, rfl, .accepted holds⟩
  | cons tool others inductionHypothesis =>
      rcases register_alike holds tool with ⟨outcome, registered, alike⟩
      rw [registerAll, Catalog.registerAll, registered, ok_bind]
      generalize catalog.register tool = expected at alike
      cases alike with
      | refused failure => exact ⟨_, rfl, .refused failure⟩
      | accepted larger => exact inductionHypothesis larger

end Registry

end Guarded

end Workbench
