import Workbench.Command.Definition
import Workbench.Text.Quoted
namespace Workbench

/-!
The catalog of tools.  Tools stand in the order in which their names were first
registered, and a name stands in the catalog once.  Registering a name again
replaces the tool as a whole, definition and action together, and keeps its
place.
-/

/-- A tool: what callers see of it, and what it does. -/
structure Tool (Action : Type) where
  definition : Definition
  action : Action

variable {Action : Type}

def Tool.name (tool : Tool Action) : String :=
  tool.definition.name

namespace Shelf

/-- Puts a tool in the place of the one with its name, or at the end. -/
def put (tool : Tool Action) : List (Tool Action) → List (Tool Action)
  | [] => [tool]
  | other :: rest => if other.name = tool.name then tool :: rest else other :: put tool rest

theorem names_put (tool : Tool Action) (tools : List (Tool Action)) :
    (put tool tools).map Tool.name =
      if tool.name ∈ tools.map Tool.name then tools.map Tool.name
      else tools.map Tool.name ++ [tool.name] := by
  induction tools with
  | nil => simp [put]
  | cons other rest inductionHypothesis =>
      unfold put
      by_cases same : other.name = tool.name
      · simp [same]
      · have different : ¬ tool.name = other.name := fun equal => same equal.symm
        simp only [same, if_false, List.map_cons, inductionHypothesis, List.mem_cons, different,
          false_or]
        split <;> simp

end Shelf

/-- A list of tools with distinct names. -/
structure Catalog (Action : Type) where
  tools : List (Tool Action)
  distinct : (tools.map Tool.name).Nodup

namespace Catalog

def empty : Catalog Action :=
  ⟨[], List.nodup_nil⟩

/-- The catalog with this tool in the place of its name. -/
def put (catalog : Catalog Action) (tool : Tool Action) : Catalog Action where
  tools := Shelf.put tool catalog.tools
  distinct := by
    rw [Shelf.names_put]
    split
    · exact catalog.distinct
    · rename_i absent
      exact List.nodup_append.mpr ⟨catalog.distinct, by simp,
        fun left leftMember right rightMember equal =>
          absent (by
            rw [List.mem_singleton] at rightMember
            rw [← rightMember, ← equal]
            exact leftMember)⟩

/-- Registers a tool, unless its definition has a defect. -/
def register (catalog : Catalog Action) (tool : Tool Action) : Except Failure (Catalog Action) :=
  match tool.definition.defect? with
  | some defect => .error (.badDefinition defect)
  | none => .ok (catalog.put tool)

/-- Registers tools one after the other, up to the first defect. -/
def registerAll (catalog : Catalog Action) :
    List (Tool Action) → Except Failure (Catalog Action)
  | [] => .ok catalog
  | tool :: others =>
    match catalog.register tool with
    | .error failure => .error failure
    | .ok larger => larger.registerAll others

/-- The tool of a name. -/
def tool? (catalog : Catalog Action) (name : String) : Option (Tool Action) :=
  catalog.tools.find? (fun tool => tool.name == name)

/-- The definition of the tool of a name. -/
def find? (catalog : Catalog Action) (name : String) : Option Definition :=
  (catalog.tool? name).map Tool.definition

def contains (catalog : Catalog Action) (name : String) : Bool :=
  (catalog.tool? name).isSome

def definitions (catalog : Catalog Action) : List Definition :=
  catalog.tools.map Tool.definition

def names (catalog : Catalog Action) : List String :=
  catalog.tools.map Tool.name

def size (catalog : Catalog Action) : Nat :=
  catalog.tools.length

/-- The documentation of all tools, with one empty line between two of them. -/
def documentation (catalog : Catalog Action) : String :=
  String.intercalate "\n\n"
    (catalog.definitions.map (fun definition => String.intercalate "\n" definition.documentation))

/-- A short listing of the catalog for inspection. -/
def inspect (catalog : Catalog Action) : String :=
  "ToolRegistry \x7b tools: [" ++
    String.intercalate ", " (catalog.names.map (Quoted.quote .double)) ++ "] \x7d"

end Catalog

end Workbench
