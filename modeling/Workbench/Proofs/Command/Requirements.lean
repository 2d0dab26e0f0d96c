import Workbench.Proofs.Command.Allotment
import Workbench.Proofs.Command.Completion
namespace Workbench

/-!
# Required arguments

The single-line form goes through the declared parameters and fails at a required one
that it has no value for, so what it comes to holds every required argument.  The block
form does not look at the parameters.  It gives three arguments of its own, and a tool
that requires any other one is called without it.  So a command holds what its tool
requires exactly if it has the single-line form or the tool requires no more than a
block gives.
-/

namespace Reading

/-- The arguments that a block gives. -/
def blockArguments : List String :=
  ["start_line", "end_line", "content"]

/-! ## The single-line form -/

/-- At each parameter no value is taken away, and a required one has a value afterwards,
unless filling fails. -/
theorem exists_fill_of_cons {tool : String} {parameter : Parameter} {others : List Parameter}
    {arguments filled : Arguments} {words surplus : List String}
    (filling : fill tool (parameter :: others) arguments words = .ok (filled, surplus)) :
    ∃ grown rest, fill tool others grown rest = .ok (filled, surplus) ∧
      (∀ name, arguments.contains name = true → grown.contains name = true) ∧
      (parameter.required = true → grown.contains parameter.name = true) := by
  by_cases has : arguments.contains parameter.name = true
  · rw [fill_of_held tool has] at filling
    exact ⟨arguments, words, filling, fun _ held => held, fun _ => has⟩
  · cases words with
    | nil =>
        rw [fill_of_no_word tool has] at filling
        split at filling
        · cases filling
        · rename_i optional
          exact ⟨arguments, [], filling, fun _ held => held,
            fun required => absurd required optional⟩
    | cons word rest =>
        rw [fill_of_word tool has] at filling
        refine ⟨_, rest, filling, ?_, ?_⟩
        · intro name held
          rw [Dictionary.contains_insert, held, Bool.or_true]
        · intro _
          rw [Dictionary.contains_insert, beq_self_eq_true, Bool.true_or]

/-- Filling takes no value away. -/
theorem contains_of_fill {tool name : String} {parameters : List Parameter}
    {arguments filled : Arguments} {words surplus : List String}
    (filling : fill tool parameters arguments words = .ok (filled, surplus))
    (held : arguments.contains name = true) : filled.contains name = true := by
  induction parameters generalizing arguments words with
  | nil =>
      cases filling
      exact held
  | cons parameter others inductionHypothesis =>
      rcases exists_fill_of_cons filling with ⟨grown, rest, further, keeps, _⟩
      exact inductionHypothesis further (keeps name held)

/-- Filling that ends well has given a value to every required parameter. -/
theorem contains_required_of_fill {tool : String} {parameters : List Parameter}
    {arguments filled : Arguments} {words surplus : List String}
    (filling : fill tool parameters arguments words = .ok (filled, surplus)) :
    ∀ parameter ∈ parameters, parameter.required = true →
      filled.contains parameter.name = true := by
  induction parameters generalizing arguments words with
  | nil => exact fun parameter member => nomatch member
  | cons parameter others inductionHypothesis =>
      rcases exists_fill_of_cons filling with ⟨grown, rest, further, _, given⟩
      rw [List.forall_mem_cons]
      exact ⟨fun required => contains_of_fill further (given required),
        inductionHypothesis further⟩

/-- Giving the surplus away takes no value away. -/
theorem contains_absorb (definition : Definition) (flagged : Arguments) {arguments : Arguments}
    {name : String} (held : arguments.contains name = true) (surplus : List String) :
    (absorb definition flagged arguments surplus).contains name = true := by
  unfold absorb
  split
  · exact held
  · split
    · exact held
    · split
      · rw [Dictionary.contains_insert, held, Bool.or_true]
      · rw [Dictionary.contains_insert, held, Bool.or_true]

theorem contains_required_of_resolve {definition : Definition} {tokens : List String}
    {invocation : Invocation} (resolved : resolve definition tokens = .ok invocation) :
    ∀ parameter ∈ definition.parameters, parameter.required = true →
      invocation.arguments.contains parameter.name = true := by
  intro parameter member required
  unfold resolve at resolved
  simp only [] at resolved
  split at resolved
  · cases resolved
  · rename_i filled surplus filling
    cases resolved
    exact contains_absorb definition _
      (contains_required_of_fill filling parameter member required) surplus

/-! ## The block form -/

/-- A block holds its own three arguments and no others. -/
theorem contains_of_block {definition : Definition} {first : List Char} {body : List (List Char)}
    {invocation : Invocation} (given : block definition first body = .ok invocation)
    (name : String) : invocation.arguments.contains name = true ↔ name ∈ blockArguments := by
  have outcome := outcome_of_block definition first body
  rw [given] at outcome
  have settled : BlockOutcome definition (String.ofList (Text.join ['\n'] body))
      (.ok (some invocation)) := outcome
  cases settled with
  | given start stop exactly =>
      have keys : ["content", "end_line", "start_line"].Perm blockArguments := by decide
      rw [Dictionary.contains_iff, exactly]
      exact keys.mem_iff

/-! ## Every form -/

/-- A command holds what its definition requires, if a definition with an end mark requires
no more than a block gives. -/
theorem contains_required_of_read {find : String → Option Definition} {text : String}
    {definition : Definition} {first : List Char} {others : List (List Char)}
    (written : Text.lines (Text.trim text.toList) = first :: others)
    (named : named? find first = some definition)
    (within : definition.endMark ≠ none → ∀ parameter ∈ definition.parameters,
      parameter.required = true → parameter.name ∈ blockArguments)
    {invocation : Invocation} (given : read find text = .ok (some invocation)) :
    ∀ parameter ∈ definition.parameters, parameter.required = true →
      invocation.arguments.contains parameter.name = true := by
  rcases form_of_lines written named with ⟨line, form⟩ | ⟨body, form⟩
  · rw [read_of_singleLine form] at given
    exact contains_required_of_resolve (eq_ok_of_map_some given)
  · have marked : definition.endMark ≠ none := by
      cases form with
      | ended written named marked inside ends =>
          rw [marked]
          exact Option.some_ne_none _
    rw [read_of_blockForm form] at given
    intro parameter member required
    exact (contains_of_block (eq_ok_of_map_some given) parameter.name).mpr
      (within marked parameter member required)

variable {Action : Type}

/-- A command calls a tool of the catalog, and it holds all arguments that this tool
requires exactly if it has the single-line form, or the tool requires only arguments that
a block gives. -/
theorem holds_required_iff {catalog : Catalog Action} {text : String} {invocation : Invocation}
    (given : read catalog.find? text = .ok (some invocation)) :
    ∃ tool ∈ catalog.tools, tool.name = invocation.name ∧
      ((∀ parameter ∈ tool.definition.parameters, parameter.required = true →
          invocation.arguments.contains parameter.name = true) ↔
        (∃ line, SingleLine catalog.find? text tool.definition line) ∨
          ∀ parameter ∈ tool.definition.parameters, parameter.required = true →
            parameter.name ∈ blockArguments) := by
  rcases named?_of_read given with ⟨first, others, definition, written, named, sameName⟩
  rcases Option.bind_eq_some_iff.mp named with ⟨word, begins, found⟩
  rcases Option.map_eq_some_iff.mp found with ⟨tool, held, same⟩
  have member := (Catalog.tool?_eq_some held).1
  rw [← same] at named sameName
  refine ⟨tool, member, sameName.symm, ?_⟩
  rcases form_of_lines written named with ⟨line, form⟩ | ⟨body, form⟩
  · rw [read_of_singleLine form] at given
    have resolved := eq_ok_of_map_some given
    exact ⟨fun _ => Or.inl ⟨line, form⟩, fun _ => contains_required_of_resolve resolved⟩
  · have blockGiven := given
    rw [read_of_blockForm form] at blockGiven
    have holds := contains_of_block (eq_ok_of_map_some blockGiven)
    constructor
    · intro complete
      apply Or.inr
      intro parameter listed required
      exact (holds parameter.name).mp (complete parameter listed required)
    · rintro (⟨line, single⟩ | within)
      · rw [read_of_singleLine single] at given
        exact contains_required_of_resolve (eq_ok_of_map_some given)
      · intro parameter listed required
        exact (holds parameter.name).mpr (within parameter listed required)

theorem holds_required_edit :
    ∃ invocation, read Sample.editing.find? "edit 1:2\nx\nend_of_edit" = .ok (some invocation) ∧
      ∃ tool ∈ Sample.editing.tools, tool.name = invocation.name ∧
        ∀ parameter ∈ tool.definition.parameters, parameter.required = true →
          invocation.arguments.contains parameter.name = true := by
  have given : read Sample.editing.find? "edit 1:2\nx\nend_of_edit" = .ok (some ⟨"edit",
      ((Dictionary.empty.insert "start_line" "1").insert "end_line" "2").insert "content" "x"⟩) :=
    rfl
  rcases holds_required_iff given with ⟨tool, member, named, complete⟩
  have edits : tool = ⟨Viewer.editDefinition, ()⟩ := List.mem_singleton.mp member
  refine ⟨_, given, tool, member, named, complete.mpr (Or.inr ?_)⟩
  rw [edits]
  decide

end Reading

namespace Sample

/-- A tool that takes a block and requires an argument of another name. -/
def noteDefinition : Definition where
  name := "note"
  signature := "note <title>"
  summary := "Takes a note."
  parameters := [⟨"title", "string", "the title", true⟩]
  endMark := some "end"

def noting : Catalog Unit :=
  Catalog.empty.put ⟨noteDefinition, ()⟩

end Sample

namespace Reading

/-- A block calls this tool without its title. -/
theorem block_lacks_required :
    Sample.noting.Built ∧ ⟨Sample.noteDefinition, ()⟩ ∈ Sample.noting.tools ∧
      ∃ invocation, read Sample.noting.find? "note 1:2\nx\nend" = .ok (some invocation) ∧
        invocation.name = Sample.noteDefinition.name ∧
        ∃ parameter ∈ Sample.noteDefinition.parameters, parameter.required = true ∧
          invocation.arguments.contains parameter.name = false := by
  have sound : Sample.noteDefinition.defect? = none := by decide
  refine ⟨Catalog.Built.empty.put sound, List.mem_cons_self, ⟨"note",
    ((Dictionary.empty.insert "start_line" "1").insert "end_line" "2").insert "content" "x"⟩,
    by rfl, rfl, _, List.mem_cons_self, rfl, by decide⟩

end Reading

end Workbench
