import Workbench.Proofs.Command.Acceptance
import Workbench.Proofs.Text.Blocks
namespace Workbench

/-!
# The layout of the documentation

The documentation of a catalog is pasted into a larger text, and whoever reads it there finds the
tools by the empty lines between them.  That works as long as every definition gives the lines it
is meant to give.  Registering checks most of the texts that go into these lines, but not the
name and the kind of a parameter, so exactly these two decide.

That a line feed there breaks every layout, and not only the intended one, follows by counting.
The documentation has a fixed number of line feeds of its own, and a layout in which each tool has
its four lines and one for each parameter has room for no more than these.
-/

namespace Definition

/-- The lines of a definition in the documentation: a heading of four lines, and one line for
each parameter.  No line is empty, and none can be taken for several. -/
structure IsSheet (definition : Definition) (lines : List (List Char)) : Prop where
  size : lines.length = 4 + definition.parameters.length
  clear : ∀ line ∈ lines, '\n' ∉ line
  filled : ∀ line ∈ lines, line ≠ []
  name : lines[0]? = some (definition.name ++ ":").toList
  summary : lines[1]? = some ("  docstring: " ++ definition.summary).toList
  signature : lines[2]? = some ("  signature: " ++ definition.signature).toList
  heading : lines[3]? = some "  arguments:".toList
  parameters : ∀ index, index < definition.parameters.length →
    ∃ rest, lines[4 + index]? = some ("    - ".toList ++ rest)

/-- The texts of a parameter that registering does not look at are on one line. -/
def SinglyNamed (definition : Definition) : Prop :=
  ∀ parameter ∈ definition.parameters,
    '\n' ∉ parameter.name.toList ∧ '\n' ∉ parameter.kind.toList

instance (definition : Definition) : Decidable definition.SinglyNamed :=
  List.decidableBAll _ _

variable {definition : Definition}

theorem length_documentation (definition : Definition) :
    definition.documentation.length = 4 + definition.parameters.length := by
  simp only [documentation, List.length_cons, List.length_map]
  omega

theorem toList_parameterLine (parameter : Parameter) :
    (parameterLine parameter).toList = "    - ".toList ++ (parameter.name.toList ++
      (" (".toList ++ (parameter.kind.toList ++ (") [".toList ++
        ((if parameter.required then "required" else "optional").toList ++
          ("]: ".toList ++ parameter.description.toList)))))) := by
  simp only [parameterLine, String.toList_append, List.append_assoc]

/-- The line of a parameter is one line if the texts in it are. -/
theorem lineFeed_mem_parameterLine_iff (parameter : Parameter) :
    '\n' ∈ (parameterLine parameter).toList ↔ '\n' ∈ parameter.name.toList ∨
      '\n' ∈ parameter.kind.toList ∨ '\n' ∈ parameter.description.toList := by
  have tag : '\n' ∉ (if parameter.required then "required" else "optional").toList := by
    cases parameter.required <;> decide
  have opening : '\n' ∉ "    - ".toList := by decide
  have before : '\n' ∉ " (".toList := by decide
  have after : '\n' ∉ ") [".toList := by decide
  have colon : '\n' ∉ "]: ".toList := by decide
  simp only [toList_parameterLine, List.mem_append, tag, opening, before, after, colon, false_or]

/-- An admissible definition has a line feed in its documentation only in a parameter's name or
kind. -/
theorem clear_documentation_iff (admissible : definition.Admissible) :
    (∀ text ∈ definition.documentation, '\n' ∉ text.toList) ↔ definition.SinglyNamed := by
  constructor
  · intro clear parameter listed
    have line := clear (parameterLine parameter) (by
      simp only [documentation, List.mem_cons]
      exact Or.inr (Or.inr (Or.inr (Or.inr (List.mem_map_of_mem listed)))))
    rw [lineFeed_mem_parameterLine_iff, not_or, not_or] at line
    exact ⟨line.1, line.2.1⟩
  · intro single text member
    simp only [documentation, List.mem_cons, List.mem_map] at member
    rcases member with rfl | rfl | rfl | rfl | ⟨parameter, listed, rfl⟩
    · have word := Text.lineFeed_not_mem_of_solid admissible.solid
      simp [String.toList_append, word]
    · simp [String.toList_append, admissible.summary]
    · simp [String.toList_append, admissible.signature]
    · decide
    · rw [lineFeed_mem_parameterLine_iff, not_or, not_or]
      exact ⟨(single parameter listed).1, (single parameter listed).2,
        admissible.descriptions parameter listed⟩

theorem filled_documentation (definition : Definition) :
    ∀ text ∈ definition.documentation, text.toList ≠ [] := by
  intro text member
  simp only [documentation, List.mem_cons, List.mem_map] at member
  rcases member with rfl | rfl | rfl | rfl | ⟨parameter, _, rfl⟩
  · simp [String.toList_append]
  · simp [String.toList_append]
  · simp [String.toList_append]
  · decide
  · simp [toList_parameterLine]

/-- The lines that a definition is meant to give. -/
def sheet (definition : Definition) : List (List Char) :=
  definition.documentation.map String.toList

theorem isSheet_sheet (admissible : definition.Admissible) (single : definition.SinglyNamed) :
    definition.IsSheet definition.sheet where
  size := by
    rw [sheet, List.length_map, length_documentation]
  clear := by
    intro line member
    rcases List.mem_map.mp member with ⟨text, listed, rfl⟩
    exact (clear_documentation_iff admissible).mpr single text listed
  filled := by
    intro line member
    rcases List.mem_map.mp member with ⟨text, listed, rfl⟩
    exact definition.filled_documentation text listed
  name := rfl
  summary := rfl
  signature := rfl
  heading := rfl
  parameters := by
    intro index inside
    have line : definition.sheet[4 + index]? =
        some (parameterLine definition.parameters[index]).toList := by
      rw [Nat.add_comm]
      simp [sheet, documentation, inside]
    exact ⟨_, by rw [line, toList_parameterLine]⟩

end Definition

namespace Catalog

variable {Action : Type}

/-- The documentation consists of the sheets of the tools in their order, with one empty line
between two of them, and the empty lines cut it into just these sheets. -/
def LaidOut (catalog : Catalog Action) : Prop :=
  ∃ sheets, List.Forall₂ Definition.IsSheet catalog.definitions sheets ∧
    catalog.documentation.toList = ['\n'].intercalate ([[]].intercalate sheets) ∧
    Text.blocks catalog.documentation.toList = sheets

theorem toList_documentation (catalog : Catalog Action) :
    catalog.documentation.toList = ['\n', '\n'].intercalate
      (catalog.definitions.map (fun definition => ['\n'].intercalate definition.sheet)) := by
  have separator : "\n\n".toList = ['\n', '\n'] := rfl
  have lineFeed : "\n".toList = ['\n'] := rfl
  rw [documentation, String.toList_intercalate, separator, List.map_map]
  congr 1
  apply List.map_congr_left
  intro definition _
  rw [Function.comp_apply, String.toList_intercalate, lineFeed, Definition.sheet]

/-! ## Counting line feeds -/

/-- The line feeds within the lines of a definition. -/
def excess (definition : Definition) : Nat :=
  (definition.sheet.map (List.count '\n')).sum

theorem count_sheet (definition : Definition) :
    (['\n'].intercalate definition.sheet).count '\n' + 2 =
      excess definition + (4 + definition.parameters.length + 1) := by
  have filled : definition.sheet ≠ [] := List.cons_ne_nil _ _
  have counted := Text.measure_intercalate (List.count '\n') (fun _ _ => List.count_append)
    ['\n'] filled
  have one : List.count '\n' ['\n'] = 1 := rfl
  have size : definition.sheet.length = 4 + definition.parameters.length := by
    rw [Definition.sheet, List.length_map, Definition.length_documentation]
  rw [one, size] at counted
  rw [excess]
  omega

theorem sum_count_sheets (definitions : List Definition) :
    (definitions.map
        (fun definition => (['\n'].intercalate definition.sheet).count '\n')).sum +
        definitions.length * 2 =
      (definitions.map excess).sum +
        (definitions.map (fun definition => 4 + definition.parameters.length + 1)).sum := by
  induction definitions with
  | nil => rfl
  | cons first rest inductionHypothesis =>
      have here := count_sheet first
      simp only [List.map_cons, List.sum_cons, List.length_cons]
      omega

/-- All line feeds of the documentation: those that make its lines, and those within them. -/
theorem count_documentation {catalog : Catalog Action} (some : catalog.definitions ≠ []) :
    catalog.documentation.toList.count '\n' + 2 =
      (catalog.definitions.map excess).sum +
        (catalog.definitions.map
          (fun definition => 4 + definition.parameters.length + 1)).sum := by
  have filled : catalog.definitions.map
      (fun definition => ['\n'].intercalate definition.sheet) ≠ [] :=
    mt List.map_eq_nil_iff.mp some
  have counted := Text.measure_intercalate (List.count '\n') (fun _ _ => List.count_append)
    ['\n', '\n'] filled
  have two : List.count '\n' ['\n', '\n'] = 2 := rfl
  rw [two, ← toList_documentation, List.map_map, List.length_map] at counted
  rw [counted]
  exact sum_count_sheets catalog.definitions

/-- Sheets have as many lines as their definitions ask for. -/
theorem sum_length_sheets {definitions : List Definition} {sheets : List (List (List Char))}
    (each : List.Forall₂ Definition.IsSheet definitions sheets) :
    (sheets.map List.length).sum + sheets.length =
      (definitions.map (fun definition => 4 + definition.parameters.length + 1)).sum := by
  induction each with
  | nil => rfl
  | cons isSheet _ inductionHypothesis =>
      have size := isSheet.size
      simp only [List.map_cons, List.sum_cons, List.length_cons]
      omega

theorem clear_of_sheets {definitions : List Definition} {sheets : List (List (List Char))}
    (each : List.Forall₂ Definition.IsSheet definitions sheets) :
    ∀ sheet ∈ sheets, (∀ line ∈ sheet, '\n' ∉ line) ∧ sheet ≠ [] ∧ [] ∉ sheet := by
  induction each with
  | nil => exact fun sheet member => nomatch member
  | cons isSheet _ inductionHypothesis =>
      intro sheet member
      rcases List.mem_cons.mp member with rfl | later
      · refine ⟨isSheet.clear, ?_, fun empty => isSheet.filled [] empty rfl⟩
        apply List.ne_nil_of_length_pos
        rw [isSheet.size]
        omega
      · exact inductionHypothesis sheet later

/-- A text that is laid out has no line feeds but those that make its lines. -/
theorem count_laidOut {definitions : List Definition} {sheets : List (List (List Char))}
    (some : definitions ≠ []) (each : List.Forall₂ Definition.IsSheet definitions sheets) :
    (['\n'].intercalate ([[]].intercalate sheets)).count '\n' + 2 =
      (definitions.map (fun definition => 4 + definition.parameters.length + 1)).sum := by
  cases each with
  | nil => exact absurd rfl some
  | @cons definition first others rest isSheet later =>
      have each : List.Forall₂ Definition.IsSheet (definition :: others) (first :: rest) :=
        .cons isSheet later
      have fine := clear_of_sheets each
      have lines : [[]].intercalate (first :: rest) ≠ [] :=
        Text.intercalate_ne_nil _ (fine first List.mem_cons_self).2.1 rest
      have feeds := Text.measure_intercalate (List.count '\n') (fun _ _ => List.count_append)
        ['\n'] lines
      have sizes := Text.measure_intercalate List.length (fun _ _ => List.length_append)
        [[]] (List.cons_ne_nil first rest)
      have clear : (([[]].intercalate (first :: rest)).map (List.count '\n')).sum = 0 := by
        apply List.sum_eq_zero_iff_forall_eq_nat.mpr
        intro count member
        rcases List.mem_map.mp member with ⟨line, listed, rfl⟩
        apply List.count_eq_zero_of_not_mem
        rcases Text.mem_of_mem_intercalate listed with empty | ⟨sheet, among, inside⟩
        · rw [List.mem_singleton.mp empty]
          exact List.not_mem_nil
        · exact (fine sheet among).1 line inside
      have one : List.count '\n' ['\n'] = 1 := rfl
      have single : ([[]] : List (List Char)).length = 1 := rfl
      have written := sum_length_sheets each
      rw [clear, one] at feeds
      rw [single] at sizes
      omega

/-! ## The layout holds exactly without line feeds in names and kinds -/

theorem laidOut_of_singlyNamed {catalog : Catalog Action}
    (admissible : ∀ definition ∈ catalog.definitions, definition.Admissible)
    (single : ∀ definition ∈ catalog.definitions, definition.SinglyNamed) : LaidOut catalog := by
  have each : List.Forall₂ Definition.IsSheet catalog.definitions
      (catalog.definitions.map Definition.sheet) := by
    rw [List.forall₂_map_right_iff, List.forall₂_same]
    exact fun definition listed =>
      Definition.isSheet_sheet (admissible definition listed) (single definition listed)
  have fine := clear_of_sheets each
  have text : catalog.documentation.toList =
      ['\n'].intercalate ([[]].intercalate (catalog.definitions.map Definition.sheet)) := by
    rw [Text.intercalate_blank (fun sheet listed => (fine sheet listed).2.1), List.map_map,
      toList_documentation]
    rfl
  refine ⟨_, each, text, ?_⟩
  rw [text]
  exact Text.blocks_intercalate (fun sheet listed => (fine sheet listed).1)
    (fun sheet listed => (fine sheet listed).2)

theorem singlyNamed_of_laidOut {catalog : Catalog Action}
    (admissible : ∀ definition ∈ catalog.definitions, definition.Admissible)
    (laidOut : LaidOut catalog) : ∀ definition ∈ catalog.definitions, definition.SinglyNamed := by
  intro definition listed
  have some : catalog.definitions ≠ [] := List.ne_nil_of_mem listed
  rcases laidOut with ⟨sheets, each, text, _⟩
  have given := count_documentation some
  rw [text, count_laidOut some each] at given
  have none : (catalog.definitions.map excess).sum = 0 := by omega
  have own : excess definition = 0 :=
    List.sum_eq_zero_iff_forall_eq_nat.mp none _ (List.mem_map_of_mem listed)
  apply (Definition.clear_documentation_iff (admissible definition listed)).mp
  intro line member
  have count : List.count '\n' line.toList = 0 :=
    List.sum_eq_zero_iff_forall_eq_nat.mp own _
      (List.mem_map_of_mem (List.mem_map_of_mem member))
  exact List.count_eq_zero.mp count

theorem admissible_of_mem_after (calls : List (Tool Action)) :
    ∀ definition ∈ (after calls).definitions, definition.Admissible := by
  intro definition listed
  rcases List.mem_map.mp listed with ⟨tool, member, rfl⟩
  exact (tool?_after_eq_some_iff.mp (tool?_of_mem member)).admissible

/-- After every sequence of register calls, the documentation is laid out in one block for each
tool exactly if no tool has a parameter with a line feed in its name or its kind. -/
theorem laidOut_after_iff (calls : List (Tool Action)) :
    LaidOut (after calls) ↔
      ∀ definition ∈ (after calls).definitions, definition.SinglyNamed :=
  ⟨singlyNamed_of_laidOut (admissible_of_mem_after calls),
    laidOut_of_singlyNamed (admissible_of_mem_after calls)⟩

/-- A parameter whose name holds an empty line. -/
def torn : Definition :=
  ⟨"note", "note <title>", "takes a note", [⟨"title\n\nforged:", "string", "", true⟩], none⟩

/-- A tool whose definition is accepted, and whose documentation falls into two blocks. -/
theorem torn_documentation :
    torn.Admissible ∧ (after [(⟨torn, 0⟩ : Tool Nat)]).definitions = [torn] ∧
      (Text.blocks (after [(⟨torn, 0⟩ : Tool Nat)]).documentation.toList).length = 2 ∧
      ¬ LaidOut (after [(⟨torn, 0⟩ : Tool Nat)]) := by
  refine ⟨by decide +kernel, by decide +kernel, by decide +kernel, ?_⟩
  intro laidOut
  have single := singlyNamed_of_laidOut (admissible_of_mem_after _) laidOut torn (by decide +kernel)
  exact absurd single (by decide +kernel)

end Catalog

end Workbench
