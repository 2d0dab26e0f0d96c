import Workbench.Proofs.Command.Spelling
import Workbench.Proofs.Session.Calls
namespace Workbench

/-!
# Keeping a variable

A text that a command has stored under a name comes back as it was stored: the quotes carry it
through the reader in both directions, whatever it holds, and no other command changes it.  In
between there may be any calls by anyone who uses the store, as long as none by a caller with the
same variables writes this name again.  Callers with another workspace may even do that.
-/

/-- A command line: a word and quoted texts behind it. -/
def commandLine (word : String) (spans : List Token.Span) : String :=
  String.ofList (word.toList ++ spans.flatMap Token.Span.written)

namespace Variables

open Reading (IsFlag)

theorem writer_mem (settings : Settings) :
    (⟨writeDefinition, write⟩ : Tool Action) ∈ Standard.tools settings :=
  Standard.mem_tools_iff.mpr (by simp)

theorem reader_mem (settings : Settings) :
    (⟨readDefinition, read⟩ : Tool Action) ∈ Standard.tools settings :=
  Standard.mem_tools_iff.mpr (by simp)

/-! ## What the two tools are given -/

theorem resolve_write {key value : String} (plainKey : ¬ IsFlag key) (plainValue : ¬ IsFlag value) :
    Reading.resolve writeDefinition [key, value] =
      .ok ⟨"write_env", (Dictionary.empty.insert "key" key).insert "value" value⟩ := by
  have sorted : Reading.sort [key, value] = ⟨[], [key, value]⟩ := by
    rw [Reading.sort_word (Reading.flagName?_of_not_isFlag plainKey),
      Reading.sort_word (Reading.flagName?_of_not_isFlag plainValue)]
    rfl
  rw [Reading.resolve, sorted]
  rfl

theorem resolve_read {key : String} (plainKey : ¬ IsFlag key) :
    Reading.resolve readDefinition [key] = .ok ⟨"read_env", Dictionary.empty.insert "key" key⟩ := by
  have sorted : Reading.sort [key] = ⟨[], [key]⟩ := by
    rw [Reading.sort_word (Reading.flagName?_of_not_isFlag plainKey)]
    rfl
  rw [Reading.resolve, sorted]
  rfl

/-! ## What the two tools do -/

theorem write_of_free {key : String} (solid : ∀ character ∈ key.toList, isBlank character = false)
    (free : key ∉ reserved) (value : String) (environment : Environment) (world : World) :
    write environment ((Dictionary.empty.insert "key" key).insert "value" value) world =
      (.ok ("Set " ++ key), environment.setVariable world key value) := by
  have solidKey : key.toList.any isBlank = false := by
    simpa using solid
  have freeKey : reserved.contains key = false := by
    simpa using free
  have givenKey : Arguments.require
      ((Dictionary.empty.insert "key" key).insert "value" value) "write_env" "key" = .ok key := rfl
  have givenValue : Arguments.require
      ((Dictionary.empty.insert "key" key).insert "value" value) "write_env" "value" =
        .ok value := rfl
  rw [write, givenKey]
  simp only [givenValue, solidKey, freeKey, Bool.false_eq_true, if_false]

theorem read_of_set {environment : Environment} {world : World} {key value : String}
    (set : environment.value? world key = some value) :
    read environment (Dictionary.empty.insert "key" key) world = (.ok value, world) := by
  unfold read Arguments.require
  simp only [Dictionary.get?_insert, Dictionary.get?_empty, if_true, set]

end Variables

namespace Call

variable {settings : Settings} {catalog : Catalog Action}

/-- A word that names a standard tool without an end mark, with quoted texts behind it, runs this
tool on what the texts resolve to. -/
theorem take_commandLine (standard : Standard.catalog settings = .ok catalog) {tool : Tool Action}
    (member : tool ∈ Standard.tools settings) (unmarked : tool.definition.endMark = none)
    (unquoted : ∀ character ∈ tool.name.toList, Token.isMark character = false)
    {spans : List Token.Span} {arguments : Arguments}
    (resolved : Reading.resolve tool.definition (spans.map Token.Span.text) =
      .ok ⟨tool.name, arguments⟩) (environment : Environment) (tree : Node) (memory : Memory) :
    take catalog ⟨environment, tree, commandLine tool.name spans⟩ memory =
      (some (Reply.ofOutcome (tool.action environment arguments ⟨tree, memory⟩).1),
        (tool.action environment arguments ⟨tree, memory⟩).2) := by
  have registered : tool ∈ catalog.tools := by
    rw [Standard.tools_of_catalog standard]
    exact member
  have read := Reading.read_of_spans (Standard.built_of_catalog standard) registered unmarked
    unquoted spans
  have given : Reading.read catalog.find? (commandLine tool.name spans) =
      .ok (some ⟨tool.name, arguments⟩) := by
    rw [commandLine, read, resolved]
    rfl
  exact take_of_mem standard member given environment tree memory

/-! ## Writing and reading by command -/

/-- No character of the word is a quote mark. -/
theorem unquoted_of_any {word : String} (none : word.toList.any Token.isMark = false) :
    ∀ character ∈ word.toList, Token.isMark character = false :=
  fun character member => Bool.eq_false_iff.mpr (List.any_eq_false.mp none character member)

theorem take_write (standard : Standard.catalog settings = .ok catalog) {key value : Token.Span}
    (solid : ∀ character ∈ key.text.toList, isBlank character = false)
    (free : key.text ∉ Variables.reserved) (plainKey : ¬ Reading.IsFlag key.text)
    (plainValue : ¬ Reading.IsFlag value.text) (writer : Environment) (tree : Node)
    (memory : Memory) :
    take catalog ⟨writer, tree, commandLine "write_env" [key, value]⟩ memory =
      (some ⟨"Set " ++ key.text, false⟩,
        writer.setVariable ⟨tree, memory⟩ key.text value.text) := by
  have resolved : Reading.resolve Variables.writeDefinition ([key, value].map Token.Span.text) =
      .ok ⟨"write_env", _⟩ := Variables.resolve_write plainKey plainValue
  have ran := take_commandLine standard (Variables.writer_mem settings) rfl
    (unquoted_of_any (by decide)) resolved writer tree memory
  simp only [Variables.write_of_free solid free] at ran
  exact ran

theorem take_read (standard : Standard.catalog settings = .ok catalog) {key : Token.Span}
    (plain : ¬ Reading.IsFlag key.text) {reader : Environment} {tree : Node} {memory : Memory}
    {value : String} (set : reader.value? ⟨tree, memory⟩ key.text = some value) :
    take catalog ⟨reader, tree, commandLine "read_env" [key]⟩ memory =
      (some ⟨value, false⟩, ⟨tree, memory⟩) := by
  have resolved : Reading.resolve Variables.readDefinition ([key].map Token.Span.text) =
      .ok ⟨"read_env", _⟩ := Variables.resolve_read plain
  have ran := take_commandLine standard (Variables.reader_mem settings) rfl
    (unquoted_of_any (by decide)) resolved reader tree memory
  simp only [Variables.read_of_set set] at ran
  exact ran

/-! ## What other calls leave -/

/-- No call changes a variable that is not one of the viewer's, unless it writes it for someone
with the same variables. -/
theorem value?_take (standard : Standard.catalog settings = .ok catalog) {key : String}
    (free : key ∉ Variables.reserved) {owner : Environment} {call : Call}
    (spares : call.environment.Shares owner → ∀ arguments : Arguments,
      Reading.read catalog.find? call.text = .ok (some ⟨"write_env", arguments⟩) →
        arguments.get? "key" ≠ some key) (memory : Memory) :
    owner.value? (call.take catalog memory).2 key = owner.value? ⟨call.tree, memory⟩ key := by
  have ends := ends_take standard call memory
  generalize call.take catalog memory = taken at ends
  cases ends with
  | idle _ => rfl
  | @ran invocation _ given ended =>
      rcases invocation with ⟨name, arguments⟩
      cases ended with
      | viewed _ ended =>
          cases ended with
          | unseen _ kept => exact Environment.value?_of_memory kept owner key
          | seen _ _ _ _ _ kept =>
              rw [Environment.value?_of_memory kept]
              exact Viewer.value?_remember_of_free free call.environment owner _ _ _
      | @wrote other value writer held _ kept =>
          rw [Environment.value?_of_memory kept]
          by_cases shared : call.environment.Shares owner
          · apply Environment.value?_setVariable_of_ne
            rintro rfl
            cases writer
            exact spares shared arguments given held
          · exact Environment.value?_setVariable_of_apart shared _ _ _ _
      | told _ kept => exact Environment.value?_of_memory kept owner key

/-- None of the calls writes this name for someone with the owner's variables. -/
def Spares (catalog : Catalog Action) (owner : Environment) (key : String) (calls : List Call) :
    Prop :=
  ∀ call ∈ calls, call.environment.Shares owner → ∀ arguments : Arguments,
    Reading.read catalog.find? call.text = .ok (some ⟨"write_env", arguments⟩) →
      arguments.get? "key" ≠ some key

theorem value?_memoryAfter (standard : Standard.catalog settings = .ok catalog) {key : String}
    (free : key ∉ Variables.reserved) {owner : Environment} {calls : List Call}
    (spares : Spares catalog owner key calls) (tree : Node) (memory : Memory) :
    owner.value? ⟨tree, memoryAfter catalog calls memory⟩ key = owner.value? ⟨tree, memory⟩ key := by
  apply keeps_memoryAfter
    (fun later => owner.value? ⟨tree, later⟩ key = owner.value? ⟨tree, memory⟩ key)
  · intro call member later kept
    exact (value?_take standard free (spares call member) later).trans kept
  · rfl

/-- What is written under a name is read again under this name, after any calls in any worlds, as
long as none of those who share the variables writes it in between. -/
theorem written_is_read (settings : Settings) :
    ∃ catalog, Standard.catalog settings = .ok catalog ∧
      ∀ (key value asked : Token.Span) (writer reader : Environment) (writeTree readTree : Node)
        (memory : Memory) (calls : List Call),
        (∀ character ∈ key.text.toList, isBlank character = false) →
        key.text ∉ Variables.reserved → ¬ Reading.IsFlag key.text → ¬ Reading.IsFlag value.text →
        asked.text = key.text → writer.Shares reader → Spares catalog writer key.text calls →
        let written := take catalog ⟨writer, writeTree, commandLine "write_env" [key, value]⟩ memory
        (take catalog ⟨reader, readTree, commandLine "read_env" [asked]⟩
          (memoryAfter catalog calls written.2.memory)).1 = some ⟨value.text, false⟩ := by
  rcases Standard.exists_catalog settings with ⟨catalog, standard⟩
  refine ⟨catalog, standard, ?_⟩
  intro key value asked writer reader writeTree readTree memory calls solid free plainKey plainValue
    sameKey shared spares written
  have stored : writer.value? ⟨readTree, written.2.memory⟩ key.text = some value.text := by
    have wrote : written = _ :=
      take_write standard solid free plainKey plainValue writer writeTree memory
    rw [wrote]
    exact (Environment.value?_setVariable_of_shares (.refl writer) ⟨writeTree, memory⟩ key.text
      value.text key.text).trans (if_pos rfl)
  have left : reader.value? ⟨readTree, memoryAfter catalog calls written.2.memory⟩ asked.text =
      some value.text := by
    rw [← shared.value?, sameKey, value?_memoryAfter standard free spares, stored]
  rw [← sameKey] at plainKey
  exact congrArg Prod.fst (take_read standard plainKey left)

end Call

namespace Sample

/-- A name and a quoted text of several lines, with blanks at its ends and a quote mark inside. -/
def key : Token.Span :=
  ⟨[' '], '\'', "K", by decide, List.forall_mem_singleton.mpr rfl, rfl, by decide⟩

def value : Token.Span :=
  ⟨['\t'], '"', " it's\n", by decide, List.forall_mem_singleton.mpr rfl, rfl, by decide⟩

/-- The same name, written otherwise. -/
def asked : Token.Span :=
  ⟨['\n', ' '], '"', "K", by decide, by simp; decide, rfl, by decide⟩

/-- The name is written for another workspace, and another name for this one. -/
def between : List Call :=
  [⟨{ environment with directory := "/other" }, tree "" "", "write_env K lost"⟩,
    ⟨{ environment with directory := "/ws/." }, tree "" "", "write_env L new"⟩]

theorem spares_between {catalog : Catalog Action} (standard : Standard.catalog {} = .ok catalog) :
    Call.Spares catalog environment "K" between := by
  intro call member shared arguments given
  rcases List.mem_pair.mp member with rfl | rfl
  · exact absurd shared (by decide)
  · have begins : Text.firstWord? "write_env L new".toList = some "write_env".toList := by
      decide
    have read : Reading.read catalog.find? "write_env L new" =
        .ok (some ⟨"write_env", (Dictionary.empty.insert "key" "L").insert "value" "new"⟩) := by
      rw [Reading.read_eq_readAs (Standard.named?_of_mem standard (Variables.writer_mem {}) begins)]
      rfl
    cases read.symm.trans given
    decide

end Sample

theorem Call.written_is_read_of_lines :
    ∃ catalog, Standard.catalog {} = .ok catalog ∧
      Call.Spares catalog Sample.environment "K" Sample.between ∧
      let written := Call.take catalog
        ⟨Sample.environment, Sample.tree "" "", "write_env 'K'\t\" it's\n\""⟩ Memory.empty
      (Call.take catalog ⟨{ Sample.environment with directory := "/ws/sub/.." }, Sample.tree "" "",
          "read_env\n \"K\""⟩
        (Call.memoryAfter catalog Sample.between written.2.memory)).1 =
          some ⟨" it's\n", false⟩ := by
  rcases Call.written_is_read {} with ⟨catalog, standard, reads⟩
  have spares := Sample.spares_between standard
  refine ⟨catalog, standard, spares, ?_⟩
  exact reads Sample.key Sample.value Sample.asked Sample.environment
    { Sample.environment with directory := "/ws/sub/.." } (Sample.tree "" "") (Sample.tree "" "")
    Memory.empty Sample.between (List.forall_mem_singleton.mpr rfl) (by decide) (by decide)
    (by decide) rfl (by decide) spares

end Workbench
