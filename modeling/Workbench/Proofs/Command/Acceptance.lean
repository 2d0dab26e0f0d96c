import Workbench.Proofs.Command.History
import Workbench.Proofs.Guarded.Registry
namespace Workbench

/-!
# A catalog is the history of its register calls

What a catalog answers after any sequence of register calls is told by the sequence alone.  The
accepted calls are those whose definition is admissible.  A name is answered by the last accepted
call under it, and the names stand in the order in which they were first accepted.

Two things have to stay in step in the process: the vector of the tools, and the index from names
to slots of the vector.  A rejected call touches neither, and a call under a known name changes
the slot and not the index.  So the index of the vector that the same calls have filled always
has the slot of the tool that the catalog finds, and no slot is out of range.
-/

variable {Action : Type}

namespace Definition

/-- A definition that can be registered: its name is a word, its signature is not blank, and
the texts that the documentation shows on one line have no line feed. -/
structure Admissible (definition : Definition) : Prop where
  named : ∃ character ∈ definition.name.toList, isBlank character = false
  solid : ∀ character ∈ definition.name.toList, isBlank character = false
  signed : ∃ character ∈ definition.signature.toList, isBlank character = false
  signature : '\n' ∉ definition.signature.toList
  summary : '\n' ∉ definition.summary.toList
  descriptions : ∀ parameter ∈ definition.parameters, '\n' ∉ parameter.description.toList

theorem isBlankOnly_eq_false_iff {text : List Char} :
    Text.isBlankOnly text = false ↔ ∃ character ∈ text, isBlank character = false := by
  rw [Text.isBlankOnly, List.all_eq_false]
  simp only [Bool.not_eq_true]

theorem Admissible.defect? {definition : Definition} (admissible : definition.Admissible) :
    definition.defect? = none := by
  apply defect?_eq_none
  · exact isBlankOnly_eq_false_iff.mpr admissible.named
  · apply List.any_eq_false.mpr
    intro character member
    rw [admissible.solid character member]
    exact Bool.false_ne_true
  · exact isBlankOnly_eq_false_iff.mpr admissible.signed
  · intro text member
    rw [singleLines, List.mem_cons, List.mem_cons, List.mem_map] at member
    rcases member with rfl | rfl | ⟨parameter, listed, rfl⟩
    · exact admissible.signature
    · exact admissible.summary
    · exact admissible.descriptions parameter listed

/-- A definition that has passed the tests for defects has passed each of them. -/
theorem admissible_of_defect? {definition : Definition} (sound : definition.defect? = none) :
    definition.Admissible := by
  have word := solid_of_defect? sound
  unfold defect? at sound
  split at sound
  · cases sound
  · rename_i named
    split at sound
    · cases sound
    · split at sound
      · cases sound
      · rename_i signed
        split at sound
        · cases sound
        · rename_i single
          have clear : ∀ text ∈ definition.singleLines, '\n' ∉ text.toList := by
            intro text member lineFeed
            apply single
            exact List.any_eq_true.mpr ⟨text, member, List.contains_iff_mem.mpr lineFeed⟩
          exact
            { named := isBlankOnly_eq_false_iff.mp (Bool.eq_false_iff.mpr named)
              solid := word.2
              signed := isBlankOnly_eq_false_iff.mp (Bool.eq_false_iff.mpr signed)
              signature := clear _ List.mem_cons_self
              summary := clear _ (List.mem_cons_of_mem _ List.mem_cons_self)
              descriptions := fun parameter listed =>
                clear _ (List.mem_cons_of_mem _ (List.mem_cons_of_mem _
                  (List.mem_map_of_mem listed))) }

theorem admissible_iff {definition : Definition} :
    definition.Admissible ↔ definition.defect? = none :=
  ⟨Admissible.defect?, admissible_of_defect?⟩

instance (definition : Definition) : Decidable definition.Admissible :=
  decidable_of_iff _ admissible_iff.symm

end Definition

namespace Catalog

/-! ## One call -/

/-- A call is accepted exactly if its definition is admissible. -/
theorem register_eq_ok_iff (catalog : Catalog Action) (tool : Tool Action) :
    (∃ larger, catalog.register tool = .ok larger) ↔ tool.definition.Admissible := by
  rw [Definition.admissible_iff]
  constructor
  · rintro ⟨larger, registered⟩
    cases defective : tool.definition.defect? with
    | none => rfl
    | some defect =>
        rw [register_of_defect defective] at registered
        cases registered
  · exact fun sound => ⟨catalog.put tool, register_of_sound sound catalog⟩

theorem offer_of_not_admissible {tool : Tool Action} (refused : ¬ tool.definition.Admissible)
    (catalog : Catalog Action) : catalog.offer tool = catalog := by
  cases defective : tool.definition.defect? with
  | none => exact absurd (Definition.admissible_of_defect? defective) refused
  | some defect => exact offer_of_defect defective catalog

/-! ## All calls -/

/-- The accepted calls of a history. -/
def accepted (calls : List (Tool Action)) : List (Tool Action) :=
  calls.filter (fun tool => decide tool.definition.Admissible)

theorem accepted_concat (calls : List (Tool Action)) (tool : Tool Action) :
    accepted (calls ++ [tool]) =
      accepted calls ++ (if tool.definition.Admissible then [tool] else []) := by
  rw [accepted, List.filter_append, List.filter_singleton]
  by_cases admissible : tool.definition.Admissible
  · rw [decide_eq_true admissible, if_pos admissible]
    rfl
  · rw [decide_eq_false admissible, if_neg admissible]
    rfl

/-- Of one more name the first occurrence counts. -/
theorem eraseDups_concat (earlier : List String) (name : String) :
    (earlier ++ [name]).eraseDups =
      if name ∈ earlier then earlier.eraseDups else earlier.eraseDups ++ [name] := by
  rw [List.eraseDups_append]
  by_cases again : name ∈ earlier
  · have gone : [name].removeAll earlier = [] := by
      simpa [List.removeAll] using again
    rw [if_pos again, gone, List.eraseDups_nil, List.append_nil]
  · have kept : [name].removeAll earlier = [name] := by
      simpa [List.removeAll] using again
    rw [if_neg again, kept]
    rfl

/-- Names stand in the order in which they were first accepted. -/
theorem names_after (calls : List (Tool Action)) :
    (after calls).names = ((accepted calls).map Tool.name).eraseDups := by
  induction calls using List.reverseRecOn with
  | nil => rfl
  | append_singleton earlier tool inductionHypothesis =>
      rw [after_concat, accepted_concat]
      by_cases admissible : tool.definition.Admissible
      · have put : ((after earlier).put tool).names =
            if tool.name ∈ (after earlier).names then (after earlier).names
            else (after earlier).names ++ [tool.name] :=
          Shelf.names_put tool (after earlier).tools
        rw [offer_of_sound admissible.defect?, put, if_pos admissible, List.map_append,
          List.map_singleton, eraseDups_concat, inductionHypothesis]
        simp only [List.mem_eraseDups]
      · rw [offer_of_not_admissible admissible, if_neg admissible, List.append_nil]
        exact inductionHypothesis

/-- The call is the last accepted one under a name. -/
structure IsLatest (calls : List (Tool Action)) (name : String) (tool : Tool Action) : Prop where
  named : tool.name = name
  admissible : tool.definition.Admissible
  last : ∃ before later, calls = before ++ tool :: later ∧
    ∀ other ∈ later, other.name = name → ¬ other.definition.Admissible

/-- A name finds the tool of the last accepted call under it. -/
theorem tool?_after_eq_some_iff {calls : List (Tool Action)} {name : String}
    {tool : Tool Action} :
    (after calls).tool? name = some tool ↔ IsLatest calls name tool := by
  rw [tool?_after, lastAccepted?_eq_some_iff]
  simp only [← Definition.admissible_iff, not_and]
  constructor
  · rintro ⟨⟨named, admissible⟩, last⟩
    exact ⟨named, admissible, last⟩
  · rintro ⟨named, admissible, last⟩
    exact ⟨⟨named, admissible⟩, last⟩

/-- Names find themselves, so the definitions are found by the names, in their order. -/
theorem map_find?_names (catalog : Catalog Action) :
    catalog.names.map catalog.find? = catalog.definitions.map some := by
  rw [names, definitions, List.map_map, List.map_map]
  apply List.map_congr_left
  intro tool member
  exact find?_of_mem member

end Catalog

namespace Guarded.Registry

/-! ## The vector and its index -/

/-- The registry after a register call, which may have been rejected. -/
def offer (registry : Registry Action) (tool : Tool Action) : Run (Registry Action) := do
  match ← registry.register tool with
  | .ok larger => pure larger
  | .error _ => pure registry

/-- The registry after a sequence of register calls. -/
def after (calls : List (Tool Action)) : Run (Registry Action) :=
  calls.foldlM offer empty

theorem holds_offer {registry : Registry Action} {catalog : Catalog Action}
    (holds : Holds registry catalog) (tool : Tool Action) :
    ∃ next, registry.offer tool = .ok next ∧ Holds next (catalog.offer tool) := by
  rcases register_alike holds tool with ⟨outcome, registered, alike⟩
  rw [offer, registered, ok_bind, Catalog.offer]
  generalize catalog.register tool = expected at alike
  cases alike with
  | refused failure => exact ⟨registry, rfl, holds⟩
  | accepted larger => exact ⟨_, rfl, larger⟩

/-- No history of calls aborts, and the index stays in step with the vector. -/
theorem holds_after (calls : List (Tool Action)) :
    ∃ registry, after calls = .ok registry ∧ Holds registry (Catalog.after calls) := by
  induction calls using List.reverseRecOn with
  | nil => exact ⟨empty, rfl, holds_empty⟩
  | append_singleton earlier tool inductionHypothesis =>
      rcases inductionHypothesis with ⟨registry, built, holds⟩
      rcases holds_offer holds tool with ⟨next, offered, step⟩
      refine ⟨next, ?_, ?_⟩
      · rw [after] at built
        rw [after, List.foldlM_append, built, ok_bind, List.foldlM_cons, offered]
        rfl
      · rw [Catalog.after_concat]
        exact step

theorem contains_index {registry : Registry Action} {catalog : Catalog Action}
    (holds : Holds registry catalog) (name : String) :
    registry.index.contains name = catalog.contains name := by
  rw [Dictionary.contains, Catalog.contains]
  cases known : registry.index.get? name with
  | none => rw [holds.tool?_of_no_slot known]; rfl
  | some slot =>
      rcases holds.exists_of_slot known with ⟨tool, _, found⟩
      rw [found]
      rfl

end Guarded.Registry

namespace Catalog

/-! ## The whole history -/

/-- After every sequence of register calls: a further call is accepted exactly if its definition
is admissible, and if it is not, it changes nothing.  A name finds the tool of the last accepted
call under it, definition and action from that call, and nothing if there is none.  Every name
that was accepted stands once, in the order of the first acceptances, with its latest definition.
The tools in a vector with an index of slots, filled by the same calls, never miss a slot and
answer the same. -/
theorem after_follows_calls (calls : List (Tool Action)) :
    (∀ tool, (∃ larger, (after calls).register tool = .ok larger) ↔
        tool.definition.Admissible) ∧
      (∀ tool, ¬ tool.definition.Admissible → after (calls ++ [tool]) = after calls) ∧
      (∀ name tool, (after calls).tool? name = some tool ↔ IsLatest calls name tool) ∧
      (∀ name definition, (after calls).find? name = some definition ↔
        ∃ tool, IsLatest calls name tool ∧ tool.definition = definition) ∧
      (∀ name, (after calls).contains name = true ↔ ∃ tool, IsLatest calls name tool) ∧
      (after calls).names = ((accepted calls).map Tool.name).eraseDups ∧
      (after calls).names.Nodup ∧
      (after calls).definitions.map some = (after calls).names.map (after calls).find? ∧
      (after calls).size = ((accepted calls).map Tool.name).eraseDups.length ∧
      ∃ registry, Guarded.Registry.after calls = .ok registry ∧
        registry.entries = (after calls).tools ∧
        ∀ name, registry.tool? name = .ok ((after calls).tool? name) ∧
          registry.find? name = .ok ((after calls).find? name) ∧
          registry.index.contains name = (after calls).contains name := by
  have ordered := names_after calls
  have distinct : (after calls).names.Nodup := (after calls).distinct
  refine ⟨register_eq_ok_iff (after calls), ?_, fun _ _ => tool?_after_eq_some_iff, ?_, ?_,
    ordered, distinct, (map_find?_names (after calls)).symm, ?_, ?_⟩
  · intro tool refused
    rw [after_concat, offer_of_not_admissible refused]
  · intro name definition
    simp only [find?, Option.map_eq_some_iff, tool?_after_eq_some_iff]
  · intro name
    simp only [contains, Option.isSome_iff_exists, tool?_after_eq_some_iff]
  · rw [← ordered, names, List.length_map, size]
  · rcases Guarded.Registry.holds_after calls with ⟨registry, built, holds⟩
    exact ⟨registry, built, holds.entries, fun name =>
      ⟨Guarded.Registry.tool?_eq holds name, Guarded.Registry.find?_eq holds name,
        Guarded.Registry.contains_index holds name⟩⟩

/-- A definition without parameters. -/
def probe (name summary : String) : Definition :=
  ⟨name, name, summary, [], none⟩

/-- Two tools, a call that is rejected, and the first tool's replacement. -/
def probes : List (Tool Nat) :=
  [⟨probe "a" "first", 1⟩, ⟨probe "b" "other", 2⟩, ⟨probe "two words" "third", 3⟩,
    ⟨probe "a" "second", 4⟩]

/-- The rejected call changes nothing, and the replacement keeps the place of the first tool. -/
theorem after_follows_calls_of_replaced :
    ¬ (probe "two words" "third").Admissible ∧
      after (probes.take 2 ++ [⟨probe "two words" "third", 3⟩]) = after (probes.take 2) ∧
      IsLatest probes "a" ⟨probe "a" "second", 4⟩ ∧
      (after probes).find? "a" = some (probe "a" "second") ∧
      (after probes).names = ["a", "b"] := by
  have refused : ¬ (probe "two words" "third").Admissible := by decide +kernel
  rcases after_follows_calls probes with ⟨_, _, found, _, _, names, _⟩
  have latest : IsLatest probes "a" ⟨probe "a" "second", 4⟩ :=
    { named := rfl
      admissible := by decide +kernel
      last := ⟨probes.take 3, [], rfl, fun _ member => nomatch member⟩ }
  refine ⟨refused, (after_follows_calls (probes.take 2)).2.1 _ refused, latest, ?_, ?_⟩
  · rw [find?, (found "a" _).mpr latest]
    rfl
  · rw [names]
    decide +kernel

end Catalog

end Workbench
