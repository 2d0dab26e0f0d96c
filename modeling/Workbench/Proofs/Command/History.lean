import Workbench.Proofs.Command.Registration
import Mathlib.Data.List.Induction
namespace Workbench

/-!
# Registration histories

A host registers tools one after the other, and a call that is rejected leaves the
catalog as it is.  An accepted tool takes the place of the earlier one with its name, so
a name always finds the tool of the last accepted call under it.
-/

variable {Action : Type}

namespace Shelf

/-- A name finds the tool that was just put there, and any other name finds what it found
before. -/
theorem find?_put (tool : Tool Action) (tools : List (Tool Action)) (name : String) :
    (put tool tools).find? (fun other => other.name == name) =
      if tool.name = name then some tool
      else tools.find? (fun other => other.name == name) := by
  induction tools with
  | nil =>
      rw [put, List.find?_singleton]
      simp only [beq_iff_eq, List.find?_nil]
  | cons first rest inductionHypothesis =>
      by_cases same : first.name = tool.name
      · rw [put, if_pos same, List.find?_cons, List.find?_cons, same]
        by_cases asked : tool.name = name
        · simp only [asked, beq_self_eq_true, if_true]
        · simp only [beq_eq_false_iff_ne.mpr asked, asked, if_false]
      · rw [put, if_neg same, List.find?_cons, List.find?_cons]
        by_cases here : first.name = name
        · have other : tool.name ≠ name := fun asked => same (here.trans asked.symm)
          simp only [here, beq_self_eq_true, other, if_false]
        · simp only [beq_eq_false_iff_ne.mpr here, inductionHypothesis]

end Shelf

namespace Catalog

theorem tool?_put (catalog : Catalog Action) (tool : Tool Action) (name : String) :
    (catalog.put tool).tool? name = if tool.name = name then some tool else catalog.tool? name :=
  Shelf.find?_put tool catalog.tools name

/-- The catalog after a register call, which may have been rejected. -/
def offer (catalog : Catalog Action) (tool : Tool Action) : Catalog Action :=
  match catalog.register tool with
  | .ok larger => larger
  | .error _ => catalog

/-- The catalog after a sequence of register calls. -/
def after (calls : List (Tool Action)) : Catalog Action :=
  calls.foldl offer empty

theorem after_concat (calls : List (Tool Action)) (tool : Tool Action) :
    after (calls ++ [tool]) = (after calls).offer tool := by
  rw [after, List.foldl_concat, ← after]

theorem offer_of_sound {tool : Tool Action} (sound : tool.definition.defect? = none)
    (catalog : Catalog Action) : catalog.offer tool = catalog.put tool := by
  rw [offer, register_of_sound sound]

theorem register_of_defect {tool : Tool Action} {defect : Defect}
    (defective : tool.definition.defect? = some defect) (catalog : Catalog Action) :
    catalog.register tool = .error (.badDefinition defect) := by
  rw [register, defective]

theorem offer_of_defect {tool : Tool Action} {defect : Defect}
    (defective : tool.definition.defect? = some defect) (catalog : Catalog Action) :
    catalog.offer tool = catalog := by
  rw [offer, register_of_defect defective]

/-- The tool of the last accepted call under a name. -/
def lastAccepted? (calls : List (Tool Action)) (name : String) : Option (Tool Action) :=
  calls.reverse.find? (fun tool => tool.name == name && tool.definition.defect?.isNone)

theorem lastAccepted?_concat (calls : List (Tool Action)) (tool : Tool Action) (name : String) :
    lastAccepted? (calls ++ [tool]) name =
      if tool.name = name ∧ tool.definition.defect? = none then some tool
      else lastAccepted? calls name := by
  rw [lastAccepted?, List.reverse_concat, List.find?_cons, lastAccepted?]
  by_cases chosen : tool.name = name ∧ tool.definition.defect? = none
  · have picked : (tool.name == name && tool.definition.defect?.isNone) = true := by
      rw [chosen.1, chosen.2, beq_self_eq_true]
      rfl
    rw [if_pos chosen]
    simp only [picked]
  · have passed : (tool.name == name && tool.definition.defect?.isNone) = false := by
      rw [Bool.and_eq_false_iff, beq_eq_false_iff_ne, Option.isNone_eq_false_iff,
        Option.isSome_iff_ne_none]
      exact not_and_or.mp chosen
    rw [if_neg chosen]
    simp only [passed]

/-- A name finds the tool of the last accepted call under it. -/
theorem tool?_after (calls : List (Tool Action)) (name : String) :
    (after calls).tool? name = lastAccepted? calls name := by
  induction calls using List.reverseRecOn with
  | nil => rfl
  | append_singleton earlier tool inductionHypothesis =>
      rw [after_concat, lastAccepted?_concat]
      cases defective : tool.definition.defect? with
      | none =>
          rw [offer_of_sound defective, tool?_put, inductionHypothesis]
          simp only [and_true]
      | some defect =>
          rw [offer_of_defect defective, inductionHypothesis]
          simp only [reduceCtorEq, and_false, if_false]

/-- The tool was accepted in one of the calls, and every later call under its name was
rejected. -/
inductive LastAccepted (calls : List (Tool Action)) (tool : Tool Action) : Prop where
  | here (before later : List (Tool Action)) (whole : calls = before ++ tool :: later)
      (accepted : (after before).register tool = .ok (after (before ++ [tool])))
      (rejected : ∀ other ∈ later, other.name = tool.name →
        ∃ defect, ∀ catalog : Catalog Action,
          catalog.register other = .error (.badDefinition defect))

theorem LastAccepted.mem {calls : List (Tool Action)} {tool : Tool Action}
    (last : LastAccepted calls tool) : tool ∈ calls := by
  cases last with
  | here before later whole accepted rejected =>
      rw [whole]
      exact List.mem_append_right before List.mem_cons_self

/-- The last accepted call under a name, as a place in the history. -/
theorem lastAccepted?_eq_some_iff {calls : List (Tool Action)} {name : String}
    {tool : Tool Action} :
    lastAccepted? calls name = some tool ↔
      (tool.name = name ∧ tool.definition.defect? = none) ∧
        ∃ before later, calls = before ++ tool :: later ∧
          ∀ other ∈ later, ¬ (other.name = name ∧ other.definition.defect? = none) := by
  have chosen (other : Tool Action) :
      (other.name == name && other.definition.defect?.isNone) = true ↔
        other.name = name ∧ other.definition.defect? = none := by
    rw [Bool.and_eq_true, beq_iff_eq, Option.isNone_iff_eq_none]
  rw [lastAccepted?, List.find?_eq_some_iff_append, chosen]
  apply and_congr_right
  intro _
  constructor
  · rintro ⟨later, before, reversed, passed⟩
    refine ⟨before.reverse, later.reverse, ?_, ?_⟩
    · rw [← List.reverse_reverse calls, reversed, List.reverse_append, List.reverse_cons,
        List.append_assoc, List.singleton_append]
    · intro other member picked
      have skipped := passed other (List.mem_reverse.mp member)
      rw [(chosen other).mpr picked] at skipped
      cases skipped
  · rintro ⟨before, later, whole, passed⟩
    refine ⟨later.reverse, before.reverse, ?_, ?_⟩
    · rw [whole, List.reverse_append, List.reverse_cons, List.append_assoc,
        List.singleton_append]
    · intro other member
      rw [Bool.not_eq_true', ← Bool.not_eq_true]
      exact mt (chosen other).mp (passed other (List.mem_reverse.mp member))

theorem lastAccepted_of_tool? {calls : List (Tool Action)} {name : String} {tool : Tool Action}
    (found : (after calls).tool? name = some tool) : LastAccepted calls tool := by
  rw [tool?_after, lastAccepted?_eq_some_iff] at found
  rcases found with ⟨⟨named, sound⟩, before, later, whole, passed⟩
  refine .here before later whole ?_ ?_
  · rw [after_concat, offer_of_sound sound, register_of_sound sound]
  · intro other member sameName
    cases defective : other.definition.defect? with
    | none => exact absurd ⟨sameName.trans named, defective⟩ (passed other member)
    | some defect => exact ⟨defect, register_of_defect defective⟩

end Catalog

end Workbench
