import Workbench.Proofs.Path.Lexical
import Workbench.Workspace
namespace Workbench

/-!
# Containment in the root of a workspace

Resolving asks whether the components of the root begin the components of the
resolved place.  That question confines nothing by itself: it depends on the
root being anchored at the top of the tree.  An empty directory text gives a
root without components, which begins every place, so every input is accepted
there, absolute ones included.

The main statement is exact in this respect.  For every directory in which the
process may stand and every text that names a workspace, the root confines all
inputs if and only if the text is not empty.
-/

namespace Place

theorem components_of_anchored {place : Place} (anchored : place.anchored = true) :
    place.components = .root :: place.names.map Path.Component.name := by
  simp [components, anchored]

theorem root_not_mem_map_name (names : List String) :
    Path.Component.root ∉ names.map Path.Component.name := by
  simp

/-- Names begin other names exactly if their components do. -/
theorem map_name_prefix_iff {outer inner : List String} :
    outer.map Path.Component.name <+: inner.map Path.Component.name ↔ outer <+: inner := by
  constructor
  · intro begins
    obtain ⟨shorter, within, same⟩ := List.prefix_map_iff.mp begins
    have equal : outer = shorter :=
      (List.map_inj_right (fun _ _ => Path.Component.name.inj)).mp same
    exact equal ▸ within
  · exact fun begins => begins.map Path.Component.name

/-- An anchored place holds the anchored places whose names continue its own. -/
theorem holds_iff {outer inner : Place} (anchored : outer.anchored = true) :
    outer.holds inner = true ↔ inner.anchored = true ∧ outer.names <+: inner.names := by
  rw [holds, List.isPrefixOf_iff_prefix, components_of_anchored anchored]
  cases top : inner.anchored with
  | true =>
      rw [components_of_anchored top, List.cons_prefix_cons, map_name_prefix_iff]
      simp
  | false =>
      simp only [components, top, Bool.false_eq_true, if_false, List.nil_append, false_and,
        iff_false]
      intro begins
      exact root_not_mem_map_name inner.names (begins.subset List.mem_cons_self)

end Place

namespace Workspace

/-! ## The root of a named workspace -/

/-- A path written behind an absolute text is absolute. -/
theorem isAbsolute_join (base addition : String) (absolute : Path.isAbsolute base.toList = true) :
    Path.isAbsolute (Path.join base addition).toList = true := by
  unfold Path.join
  split
  · assumption
  · cases written : base.toList with
    | nil => rw [written] at absolute; cases absolute
    | cons first rest =>
        have slash : first = '/' := by
          rw [written] at absolute
          unfold Path.isAbsolute at absolute
          split at absolute
          · rename_i same
            exact (List.cons.inj same).1
          · cases absolute
        split <;> simp [String.toList_append, written, slash, Path.isAbsolute]

/-- The root of a workspace that is named at all is the lexical form of its
directory text, read from where the process stands. -/
theorem root_of_named (standing : List String) (directory : String) (named : directory ≠ "") :
    root standing directory =
      ⟨true, Path.lexicalNames (Path.join (Place.text ⟨true, standing⟩) directory)⟩ := by
  have written : directory.isEmpty = false := by
    simpa using named
  rw [root, written, if_neg Bool.false_ne_true]
  exact Place.ofPath_of_isAbsolute _ (isAbsolute_join _ _ (Place.isAbsolute_text rfl))

theorem root_of_empty (standing : List String) : root standing "" = Place.nowhere := by
  simp [root]

theorem plain_root (standing : List String) (directory : String) :
    ∀ name ∈ (root standing directory).names, Path.Plain name := by
  unfold root
  split
  · simp [Place.nowhere]
  · exact Place.plain_ofPath _

/-! ## What resolving answers -/

/-- The two answers of resolving: the place that the input means, if the root
holds it, and else the violation. -/
theorem resolve_cases (root : Place) (input : String) :
    (resolve root input = .ok (Place.ofPath (Path.join root.text (candidate input))) ∧
        root.holds (Place.ofPath (Path.join root.text (candidate input))) = true) ∨
      resolve root input = .error (.outsideWorkspace input root.text) := by
  simp only [resolve]
  cases held : root.holds (Place.ofPath (Path.join root.text (candidate input))) with
  | true => exact Or.inl ⟨if_pos rfl, rfl⟩
  | false => exact Or.inr (if_neg Bool.false_ne_true)

/-- A resolved place lies at or below an anchored root and has plain names. -/
theorem within_of_resolve {root place : Place} {input : String} (anchored : root.anchored = true)
    (resolved : resolve root input = .ok place) :
    place.anchored = true ∧ root.names <+: place.names ∧
      ∀ name ∈ place.names, Path.Plain name := by
  rcases resolve_cases root input with ⟨accepted, held⟩ | refused
  · have same := Except.ok.inj (resolved.symm.trans accepted)
    obtain ⟨top, below⟩ := (Place.holds_iff anchored).mp held
    rw [same]
    exact ⟨top, below, Place.plain_ofPath _⟩
  · cases resolved.symm.trans refused

/-- An absolute input stands for its own lexical form, whatever the root is. -/
theorem resolve_of_isAbsolute (root : Place) (input : String)
    (absolute : Path.isAbsolute input.toList = true) :
    resolve root input =
      if root.holds ⟨true, Path.lexicalNames input⟩ then .ok ⟨true, Path.lexicalNames input⟩
      else .error (.outsideWorkspace input root.text) := by
  have given : candidate input = input := by
    unfold candidate
    rw [if_neg]
    intro blank
    cases written : input.toList with
    | nil => rw [written] at absolute; cases absolute
    | cons first rest =>
        rw [written] at absolute blank
        unfold Path.isAbsolute at absolute
        split at absolute
        · rename_i same
          rw [(List.cons.inj same).1] at blank
          simp [Text.isBlankOnly, isBlank] at blank
        · cases absolute
  have replaced : Path.join root.text input = input := by
    rw [Path.join, if_pos absolute]
  simp only [resolve, given, replaced, Place.ofPath_of_isAbsolute input absolute]

/-! ## Confinement by a root -/

/-- A root that confines every input.  It is an absolute place of plain names,
whose text is read back as just these components.  Every input is resolved to a
place at or below it or refused with the violation, and an absolute input is
refused whenever its own lexical form lies elsewhere. -/
structure Confines (root : Place) : Prop where
  anchored : root.anchored = true
  plain : ∀ name ∈ root.names, Path.Plain name
  readBack : Path.components root.text = .root :: root.names.map Path.Component.name
  answers : ∀ input,
    (∃ place, resolve root input = .ok place ∧ root.components <+: place.components) ∨
      resolve root input = .error (.outsideWorkspace input root.text)
  refuses : ∀ input, Path.isAbsolute input.toList = true →
    ¬ root.names <+: Path.lexicalNames input →
    resolve root input = .error (.outsideWorkspace input root.text)

theorem confines_of_anchored {root : Place} (anchored : root.anchored = true)
    (plain : ∀ name ∈ root.names, Path.Plain name) : Confines root where
  anchored := anchored
  plain := plain
  readBack := (Place.components_text anchored plain).trans (Place.components_of_anchored anchored)
  answers := by
    intro input
    rcases resolve_cases root input with ⟨resolved, held⟩ | refused
    · exact Or.inl ⟨_, resolved, List.isPrefixOf_iff_prefix.mp held⟩
    · exact Or.inr refused
  refuses := by
    intro input absolute outside
    rw [resolve_of_isAbsolute root input absolute, if_neg]
    intro held
    exact outside ((Place.holds_iff anchored).mp held).2

/-- Exactly the empty directory text gives a root that does not confine. -/
theorem confines_root_iff (standing : List String) (directory : String) :
    Confines (root standing directory) ↔ directory ≠ "" := by
  constructor
  · intro confines empty
    have anchored := confines.anchored
    rw [empty, root_of_empty] at anchored
    exact Bool.false_ne_true anchored
  · intro named
    apply confines_of_anchored
    · rw [root_of_named standing directory named]
    · exact plain_root standing directory

/-- Without a directory text the root is not absolute, and an absolute input far
away from where the process stands is accepted. -/
theorem emptyDirectory_admits_absolute_input :
    (root ["base"] "").anchored = false ∧
      resolve (root ["base"] "") "/etc/passwd" = .ok ⟨true, ["etc", "passwd"]⟩ ∧
      ¬ Confines (root ["base"] "") := by
  have lexical : Path.lexicalNames "/etc/passwd" = ["etc", "passwd"] := by decide +kernel
  refine ⟨by decide, ?_, ?_⟩
  · rw [resolve_of_isAbsolute _ _ (by decide), lexical]
    exact if_pos (by decide)
  · intro confines
    exact absurd confines.anchored (by decide)

end Workspace

end Workbench
