import Workbench.Proofs.Path.Segments
namespace Workbench

/-!
# The lexical form of a path

Folding a path from its start keeps a stack of names.  The reading here goes the
other way: from the end of the path, counting the pairs of dots that still look
for a name before them.  Neither the stack nor the place occurs in it, so it can
say what a path means on its face without repeating how the fold finds it.
-/

namespace Path

/-- What is left of components that are read from their end: the names that no
pair of dots behind them takes away, and the number of pairs that have not found
a name yet.  At the top such pairs are spent, because nothing lies above it. -/
def remain : List Component → List String × Nat
  | [] => ([], 0)
  | .root :: rest => ((remain rest).1, 0)
  | .here :: rest => remain rest
  | .up :: rest => ((remain rest).1, (remain rest).2 + 1)
  | .name name :: rest =>
    if (remain rest).2 = 0 then (name :: (remain rest).1, 0)
    else ((remain rest).1, (remain rest).2 - 1)

/-- The names of a path's lexical form. -/
def lexicalNames (path : String) : List String :=
  (remain (components path)).1

example : lexicalNames "/a/../../b/./c//d/.." = ["b", "c"] := by decide +kernel

/-- Names alone all remain. -/
theorem remain_map_name (names : List String) : remain (names.map Component.name) = (names, 0) := by
  induction names with
  | nil => rfl
  | cons name others inductionHypothesis =>
      rw [List.map_cons, remain, inductionHypothesis]
      rfl

/-! ## What the components of a path can be -/

theorem root_not_mem_steps (text : List (List Char)) : Component.root ∉ text.filterMap step? := by
  intro member
  obtain ⟨segment, _, step⟩ := List.mem_filterMap.mp member
  unfold step? at step
  split at step
  · cases step
  · split at step <;> cases step

theorem components_of_isAbsolute (path : String) (absolute : isAbsolute path.toList = true) :
    components path = .root :: (segments path.toList).filterMap step? := by
  simp [components, absolute]

/-- Every name among the components of a path is plain. -/
theorem plain_of_mem_components (path : String) (name : String)
    (member : Component.name name ∈ components path) : Plain name := by
  have among : Component.name name ∈ (segments path.toList).filterMap step? := by
    unfold components at member
    rcases List.mem_append.mp member with opening | step
    · split at opening
      · cases List.mem_singleton.mp opening
      · split at opening
        · cases List.mem_singleton.mp opening
        · cases opening
    · exact step
  obtain ⟨segment, listed, step⟩ := List.mem_filterMap.mp among
  exact plain_of_step? (slashless_of_mem_segments path.toList segment listed) step

end Path

namespace Place

open Workbench.Path (remain lexicalNames)

/-! ## The fold agrees with the reading from the end -/

/-- Folding components that do not go back to the top drops as many of the first
names as there are pairs of dots left over, and adds the names that remain. -/
theorem foldl_follow (components : List Path.Component) (relative : .root ∉ components)
    (place : Place) :
    components.foldl follow place =
      { place with
        names := place.names.take (place.names.length - (remain components).2) ++
          (remain components).1 } := by
  induction components generalizing place with
  | nil => simp [remain]
  | cons component rest inductionHypothesis =>
      rw [List.mem_cons, not_or] at relative
      rw [List.foldl_cons, inductionHypothesis relative.2]
      cases component with
      | root => exact absurd rfl relative.1
      | here => rfl
      | up =>
          simp only [follow, remain, List.dropLast_eq_take, List.take_take, List.length_take]
          congr 3
          omega
      | name name =>
          -- the name stays exactly if no later step up is left for it
          by_cases spent : (remain rest).2 = 0
          · have whole : (place.names ++ [name]).take (place.names.length + 1) =
                place.names ++ [name] := List.take_of_length_le (by simp)
            simp [follow, remain, spent, whole]
          · have within : place.names.length + 1 - (remain rest).2 ≤ place.names.length := by omega
            simp only [follow, remain, if_neg spent, List.length_append, List.length_singleton,
              List.take_append_of_le_length within]
            congr 3
            omega

/-- An absolute path means the place of its lexical form. -/
theorem ofPath_of_isAbsolute (path : String) (absolute : Path.isAbsolute path.toList = true) :
    ofPath path = ⟨true, lexicalNames path⟩ := by
  rw [ofPath, lexicalNames, Path.components_of_isAbsolute path absolute, List.foldl_cons,
    foldl_follow _ (Path.root_not_mem_steps _)]
  simp [follow, top, remain]

/-- The text of a place from the top is its own lexical form. -/
theorem lexicalNames_text {place : Place} (anchored : place.anchored = true)
    (plain : ∀ name ∈ place.names, Path.Plain name) : lexicalNames place.text = place.names := by
  rw [lexicalNames, components_text anchored plain, components, anchored]
  exact congrArg Prod.fst (Path.remain_map_name place.names)

/-- Every name of the place that a path means is plain. -/
theorem plain_ofPath (path : String) : ∀ name ∈ (ofPath path).names, Path.Plain name := by
  have kept : ∀ (components : List Path.Component) (place : Place),
      (∀ name, .name name ∈ components → Path.Plain name) →
      (∀ name ∈ place.names, Path.Plain name) →
      ∀ name ∈ (components.foldl follow place).names, Path.Plain name := by
    intro components
    induction components with
    | nil => exact fun place _ plain => plain
    | cons component rest inductionHypothesis =>
        intro place listed plain
        apply inductionHypothesis (place.follow component)
          (fun name member => listed name (List.mem_cons_of_mem _ member))
        cases component with
        | root => simp [follow, top]
        | here => exact plain
        | up => exact fun name member => plain name ((List.dropLast_sublist _).mem member)
        | name new =>
            intro name member
            rcases List.mem_append.mp member with old | last
            · exact plain name old
            · rw [List.mem_singleton.mp last]
              exact listed new List.mem_cons_self
  exact kept (Path.components path) nowhere (Path.plain_of_mem_components path) (by simp [nowhere])

end Place

end Workbench
