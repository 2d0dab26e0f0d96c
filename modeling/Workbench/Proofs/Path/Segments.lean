import Workbench.Path.Place
import Workbench.Tree.Lookup
namespace Workbench

/-!
# Segments of a path and the text of a place

A place is written as its names with slashes between them.  Reading that text
gives the place back only if no name could be mistaken for something else: a
name that is empty, a dot, two dots or that holds a slash does not survive.  A
name without these faults is called plain here, and every name that comes out
of a path is plain.

Two readers are covered.  One takes the components of a path, as resolving
does; the other takes its steps, as following a path in a tree does, and counts
the idle segments too.
-/

namespace Path

/-- A name that stands for itself in the text of a path. -/
structure Plain (name : String) : Prop where
  nonempty : name ≠ ""
  notDot : name ≠ "."
  notDots : name ≠ ".."
  slashless : '/' ∉ name.toList

/-! ## Cutting a text at its slashes -/

theorem segments_ne_nil (text : List Char) : segments text ≠ [] := by
  cases text with
  | nil => simp [segments]
  | cons first rest =>
      unfold segments
      split
      · simp
      · split <;> simp

theorem slashless_of_mem_segments (text : List Char) :
    ∀ segment ∈ segments text, '/' ∉ segment := by
  induction text with
  | nil => simp [segments]
  | cons first rest inductionHypothesis =>
      unfold segments
      by_cases slash : first = '/'
      · rw [if_pos slash]
        intro segment member
        rcases List.mem_cons.mp member with here | later
        · simp [here]
        · exact inductionHypothesis segment later
      · rw [if_neg slash]
        cases cut : segments rest with
        | nil => exact absurd cut (segments_ne_nil rest)
        | cons segment others =>
            rw [cut] at inductionHypothesis
            intro found member
            rcases List.mem_cons.mp member with here | later
            · rw [here, List.mem_cons, not_or]
              exact ⟨fun same => slash same.symm, inductionHypothesis segment List.mem_cons_self⟩
            · exact inductionHypothesis found (List.mem_cons_of_mem _ later)

theorem segments_of_slashless (segment : List Char) (slashless : '/' ∉ segment) :
    segments segment = [segment] := by
  induction segment with
  | nil => rfl
  | cons first rest inductionHypothesis =>
      rw [List.mem_cons, not_or] at slashless
      have different : first ≠ '/' := fun same => slashless.1 same.symm
      rw [segments, if_neg different, inductionHypothesis slashless.2]

theorem segments_append_slash (segment text : List Char) (slashless : '/' ∉ segment) :
    segments (segment ++ '/' :: text) = segment :: segments text := by
  induction segment with
  | nil => simp [segments]
  | cons first rest inductionHypothesis =>
      rw [List.mem_cons, not_or] at slashless
      have different : first ≠ '/' := fun same => slashless.1 same.symm
      rw [List.cons_append, segments, if_neg different, inductionHypothesis slashless.2]

/-- Names without slashes are the segments of their joined text. -/
theorem segments_intercalate (names : List String) (some : names ≠ [])
    (slashless : ∀ name ∈ names, '/' ∉ name.toList) :
    segments (String.intercalate "/" names).toList = names.map String.toList := by
  induction names with
  | nil => exact absurd rfl some
  | cons name others inductionHypothesis =>
      cases others with
      | nil =>
          rw [String.intercalate_singleton]
          exact segments_of_slashless _ (slashless name List.mem_cons_self)
      | cons next rest =>
          have later := inductionHypothesis (List.cons_ne_nil next rest)
            (fun other member => slashless other (List.mem_cons_of_mem _ member))
          rw [String.intercalate_cons_cons, String.toList_append, String.toList_append,
            List.append_assoc, List.map_cons, ← later]
          exact segments_append_slash _ _ (slashless name List.mem_cons_self)

/-! ## Plain names as segments -/

namespace Plain

variable {name : String}

theorem isIdle (plain : Plain name) : Path.isIdle name.toList = false := by
  have nonempty : name.toList ≠ [] := fun none => plain.nonempty (String.toList_eq_nil_iff.mp none)
  have notDot : name.toList ≠ ['.'] := fun dot =>
    plain.notDot (String.toList_inj.mp (dot.trans (by decide)))
  simp [Path.isIdle, nonempty, notDot]

theorem toList_ne_dots (plain : Plain name) : name.toList ≠ ['.', '.'] := fun dots =>
  plain.notDots (String.toList_inj.mp (dots.trans (by decide)))

theorem step? (plain : Plain name) : Path.step? name.toList = some (.name name) := by
  rw [Path.step?, plain.isIdle, if_neg Bool.false_ne_true, if_neg plain.toList_ne_dots,
    String.ofList_toList]

theorem ofSegment (plain : Plain name) : Step.ofSegment name.toList = .enter name := by
  rw [Step.ofSegment, plain.isIdle, if_neg Bool.false_ne_true, if_neg plain.toList_ne_dots,
    String.ofList_toList]

end Plain

/-- Plain names are the steps of their own segments. -/
theorem filterMap_step? (names : List String) (plain : ∀ name ∈ names, Plain name) :
    (names.map String.toList).filterMap step? = names.map Component.name := by
  induction names with
  | nil => rfl
  | cons name others inductionHypothesis =>
      rw [List.map_cons, List.filterMap_cons_some (plain name List.mem_cons_self).step?,
        List.map_cons,
        inductionHypothesis (fun other member => plain other (List.mem_cons_of_mem _ member))]

/-- A segment that names anything names a plain name. -/
theorem plain_of_step? {segment : List Char} (slashless : '/' ∉ segment) {name : String}
    (names : step? segment = some (.name name)) : Plain name := by
  unfold step? isIdle at names
  split at names
  · cases names
  · rename_i busy
    split at names
    · cases names
    · rename_i notDots
      have written : segment = name.toList := by
        have same := Component.name.inj (Option.some.inj names)
        rw [← same, String.toList_ofList]
      subst written
      simp only [Bool.or_eq_true, beq_iff_eq, not_or] at busy
      exact
        { nonempty := fun none => busy.1 (by rw [none]; rfl)
          notDot := fun dot => busy.2 (by rw [dot]; decide)
          notDots := fun dots => notDots (by rw [dots]; decide)
          slashless := slashless }

end Path

/-! ## The text of a place, read again -/

namespace Place

variable {place : Place}

theorem toList_text (anchored : place.anchored = true) :
    place.text.toList = '/' :: (String.intercalate "/" place.names).toList := by
  simp [text, anchored]

theorem isAbsolute_text (anchored : place.anchored = true) :
    Path.isAbsolute place.text.toList = true := by
  rw [toList_text anchored]
  rfl

theorem segments_text (anchored : place.anchored = true)
    (plain : ∀ name ∈ place.names, Path.Plain name) :
    Path.segments place.text.toList =
      [] :: (if place.names = [] then [[]] else place.names.map String.toList) := by
  rw [toList_text anchored, Path.segments, if_pos rfl]
  split
  · rename_i none
    rw [none]
    rfl
  · rename_i some
    rw [Path.segments_intercalate place.names some
      (fun name member => (plain name member).slashless)]

/-- The components of a place are read back from its text. -/
theorem components_text (anchored : place.anchored = true)
    (plain : ∀ name ∈ place.names, Path.Plain name) :
    Path.components place.text = place.components := by
  rw [Path.components, segments_text anchored plain, isAbsolute_text anchored]
  by_cases none : place.names = []
  · rw [if_pos none, components, anchored, none]
    rfl
  · rw [if_neg none, components, anchored, List.filterMap_cons_none rfl,
      Path.filterMap_step? _ plain]
    rfl

/-- Following the text of a place means to enter its names one after the other;
the steps before and after them that stay are of no consequence. -/
theorem steps_text (anchored : place.anchored = true)
    (plain : ∀ name ∈ place.names, Path.Plain name) :
    Step.ofPath place.text =
      .stay :: (if place.names = [] then [.stay] else place.names.map Step.enter) := by
  rw [Step.ofPath, segments_text anchored plain, List.map_cons]
  by_cases none : place.names = []
  · rw [if_pos none, if_pos none]
    rfl
  · rw [if_neg none, if_neg none, List.map_map]
    have read : place.names.map (Step.ofSegment ∘ String.toList) = place.names.map Step.enter :=
      List.map_congr_left (fun name member => (plain name member).ofSegment)
    rw [read]
    rfl

end Place

end Workbench
