import Workbench.Proofs.Workspace.Resolution
namespace Workbench

/-!
# Displayed paths

A place of the workspace is shown by the names that lead to it from the root, and a dot stands for
the root itself.  Such a text is given to other commands, which resolve it against the root again.
Reading it must undo showing it, and two things could prevent that.  The names could run together
in the text or be taken for something else, but names that come out of a path are plain, so the
segments of the text are the names that were written, and none of them is the dot.  And the text
could be blank, because a blank input means the root.  This does happen, for a file directly below
the root whose name is white space.  Nothing else is lost, and even then no other place has the
same text.
-/

namespace Path

/-- Plain names with slashes between them are no absolute path. -/
theorem isAbsolute_intercalate {names : List String} (plain : ∀ name ∈ names, Plain name) :
    isAbsolute (String.intercalate "/" names).toList = false := by
  cases names with
  | nil => rfl
  | cons name others =>
      rcases List.forall_mem_cons.mp plain with ⟨here, _⟩
      have begins : ∃ rest, (String.intercalate "/" (name :: others)).toList =
          name.toList ++ rest := by
        cases others with
        | nil => exact ⟨[], by rw [String.intercalate_singleton, List.append_nil]⟩
        | cons next more =>
            rw [String.intercalate_cons_cons, String.toList_append, String.toList_append,
              List.append_assoc]
            exact ⟨_, rfl⟩
      rcases begins with ⟨rest, shape⟩
      rw [shape]
      cases letters : name.toList with
      | nil => exact absurd (String.toList_eq_nil_iff.mp letters) here.nonempty
      | cons first more =>
          have slashless := here.slashless
          rw [letters, List.mem_cons, not_or] at slashless
          rw [List.cons_append, isAbsolute]
          intro others same
          exact slashless.1 (List.cons.inj same).1.symm

/-- The steps of plain names with slashes between them are the names. -/
theorem steps_intercalate {names : List String} (plain : ∀ name ∈ names, Plain name) :
    (segments (String.intercalate "/" names).toList).filterMap step? =
      names.map Component.name := by
  by_cases none : names = []
  · rw [none]
    rfl
  · rw [segments_intercalate _ none (fun name member => (plain name member).slashless),
      filterMap_step? _ plain]

end Path

namespace Workspace

/-- The text that shows the names below the root. -/
def shown (names : List String) : String :=
  if names = [] then "." else String.intercalate "/" names

/-- A place is shown by what its names add to those of the root. -/
theorem display_below (root : Place) (below : List String) :
    display root ⟨root.anchored, root.names ++ below⟩ = shown below := by
  have held : root.holds ⟨root.anchored, root.names ++ below⟩ = true := by
    apply List.isPrefixOf_iff_prefix.mpr
    exact ⟨below.map .name, by simp [Place.components]⟩
  rw [display, if_pos held]
  simp only [Bool.and_not_self, List.drop_left, Place.nowhere, Place.mk.injEq, true_and, shown]
  by_cases none : below = []
  · rw [if_pos none, if_pos none]
  · rw [if_neg none, if_neg none, Place.text, if_neg Bool.false_ne_true, String.empty_append]

/-- The steps of the text are the names, because the dot is no step. -/
theorem steps_shown {names : List String} (plain : ∀ name ∈ names, Path.Plain name) :
    (Path.segments (shown names).toList).filterMap Path.step? =
      names.map Path.Component.name := by
  by_cases none : names = []
  · rw [none]
    rfl
  · rw [shown, if_neg none]
    exact Path.steps_intercalate plain

theorem isAbsolute_shown {names : List String} (plain : ∀ name ∈ names, Path.Plain name) :
    Path.isAbsolute (shown names).toList = false := by
  by_cases none : names = []
  · rw [none]
    rfl
  · rw [shown, if_neg none]
    exact Path.isAbsolute_intercalate plain

/-- Different names are shown by different texts. -/
theorem shown_inj {first second : List String} (plainFirst : ∀ name ∈ first, Path.Plain name)
    (plainSecond : ∀ name ∈ second, Path.Plain name) (same : shown first = shown second) :
    first = second := by
  have steps := steps_shown plainFirst
  rw [same, steps_shown plainSecond] at steps
  exact ((List.map_inj_right (fun _ _ => Path.Component.name.inj)).mp steps).symm

/-! ## Reading the text again -/

/-- An input whose steps are plain names is resolved to the place that they lead to from the
root. -/
theorem resolve_of_names (standing : List String) (directory : String) {input : String}
    {below : List String} (relative : Path.isAbsolute (candidate input).toList = false)
    (steps : (Path.segments (candidate input).toList).filterMap Path.step? =
      below.map Path.Component.name) :
    resolve (root standing directory) input =
      .ok ⟨(root standing directory).anchored, (root standing directory).names ++ below⟩ := by
  have meant := ofPath_join_root standing directory input
  have here : start (root standing directory) input = root standing directory := by
    rw [start, relative, if_neg Bool.false_ne_true]
  rw [here, steps, Place.foldl_follow _ (Place.root_not_mem_map_name below),
    Path.remain_map_name, Nat.sub_zero, List.take_length] at meant
  rw [resolve_eq_of_target meant]
  apply if_pos
  exact ⟨below.map .name, by simp [Place.components]⟩

/-- The text of plain names leads to the place that they name from the root, and to the root
itself if the text is blank. -/
theorem resolve_shown (standing : List String) (directory : String) {below : List String}
    (plain : ∀ name ∈ below, Path.Plain name) :
    resolve (root standing directory) (shown below) =
      if Text.isBlankOnly (shown below).toList then .ok (root standing directory)
      else .ok ⟨(root standing directory).anchored,
        (root standing directory).names ++ below⟩ := by
  cases blank : Text.isBlankOnly (shown below).toList with
  | true =>
      have dot : candidate (shown below) = "." := by
        rw [candidate, blank, if_pos rfl]
      have resolved := @resolve_of_names standing directory (shown below) []
        (by rw [dot]; rfl) (by rw [dot]; rfl)
      rw [List.append_nil] at resolved
      rw [if_pos rfl]
      exact resolved
  | false =>
      have given : candidate (shown below) = shown below := by
        rw [candidate, blank, if_neg Bool.false_ne_true]
      rw [if_neg Bool.false_ne_true]
      apply resolve_of_names
      · rw [given]
        exact isAbsolute_shown plain
      · rw [given]
        exact steps_shown plain

/-! ## Reading the text in full -/

/-- A place of plain names is what its own text means. -/
theorem ofPath_text_of_plain {place : Place} (plain : ∀ name ∈ place.names, Path.Plain name) :
    Place.ofPath place.text = place := by
  cases top : place.anchored with
  | true => exact Place.ofPath_text top plain
  | false =>
      have written : place.text = String.intercalate "/" place.names := by
        rw [Place.text, top, if_neg Bool.false_ne_true, String.empty_append]
      rw [Place.ofPath_eq, written, Path.isAbsolute_intercalate plain,
        if_neg Bool.false_ne_true, Path.steps_intercalate plain,
        Place.foldl_follow _ (Place.root_not_mem_map_name _), Path.remain_map_name]
      cases place
      cases top
      rfl

/-- The text of a place of plain names below the root is accepted as that place, unless it is
blank.  This happens only where the workspace is not named at all. -/
theorem resolve_text_of_held {standing : List String} {directory : String} {place : Place}
    (plain : ∀ name ∈ place.names, Path.Plain name)
    (held : (root standing directory).components <+: place.components) :
    resolve (root standing directory) place.text =
      .ok (if Text.isBlankOnly place.text.toList then Place.nowhere else place) := by
  by_cases named : directory = ""
  · subst named
    rw [root_of_empty]
    have joined (text : String) : Path.join Place.nowhere.text text = text := by
      have empty : Place.nowhere.text = "" := rfl
      rw [Path.join, empty]
      split
      · rfl
      · exact String.empty_append
    have everywhere (target : Place) : Place.nowhere.components <+: target.components :=
      List.nil_prefix
    rw [resolve_eq_of_target rfl, joined, if_pos (everywhere _), candidate]
    split
    · rfl
    · rw [ofPath_text_of_plain plain]
  · have anchored : (root standing directory).anchored = true := by
      rw [root_of_named standing directory named]
    have top := ((Place.holds_iff anchored).mp (List.isPrefixOf_iff_prefix.mpr held)).1
    have solid : Text.isBlankOnly place.text.toList = false := by
      rw [Place.toList_text top]
      rfl
    rw [solid, if_neg Bool.false_ne_true]
    exact resolve_text_of_accepted anchored plain held

/-- What is accepted is of plain names and lies at the root or below it. -/
theorem held_of_resolve {root place : Place} {input : String}
    (resolved : resolve root input = .ok place) :
    (∀ name ∈ place.names, Path.Plain name) ∧ root.components <+: place.components := by
  rcases resolve_cases root input with ⟨accepted, holds⟩ | refused
  · rw [Except.ok.inj (resolved.symm.trans accepted)]
    exact ⟨Place.plain_ofPath _, List.isPrefixOf_iff_prefix.mp holds⟩
  · cases resolved.symm.trans refused

/-- The text of an accepted place is accepted as that place, unless it is blank. -/
theorem resolve_text_of_resolve {standing : List String} {directory input : String} {place : Place}
    (resolved : resolve (root standing directory) input = .ok place) :
    resolve (root standing directory) place.text =
      .ok (if Text.isBlankOnly place.text.toList then Place.nowhere else place) :=
  resolve_text_of_held (held_of_resolve resolved).1 (held_of_resolve resolved).2

/-! ## Showing and reading -/

/-- What is accepted in a named workspace is reached from the root by plain names. -/
theorem exists_below_of_resolve {standing : List String} {directory : String}
    (named : directory ≠ "") {input : String} {place : Place}
    (resolved : resolve (root standing directory) input = .ok place) :
    ∃ below, (∀ name ∈ below, Path.Plain name) ∧
      place = ⟨(root standing directory).anchored,
        (root standing directory).names ++ below⟩ := by
  have anchored : (root standing directory).anchored = true := by
    rw [root_of_named standing directory named]
  rcases within_of_resolve anchored resolved with ⟨top, ⟨below, whole⟩, plain⟩
  refine ⟨below, fun name member => plain name ?_, ?_⟩
  · rw [← whole]
    exact List.mem_append_right _ member
  · rw [whole, anchored, ← top]

/-- Where the workspace is not named, places are shown in full. -/
theorem display_nowhere (place : Place) :
    display Place.nowhere place = if place = Place.nowhere then "." else place.text := by
  cases place with
  | mk anchored names => cases anchored <;> rfl

/-- The text by which an accepted place is shown leads back to it, unless the text is blank.  This
also holds in a workspace that is not named. -/
theorem resolve_display {standing : List String} {directory input : String} {place : Place}
    (resolved : resolve (root standing directory) input = .ok place)
    (visible : Text.isBlankOnly (display (root standing directory) place).toList = false) :
    resolve (root standing directory) (display (root standing directory) place) =
      .ok place := by
  by_cases named : directory = ""
  · subst named
    have again := resolve_text_of_resolve resolved
    rw [root_of_empty] at visible again ⊢
    rw [display_nowhere] at visible ⊢
    split at visible
    · rename_i top
      rw [if_pos top, top]
      rfl
    · rename_i step
      rw [if_neg step, again, visible]
      rfl
  · rcases exists_below_of_resolve named resolved with ⟨below, plain, rfl⟩
    rw [display_below] at visible ⊢
    rw [resolve_shown standing directory plain, visible]
    rfl

/-- In a workspace that is named at all, the text by which an accepted place is shown is resolved
to that place again, or to the root if the text is blank, and no other accepted place is shown by
the same text. -/
theorem display_leads_back (standing : List String) {directory : String} (named : directory ≠ "")
    {input : String} {place : Place}
    (resolved : resolve (root standing directory) input = .ok place) :
    resolve (root standing directory) (display (root standing directory) place) =
        (if Text.isBlankOnly (display (root standing directory) place).toList then
          .ok (root standing directory)
        else .ok place) ∧
      ∀ otherInput other, resolve (root standing directory) otherInput = .ok other →
        display (root standing directory) other = display (root standing directory) place →
        other = place := by
  rcases exists_below_of_resolve named resolved with ⟨below, plain, rfl⟩
  rw [display_below]
  refine ⟨resolve_shown standing directory plain, ?_⟩
  intro otherInput other accepted same
  rcases exists_below_of_resolve named accepted with ⟨otherBelow, otherPlain, rfl⟩
  rw [display_below] at same
  rw [shown_inj otherPlain plain same]

/-- Under the top of the file tree, with blanks inside of the text, and the one case in which the
text leads elsewhere: a file whose name is a blank. -/
theorem display_leads_back_under_top :
    ("/" ≠ "" ∧ resolve (root [] "/") "a/.././ b//c" = .ok ⟨true, [" b", "c"]⟩ ∧
        display (root [] "/") ⟨true, [" b", "c"]⟩ = " b/c" ∧
        resolve (root [] "/") " b/c" = .ok ⟨true, [" b", "c"]⟩ ∧
        ∃ other, resolve (root [] "/") "/ b/./c/" = .ok other ∧
          display (root [] "/") other = " b/c" ∧ other = ⟨true, [" b", "c"]⟩) ∧
      "ws" ≠ "" ∧ resolve (root ["base"] "ws") "./ " = .ok ⟨true, ["base", "ws", " "]⟩ ∧
        display (root ["base"] "ws") ⟨true, ["base", "ws", " "]⟩ = " " ∧
        resolve (root ["base"] "ws") " " = .ok (root ["base"] "ws") := by
  have inside : resolve (root [] "/") "a/.././ b//c" = .ok ⟨true, [" b", "c"]⟩ := by
    rfl
  have written : display (root [] "/") ⟨true, [" b", "c"]⟩ = " b/c" := by decide +kernel
  have again : resolve (root [] "/") "/ b/./c/" = .ok ⟨true, [" b", "c"]⟩ := by rfl
  have blank : resolve (root ["base"] "ws") "./ " = .ok ⟨true, ["base", "ws", " "]⟩ := by
    rfl
  have bare : display (root ["base"] "ws") ⟨true, ["base", "ws", " "]⟩ = " " := by
    decide +kernel
  refine ⟨⟨by decide, inside, written, ?_, _, again, written, ?_⟩, by decide, blank, bare, ?_⟩
  · have led := (display_leads_back [] (by decide) inside).1
    rw [written] at led
    exact led
  · exact (display_leads_back [] (by decide) inside).2 _ _ again rfl
  · have led := (display_leads_back ["base"] (by decide) blank).1
    rw [bare] at led
    exact led

end Workspace

end Workbench
