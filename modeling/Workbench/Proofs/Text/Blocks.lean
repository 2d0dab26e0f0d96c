import Mathlib.Algebra.GroupWithZero.Nat
namespace Workbench

/-!
# Blocks of lines

A text is cut into lines at its line feeds, and into blocks where a line is empty.  Blocks of
lines that are not empty, joined with one empty line between neighbours, are found again.  Whoever
joins texts without knowing whether they are single lines can still count: joining adds up every
measure that is additive, so the number of line feeds tells whether one more has come in.
-/

namespace Text

/-- The blocks of a text: the runs of its lines between empty ones. -/
def blocks (text : List Char) : List (List (List Char)) :=
  ((text.splitOn '\n').splitOn []).filter (fun lines => !lines.isEmpty)

variable {Item : Type}

/-! ## Joining in two levels -/

theorem intercalate_append (separator : List Item) {front back : List (List Item)}
    (filledFront : front ≠ []) (filledBack : back ≠ []) :
    separator.intercalate (front ++ back) =
      separator.intercalate front ++ separator ++ separator.intercalate back := by
  induction front with
  | nil => exact absurd rfl filledFront
  | cons first rest inductionHypothesis =>
      cases rest with
      | nil =>
          rw [List.singleton_append, List.intercalate_cons_of_ne_nil filledBack,
            List.intercalate_singleton]
      | cons second others =>
          have more : second :: others ++ back ≠ [] :=
            List.append_ne_nil_of_left_ne_nil (List.cons_ne_nil _ _) back
          rw [List.cons_append, List.intercalate_cons_of_ne_nil more,
            inductionHypothesis (List.cons_ne_nil _ _), List.intercalate_cons_cons]
          simp only [List.append_assoc]

theorem mem_of_mem_intercalate {separator : List Item} {texts : List (List Item)} {item : Item}
    (member : item ∈ separator.intercalate texts) :
    item ∈ separator ∨ ∃ text ∈ texts, item ∈ text := by
  induction texts with
  | nil => cases member
  | cons first rest inductionHypothesis =>
      cases rest with
      | nil =>
          rw [List.intercalate_singleton] at member
          exact Or.inr ⟨first, List.mem_cons_self, member⟩
      | cons second others =>
          rw [List.intercalate_cons_cons, List.mem_append, List.mem_append] at member
          rcases member with (here | between) | later
          · exact Or.inr ⟨first, List.mem_cons_self, here⟩
          · exact Or.inl between
          · rcases inductionHypothesis later with between | ⟨text, listed, inside⟩
            · exact Or.inl between
            · exact Or.inr ⟨text, List.mem_cons_of_mem first listed, inside⟩

theorem intercalate_ne_nil (separator : List Item) {first : List Item} (filled : first ≠ [])
    (rest : List (List Item)) : separator.intercalate (first :: rest) ≠ [] := by
  cases rest with
  | nil => rwa [List.intercalate_singleton]
  | cons second others => simp [filled]

/-- Any measure that adds up over texts adds up over joined texts, one separator for each text
but the last. -/
theorem measure_intercalate (measure : List Item → Nat)
    (additive : ∀ front back, measure (front ++ back) = measure front + measure back)
    (separator : List Item) {texts : List (List Item)} (filled : texts ≠ []) :
    measure (separator.intercalate texts) + measure separator =
      (texts.map measure).sum + texts.length * measure separator := by
  induction texts with
  | nil => exact absurd rfl filled
  | cons first rest inductionHypothesis =>
      cases rest with
      | nil => simp
      | cons second others =>
          have later := inductionHypothesis (List.cons_ne_nil _ _)
          rw [List.intercalate_cons_cons, additive, additive, List.map_cons, List.sum_cons,
            List.length_cons, Nat.succ_mul]
          omega

/-- Blocks joined with an empty line between neighbours are their texts joined with two line
feeds. -/
theorem intercalate_blank {sheets : List (List (List Char))} (filled : ∀ sheet ∈ sheets, sheet ≠ []) :
    ['\n'].intercalate ([[]].intercalate sheets) =
      ['\n', '\n'].intercalate (sheets.map ['\n'].intercalate) := by
  induction sheets with
  | nil => rfl
  | cons first rest inductionHypothesis =>
      rcases List.forall_mem_cons.mp filled with ⟨here, later⟩
      cases rest with
      | nil => simp
      | cons second others =>
          have behind : [[]].intercalate (second :: others) ≠ [] :=
            intercalate_ne_nil _ (later second List.mem_cons_self) others
          have joined : [[]].intercalate (first :: second :: others) =
              first ++ ([[]] ++ [[]].intercalate (second :: others)) := by
            rw [List.intercalate_cons_cons, List.append_assoc]
          rw [joined, intercalate_append _ here (by simp),
            intercalate_append _ (List.cons_ne_nil _ _) behind, inductionHypothesis later]
          simp

/-! ## Finding the blocks again -/

/-- Lines without line feeds that stand in blocks without empty lines are found again as these
blocks. -/
theorem blocks_intercalate {sheets : List (List (List Char))}
    (clear : ∀ sheet ∈ sheets, ∀ line ∈ sheet, '\n' ∉ line)
    (filled : ∀ sheet ∈ sheets, sheet ≠ [] ∧ [] ∉ sheet) :
    blocks (['\n'].intercalate ([[]].intercalate sheets)) = sheets := by
  cases sheets with
  | nil => rfl
  | cons first rest =>
      have lines : [[]].intercalate (first :: rest) ≠ [] :=
        intercalate_ne_nil _ (filled first List.mem_cons_self).1 rest
      have clearLines : ∀ line ∈ [[]].intercalate (first :: rest), '\n' ∉ line := by
        intro line member
        rcases mem_of_mem_intercalate member with empty | ⟨sheet, listed, inside⟩
        · rw [List.mem_singleton.mp empty]
          exact List.not_mem_nil
        · exact clear sheet listed line inside
      rw [blocks, List.splitOn_intercalate '\n' clearLines lines,
        List.splitOn_intercalate [] (fun sheet member => (filled sheet member).2)
          (List.cons_ne_nil first rest)]
      apply List.filter_eq_self.mpr
      intro sheet member
      simpa using (filled sheet member).1

end Text

end Workbench
