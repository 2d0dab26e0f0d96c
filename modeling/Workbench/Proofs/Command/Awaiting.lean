import Workbench.Proofs.Command.Completion
namespace Workbench

/-!
# Waiting, line by line

A text waits for the end mark that its first word asks for, unless a line behind its
first one is that mark, blanks around it ignored.  So what one more line does to a text
that waits can be told from the line alone: the wait is over if the line is the mark, and
otherwise it goes on.  Not every mark can be met in this way.  A line is trimmed before it
is compared and holds no line feed, and blank lines at the end of a text are not seen, so
a mark that is empty, holds a line feed, or has blanks around it is never found.
-/

namespace Reading

variable {find : String → Option Definition} {text : String} {mark : String}

/-- The end mark that the first word of a text asks for. -/
def asked? (find : String → Option Definition) (text : List Char) : Option String :=
  (named? find text).bind Definition.endMark

/-- A line can be this end mark. -/
structure Matchable (mark : String) : Prop where
  filled : mark ≠ ""
  clear : '\n' ∉ mark.toList
  tight : Text.trim mark.toList = mark.toList

instance (mark : String) : Decidable (Matchable mark) :=
  decidable_of_iff (mark ≠ "" ∧ '\n' ∉ mark.toList ∧ Text.trim mark.toList = mark.toList)
    ⟨fun ⟨filled, clear, tight⟩ => ⟨filled, clear, tight⟩,
      fun matchable => ⟨matchable.filled, matchable.clear, matchable.tight⟩⟩

/-! ## The wait of a text -/

/-- The lines of a block have an end if one of them is the mark. -/
theorem untilEnd?_isSome (mark : String) (lines : List (List Char)) :
    (untilEnd? mark lines).isSome = decide (mark.toList ∈ lines.map Text.trim) := by
  induction lines with
  | nil => rfl
  | cons line others inductionHypothesis =>
      rw [untilEnd?]
      cases here : isEnd mark line with
      | true => simp [isEnd_eq_true_iff.mp here]
      | false =>
          have different : ¬ mark.toList = Text.trim line :=
            fun same => isEnd_eq_false_iff.mp here same.symm
          simp [inductionHypothesis, different]

/-- A text waits for the mark that it asks for, unless a line behind its first one is the
mark. -/
theorem awaited?_eq (find : String → Option Definition) (text : String) :
    awaited? find text = (asked? find text.toList).filter
      (fun mark => decide (mark.toList ∉ (Text.trimmedLines text.toList).tail)) := by
  unfold awaited? asked? Text.trimmedLines
  cases written : Text.lines (Text.trim text.toList) with
  | nil =>
      cases named : named? find text.toList with
      | none => rfl
      | some definition =>
          rcases exists_lines_of_named named with ⟨first, others, filled, _⟩
          rw [written] at filled
          cases filled
  | cons first others =>
      have same : named? find first = named? find text.toList := by
        rw [named?, Text.firstWord?_of_lines_trim written, named?]
      simp only [same]
      cases named? find text.toList with
      | none => rfl
      | some definition =>
          cases marked : definition.endMark with
          | none => simp [marked]
          | some mark =>
              simp only [Option.bind_some, marked, Option.filter_some, List.map_cons,
                List.tail_cons, untilEnd?_isSome]
              by_cases met : mark.toList ∈ others.map Text.trim
              · simp [met]
              · simp [met]

theorem awaited?_eq_some_iff : awaited? find text = some mark ↔
    asked? find text.toList = some mark ∧
      mark.toList ∉ (Text.trimmedLines text.toList).tail := by
  rw [awaited?_eq, Option.filter_eq_some_iff, decide_eq_true_eq]

/-- A text that asks for a mark is not blank. -/
theorem filled_of_asked? (asks : asked? find text.toList = some mark) :
    Text.trim text.toList ≠ [] := by
  rcases Option.bind_eq_some_iff.mp asks with ⟨definition, named, _⟩
  rcases exists_lines_of_named named with ⟨first, others, written, _⟩
  exact Text.ne_nil_of_lines written

/-! ## One more line -/

theorem toList_append_line (text line : String) :
    (text ++ "\n" ++ line).toList = text.toList ++ '\n' :: line.toList := by
  simp

/-- What a text asks for stays when the text goes on. -/
theorem asked?_append_line (asks : asked? find text.toList = some mark) (line : String) :
    asked? find (text ++ "\n" ++ line).toList = some mark := by
  rw [asked?, named?, toList_append_line,
    Text.firstWord?_append_blank (filled_of_asked? asks) (by decide)]
  exact asks

theorem trimmedLines_ne_nil {letters : List Char} (filled : Text.trim letters ≠ []) :
    Text.trimmedLines letters ≠ [] := by
  rw [Text.trimmedLines, ne_eq, List.map_eq_nil_iff, Text.lines_eq_nil_iff]
  exact filled

/-- One more line ends the wait for a mark if it is that mark, and otherwise leaves it. -/
theorem awaited?_append_line (waits : awaited? find text = some mark) {line : String}
    (clear : '\n' ∉ line.toList) (filled : mark ≠ "") :
    awaited? find (text ++ "\n" ++ line) = if isEnd mark line.toList then none else some mark := by
  rcases awaited?_eq_some_iff.mp waits with ⟨asks, unmet⟩
  have letters : mark.toList ≠ [] := mt String.toList_eq_nil_iff.mp filled
  have solid := filled_of_asked? asks
  rw [awaited?_eq, asked?_append_line asks, toList_append_line, Option.filter_some]
  by_cases quiet : Text.trim line.toList = []
  · have differs : isEnd mark line.toList = false := by
      rw [isEnd_eq_false_iff, quiet]
      exact letters.symm
    rw [Text.trimmedLines_append_blank _ quiet, differs]
    simp [unmet]
  · rcases Text.exists_trimmedLines_append solid clear quiet with ⟨count, grown⟩
    have met : mark.toList ∈ (Text.trimmedLines (text.toList ++ '\n' :: line.toList)).tail ↔
        isEnd mark line.toList = true := by
      rw [grown, List.tail_append_of_ne_nil (trimmedLines_ne_nil solid), isEnd_eq_true_iff]
      simp [unmet, letters, eq_comm]
    cases ends : isEnd mark line.toList with
    | true => simp [met.mpr ends]
    | false =>
        have unseen := mt met.mp (by rw [ends]; decide)
        simp [unseen]

/-! ## Marks that cannot be met -/

/-- The wait for a mark is ended by the mark itself exactly if a line can be it. -/
theorem awaited?_append_mark_iff (waits : awaited? find text = some mark) :
    awaited? find (text ++ "\n" ++ mark) = none ↔ Matchable mark := by
  constructor
  · intro ended
    by_contra unmatchable
    have asks := (awaited?_eq_some_iff.mp waits).1
    have met : mark.toList ∈ (Text.trimmedLines (text ++ "\n" ++ mark).toList).tail := by
      by_contra unmet
      rw [awaited?_eq_some_iff.mpr ⟨asked?_append_line asks mark, unmet⟩] at ended
      cases ended
    have clear := Text.clear_of_mem_trimmedLines (List.mem_of_mem_tail met)
    by_cases empty : mark = ""
    · -- an empty line at the end of a text is not seen
      rw [toList_append_line, Text.trimmedLines_append_blank _ (by rw [empty]; rfl)] at met
      exact (awaited?_eq_some_iff.mp waits).2 met
    · rw [awaited?_append_line waits clear empty] at ended
      split at ended
      · rename_i same
        exact unmatchable ⟨empty, clear, isEnd_eq_true_iff.mp same⟩
      · cases ended
  · intro matchable
    rw [awaited?_append_line waits matchable.clear matchable.filled,
      isEnd_eq_true_iff.mpr matchable.tight, if_pos rfl]

end Reading

end Workbench
