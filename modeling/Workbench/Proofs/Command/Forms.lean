import Workbench.Command.Catalog
import Workbench.Command.Reading
import Workbench.Proofs.Text.Trimming
import Mathlib.Data.List.TakeDrop
namespace Workbench

/-!
# The two forms of a command

A text whose first word names a tool is a command, and it has one of two forms.  In
the single-line form the tokens of a line are resolved: of the whole text, or only of
its first line if the tool asks for a block and the block is not ended.  In the block
form the first line gives a range, and the lines up to the end mark are the content.
Each form is stated here with what reading such a text comes to, and every text whose
first word names a tool has one of them.
-/

namespace Reading

variable {find : String → Option Definition} {text : String} {definition : Definition}

/-! ## The single-line form -/

/-- The text is a single-line command for this definition, whose tokens stand in the
given line. -/
inductive SingleLine (find : String → Option Definition) (text : String)
    (definition : Definition) : List Char → Prop where
  /-- The tool asks for no block, or the text has no line for one. -/
  | whole {first : List Char} {others : List (List Char)}
      (written : Text.lines (Text.trim text.toList) = first :: others)
      (named : named? find first = some definition)
      (blockless : definition.endMark = none ∨ others = []) :
      SingleLine find text definition (Text.trim text.toList)
  /-- The tool asks for a block, and the text does not end it. -/
  | unended {first : List Char} {others : List (List Char)} {mark : String}
      (written : Text.lines (Text.trim text.toList) = first :: others)
      (named : named? find first = some definition)
      (marked : definition.endMark = some mark) (further : others ≠ [])
      (open_ : untilEnd? mark others = none) : SingleLine find text definition first

theorem read_of_singleLine {line : List Char} (form : SingleLine find text definition line) :
    read find text = (single definition line).map some := by
  cases form with
  | whole written named blockless =>
      rw [read, written]
      simp only [named]
      rcases blockless with unmarked | alone
      · rw [unmarked]
      · rw [alone]
        cases definition.endMark <;> rfl
  | @unended first others mark written named marked further open_ =>
      cases others with
      | nil => exact absurd rfl further
      | cons next later =>
          rw [read, written]
          simp only [named, marked, open_]

theorem exists_missingArgument_of_fill {tool : String} {parameters : List Parameter}
    {arguments : Arguments} {words : List String} {failure : Failure}
    (failed : fill tool parameters arguments words = .error failure) :
    ∃ argument, failure = .missingArgument tool argument := by
  induction parameters generalizing arguments words with
  | nil => cases failed
  | cons parameter others inductionHypothesis =>
      unfold fill at failed
      split at failed
      · exact inductionHypothesis failed
      · split at failed
        · exact inductionHypothesis failed
        · split at failed
          · cases failed
            exact ⟨parameter.name, rfl⟩
          · exact inductionHypothesis failed

/-- Resolving comes to arguments for the tool or misses one of them. -/
theorem resolve_cases (definition : Definition) (tokens : List String) :
    (∃ arguments, resolve definition tokens = .ok ⟨definition.name, arguments⟩) ∨
      ∃ argument, resolve definition tokens = .error (.missingArgument definition.name argument) := by
  unfold resolve
  cases filling : fill definition.name definition.parameters
      (Dictionary.ofList (sort tokens).flags) (sort tokens).words with
  | error failure =>
      rcases exists_missingArgument_of_fill filling with ⟨argument, same⟩
      exact Or.inr ⟨argument, by simp only [filling, same]⟩
  | ok pair => exact Or.inl ⟨_, by simp only [filling]; rfl⟩

/-! ## The block form -/

theorem isEnd_eq_true_iff {mark : String} {line : List Char} :
    isEnd mark line = true ↔ Text.trim line = mark.toList := by
  rw [isEnd, beq_iff_eq]

theorem isEnd_eq_false_iff {mark : String} {line : List Char} :
    isEnd mark line = false ↔ Text.trim line ≠ mark.toList := by
  rw [isEnd, beq_eq_false_iff_ne]

theorem untilEnd?_append {mark : String} {body : List (List Char)}
    (inside : ∀ line ∈ body, isEnd mark line = false) {last : List Char}
    (ends : isEnd mark last = true) (rest : List (List Char)) :
    untilEnd? mark (body ++ last :: rest) = some body := by
  induction body with
  | nil => rw [List.nil_append, untilEnd?, if_pos ends]
  | cons line others inductionHypothesis =>
      rcases List.forall_mem_cons.mp inside with ⟨here, later⟩
      rw [List.cons_append, untilEnd?, here, inductionHypothesis later]
      rfl

/-- The lines up to the first one that is the end mark are the content. -/
theorem read_of_block {first last : List Char} {body rest : List (List Char)} {mark : String}
    (written : Text.lines (Text.trim text.toList) = first :: (body ++ last :: rest))
    (named : named? find first = some definition) (marked : definition.endMark = some mark)
    (inside : ∀ line ∈ body, isEnd mark line = false) (ends : isEnd mark last = true) :
    read find text = (block definition first body).map some := by
  have found := untilEnd?_append inside ends rest
  cases others : body ++ last :: rest with
  | nil => exact absurd others (by simp)
  | cons next later =>
      rw [others] at found
      rw [read, written, others]
      simp only [named, marked, found]

/-- Lines without the end mark, or the lines up to it. -/
theorem untilEnd?_cases (mark : String) (lines : List (List Char)) :
    (untilEnd? mark lines = none ∧ ∀ line ∈ lines, isEnd mark line = false) ∨
      ∃ body last rest, lines = body ++ last :: rest ∧
        (∀ line ∈ body, isEnd mark line = false) ∧ isEnd mark last = true := by
  induction lines with
  | nil => exact Or.inl ⟨rfl, fun line member => nomatch member⟩
  | cons line others inductionHypothesis =>
      cases here : isEnd mark line with
      | true => exact Or.inr ⟨[], line, others, rfl, (fun line member => nomatch member), here⟩
      | false =>
          rcases inductionHypothesis with ⟨none, unmarked⟩ | ⟨body, last, rest, split, inside, ends⟩
          · refine Or.inl ⟨?_, List.forall_mem_cons.mpr ⟨here, unmarked⟩⟩
            rw [untilEnd?, here, none]
            rfl
          · refine Or.inr ⟨line :: body, last, rest, ?_, List.forall_mem_cons.mpr ⟨here, inside⟩,
              ends⟩
            rw [split, List.cons_append]

/-- The text is a block command for this definition, with the given first line and the
given content. -/
inductive Block (find : String → Option Definition) (text : String) (definition : Definition)
    (first : List Char) (body : List (List Char)) : Prop where
  | ended {last : List Char} {rest : List (List Char)} {mark : String}
      (written : Text.lines (Text.trim text.toList) = first :: (body ++ last :: rest))
      (named : named? find first = some definition) (marked : definition.endMark = some mark)
      (inside : ∀ line ∈ body, isEnd mark line = false) (ends : isEnd mark last = true)

theorem read_of_blockForm {first : List Char} {body : List (List Char)}
    (form : Block find text definition first body) :
    read find text = (block definition first body).map some := by
  cases form with
  | ended written named marked inside ends =>
      exact read_of_block written named marked inside ends

theorem block_of_range {first : List Char} {start stop : String}
    (given : range (operands first) = (some start, some stop)) (starts : start ≠ "")
    (stops : stop ≠ "") (body : List (List Char)) :
    block definition first body =
      .ok ⟨definition.name,
        ((Dictionary.empty.insert "start_line" start).insert "end_line" stop).insert "content"
          (String.ofList (Text.join ['\n'] body))⟩ := by
  have startFilled : start.isEmpty = false := by
    simpa using starts
  have stopFilled : stop.isEmpty = false := by
    simpa using stops
  simp only [block, given, bound, startFilled, stopFilled, Bool.false_eq_true, if_false]

theorem bne_colon_of_not_mem {text : List Char} (clear : ':' ∉ text) :
    ∀ character ∈ text, (character != ':') = true := by
  intro character member
  exact bne_iff_ne.mpr (fun colon => clear (colon ▸ member))

/-- A colon in the first token of a range parts its ends. -/
theorem range_of_colon {start stop : List Char} (clear : ':' ∉ start) (rest : List String) :
    range (String.ofList (start ++ ':' :: stop) :: rest) =
      (some (String.ofList start), some (String.ofList stop)) := by
  have passed := bne_colon_of_not_mem clear
  have cut : cutAtColon (start ++ ':' :: stop) = some (start, stop) := by
    rw [cutAtColon, List.span_eq_takeWhile_dropWhile, List.takeWhile_append_of_pos passed,
      List.dropWhile_append_of_pos passed, List.takeWhile_cons_of_neg (by decide),
      List.dropWhile_cons_of_neg (by decide), List.append_nil]
  rw [range, String.toList_ofList]
  simp only [cut]

/-- Without a colon in its first token, a range is its first two tokens. -/
theorem range_of_words {start : String} (clear : ':' ∉ start.toList) (stop : String)
    (rest : List String) : range (start :: stop :: rest) = (some start, some stop) := by
  have whole : cutAtColon start.toList = none := by
    rw [cutAtColon, List.span_eq_takeWhile_dropWhile,
      List.dropWhile_eq_nil_iff.mpr (bne_colon_of_not_mem clear)]
  rw [range, whole]
  rfl

/-! ## The forms together -/

/-- A text whose first word names a tool has lines, and its first line names the tool. -/
theorem exists_lines_of_named (named : named? find text.toList = some definition) :
    ∃ first others, Text.lines (Text.trim text.toList) = first :: others ∧
      named? find first = some definition := by
  cases written : Text.lines (Text.trim text.toList) with
  | nil =>
      rcases Text.exists_frame text.toList with ⟨lead, trail, wideLead, wideTrail, whole⟩
      rw [Text.lines_eq_nil_iff.mp written, List.nil_append] at whole
      rw [named?, whole, Text.firstWord?_wide_append wideLead,
        Text.firstWord?_of_wide wideTrail] at named
      cases named
  | cons first others =>
      refine ⟨first, others, rfl, ?_⟩
      rw [named?, Text.firstWord?_of_lines_trim written]
      exact named

/-- A text whose first line names a tool is a command in one of the two forms. -/
theorem form_of_lines {first : List Char} {others : List (List Char)}
    (written : Text.lines (Text.trim text.toList) = first :: others)
    (named : named? find first = some definition) :
    (∃ line, SingleLine find text definition line) ∨
      ∃ body, Block find text definition first body := by
  cases marked : definition.endMark with
  | none => exact Or.inl ⟨_, .whole written named (Or.inl marked)⟩
  | some mark =>
      cases others with
      | nil => exact Or.inl ⟨_, .whole written named (Or.inr rfl)⟩
      | cons next later =>
          rcases untilEnd?_cases mark (next :: later) with
            ⟨none, _⟩ | ⟨body, last, rest, split, inside, ends⟩
          · exact Or.inl ⟨first, .unended written named marked (List.cons_ne_nil next later) none⟩
          · rw [split] at written
            exact Or.inr ⟨body, .ended written named marked inside ends⟩

/-! ## The tool of a command -/

theorem name_of_resolve {definition : Definition} {tokens : List String} {invocation : Invocation}
    (resolved : resolve definition tokens = .ok invocation) :
    invocation.name = definition.name := by
  unfold resolve at resolved
  simp only [] at resolved
  split at resolved
  · cases resolved
  · cases resolved
    rfl

theorem name_of_block {definition : Definition} {first : List Char} {body : List (List Char)}
    {invocation : Invocation} (given : block definition first body = .ok invocation) :
    invocation.name = definition.name := by
  unfold block at given
  simp only [] at given
  split at given
  · cases given
  · split at given
    · cases given
    · cases given
      rfl

theorem eq_ok_of_map_some {outcome : Except Failure Invocation} {invocation : Invocation}
    (given : outcome.map some = .ok (some invocation)) : outcome = .ok invocation := by
  cases outcome with
  | error failure => cases given
  | ok found =>
      cases given
      rfl

/-- A command is for the tool whose definition its first word finds. -/
theorem named?_of_read {invocation : Invocation} (given : read find text = .ok (some invocation)) :
    ∃ first others definition, Text.lines (Text.trim text.toList) = first :: others ∧
      named? find first = some definition ∧ invocation.name = definition.name := by
  unfold read at given
  simp only [] at given
  split at given
  · cases given
  · rename_i first others written
    split at given
    · cases given
    · rename_i definition named
      refine ⟨first, others, definition, written, named, ?_⟩
      split at given
      · split at given
        · exact name_of_block (eq_ok_of_map_some given)
        · exact name_of_resolve (eq_ok_of_map_some given)
      · exact name_of_resolve (eq_ok_of_map_some given)

end Reading

end Workbench
