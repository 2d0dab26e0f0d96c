import Workbench.Proofs.Command.Forms
import Workbench.Proofs.Command.Registration
namespace Workbench

/-!
# Complete blocks

A command for a tool with an end mark waits for this mark exactly as long as it has no
block.  Once it has one, it is complete for good: the mark stands in a line of the
core, so whatever is added behind a line feed comes after it, and neither the range nor
the content can change any more.  As long as the mark is missing, nothing but the first
line is read.
-/

namespace Reading

variable {find : String → Option Definition} {text : String} {definition : Definition}

/-! ## What a block comes to -/

/-- The outcomes of a block with this content: the arguments are its range and its
content and no others, or an end of the range is missing. -/
inductive BlockOutcome (definition : Definition) (content : String) :
    Except Failure (Option Invocation) → Prop where
  | given {arguments : Arguments} (start stop : String)
      (exactly : arguments.entries =
        [("content", content), ("end_line", stop), ("start_line", start)]) :
      BlockOutcome definition content (.ok (some ⟨definition.name, arguments⟩))
  | startMissing :
      BlockOutcome definition content (.error (.missingArgument definition.name "start_line"))
  | stopMissing :
      BlockOutcome definition content (.error (.missingArgument definition.name "end_line"))

theorem entries_of_range (start stop content : String) :
    (((Dictionary.empty.insert "start_line" start).insert "end_line" stop).insert "content"
        content).entries =
      [("content", content), ("end_line", stop), ("start_line", start)] := rfl

theorem bound_cases (tool name : String) (given : Option String) :
    (∃ value, bound tool name given = .ok value) ∨
      bound tool name given = .error (.missingArgument tool name) := by
  cases given with
  | none => exact Or.inr rfl
  | some value =>
      cases empty : value.isEmpty with
      | true => exact Or.inr (by rw [bound]; simp [empty])
      | false => exact Or.inl ⟨value, by rw [bound]; simp [empty]⟩

theorem outcome_of_block (definition : Definition) (first : List Char) (body : List (List Char)) :
    BlockOutcome definition (String.ofList (Text.join ['\n'] body))
      ((block definition first body).map some) := by
  rcases bound_cases definition.name "start_line" (range (operands first)).1 with
    ⟨start, startGiven⟩ | startMissing
  · rcases bound_cases definition.name "end_line" (range (operands first)).2 with
      ⟨stop, stopGiven⟩ | stopMissing
    · simp only [block, startGiven, stopGiven]
      exact .given start stop (entries_of_range start stop _)
    · simp only [block, startGiven, stopMissing]
      exact .stopMissing
  · simp only [block, startMissing]
    exact .startMissing

/-! ## What a command comes to -/

/-- A text whose first word names a tool comes to arguments for this tool, or one of them is
missing. -/
theorem read_of_named (named : named? find text.toList = some definition) :
    (∃ arguments, read find text = .ok (some ⟨definition.name, arguments⟩)) ∨
      ∃ argument, read find text = .error (.missingArgument definition.name argument) := by
  rcases exists_lines_of_named named with ⟨first, others, written, begins⟩
  rcases form_of_lines written begins with ⟨line, form⟩ | ⟨body, form⟩
  · rw [read_of_singleLine form, single]
    rcases resolve_cases definition (operands line) with ⟨arguments, given⟩ | ⟨argument, missing⟩
    · exact Or.inl ⟨arguments, by rw [given]; rfl⟩
    · exact Or.inr ⟨argument, by rw [missing]; rfl⟩
  · rw [read_of_blockForm form]
    have outcome := outcome_of_block definition first body
    generalize (block definition first body).map some = result at outcome ⊢
    cases outcome with
    | given start stop exactly => exact Or.inl ⟨_, rfl⟩
    | startMissing => exact Or.inr ⟨_, rfl⟩
    | stopMissing => exact Or.inr ⟨_, rfl⟩

/-- A text is read as no command exactly if its first word names no tool. -/
theorem read_eq_none_iff : read find text = .ok none ↔ named? find text.toList = none := by
  constructor
  · intro unread
    cases named : named? find text.toList with
    | none => rfl
    | some definition =>
        rcases read_of_named named with ⟨arguments, given⟩ | ⟨argument, missing⟩
        · rw [unread] at given
          cases given
        · rw [unread] at missing
          cases missing
  · intro stranger
    cases written : Text.lines (Text.trim text.toList) with
    | nil => rw [read, written]
    | cons first others =>
        have begins : named? find first = none := by
          rw [named?, Text.firstWord?_of_lines_trim written]
          exact stranger
        rw [read, written]
        simp only [begins]

/-! ## Waiting for the end mark -/

theorem awaited?_of_block {first : List Char} {body : List (List Char)}
    (form : Block find text definition first body) : awaited? find text = none := by
  rcases form with ⟨written, named, marked, inside, ends⟩
  rw [awaited?, written]
  simp only [named, marked, untilEnd?_append inside ends, Option.isSome_some, if_true]

/-- Without its end mark, a block is awaited, and of the text only the first line is
read. -/
theorem read_of_unmarked {first : List Char} {others : List (List Char)} {mark : String}
    (written : Text.lines (Text.trim text.toList) = first :: others)
    (named : named? find first = some definition) (marked : definition.endMark = some mark)
    (unended : untilEnd? mark others = none) :
    awaited? find text = some mark ∧ read find text = (single definition first).map some := by
  constructor
  · rw [awaited?, written]
    simp only [named, marked, unended]
    rfl
  · cases others with
    | nil =>
        have core := Text.isCore_trim (Text.ne_nil_of_lines written)
        rw [read_of_singleLine (.whole written named (Or.inr rfl)),
          Text.eq_of_lines_singleton core written]
    | cons next later =>
        exact read_of_singleLine
          (.unended written named marked (List.cons_ne_nil next later) unended)

/-! ## Growing texts -/

/-- A block stays the same block when the text goes on behind a line feed. -/
theorem Block.append_lineFeed {first : List Char} {body : List (List Char)}
    (form : Block find text definition first body) (more : String) :
    Block find (text ++ "\n" ++ more) definition first body := by
  rcases form with @⟨last, rest, mark, written, named, marked, inside, ends⟩
  have filled := Text.ne_nil_of_lines written
  have letters : (text ++ "\n" ++ more).toList = text.toList ++ '\n' :: more.toList := by
    simp
  rcases Text.lines_trim_append_lineFeed filled more.toList with
    ⟨front, ending, seam, later, before, after, sameCore⟩
  rw [← letters] at after
  rw [before] at written
  -- the line that gains blanks is the marked one, or it comes later
  rcases List.eq_nil_or_concat rest with none | ⟨between, final, split⟩
  · rw [none, ← List.cons_append] at written
    rcases List.append_inj' written rfl with ⟨same, lastSame⟩
    rw [same, List.cons_append] at after
    have endsSeam : isEnd mark seam = true := by
      rw [isEnd_eq_true_iff, sameCore, List.singleton_inj.mp lastSame]
      exact isEnd_eq_true_iff.mp ends
    exact .ended after named marked inside endsSeam
  · rw [split, List.concat_eq_append, ← List.cons_append, ← List.cons_append,
      ← List.append_assoc] at written
    rcases List.append_inj' written rfl with ⟨same, _⟩
    rw [same, List.append_assoc, List.cons_append, List.cons_append] at after
    exact .ended after named marked inside ends

/-! ## Completion -/

variable {Action : Type}

/-- For a tool with an end mark: a command that awaits nothing is a block, which comes to
its range and the lines up to the first one that is the mark, and so does every text
that it grows into behind a line feed.  A command that awaits something awaits the mark,
no line behind its first one is the mark, and only its first line is read. -/
theorem awaited?_settles {catalog : Catalog Action} {text : String} {definition : Definition}
    {mark : String} (named : named? catalog.find? text.toList = some definition)
    (marked : definition.endMark = some mark) :
    (awaited? catalog.find? text = none →
      (∃ first body last rest,
        Text.lines (Text.trim text.toList) = first :: (body ++ last :: rest) ∧
        (∀ line ∈ body, Text.trim line ≠ mark.toList) ∧ Text.trim last = mark.toList ∧
        BlockOutcome definition (String.ofList (Text.join ['\n'] body))
          (read catalog.find? text)) ∧
      ∀ more, awaited? catalog.find? (text ++ "\n" ++ more) = none ∧
        read catalog.find? (text ++ "\n" ++ more) = read catalog.find? text) ∧
    ∀ awaited, awaited? catalog.find? text = some awaited →
      awaited = mark ∧
      ∃ first others, Text.lines (Text.trim text.toList) = first :: others ∧
        (∀ line ∈ others, Text.trim line ≠ mark.toList) ∧
        read catalog.find? text = (single definition first).map some := by
  rcases exists_lines_of_named named with ⟨first, others, written, namedFirst⟩
  rcases untilEnd?_cases mark others with
    ⟨unended, unmarked⟩ | ⟨body, last, rest, split, inside, ends⟩
  · rcases read_of_unmarked written namedFirst marked unended with ⟨waits, read⟩
    constructor
    · intro settled
      rw [waits] at settled
      cases settled
    · intro awaited waiting
      rw [waits] at waiting
      refine ⟨(Option.some.inj waiting).symm, first, others, written, ?_, read⟩
      intro line member
      exact isEnd_eq_false_iff.mp (unmarked line member)
  · rw [split] at written
    have form : Block catalog.find? text definition first body :=
      .ended written namedFirst marked inside ends
    have settled := awaited?_of_block form
    constructor
    · intro _
      constructor
      · refine ⟨first, body, last, rest, written, ?_, isEnd_eq_true_iff.mp ends, ?_⟩
        · intro line member
          exact isEnd_eq_false_iff.mp (inside line member)
        · rw [read_of_blockForm form]
          exact outcome_of_block definition first body
      · intro more
        have grown := form.append_lineFeed more
        exact ⟨awaited?_of_block grown, by rw [read_of_blockForm grown, read_of_blockForm form]⟩
    · intro awaited waiting
      rw [settled] at waiting
      cases waiting

/-- The mark is the last line and has blanks around it, a carriage return among them, so
it gains a line end when the text grows. -/
theorem awaited?_settles_edit :
    awaited? Sample.editing.find? "edit 1:2\n\n\tend_of_edit \r" = none ∧
      ∀ more,
        awaited? Sample.editing.find? ("edit 1:2\n\n\tend_of_edit \r" ++ "\n" ++ more) = none ∧
        read Sample.editing.find? ("edit 1:2\n\n\tend_of_edit \r" ++ "\n" ++ more) =
          read Sample.editing.find? "edit 1:2\n\n\tend_of_edit \r" := by
  have named : named? Sample.editing.find? "edit 1:2\n\n\tend_of_edit \r".toList =
      some Viewer.editDefinition := by rfl
  have settled : awaited? Sample.editing.find? "edit 1:2\n\n\tend_of_edit \r" = none := by rfl
  exact ⟨settled, ((awaited?_settles named rfl).1 settled).2⟩

end Reading

end Workbench
