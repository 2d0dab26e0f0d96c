import Workbench.Proofs.Command.Completion
import Workbench.Proofs.Command.Scanning
import Mathlib.Data.Bool.AllAny
namespace Workbench

/-!
# Typing blocks

A block is typed as a first line with a range, the lines of the content, the end mark
and whatever comes after it.  There is some freedom in this: blanks, line ends among
them, stand in front of the name, the ends of the range are parted by a colon or by
blanks, more may stand behind the range, every line has a line end of its own kind, and
blanks stand around the end mark.  None of it is seen in what the text is read as.  Only
the two ends of the range and the lines of the content are, and they come back as they
were typed.
-/

namespace Token

theorem Parted.dropReturn {rest : List Char} (parted : Parted rest) :
    Parted (Text.dropReturn rest) := by
  intro character begins
  apply parted
  rw [← begins]
  unfold Text.dropReturn at begins ⊢
  split at begins
  · rename_i returns
    rw [if_pos returns]
    cases rest with
    | nil => rfl
    | cons first others =>
        cases others with
        | nil => cases begins
        | cons second later => rfl
  · rename_i plain
    rw [if_neg plain]

end Token

namespace Reading

/-! ## Typed blocks -/

/-- Blanks on one line that part two tokens. -/
structure Gap where
  blanks : List Char
  filled : blanks ≠ []
  wide : Text.Wide blanks
  clear : '\n' ∉ blanks

/-- How the ends of a range are parted: in one token by a colon, or as two tokens. -/
inductive Parting where
  | colon
  | gap (gap : Gap)

def Parting.written : Parting → List Char
  | colon => [':']
  | gap between => between.blanks

/-- A block as it is typed behind the name of a tool with the given end mark. -/
structure TypedBlock (mark : String) where
  /-- Blanks in front of the name, on its line or on lines before it. -/
  indent : List Char
  gap : Gap
  start : String
  parting : Parting
  stop : String
  /-- What else stands on the first line. -/
  more : List Char
  firstEnd : Text.LineEnd
  content : List (List Char × Text.LineEnd)
  markLine : List Char
  /-- What comes behind the line of the end mark: its line end and any text, or nothing. -/
  behind : Option (Text.LineEnd × String)
  wide : Text.Wide indent
  startFilled : start ≠ ""
  startPlain : ∀ character ∈ start.toList, Token.IsPlain character
  startWhole : ':' ∉ start.toList
  stopFilled : stop ≠ ""
  stopPlain : ∀ character ∈ stop.toList, Token.IsPlain character
  moreClear : '\n' ∉ more
  moreParted : Token.Parted more
  contentLines : ∀ line ∈ content, Text.IsLine line.1
  contentUnmarked : ∀ line ∈ content, Text.trim line.1 ≠ mark.toList
  markClear : '\n' ∉ markLine
  marked : Text.trim markLine = mark.toList

namespace TypedBlock

variable {mark : String}

/-- The range, as it stands on the first line. -/
def range (block : TypedBlock mark) : List Char :=
  block.start.toList ++ (block.parting.written ++ block.stop.toList)

def firstLine (block : TypedBlock mark) (name : String) : List Char :=
  name.toList ++ (block.gap.blanks ++ (block.range ++ block.more))

/-- The lines of the content as one text. -/
def contentText (block : TypedBlock mark) : String :=
  String.ofList (Text.join ['\n'] (block.content.map Prod.fst))

/-- What comes behind the end mark, the end of its line included. -/
def rest (block : TypedBlock mark) : List Char :=
  match block.behind with
  | none => []
  | some (ending, later) => ending.written ++ later.toList

/-- The whole text. -/
def text (block : TypedBlock mark) (name : String) : String :=
  String.ofList (block.indent ++ (block.firstLine name ++ (block.firstEnd.written ++
    (Text.ended block.content ++ (block.markLine ++ block.rest)))))

/-! ## The first line -/

theorem start_ne_nil (block : TypedBlock mark) : block.start.toList ≠ [] :=
  mt String.toList_eq_nil_iff.mp block.startFilled

theorem solid_start (block : TypedBlock mark) :
    ∀ character ∈ block.start.toList, isBlank character = false :=
  fun character member => (block.startPlain character member).2

theorem stop_ne_nil (block : TypedBlock mark) : block.stop.toList ≠ [] :=
  mt String.toList_eq_nil_iff.mp block.stopFilled

theorem solid_stop (block : TypedBlock mark) :
    ∀ character ∈ block.stop.toList, isBlank character = false :=
  fun character member => (block.stopPlain character member).2

theorem isCore_range (block : TypedBlock mark) : Text.IsCore block.range := by
  have startCore := Text.isCore_of_solid block.start_ne_nil block.solid_start
  have stopCore := Text.isCore_of_solid block.stop_ne_nil block.solid_stop
  exact startCore.append stopCore block.parting.written

/-- The range is read from any line that begins with the name and the range. -/
theorem range_operands (block : TypedBlock mark) {name : List Char} (filled : name ≠ [])
    (plain : ∀ character ∈ name, Token.IsPlain character) {rest : List Char}
    (parted : Token.Parted rest) :
    Reading.range (operands (name ++ (block.gap.blanks ++ (block.range ++ rest)))) =
      (some block.start, some block.stop) := by
  rw [operands, Token.scan_word_gap filled plain block.gap.filled block.gap.wide, List.drop_one,
    List.tail_cons, range]
  cases block.parting with
  | colon =>
      have whole : ∀ character ∈ block.start.toList ++ ':' :: block.stop.toList,
          Token.IsPlain character := by
        intro character member
        rcases List.mem_append.mp member with inStart | later
        · exact block.startPlain character inStart
        · rcases List.mem_cons.mp later with colon | inStop
          · rw [colon]
            exact ⟨by decide, by decide⟩
          · exact block.stopPlain character inStop
      rcases Token.exists_scan_of_parted (by simp) whole parted with ⟨later, scanned⟩
      have shape : block.start.toList ++ (Parting.colon.written ++ block.stop.toList) ++ rest =
          block.start.toList ++ ':' :: block.stop.toList ++ rest := rfl
      rw [shape, scanned, List.map_cons, range_of_colon block.startWhole, String.ofList_toList,
        String.ofList_toList]
  | gap between =>
      rcases Token.exists_scan_of_parted block.stop_ne_nil block.stopPlain parted with
        ⟨later, scanned⟩
      rw [List.append_assoc, List.append_assoc, Parting.written,
        Token.scan_word_gap block.start_ne_nil block.startPlain between.filled between.wide,
        scanned, List.map_cons, List.map_cons, String.ofList_toList, String.ofList_toList,
        range_of_words block.startWhole]

/-- The first line is seen without its end, and without a carriage return that stands
in front of it. -/
theorem exists_firstLine (block : TypedBlock mark) {name : String} (filled : name.toList ≠ [])
    (solid : ∀ character ∈ name.toList, isBlank character = false) :
    ∃ rest, Token.Parted rest ∧ Text.bare (block.firstLine name ++ block.firstEnd.written) =
      name.toList ++ (block.gap.blanks ++ (block.range ++ rest)) := by
  cases block.firstEnd with
  | short =>
      have core := (Text.isCore_of_solid filled solid).append block.isCore_range block.gap.blanks
      have shape : block.firstLine name =
          name.toList ++ (block.gap.blanks ++ block.range) ++ block.more := by
        simp [firstLine]
      refine ⟨Text.dropReturn block.more, block.moreParted.dropReturn, ?_⟩
      rw [Text.bare_append_short, shape, Text.dropReturn_append core]
      simp
  | long => exact ⟨block.more, block.moreParted, Text.bare_append_long _⟩

theorem clear_firstLine (block : TypedBlock mark) {name : String}
    (solid : ∀ character ∈ name.toList, isBlank character = false) :
    '\n' ∉ block.firstLine name := by
  have clearStart := Text.lineFeed_not_mem_of_solid block.solid_start
  have clearStop := Text.lineFeed_not_mem_of_solid block.solid_stop
  have clearParting : '\n' ∉ block.parting.written := by
    cases block.parting with
    | colon => decide
    | gap between => exact between.clear
  simp only [firstLine, range, List.mem_append, not_or]
  exact ⟨Text.lineFeed_not_mem_of_solid solid, block.gap.clear,
    ⟨clearStart, clearParting, clearStop⟩, block.moreClear⟩

/-! ## The text up to the end mark -/

/-- The text from the name on, up to what ends the line of the end mark. -/
def upTo (block : TypedBlock mark) (name : String) (ending : List Char) : List Char :=
  block.firstLine name ++ (block.firstEnd.written ++ (Text.ended block.content ++ ending))

theorem lines_upTo (block : TypedBlock mark) {name : String}
    (solid : ∀ character ∈ name.toList, isBlank character = false) {ending : List Char}
    (unclosed : Text.Unclosed ending) :
    Text.lines (block.upTo name ending) =
      Text.bare (block.firstLine name ++ block.firstEnd.written) ::
        (block.content.map Prod.fst ++ [ending]) := by
  have last : Text.lines ending = [ending] := by
    rw [Text.lines, Text.pieces_of_unclosed unclosed, List.map_singleton,
      Text.bare_of_unclosed unclosed]
  rw [upTo, Text.lines_append_lineEnd (block.clear_firstLine solid),
    Text.lines_ended_append block.contentLines, last]

theorem isCore_upTo (block : TypedBlock mark) {name : String} (filled : name.toList ≠ [])
    (solid : ∀ character ∈ name.toList, isBlank character = false) {lead ending : List Char}
    (core : Text.IsCore ending) : Text.IsCore (block.upTo name (lead ++ ending)) := by
  have shape : block.upTo name (lead ++ ending) = name.toList ++
      ((block.gap.blanks ++ (block.range ++ (block.more ++ (block.firstEnd.written ++
        (Text.ended block.content ++ lead))))) ++ ending) := by
    simp [upTo, firstLine]
  rw [shape]
  exact (Text.isCore_of_solid filled solid).append core _

/-- The text up to the end mark is a block command with the content, also with blanks
around it. -/
theorem block_upTo (block : TypedBlock mark) {find : String → Option Definition}
    {definition : Definition} {name : String} (filled : name.toList ≠ [])
    (solid : ∀ character ∈ name.toList, isBlank character = false)
    (takes : definition.endMark = some mark)
    (named : named? find (Text.bare (block.firstLine name ++ block.firstEnd.written)) =
      some definition)
    (markCore : Text.IsCore mark.toList) {lead behind : List Char} (wideLead : Text.Wide lead)
    (clearLead : '\n' ∉ lead ++ mark.toList) (wideBehind : Text.Wide behind) :
    Block find
      (String.ofList (block.indent ++ (block.upTo name (lead ++ mark.toList) ++ behind)))
      definition (Text.bare (block.firstLine name ++ block.firstEnd.written))
      (block.content.map Prod.fst) := by
  have unclosed : Text.Unclosed (lead ++ mark.toList) := by
    refine ⟨?_, clearLead⟩
    intro none
    exact markCore.ne_nil (List.append_eq_nil_iff.mp none).2
  have core : Text.IsCore (block.upTo name (lead ++ mark.toList)) :=
    block.isCore_upTo filled solid markCore
  have written : Text.lines (Text.trim (String.ofList (block.indent ++
      (block.upTo name (lead ++ mark.toList) ++ behind))).toList) =
      Text.bare (block.firstLine name ++ block.firstEnd.written) ::
        (block.content.map Prod.fst ++ [lead ++ mark.toList]) := by
    rw [String.toList_ofList, Text.trim_frame block.wide core wideBehind,
      block.lines_upTo solid unclosed]
  refine .ended written named takes ?_ ?_
  · intro line member
    rcases List.mem_map.mp member with ⟨given, listed, same⟩
    rw [← same]
    exact isEnd_eq_false_iff.mpr (block.contentUnmarked given listed)
  · rw [isEnd_eq_true_iff, Text.trim_wide_append wideLead, markCore.trim]

/-- Behind the line of the end mark comes nothing, or a line feed behind some blanks. -/
theorem rest_cases (block : TypedBlock mark) :
    block.rest = [] ∨ ∃ blanks later, Text.Wide blanks ∧ block.rest = blanks ++ '\n' :: later := by
  rw [rest]
  cases block.behind with
  | none => exact Or.inl rfl
  | some pair =>
      rcases pair with ⟨ending, later⟩
      cases ending with
      | short => exact Or.inr ⟨[], later.toList, by decide, rfl⟩
      | long => exact Or.inr ⟨['\r'], later.toList, by decide, rfl⟩

/-- The typed text is a block command with the content, whatever comes behind the end
mark. -/
theorem block_text (block : TypedBlock mark) {find : String → Option Definition}
    {definition : Definition} {name : String} (filled : name.toList ≠ [])
    (solid : ∀ character ∈ name.toList, isBlank character = false)
    (takes : definition.endMark = some mark) (markFilled : mark ≠ "")
    (named : named? find (Text.bare (block.firstLine name ++ block.firstEnd.written)) =
      some definition) :
    Block find (block.text name) definition
      (Text.bare (block.firstLine name ++ block.firstEnd.written))
      (block.content.map Prod.fst) := by
  have markCore : Text.IsCore mark.toList := by
    rw [← block.marked]
    apply Text.isCore_trim
    rw [block.marked]
    exact mt String.toList_eq_nil_iff.mp markFilled
  rcases Text.exists_frame block.markLine with ⟨lead, trail, wideLead, wideTrail, whole⟩
  rw [block.marked, ← List.append_assoc] at whole
  have clearLead : '\n' ∉ lead ++ mark.toList := by
    intro member
    apply block.markClear
    rw [whole]
    exact List.mem_append_left trail member
  have settled : ∀ behind, Text.Wide behind → Block find _ definition _ _ :=
    fun behind wideBehind =>
      block.block_upTo filled solid takes named markCore wideLead clearLead wideBehind
  have text : block.text name = String.ofList (block.indent ++
      (block.upTo name (lead ++ mark.toList) ++ (trail ++ block.rest))) := by
    rw [TypedBlock.text, whole]
    simp [upTo]
  rcases block.rest_cases with none | ⟨blanks, later, wideBlanks, split⟩
  · rw [text, none, List.append_nil]
    exact settled trail wideTrail
  · have grown := (settled (trail ++ blanks) (wideTrail.append wideBlanks)).append_lineFeed
      (String.ofList later)
    have joined : block.text name = String.ofList (block.indent ++
        (block.upTo name (lead ++ mark.toList) ++ (trail ++ blanks))) ++ "\n" ++
          String.ofList later := by
      apply String.toList_inj.mp
      rw [text, split]
      simp
    rw [joined]
    exact grown

end TypedBlock

/-! ## Reading what was typed -/

variable {Action : Type}

/-- A block is read as exactly its range and its content, in whatever way it is typed
and whatever comes behind it.  That the end mark can be typed on a line of its own, so
that it has no blanks around it and no line feed in it, is part of being typed. -/
theorem read_of_typed {catalog : Catalog Action} (built : catalog.Built) {tool : Tool Action}
    (registered : tool ∈ catalog.tools)
    (unquoted : ∀ character ∈ tool.name.toList, Token.isMark character = false) {mark : String}
    (takes : tool.definition.endMark = some mark) (markFilled : mark ≠ "")
    (block : TypedBlock mark) :
    ∃ arguments, read catalog.find? (block.text tool.name) = .ok (some ⟨tool.name, arguments⟩) ∧
      arguments.entries =
        [("content", block.contentText), ("end_line", block.stop), ("start_line", block.start)] := by
  rcases built.solid_name registered with ⟨filled, solid⟩
  have plain : ∀ character ∈ tool.name.toList, Token.IsPlain character :=
    fun character member => ⟨unquoted character member, solid character member⟩
  rcases block.exists_firstLine filled solid with ⟨more, parted, seen⟩
  have apart := Text.apart_of_gap block.gap.filled block.gap.wide (block.range ++ more)
  have named : named? catalog.find?
      (Text.bare (block.firstLine tool.name ++ block.firstEnd.written)) =
        some tool.definition := by
    rw [seen, named?, Text.firstWord?_of_leading (Text.leading_append solid apart) filled,
      Option.bind_some, String.ofList_toList]
    exact Catalog.find?_of_mem registered
  have form := block.block_text filled solid takes markFilled named
  have range := block.range_operands filled plain parted
  rw [← seen] at range
  rw [read_of_blockForm form, block_of_range range block.startFilled block.stopFilled]
  exact ⟨_, rfl, entries_of_range block.start block.stop block.contentText⟩

end Reading

namespace Sample

/-- A block whose first line leaves a quote open, whose content is much like a command
and an end mark and has an empty line at its end, and behind which the mark comes again. -/
def block : Reading.TypedBlock Viewer.endOfEdit where
  indent := ['\n', ' ']
  gap := ⟨[' ', '\t'], by decide, by decide, by decide⟩
  start := "10"
  parting := .colon
  stop := "1:5"
  more := [' ', '\'', 'x']
  firstEnd := .long
  content :=
    [("  edit 1:1".toList, .short), ([], .long), ("end_of_edit x".toList, .long), ([], .short)]
  markLine := "\t end_of_edit ".toList
  behind := some (.long, "end_of_edit\n\n")
  wide := by decide
  startFilled := by decide
  startPlain := List.all_iff_forall_prop.mp (by decide)
  startWhole := by decide
  stopFilled := by decide
  stopPlain := List.all_iff_forall_prop.mp (by decide)
  moreClear := by decide
  moreParted := fun character begins => Or.inl (Option.some.inj begins ▸ rfl)
  contentLines := by decide
  contentUnmarked := by decide
  markClear := by decide
  marked := by decide

end Sample

namespace Reading

theorem read_of_typed_edit :
    ∃ arguments, read Sample.editing.find?
        ("\n edit \t10:1:5 'x\r\n  edit 1:1\n\r\nend_of_edit x\r\n\n\t end_of_edit \r\n" ++
          "end_of_edit\n\n") = .ok (some ⟨"edit", arguments⟩) ∧
      arguments.entries =
        [("content", "  edit 1:1\n\nend_of_edit x\n"), ("end_line", "1:5"),
          ("start_line", "10")] := by
  have unquoted : ∀ character ∈ "edit".toList, Token.isMark character = false :=
    List.all_iff_forall_prop.mp (by decide)
  exact read_of_typed Sample.built_editing List.mem_cons_self unquoted rfl (by decide)
    Sample.block

end Reading

end Workbench
