import Workbench.Proofs.Command.Forms
import Workbench.Proofs.Command.Registration
import Workbench.Proofs.Command.Scanning
import Workbench.Proofs.Tool.Edit
import Workbench.Turn
namespace Workbench

/-!
# Typing an edit

An edit is typed as a line with its range, then the new lines, then the end mark.  On
its way into the file the text is cut into lines, joined with line feeds for the
argument, cut again by the tool and joined once more.  The typed lines come through all
of this in their order, and the lines outside of the range as well, but not an empty
line that was typed last: the argument then ends with a line feed, behind which the
tool sees no line.

So what is typed is what the file holds exactly if the last typed line is not empty.
The other limit is the range, whose end must fit into 64 bits.
-/

namespace Viewer

/-- The line that begins the text of an edit. -/
def editLine (start stop : Nat) : String :=
  "edit " ++ Decimal.write start ++ ":" ++ Decimal.write stop

/-- The text of an edit, as it is typed. -/
def editText (start stop : Nat) (typed : List String) : String :=
  String.intercalate "\n" (editLine start stop :: typed ++ [endOfEdit])

/-- The arguments that an edit of these lines is carried out with. -/
def editArguments (start stop : Nat) (typed : List String) : Arguments :=
  ((Dictionary.empty.insert "start_line" (Decimal.write start)).insert
    "end_line" (Decimal.write stop)).insert "content"
      (String.ofList (Text.join ['\n'] (typed.map String.toList)))

/-- The line can be typed into an edit: it is a single line, without carriage returns,
and it does not end the edit. -/
structure Typable (line : String) : Prop where
  single : '\n' ∉ line.toList
  returnless : '\r' ∉ line.toList
  unmarked : Text.trim line.toList ≠ endOfEdit.toList

theorem Typable.isLine {line : String} (typable : Typable line) : Text.IsLine line.toList :=
  ⟨typable.single, fun ends => typable.returnless (List.mem_of_getLast? ends)⟩

/-! ## The first line -/

/-- The characters of a range in one token. -/
def rangeToken (start stop : Nat) : List Char :=
  (Decimal.write start).toList ++ ':' :: (Decimal.write stop).toList

theorem toList_editLine (start stop : Nat) :
    (editLine start stop).toList = "edit".toList ++ ' ' :: rangeToken start stop := by
  simp [editLine, rangeToken, String.toList_append]

theorem isPlain_of_mem_rangeToken {start stop : Nat} {character : Char}
    (member : character ∈ rangeToken start stop) : Token.IsPlain character := by
  rcases List.mem_append.mp member with inStart | later
  · exact Token.isPlain_of_mem_write inStart
  · rcases List.mem_cons.mp later with colon | inStop
    · rw [colon]
      exact ⟨by decide, by decide⟩
    · exact Token.isPlain_of_mem_write inStop

theorem isPlain_of_mem_name {character : Char} (member : character ∈ "edit".toList) :
    Token.IsPlain character := by
  have letters : "edit".toList = ['e', 'd', 'i', 't'] := rfl
  rw [letters] at member
  simp only [List.mem_cons, List.not_mem_nil, or_false] at member
  rcases member with rfl | rfl | rfl | rfl
  · exact ⟨by decide, by decide⟩
  · exact ⟨by decide, by decide⟩
  · exact ⟨by decide, by decide⟩
  · exact ⟨by decide, by decide⟩

/-- Of the blanks, only the one behind the name is in the first line. -/
theorem not_mem_editLine (start stop : Nat) {blank : Char} (wide : isBlank blank = true)
    (different : blank ≠ ' ') : blank ∉ (editLine start stop).toList := by
  intro member
  rw [toList_editLine] at member
  rcases List.mem_append.mp member with inName | later
  · rw [(isPlain_of_mem_name inName).2] at wide
    cases wide
  · rcases List.mem_cons.mp later with space | inRange
    · exact different space
    · rw [(isPlain_of_mem_rangeToken inRange).2] at wide
      cases wide

theorem isLine_editLine (start stop : Nat) : Text.IsLine (editLine start stop).toList where
  clear := not_mem_editLine start stop (by decide) (by decide)
  plain := by
    intro ends
    exact not_mem_editLine start stop (by decide) (by decide) (List.mem_of_getLast? ends)

theorem named?_editLine {find : String → Option Definition}
    (known : find "edit" = some editDefinition) (start stop : Nat) :
    Reading.named? find (editLine start stop).toList = some editDefinition := by
  have leads : Text.leading (editLine start stop).toList = "edit".toList := by
    rw [toList_editLine, Text.leading_append_blank _ (by decide)]
    exact Text.leading_of_solid (fun _ member => (isPlain_of_mem_name member).2)
  rw [Reading.named?, Text.firstWord?_of_leading leads (by decide), Option.bind_some,
    String.ofList_toList, known]

theorem range_editLine (start stop : Nat) :
    Reading.range (Reading.operands (editLine start stop).toList) =
      (some (Decimal.write start), some (Decimal.write stop)) := by
  have plain : ∀ character ∈ "edit".toList, Token.IsPlain character :=
    fun _ member => isPlain_of_mem_name member
  have scanned : Token.scan (rangeToken start stop) = [rangeToken start stop] := by
    apply Token.scan_of_plain
    · simp [rangeToken]
    · exact fun _ member => isPlain_of_mem_rangeToken member
  have clear : ':' ∉ (Decimal.write start).toList := by
    intro member
    exact absurd (Decimal.isDigit_of_mem_write member) (by decide)
  rw [toList_editLine, Reading.operands_of_blank (by decide) plain (by decide), scanned,
    List.map_singleton, rangeToken, Reading.range_of_colon clear, String.ofList_toList,
    String.ofList_toList]

/-! ## The whole text -/

theorem toList_editText (start stop : Nat) (typed : List String) :
    (editText start stop typed).toList =
      Text.join ['\n'] ((editLine start stop).toList :: typed.map String.toList ++
        [endOfEdit.toList]) := by
  rw [editText, Text.toList_intercalate_lineFeed, List.map_append, List.map_cons,
    List.map_singleton]

/-- Nothing is trimmed from the text of an edit. -/
theorem trim_editText (start stop : Nat) (typed : List String) :
    Text.trim (editText start stop typed).toList = (editText start stop typed).toList := by
  have begins : (editText start stop typed).toList.head? = some 'e' := by
    rw [toList_editText, Text.join_concat, Text.terminated, List.flatMap_cons, toList_editLine]
    rfl
  have ends : (editText start stop typed).toList.getLast? = some 't' := by
    rw [toList_editText, Text.join_concat, List.getLast?_append]
    rfl
  exact Text.trim_of_solid begins (by decide) ends (by decide)

/-- The lines of an edit are those that were typed. -/
theorem lines_editText {typed : List String} (each : ∀ line ∈ typed, Typable line)
    (start stop : Nat) :
    Text.lines (editText start stop typed).toList =
      (editLine start stop).toList :: (typed.map String.toList ++ [endOfEdit.toList]) := by
  have isLine : ∀ line ∈ (editLine start stop).toList :: typed.map String.toList ++
      [endOfEdit.toList], Text.IsLine line := by
    intro line member
    rcases List.mem_append.mp member with written | mark
    · rcases List.mem_cons.mp written with first | body
      · rw [first]
        exact isLine_editLine start stop
      · rcases List.mem_map.mp body with ⟨text, given, same⟩
        rw [← same]
        exact (each text given).isLine
    · rw [List.mem_singleton.mp mark]
      exact ⟨by decide, by decide⟩
  rw [toList_editText, Text.lines_join isLine, Text.settled_eq_self_iff.mpr]
  · rfl
  · rw [List.getLast?_concat]
    decide

theorem read_editText {find : String → Option Definition}
    (known : find "edit" = some editDefinition) {typed : List String}
    (each : ∀ line ∈ typed, Typable line) (start stop : Nat) :
    Reading.read find (editText start stop typed) =
      .ok (some ⟨"edit", editArguments start stop typed⟩) := by
  have written : Text.lines (Text.trim (editText start stop typed).toList) =
      (editLine start stop).toList :: (typed.map String.toList ++ endOfEdit.toList :: []) := by
    rw [trim_editText, lines_editText each]
  have inside : ∀ line ∈ typed.map String.toList, Reading.isEnd endOfEdit line = false := by
    intro line member
    rcases List.mem_map.mp member with ⟨text, given, same⟩
    rw [← same, Reading.isEnd]
    exact beq_false_of_ne (each text given).unmarked
  have filled : ∀ value, Decimal.write value ≠ "" := by
    intro value empty
    exact Decimal.write_toList_ne_nil value (String.toList_eq_nil_iff.mpr empty)
  rw [Reading.read_of_block written (named?_editLine known start stop) rfl inside (by decide),
    Reading.block_of_range (range_editLine start stop) (filled start) (filled stop)]
  rfl

/-! ## The arguments -/

theorem bound_start_editArguments (start stop : Nat) (typed : List String) :
    bound (editArguments start stop typed) "start_line" =
      if start ≤ Decimal.largest then .ok start
      else .error (.notANumber "start_line" (Decimal.write start)) := by
  apply bound_of_write
  simp [editArguments, Dictionary.get?_insert]

theorem bound_stop_editArguments (start stop : Nat) (typed : List String) :
    bound (editArguments start stop typed) "end_line" =
      if stop ≤ Decimal.largest then .ok stop
      else .error (.notANumber "end_line" (Decimal.write stop)) := by
  apply bound_of_write
  simp [editArguments, Dictionary.get?_insert]

theorem content_editArguments (start stop : Nat) (typed : List String) :
    (((editArguments start stop typed).get? "content").getD "").toList =
      Text.join ['\n'] (typed.map String.toList) := by
  simp [editArguments, Dictionary.get?_insert]

/-! ## The file -/

variable {environment : Environment} {world : World} {place : Place} {old : String}
  {start stop : Nat}

/-- A range whose end is too large is turned down. -/
theorem edit_of_large (settings : WindowSettings)
    (opened : openPlace environment world = .ok place) (large : Decimal.largest < stop)
    (typed : List String) :
    ∃ failure, edit settings environment (editArguments start stop typed) world =
      (.error failure, world) := by
  have starts := bound_start_editArguments start stop typed
  have stops := bound_stop_editArguments start stop typed
  rw [if_neg (Nat.not_le.mpr large)] at stops
  unfold edit editWith
  rw [opened, stops]
  by_cases small : start ≤ Decimal.largest
  · rw [if_pos small] at starts
    rw [starts]
    exact ⟨_, rfl⟩
  · rw [if_neg small] at starts
    rw [starts]
    exact ⟨_, rfl⟩

/-- A range that fits the file is replaced by what was typed. -/
theorem edit_typed (settings : WindowSettings)
    (opened : openPlace environment world = .ok place)
    (read : contentOf environment world place = .ok old)
    (fits : Splice.fault? (Window.linesOf old).length start stop = none)
    (small : stop ≤ Decimal.largest) (typed : List String) :
    ∃ report after, edit settings environment (editArguments start stop typed) world =
        (.ok report, after) ∧
      contentOf environment after place = .ok (String.ofList (Splice.apply start stop
        (Text.join ['\n'] (typed.map String.toList)) old.toList)) := by
  have ordered := (Splice.bounds_of_fault? fits).2.2
  have starts := bound_start_editArguments start stop typed
  have stops := bound_stop_editArguments start stop typed
  rw [if_pos (Nat.le_trans ordered small)] at starts
  rw [if_pos small] at stops
  rcases edit_of_fits settings (editArguments start stop typed) opened read starts stops fits with
    ⟨report, after, edited, reread⟩
  rw [content_editArguments] at reread
  exact ⟨report, after, edited, Node.readText_eq_ok_iff.mpr reread⟩

/-! ## The lines of the file -/

/-- The typed lines come back but for an empty one at the end. -/
theorem linesOf_apply (fits : Splice.fault? (Window.linesOf old).length start stop = none)
    (ended : Splice.endsLine old.toList = true) (lineFeedOnly : ¬ ['\r', '\n'] <:+: old.toList)
    {typed : List String} (each : ∀ line ∈ typed, Typable line) :
    Window.linesOf (String.ofList (Splice.apply start stop
        (Text.join ['\n'] (typed.map String.toList)) old.toList)) =
      (Window.linesOf old).take (start - 1) ++
        (Text.settled (typed.map String.toList)).map String.ofList ++
          (Window.linesOf old).drop stop := by
  have total : (Window.linesOf old).length = (Text.pieces old.toList).length := by
    rw [Window.linesOf, List.length_map, Text.lines, List.length_map]
  have isLine : ∀ line ∈ typed.map String.toList, Text.IsLine line := by
    intro line member
    rcases List.mem_map.mp member with ⟨text, given, same⟩
    rw [← same]
    exact (each text given).isLine
  have content := Text.lines_join isLine
  rw [total] at fits
  rw [Window.linesOf, String.toList_ofList, Splice.lines_apply fits ended
    (Text.plain_of_not_infix lineFeedOnly), content, List.map_append, List.map_append,
    List.map_take, List.map_drop, Window.linesOf]
  intro line member
  rw [content] at member
  exact isLine line (Text.mem_of_mem_settled member)

/-- Nothing is lost of the typed lines exactly if the last of them is not empty. -/
theorem map_settled_eq_iff {typed : List String} :
    (Text.settled (typed.map String.toList)).map String.ofList = typed ↔
      typed.getLast? ≠ some "" := by
  have same : (typed.map String.toList).map String.ofList = typed := by
    rw [List.map_map]
    have identity : String.ofList ∘ String.toList = id := by
      funext text
      exact String.ofList_toList
    rw [identity, List.map_id]
  have last : (typed.map String.toList).getLast? = some [] ↔ typed.getLast? = some "" := by
    rw [List.getLast?_map, Option.map_eq_some_iff]
    constructor
    · rintro ⟨line, ends, empty⟩
      rw [ends, String.toList_eq_nil_iff.mp empty]
    · intro ends
      exact ⟨"", ends, rfl⟩
  have injective : ∀ first second, String.ofList first = String.ofList second → first = second :=
    fun _ _ => String.ofList_inj.mp
  have compared : (Text.settled (typed.map String.toList)).map String.ofList = typed ↔
      Text.settled (typed.map String.toList) = typed.map String.toList := by
    rw [← List.map_inj_right injective, same]
  rw [compared, Text.settled_eq_self_iff, Ne, last]

end Viewer

/-! ## A turn -/

namespace Turn

open Viewer (Typable editText editArguments)

/-- In the standard catalog, the text of an edit runs the editing tool. -/
theorem take_editText {settings : Settings} {catalog : Catalog Action}
    (standard : Standard.catalog settings = .ok catalog) {typed : List String}
    (each : ∀ line ∈ typed, Typable line) (start stop : Nat) (environment : Environment)
    (world : World) :
    take catalog environment (editText start stop typed) world =
      (some (Reply.ofOutcome
          (Viewer.edit settings.window environment (editArguments start stop typed) world).1),
        (Viewer.edit settings.window environment (editArguments start stop typed) world).2) := by
  have registered : (⟨Viewer.editDefinition, Viewer.edit settings.window⟩ : Tool Action) ∈
      catalog.tools := by
    rw [Standard.tools_of_catalog standard]
    exact Standard.mem_tools_iff.mpr (by simp)
  have known : catalog.find? "edit" = some Viewer.editDefinition := Catalog.find?_of_mem registered
  have tool : catalog.tool? "edit" = some ⟨Viewer.editDefinition, Viewer.edit settings.window⟩ :=
    Catalog.tool?_of_mem registered
  rw [take, Viewer.read_editText known each]
  simp only [run, tool]

/-- The edit that was typed succeeds and makes the lines of the file the old ones around
the range and the typed ones in between, exactly if the last typed line is not empty and
the end of the range is not too large to be read. -/
theorem take_editText_iff (settings : Settings) {environment : Environment} {world : World}
    {place : Place} {old : String} (opened : Viewer.openPlace environment world = .ok place)
    (read : Viewer.contentOf environment world place = .ok old)
    (lineFeedOnly : ¬ ['\r', '\n'] <:+: old.toList)
    (ended : Splice.endsLine old.toList = true) {start stop : Nat}
    (inside : 1 ≤ start ∧ start ≤ (Window.linesOf old).length + 1) (ordered : start ≤ stop)
    {typed : List String} (each : ∀ line ∈ typed, Typable line) :
    ∃ catalog, Standard.catalog settings = .ok catalog ∧
      ∃ reply after,
        take catalog environment (editText start stop typed) world = (some reply, after) ∧
        ((reply.isError = false ∧ ∃ new, Viewer.contentOf environment after place = .ok new ∧
            Window.linesOf new =
              (Window.linesOf old).take (start - 1) ++ typed ++ (Window.linesOf old).drop stop) ↔
          stop ≤ Decimal.largest ∧ typed.getLast? ≠ some "") := by
  rcases Standard.exists_catalog settings with ⟨catalog, standard⟩
  refine ⟨catalog, standard, _, _, take_editText standard each start stop environment world, ?_⟩
  by_cases small : stop ≤ Decimal.largest
  · have fits := Splice.fault?_of_bounds inside ordered
    rcases Viewer.edit_typed settings.window opened read fits small typed with
      ⟨report, after, edited, written⟩
    have lines := Viewer.linesOf_apply fits ended lineFeedOnly each
    rw [edited]
    constructor
    · rintro ⟨_, new, reread, kept⟩
      rw [written] at reread
      cases reread
      rw [lines, List.append_assoc, List.append_assoc, List.append_cancel_left_eq,
        List.append_cancel_right_eq] at kept
      exact ⟨small, Viewer.map_settled_eq_iff.mp kept⟩
    · rintro ⟨_, last⟩
      refine ⟨rfl, _, written, ?_⟩
      rw [lines, Viewer.map_settled_eq_iff.mpr last]
  · rcases Viewer.edit_of_large settings.window opened (Nat.not_le.mp small) typed with
      ⟨failure, edited⟩
    rw [edited]
    constructor
    · rintro ⟨succeeded, _⟩
      cases succeeded
    · rintro ⟨readable, _⟩
      exact absurd readable small

/-- An empty line that is typed first is kept, and the range may go past the end. -/
theorem take_editText_keeps_first_line :
    ∃ catalog, Standard.catalog {} = .ok catalog ∧
      ∃ reply after,
        take catalog Sample.environment "edit 2:5\n\nX\nend_of_edit"
            (Sample.world "" "one\ntwo\n" "a.txt") = (some reply, after) ∧
          reply.isError = false ∧
          ∃ new, Viewer.contentOf Sample.environment after ⟨true, ["ws", "a.txt"]⟩ = .ok new ∧
            Window.linesOf new = ["one", "", "X"] := by
  have each : ∀ line ∈ ["", "X"], Typable line := by
    intro line member
    rcases List.mem_pair.mp member with rfl | rfl
    · exact ⟨by decide, by decide, by decide⟩
    · exact ⟨by decide, by decide, by decide⟩
  have lineFeedOnly : ¬ ['\r', '\n'] <:+: "one\ntwo\n".toList := by
    intro inside
    have member : '\r' ∈ "one\ntwo\n".toList := inside.subset List.mem_cons_self
    exact absurd member (by decide)
  have inside : 1 ≤ 2 ∧ 2 ≤ (Window.linesOf "one\ntwo\n").length + 1 := by decide
  have ordered : 2 ≤ 5 := by decide
  have text : editText 2 5 ["", "X"] = "edit 2:5\n\nX\nend_of_edit" := by rfl
  rcases take_editText_iff {} (Sample.openPlace_world "" "one\ntwo\n")
      (Sample.contentOf_world "" "one\ntwo\n" "a.txt") lineFeedOnly (by decide) inside ordered
      each with ⟨catalog, standard, reply, after, taken, kept⟩
  rw [text] at taken
  exact ⟨catalog, standard, reply, after, taken, kept.mpr ⟨by decide, by decide⟩⟩

/-- An empty line that is typed last is lost. -/
theorem take_editText_loses_last_line :
    ∃ catalog, Standard.catalog {} = .ok catalog ∧
      ∃ reply after,
        take catalog Sample.environment "edit 1:1\nX\n\nend_of_edit"
            (Sample.world "" "one\ntwo\n" "a.txt") = (some reply, after) ∧
          reply.isError = false ∧
          Viewer.contentOf Sample.environment after ⟨true, ["ws", "a.txt"]⟩ = .ok "X\ntwo\n" ∧
          Window.linesOf "X\ntwo\n" ≠ ["X", "", "two"] := by
  have each : ∀ line ∈ ["X", ""], Typable line := by
    intro line member
    rcases List.mem_pair.mp member with rfl | rfl
    · exact ⟨by decide, by decide, by decide⟩
    · exact ⟨by decide, by decide, by decide⟩
  have fits : Splice.fault? (Window.linesOf "one\ntwo\n").length 1 1 = none := by decide
  have small : 1 ≤ Decimal.largest := by decide
  have text : editText 1 1 ["X", ""] = "edit 1:1\nX\n\nend_of_edit" := by rfl
  have spliced : Splice.apply 1 1 (Text.join ['\n'] (["X", ""].map String.toList))
      "one\ntwo\n".toList = "X\ntwo\n".toList := by decide
  rcases Standard.exists_catalog {} with ⟨catalog, standard⟩
  rcases Viewer.edit_typed {} (Sample.openPlace_world "" "one\ntwo\n")
      (Sample.contentOf_world "" "one\ntwo\n" "a.txt") fits small ["X", ""] with
    ⟨report, after, edited, written⟩
  have taken := take_editText standard each 1 1 Sample.environment
    (Sample.world "" "one\ntwo\n" "a.txt")
  have window : Settings.window {} = {} := rfl
  rw [text, window, edited] at taken
  rw [spliced, String.ofList_toList] at written
  exact ⟨catalog, standard, _, after, taken, rfl, written, by decide⟩

end Turn

end Workbench
