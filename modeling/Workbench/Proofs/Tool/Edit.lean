import Workbench.Proofs.Splice.Untouched
import Workbench.Proofs.Text.Decimal
import Workbench.Proofs.Text.Encoding
import Workbench.Proofs.Tool.Reach
namespace Workbench

/-!
# What an edit leaves of a file

An edit whose range fits the open file always succeeds, and the file then holds
the spliced text.  Whether the bytes outside of the range are the old ones is
decided by the text and the range alone, and the main statement says how.  Nothing
is asked of the tree here: it may have links, and the file may be reached through
them.
-/

namespace Viewer

variable {environment : Environment} {world : World} {place : Place} {text : String}
  {start stop : Nat}

/-- A bound that was written as a number is that number, if it is not too large. -/
theorem bound_of_write {arguments : Arguments} {name : String} {value : Nat}
    (given : arguments.get? name = some (Decimal.write value)) :
    bound arguments name =
      if value ≤ Decimal.largest then .ok value
      else .error (.notANumber name (Decimal.write value)) := by
  rw [bound, Arguments.number?, given]
  simp only [Decimal.trim_write, Decimal.read?_write]
  by_cases small : value ≤ Decimal.largest
  · simp only [if_pos small]
  · simp only [if_neg small]

/-- An edit whose range fits writes the spliced text. -/
theorem edit_of_fits (settings : WindowSettings) (arguments : Arguments)
    (opened : openPlace environment world = .ok place)
    (read : contentOf environment world place = .ok text)
    (starts : bound arguments "start_line" = .ok start)
    (stops : bound arguments "end_line" = .ok stop)
    (fits : Splice.fault? (Window.linesOf text).length start stop = none) :
    ∃ report after, edit settings environment arguments world = (.ok report, after) ∧
      after.tree.readBytes environment.host.standing place.text =
        .ok (String.ofList (Splice.apply start stop
          ((arguments.get? "content").getD "").toList text.toList)).toUTF8 := by
  obtain ⟨names, executable, _, _, written, reread⟩ :=
    Node.writeBytes_of_readBytes (Node.readText_eq_ok_iff.mp read)
      (String.ofList (Splice.apply start stop
        ((arguments.get? "content").getD "").toList text.toList)).toUTF8
  unfold edit editWith
  rw [opened, starts, stops]
  simp only [read, fits, Node.writeText, written]
  unfold showWindow contentOf
  rw [Node.readText_eq_ok_iff.mpr reread]
  exact ⟨_, _, rfl, reread⟩

/-- An edit keeps the bytes outside of its range exactly under the conditions under
which replacing lines keeps the text. -/
theorem edit_spares_iff (settings : WindowSettings) (arguments : Arguments)
    (opened : openPlace environment world = .ok place)
    (read : contentOf environment world place = .ok text)
    (starts : bound arguments "start_line" = .ok start)
    (stops : bound arguments "end_line" = .ok stop)
    (fits : Splice.fault? (Window.linesOf text).length start stop = none) :
    ∃ report after new, edit settings environment arguments world = (.ok report, after) ∧
      after.tree.readBytes environment.host.standing place.text = .ok new ∧
      ((∃ middle : ByteArray, new =
          (String.ofList (Splice.before start text.toList)).toUTF8 ++ middle ++
            (String.ofList (Splice.after stop text.toList)).toUTF8) ↔
        Splice.Spares start stop ((arguments.get? "content").getD "").toList text.toList) := by
  obtain ⟨report, after, edited, reread⟩ :=
    edit_of_fits settings arguments opened read starts stops fits
  refine ⟨report, after, _, edited, reread, ?_⟩
  have total : (Window.linesOf text).length = (Text.pieces text.toList).length := by
    rw [Window.linesOf, List.length_map, Text.lines, List.length_map]
  rw [total] at fits
  simp only [String.toUTF8_eq_toByteArray, String.toByteArray_ofList]
  rw [Text.exists_bytes_between_iff, Splice.apply_between_iff fits]

/-- Replacing the first two lines of three keeps the third, which is not ended. -/
theorem edit_spares_unended_line :
    ∃ report after new,
      edit {} Sample.environment (Sample.arguments "1" "2" "ONE")
          (Sample.world "" "one\r\ntwo\nthree" "a.txt") = (.ok report, after) ∧
        after.tree.readBytes [] "/ws/a.txt" = .ok new ∧
        ∃ middle : ByteArray, new = (String.ofList []).toUTF8 ++ middle ++
          (String.ofList "three".toList).toUTF8 := by
  have starts : bound (Sample.arguments "1" "2" "ONE") "start_line" = .ok 1 := by rfl
  have stops : bound (Sample.arguments "1" "2" "ONE") "end_line" = .ok 2 := by rfl
  obtain ⟨report, after, new, edited, reread, spared⟩ :=
    edit_spares_iff {} (Sample.arguments "1" "2" "ONE")
      (Sample.openPlace_world "" "one\r\ntwo\nthree")
      (Sample.contentOf_world "" "one\r\ntwo\nthree" "a.txt") starts stops (by decide)
  refine ⟨report, after, new, edited, reread, spared.mpr ⟨?_, ?_, Or.inl (by decide)⟩⟩
  · decide
  · decide

/-- The longer line end before the range is lost. -/
theorem edit_loses_carriage_return :
    ∃ report after,
      edit {} Sample.environment (Sample.arguments "2" "2" "X")
          (Sample.world "" "one\r\ntwo\r\n" "a.txt") = (.ok report, after) ∧
        after.tree.readBytes [] "/ws/a.txt" = .ok "one\nX\n".toUTF8 ∧
        ¬ ∃ middle : ByteArray, "one\nX\n".toUTF8 = "one\r\n".toUTF8 ++ middle := by
  have starts : bound (Sample.arguments "2" "2" "X") "start_line" = .ok 2 := by rfl
  have stops : bound (Sample.arguments "2" "2" "X") "end_line" = .ok 2 := by rfl
  obtain ⟨report, after, edited, reread⟩ :=
    edit_of_fits {} (Sample.arguments "2" "2" "X")
      (Sample.openPlace_world "" "one\r\ntwo\r\n")
      (Sample.contentOf_world "" "one\r\ntwo\r\n" "a.txt") starts stops (by decide)
  refine ⟨report, after, edited, reread, ?_⟩
  rintro ⟨middle, split⟩
  have begins : "one\r\n".toList <+: "one\nX\n".toList := by
    apply List.isPrefix_of_utf8Encode_append_eq_utf8Encode middle
    rw [String.utf8Encode_toList, String.utf8Encode_toList]
    exact split.symm
  exact absurd begins (by decide)

end Viewer

end Workbench
