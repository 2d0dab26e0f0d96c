import Workbench.Proofs.Splice.Untouched
import Workbench.Proofs.Text.Trimming
namespace Workbench

/-!
# How much a text can hold

A text has no more lines than characters.  Joining lines gives no more lines than were joined,
so replacing lines of one text by those of another gives no more than both have together.
-/

namespace Text

theorem length_pieces_le (text : List Char) : (pieces text).length ≤ text.length := by
  induction text with
  | nil => exact Nat.le_refl 0
  | cons first rest inductionHypothesis =>
      unfold pieces
      split
      · exact Nat.succ_le_succ inductionHypothesis
      · split
        · exact Nat.succ_le_succ (Nat.zero_le _)
        · rename_i piece others cut
          rw [cut] at inductionHypothesis
          exact Nat.le_succ_of_le inductionHypothesis

theorem length_lines (text : List Char) : (lines text).length = (pieces text).length :=
  List.length_map _

theorem length_lines_le (text : List Char) : (lines text).length ≤ text.length := by
  rw [length_lines]
  exact length_pieces_le text

theorem length_bare_le (piece : List Char) : (bare piece).length ≤ piece.length := by
  unfold bare dropReturn
  split
  · split
    · rw [List.length_dropLast, List.length_dropLast]
      omega
    · rw [List.length_dropLast]
      omega
  · exact Nat.le_refl _

/-- No line is longer than its text. -/
theorem length_le_of_mem_lines {text line : List Char} (member : line ∈ lines text) :
    line.length ≤ text.length := by
  rcases List.mem_map.mp member with ⟨piece, cut, rfl⟩
  have inside := (List.sublist_flatten_of_mem cut).length_le
  rw [flatten_pieces] at inside
  exact Nat.le_trans (length_bare_le piece) inside

theorem length_pieces_of_clear {text : List Char} (clear : '\n' ∉ text) :
    (pieces text).length ≤ 1 := by
  by_cases empty : text = []
  · rw [empty]
    exact Nat.zero_le 1
  · rw [pieces_of_unclosed ⟨empty, clear⟩]
    exact Nat.le_refl 1

/-- Every line that is ended is one piece. -/
theorem length_pieces_terminated_append {written : List (List Char)}
    (clear : ∀ line ∈ written, '\n' ∉ line) (rest : List Char) :
    (pieces (terminated written ++ rest)).length = written.length + (pieces rest).length := by
  have closed : ∀ piece ∈ written.map (· ++ ['\n']), Closed piece := by
    intro piece member
    rcases List.mem_map.mp member with ⟨line, listed, rfl⟩
    exact ⟨line, rfl, clear line listed⟩
  have split : terminated written = (written.map (· ++ ['\n'])).flatten := List.flatMap_def
  rw [split, pieces_flatten_append closed, List.length_append, List.length_map]

theorem length_lines_terminated {written : List (List Char)}
    (clear : ∀ line ∈ written, '\n' ∉ line) :
    (lines (terminated written)).length = written.length := by
  have whole := length_pieces_terminated_append clear []
  rw [List.append_nil] at whole
  rw [length_lines, whole]
  rfl

/-- The last of several joined lines is lost if it is empty. -/
theorem length_lines_join_le {written : List (List Char)}
    (clear : ∀ line ∈ written, '\n' ∉ line) :
    (lines (join ['\n'] written)).length ≤ written.length := by
  rcases List.eq_nil_or_concat written with none | ⟨others, last, split⟩
  · rw [none]
    exact Nat.zero_le _
  · rw [List.concat_eq_append] at split
    rw [split, List.forall_mem_append] at clear
    have short := length_pieces_of_clear (clear.2 last List.mem_cons_self)
    rw [split, join_concat, length_lines, length_pieces_terminated_append clear.1,
      List.length_append, List.length_singleton]
    exact Nat.add_le_add_left short _

theorem length_trim_le (text : List Char) : (trim text).length ≤ text.length := by
  rcases exists_frame text with ⟨lead, trail, _, _, whole⟩
  have lengths := congrArg List.length whole
  rw [List.length_append, List.length_append] at lengths
  omega

end Text

namespace Splice

/-- Replacing lines gives no more lines than both texts have together. -/
theorem length_lines_apply_le {start stop : Nat} {content text : List Char}
    (fits : fault? (Text.lines text).length start stop = none) :
    (Text.lines (apply start stop content text)).length ≤
      (Text.lines text).length + (Text.lines content).length := by
  have bounds := bounds_of_fault? fits
  have clear : ∀ line ∈ replace start stop (Text.lines content) (Text.lines text),
      '\n' ∉ line := by
    intro line member
    rcases List.mem_append.mp member with earlier | below
    · rcases List.mem_append.mp earlier with above | new
      · exact Text.clear_of_mem_lines (List.mem_of_mem_take above)
      · exact Text.clear_of_mem_lines new
    · exact Text.clear_of_mem_lines (List.mem_of_mem_drop below)
  have shorter : (replace start stop (Text.lines content) (Text.lines text)).length ≤
      (Text.lines text).length + (Text.lines content).length := by
    simp only [replace, List.length_append, List.length_take, List.length_drop]
    omega
  refine Nat.le_trans ?_ shorter
  cases ends : endsLine text with
  | true =>
      simp only [apply, ends, Bool.and_true]
      rw [Text.join_append_lineFeed, Text.length_lines_terminated clear]
  | false =>
      simp only [apply, ends, Bool.and_false, Bool.false_eq_true, if_false, List.append_nil]
      exact Text.length_lines_join_le clear

end Splice

end Workbench
