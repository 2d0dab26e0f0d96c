import Workbench.Proofs.Text.Pieces
import Workbench.Splice
namespace Workbench

/-!
# What replacing lines leaves untouched

Replacing a range of lines is meant to keep the text before the range and the text
after it.  It does so exactly under two conditions.  No line outside of the range
may end in a carriage return and a line feed, because the lines are joined again
with line feeds alone.  And if the range goes up to the end of a text whose last
line is not ended, and nothing is put in its place, then no line may stand before
it, because the result is taken to lack its last line end as the text did.

The conditions are necessary as well.  A lost carriage return cannot be made up
for by other characters: before the range the texts are compared from the front,
and after it from the back, where a line feed stands before the line.
-/

namespace Splice

/-- The text before a line, counted from one, with all line ends. -/
def before (start : Nat) (text : List Char) : List Char :=
  ((Text.pieces text).take (start - 1)).flatten

/-- The text after a line, counted from one, with all line ends. -/
def after (stop : Nat) (text : List Char) : List Char :=
  ((Text.pieces text).drop stop).flatten

/-- Replacing this range keeps what stands outside of it. -/
structure Spares (start stop : Nat) (content text : List Char) : Prop where
  above : ∀ piece ∈ (Text.pieces text).take (start - 1), ¬ Text.EndsInReturn piece
  below : ∀ piece ∈ (Text.pieces text).drop stop, ¬ Text.EndsInReturn piece
  /-- Something is put in, or the text ends with a line end, or lines follow the range,
  or none stand before it, or it begins past the last line. -/
  ending : content ≠ [] ∨ endsLine text = true ∨ stop < (Text.pieces text).length ∨
    start = 1 ∨ (Text.pieces text).length < start

open Text (Closed Unclosed Unended EndsInReturn bare terminated)

/-! ## Lost carriage returns -/

theorem plain_of_prefix {cut : List (List Char)} (closed : ∀ piece ∈ cut, Closed piece)
    (rest : List Char) (begins : cut.flatten <+: terminated (cut.map bare) ++ rest) :
    ∀ piece ∈ cut, ¬ EndsInReturn piece := by
  induction cut with
  | nil => exact fun piece member => nomatch member
  | cons piece others inductionHypothesis =>
      obtain ⟨here, after⟩ := List.forall_mem_cons.mp closed
      have written : terminated ((piece :: others).map bare) ++ rest =
          bare piece ++ ('\n' :: (terminated (others.map bare) ++ rest)) := by
        simp [terminated]
      rw [List.flatten_cons, written] at begins
      obtain ⟨line, seen, _, ⟨plain, whole⟩ | ⟨_, whole⟩⟩ := Text.bare_of_closed here
      · rw [seen, whole, List.append_assoc, List.prefix_append_right_inj, List.singleton_append,
          List.cons_prefix_cons] at begins
        exact List.forall_mem_cons.mpr ⟨plain, inductionHypothesis after begins.2⟩
      · rw [seen, whole, List.append_assoc, List.prefix_append_right_inj, List.cons_append,
          List.cons_prefix_cons] at begins
        exact absurd begins.1 (by decide)

/-- Behind a line feed, or at the very front, a line without line feeds cannot stand
for itself and one more character. -/
theorem not_suffix_terminated {line : List Char} (clear : '\n' ∉ line)
    (lines : List (List Char)) : ¬ line ++ ['\r'] <:+ terminated lines ++ line := by
  intro ends
  rcases List.eq_nil_or_concat lines with none | ⟨others, last, split⟩
  · rw [none] at ends
    have shorter := ends.length_le
    simp only [terminated, List.flatMap_nil, List.nil_append, List.length_append,
      List.length_singleton] at shorter
    omega
  · rw [List.concat_eq_append] at split
    rw [split, Text.terminated_concat, List.append_assoc, List.singleton_append] at ends
    obtain ⟨front, whole⟩ := ends
    have same : line ++ ['\r'] = '\n' :: line := by
      apply (List.append_inj' whole _).2
      simp
    have member : '\n' ∈ line ++ ['\r'] := same ▸ List.mem_cons_self
    rcases List.mem_append.mp member with inside | impossible
    · exact clear inside
    · exact absurd impossible (by decide)

theorem plain_of_suffix {cut : List (List Char)} (closed : ∀ piece ∈ cut, Closed piece)
    (lines : List (List Char)) (ends : cut.flatten <:+ terminated (lines ++ cut.map bare)) :
    ∀ piece ∈ cut, ¬ EndsInReturn piece := by
  induction cut generalizing lines with
  | nil => exact fun piece member => nomatch member
  | cons piece others inductionHypothesis =>
      obtain ⟨here, after⟩ := List.forall_mem_cons.mp closed
      rw [List.map_cons, List.append_cons, List.flatten_cons] at ends
      -- the later pieces are compared first, so that this one is compared from its own end
      have plainAfter := inductionHypothesis after (lines ++ [bare piece])
        ((List.suffix_append _ _).trans ends)
      rw [Text.terminated_append, Text.terminated_map_bare after plainAfter,
        List.suffix_append_self_iff, Text.terminated_concat] at ends
      obtain ⟨line, seen, clear, ⟨plain, _⟩ | ⟨_, whole⟩⟩ := Text.bare_of_closed here
      · exact List.forall_mem_cons.mpr ⟨plain, plainAfter⟩
      · rw [seen, whole, List.append_cons, List.suffix_append_self_iff] at ends
        exact absurd ends (not_suffix_terminated clear lines)

/-! ## Joined lines around a range -/

/-- Between closed pieces, all lines being ended. -/
theorem terminated_between_iff {front back : List (List Char)}
    (closedFront : ∀ piece ∈ front, Closed piece) (closedBack : ∀ piece ∈ back, Closed piece)
    (lines : List (List Char)) :
    (∃ middle, terminated (front.map bare ++ lines ++ back.map bare) =
        front.flatten ++ middle ++ back.flatten) ↔
      (∀ piece ∈ front, ¬ EndsInReturn piece) ∧ (∀ piece ∈ back, ¬ EndsInReturn piece) := by
  constructor
  · rintro ⟨middle, split⟩
    constructor
    · refine plain_of_prefix closedFront (terminated (lines ++ back.map bare)) ?_
      rw [← Text.terminated_append, ← List.append_assoc, split, List.append_assoc]
      exact List.prefix_append _ _
    · refine plain_of_suffix closedBack (front.map bare ++ lines) ?_
      rw [split]
      exact List.suffix_append _ _
  · rintro ⟨plainFront, plainBack⟩
    refine ⟨terminated lines, ?_⟩
    rw [Text.terminated_append, Text.terminated_append,
      Text.terminated_map_bare closedFront plainFront,
      Text.terminated_map_bare closedBack plainBack]

/-- Behind closed pieces, with anything after them. -/
theorem terminated_append_iff {front : List (List Char)}
    (closed : ∀ piece ∈ front, Closed piece) (rest : List Char) :
    (∃ middle, terminated (front.map bare) ++ rest = front.flatten ++ middle) ↔
      ∀ piece ∈ front, ¬ EndsInReturn piece := by
  constructor
  · rintro ⟨middle, split⟩
    refine plain_of_prefix closed rest ?_
    rw [split]
    exact List.prefix_append _ _
  · intro plain
    exact ⟨rest, by rw [Text.terminated_map_bare closed plain]⟩

/-- A line is never longer than the piece that it was. -/
theorem length_terminated_map_bare {cut : List (List Char)}
    (closed : ∀ piece ∈ cut, Closed piece) :
    (terminated (cut.map bare)).length ≤ cut.flatten.length := by
  induction cut with
  | nil => exact Nat.le_refl 0
  | cons piece others inductionHypothesis =>
      obtain ⟨here, after⟩ := List.forall_mem_cons.mp closed
      have later := inductionHypothesis after
      have size : (bare piece).length + 1 ≤ piece.length := by
        obtain ⟨line, seen, _, ⟨_, whole⟩ | ⟨_, whole⟩⟩ := Text.bare_of_closed here
        · rw [seen, whole, List.length_append]
          exact Nat.le_refl _
        · rw [seen, whole, List.length_append]
          exact Nat.le_succ _
      simp only [terminated] at later
      simp only [terminated, List.map_cons, List.flatMap_cons, List.flatten_cons,
        List.length_append, List.length_singleton]
      omega

/-- Joined lines alone lack the line end of the last piece. -/
theorem not_prefix_join {cut : List (List Char)} (filled : cut ≠ [])
    (closed : ∀ piece ∈ cut, Closed piece) (middle : List Char) :
    Text.join ['\n'] (cut.map bare) ≠ cut.flatten ++ middle := by
  intro split
  have bound := length_terminated_map_bare closed
  rw [← Text.join_append_lineFeed, split] at bound
  have some : (cut.map bare).isEmpty = false := by
    simpa using filled
  rw [some] at bound
  simp only [Bool.not_false, if_true, List.length_append, List.length_singleton] at bound
  omega

/-! ## Joined lines around a last line that is not ended -/

theorem not_endsInReturn_of_unclosed {last : List Char} (unclosed : Unclosed last) :
    ¬ EndsInReturn last := by
  intro ends
  exact unclosed.2 (ends.subset (by simp))

theorem plain_concat_iff {others : List (List Char)} {last : List Char}
    (unclosed : Unclosed last) :
    (∀ piece ∈ others ++ [last], ¬ EndsInReturn piece) ↔
      ∀ piece ∈ others, ¬ EndsInReturn piece := by
  rw [List.forall_mem_append]
  constructor
  · exact fun plain => plain.1
  · intro plain
    refine ⟨plain, ?_⟩
    intro piece member
    rw [List.mem_singleton.mp member]
    exact not_endsInReturn_of_unclosed unclosed

/-- The range ends before the last line. -/
theorem join_between_iff {front back : List (List Char)} {last : List Char}
    (closedFront : ∀ piece ∈ front, Closed piece) (closedBack : ∀ piece ∈ back, Closed piece)
    (unclosed : Unclosed last) (lines : List (List Char)) :
    (∃ middle, Text.join ['\n'] (front.map bare ++ lines ++ (back ++ [last]).map bare) =
        front.flatten ++ middle ++ (back ++ [last]).flatten) ↔
      (∀ piece ∈ front, ¬ EndsInReturn piece) ∧
        ∀ piece ∈ back ++ [last], ¬ EndsInReturn piece := by
  rw [plain_concat_iff unclosed, ← terminated_between_iff closedFront closedBack lines,
    List.map_append, List.map_singleton, Text.bare_of_unclosed unclosed, ← List.append_assoc,
    Text.join_concat, List.flatten_concat]
  constructor
  · rintro ⟨middle, split⟩
    rw [← List.append_assoc] at split
    exact ⟨middle, (List.append_left_inj last).mp split⟩
  · rintro ⟨middle, split⟩
    exact ⟨middle, by rw [split, List.append_assoc, List.append_assoc]⟩

/-- The range starts behind the last line. -/
theorem join_behind_iff {others : List (List Char)} {last : List Char}
    (closed : ∀ piece ∈ others, Closed piece) (unclosed : Unclosed last)
    (lines : List (List Char)) :
    (∃ middle, Text.join ['\n'] ((others ++ [last]).map bare ++ lines) =
        (others ++ [last]).flatten ++ middle) ↔
      ∀ piece ∈ others ++ [last], ¬ EndsInReturn piece := by
  obtain ⟨tail, shape⟩ : ∃ tail, Text.join ['\n'] ((others ++ [last]).map bare ++ lines) =
      terminated (others.map bare) ++ (last ++ tail) := by
    rw [List.map_append, List.map_singleton, Text.bare_of_unclosed unclosed]
    rcases List.eq_nil_or_concat lines with none | ⟨new, final, split⟩
    · exact ⟨[], by rw [none, List.append_nil, List.append_nil, Text.join_concat]⟩
    · rw [List.concat_eq_append] at split
      refine ⟨['\n'] ++ terminated new ++ final, ?_⟩
      rw [split, ← List.append_assoc, Text.join_concat, Text.terminated_append,
        Text.terminated_concat]
      simp
  rw [plain_concat_iff unclosed, shape, List.flatten_concat]
  constructor
  · rintro ⟨middle, split⟩
    exact (terminated_append_iff closed (last ++ tail)).mp
      ⟨last ++ middle, by rw [split, List.append_assoc]⟩
  · intro plain
    exact ⟨tail, by rw [Text.terminated_map_bare closed plain, List.append_assoc]⟩

/-- New lines stand in the place of the last line. -/
theorem join_append_iff {front : List (List Char)} (closed : ∀ piece ∈ front, Closed piece)
    {lines : List (List Char)} (filled : lines ≠ []) :
    (∃ middle, Text.join ['\n'] (front.map bare ++ lines) = front.flatten ++ middle) ↔
      ∀ piece ∈ front, ¬ EndsInReturn piece := by
  rcases List.eq_nil_or_concat lines with none | ⟨new, final, split⟩
  · exact absurd none filled
  · rw [List.concat_eq_append] at split
    rw [split, ← List.append_assoc, Text.join_concat, Text.terminated_append, List.append_assoc]
    exact terminated_append_iff closed (terminated new ++ final)

/-- Nothing stands in the place of the last line. -/
theorem join_iff {front : List (List Char)} (closed : ∀ piece ∈ front, Closed piece) :
    (∃ middle, Text.join ['\n'] (front.map bare) = front.flatten ++ middle) ↔ front = [] := by
  constructor
  · rintro ⟨middle, split⟩
    cases front with
    | nil => rfl
    | cons first rest => exact absurd split (not_prefix_join (List.cons_ne_nil _ _) closed middle)
  · intro none
    exact ⟨[], by rw [none]; rfl⟩

/-! ## Replacing a range of lines -/

theorem closed_of_endsLine {text : List Char} (ends : endsLine text = true) :
    ∀ piece ∈ Text.pieces text, Closed piece := by
  apply Text.closed_of_getLast?
  simpa [endsLine] using ends

theorem bounds_of_fault? {total start stop : Nat} (fits : fault? total start stop = none) :
    1 ≤ start ∧ start ≤ total + 1 ∧ start ≤ stop := by
  unfold fault? at fits
  split at fits
  · cases fits
  · split at fits
    · cases fits
    · omega

theorem fault?_of_bounds {total start stop : Nat} (inside : 1 ≤ start ∧ start ≤ total + 1)
    (ordered : start ≤ stop) : fault? total start stop = none := by
  rw [fault?, if_neg (by omega), if_neg (by omega)]

/-- The lines of the text around the range, and the new lines in between. -/
theorem replace_lines {start stop : Nat} {text : List Char}
    (fits : fault? (Text.pieces text).length start stop = none) (new : List (List Char)) :
    replace start stop new (Text.lines text) =
      ((Text.pieces text).take (start - 1)).map bare ++ new ++
        ((Text.pieces text).drop stop).map bare := by
  obtain ⟨_, inside, ordered⟩ := bounds_of_fault? fits
  have rest : (Text.pieces text).drop (max (min stop (Text.pieces text).length) (start - 1)) =
      (Text.pieces text).drop stop := by
    by_cases short : stop ≤ (Text.pieces text).length
    · rw [Nat.min_eq_left short, Nat.max_eq_left (by omega)]
    · rw [Nat.min_eq_right (by omega), Nat.max_eq_left (by omega), List.drop_length,
        List.drop_eq_nil_of_le (by omega)]
  rw [replace, Text.lines, List.length_map, ← List.map_take, ← List.map_drop, rest]

/-- A text whose last line is ended, or that has none: all lines are ended. -/
theorem apply_of_ended {start stop : Nat} {content text : List Char}
    (fits : fault? (Text.pieces text).length start stop = none) (ends : endsLine text = true) :
    apply start stop content text =
      terminated (((Text.pieces text).take (start - 1)).map bare ++ Text.lines content ++
        ((Text.pieces text).drop stop).map bare) := by
  rw [← replace_lines fits, ← Text.join_append_lineFeed]
  simp only [apply, ends, Bool.and_true]

/-- A text with closed pieces only is spared under the first condition. -/
theorem apply_between_iff_of_closed {start stop : Nat} {content text : List Char}
    (fits : fault? (Text.pieces text).length start stop = none)
    (ends : endsLine text = true) (closed : ∀ piece ∈ Text.pieces text, Closed piece) :
    (∃ middle, apply start stop content text = before start text ++ middle ++ after stop text) ↔
      Spares start stop content text := by
  rw [apply_of_ended fits ends, before, after, terminated_between_iff
    (fun piece member => closed piece (List.mem_of_mem_take member))
    (fun piece member => closed piece (List.mem_of_mem_drop member))]
  constructor
  · rintro ⟨above, below⟩
    exact ⟨above, below, Or.inr (Or.inl ends)⟩
  · intro spares
    exact ⟨spares.above, spares.below⟩

/-- A text whose last line is not ended: the lines around the range are joined. -/
theorem apply_of_unended {start stop : Nat} {content text : List Char}
    (fits : fault? (Text.pieces text).length start stop = none) (ends : endsLine text = false) :
    apply start stop content text =
      Text.join ['\n'] (((Text.pieces text).take (start - 1)).map bare ++ Text.lines content ++
        ((Text.pieces text).drop stop).map bare) := by
  rw [← replace_lines fits]
  simp only [apply, ends, Bool.and_false, Bool.false_eq_true, if_false, List.append_nil]

theorem apply_between_iff_of_unended {start stop : Nat} {content text last : List Char}
    {others : List (List Char)} (fits : fault? (Text.pieces text).length start stop = none)
    (ends : endsLine text = false) (unended : Unended text others last) :
    (∃ middle, apply start stop content text = before start text ++ middle ++ after stop text) ↔
      Spares start stop content text := by
  obtain ⟨cut, closed, unclosed⟩ := unended
  obtain ⟨positive, bounded, ordered⟩ := bounds_of_fault? fits
  have total : (Text.pieces text).length = others.length + 1 := by
    rw [cut, List.length_append, List.length_singleton]
  have closedFront : ∀ piece ∈ others.take (start - 1), Closed piece :=
    fun piece member => closed piece (List.mem_of_mem_take member)
  have closedBack : ∀ piece ∈ others.drop stop, Closed piece :=
    fun piece member => closed piece (List.mem_of_mem_drop member)
  rw [apply_of_unended fits ends, before, after]
  by_cases inside : stop ≤ others.length
  · have front : (Text.pieces text).take (start - 1) = others.take (start - 1) := by
      rw [cut, List.take_append_of_le_length (by omega)]
    have back : (Text.pieces text).drop stop = others.drop stop ++ [last] := by
      rw [cut, List.drop_append_of_le_length inside]
    rw [front, back, join_between_iff closedFront closedBack unclosed]
    constructor
    · rintro ⟨above, below⟩
      exact ⟨front ▸ above, back ▸ below, Or.inr (Or.inr (Or.inl (by omega)))⟩
    · intro spares
      exact ⟨front ▸ spares.above, back ▸ spares.below⟩
  · have back : (Text.pieces text).drop stop = [] := List.drop_eq_nil_of_le (by omega)
    have below : ∀ piece ∈ (Text.pieces text).drop stop, ¬ EndsInReturn piece := by
      rw [back]
      exact fun piece member => nomatch member
    rw [back]
    simp only [List.map_nil, List.flatten_nil, List.append_nil]
    by_cases early : start ≤ others.length + 1
    · have front : (Text.pieces text).take (start - 1) = others.take (start - 1) := by
        rw [cut, List.take_append_of_le_length (by omega)]
      rw [front]
      by_cases empty : content = []
      · rw [Text.lines_eq_nil_iff.mpr empty, List.append_nil, join_iff closedFront]
        constructor
        · intro none
          refine ⟨?_, below, Or.inr (Or.inr (Or.inr (Or.inl ?_)))⟩
          · rw [front, none]
            exact fun piece member => nomatch member
          · have short := congrArg List.length none
            rw [List.length_take, List.length_nil] at short
            omega
        · intro spares
          -- of the five ways to keep the last line end, only the first line is left
          rcases spares.ending with some | ended | before | first | behind
          · exact absurd empty some
          · rw [ends] at ended
            cases ended
          · omega
          · rw [first]
            rfl
          · omega
      · rw [join_append_iff closedFront (fun none => empty (Text.lines_eq_nil_iff.mp none))]
        constructor
        · intro above
          exact ⟨front ▸ above, below, Or.inl empty⟩
        · intro spares
          exact front ▸ spares.above
    · have front : (Text.pieces text).take (start - 1) = others ++ [last] := by
        rw [cut, List.take_of_length_le]
        rw [← cut, total]
        omega
      rw [front, join_behind_iff closed unclosed]
      constructor
      · intro above
        exact ⟨front ▸ above, below, Or.inr (Or.inr (Or.inr (Or.inr (by omega))))⟩
      · intro spares
        exact front ▸ spares.above

/-- Replacing a range keeps the text before and after it exactly if no line outside
of the range has the longer line end, and no line end in front of it gets lost. -/
theorem apply_between_iff {start stop : Nat} {content text : List Char}
    (fits : fault? (Text.pieces text).length start stop = none) :
    (∃ middle, apply start stop content text = before start text ++ middle ++ after stop text) ↔
      Spares start stop content text := by
  cases ends : endsLine text with
  | true => exact apply_between_iff_of_closed fits ends (closed_of_endsLine ends)
  | false =>
      obtain ⟨filled, open_⟩ : text ≠ [] ∧ text.getLast? ≠ some '\n' := by
        simpa [endsLine] using ends
      obtain ⟨others, last, unended⟩ := Text.exists_unclosed_of_getLast? filled open_
      exact apply_between_iff_of_unended fits ends unended

/-! ## The lines of the result -/

/-- Where all line ends are plain, the result is read as the lines around the range
and those of the new text. -/
theorem lines_apply {start stop : Nat} {content text : List Char}
    (fits : fault? (Text.pieces text).length start stop = none) (ends : endsLine text = true)
    (plain : ∀ piece ∈ Text.pieces text, ¬ EndsInReturn piece)
    (each : ∀ line ∈ Text.lines content, Text.IsLine line) :
    Text.lines (apply start stop content text) =
      (Text.lines text).take (start - 1) ++ Text.lines content ++ (Text.lines text).drop stop := by
  have shown : ∀ line ∈ Text.lines text, Text.IsLine line := by
    intro line member
    obtain ⟨piece, cut, seen⟩ := List.mem_map.mp member
    rw [← seen]
    exact Text.isLine_bare (closed_of_endsLine ends piece cut) (plain piece cut)
  rw [apply_of_ended fits ends, List.map_take, List.map_drop, ← Text.lines, Text.lines_terminated]
  intro line member
  rcases List.mem_append.mp member with earlier | below
  · rcases List.mem_append.mp earlier with above | new
    · exact shown line (List.mem_of_mem_take above)
    · exact each line new
  · exact shown line (List.mem_of_mem_drop below)

end Splice

end Workbench
