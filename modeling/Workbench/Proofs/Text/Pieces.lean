import Workbench.Text.Lines
namespace Workbench

/-!
# Pieces and their line ends

Cutting a text after every line feed gives closed pieces, which end in a line feed
and hold no other one, and after them at most one open piece, which holds none.
A reader sees each closed piece as a line without its end; putting a line feed
after that line gives the piece back, unless the end was a carriage return and a
line feed.

The other way round, lines that are joined and read again come back as they were, but
for one that is empty and stands last: nothing follows its line feed, so no piece is
left for it.
-/

namespace Text

/-- The piece ends in a line feed and holds no other one. -/
def Closed (piece : List Char) : Prop :=
  ∃ body, piece = body ++ ['\n'] ∧ '\n' ∉ body

/-- The piece holds something, and no line feed. -/
def Unclosed (piece : List Char) : Prop :=
  piece ≠ [] ∧ '\n' ∉ piece

/-- The piece ends in a carriage return and a line feed. -/
def EndsInReturn (piece : List Char) : Prop :=
  ['\r', '\n'] <:+ piece

instance (piece : List Char) : Decidable (EndsInReturn piece) :=
  inferInstanceAs (Decidable (_ <:+ _))

/-- The last piece of the text is not closed, and the others are. -/
structure Unended (text : List Char) (others : List (List Char)) (last : List Char) : Prop where
  cut : pieces text = others ++ [last]
  closed : ∀ piece ∈ others, Closed piece
  unclosed : Unclosed last

/-- A reader can see this as a line of a text.  It holds no line feed, and no carriage
return at its end, which would belong to the line end. -/
structure IsLine (line : List Char) : Prop where
  clear : '\n' ∉ line
  plain : line.getLast? ≠ some '\r'

instance (line : List Char) : Decidable (IsLine line) :=
  decidable_of_iff ('\n' ∉ line ∧ line.getLast? ≠ some '\r')
    ⟨fun both => ⟨both.1, both.2⟩, fun isLine => ⟨isLine.clear, isLine.plain⟩⟩

/-- Lines with a line feed after each. -/
def terminated (lines : List (List Char)) : List Char :=
  lines.flatMap (fun line => line ++ ['\n'])

/-- What ends a line: a line feed, or a carriage return and a line feed. -/
inductive LineEnd where
  | short
  | long
  deriving DecidableEq, Repr

def LineEnd.written : LineEnd → List Char
  | short => ['\n']
  | long => ['\r', '\n']

/-- Lines, each with an end of its own. -/
def ended (lines : List (List Char × LineEnd)) : List Char :=
  lines.flatMap (fun line => line.1 ++ line.2.written)

/-! ## The pieces of a text -/

theorem closed_lineFeed : Closed ['\n'] :=
  ⟨[], rfl, List.not_mem_nil⟩

theorem Closed.cons {piece : List Char} (closed : Closed piece) {first : Char}
    (ordinary : first ≠ '\n') : Closed (first :: piece) := by
  obtain ⟨body, split, clear⟩ := closed
  refine ⟨first :: body, by rw [split, List.cons_append], ?_⟩
  intro member
  rcases List.mem_cons.mp member with same | inside
  · exact ordinary same.symm
  · exact clear inside

theorem Unclosed.cons {piece : List Char} (unclosed : Unclosed piece) {first : Char}
    (ordinary : first ≠ '\n') : Unclosed (first :: piece) := by
  refine ⟨List.cons_ne_nil first piece, ?_⟩
  intro member
  rcases List.mem_cons.mp member with same | inside
  · exact ordinary same.symm
  · exact unclosed.2 inside

/-- All pieces are closed, or all but the last one. -/
theorem closed_pieces (text : List Char) :
    (∀ piece ∈ pieces text, Closed piece) ∨ ∃ others last, Unended text others last := by
  induction text with
  | nil => exact Or.inl (fun piece member => nomatch member)
  | cons first rest inductionHypothesis =>
      by_cases lineFeed : first = '\n'
      · have cut : pieces (first :: rest) = ['\n'] :: pieces rest := by
          rw [pieces, if_pos lineFeed]
        rcases inductionHypothesis with closed | ⟨others, last, unended⟩
        · rw [cut]
          exact Or.inl (List.forall_mem_cons.mpr ⟨closed_lineFeed, closed⟩)
        · refine Or.inr ⟨['\n'] :: others, last, ?_, ?_, unended.unclosed⟩
          · rw [cut, unended.cut, List.cons_append]
          · exact List.forall_mem_cons.mpr ⟨closed_lineFeed, unended.closed⟩
      · rcases inductionHypothesis with closed | ⟨others, last, split, closed, unclosed⟩
        · -- the first piece of the rest, if there is one, takes the character up
          cases begun : pieces rest with
          | nil =>
              refine Or.inr ⟨[], [first], ?_, (fun piece member => nomatch member), ?_⟩
              · rw [pieces, if_neg lineFeed, begun, List.nil_append]
              · refine ⟨List.cons_ne_nil first [], ?_⟩
                intro member
                exact lineFeed (List.mem_singleton.mp member).symm
          | cons piece later =>
              rw [begun] at closed
              obtain ⟨here, after⟩ := List.forall_mem_cons.mp closed
              have cut : pieces (first :: rest) = (first :: piece) :: later := by
                rw [pieces, if_neg lineFeed, begun]
              rw [cut]
              exact Or.inl (List.forall_mem_cons.mpr ⟨here.cons lineFeed, after⟩)
        · cases others with
          | nil =>
              refine Or.inr ⟨[], first :: last, ?_, (fun piece member => nomatch member),
                unclosed.cons lineFeed⟩
              rw [pieces, if_neg lineFeed, split]
              rfl
          | cons head middle =>
              obtain ⟨here, after⟩ := List.forall_mem_cons.mp closed
              refine Or.inr ⟨(first :: head) :: middle, last, ?_, ?_, unclosed⟩
              · rw [pieces, if_neg lineFeed, split]
                rfl
              · exact List.forall_mem_cons.mpr ⟨here.cons lineFeed, after⟩

theorem closed_or_unclosed {text piece : List Char} (listed : piece ∈ pieces text) :
    Closed piece ∨ Unclosed piece := by
  rcases closed_pieces text with closed | ⟨others, last, unended⟩
  · exact Or.inl (closed piece listed)
  · rw [unended.cut] at listed
    rcases List.mem_append.mp listed with inOthers | isLast
    · exact Or.inl (unended.closed piece inOthers)
    · rw [List.mem_singleton.mp isLast]
      exact Or.inr unended.unclosed

theorem pieces_eq_nil_iff {text : List Char} : pieces text = [] ↔ text = [] := by
  constructor
  · intro none
    rw [← flatten_pieces text, none]
    rfl
  · intro empty
    rw [empty]
    rfl

theorem lines_eq_nil_iff {text : List Char} : lines text = [] ↔ text = [] := by
  rw [lines, List.map_eq_nil_iff, pieces_eq_nil_iff]

theorem ne_nil_of_lines {text first : List Char} {others : List (List Char)}
    (written : lines text = first :: others) : text ≠ [] := by
  intro empty
  rw [lines_eq_nil_iff.mpr empty] at written
  cases written

/-- A text that is empty or ends with a line feed has closed pieces only. -/
theorem closed_of_getLast? {text : List Char} (ends : text = [] ∨ text.getLast? = some '\n') :
    ∀ piece ∈ pieces text, Closed piece := by
  rcases closed_pieces text with closed | ⟨others, last, split, _, ⟨filled, clear⟩⟩
  · exact closed
  · have whole : text = others.flatten ++ last := by
      rw [← flatten_pieces text, split, List.flatten_concat]
    exfalso
    rcases ends with empty | lineFeed
    · rw [empty] at whole
      exact filled (List.append_eq_nil_iff.mp whole.symm).2
    · rw [whole, List.getLast?_append] at lineFeed
      cases ends : last.getLast? with
      | none => exact filled (List.getLast?_eq_none_iff.mp ends)
      | some character =>
          rw [ends, Option.some_or] at lineFeed
          exact clear (List.mem_of_getLast? (ends.trans lineFeed))

/-- Any other text has one piece that is not closed, the last one. -/
theorem exists_unclosed_of_getLast? {text : List Char} (filled : text ≠ [])
    (ends : text.getLast? ≠ some '\n') : ∃ others last, Unended text others last := by
  rcases closed_pieces text with closed | unended
  · exfalso
    rcases List.eq_nil_or_concat (pieces text) with none | ⟨others, last, split⟩
    · exact filled (pieces_eq_nil_iff.mp none)
    · rw [List.concat_eq_append] at split
      obtain ⟨body, written, _⟩ := closed last (by rw [split]; simp)
      have whole : text = (others.flatten ++ body) ++ ['\n'] := by
        rw [← flatten_pieces text, split, List.flatten_concat, written, List.append_assoc]
      rw [whole, List.getLast?_concat] at ends
      exact ends rfl
  · exact unended

/-! ## Lines without their ends -/

theorem bare_of_unclosed {piece : List Char} (unclosed : Unclosed piece) : bare piece = piece := by
  rw [bare, if_neg]
  intro ends
  exact unclosed.2 (List.mem_of_getLast? ends)

/-- A closed piece is its line and a line feed, or its line and both characters of
the longer line end. -/
theorem bare_of_closed {piece : List Char} (closed : Closed piece) :
    ∃ line, bare piece = line ∧ '\n' ∉ line ∧
      ((¬ EndsInReturn piece ∧ piece = line ++ ['\n']) ∨
        (EndsInReturn piece ∧ piece = line ++ ['\r', '\n'])) := by
  obtain ⟨body, split, clear⟩ := closed
  subst split
  rw [bare, List.getLast?_concat, if_pos rfl, List.dropLast_concat, dropReturn]
  by_cases ends : body.getLast? = some '\r'
  · obtain ⟨front, shape⟩ := List.getLast?_eq_some_iff.mp ends
    rw [if_pos ends, shape, List.dropLast_concat]
    rw [shape] at clear
    refine ⟨front, rfl, fun member => clear (List.mem_append_left ['\r'] member),
      Or.inr ⟨?_, ?_⟩⟩
    · exact ⟨front, by simp⟩
    · simp
  · rw [if_neg ends]
    refine ⟨body, rfl, clear, Or.inl ⟨?_, rfl⟩⟩
    rintro ⟨front, whole⟩
    have front : front ++ ['\r'] = body := by
      rw [List.append_cons] at whole
      exact (List.append_inj' whole rfl).1
    rw [← front, List.getLast?_concat] at ends
    exact ends rfl

/-- No line holds a line feed. -/
theorem clear_of_mem_lines {text line : List Char} (member : line ∈ lines text) :
    '\n' ∉ line := by
  rcases List.mem_map.mp member with ⟨piece, listed, same⟩
  rcases closed_or_unclosed listed with closed | unclosed
  · rcases bare_of_closed closed with ⟨body, seen, clear, _⟩
    rw [← same, seen]
    exact clear
  · rw [← same, bare_of_unclosed unclosed]
    exact unclosed.2

/-- Line feeds put back all line ends exactly if none of them was longer. -/
theorem terminated_map_bare {cut : List (List Char)} (closed : ∀ piece ∈ cut, Closed piece)
    (plain : ∀ piece ∈ cut, ¬ EndsInReturn piece) : terminated (cut.map bare) = cut.flatten := by
  induction cut with
  | nil => rfl
  | cons piece others inductionHypothesis =>
      obtain ⟨here, after⟩ := List.forall_mem_cons.mp closed
      obtain ⟨plainHere, plainAfter⟩ := List.forall_mem_cons.mp plain
      obtain ⟨line, seen, _, ⟨_, whole⟩ | ⟨ends, _⟩⟩ := bare_of_closed here
      · rw [List.map_cons, terminated, List.flatMap_cons, seen, ← whole, List.flatten_cons]
        exact congrArg (piece ++ ·) (inductionHypothesis after plainAfter)
      · exact absurd ends plainHere

/-! ## Joining lines -/

theorem terminated_append (first second : List (List Char)) :
    terminated (first ++ second) = terminated first ++ terminated second :=
  List.flatMap_append

theorem terminated_concat (lines : List (List Char)) (line : List Char) :
    terminated (lines ++ [line]) = terminated lines ++ line ++ ['\n'] := by
  rw [terminated_append, List.append_assoc]
  simp [terminated]

/-- Joined lines have a line feed after each line but the last. -/
theorem join_concat (lines : List (List Char)) (line : List Char) :
    join ['\n'] (lines ++ [line]) = terminated lines ++ line := by
  induction lines with
  | nil => rfl
  | cons first rest inductionHypothesis =>
      have filled : ∃ next later, rest ++ [line] = next :: later := by
        cases rest with
        | nil => exact ⟨line, [], rfl⟩
        | cons next later => exact ⟨next, later ++ [line], rfl⟩
      obtain ⟨next, later, shape⟩ := filled
      have joined : join ['\n'] (first :: next :: later) =
          first ++ ['\n'] ++ join ['\n'] (next :: later) := rfl
      rw [List.cons_append, shape, joined, ← shape, inductionHypothesis]
      simp [terminated]

theorem toList_intercalate_lineFeed (written : List String) :
    (String.intercalate "\n" written).toList = join ['\n'] (written.map String.toList) := by
  induction written with
  | nil => rfl
  | cons first rest inductionHypothesis =>
      cases rest with
      | nil => rw [String.intercalate_singleton, List.map_singleton, join]
      | cons second more =>
          rw [String.intercalate_cons_cons, String.toList_append, String.toList_append,
            inductionHypothesis]
          rfl

/-- Joined lines, and a line feed unless there are none, are terminated lines. -/
theorem join_append_lineFeed (lines : List (List Char)) :
    join ['\n'] lines ++ (if !lines.isEmpty then ['\n'] else []) = terminated lines := by
  rcases List.eq_nil_or_concat lines with none | ⟨others, last, split⟩
  · rw [none]
    rfl
  · rw [List.concat_eq_append] at split
    rw [split, join_concat, terminated_concat]
    simp

/-! ## Reading lines again -/

theorem pieces_append_lineFeed {line : List Char} (clear : '\n' ∉ line) (rest : List Char) :
    pieces (line ++ '\n' :: rest) = (line ++ ['\n']) :: pieces rest := by
  induction line with
  | nil => rw [List.nil_append, pieces, if_pos rfl, List.nil_append]
  | cons first others inductionHypothesis =>
      rw [List.mem_cons, not_or] at clear
      have ordinary : first ≠ '\n' := fun same => clear.1 same.symm
      rw [List.cons_append, pieces, if_neg ordinary, inductionHypothesis clear.2, List.cons_append]

theorem pieces_of_unclosed {text : List Char} (unclosed : Unclosed text) : pieces text = [text] := by
  obtain ⟨others, last, cut, closed, _⟩ : ∃ others last, Unended text others last := by
    apply exists_unclosed_of_getLast? unclosed.1
    intro ends
    exact unclosed.2 (List.mem_of_getLast? ends)
  have whole : text = others.flatten ++ last := by
    rw [← flatten_pieces text, cut, List.flatten_concat]
  cases others with
  | nil => rw [cut, whole, List.flatten_nil, List.nil_append, List.nil_append]
  | cons head tail =>
      -- a closed piece in front would bring a line feed into the text
      obtain ⟨body, shape, _⟩ := closed head List.mem_cons_self
      exact absurd (by rw [whole, shape]; simp) unclosed.2

theorem pieces_flatten_append {front : List (List Char)} (closed : ∀ piece ∈ front, Closed piece)
    (rest : List Char) : pieces (front.flatten ++ rest) = front ++ pieces rest := by
  induction front with
  | nil => rfl
  | cons piece others inductionHypothesis =>
      obtain ⟨⟨body, shape, clear⟩, later⟩ := List.forall_mem_cons.mp closed
      rw [List.flatten_cons, shape, List.append_assoc, List.append_assoc, List.singleton_append,
        pieces_append_lineFeed clear, inductionHypothesis later, List.cons_append]

theorem bare_append_short (line : List Char) : bare (line ++ LineEnd.short.written) =
    dropReturn line := by
  rw [LineEnd.written, bare, List.getLast?_concat, if_pos rfl, List.dropLast_concat]

theorem bare_append_long (line : List Char) : bare (line ++ LineEnd.long.written) = line := by
  rw [LineEnd.written, List.append_cons, bare, List.getLast?_concat, if_pos rfl,
    List.dropLast_concat, dropReturn, List.getLast?_concat, if_pos rfl, List.dropLast_concat]

/-- A line is seen without its end, whichever it has. -/
theorem bare_of_isLine {line : List Char} (isLine : IsLine line) (ending : LineEnd) :
    bare (line ++ ending.written) = line := by
  cases ending with
  | short => rw [bare_append_short, dropReturn, if_neg isLine.plain]
  | long => exact bare_append_long line

/-- A closed piece with the shorter line end shows a line. -/
theorem isLine_bare {piece : List Char} (closed : Closed piece) (plain : ¬ EndsInReturn piece) :
    IsLine (bare piece) := by
  obtain ⟨line, seen, clear, ⟨_, whole⟩ | ⟨ends, _⟩⟩ := bare_of_closed closed
  · rw [seen]
    refine ⟨clear, ?_⟩
    intro returns
    obtain ⟨front, shape⟩ := List.getLast?_eq_some_iff.mp returns
    apply plain
    refine ⟨front, ?_⟩
    rw [whole, shape, List.append_assoc]
    rfl
  · exact absurd ends plain

/-- No piece has the longer line end if it stands nowhere in the text. -/
theorem plain_of_not_infix {text : List Char} (lineFeedOnly : ¬ ['\r', '\n'] <:+: text) :
    ∀ piece ∈ pieces text, ¬ EndsInReturn piece := by
  intro piece member ends
  have inside : piece <:+: (pieces text).flatten := List.infix_of_mem_flatten member
  rw [flatten_pieces] at inside
  exact lineFeedOnly (ends.isInfix.trans inside)

/-- The first line of a text ends at the first line feed. -/
theorem lines_append_lineEnd {line : List Char} (clear : '\n' ∉ line) (ending : LineEnd)
    (rest : List Char) :
    lines (line ++ (ending.written ++ rest)) = bare (line ++ ending.written) :: lines rest := by
  cases ending with
  | short =>
      have shape : line ++ (LineEnd.short.written ++ rest) = line ++ '\n' :: rest := rfl
      rw [shape, lines, pieces_append_lineFeed clear, List.map_cons]
      rfl
  | long =>
      have clearReturn : '\n' ∉ line ++ ['\r'] := by
        rw [List.mem_append, not_or]
        exact ⟨clear, by decide⟩
      have shape : line ++ (LineEnd.long.written ++ rest) = line ++ ['\r'] ++ '\n' :: rest := by
        simp [LineEnd.written]
      have piece : line ++ ['\r'] ++ ['\n'] = line ++ LineEnd.long.written := by
        simp [LineEnd.written]
      rw [shape, lines, pieces_append_lineFeed clearReturn, List.map_cons, piece]
      rfl

/-- Ended lines are read back as they are. -/
theorem lines_ended_append {written : List (List Char × LineEnd)}
    (each : ∀ line ∈ written, IsLine line.1) (rest : List Char) :
    lines (ended written ++ rest) = written.map Prod.fst ++ lines rest := by
  induction written with
  | nil => rfl
  | cons line others inductionHypothesis =>
      obtain ⟨here, later⟩ := List.forall_mem_cons.mp each
      have shape : ended (line :: others) ++ rest =
          line.1 ++ (line.2.written ++ (ended others ++ rest)) := by
        simp [ended]
      rw [shape, lines_append_lineEnd here.clear, bare_of_isLine here, inductionHypothesis later,
        List.map_cons, List.cons_append]

theorem lines_terminated_append {written : List (List Char)}
    (each : ∀ line ∈ written, IsLine line) (rest : List Char) :
    lines (terminated written ++ rest) = written ++ lines rest := by
  have same : terminated written = ended (written.map (fun line => (line, LineEnd.short))) := by
    rw [terminated, ended, List.flatMap_map]
    rfl
  have isLine : ∀ line ∈ written.map (fun line => (line, LineEnd.short)), IsLine line.1 := by
    intro line member
    obtain ⟨given, listed, pair⟩ := List.mem_map.mp member
    rw [← pair]
    exact each given listed
  have lone : Prod.fst ∘ (fun line : List Char => (line, LineEnd.short)) = id := rfl
  rw [same, lines_ended_append isLine, List.map_map, lone, List.map_id]

theorem lines_terminated {written : List (List Char)} (each : ∀ line ∈ written, IsLine line) :
    lines (terminated written) = written := by
  have read := lines_terminated_append each []
  rw [List.append_nil] at read
  rw [read]
  exact List.append_nil written

/-- The lines that are left when lines have been joined and read again: an empty line
at the end is lost, because nothing stands behind its line feed. -/
def settled (written : List (List Char)) : List (List Char) :=
  if written.getLast? = some [] then written.dropLast else written

theorem lines_join {written : List (List Char)} (each : ∀ line ∈ written, IsLine line) :
    lines (join ['\n'] written) = settled written := by
  rcases List.eq_nil_or_concat written with none | ⟨others, last, split⟩
  · rw [none]
    rfl
  · rw [List.concat_eq_append] at split
    rw [split] at each
    obtain ⟨eachOther, eachLast⟩ := List.forall_mem_append.mp each
    have isLine := eachLast last (List.mem_singleton_self last)
    rw [split, join_concat, lines_terminated_append eachOther, settled, List.getLast?_concat]
    by_cases empty : last = []
    · rw [empty, if_pos rfl, List.dropLast_concat]
      exact List.append_nil others
    · have unclosed : Unclosed last := ⟨empty, isLine.clear⟩
      rw [if_neg (fun same => empty (Option.some.inj same)), lines, pieces_of_unclosed unclosed,
        List.map_singleton, bare_of_unclosed unclosed]

theorem mem_of_mem_settled {written : List (List Char)} {line : List Char}
    (member : line ∈ settled written) : line ∈ written := by
  unfold settled at member
  split at member
  · exact List.dropLast_subset written member
  · exact member

theorem settled_eq_self_iff {written : List (List Char)} :
    settled written = written ↔ written.getLast? ≠ some [] := by
  unfold settled
  split
  · rename_i ends
    have filled : written ≠ [] := by
      intro none
      rw [none] at ends
      cases ends
    constructor
    · intro same
      have size := congrArg List.length same
      rw [List.length_dropLast] at size
      have positive := List.length_pos_iff.mpr filled
      omega
    · exact fun different => absurd ends different
  · rename_i different
    exact ⟨fun _ => different, fun _ => rfl⟩

end Text

end Workbench
