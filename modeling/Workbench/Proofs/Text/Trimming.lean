import Workbench.Proofs.Text.Words
import Mathlib.Data.List.DropRight
namespace Workbench

/-!
# Trimming and lines

A text is blanks, its core, and blanks again.  The core begins and ends with solid
characters, and it is what trimming leaves.  So blanks at the ends of a text never
show in what is trimmed from it, and a text that grows behind a line feed keeps its
core: either nothing solid comes, or the core goes on behind some blanks and a line
feed.  Of the lines of the core only the last one can change then, and it changes by
blanks at its end alone.
-/

namespace Text

/-- A text of blanks. -/
def Wide (text : List Char) : Prop :=
  ∀ character ∈ text, isBlank character = true

instance (text : List Char) : Decidable (Wide text) :=
  List.decidableBAll _ text

theorem Wide.append {front back : List Char} (wideFront : Wide front) (wideBack : Wide back) :
    Wide (front ++ back) :=
  List.forall_mem_append.mpr ⟨wideFront, wideBack⟩

/-- The text begins and ends with a solid character. -/
structure IsCore (text : List Char) : Prop where
  begins : ∃ first, text.head? = some first ∧ isBlank first = false
  ends : ∃ last, text.getLast? = some last ∧ isBlank last = false

/-! ## The core of a text -/

theorem IsCore.ne_nil {text : List Char} (core : IsCore text) : text ≠ [] := by
  intro empty
  rcases core.begins with ⟨first, begins, _⟩
  rw [empty] at begins
  cases begins

theorem IsCore.trim {text : List Char} (core : IsCore text) : trim text = text := by
  rcases core.begins with ⟨first, begins, solidFirst⟩
  rcases core.ends with ⟨last, ends, solidLast⟩
  exact trim_of_solid begins solidFirst ends solidLast

/-- A word begins and ends with solid characters. -/
theorem isCore_of_solid {word : List Char} (filled : word ≠ [])
    (solid : ∀ character ∈ word, isBlank character = false) : IsCore word where
  begins := by
    rcases List.exists_cons_of_ne_nil filled with ⟨first, rest, shape⟩
    exact ⟨first, by rw [shape]; rfl, solid first (by rw [shape]; exact List.mem_cons_self)⟩
  ends := exists_last_of_solid filled solid

/-- What stands between the ends of two cores belongs to a larger core. -/
theorem IsCore.append {front back : List Char} (frontCore : IsCore front) (backCore : IsCore back)
    (middle : List Char) : IsCore (front ++ (middle ++ back)) where
  begins := by
    rcases frontCore.begins with ⟨first, begins, solid⟩
    exact ⟨first, by rw [List.head?_append, begins]; rfl, solid⟩
  ends := by
    rcases backCore.ends with ⟨last, ends, solid⟩
    exact ⟨last, by rw [← List.append_assoc, List.getLast?_append, ends]; rfl, solid⟩

theorem trimEnd_eq_rdropWhile (text : List Char) : trimEnd text = text.rdropWhile isBlank := by
  induction text with
  | nil => rfl
  | cons first rest inductionHypothesis =>
      rw [trimEnd, inductionHypothesis]
      cases kept : rest.rdropWhile isBlank with
      | nil =>
          have wide := List.rdropWhile_eq_nil_iff.mp kept
          have gone : (first :: rest).rdropWhile isBlank = [first].rdropWhile isBlank := by
            simp only [List.rdropWhile, List.reverse_cons, List.reverse_nil, List.nil_append]
            rw [List.dropWhile_append_of_pos]
            intro character member
            exact wide character (List.mem_reverse.mp member)
          rw [gone, List.rdropWhile_singleton]
      | cons head tail =>
          have shape : rest.reverse.dropWhile isBlank = (head :: tail).reverse := by
            rw [← kept, List.rdropWhile, List.reverse_reverse]
          simp only [List.rdropWhile, List.reverse_cons, List.dropWhile_append, shape]
          simp

theorem trim_wide_append {lead : List Char} (wide : Wide lead) (text : List Char) :
    trim (lead ++ text) = trim text := by
  rw [trim, trim, trimStart, List.dropWhile_append_of_pos wide, trimStart]

theorem trimEnd_append_wide (text : List Char) {trail : List Char} (wide : Wide trail) :
    trimEnd (text ++ trail) = trimEnd text := by
  rw [trimEnd_eq_rdropWhile, trimEnd_eq_rdropWhile, List.rdropWhile, List.reverse_append,
    List.dropWhile_append_of_pos, List.rdropWhile]
  intro character member
  exact wide character (List.mem_reverse.mp member)

theorem trim_append_wide (text : List Char) {trail : List Char} (wide : Wide trail) :
    trim (text ++ trail) = trim text := by
  rw [trim, trimStart, List.dropWhile_append]
  split
  · rename_i gone
    have blank : text.dropWhile isBlank = [] := List.isEmpty_iff.mp gone
    have none := trimEnd_append_wide [] wide
    rw [List.nil_append] at none
    rw [List.dropWhile_eq_nil_iff.mpr wide, trim, trimStart, blank]
  · exact trimEnd_append_wide _ wide

/-- A text is its core with blanks around it. -/
theorem exists_frame (text : List Char) :
    ∃ lead trail, Wide lead ∧ Wide trail ∧ text = lead ++ (trim text ++ trail) := by
  refine ⟨text.takeWhile isBlank, (trimStart text).rtakeWhile isBlank, ?_, ?_, ?_⟩
  · intro character member
    exact List.mem_takeWhile_imp member
  · intro character member
    exact List.mem_rtakeWhile_imp member
  · rw [trim, trimEnd_eq_rdropWhile, List.rdropWhile_append_rtakeWhile, trimStart,
      List.takeWhile_append_dropWhile]

theorem mem_of_mem_trim {text : List Char} {character : Char} (member : character ∈ trim text) :
    character ∈ text := by
  rcases exists_frame text with ⟨lead, trail, _, _, whole⟩
  rw [whole]
  exact List.mem_append_right lead (List.mem_append_left trail member)

theorem isCore_trim {text : List Char} (filled : trim text ≠ []) : IsCore (trim text) where
  begins := by
    rcases List.exists_cons_of_ne_nil filled with ⟨first, rest, shape⟩
    refine ⟨first, by rw [shape]; rfl, ?_⟩
    have front : trim text <+: trimStart text := by
      rw [trim, trimEnd_eq_rdropWhile]
      exact List.rdropWhile_prefix isBlank (trimStart text)
    rcases front with ⟨trail, whole⟩
    rw [shape, List.cons_append] at whole
    have stopped := List.head?_dropWhile_not isBlank text
    rw [← trimStart, ← whole] at stopped
    exact Bool.eq_false_iff.mpr (by simpa using stopped)
  ends := by
    rw [trim, trimEnd_eq_rdropWhile] at filled ⊢
    refine ⟨_, List.getLast?_eq_some_getLast filled, ?_⟩
    exact Bool.eq_false_iff.mpr (List.rdropWhile_last_not isBlank (trimStart text) filled)

/-- Trimming leaves the core, whatever blanks are around it. -/
theorem trim_frame {lead core trail : List Char} (wideLead : Wide lead) (isCore : IsCore core)
    (wideTrail : Wide trail) : trim (lead ++ (core ++ trail)) = core := by
  rw [trim_wide_append wideLead, trim_append_wide core wideTrail, isCore.trim]

/-- What is blank behind a line feed is trimmed with it. -/
theorem trim_append_lineFeed_blank (text : List Char) {more : List Char} (quiet : trim more = []) :
    trim (text ++ '\n' :: more) = trim text := by
  rcases exists_frame more with ⟨lead, trail, wideLead, wideTrail, whole⟩
  rw [quiet, List.nil_append] at whole
  apply trim_append_wide
  rw [whole]
  exact List.forall_mem_cons.mpr ⟨by decide, wideLead.append wideTrail⟩

/-- A solid text behind a line feed goes on with the core, with blanks in between. -/
theorem exists_trim_append_lineFeed {text more : List Char} (filled : trim text ≠ [])
    (solid : trim more ≠ []) :
    ∃ gap lead, Wide gap ∧ '\n' ∉ gap ∧ Wide lead ∧
      trim (text ++ '\n' :: more) = trim text ++ (gap ++ '\n' :: (lead ++ trim more)) := by
  rcases exists_frame text with ⟨lead, trail, wideLead, wideTrail, whole⟩
  rcases exists_frame more with ⟨between, rest, wideBetween, wideRest, wholeMore⟩
  -- the first line feed behind the core may stand among the blanks of the text itself
  have among : '\n' ∈ trail ++ ['\n'] := List.mem_append_right trail List.mem_cons_self
  rcases List.eq_append_cons_of_mem among with ⟨gap, back, split, clear⟩
  have blank : Wide (gap ++ '\n' :: back) := by
    rw [← split]
    exact wideTrail.append (List.forall_mem_singleton.mpr (by decide))
  rcases List.forall_mem_append.mp blank with ⟨wideGap, wideLater⟩
  have wideBack : Wide back := (List.forall_mem_cons.mp wideLater).2
  refine ⟨gap, back ++ between, wideGap, clear, wideBack.append wideBetween, ?_⟩
  have shape : text ++ '\n' :: more =
      lead ++ ((trim text ++ ((trail ++ ['\n'] ++ between) ++ trim more)) ++ rest) := by
    conv => lhs; rw [whole, wholeMore]
    simp
  have core := (isCore_trim filled).append (isCore_trim solid) (trail ++ ['\n'] ++ between)
  rw [shape, trim_frame wideLead core wideRest, split]
  simp

/-! ## The lines of the core -/

/-- A piece is its line with blanks behind it, since line ends are blank. -/
theorem exists_bare_append (piece : List Char) :
    ∃ trail, Wide trail ∧ bare piece ++ trail = piece := by
  rw [bare]
  split
  · rename_i ends
    rcases List.getLast?_eq_some_iff.mp ends with ⟨line, shape⟩
    rw [shape, List.dropLast_concat, dropReturn]
    split
    · rename_i returns
      rcases List.getLast?_eq_some_iff.mp returns with ⟨front, whole⟩
      refine ⟨['\r', '\n'], by decide, ?_⟩
      rw [whole, List.dropLast_concat, List.append_cons]
    · exact ⟨['\n'], by decide, rfl⟩
  · exact ⟨[], by decide, List.append_nil piece⟩

theorem trimEnd_bare (piece : List Char) : trimEnd (bare piece) = trimEnd piece := by
  rcases exists_bare_append piece with ⟨trail, wide, whole⟩
  rw [← trimEnd_append_wide (bare piece) wide, whole]

/-- A line and its piece have the same core. -/
theorem trim_bare (piece : List Char) : trim (bare piece) = trim piece := by
  rcases exists_bare_append piece with ⟨trail, wide, whole⟩
  rw [← trim_append_wide (bare piece) wide, whole]

/-- Dropping a carriage return touches what is behind a word, not the word. -/
theorem dropReturn_append {front : List Char} (core : IsCore front) (rest : List Char) :
    dropReturn (front ++ rest) = front ++ dropReturn rest := by
  cases rest with
  | nil =>
      rcases core.ends with ⟨last, ends, solid⟩
      rw [List.append_nil, dropReturn, if_neg]
      · rw [dropReturn, if_neg (by decide), List.append_nil]
      · intro returns
        rw [ends] at returns
        rw [Option.some.inj returns] at solid
        exact absurd solid (by decide)
  | cons first others =>
      have ends : (front ++ first :: others).getLast? = (first :: others).getLast? := by
        rw [List.getLast?_append_of_ne_nil _ (List.cons_ne_nil first others)]
      rw [dropReturn, dropReturn, ends]
      split
      · rw [List.dropLast_append_of_ne_nil (List.cons_ne_nil first others)]
      · rfl

/-- The last piece of a core is not closed. -/
theorem IsCore.unended {text : List Char} (core : IsCore text) :
    ∃ others last, Unended text others last := by
  apply exists_unclosed_of_getLast? core.ne_nil
  intro lineFeed
  rcases core.ends with ⟨last, ends, solid⟩
  rw [ends] at lineFeed
  rw [Option.some.inj lineFeed] at solid
  exact absurd solid (by decide)

theorem lines_of_unended {text last : List Char} {others : List (List Char)}
    (unended : Unended text others last) : lines text = others.map bare ++ [last] := by
  rw [lines, unended.cut, List.map_append, List.map_singleton, bare_of_unclosed unended.unclosed]

/-- A core of one line is that line. -/
theorem eq_of_lines_singleton {text first : List Char} (core : IsCore text)
    (single : lines text = [first]) : first = text := by
  rcases core.unended with ⟨others, last, unended⟩
  rw [lines_of_unended unended] at single
  cases others with
  | nil =>
      have same : last = first := List.singleton_inj.mp single
      rw [← flatten_pieces text, unended.cut, ← same, List.nil_append, List.flatten_singleton]
  | cons head tail => simp at single

/-- When a core goes on behind blanks and a line feed, its lines stay, but for blanks that
the last of them may gain. -/
theorem exists_lines_append_gap {text gap : List Char} (core : IsCore text) (wide : Wide gap)
    (clear : '\n' ∉ gap) (later : List Char) :
    ∃ front last seam, lines text = front ++ [last] ∧
      lines (text ++ (gap ++ '\n' :: later)) = front ++ seam :: lines later ∧
      trim seam = trim last := by
  rcases core.unended with ⟨others, last, unended⟩
  refine ⟨others.map bare, last, bare (last ++ gap ++ ['\n']), lines_of_unended unended, ?_, ?_⟩
  · have whole : text = others.flatten ++ last := by
      rw [← flatten_pieces text, unended.cut, List.flatten_concat]
    have clearLast : '\n' ∉ last ++ gap := by
      rw [List.mem_append, not_or]
      exact ⟨unended.unclosed.2, clear⟩
    conv => lhs; rw [whole]
    rw [List.append_assoc, ← List.append_assoc last gap, lines,
      pieces_flatten_append unended.closed, pieces_append_lineFeed clearLast, List.map_append,
      List.map_cons, lines]
  · rw [trim_bare, List.append_assoc]
    exact trim_append_wide last (wide.append (List.forall_mem_singleton.mpr (by decide)))

/-- When a text grows behind a line feed, the lines of its core stay, but for blanks that
the last of them may gain. -/
theorem lines_trim_append_lineFeed {text : List Char} (filled : trim text ≠ [])
    (more : List Char) :
    ∃ front last seam later, lines (trim text) = front ++ [last] ∧
      lines (trim (text ++ '\n' :: more)) = front ++ seam :: later ∧ trim seam = trim last := by
  have core := isCore_trim filled
  by_cases quiet : trim more = []
  · rcases core.unended with ⟨others, last, unended⟩
    have before := lines_of_unended unended
    exact ⟨others.map bare, last, last, [], before,
      by rw [trim_append_lineFeed_blank text quiet, before], rfl⟩
  · rcases exists_trim_append_lineFeed filled quiet with ⟨gap, lead, wide, clear, _, grown⟩
    rcases exists_lines_append_gap core wide clear (lead ++ trim more) with
      ⟨front, last, seam, before, after, sameCore⟩
    exact ⟨front, last, seam, _, before, by rw [grown, after], sameCore⟩

/-! ## Trimmed lines -/

/-- The lines of the core of a text, each without the blanks around it. -/
def trimmedLines (text : List Char) : List (List Char) :=
  (lines (trim text)).map trim

/-- No trimmed line holds a line feed. -/
theorem clear_of_mem_trimmedLines {text line : List Char} (member : line ∈ trimmedLines text) :
    '\n' ∉ line := by
  rcases List.mem_map.mp member with ⟨written, listed, same⟩
  rw [← same]
  exact mt mem_of_mem_trim (clear_of_mem_lines listed)

/-- A text without line feeds has one trimmed line at most. -/
theorem tail_trimmedLines_of_clear {text : List Char} (clear : '\n' ∉ text) :
    (trimmedLines text).tail = [] := by
  by_cases filled : trim text = []
  · rw [trimmedLines, filled]
    rfl
  · have unclosed : Unclosed (trim text) := ⟨filled, mt mem_of_mem_trim clear⟩
    rw [trimmedLines, lines, pieces_of_unclosed unclosed]
    rfl

/-- Blanks in front of a word make blank lines, and the line of the word. -/
theorem map_trim_lines_wide_append {lead word : List Char} (wide : Wide lead) (filled : word ≠ [])
    (clear : '\n' ∉ word) :
    ∃ count, (lines (lead ++ word)).map trim = List.replicate count [] ++ [trim word] := by
  have blank : ∀ cut : List (List Char), Wide cut.flatten →
      (cut.map bare).map trim = List.replicate cut.length [] := by
    intro cut wideCut
    rw [List.map_map, List.eq_replicate_iff]
    refine ⟨List.length_map _, ?_⟩
    intro line member
    rcases List.mem_map.mp member with ⟨piece, listed, same⟩
    have widePiece : Wide piece :=
      fun character inside => wideCut character (List.mem_flatten_of_mem listed inside)
    rw [← same, Function.comp_apply, trim_bare]
    exact trim_append_wide [] widePiece
  rcases closed_pieces lead with closed | ⟨others, last, cut, closed, unclosed⟩
  · refine ⟨(pieces lead).length, ?_⟩
    have unclosed : Unclosed word := ⟨filled, clear⟩
    conv => lhs; rw [← flatten_pieces lead]
    rw [lines, pieces_flatten_append closed, pieces_of_unclosed unclosed, List.map_append,
      List.map_append, List.map_singleton, List.map_singleton, bare_of_unclosed unclosed,
      blank _ (by rw [flatten_pieces]; exact wide)]
  · refine ⟨others.length, ?_⟩
    have whole : lead = others.flatten ++ last := by
      rw [← flatten_pieces lead, cut, List.flatten_concat]
    rw [whole] at wide
    rcases List.forall_mem_append.mp wide with ⟨wideOthers, wideLast⟩
    have long : Unclosed (last ++ word) := by
      refine ⟨List.append_ne_nil_of_right_ne_nil last filled, ?_⟩
      rw [List.mem_append, not_or]
      exact ⟨unclosed.2, clear⟩
    rw [whole, List.append_assoc, lines, pieces_flatten_append closed, pieces_of_unclosed long,
      List.map_append, List.map_append, List.map_singleton, List.map_singleton,
      bare_of_unclosed long, trim_wide_append wideLast, blank others wideOthers]

/-- A text that grows by a blank line keeps its trimmed lines. -/
theorem trimmedLines_append_blank (text : List Char) {line : List Char} (quiet : trim line = []) :
    trimmedLines (text ++ '\n' :: line) = trimmedLines text := by
  rw [trimmedLines, trim_append_lineFeed_blank text quiet, trimmedLines]

/-- A text that grows by a line that is not blank gains it behind its trimmed lines, and
the blank lines in front of it. -/
theorem exists_trimmedLines_append {text line : List Char} (filled : trim text ≠ [])
    (clear : '\n' ∉ line) (solid : trim line ≠ []) :
    ∃ count, trimmedLines (text ++ '\n' :: line) =
      trimmedLines text ++ (List.replicate count [] ++ [trim line]) := by
  rcases exists_trim_append_lineFeed filled solid with ⟨gap, lead, wide, gapClear, wideLead, grown⟩
  rcases exists_lines_append_gap (isCore_trim filled) wide gapClear (lead ++ trim line) with
    ⟨front, last, seam, before, after, sameCore⟩
  rcases map_trim_lines_wide_append wideLead solid (mt mem_of_mem_trim clear) with
    ⟨count, written⟩
  refine ⟨count, ?_⟩
  rw [trimmedLines, trimmedLines, grown, after, before, List.map_append, List.map_cons, written,
    (isCore_trim solid).trim, List.map_append, List.map_singleton, sameCore, List.append_assoc,
    List.singleton_append]

/-! ## The first word -/

theorem firstWord?_wide_append {lead : List Char} (wide : Wide lead) (text : List Char) :
    firstWord? (lead ++ text) = firstWord? text := by
  rw [firstWord?, firstWord?, trimStart, List.dropWhile_append_of_pos wide, trimStart]

theorem firstWord?_of_wide {text : List Char} (wide : Wide text) : firstWord? text = none := by
  rw [firstWord?, trimStart, List.dropWhile_eq_nil_iff.mpr wide]
  rfl

theorem IsCore.leading_ne_nil {text : List Char} (core : IsCore text) : leading text ≠ [] := by
  rcases core.begins with ⟨first, begins, solid⟩
  rcases List.head?_eq_some_iff.mp begins with ⟨rest, shape⟩
  rw [shape, leading, List.takeWhile_cons_of_pos (by simp [solid])]
  exact List.cons_ne_nil _ _

/-- Blanks behind a text are not part of the word that it begins with. -/
theorem leading_append_wide (text : List Char) {trail : List Char} (wide : Wide trail) :
    leading (text ++ trail) = leading text := by
  cases trail with
  | nil => rw [List.append_nil]
  | cons blank rest => exact leading_append_blank text (wide blank List.mem_cons_self) rest

/-- A text that is not blank keeps its first word when it goes on behind a blank. -/
theorem firstWord?_append_blank {text : List Char} (filled : trim text ≠ []) {blank : Char}
    (wide : isBlank blank = true) (rest : List Char) :
    firstWord? (text ++ blank :: rest) = firstWord? text := by
  have leads := (isCore_trim filled).leading_ne_nil
  rcases exists_frame text with ⟨lead, trail, wideLead, wideTrail, whole⟩
  have begins := leading_append_wide (trim text) wideTrail
  have further : leading (trim text ++ trail ++ blank :: rest) = leading (trim text) := by
    rw [leading_append_blank _ wide, begins]
  conv => lhs; rw [whole]
  conv => rhs; rw [whole]
  rw [List.append_assoc, firstWord?_wide_append wideLead, firstWord?_wide_append wideLead,
    firstWord?_of_leading further leads, firstWord?_of_leading begins leads]

/-- The first line of a core has the first word of the whole text. -/
theorem firstWord?_of_lines_trim {text first : List Char} {others : List (List Char)}
    (written : lines (trim text) = first :: others) : firstWord? first = firstWord? text := by
  have filled := ne_nil_of_lines written
  have leads := (isCore_trim filled).leading_ne_nil
  rcases exists_frame text with ⟨lead, trail, wideLead, wideTrail, whole⟩
  have begins := leading_append_wide (trim text) wideTrail
  rw [firstWord?_of_leading (leading_of_lines written) leads]
  conv => rhs; rw [whole, firstWord?_wide_append wideLead, firstWord?_of_leading begins leads]

end Text

end Workbench
