import Workbench.Proofs.Splice.Untouched
import Workbench.Proofs.Text.Trimming
namespace Workbench

/-!
# Replacements as changes of a list of lines

A text without carriage returns that is empty or ends with a line feed is its list of lines and
nothing else: a line feed behind each of them gives the text back.  Replacing lines of such a text
by lines without carriage returns gives such a text again, whose lines are the spliced list, so a
law about replacing parts of a list is a law about texts.

The law here is that two replacements whose ranges do not meet can be made in either order.  The
later range keeps its numbers if it is replaced first.  Otherwise they are moved by as many lines
as the earlier replacement has added or taken away.
-/

namespace Splice

open Text (IsLine terminated)

/-- The text has no carriage return, and it is empty or ends with a line feed. -/
structure Regular (text : List Char) : Prop where
  returnless : '\r' ∉ text
  ended : endsLine text = true

/-! ## Regular texts and their lines -/

theorem returnless_of_mem_lines {text line : List Char} (returnless : '\r' ∉ text)
    (member : line ∈ Text.lines text) : '\r' ∉ line := by
  rcases List.mem_map.mp member with ⟨piece, cut, rfl⟩
  rcases Text.exists_bare_append piece with ⟨trail, _, whole⟩
  intro inside
  apply returnless
  rw [← Text.flatten_pieces text]
  apply List.mem_flatten_of_mem cut
  rw [← whole]
  exact List.mem_append_left trail inside

theorem isLine_of_mem_lines {text line : List Char} (returnless : '\r' ∉ text)
    (member : line ∈ Text.lines text) : IsLine line where
  clear := Text.clear_of_mem_lines member
  plain := fun ends => returnless_of_mem_lines returnless member (List.mem_of_getLast? ends)

/-- A regular text is its lines with a line feed behind each. -/
theorem terminated_lines {text : List Char} (regular : Regular text) :
    terminated (Text.lines text) = text := by
  have closed := closed_of_endsLine regular.ended
  have plain : ∀ piece ∈ Text.pieces text, ¬ Text.EndsInReturn piece := by
    apply Text.plain_of_not_infix
    exact fun inside => regular.returnless (inside.subset List.mem_cons_self)
  rw [Text.lines, Text.terminated_map_bare closed plain, Text.flatten_pieces]

/-- Regular texts with the same lines are the same. -/
theorem eq_of_regular {first second : List Char} (regularFirst : Regular first)
    (regularSecond : Regular second) (same : Text.lines first = Text.lines second) :
    first = second := by
  rw [← terminated_lines regularFirst, same, terminated_lines regularSecond]

/-- Lines without carriage returns make a regular text. -/
theorem regular_terminated {lines : List (List Char)} (each : ∀ line ∈ lines, '\r' ∉ line) :
    Regular (terminated lines) where
  returnless := by
    intro member
    rcases List.mem_flatMap.mp member with ⟨line, listed, inside⟩
    rcases List.mem_append.mp inside with own | lineFeed
    · exact each line listed own
    · exact absurd lineFeed (by decide)
  ended := by
    rcases List.eq_nil_or_concat lines with none | ⟨others, last, split⟩
    · rw [none]
      rfl
    · rw [split, List.concat_eq_append, Text.terminated_concat, endsLine, List.getLast?_concat]
      exact Bool.or_true _

/-! ## Replacing as a change of the list -/

theorem mem_of_mem_replace {Line : Type} {start stop : Nat} {new lines : List Line} {line : Line}
    (member : line ∈ replace start stop new lines) : line ∈ new ∨ line ∈ lines := by
  rcases List.mem_append.mp member with earlier | below
  · rcases List.mem_append.mp earlier with above | put
    · exact Or.inr (List.mem_of_mem_take above)
    · exact Or.inl put
  · exact Or.inr (List.mem_of_mem_drop below)

/-- What is wrong with a range: it does not start in the text or directly behind it, or it runs
backwards. -/
theorem exists_fault_iff {total start stop : Nat} :
    (∃ fault, fault? total start stop = some fault) ↔
      start = 0 ∨ total + 1 < start ∨ stop < start := by
  constructor
  · rintro ⟨fault, faulty⟩
    by_contra placed
    rw [fault?_of_bounds (by omega) (by omega)] at faulty
    cases faulty
  · intro misplaced
    rw [← Option.isSome_iff_exists, Option.isSome_iff_ne_none]
    intro fits
    have bounds := bounds_of_fault? fits
    omega

/-- The range of a replacement that fits ends before the end of the text or at it. -/
theorem replace_of_fits {Line : Type} {start stop : Nat} {lines : List Line}
    (fits : fault? lines.length start stop = none) (new : List Line) :
    replace start stop new lines =
      lines.take (start - 1) ++ new ++ lines.drop (min stop lines.length) := by
  have bounds := bounds_of_fault? fits
  rw [replace, Nat.max_eq_left (by omega)]

/-- In a text whose last line is ended, or that has none, all lines of the result are ended. -/
theorem apply_of_endsLine {text : List Char} (ended : endsLine text = true) (start stop : Nat)
    (content : List Char) :
    apply start stop content text =
      terminated (replace start stop (Text.lines content) (Text.lines text)) := by
  rw [← Text.join_append_lineFeed]
  simp only [apply, ended, Bool.and_true]

section Results

variable {text content : List Char} (regular : Regular text) (returnless : '\r' ∉ content)
  (start stop : Nat)

include regular returnless

theorem regular_apply : Regular (apply start stop content text) := by
  rw [apply_of_endsLine regular.ended]
  apply regular_terminated
  intro line member
  rcases mem_of_mem_replace member with new | old
  · exact returnless_of_mem_lines returnless new
  · exact returnless_of_mem_lines regular.returnless old

/-- The lines of the result are the spliced lines. -/
theorem lines_apply_of_regular :
    Text.lines (apply start stop content text) =
      replace start stop (Text.lines content) (Text.lines text) := by
  rw [apply_of_endsLine regular.ended]
  apply Text.lines_terminated
  intro line member
  rcases mem_of_mem_replace member with new | old
  · exact isLine_of_mem_lines returnless new
  · exact isLine_of_mem_lines regular.returnless old

end Results

/-! ## Two replacements -/

variable {Line : Type}

theorem exists_cut {lines : List Line} {count : Nat} (inside : count ≤ lines.length) :
    ∃ front back, lines = front ++ back ∧ front.length = count :=
  ⟨lines.take count, lines.drop count, (List.take_append_drop count lines).symm,
    List.length_take_of_le inside⟩

/-- A replacement leaves what stands around its range.  The range may go past the end, and then
nothing stands behind it. -/
theorem replace_between {front old back : List Line} {start stop : Nat}
    (above : start = front.length + 1)
    (below : stop = front.length + old.length ∨
      back = [] ∧ front.length + old.length ≤ stop) (new : List Line) :
    replace start stop new (front ++ (old ++ back)) = front ++ (new ++ back) := by
  subst above
  rw [replace, Nat.add_sub_cancel, List.take_left, List.append_assoc, List.length_append,
    List.length_append]
  congr 2
  rcases below with exact | ⟨none, past⟩
  · subst exact
    have stops : max (min (front.length + old.length)
        (front.length + (old.length + back.length))) front.length =
        (front ++ old).length := by
      rw [List.length_append]
      omega
    rw [stops, ← List.append_assoc, List.drop_left]
  · subst none
    apply List.drop_eq_nil_of_le
    rw [List.append_nil, List.length_append, List.length_nil]
    omega

/-- The number of a line behind a range after so many lines have taken the place of the range. -/
def renumbered (start stop count line : Nat) : Nat :=
  line + count - (stop + 1 - start)

theorem renumbered_le {start stop count line other : Nat} (ordered : line ≤ other) :
    renumbered start stop count line ≤ renumbered start stop count other := by
  unfold renumbered
  omega

/-- Lines cut up into those in and around two ranges that do not meet.  The second range may go
past the last line. -/
structure Parts (Line : Type) (start₁ stop₁ start₂ stop₂ : Nat) where
  front : List Line
  first : List Line
  middle : List Line
  second : List Line
  back : List Line
  begins₁ : start₁ = front.length + 1
  ends₁ : stop₁ = front.length + first.length
  begins₂ : start₂ = front.length + first.length + middle.length + 1
  ends₂ : stop₂ = front.length + first.length + middle.length + second.length ∨
    back = [] ∧ front.length + first.length + middle.length + second.length ≤ stop₂

namespace Parts

variable {start₁ stop₁ start₂ stop₂ : Nat}

def lines (parts : Parts Line start₁ stop₁ start₂ stop₂) : List Line :=
  parts.front ++ (parts.first ++ (parts.middle ++ (parts.second ++ parts.back)))

/-- Other lines in the first range move the second one. -/
def putFirst (parts : Parts Line start₁ stop₁ start₂ stop₂) (new : List Line) :
    Parts Line start₁ (parts.front.length + new.length)
      (renumbered start₁ stop₁ new.length start₂) (renumbered start₁ stop₁ new.length stop₂) :=
  { parts with
    first := new
    ends₁ := rfl
    begins₂ := by
      have begins₁ := parts.begins₁
      have ends₁ := parts.ends₁
      have begins₂ := parts.begins₂
      unfold renumbered
      omega
    ends₂ := by
      have begins₁ := parts.begins₁
      have ends₁ := parts.ends₁
      unfold renumbered
      rcases parts.ends₂ with exact | ⟨none, past⟩
      · exact Or.inl (by omega)
      · exact Or.inr ⟨none, by omega⟩ }

/-- Other lines in the second range leave the first one where it is. -/
def putSecond (parts : Parts Line start₁ stop₁ start₂ stop₂) (new : List Line) :
    Parts Line start₁ stop₁ start₂
      (parts.front.length + parts.first.length + parts.middle.length + new.length) :=
  { parts with
    second := new
    ends₂ := Or.inl rfl }

variable (parts : Parts Line start₁ stop₁ start₂ stop₂) (new : List Line)

theorem replace_first : replace start₁ stop₁ new parts.lines = (parts.putFirst new).lines :=
  replace_between parts.begins₁ (Or.inl parts.ends₁) new

theorem replace_second : replace start₂ stop₂ new parts.lines = (parts.putSecond new).lines := by
  have sizes : (parts.front ++ (parts.first ++ parts.middle)).length =
      parts.front.length + parts.first.length + parts.middle.length := by
    rw [List.length_append, List.length_append, Nat.add_assoc]
  have replaced := @replace_between _ (parts.front ++ (parts.first ++ parts.middle))
    parts.second parts.back start₂ stop₂ (by rw [sizes]; exact parts.begins₂)
    (by rw [sizes]; exact parts.ends₂) new
  simp only [List.append_assoc] at replaced
  exact replaced

theorem length_lines : parts.lines.length = parts.front.length + parts.first.length +
    parts.middle.length + parts.second.length + parts.back.length := by
  simp only [lines, List.length_append]
  omega

/-- The second range fits if it is not empty and in order. -/
theorem fault?_second (upward : start₂ ≤ stop₂) :
    fault? parts.lines.length start₂ stop₂ = none := by
  have size := parts.length_lines
  have begins := parts.begins₂
  exact fault?_of_bounds (by omega) upward

theorem fault?_first (upward : start₁ ≤ stop₁) :
    fault? parts.lines.length start₁ stop₁ = none := by
  have size := parts.length_lines
  have begins := parts.begins₁
  exact fault?_of_bounds (by omega) upward

end Parts

/-- Two ranges of lines, both of them in order.  The second one begins behind the first one, and
at most directly behind the last line. -/
structure Ordered (total start₁ stop₁ start₂ stop₂ : Nat) : Prop where
  positive : 1 ≤ start₁
  upward₁ : start₁ ≤ stop₁
  apart : stop₁ < start₂
  upward₂ : start₂ ≤ stop₂
  inside : start₂ ≤ total + 1

theorem exists_parts {lines : List Line} {start₁ stop₁ start₂ stop₂ : Nat}
    (ordered : Ordered lines.length start₁ stop₁ start₂ stop₂) :
    ∃ parts : Parts Line start₁ stop₁ start₂ stop₂, lines = parts.lines := by
  rcases ordered with ⟨positive, upward₁, apart, upward₂, inside⟩
  rcases exists_cut (show start₁ - 1 ≤ lines.length by omega) with ⟨front, rest₁, rfl, size₁⟩
  rw [List.length_append] at inside
  rcases exists_cut (show stop₁ - front.length ≤ rest₁.length by omega) with
    ⟨first, rest₂, rfl, size₂⟩
  rw [List.length_append] at inside
  rcases exists_cut (show start₂ - 1 - stop₁ ≤ rest₂.length by omega) with
    ⟨middle, rest₃, rfl, size₃⟩
  rw [List.length_append] at inside
  by_cases within : stop₂ ≤ front.length + first.length + middle.length + rest₃.length
  · rcases exists_cut (show stop₂ + 1 - start₂ ≤ rest₃.length by omega) with
      ⟨second, back, rfl, size₄⟩
    exact ⟨⟨front, first, middle, second, back, by omega, by omega, by omega,
      Or.inl (by omega)⟩, rfl⟩
  · exact ⟨⟨front, first, middle, rest₃, [], by omega, by omega, by omega,
      Or.inr ⟨rfl, by omega⟩⟩, by rw [Parts.lines, List.append_nil]⟩

/-- Replacing the second range and then the first comes to the same as replacing the first and
then the second where it has moved to. -/
theorem replace_replace {lines : List Line} {start₁ stop₁ start₂ stop₂ : Nat}
    (ordered : Ordered lines.length start₁ stop₁ start₂ stop₂) (new₁ new₂ : List Line) :
    replace start₁ stop₁ new₁ (replace start₂ stop₂ new₂ lines) =
      replace (renumbered start₁ stop₁ new₁.length start₂)
        (renumbered start₁ stop₁ new₁.length stop₂) new₂ (replace start₁ stop₁ new₁ lines) := by
  rcases exists_parts ordered with ⟨parts, rfl⟩
  rw [parts.replace_second, parts.replace_first, (parts.putSecond new₂).replace_first,
    (parts.putFirst new₁).replace_second]
  rfl

/-- In both orders each range fits the lines that are there when its turn comes. -/
theorem fits_in_turn {lines : List Line} {start₁ stop₁ start₂ stop₂ : Nat}
    (ordered : Ordered lines.length start₁ stop₁ start₂ stop₂) (new₁ new₂ : List Line) :
    fault? lines.length start₁ stop₁ = none ∧ fault? lines.length start₂ stop₂ = none ∧
      fault? (replace start₂ stop₂ new₂ lines).length start₁ stop₁ = none ∧
      fault? (replace start₁ stop₁ new₁ lines).length (renumbered start₁ stop₁ new₁.length start₂)
        (renumbered start₁ stop₁ new₁.length stop₂) = none := by
  have upward₁ := ordered.upward₁
  have upward₂ := ordered.upward₂
  rcases exists_parts ordered with ⟨parts, rfl⟩
  rw [parts.replace_second, parts.replace_first]
  exact ⟨parts.fault?_first upward₁, parts.fault?_second upward₂,
    (parts.putSecond new₂).fault?_first upward₁,
    (parts.putFirst new₁).fault?_second (renumbered_le upward₂)⟩

/-- For regular texts the law about the lines is one about the texts. -/
theorem apply_apply {text content₁ content₂ : List Char} (regular : Regular text)
    (returnless₁ : '\r' ∉ content₁) (returnless₂ : '\r' ∉ content₂)
    {start₁ stop₁ start₂ stop₂ : Nat}
    (ordered : Ordered (Text.lines text).length start₁ stop₁ start₂ stop₂) :
    apply start₁ stop₁ content₁ (apply start₂ stop₂ content₂ text) =
      apply (renumbered start₁ stop₁ (Text.lines content₁).length start₂)
        (renumbered start₁ stop₁ (Text.lines content₁).length stop₂) content₂
        (apply start₁ stop₁ content₁ text) := by
  have regular₁ := regular_apply regular returnless₁ start₁ stop₁
  have regular₂ := regular_apply regular returnless₂ start₂ stop₂
  apply eq_of_regular (regular_apply regular₂ returnless₁ _ _)
    (regular_apply regular₁ returnless₂ _ _)
  rw [lines_apply_of_regular regular₂ returnless₁, lines_apply_of_regular regular₁ returnless₂,
    lines_apply_of_regular regular returnless₁, lines_apply_of_regular regular returnless₂,
    replace_replace ordered]

end Splice

end Workbench
