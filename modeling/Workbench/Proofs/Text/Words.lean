import Workbench.Proofs.Text.Pieces
import Workbench.Text.Blank
import Mathlib.Data.List.TakeWhile
namespace Workbench

/-!
# First words and outer blanks

Trimming takes nothing from a text that begins and ends with a solid character, one
that is not blank.  The first word of a text is the run of solid characters at its
start, and since line ends are blank, the first line of the text has the same one.
-/

namespace Text

/-! ## Outer blanks -/

theorem trimEnd_concat (front : List Char) {last : Char} (solid : isBlank last = false) :
    trimEnd (front ++ [last]) = front ++ [last] := by
  induction front with
  | nil => simp [trimEnd, solid]
  | cons first rest inductionHypothesis =>
      rw [List.cons_append, trimEnd, inductionHypothesis]
      cases rest <;> rfl

theorem trim_of_solid {text : List Char} {first last : Char} (begins : text.head? = some first)
    (solidFirst : isBlank first = false) (ends : text.getLast? = some last)
    (solidLast : isBlank last = false) : trim text = text := by
  rcases List.head?_eq_some_iff.mp begins with ⟨rest, startShape⟩
  rcases List.getLast?_eq_some_iff.mp ends with ⟨front, endShape⟩
  have kept : trimStart text = text := by
    rw [startShape, trimStart, List.dropWhile_cons_of_neg (by simp [solidFirst])]
  rw [trim, kept, endShape, trimEnd_concat front solidLast]

theorem lineFeed_not_mem_of_solid {word : List Char}
    (solid : ∀ character ∈ word, isBlank character = false) : '\n' ∉ word := by
  intro member
  exact absurd (solid '\n' member) (by decide)

theorem exists_last_of_solid {word : List Char} (filled : word ≠ [])
    (solid : ∀ character ∈ word, isBlank character = false) :
    ∃ last, word.getLast? = some last ∧ isBlank last = false := by
  refine ⟨word.getLast filled, List.getLast?_eq_some_getLast filled, ?_⟩
  exact solid (word.getLast filled) (List.getLast_mem filled)

/-- A text that begins with a word and ends solid loses nothing. -/
theorem trim_of_solid_word {word rest : List Char} (filled : word ≠ [])
    (solid : ∀ character ∈ word, isBlank character = false)
    (ends : ∃ last, (word ++ rest).getLast? = some last ∧ isBlank last = false) :
    trim (word ++ rest) = word ++ rest := by
  rcases ends with ⟨last, ends, solidLast⟩
  rcases List.exists_cons_of_ne_nil filled with ⟨first, others, shape⟩
  have begins : (word ++ rest).head? = some first := by
    rw [shape]
    rfl
  have solidFirst := solid first (by rw [shape]; exact List.mem_cons_self)
  exact trim_of_solid begins solidFirst ends solidLast

/-! ## First words -/

/-- The solid characters at the start of a text. -/
def leading (text : List Char) : List Char :=
  text.takeWhile (fun character => !isBlank character)

theorem leading_append_blank (text : List Char) {blank : Char} (wide : isBlank blank = true)
    (rest : List Char) : leading (text ++ blank :: rest) = leading text := by
  induction text with
  | nil => simp [leading, wide]
  | cons first others inductionHypothesis =>
      cases solid : isBlank first with
      | true => simp [leading, solid]
      | false =>
          simp only [leading] at inductionHypothesis
          simp [leading, solid, inductionHypothesis]

theorem leading_of_solid {text : List Char}
    (solid : ∀ character ∈ text, isBlank character = false) : leading text = text := by
  apply List.takeWhile_eq_self_iff.mpr
  intro character member
  rw [solid character member]
  rfl

/-- What follows a word is nothing, or it begins with a blank. -/
def Apart (rest : List Char) : Prop :=
  ∀ character, rest.head? = some character → isBlank character = true

theorem apart_of_gap {gap : List Char} (filled : gap ≠ [])
    (wide : ∀ character ∈ gap, isBlank character = true) (rest : List Char) :
    Apart (gap ++ rest) := by
  intro character begins
  rcases List.exists_cons_of_ne_nil filled with ⟨first, others, shape⟩
  rw [shape] at begins
  rw [← Option.some.inj begins]
  exact wide first (by rw [shape]; exact List.mem_cons_self)

theorem leading_append {word rest : List Char}
    (solid : ∀ character ∈ word, isBlank character = false) (apart : Apart rest) :
    leading (word ++ rest) = word := by
  cases rest with
  | nil => rw [List.append_nil, leading_of_solid solid]
  | cons first others =>
      rw [leading_append_blank word (apart first rfl), leading_of_solid solid]

theorem firstWord?_of_leading {text word : List Char} (leads : leading text = word)
    (filled : word ≠ []) : firstWord? text = some word := by
  cases text with
  | nil => exact absurd leads.symm filled
  | cons first rest =>
      cases solid : isBlank first with
      | true =>
          exfalso
          apply filled
          rw [← leads, leading, List.takeWhile_cons_of_neg (by simp [solid])]
      | false =>
          rw [firstWord?, trimStart, List.dropWhile_cons_of_neg (by simp [solid])]
          rw [leading] at leads
          rw [leads]
          cases word with
          | nil => exact absurd rfl filled
          | cons head tail => rfl

/-! ## First lines -/

/-- The line end that a closed piece loses is blank. -/
theorem leading_bare {piece : List Char} (closed : Closed piece) :
    leading (bare piece) = leading piece := by
  rcases bare_of_closed closed with ⟨line, seen, _, ⟨_, whole⟩ | ⟨_, whole⟩⟩
  · rw [seen, whole, leading_append_blank line (by decide)]
  · rw [seen, whole, leading_append_blank line (by decide)]

/-- The first piece of a text is closed, or it is the whole text. -/
theorem first_piece_cases {text piece : List Char} {others : List (List Char)}
    (cut : pieces text = piece :: others) : Closed piece ∨ (Unclosed piece ∧ others = []) := by
  rcases closed_pieces text with closed | ⟨front, last, split, closed, unclosed⟩
  · rw [cut] at closed
    exact Or.inl (closed piece List.mem_cons_self)
  · rw [cut] at split
    cases front with
    | nil =>
        rcases List.cons.inj split with ⟨same, none⟩
        exact Or.inr ⟨same ▸ unclosed, none⟩
    | cons head tail =>
        rcases List.cons.inj split with ⟨same, _⟩
        exact Or.inl (same ▸ closed head List.mem_cons_self)

/-- The first line of a text begins with the same solid characters as the text. -/
theorem leading_of_lines {text first : List Char} {others : List (List Char)}
    (written : lines text = first :: others) : leading first = leading text := by
  rcases List.map_eq_cons_iff.mp written with ⟨piece, rest, cut, seen, _⟩
  have whole : text = piece ++ rest.flatten := by
    rw [← flatten_pieces text, cut, List.flatten_cons]
  rcases first_piece_cases cut with closed | ⟨unclosed, none⟩
  · rcases closed with ⟨body, shape, clear⟩
    rw [← seen, leading_bare ⟨body, shape, clear⟩, whole, shape, List.append_assoc,
      List.singleton_append, leading_append_blank body (by decide),
      leading_append_blank body (by decide)]
  · rw [← seen, bare_of_unclosed unclosed, whole, none, List.flatten_nil, List.append_nil]

/-- A word at the start of a text is the first word of its first line. -/
theorem firstWord?_of_lines {word rest first : List Char} {others : List (List Char)}
    (filled : word ≠ []) (solid : ∀ character ∈ word, isBlank character = false)
    (apart : Apart rest) (written : lines (word ++ rest) = first :: others) :
    firstWord? first = some word := by
  apply firstWord?_of_leading _ filled
  rw [leading_of_lines written, leading_append solid apart]

end Text

end Workbench
