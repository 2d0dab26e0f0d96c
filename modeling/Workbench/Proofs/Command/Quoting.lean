import Workbench.Proofs.Command.Scanning
namespace Workbench

/-!
# Texts as the tokens of a line

A token is cut out of a line in one of two ways.  Outside of quotes it ends at a quote mark of
either kind, so it holds none.  Between quotes it ends at the mark that began it, or with the line,
so it lacks this mark and may hold the other one.  In both cases there is a mark that the token
lacks, and this is all that can be said of tokens: texts of this kind, as many as one likes, are the
tokens of the line in which each of them is enclosed in a mark that it lacks.  Blanks may stand
between the enclosed texts and need not, because a closing mark ends a token by itself.
-/

namespace Token

/-- There is a quote mark that the text lacks. -/
def Quotable (text : List Char) : Prop :=
  '"' ∉ text ∨ '\'' ∉ text

instance (text : List Char) : Decidable (Quotable text) :=
  inferInstanceAs (Decidable (_ ∨ _))

theorem isMark_iff {character : Char} :
    isMark character = true ↔ character = '"' ∨ character = '\'' := by
  rw [isMark, Bool.or_eq_true, beq_iff_eq, beq_iff_eq]

theorem quotable_iff {text : List Char} :
    Quotable text ↔ ∃ mark, isMark mark = true ∧ mark ∉ text := by
  constructor
  · intro quotable
    rcases quotable with lacks | lacks
    · exact ⟨'"', rfl, lacks⟩
    · exact ⟨'\'', rfl, lacks⟩
  · rintro ⟨mark, quotes, lacks⟩
    rcases isMark_iff.mp quotes with same | same
    · exact Or.inl (same ▸ lacks)
    · exact Or.inr (same ▸ lacks)

/-! ## What a token can be -/

/-- What the scan may hold where it stands: outside of quotes no mark at all, and within a quoted
span none that would have closed it. -/
inductive Holdable : Quoting → List Char → Prop where
  | outside {held : List Char} (unmarked : ∀ character ∈ held, isMark character = false) :
      Holdable .outside held
  | inside {held : List Char} {mark : Char} (quotes : isMark mark = true) (lacks : mark ∉ held) :
      Holdable (.inside mark) held

theorem holdable_nil : Holdable .outside [] :=
  .outside (List.forall_mem_nil _)

/-- What is held becomes a token that lacks a mark, whether a blank, a mark or the end of the line
ends it. -/
theorem quotable_reverse {quoting : Quoting} {held : List Char} (holdable : Holdable quoting held) :
    Quotable held.reverse := by
  cases holdable with
  | outside unmarked =>
      apply Or.inl
      intro member
      exact absurd (unmarked _ (List.mem_reverse.mp member)) (by decide)
  | inside quotes lacks =>
      exact quotable_iff.mpr ⟨_, quotes, fun member => lacks (List.mem_reverse.mp member)⟩

theorem quotable_of_mem_flush {held token : List Char} (holdable : Holdable .outside held)
    (member : token ∈ flush held) : Quotable token := by
  cases held with
  | nil => cases member
  | cons first others =>
      rw [List.mem_singleton.mp member]
      exact quotable_reverse holdable

/-- From one character to the next the scan goes from one thing that it may hold to another. -/
theorem quotable_of_mem_scanFrom {quoting : Quoting} {held rest token : List Char}
    (holdable : Holdable quoting held) (member : token ∈ scanFrom quoting held rest) :
    Quotable token := by
  induction rest generalizing quoting held with
  | nil =>
      cases holdable with
      | outside unmarked => exact quotable_of_mem_flush (.outside unmarked) member
      | inside quotes lacks =>
          rw [List.mem_singleton.mp member]
          exact quotable_reverse (.inside quotes lacks)
  | cons first others inductionHypothesis =>
      cases holdable with
      | outside unmarked =>
          rw [scanFrom] at member
          split at member
          · rename_i quotes
            rcases List.mem_append.mp member with ended | later
            · exact quotable_of_mem_flush (.outside unmarked) ended
            · exact inductionHypothesis (.inside quotes List.not_mem_nil) later
          · rename_i ordinary
            split at member
            · rcases List.mem_append.mp member with ended | later
              · exact quotable_of_mem_flush (.outside unmarked) ended
              · exact inductionHypothesis holdable_nil later
            · refine inductionHypothesis (.outside ?_) member
              exact List.forall_mem_cons.mpr ⟨Bool.eq_false_iff.mpr ordinary, unmarked⟩
      | inside quotes lacks =>
          rw [scanFrom] at member
          split at member
          · rcases List.mem_cons.mp member with ended | later
            · rw [ended]
              exact quotable_reverse (.inside quotes lacks)
            · exact inductionHypothesis holdable_nil later
          · rename_i different
            refine inductionHypothesis (.inside quotes ?_) member
            rw [List.mem_cons, not_or]
            exact ⟨fun same => different same.symm, lacks⟩

/-! ## Texts in quotes -/

/-- The line gives these texts, each enclosed in a quote mark that it lacks.  Before, between and
behind them any blanks may stand, also none. -/
inductive Quotes : List (List Char) → List Char → Prop where
  | none {gap : List Char} (wide : ∀ character ∈ gap, isBlank character = true) : Quotes [] gap
  | next {gap text line : List Char} {mark : Char} {others : List (List Char)}
      (wide : ∀ character ∈ gap, isBlank character = true) (quotes : isMark mark = true)
      (lacks : mark ∉ text) (onward : Quotes others line) :
      Quotes (text :: others) (gap ++ (enclose mark text ++ line))

/-- Blanks in front of a line say nothing. -/
theorem scan_wide {gap : List Char} (wide : ∀ character ∈ gap, isBlank character = true)
    (rest : List Char) : scan (gap ++ rest) = scan rest := by
  by_cases empty : gap = []
  · rw [empty, List.nil_append]
  · rw [scan, scanFrom_gap empty wide]
    rfl

theorem scan_of_quotes {texts : List (List Char)} {line : List Char} (given : Quotes texts line) :
    scan line = texts := by
  induction given with
  | none wide =>
      have scanned := scan_wide wide []
      rw [List.append_nil] at scanned
      rw [scanned]
      rfl
  | next wide quotes lacks _ inductionHypothesis =>
      rw [scan_wide wide, scan, scanFrom_enclose quotes lacks, ← scan, inductionHypothesis]
      rfl

/-- A text that lacks a mark is enclosed in one. -/
theorem exists_quotes {texts : List (List Char)} (each : ∀ text ∈ texts, Quotable text) :
    ∃ line, Quotes texts line := by
  induction texts with
  | nil => exact ⟨[], .none (List.forall_mem_nil _)⟩
  | cons text others inductionHypothesis =>
      rcases List.forall_mem_cons.mp each with ⟨here, later⟩
      rcases quotable_iff.mp here with ⟨mark, quotes, lacks⟩
      rcases inductionHypothesis later with ⟨line, onward⟩
      exact ⟨_, .next (List.forall_mem_nil _) quotes lacks onward⟩

/-- Texts are the tokens of some line exactly if each of them lacks one of the two quote marks, and
they are the tokens of every line that gives each of them enclosed in a mark that it lacks. -/
theorem scan_image (texts : List (List Char)) :
    ((∃ line, scan line = texts) ↔ ∀ text ∈ texts, Quotable text) ∧
      ∀ line, Quotes texts line → scan line = texts := by
  refine ⟨⟨?_, ?_⟩, fun _ given => scan_of_quotes given⟩
  · rintro ⟨line, rfl⟩ text member
    exact quotable_of_mem_scanFrom holdable_nil member
  · intro each
    rcases exists_quotes each with ⟨line, given⟩
    exact ⟨line, scan_of_quotes given⟩

/-- An empty text, one of blanks and one with a mark, without blanks between the first two. -/
theorem scan_image_touching :
    (∃ line, scan line = ["".toList, " \t".toList, "it's".toList]) ∧
      scan " ''\" \t\"\n\"it's\" ".toList = ["".toList, " \t".toList, "it's".toList] ∧
      ¬ ∃ line, scan line = ["'\"".toList] := by
  have given : Quotes ["".toList, " \t".toList, "it's".toList]
      " ''\" \t\"\n\"it's\" ".toList :=
    @Quotes.next [' '] _ _ '\'' _ (List.forall_mem_singleton.mpr rfl) rfl (by decide)
      (@Quotes.next [] _ _ '"' _ (List.forall_mem_nil _) rfl (by decide)
        (@Quotes.next ['\n'] _ _ '"' _ (List.forall_mem_singleton.mpr rfl) rfl (by decide)
          (@Quotes.none [' '] (List.forall_mem_singleton.mpr rfl))))
  refine ⟨(scan_image _).1.mpr (by decide), (scan_image _).2 _ given, ?_⟩
  intro cut
  exact absurd ((scan_image _).1.mp cut) (by decide)

end Token

end Workbench
