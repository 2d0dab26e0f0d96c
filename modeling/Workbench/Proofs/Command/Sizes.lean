import Mathlib.Algebra.GroupWithZero.Nat
import Workbench.Proofs.Command.Allotment
import Workbench.Proofs.Command.Forms
import Workbench.Proofs.Text.Sizes
namespace Workbench

/-!
# How much a command can hold

A token takes at least one character of its line besides its own: a blank, a quote mark or the
line's end stands behind it.  So the tokens of a line together are no longer than the line, and
no argument is longer than the command that gives it, but for the word that a bare flag has.
-/

namespace Reading

/-- The characters that tokens take in a line, with one behind each. -/
def room (tokens : List String) : Nat :=
  (tokens.map (fun token => token.toList.length + 1)).sum

@[simp] theorem room_nil : room [] = 0 := rfl

@[simp] theorem room_cons (token : String) (others : List String) :
    room (token :: others) = token.toList.length + 1 + room others :=
  List.sum_cons

theorem room_append (left right : List String) : room (left ++ right) = room left + room right := by
  rw [room, List.map_append, List.sum_append]
  rfl

theorem length_le_room (tokens : List String) : tokens.length ≤ room tokens := by
  induction tokens with
  | nil => exact Nat.le_refl 0
  | cons token others inductionHypothesis =>
      rw [List.length_cons, room_cons]
      omega

theorem length_lt_room {tokens : List String} {token : String} (member : token ∈ tokens) :
    token.toList.length < room tokens := by
  induction tokens with
  | nil => cases member
  | cons first others inductionHypothesis =>
      rw [room_cons]
      rcases List.mem_cons.mp member with rfl | later
      · omega
      · have inside := inductionHypothesis later
        omega

theorem room_le_of_sublist {few many : List String} (among : few.Sublist many) :
    room few ≤ room many := by
  induction among with
  | slnil => exact Nat.le_refl 0
  | cons token _ inductionHypothesis =>
      rw [room_cons]
      omega
  | cons_cons token _ inductionHypothesis =>
      rw [room_cons, room_cons]
      omega

/-- Joined by single characters, texts leave out one of the characters behind them. -/
theorem length_intercalate (first : String) (others : List String) :
    (String.intercalate " " (first :: others)).toList.length =
      first.toList.length + room others := by
  induction others generalizing first with
  | nil => rfl
  | cons next rest inductionHypothesis =>
      rw [String.intercalate_cons_of_ne_nil (List.cons_ne_nil _ _), String.toList_append,
        String.toList_append, List.length_append, List.length_append, inductionHypothesis, room_cons]
      have blank : " ".toList.length = 1 := rfl
      omega

/-! ## Scanning -/

theorem room_flush_le (held : List Char) :
    room ((Token.flush held).map String.ofList) ≤ held.length + 1 := by
  cases held with
  | nil => exact Nat.zero_le _
  | cons first rest => simp [Token.flush]

theorem room_scanFrom_le (quoting : Token.Quoting) (held rest : List Char) :
    room ((Token.scanFrom quoting held rest).map String.ofList) ≤ held.length + rest.length + 1 := by
  -- the cases are those of the scan
  induction quoting, held, rest using Token.scanFrom.induct with
  | case1 held =>
      rw [Token.scanFrom]
      exact room_flush_le held
  | case2 mark held =>
      rw [Token.scanFrom, List.map_singleton, room_cons, room_nil, String.toList_ofList,
        List.length_reverse]
      exact Nat.le_refl _
  | case3 mark held rest inductionHypothesis =>
      rw [Token.scanFrom, if_pos rfl, List.map_cons, room_cons, String.toList_ofList,
        List.length_reverse]
      simp only [List.length_cons, List.length_nil] at inductionHypothesis ⊢
      omega
  | case4 mark held first rest other inductionHypothesis =>
      rw [Token.scanFrom, if_neg other]
      simp only [List.length_cons] at inductionHypothesis ⊢
      omega
  | case5 held first rest quote inductionHypothesis =>
      rw [Token.scanFrom, if_pos quote, List.map_append, room_append]
      have front := room_flush_le held
      simp only [List.length_cons, List.length_nil] at inductionHypothesis ⊢
      omega
  | case6 held first rest plain blank inductionHypothesis =>
      rw [Token.scanFrom, if_neg plain, if_pos blank, List.map_append, room_append]
      have front := room_flush_le held
      simp only [List.length_cons, List.length_nil] at inductionHypothesis ⊢
      omega
  | case7 held first rest plain solid inductionHypothesis =>
      rw [Token.scanFrom, if_neg plain, if_neg solid]
      simp only [List.length_cons] at inductionHypothesis ⊢
      omega

/-- The first token takes at least one character, so the others fit into the line. -/
theorem room_operands_le (text : List Char) : room (operands text) ≤ text.length := by
  have whole := room_scanFrom_le .outside [] text
  rw [operands, Token.scan]
  cases scanned : Token.scanFrom .outside [] text with
  | nil => exact Nat.zero_le _
  | cons first others =>
      rw [scanned, List.map_cons, room_cons, List.length_nil] at whole
      rw [List.drop_one, List.tail_cons]
      omega

/-! ## Sorting -/

theorem words_sort_sublist (tokens : List String) : (sort tokens).words.Sublist tokens := by
  induction tokens using sort.induct with
  | case1 => exact List.Sublist.refl _
  | case2 token rest unnamed inductionHypothesis =>
      rw [sort_word unnamed]
      exact inductionHypothesis.cons_cons token
  | case3 token name named =>
      rw [sort, named]
      exact List.nil_sublist _
  | case4 token name named value others other next inductionHypothesis =>
      rw [sort_bare named next]
      exact inductionHypothesis.cons token
  | case5 token name named value others unnamed inductionHypothesis =>
      rw [sort_pair named unnamed]
      exact (inductionHypothesis.cons value).cons token

/-- The value of a flag is a token or the word for yes. -/
theorem eq_or_mem_of_mem_flags {tokens : List String} {entry : String × String}
    (member : entry ∈ (sort tokens).flags) : entry.2 = "true" ∨ entry.2 ∈ tokens := by
  induction tokens using sort.induct with
  | case1 => cases member
  | case2 token rest unnamed inductionHypothesis =>
      rw [sort_word unnamed] at member
      exact (inductionHypothesis member).imp_right (List.mem_cons_of_mem token)
  | case3 token name named =>
      rw [sort, named] at member
      rw [List.mem_singleton.mp member]
      exact Or.inl rfl
  | case4 token name named value others other next inductionHypothesis =>
      rw [sort_bare named next] at member
      rcases List.mem_cons.mp member with rfl | later
      · exact Or.inl rfl
      · exact (inductionHypothesis later).imp_right (List.mem_cons_of_mem token)
  | case5 token name named value others unnamed inductionHypothesis =>
      rw [sort_pair named unnamed] at member
      rcases List.mem_cons.mp member with rfl | later
      · exact Or.inr (by simp)
      · refine (inductionHypothesis later).imp_right (fun listed => ?_)
        exact List.mem_cons_of_mem token (List.mem_cons_of_mem value listed)

/-! ## Filling -/

/-- What is filled in and what is left over were different words. -/
theorem room_of_fill {tool : String} {parameters : List Parameter} {arguments filled : Arguments}
    {words surplus : List String}
    (filling : fill tool parameters arguments words = .ok (filled, surplus)) :
    room surplus ≤ room words ∧
      ∀ name value, filled.get? name = some value → arguments.get? name = some value ∨
        value.toList.length + 1 + room surplus ≤ room words := by
  induction parameters generalizing arguments words with
  | nil =>
      cases filling
      exact ⟨Nat.le_refl _, fun name value held => Or.inl held⟩
  | cons parameter others inductionHypothesis =>
      by_cases held : arguments.contains parameter.name = true
      · rw [fill_of_held tool held] at filling
        exact inductionHypothesis filling
      · cases words with
        | nil =>
            rw [fill_of_no_word tool held] at filling
            split at filling
            · cases filling
            · exact inductionHypothesis filling
        | cons word rest =>
            rw [fill_of_word tool held] at filling
            rcases inductionHypothesis filling with ⟨less, each⟩
            rw [room_cons]
            refine ⟨by omega, fun name value found => ?_⟩
            rcases each name value found with before | new
            · rw [Dictionary.get?_insert] at before
              split at before
              · rw [← Option.some.inj before]
                exact Or.inr (by omega)
              · exact Or.inl before
            · exact Or.inr (by omega)

/-! ## Arguments -/

theorem length_of_flagged {tokens : List String} {name value : String}
    (flagged : (Dictionary.ofList (sort tokens).flags).get? name = some value) :
    value.toList.length ≤ max 4 (room tokens) := by
  rw [Dictionary.get?_ofList] at flagged
  have member := Entry.mem_values_iff.mp (List.mem_of_getLast? flagged)
  rcases eq_or_mem_of_mem_flags member with yes | token
  · rw [show value = "true" from yes]
    exact Nat.le_max_left 4 _
  · have inside := length_lt_room token
    simp only at inside
    omega

/-- An argument holds what it held, or the surplus, behind the word that it held if it held
one; only an argument that no flag gave takes a surplus. -/
theorem get?_absorb_cases {definition : Definition} {flagged arguments : Arguments}
    {surplus : List String} {name value : String}
    (held : (absorb definition flagged arguments surplus).get? name = some value) :
    arguments.get? name = some value ∨ value = String.intercalate " " surplus ∨
      (flagged.get? name = none ∧ ∃ first, arguments.get? name = some first ∧
        value = String.intercalate " " (first :: surplus)) := by
  unfold absorb at held
  split at held
  · exact Or.inl held
  · split at held
    · exact Or.inl held
    · rename_i taker chosen
      have free : flagged.get? taker = none := by
        have accepted := List.find?_some chosen
        simp only [Bool.and_eq_true, Bool.not_eq_true', Dictionary.contains,
          Option.isSome_eq_false_iff, Option.isNone_iff_eq_none] at accepted
        exact accepted.2
      by_cases same : name = taker
      · subst same
        split at held
        · rename_i first before
          rw [Dictionary.get?_insert, if_pos rfl] at held
          exact Or.inr (Or.inr ⟨free, first, before, (Option.some.inj held).symm⟩)
        · rw [Dictionary.get?_insert, if_pos rfl] at held
          exact Or.inr (Or.inl (Option.some.inj held).symm)
      · split at held
        · rw [Dictionary.get?_insert, if_neg same] at held
          exact Or.inl held
        · rw [Dictionary.get?_insert, if_neg same] at held
          exact Or.inl held

theorem length_intercalate_le (tokens : List String) :
    (String.intercalate " " tokens).toList.length ≤ room tokens := by
  cases tokens with
  | nil => exact Nat.le_refl 0
  | cons first others =>
      rw [length_intercalate, room_cons]
      omega

/-- No argument is longer than the tokens that were resolved. -/
theorem length_of_resolve {definition : Definition} {tokens : List String} {invocation : Invocation}
    (resolved : resolve definition tokens = .ok invocation) {name value : String}
    (held : invocation.arguments.get? name = some value) :
    value.toList.length ≤ max 4 (room tokens) := by
  have fewer := room_le_of_sublist (words_sort_sublist tokens)
  unfold resolve at resolved
  simp only at resolved
  split at resolved
  · cases resolved
  · rename_i arguments surplus filling
    cases resolved
    rcases room_of_fill filling with ⟨less, each⟩
    rcases get?_absorb_cases held with filled | alone | ⟨free, first, filled, joined⟩
    · rcases each name value filled with flagged | word
      · exact length_of_flagged flagged
      · omega
    · rw [alone]
      have short := length_intercalate_le surplus
      omega
    · rcases each name first filled with flagged | word
      · rw [free] at flagged
        cases flagged
      · rw [joined, length_intercalate]
        omega

/-! ## Blocks -/

theorem prefix_of_untilEnd? {mark : String} {lines body : List (List Char)}
    (ended : untilEnd? mark lines = some body) : body <+: lines := by
  rcases untilEnd?_cases mark lines with ⟨none, _⟩ | ⟨before, last, rest, split, inside, ends⟩
  · rw [none] at ended
    cases ended
  · rw [split, untilEnd?_append inside ends] at ended
    rw [split, ← Option.some.inj ended]
    exact List.prefix_append _ _

theorem length_of_single {definition : Definition} {line : List Char} {invocation : Invocation}
    (read : single definition line = .ok invocation) {name value : String}
    (held : invocation.arguments.get? name = some value) :
    value.toList.length ≤ max 4 line.length := by
  have short := length_of_resolve read held
  have fits := room_operands_le line
  omega

/-- The content of a block has no more lines than the block. -/
theorem lines_of_block {definition : Definition} {first : List Char} {body : List (List Char)}
    (clear : ∀ line ∈ body, '\n' ∉ line) {invocation : Invocation}
    (read : block definition first body = .ok invocation) {value : String}
    (held : invocation.arguments.get? "content" = some value) :
    (Text.lines value.toList).length ≤ body.length := by
  unfold block at read
  simp only [] at read
  split at read
  · cases read
  · split at read
    · cases read
    · cases read
      rw [Dictionary.get?_insert, if_pos rfl] at held
      rw [← Option.some.inj held, String.toList_ofList]
      exact Text.length_lines_join_le clear

/-- The content of a command has no more lines than the command has characters, or than the
word of a bare flag has. -/
theorem lines_content_le {find : String → Option Definition} {text : String}
    {invocation : Invocation} (given : read find text = .ok (some invocation)) {value : String}
    (held : invocation.arguments.get? "content" = some value) :
    (Text.lines value.toList).length ≤ max 4 text.toList.length := by
  have trimmed := Text.length_trim_le text.toList
  have fewer := Text.length_lines_le value.toList
  unfold read at given
  simp only [] at given
  split at given
  · cases given
  · rename_i first others written
    have count : (first :: others).length ≤ (Text.trim text.toList).length := by
      rw [← written]
      exact Text.length_lines_le _
    rw [List.length_cons] at count
    split at given
    · cases given
    · rename_i definition _
      split at given
      · split at given
        · rename_i body ended
          have front := prefix_of_untilEnd? ended
          have clear : ∀ line ∈ body, '\n' ∉ line := by
            intro line member
            have listed : line ∈ Text.lines (Text.trim text.toList) := by
              rw [written]
              exact List.mem_cons_of_mem first (front.subset member)
            exact Text.clear_of_mem_lines listed
          have short := lines_of_block clear (eq_ok_of_map_some given) held
          have inside := front.length_le
          omega
        · have line := Text.length_le_of_mem_lines (written ▸ List.mem_cons_self : first ∈ _)
          have short := length_of_single (eq_ok_of_map_some given) held
          omega
      · have short := length_of_single (eq_ok_of_map_some given) held
        omega

end Reading

end Workbench
