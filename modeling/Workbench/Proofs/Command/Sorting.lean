import Workbench.Command.Reading
import Workbench.Proofs.Dictionary
namespace Workbench

/-!
# Flags, values and words

What a token of a command stands for can be told from the token and its neighbours.
A flag shows in its own characters.  A value is a token that is no flag and has one
in front of it.  No flag is ever a value, so nothing further to the left matters,
and all other tokens are words.  Sorting tokens agrees with this, although it looks
ahead and passes over the values that it has taken.
-/

namespace Reading

/-- The token starts with two dashes, and something is left behind its dashes. -/
def IsFlag (token : String) : Prop :=
  ['-', '-'] <+: token.toList ∧ token.toList.dropWhile (· == '-') ≠ []

instance (token : String) : Decidable (IsFlag token) :=
  inferInstanceAs (Decidable (_ ∧ _))

/-- A token without the dashes at its start. -/
def undashed (token : String) : String :=
  String.ofList (token.toList.dropWhile (· == '-'))

/-- A neighbour is there, and it is a flag. -/
def FlagAt : Option String → Prop
  | none => False
  | some token => IsFlag token

instance (neighbour : Option String) : Decidable (FlagAt neighbour) :=
  match neighbour with
  | none => inferInstanceAs (Decidable False)
  | some token => inferInstanceAs (Decidable (IsFlag token))

/-- The value of a flag, given the token behind it. -/
def claimed : Option String → String
  | none => "true"
  | some next => if IsFlag next then "true" else next

/-- The flags with their values, in order: each token is looked at together with
the one behind it. -/
def flags (tokens : List String) : List (String × String) :=
  (tokens.zip (tokens.tail.map some ++ [none])).filterMap fun place =>
    if IsFlag place.1 then some (undashed place.1, claimed place.2) else none

/-- The words, in order: each token is looked at together with the one in front of
it, where the given one stands in front of the first. -/
def wordsAfter (previous : Option String) (tokens : List String) : List String :=
  (tokens.zip (previous :: tokens.map some)).filterMap fun place =>
    if IsFlag place.1 ∨ FlagAt place.2 then none else some place.1

/-- The tokens that are neither flags nor values. -/
def words (tokens : List String) : List String :=
  wordsAfter none tokens

/-! ## One token at a time -/

theorem flagName?_of_isFlag {token : String} (flag : IsFlag token) :
    flagName? token = some (undashed token) := by
  rcases flag with ⟨⟨rest, dashes⟩, left⟩
  have shape : token.toList = '-' :: '-' :: rest := dashes.symm
  have kept : token.toList.dropWhile (· == '-') = rest.dropWhile (· == '-') := by
    rw [shape]
    rfl
  rw [kept] at left
  unfold flagName? undashed
  rw [kept, shape]
  cases named : rest.dropWhile (· == '-') with
  | nil => exact absurd named left
  | cons first others => simp only [named]

theorem flagName?_of_not_isFlag {token : String} (plain : ¬ IsFlag token) :
    flagName? token = none := by
  unfold flagName?
  split
  · rename_i rest shape
    split
    · rfl
    · rename_i name left
      exfalso
      apply plain
      refine ⟨⟨rest, shape.symm⟩, ?_⟩
      rw [shape]
      exact left
  · rfl

/-- A token has the name of a flag exactly if it is one. -/
theorem flagName?_eq_some_iff {token name : String} :
    flagName? token = some name ↔ IsFlag token ∧ undashed token = name := by
  by_cases flag : IsFlag token
  · rw [flagName?_of_isFlag flag, Option.some.injEq, and_iff_right flag]
  · rw [flagName?_of_not_isFlag flag]
    constructor
    · intro impossible
      cases impossible
    · intro both
      exact absurd both.1 flag

theorem flagName?_eq_none_iff {token : String} : flagName? token = none ↔ ¬ IsFlag token := by
  constructor
  · intro unnamed flag
    rw [flagName?_of_isFlag flag] at unnamed
    cases unnamed
  · exact flagName?_of_not_isFlag

theorem flags_cons (token : String) (rest : List String) :
    flags (token :: rest) =
      (if IsFlag token then [(undashed token, claimed rest.head?)] else []) ++ flags rest := by
  cases rest with
  | nil => by_cases flag : IsFlag token <;> simp [flags, flag]
  | cons next others => by_cases flag : IsFlag token <;> simp [flags, flag]

theorem wordsAfter_cons (previous : Option String) (token : String) (rest : List String) :
    wordsAfter previous (token :: rest) =
      (if IsFlag token ∨ FlagAt previous then [] else [token]) ++
        wordsAfter (some token) rest := by
  by_cases passed : IsFlag token ∨ FlagAt previous <;> simp [wordsAfter, passed]

/-- Behind a token that is no flag, words begin as they do at the start. -/
theorem wordsAfter_of_not_flag {token : String} (plain : ¬ IsFlag token) (rest : List String) :
    wordsAfter (some token) rest = words rest := by
  cases rest with
  | nil => rfl
  | cons next others =>
      rw [words, wordsAfter_cons, wordsAfter_cons]
      simp only [FlagAt, plain, or_false]

theorem words_of_word {token : String} (plain : ¬ IsFlag token) (rest : List String) :
    words (token :: rest) = token :: words rest := by
  rw [words, wordsAfter_cons, wordsAfter_of_not_flag plain]
  simp only [FlagAt, plain, or_self, if_false, List.singleton_append]

/-- A flag in front of another flag takes nothing from the words. -/
theorem words_of_flag {token value : String} (flag : IsFlag token) (next : IsFlag value)
    (rest : List String) : words (token :: value :: rest) = words (value :: rest) := by
  simp only [words, wordsAfter_cons, flag, next, true_or, if_true, List.nil_append]

theorem words_of_pair {token value : String} (flag : IsFlag token) (plain : ¬ IsFlag value)
    (rest : List String) : words (token :: value :: rest) = words rest := by
  have behind : FlagAt (some token) := flag
  rw [words, wordsAfter_cons, wordsAfter_cons, if_pos (Or.inl flag), if_pos (Or.inr behind),
    wordsAfter_of_not_flag plain]
  rfl

/-! ## Sorting -/

theorem sort_word {token : String} (plain : flagName? token = none) (rest : List String) :
    sort (token :: rest) = ⟨(sort rest).flags, token :: (sort rest).words⟩ := by
  rw [sort, plain]

theorem sort_pair {token name value : String} (flag : flagName? token = some name)
    (plain : flagName? value = none) (rest : List String) :
    sort (token :: value :: rest) = ⟨(name, value) :: (sort rest).flags, (sort rest).words⟩ := by
  rw [sort, flag]
  simp only [plain]

theorem sort_bare {token name value other : String} (flag : flagName? token = some name)
    (next : flagName? value = some other) (rest : List String) :
    sort (token :: value :: rest) =
      ⟨(name, "true") :: (sort (value :: rest)).flags, (sort (value :: rest)).words⟩ := by
  rw [sort, flag]
  simp only [next]

/-- Sorting with a look ahead agrees with looking at neighbours. -/
theorem sort_eq (tokens : List String) : sort tokens = ⟨flags tokens, words tokens⟩ := by
  -- the cases are those of the sorting itself, which skips a value together with its flag
  induction tokens using sort.induct with
  | case1 => rfl
  | case2 token rest unnamed inductionHypothesis =>
      have plain := flagName?_eq_none_iff.mp unnamed
      rw [sort_word unnamed, inductionHypothesis, flags_cons, if_neg plain, words_of_word plain]
      rfl
  | case3 token name named =>
      rcases flagName?_eq_some_iff.mp named with ⟨flag, rfl⟩
      rw [sort, named, flags_cons, if_pos flag, words, wordsAfter_cons, if_pos (Or.inl flag)]
      rfl
  | case4 token name named value others other next inductionHypothesis =>
      rcases flagName?_eq_some_iff.mp named with ⟨flag, rfl⟩
      have nextFlag := (flagName?_eq_some_iff.mp next).1
      rw [sort_bare named next, inductionHypothesis, flags_cons token, if_pos flag,
        words_of_flag flag nextFlag, List.head?_cons, claimed, if_pos nextFlag]
      rfl
  | case5 token name named value others unnamed inductionHypothesis =>
      rcases flagName?_eq_some_iff.mp named with ⟨flag, rfl⟩
      have plain := flagName?_eq_none_iff.mp unnamed
      rw [sort_pair named unnamed, inductionHypothesis, flags_cons token, flags_cons value,
        if_pos flag, if_neg plain, words_of_pair flag plain, List.head?_cons, claimed,
        if_neg plain]
      rfl

example : words ["--", "a", "--b", "c", "---d", "--e"] = ["--", "a"] := by decide

end Reading

end Workbench
