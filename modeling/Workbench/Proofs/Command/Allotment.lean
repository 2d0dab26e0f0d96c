import Workbench.Proofs.Command.Sorting
import Workbench.Tool.Search
namespace Workbench

/-!
# Which argument gets which word

Flags give values by name.  The parameters without a flag then get the words by
position: the first of them the first word, and so on.  A required parameter that
no word is left for is missed, and of several the first one is named.  Words that
no parameter is left for go to one argument that may hold free text, behind the
word that it already has, or they are dropped.

This is said by positions in two lists, so nothing is filled step by step here.
The main statement is that resolving the tokens of a command comes to the same, for
every definition whose parameters have distinct names.
-/

namespace Reading

/-- The value that the flags give to a name: the last of several. -/
def flagged? (tokens : List String) (name : String) : Option String :=
  (Entry.values name (flags tokens)).getLast?

/-- The parameters without a flag, in the order of their declaration. -/
def unflagged (definition : Definition) (tokens : List String) : List Parameter :=
  definition.parameters.filter (fun parameter => (flagged? tokens parameter.name).isNone)

/-- The first required parameter whose position is not the position of a word. -/
def unmet? (definition : Definition) (tokens : List String) : Option Parameter :=
  ((unflagged definition tokens).drop (words tokens).length).find? Parameter.required

/-- The words that no parameter is left for. -/
def surplus (definition : Definition) (tokens : List String) : List String :=
  (words tokens).drop (unflagged definition tokens).length

/-- The argument that takes the surplus: the first of the open-ended ones that is
declared and has no flag. -/
def taker? (definition : Definition) (tokens : List String) : Option String :=
  openEnded.find? (fun name => definition.declares name && (flagged? tokens name).isNone)

/-- What an argument holds that has got a word by its position. -/
def withSurplus (definition : Definition) (tokens : List String) (name word : String) : String :=
  if (unflagged definition tokens).length < (words tokens).length ∧
      taker? definition tokens = some name then
    word ++ " " ++ String.intercalate " " (surplus definition tokens)
  else word

/-- The parameter of this name has no flag, and there is a word at its position. -/
def HasWord (definition : Definition) (tokens : List String) (name : String) : Prop :=
  ∃ (position : Nat) (parameter : Parameter) (word : String),
    (unflagged definition tokens)[position]? = some parameter ∧
      (words tokens)[position]? = some word ∧ parameter.name = name

/-- These are the arguments that the tokens give to a definition. -/
structure Allotment (definition : Definition) (tokens : List String) (arguments : Arguments) :
    Prop where
  byFlag : ∀ name value, flagged? tokens name = some value → arguments.get? name = some value
  byPosition : ∀ (position : Nat) (parameter : Parameter) (word : String),
    (unflagged definition tokens)[position]? = some parameter →
      (words tokens)[position]? = some word →
        arguments.get? parameter.name = some (withSurplus definition tokens parameter.name word)
  /-- No other argument has a value. -/
  nothingElse : ∀ name, arguments.contains name = true →
    (flagged? tokens name).isSome = true ∨ HasWord definition tokens name
  /-- The surplus never goes to an argument that has no word. -/
  takerHolds : (unflagged definition tokens).length < (words tokens).length →
    ∀ name, taker? definition tokens = some name → HasWord definition tokens name

/-! ## Filling parameters one by one -/

/-- The parameters that have no value yet. -/
def vacant (arguments : Arguments) (parameters : List Parameter) : List Parameter :=
  parameters.filter (fun parameter => !arguments.contains parameter.name)

/-- Each parameter's name with the word at its position. -/
def shares (parameters : List Parameter) (words : List String) : List (String × String) :=
  (parameters.map Parameter.name).zip words

theorem vacant_cons_of_held {arguments : Arguments} {parameter : Parameter}
    (held : arguments.contains parameter.name = true) (others : List Parameter) :
    vacant arguments (parameter :: others) = vacant arguments others := by
  simp [vacant, held]

theorem vacant_cons_of_free {arguments : Arguments} {parameter : Parameter}
    (free : ¬ arguments.contains parameter.name = true) (others : List Parameter) :
    vacant arguments (parameter :: others) = parameter :: vacant arguments others := by
  simp [vacant, free]

theorem vacant_insert {arguments : Arguments} {name : String} {parameters : List Parameter}
    (fresh : name ∉ parameters.map Parameter.name) (value : String) :
    vacant (arguments.insert name value) parameters = vacant arguments parameters := by
  apply List.filter_congr
  intro parameter member
  have different : parameter.name ≠ name := by
    intro same
    apply fresh
    rw [← same]
    exact List.mem_map_of_mem member
  rw [Dictionary.contains_insert_of_ne arguments different]

theorem fill_of_held (tool : String) {parameter : Parameter} {arguments : Arguments}
    (held : arguments.contains parameter.name = true) (others : List Parameter)
    (words : List String) :
    fill tool (parameter :: others) arguments words = fill tool others arguments words := by
  rw [fill.eq_def]
  simp only [held, if_true]

theorem fill_of_word (tool : String) {parameter : Parameter} {arguments : Arguments}
    (free : ¬ arguments.contains parameter.name = true) (others : List Parameter) (word : String)
    (rest : List String) :
    fill tool (parameter :: others) arguments (word :: rest) =
      fill tool others (arguments.insert parameter.name word) rest := by
  rw [fill.eq_def]
  simp only [free, if_false, Bool.false_eq_true]

theorem fill_of_no_word (tool : String) {parameter : Parameter} {arguments : Arguments}
    (free : ¬ arguments.contains parameter.name = true) (others : List Parameter) :
    fill tool (parameter :: others) arguments [] =
      if parameter.required then .error (.missingArgument tool parameter.name)
      else fill tool others arguments [] := by
  rw [fill.eq_def]
  simp only [free, if_false, Bool.false_eq_true]

/-- Filling gives words by position, or it fails at the first required parameter whose
position is past the words. -/
theorem fill_eq (tool : String) {parameters : List Parameter}
    (distinct : (parameters.map Parameter.name).Nodup) (arguments : Arguments)
    (words : List String) :
    fill tool parameters arguments words =
      match ((vacant arguments parameters).drop words.length).find? Parameter.required with
      | some parameter => .error (.missingArgument tool parameter.name)
      | none =>
        .ok ((shares (vacant arguments parameters) words).foldl
            (fun filled entry => filled.insert entry.1 entry.2) arguments,
          words.drop (vacant arguments parameters).length) := by
  induction parameters generalizing arguments words with
  | nil => simp [fill, vacant, shares]
  | cons parameter others inductionHypothesis =>
      rcases List.nodup_cons.mp distinct with ⟨fresh, distinctOthers⟩
      by_cases held : arguments.contains parameter.name = true
      · rw [fill_of_held tool held, inductionHypothesis distinctOthers, vacant_cons_of_held held]
      · rw [vacant_cons_of_free held]
        cases words with
        | nil =>
            rw [fill_of_no_word tool held]
            cases required : parameter.required with
            | true => simp [required]
            | false =>
                rw [if_neg (by decide), inductionHypothesis distinctOthers]
                simp [required, shares]
        | cons word rest =>
            rw [fill_of_word tool held, inductionHypothesis distinctOthers, vacant_insert fresh]
            rfl

/-! ## Names and words by position -/

theorem values_zip_of_absent {name : String} {names : List String} (absent : name ∉ names)
    (words : List String) : Entry.values name (names.zip words) = [] := by
  apply Entry.values_eq_nil
  intro entry member same
  apply absent
  rw [← same]
  exact (List.of_mem_zip member).1

/-- Under a name that stands once in a list, the word at its position is found. -/
theorem values_zip {names words : List String} {name word : String} {position : Nat}
    (distinct : names.Nodup) (named : names[position]? = some name)
    (given : words[position]? = some word) : Entry.values name (names.zip words) = [word] := by
  induction names generalizing words position with
  | nil => cases named
  | cons first others inductionHypothesis =>
      rcases List.nodup_cons.mp distinct with ⟨fresh, distinctOthers⟩
      cases words with
      | nil => cases given
      | cons head rest =>
          rw [List.zip_cons_cons]
          cases position with
          | zero =>
              cases named
              cases given
              rw [Entry.values_cons_self, values_zip_of_absent fresh]
          | succ before =>
              rw [List.getElem?_cons_succ] at named given
              have different : first ≠ name := by
                intro same
                apply fresh
                rw [same]
                exact List.mem_of_getElem? named
              rw [Entry.values_cons_of_ne different]
              exact inductionHypothesis distinctOthers named given

/-! ## The surplus -/

theorem get?_absorb {definition : Definition} {flagged arguments : Arguments}
    {surplus : List String} {name first : String} (filled : surplus ≠ [])
    (taker : openEnded.find? (fun name =>
      definition.declares name && !flagged.contains name) = some name)
    (held : arguments.get? name = some first) (other : String) :
    (absorb definition flagged arguments surplus).get? other =
      if other = name then some (first ++ " " ++ String.intercalate " " surplus)
      else arguments.get? other := by
  have notEmpty : surplus.isEmpty = false := by
    simpa using filled
  unfold absorb
  rw [notEmpty, taker]
  simp only [Bool.false_eq_true, if_false, held]
  rw [Dictionary.get?_insert, String.intercalate_cons_of_ne_nil filled]

theorem absorb_of_no_taker {definition : Definition} {flagged : Arguments}
    (none : openEnded.find? (fun name =>
      definition.declares name && !flagged.contains name) = none)
    (arguments : Arguments) (surplus : List String) :
    absorb definition flagged arguments surplus = arguments := by
  unfold absorb
  rw [none]
  split <;> rfl

/-! ## Positions -/

theorem contains_flagged (tokens : List String) (name : String) :
    (Dictionary.ofList (flags tokens)).contains name = (flagged? tokens name).isSome := by
  rw [Dictionary.contains, Dictionary.get?_ofList, flagged?]

theorem vacant_flagged (definition : Definition) (tokens : List String) :
    vacant (Dictionary.ofList (flags tokens)) definition.parameters =
      unflagged definition tokens := by
  apply List.filter_congr
  intro parameter _
  rw [contains_flagged, Option.not_isSome]

theorem find?_openEnded (definition : Definition) (tokens : List String) :
    openEnded.find? (fun name =>
        definition.declares name && !(Dictionary.ofList (flags tokens)).contains name) =
      taker? definition tokens := by
  simp only [taker?, contains_flagged, Option.not_isSome]

theorem flagged?_of_unflagged {definition : Definition} {tokens : List String}
    {parameter : Parameter} (member : parameter ∈ unflagged definition tokens) :
    flagged? tokens parameter.name = none :=
  Option.isNone_iff_eq_none.mp (List.mem_filter.mp member).2

theorem nodup_unflagged {definition : Definition}
    (distinct : (definition.parameters.map Parameter.name).Nodup) (tokens : List String) :
    ((unflagged definition tokens).map Parameter.name).Nodup :=
  distinct.sublist (List.filter_sublist.map Parameter.name)

theorem flagged?_of_taker {definition : Definition} {tokens : List String} {name : String}
    (taker : taker? definition tokens = some name) :
    definition.declares name = true ∧ flagged? tokens name = none := by
  have accepted := List.find?_some taker
  rw [Bool.and_eq_true] at accepted
  exact ⟨accepted.1, Option.isNone_iff_eq_none.mp accepted.2⟩

/-- With a surplus, every parameter without a flag has a word, the taker's included. -/
theorem hasWord_of_taker {definition : Definition} {tokens : List String} {name : String}
    (more : (unflagged definition tokens).length < (words tokens).length)
    (taker : taker? definition tokens = some name) : HasWord definition tokens name := by
  rcases flagged?_of_taker taker with ⟨declared, free⟩
  rcases List.any_eq_true.mp declared with ⟨parameter, listed, same⟩
  have named : parameter.name = name := by simpa using same
  have member : parameter ∈ unflagged definition tokens := by
    apply List.mem_filter.mpr
    exact ⟨listed, by rw [named, free]; rfl⟩
  rcases List.mem_iff_getElem?.mp member with ⟨position, found⟩
  have inside : position < (unflagged definition tokens).length :=
    (List.getElem?_eq_some_iff.mp found).1
  have worded : position < (words tokens).length := Nat.lt_trans inside more
  exact ⟨position, parameter, (words tokens)[position], found,
    List.getElem?_eq_getElem worded, named⟩

/-- The arguments before the surplus is given away. -/
def filled (definition : Definition) (tokens : List String) : Arguments :=
  (shares (unflagged definition tokens) (words tokens)).foldl
    (fun filled entry => filled.insert entry.1 entry.2) (Dictionary.ofList (flags tokens))

theorem get?_filled (definition : Definition) (tokens : List String) (name : String) :
    (filled definition tokens).get? name =
      (Entry.values name (shares (unflagged definition tokens) (words tokens))).getLast?.or
        (flagged? tokens name) := by
  rw [filled, Dictionary.get?_foldl_insert, Dictionary.get?_ofList, flagged?]

theorem get?_filled_of_flag {definition : Definition} {tokens : List String} {name value : String}
    (flag : flagged? tokens name = some value) :
    (filled definition tokens).get? name = some value := by
  have absent : name ∉ (unflagged definition tokens).map Parameter.name := by
    intro member
    rcases List.mem_map.mp member with ⟨parameter, open_, same⟩
    have free := flagged?_of_unflagged open_
    rw [same, flag] at free
    cases free
  rw [get?_filled, shares, values_zip_of_absent absent, flag]
  rfl

theorem get?_filled_of_position {definition : Definition}
    (distinct : (definition.parameters.map Parameter.name).Nodup) {tokens : List String}
    {position : Nat} {parameter : Parameter} {word : String}
    (found : (unflagged definition tokens)[position]? = some parameter)
    (given : (words tokens)[position]? = some word) :
    (filled definition tokens).get? parameter.name = some word := by
  have named : ((unflagged definition tokens).map Parameter.name)[position]? =
      some parameter.name := by
    rw [List.getElem?_map, found]
    rfl
  rw [get?_filled, shares, values_zip (nodup_unflagged distinct tokens) named given]
  rfl

theorem flag_or_word_of_get?_filled {definition : Definition} {tokens : List String}
    {name value : String} (held : (filled definition tokens).get? name = some value) :
    (flagged? tokens name).isSome = true ∨ HasWord definition tokens name := by
  cases flag : flagged? tokens name with
  | some given => exact Or.inl rfl
  | none =>
      apply Or.inr
      rw [get?_filled, flag, Option.or_none] at held
      have shared := Entry.mem_values_iff.mp (List.mem_of_getLast? held)
      rcases List.mem_iff_getElem?.mp shared with ⟨position, found⟩
      rcases List.getElem?_zip_eq_some.mp found with ⟨named, given⟩
      rw [List.getElem?_map] at named
      rcases Option.map_eq_some_iff.mp named with ⟨parameter, listed, sameName⟩
      exact ⟨position, parameter, value, listed, given, sameName⟩

/-! ## Resolving -/

/-- The arguments once the surplus is given away. -/
def allotted (definition : Definition) (tokens : List String) : Arguments :=
  absorb definition (Dictionary.ofList (flags tokens)) (filled definition tokens)
    (surplus definition tokens)

theorem resolve_eq {definition : Definition}
    (distinct : (definition.parameters.map Parameter.name).Nodup) (tokens : List String) :
    resolve definition tokens =
      match unmet? definition tokens with
      | some parameter => .error (.missingArgument definition.name parameter.name)
      | none => .ok ⟨definition.name, allotted definition tokens⟩ := by
  have filling := fill_eq definition.name distinct (Dictionary.ofList (flags tokens)) (words tokens)
  rw [vacant_flagged, ← unmet?] at filling
  simp only [resolve, sort_eq, filling]
  cases unmet? definition tokens with
  | some parameter => rfl
  | none => rfl

/-- Giving the surplus away appends it to the taker's word and changes nothing else. -/
theorem get?_allotted {definition : Definition}
    (distinct : (definition.parameters.map Parameter.name).Nodup) (tokens : List String)
    (name : String) :
    (allotted definition tokens).get? name =
      ((filled definition tokens).get? name).map (withSurplus definition tokens name) := by
  by_cases more : (unflagged definition tokens).length < (words tokens).length
  · have left : surplus definition tokens ≠ [] := by
      intro none
      have short := List.drop_eq_nil_iff.mp none
      omega
    cases taker : taker? definition tokens with
    | none =>
        have plain : withSurplus definition tokens name = id := by
          funext word
          rw [withSurplus, taker, if_neg (fun both => nomatch both.2)]
          rfl
        rw [plain, Option.map_id, allotted,
          absorb_of_no_taker ((find?_openEnded definition tokens).trans taker)]
        rfl
    | some favoured =>
        rcases hasWord_of_taker more taker with
          ⟨position, parameter, word, found, given, named⟩
        have held := get?_filled_of_position distinct found given
        rw [named] at held
        rw [allotted, get?_absorb left ((find?_openEnded definition tokens).trans taker) held]
        by_cases same : name = favoured
        · rw [if_pos same, same, held, Option.map_some, withSurplus, if_pos ⟨more, taker⟩]
        · have other : withSurplus definition tokens name = id := by
            funext word
            rw [withSurplus, taker, if_neg (fun both => same (Option.some.inj both.2).symm)]
            rfl
          rw [if_neg same, other, Option.map_id]
          rfl
  · have none : surplus definition tokens = [] :=
      List.drop_eq_nil_of_le (Nat.le_of_not_lt more)
    have plain : withSurplus definition tokens name = id := by
      funext word
      rw [withSurplus, if_neg (fun both => more both.1)]
      rfl
    rw [plain, Option.map_id, allotted, none]
    rfl

theorem allotment_allotted {definition : Definition}
    (distinct : (definition.parameters.map Parameter.name).Nodup) (tokens : List String) :
    Allotment definition tokens (allotted definition tokens) where
  byFlag := by
    intro name value flag
    have plain : withSurplus definition tokens name value = value := by
      rw [withSurplus, if_neg]
      intro both
      rw [(flagged?_of_taker both.2).2] at flag
      cases flag
    rw [get?_allotted distinct, get?_filled_of_flag flag, Option.map_some, plain]
  byPosition := by
    intro position parameter word found given
    rw [get?_allotted distinct, get?_filled_of_position distinct found given, Option.map_some]
  nothingElse := by
    intro name held
    rw [Dictionary.contains, get?_allotted distinct, Option.isSome_map] at held
    rcases Option.isSome_iff_exists.mp held with ⟨value, found⟩
    exact flag_or_word_of_get?_filled found
  takerHolds := fun more _ taker => hasWord_of_taker more taker

/-- Resolving the tokens of a command fails exactly if a required parameter is left
without a flag and without a word, and names the first such parameter.  Otherwise
it gives every argument its value by flag or by position, the surplus going behind
the word of the argument that takes it, and gives no other argument a value. -/
theorem resolve_allots (definition : Definition)
    (distinct : (definition.parameters.map Parameter.name).Nodup) (tokens : List String) :
    (∀ failure, resolve definition tokens = .error failure ↔
        ∃ parameter, unmet? definition tokens = some parameter ∧
          failure = .missingArgument definition.name parameter.name) ∧
      (unmet? definition tokens = none →
        ∃ arguments, resolve definition tokens = .ok ⟨definition.name, arguments⟩ ∧
          Allotment definition tokens arguments) := by
  rw [resolve_eq distinct]
  constructor
  · intro failure
    cases unmet? definition tokens with
    | some parameter =>
        constructor
        · intro failed
          exact ⟨parameter, rfl, (Except.error.inj failed).symm⟩
        · intro ⟨missed, same, named⟩
          cases same
          rw [named]
    | none =>
        constructor
        · intro impossible
          cases impossible
        · intro ⟨_, impossible, _⟩
          cases impossible
  · intro met
    rw [met]
    exact ⟨allotted definition tokens, rfl, allotment_allotted distinct tokens⟩

/-- A flag in the middle leaves the words their positions, and two of the three words
are surplus. -/
theorem resolve_allots_search :
    (Search.inDirectoryDefinition.parameters.map Parameter.name).Nodup ∧
      ∃ arguments, resolve Search.inDirectoryDefinition
          ["needle", "--dir", "src", "with", "spaces"] = .ok ⟨"search_dir", arguments⟩ ∧
        arguments.get? "dir" = some "src" ∧
        arguments.get? "search_term" = some "needle with spaces" := by
  have distinct : (Search.inDirectoryDefinition.parameters.map Parameter.name).Nodup := by decide
  rcases (resolve_allots Search.inDirectoryDefinition distinct
    ["needle", "--dir", "src", "with", "spaces"]).2 (by decide) with ⟨arguments, resolved, given⟩
  have flag := given.byFlag "dir" "src" (by decide)
  have word := given.byPosition 0
    ⟨"search_term", "string", "the term to search for", true⟩ "needle" (by decide) (by decide)
  exact ⟨distinct, arguments, resolved, flag, word⟩

end Reading

end Workbench
