import Workbench.Proofs.Command.Forms
import Workbench.Proofs.Command.Registration
import Workbench.Proofs.Command.Sorting
namespace Workbench

/-!
# Arranging words and flags

Behind the name of a tool, words and pairs of a flag and its value may stand in any
arrangement.  Three things are read off it: the words in their order, and for every
name the values that flags give to it, in their order.  Nothing else shows in what a
command comes to, neither where the pairs stand between the words nor how pairs of
different names follow each other.
-/

namespace Reading

/-- A piece of a single-line command: a word, or a flag with its value. -/
inductive Item where
  | word (token : String) (plain : ¬ IsFlag token)
  | pair (token value : String) (flag : IsFlag token) (plain : ¬ IsFlag value)

namespace Item

/-- The tokens of an item. -/
def tokens : Item → List String
  | word token _ => [token]
  | pair token value _ _ => [token, value]

def word? : Item → Option String
  | word token _ => some token
  | pair _ _ _ _ => none

/-- The name of a flag, with its value. -/
def entry? : Item → Option (String × String)
  | word _ _ => none
  | pair token value _ _ => some (undashed token, value)

end Item

/-- The words of items, in order. -/
def wordsOf (items : List Item) : List String :=
  items.filterMap Item.word?

/-- The values that the flags among items give to a name, in order. -/
def valuesOf (name : String) (items : List Item) : List String :=
  Entry.values name (items.filterMap Item.entry?)

theorem sort_items (items : List Item) :
    sort (items.flatMap Item.tokens) = ⟨items.filterMap Item.entry?, wordsOf items⟩ := by
  induction items with
  | nil => rfl
  | cons item others inductionHypothesis =>
      rw [List.flatMap_cons]
      cases item with
      | word token plain =>
          have shown := sort_word (flagName?_of_not_isFlag plain) (others.flatMap Item.tokens)
          rw [inductionHypothesis] at shown
          exact shown
      | pair token value flag plain =>
          have shown := sort_pair (flagName?_of_isFlag flag) (flagName?_of_not_isFlag plain)
            (others.flatMap Item.tokens)
          rw [inductionHypothesis] at shown
          exact shown

/-- Of the sorted tokens, only the words and the dictionary of the flags are used. -/
theorem resolve_congr (definition : Definition) {left right : List String}
    (sameWords : (sort left).words = (sort right).words)
    (sameFlags : Dictionary.ofList (sort left).flags = Dictionary.ofList (sort right).flags) :
    resolve definition left = resolve definition right := by
  simp only [resolve, sameWords, sameFlags]

variable {Action : Type}

/-- Two single-line commands for a tool that have the same words in the same order,
and for every name the same values in the same order, are read alike: both give the
same arguments, or both miss the same argument. -/
theorem read_of_rearranged {catalog : Catalog Action} {definition : Definition}
    {left right : String} {leftLine rightLine : List Char}
    (leftForm : SingleLine catalog.find? left definition leftLine)
    (rightForm : SingleLine catalog.find? right definition rightLine)
    {leftItems rightItems : List Item}
    (leftTokens : operands leftLine = leftItems.flatMap Item.tokens)
    (rightTokens : operands rightLine = rightItems.flatMap Item.tokens)
    (sameWords : wordsOf leftItems = wordsOf rightItems)
    (sameValues : ∀ name, valuesOf name leftItems = valuesOf name rightItems) :
    read catalog.find? left = read catalog.find? right ∧
      ((∃ arguments, read catalog.find? left = .ok (some ⟨definition.name, arguments⟩)) ∨
        ∃ argument,
          read catalog.find? left = .error (.missingArgument definition.name argument)) := by
  have resolved : resolve definition (operands leftLine) =
      resolve definition (operands rightLine) := by
    rw [leftTokens, rightTokens]
    apply resolve_congr
    · rw [sort_items, sort_items]
      exact sameWords
    · rw [sort_items, sort_items]
      exact Dictionary.ofList_congr sameValues
  rw [read_of_singleLine leftForm, read_of_singleLine rightForm, single, single]
  constructor
  · rw [resolved]
  · rcases resolve_cases definition (operands leftLine) with
      ⟨arguments, given⟩ | ⟨argument, missed⟩
    · exact Or.inl ⟨arguments, by rw [given]; rfl⟩
    · exact Or.inr ⟨argument, by rw [missed]; rfl⟩

/-- Two flags change places around a word. -/
theorem read_of_rearranged_flags :
    read Sample.searching.find?
        "search_dir --dir src needle --case low" =
      read Sample.searching.find?
        "search_dir --case low needle --dir src" := by
  have leftForm : SingleLine Sample.searching.find?
      "search_dir --dir src needle --case low" Search.inDirectoryDefinition
      "search_dir --dir src needle --case low".toList := by
    have written : Text.lines (Text.trim "search_dir --dir src needle --case low".toList) =
      ["search_dir --dir src needle --case low".toList] := rfl
    exact SingleLine.whole written rfl (Or.inl rfl)
  have rightForm : SingleLine Sample.searching.find?
      "search_dir --case low needle --dir src" Search.inDirectoryDefinition
      "search_dir --case low needle --dir src".toList := by
    have written : Text.lines (Text.trim "search_dir --case low needle --dir src".toList) =
      ["search_dir --case low needle --dir src".toList] := rfl
    exact SingleLine.whole written rfl (Or.inl rfl)
  have needle : ¬ IsFlag "needle" := by decide
  have directory : IsFlag "--dir" := by decide
  have src : ¬ IsFlag "src" := by decide
  have caseFlag : IsFlag "--case" := by decide
  have low : ¬ IsFlag "low" := by decide
  have leftTokens : operands "search_dir --dir src needle --case low".toList =
      [Item.pair "--dir" "src" directory src, Item.word "needle" needle,
        Item.pair "--case" "low" caseFlag low].flatMap Item.tokens := by rfl
  have rightTokens : operands "search_dir --case low needle --dir src".toList =
      [Item.pair "--case" "low" caseFlag low, Item.word "needle" needle,
        Item.pair "--dir" "src" directory src].flatMap Item.tokens := by rfl
  refine (read_of_rearranged leftForm rightForm leftTokens rightTokens rfl ?_).1
  intro name
  by_cases first : name = "dir"
  · rw [first]
    rfl
  · by_cases second : name = "case"
    · rw [second]
      rfl
    · have notDirectory : undashed "--dir" ≠ name := fun same => first same.symm
      have notCase : undashed "--case" ≠ name := fun same => second same.symm
      simp only [valuesOf, List.filterMap_cons, List.filterMap_nil, Item.entry?,
        Entry.values_cons_of_ne notDirectory, Entry.values_cons_of_ne notCase]

end Reading

end Workbench
