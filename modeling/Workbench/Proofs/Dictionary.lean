import Workbench.Dictionary
import Mathlib.Data.List.Sort
namespace Workbench

/-!
# What a dictionary holds

A list of entries is read at the first entry under a key, and a dictionary, whose
keys increase, holds each key once.  So the values under its keys say everything
about it: two dictionaries that give the same value under every key are the same.
A dictionary made from a list of entries gives the last value that the list has
under a key, and no order of the other entries shows in it.
-/

namespace Entry

variable {Value : Type}

theorem find?_insert_self (key : String) (value : Value) (entries : List (String × Value)) :
    find? key (insert key value entries) = some value := by
  induction entries with
  | nil => simp [insert, find?]
  | cons entry rest inductionHypothesis =>
      unfold insert
      split
      · simp [find?]
      · split
        · simp [find?]
        · rename_i different
          rw [find?, if_neg different, inductionHypothesis]

theorem find?_insert_of_ne {key other : String} (different : other ≠ key) (value : Value)
    (entries : List (String × Value)) :
    find? other (insert key value entries) = find? other entries := by
  induction entries with
  | nil => simp [insert, find?, different]
  | cons entry rest inductionHypothesis =>
      unfold insert
      split
      · rw [find?, if_neg different]
      · split
        · rename_i same
          rw [find?, if_neg different, find?, ← same, if_neg different]
        · rw [find?, find?, inductionHypothesis]

theorem mem_of_find? {key : String} {value : Value} {entries : List (String × Value)}
    (found : find? key entries = some value) : (key, value) ∈ entries := by
  induction entries with
  | nil => cases found
  | cons entry rest inductionHypothesis =>
      unfold find? at found
      split at found
      · rename_i same
        rw [same, ← Option.some.inj found]
        exact List.mem_cons_self
      · exact List.mem_cons_of_mem entry (inductionHypothesis found)

theorem isSome_find?_iff {key : String} {entries : List (String × Value)} :
    (find? key entries).isSome = true ↔ key ∈ entries.map Prod.fst := by
  induction entries with
  | nil => simp [find?]
  | cons entry rest inductionHypothesis =>
      rw [find?, List.map_cons, List.mem_cons, ← inductionHypothesis]
      split
      · rename_i same
        exact iff_of_true rfl (Or.inl same)
      · rename_i different
        rw [or_iff_right different]

theorem find?_erase (key other : String) (entries : List (String × Value)) :
    find? other (erase key entries) = if other = key then none else find? other entries := by
  induction entries with
  | nil => simp [erase, find?]
  | cons entry rest inductionHypothesis =>
      rw [erase] at inductionHypothesis ⊢
      by_cases erased : entry.1 = key
      · rw [List.filter_cons_of_neg (by simp [erased]), inductionHypothesis, find?, erased]
        by_cases same : other = key
        · rw [if_pos same, if_pos same]
        · rw [if_neg same, if_neg same, if_neg same]
      · rw [List.filter_cons_of_pos (by simp [erased]), find?, find?, inductionHypothesis]
        by_cases same : other = entry.1
        · rw [if_pos same, if_pos same, if_neg (same ▸ erased)]
        · rw [if_neg same, if_neg same]

/-- The values under a key, in order. -/
def values (key : String) (entries : List (String × Value)) : List Value :=
  entries.filterMap (fun entry => if entry.1 = key then some entry.2 else none)

theorem values_cons_self (key : String) (value : Value) (rest : List (String × Value)) :
    values key ((key, value) :: rest) = value :: values key rest := by
  simp [values]

theorem values_cons_of_ne {key other : String} (different : other ≠ key) (value : Value)
    (rest : List (String × Value)) : values key ((other, value) :: rest) = values key rest := by
  simp [values, different]

theorem values_eq_nil {key : String} {entries : List (String × Value)}
    (absent : ∀ entry ∈ entries, entry.1 ≠ key) : values key entries = [] := by
  apply List.filterMap_eq_nil_iff.mpr
  intro entry member
  rw [if_neg (absent entry member)]

theorem mem_values_iff {key : String} {value : Value} {entries : List (String × Value)} :
    value ∈ values key entries ↔ (key, value) ∈ entries := by
  constructor
  · intro listed
    rcases List.mem_filterMap.mp listed with ⟨entry, member, chosen⟩
    by_cases same : entry.1 = key
    · rw [if_pos same, Option.some.injEq] at chosen
      rw [← same, ← chosen]
      exact member
    · rw [if_neg same] at chosen
      cases chosen
  · intro member
    exact List.mem_filterMap.mpr ⟨(key, value), member, if_pos rfl⟩

/-- Entries in order have a key at most once. -/
theorem values_of_ordered (key : String) {entries : List (String × Value)}
    (ordered : Ordered entries) : values key entries = (find? key entries).toList := by
  induction entries with
  | nil => rfl
  | cons first rest inductionHypothesis =>
      rcases List.pairwise_cons.mp ordered with ⟨before, orderedRest⟩
      by_cases same : key = first.1
      · have absent : ∀ entry ∈ rest, entry.1 ≠ key := by
          intro entry member again
          have less := before entry member
          rw [again, same] at less
          exact absurd less (String.lt_irrefl first.1)
        rw [same, values_cons_self, ← same, values_eq_nil absent, find?, if_pos same]
        rfl
      · rw [values_cons_of_ne (fun equal => same equal.symm), find?, if_neg same]
        exact inductionHypothesis orderedRest

theorem find?_eq_some_iff {key : String} {value : Value} {entries : List (String × Value)}
    (ordered : Ordered entries) : find? key entries = some value ↔ (key, value) ∈ entries := by
  rw [← mem_values_iff, values_of_ordered key ordered, Option.mem_toList]

end Entry

namespace Dictionary

variable {Value : Type}

/-- Dictionaries that give the same value under every key are the same. -/
theorem eq_of_get? {left right : Dictionary Value}
    (same : ∀ key, left.get? key = right.get? key) : left = right := by
  have irreflexive :
      Std.Irrefl (fun first second : String × Value => first.1 < second.1) :=
    ⟨fun entry => String.lt_irrefl entry.1⟩
  have antisymmetric :
      Std.Antisymm (fun first second : String × Value => first.1 < second.1) :=
    ⟨fun first second less greater => absurd greater (String.lt_asymm less)⟩
  have entries : left.entries = right.entries := by
    apply List.Pairwise.eq_of_mem_iff left.ordered right.ordered
    intro entry
    rw [← Entry.find?_eq_some_iff left.ordered, ← Entry.find?_eq_some_iff right.ordered]
    have agree : Entry.find? entry.1 left.entries = Entry.find? entry.1 right.entries :=
      same entry.1
    rw [agree]
  cases left
  cases right
  cases entries
  rfl

theorem get?_empty (key : String) : (empty : Dictionary Value).get? key = none := rfl

theorem get?_insert (dictionary : Dictionary Value) (key other : String) (value : Value) :
    (dictionary.insert key value).get? other =
      if other = key then some value else dictionary.get? other := by
  by_cases same : other = key
  · rw [if_pos same, same]
    exact Entry.find?_insert_self key value dictionary.entries
  · rw [if_neg same]
    exact Entry.find?_insert_of_ne same value dictionary.entries

theorem get?_erase (dictionary : Dictionary Value) (key other : String) :
    (dictionary.erase key).get? other = if other = key then none else dictionary.get? other :=
  Entry.find?_erase key other dictionary.entries

/-- The entries of a dictionary are its keys with their values. -/
theorem mem_entries_iff {dictionary : Dictionary Value} {key : String} {value : Value} :
    (key, value) ∈ dictionary.entries ↔ dictionary.get? key = some value :=
  (Entry.find?_eq_some_iff dictionary.ordered).symm

/-- A dictionary has a value under the keys that it lists. -/
theorem contains_iff {dictionary : Dictionary Value} {key : String} :
    dictionary.contains key = true ↔ key ∈ dictionary.entries.map Prod.fst :=
  Entry.isSome_find?_iff

theorem contains_insert (dictionary : Dictionary Value) (key other : String) (value : Value) :
    (dictionary.insert key value).contains other = (other == key || dictionary.contains other) := by
  rw [contains, contains, get?_insert]
  by_cases same : other = key
  · simp [same]
  · simp [same]

theorem contains_insert_of_ne (dictionary : Dictionary Value) {key other : String}
    (different : other ≠ key) (value : Value) :
    (dictionary.insert key value).contains other = dictionary.contains other := by
  rw [contains, contains, get?_insert, if_neg different]

/-- Entries put in one after the other: the last value under a key stands. -/
theorem get?_foldl_insert (entries : List (String × Value)) (dictionary : Dictionary Value)
    (key : String) :
    (entries.foldl (fun filled entry => filled.insert entry.1 entry.2) dictionary).get? key =
      (Entry.values key entries).getLast?.or (dictionary.get? key) := by
  induction entries generalizing dictionary with
  | nil => rfl
  | cons first rest inductionHypothesis =>
      rw [List.foldl_cons, inductionHypothesis, get?_insert]
      by_cases same : key = first.1
      · rw [if_pos same, same, Entry.values_cons_self, List.getLast?_cons]
        cases (Entry.values first.1 rest).getLast? <;> rfl
      · rw [if_neg same, Entry.values_cons_of_ne (fun equal => same equal.symm)]

theorem get?_ofList (entries : List (String × Value)) (key : String) :
    (ofList entries).get? key = (Entry.values key entries).getLast? := by
  rw [ofList, get?_foldl_insert, get?_empty, Option.or_none]

/-- Only the order of the values under one key shows in a dictionary. -/
theorem ofList_congr {left right : List (String × Value)}
    (same : ∀ key, Entry.values key left = Entry.values key right) :
    ofList left = ofList right := by
  apply eq_of_get?
  intro key
  rw [get?_ofList, get?_ofList, same key]

/-- The entries of a dictionary, in any order, make it again. -/
theorem ofList_of_perm {entries : List (String × Value)} {dictionary : Dictionary Value}
    (order : entries.Perm dictionary.entries) : ofList entries = dictionary := by
  apply eq_of_get?
  intro key
  have listed : (Entry.values key entries).Perm (dictionary.get? key).toList := by
    rw [get?, ← Entry.values_of_ordered key dictionary.ordered]
    exact order.filterMap _
  rw [get?_ofList]
  cases found : dictionary.get? key with
  | none =>
      rw [found] at listed
      rw [listed.eq_nil]
      rfl
  | some value =>
      rw [found] at listed
      rw [List.perm_singleton.mp listed]
      rfl

end Dictionary

end Workbench
