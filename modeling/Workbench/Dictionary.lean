namespace Workbench

/-!
Dictionaries with text keys.  The entries stand in strictly increasing order of
their keys, so a dictionary lists its entries in one way only and every key once.
The order of texts is the order of their characters' code points, which is also
the order of their encoded bytes.
-/

namespace Entry

variable {Value : Type}

/-- Puts a value under a key into a list of entries sorted by key; a value that
stood under this key gives way. -/
def insert (key : String) (value : Value) : List (String × Value) → List (String × Value)
  | [] => [(key, value)]
  | (other, held) :: rest =>
    if key < other then (key, value) :: (other, held) :: rest
    else if key = other then (key, value) :: rest
    else (other, held) :: insert key value rest

def erase (key : String) (entries : List (String × Value)) : List (String × Value) :=
  entries.filter (fun entry => entry.1 != key)

def find? (key : String) : List (String × Value) → Option Value
  | [] => none
  | (other, held) :: rest => if key = other then some held else find? key rest

/-- The keys of a list of entries increase strictly. -/
def Ordered (entries : List (String × Value)) : Prop :=
  entries.Pairwise (fun left right => left.1 < right.1)

theorem mem_insert {key : String} {value : Value} {entries : List (String × Value)}
    {entry : String × Value} (member : entry ∈ insert key value entries) :
    entry = (key, value) ∨ entry ∈ entries := by
  induction entries with
  | nil => simpa [insert] using member
  | cons first rest inductionHypothesis =>
      unfold insert at member
      split at member
      · simpa using member
      · split at member
        · simp only [List.mem_cons] at member ⊢
          rcases member with here | later
          · exact Or.inl here
          · exact Or.inr (Or.inr later)
        · simp only [List.mem_cons] at member ⊢
          rcases member with here | later
          · exact Or.inr (Or.inl here)
          · rcases inductionHypothesis later with new | old
            · exact Or.inl new
            · exact Or.inr (Or.inr old)

theorem ordered_insert (key : String) (value : Value) (entries : List (String × Value))
    (ordered : Ordered entries) : Ordered (insert key value entries) := by
  induction entries with
  | nil => simp [insert, Ordered]
  | cons first rest inductionHypothesis =>
      simp only [Ordered, List.pairwise_cons] at ordered inductionHypothesis
      unfold insert
      split
      · rename_i smaller
        simp only [Ordered, List.pairwise_cons, List.mem_cons]
        refine ⟨?_, ordered⟩
        intro entry member
        rcases member with here | later
        · simpa [here] using smaller
        · exact String.lt_trans smaller (ordered.1 entry later)
      · split
        · rename_i same
          subst same
          simp only [Ordered, List.pairwise_cons]
          exact ordered
        · rename_i notSmaller different
          simp only [Ordered, List.pairwise_cons]
          refine ⟨?_, inductionHypothesis ordered.2⟩
          intro entry member
          rcases mem_insert member with new | old
          · subst new
            rcases Std.Trichotomous.rel_or_eq_or_rel_swap (r := (· < · : String → String → Prop)) (a := first.1) (b := key) with less | same | greater
            · exact less
            · exact absurd same.symm different
            · exact absurd greater notSmaller
          · exact ordered.1 entry old

theorem ordered_erase (key : String) (entries : List (String × Value))
    (ordered : Ordered entries) : Ordered (erase key entries) :=
  List.Pairwise.filter _ ordered

end Entry

/-- A finite map from texts to values, listed by increasing key. -/
structure Dictionary (Value : Type) where
  entries : List (String × Value)
  ordered : Entry.Ordered entries

namespace Dictionary

variable {Value : Type}

def empty : Dictionary Value :=
  ⟨[], List.Pairwise.nil⟩

def get? (dictionary : Dictionary Value) (key : String) : Option Value :=
  Entry.find? key dictionary.entries

def contains (dictionary : Dictionary Value) (key : String) : Bool :=
  (dictionary.get? key).isSome

/-- The dictionary with this value under this key and all else unchanged. -/
def insert (dictionary : Dictionary Value) (key : String) (value : Value) : Dictionary Value :=
  ⟨Entry.insert key value dictionary.entries, Entry.ordered_insert key value _ dictionary.ordered⟩

/-- The dictionary without a value under this key and all else unchanged. -/
def erase (dictionary : Dictionary Value) (key : String) : Dictionary Value :=
  ⟨Entry.erase key dictionary.entries, Entry.ordered_erase key _ dictionary.ordered⟩

def size (dictionary : Dictionary Value) : Nat :=
  dictionary.entries.length

/-- The dictionary of a list of entries; of two entries under one key the later
one stands. -/
def ofList (entries : List (String × Value)) : Dictionary Value :=
  entries.foldl (fun dictionary entry => dictionary.insert entry.1 entry.2) empty

end Dictionary

end Workbench
