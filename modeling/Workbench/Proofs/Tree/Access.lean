import Workbench.Proofs.Dictionary
import Workbench.Tree.Node
namespace Workbench

/-!
# Nodes by their names

Getting and setting follow the same names, so each is a law about the other.
Two views of a tree carry these laws.  The first is the node at a list of names,
with everything below it.  The second is the face of that node: a face tells a
file with its content from a link with its target and from a directory, but it
says nothing about members.  Setting a node far below changes the node of every
directory on the way and the face of none, so what a command leaves alone is
said of faces.

Nothing here asks for members in order.  A list of members that holds a name
twice is read and changed at the first of the two.
-/

/-- What stands at a list of names, the members of a directory left aside. -/
inductive Face where
  | file (content : ByteArray) (executable : Bool)
  | link (target : String)
  | directory

/-- What kind of node stands at a list of names. -/
inductive Shape where
  | file
  | link (target : String)
  | directory
  deriving DecidableEq

/-- The kind of a face. -/
def Face.shape : Face → Shape
  | .file _ _ => .file
  | .link target => .link target
  | .directory => .directory

namespace Node

/-- The face of a node. -/
def face : Node → Face
  | .file content executable => .file content executable
  | .link target => .link target
  | .directory _ => .directory

/-- The face of the node that the names lead to. -/
def faceAt? (tree : Node) (names : List String) : Option Face :=
  (tree.get? names).map face

/-- The kind of the node that the names lead to. -/
def shapeAt? (tree : Node) (names : List String) : Option Shape :=
  (tree.faceAt? names).map Face.shape

/-- A tree in which no name leads to a symbolic link. -/
def Linkless (tree : Node) : Prop :=
  ∀ names target, tree.faceAt? names ≠ some (.link target)

/-- A node below which nothing stands. -/
def Leaf (node : Node) : Prop :=
  ∀ name rest, node.get? (name :: rest) = none

/-! ## Getting -/

@[simp] theorem get?_nil (node : Node) : node.get? [] = some node := by
  cases node <;> rfl

@[simp] theorem get?_directory_cons (members : List (String × Node)) (name : String)
    (rest : List String) :
    (directory members).get? (name :: rest) =
      (Entry.find? name members).bind (fun child => child.get? rest) := by
  rw [get?]
  cases Entry.find? name members <;> rfl

theorem leaf_file (content : ByteArray) (executable : Bool) : (file content executable).Leaf :=
  fun _ _ => rfl

theorem leaf_link (target : String) : (link target).Leaf :=
  fun _ _ => rfl

theorem leaf_emptyDirectory : emptyDirectory.Leaf :=
  fun _ _ => rfl

/-- Only a directory has anything below it. -/
theorem exists_members_of_get?_cons {node found : Node} {name : String} {rest : List String}
    (got : node.get? (name :: rest) = some found) : ∃ members, node = directory members := by
  cases node with
  | file content executable => rw [leaf_file content executable name rest] at got; cases got
  | link target => rw [leaf_link target name rest] at got; cases got
  | directory members => exact ⟨members, rfl⟩

theorem get?_append (node : Node) (above below : List String) :
    node.get? (above ++ below) = (node.get? above).bind (fun found => found.get? below) := by
  induction above generalizing node with
  | nil => rw [List.nil_append, get?_nil, Option.bind_some]
  | cons name rest inductionHypothesis =>
      cases node with
      | file content executable => rfl
      | link target => rfl
      | directory members =>
          rw [List.cons_append, get?_directory_cons, get?_directory_cons]
          cases Entry.find? name members with
          | none => rfl
          | some child => exact inductionHypothesis child

theorem get?_append_of_get? {node found : Node} {above : List String}
    (reached : node.get? above = some found) (below : List String) :
    node.get? (above ++ below) = found.get? below := by
  rw [get?_append, reached, Option.bind_some]

theorem faceAt?_eq_directory_iff {tree : Node} {names : List String} :
    tree.faceAt? names = some .directory ↔
      ∃ members, tree.get? names = some (directory members) := by
  rw [faceAt?, Option.map_eq_some_iff]
  constructor
  · rintro ⟨found, got, same⟩
    cases found with
    | file content executable => cases same
    | link target => cases same
    | directory members => exact ⟨members, got⟩
  · rintro ⟨members, got⟩
    exact ⟨_, got, rfl⟩

/-- What lies further down lies in a directory. -/
theorem faceAt?_above {tree found : Node} {above rest : List String} (filled : rest ≠ [])
    (got : tree.get? (above ++ rest) = some found) : tree.faceAt? above = some .directory := by
  rw [get?_append, Option.bind_eq_some_iff] at got
  rcases got with ⟨node, there, below⟩
  rcases List.exists_cons_of_ne_nil filled with ⟨first, others, rfl⟩
  rcases exists_members_of_get?_cons below with ⟨members, rfl⟩
  exact faceAt?_eq_directory_iff.mpr ⟨members, there⟩

theorem get?_of_faceAt?_file {tree : Node} {names : List String} {content : ByteArray}
    {executable : Bool} (seen : tree.faceAt? names = some (.file content executable)) :
    tree.get? names = some (file content executable) := by
  rw [faceAt?, Option.map_eq_some_iff] at seen
  obtain ⟨found, got, same⟩ := seen
  cases found with
  | file other flag =>
      obtain ⟨sameContent, sameFlag⟩ := Face.file.inj same
      rw [got, sameContent, sameFlag]
  | link target => cases same
  | directory members => cases same

/-! ## Trees without links -/

theorem linkless_file (content : ByteArray) (executable : Bool) :
    (file content executable).Linkless := by
  intro names target linked
  cases names with
  | nil => cases linked
  | cons name rest => cases linked

theorem linkless_directory {members : List (String × Node)}
    (each : ∀ entry ∈ members, entry.2.Linkless) : (directory members).Linkless := by
  intro names target linked
  cases names with
  | nil => cases linked
  | cons name rest =>
      rw [faceAt?, get?_directory_cons] at linked
      cases found : Entry.find? name members with
      | none => rw [found] at linked; cases linked
      | some child =>
          rw [found] at linked
          exact each (name, child) (Entry.mem_of_find? found) rest target linked

/-! ## Setting -/

@[simp] theorem set_nil (node entry : Node) : node.set entry [] = entry := by
  cases node <;> rfl

@[simp] theorem set_directory_singleton (members : List (String × Node)) (entry : Node)
    (name : String) :
    (directory members).set entry [name] = directory (Entry.insert name entry members) := by
  rw [set]
  cases Entry.find? name members with
  | none => rfl
  | some child => simp only [set_nil]

theorem set_directory_of_find? {members : List (String × Node)} {name : String} {child : Node}
    (found : Entry.find? name members = some child) (entry : Node) (rest : List String) :
    (directory members).set entry (name :: rest) =
      directory (Entry.insert name (child.set entry rest) members) := by
  rw [set, found]

/-- Setting a node below another one sets it in that one. -/
theorem get?_set_append {tree within : Node} {above : List String}
    (reached : tree.get? above = some within) (entry : Node) (below : List String) :
    (tree.set entry (above ++ below)).get? above = some (within.set entry below) := by
  induction above generalizing tree with
  | nil =>
      rw [get?_nil, Option.some.injEq] at reached
      rw [reached, List.nil_append, get?_nil]
  | cons name rest inductionHypothesis =>
      obtain ⟨members, same⟩ := exists_members_of_get?_cons reached
      subst same
      rw [get?_directory_cons] at reached
      cases found : Entry.find? name members with
      | none => rw [found] at reached; cases reached
      | some child =>
          rw [found, Option.bind_some] at reached
          rw [List.cons_append, set_directory_of_find? found, get?_directory_cons,
            Entry.find?_insert_self, Option.bind_some]
          exact inductionHypothesis reached

/-- A directory stays one when something is set below it. -/
theorem exists_members_set_cons (members : List (String × Node)) (entry : Node) (name : String)
    (rest : List String) :
    ∃ changed, (directory members).set entry (name :: rest) = directory changed := by
  rw [set]
  cases Entry.find? name members with
  | none => cases rest.isEmpty <;> exact ⟨_, rfl⟩
  | some child => exact ⟨_, rfl⟩

/-- Setting a leaf in a directory, at a name below which nothing stands, gives
the leaf's face to that name and keeps every other face. -/
theorem faceAt?_set {tree leaf : Node} (bare : leaf.Leaf) {above : List String}
    {members : List (String × Node)} (holder : tree.get? above = some (directory members))
    {name : String} (clear : ∀ child, Entry.find? name members = some child → child.Leaf)
    (other : List String) :
    (tree.set leaf (above ++ [name])).faceAt? other =
      if other = above ++ [name] then some leaf.face else tree.faceAt? other := by
  -- along the names above the holder; below the new leaf nothing is found, before or after
  induction above generalizing tree other with
  | nil =>
      rw [get?_nil, Option.some.injEq] at holder
      rw [holder, List.nil_append, set_directory_singleton]
      cases other with
      | nil => simp [faceAt?, face]
      | cons first rest =>
          by_cases same : first = name
          · subst same
            cases rest with
            | nil => simp [faceAt?, Entry.find?_insert_self]
            | cons next later =>
                have before : (directory members).get? (first :: next :: later) = none := by
                  rw [get?_directory_cons]
                  cases found : Entry.find? first members with
                  | none => rfl
                  | some child => exact clear child found next later
                have after : (directory (Entry.insert first leaf members)).get?
                    (first :: next :: later) = none := by
                  rw [get?_directory_cons, Entry.find?_insert_self, Option.bind_some]
                  exact bare next later
                rw [if_neg (by simp), faceAt?, faceAt?, before, after]
          · simp [faceAt?, Entry.find?_insert_of_ne same, same]
  | cons step rest inductionHypothesis =>
      obtain ⟨listed, same⟩ := exists_members_of_get?_cons holder
      subst same
      rw [get?_directory_cons] at holder
      cases found : Entry.find? step listed with
      | none => rw [found] at holder; cases holder
      | some child =>
          rw [found, Option.bind_some] at holder
          rw [List.cons_append, set_directory_of_find? found]
          cases other with
          | nil => simp [faceAt?, face]
          | cons first later =>
              by_cases same : first = step
              · subst same
                have below := inductionHypothesis holder later
                simp only [faceAt?] at below ⊢
                simp only [get?_directory_cons, Entry.find?_insert_self, Option.bind_some, found,
                  below, List.cons.injEq, true_and]
              · simp [faceAt?, Entry.find?_insert_of_ne same, same]

/-- A node that is not the whole tree stands under its name in a directory. -/
theorem exists_holder_of_get? {tree found : Node} {above : List String} {name : String}
    (got : tree.get? (above ++ [name]) = some found) :
    ∃ members, tree.get? above = some (directory members) ∧
      Entry.find? name members = some found := by
  rw [get?_append] at got
  cases reached : tree.get? above with
  | none => rw [reached] at got; cases got
  | some node =>
      rw [reached, Option.bind_some] at got
      obtain ⟨members, same⟩ := exists_members_of_get?_cons got
      subst same
      rw [get?_directory_cons] at got
      cases held : Entry.find? name members with
      | none => rw [held] at got; cases got
      | some child =>
          rw [held, Option.bind_some, get?_nil] at got
          exact ⟨members, rfl, got ▸ held⟩

/-- Putting one leaf in the place of another changes the face there and no other. -/
theorem faceAt?_set_of_get? {tree leaf old : Node} (bare : leaf.Leaf) (oldBare : old.Leaf)
    {names : List String} (got : tree.get? names = some old) (other : List String) :
    (tree.set leaf names).faceAt? other =
      if other = names then some leaf.face else tree.faceAt? other := by
  rcases List.eq_nil_or_concat names with none | ⟨above, name, last⟩
  · subst none
    rw [get?_nil, Option.some.injEq] at got
    subst got
    rw [set_nil]
    cases other with
    | nil => simp [faceAt?]
    | cons first rest => simp [faceAt?, bare first rest, oldBare first rest]
  · rw [List.concat_eq_append] at last
    subst last
    obtain ⟨members, holder, held⟩ := exists_holder_of_get? got
    refine faceAt?_set bare holder (fun child found => ?_) other
    have same := Option.some.inj (found.symm.trans held)
    exact same ▸ oldBare

end Node

end Workbench
