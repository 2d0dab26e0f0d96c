import Mathlib.Data.List.Sort
import Workbench.Proofs.Tree.Making
import Workbench.Proofs.Tree.Names
namespace Workbench

/-!
# What a walk finds

A walk goes through all members of a directory, and a path looks for one member by its name.  Both
find the same files only if no name stands twice among the members of a directory, and only if the
names can be told apart in a path.  In a tree of a file system this is so.  Here it is named: such
a tree is *sound*.

In a sound tree the walk finds each regular file once whose names are not hidden, provided that
every directory on the way to it can be opened.  The last is a matter of the paths alone, which
grow on the way down: it is enough that the path of the lowest directory is not too long.

A walk goes down as soon as it meets a directory, and so it finds files in the order of the lists of
their names, compared by their bytes.  This order and what is found determine the walk.  A walk from
a lower directory is therefore the part of the walk from above that begins with the names of the way
down.
-/

namespace Place

/-- All directories on a way down can be opened: none of their paths is too long. -/
def Passes (place : Place) (more : List String) : Prop :=
  ∀ upper, upper <+: more → upper ≠ more → (place.below upper).encoded.length < Node.pathLimit

variable {place : Place} {name : String} {rest down more : List String}

theorem child_below (place : Place) (name : String) (rest : List String) :
    (place.child name).below rest = place.below (name :: rest) := by
  rw [child, below, below, List.append_assoc, List.singleton_append]

theorem passes_nil (place : Place) : place.Passes [] :=
  fun _ begins other => absurd (List.prefix_nil.mp begins) other

theorem passes_cons_iff :
    place.Passes (name :: rest) ↔
      place.encoded.length < Node.pathLimit ∧ (place.child name).Passes rest := by
  constructor
  · intro passes
    constructor
    · have start := passes [] List.nil_prefix (List.cons_ne_nil _ _).symm
      rwa [below_nil] at start
    · intro upper begins other
      rw [child_below]
      exact passes (name :: upper) (List.cons_prefix_cons.mpr ⟨rfl, begins⟩)
        (fun same => other (List.cons.inj same).2)
  · rintro ⟨start, later⟩ upper begins other
    cases upper with
    | nil => rwa [below_nil]
    | cons first others =>
        rcases List.cons_prefix_cons.mp begins with ⟨rfl, behind⟩
        rw [← child_below]
        exact later others behind (fun same => other (congrArg _ same))

/-- Where a directory can be opened, all those on the way to it can be. -/
theorem passes_append_iff (filled : more ≠ []) :
    place.Passes (down ++ more) ↔ (place.below down).Passes more := by
  constructor
  · intro passes upper begins other
    rw [below_below]
    exact passes (down ++ upper) ((List.prefix_append_right_inj down).mpr begins)
      (fun same => other (List.append_cancel_left same))
  · intro passes upper begins other
    rcases List.prefix_or_prefix_of_prefix begins (List.prefix_append down more) with
      ⟨between, rfl⟩ | ⟨lower, rfl⟩
    · have lowest := passes [] List.nil_prefix filled.symm
      rw [below_nil] at lowest
      exact Nat.lt_of_le_of_lt (length_encoded_below_le place upper between) lowest
    · rw [← below_below]
      exact passes lower ((List.prefix_append_right_inj down).mp begins)
        (fun same => other (congrArg _ same))

theorem holds_below_iff :
    (place.below down).holds (place.below more) = true ↔ down <+: more := by
  rw [holds, List.isPrefixOf_iff_prefix, components, components, below, below,
    List.prefix_append_right_inj, map_name_prefix_iff, List.prefix_append_right_inj]

/-- The names of a place, each as its bytes. -/
def bytes (place : Place) : List (List UInt8) :=
  place.names.map Name.bytes

/-- A slash is larger than a dot, but the names are compared one by one. -/
example : bytes ⟨false, ["a", "x"]⟩ < bytes ⟨false, ["a.txt"]⟩ ∧ "a.txt" < "a/x" := by
  decide +kernel

end Place

namespace Node

/-- A tree as a file system holds it: the members of every directory are in order, and so no name
stands twice, and all names are names of members. -/
inductive Sound : Node → Prop where
  | file (content : ByteArray) (executable : Bool) : Sound (file content executable)
  | link (target : String) : Sound (link target)
  | directory {members : List (String × Node)} (ordered : Entry.Ordered members)
      (named : ∀ entry ∈ members, MemberName entry.1) (each : ∀ entry ∈ members, Sound entry.2) :
      Sound (directory members)

variable {node : Node} {place : Place} {members : List (String × Node)} {found : Found}

theorem Sound.get? (sound : node.Sound) {names : List String} {found : Node}
    (got : node.get? names = some found) : found.Sound := by
  induction names generalizing node with
  | nil =>
      rw [get?_nil, Option.some.injEq] at got
      exact got ▸ sound
  | cons name rest inductionHypothesis =>
      rcases exists_members_of_get?_cons got with ⟨members, rfl⟩
      cases sound with
      | directory ordered named each =>
          rw [get?_directory_cons, Option.bind_eq_some_iff] at got
          rcases got with ⟨child, held, below⟩
          exact inductionHypothesis (each _ (Entry.mem_of_find? held)) below

theorem Sound.memberName (sound : node.Sound) {names : List String} {found : Node}
    (got : node.get? names = some found) : ∀ name ∈ names, MemberName name := by
  induction names generalizing node with
  | nil => exact List.forall_mem_nil _
  | cons name rest inductionHypothesis =>
      rcases exists_members_of_get?_cons got with ⟨members, rfl⟩
      cases sound with
      | directory ordered named each =>
          rw [get?_directory_cons, Option.bind_eq_some_iff] at got
          rcases got with ⟨child, held, below⟩
          have member := Entry.mem_of_find? held
          exact List.forall_mem_cons.mpr
            ⟨named _ member, inductionHypothesis (each _ member) below⟩

theorem find?_eq_some_of_mem (ordered : Entry.Ordered members) {entry : String × Node}
    (member : entry ∈ members) : Entry.find? entry.1 members = some entry.2 :=
  (Entry.find?_eq_some_iff ordered).mpr member

/-- Names lead from a directory to a file through one of its members. -/
theorem get?_directory_eq_file_iff (ordered : Entry.Ordered members) {more : List String}
    {content : ByteArray} {executable : Bool} :
    (directory members).get? more = some (file content executable) ↔
      ∃ entry ∈ members, ∃ rest, more = entry.1 :: rest ∧
        entry.2.get? rest = some (file content executable) := by
  constructor
  · intro got
    cases more with
    | nil => cases got
    | cons name rest =>
        rw [get?_directory_cons, Option.bind_eq_some_iff] at got
        rcases got with ⟨child, held, below⟩
        exact ⟨(name, child), Entry.mem_of_find? held, rest, rfl, below⟩
  · rintro ⟨entry, member, rest, rfl, below⟩
    rw [get?_directory_cons, find?_eq_some_of_mem ordered member]
    exact below

/-! ## The turns of the members -/

/-- The first member comes before the second one, by the bytes of their names. -/
def Earlier (first second : String × List Found) : Prop :=
  Name.bytes first.1 < Name.bytes second.1

theorem perm_inTurn (name : String) (below : List Found) (turns : List (String × List Found)) :
    (inTurn name below turns).Perm ((name, below) :: turns) := by
  induction turns with
  | nil => exact .rfl
  | cons other rest inductionHypothesis =>
      rw [inTurn]
      split
      · exact .rfl
      · exact (inductionHypothesis.cons other).trans (.swap _ _ _)

theorem pairwise_inTurn {name : String} {below : List Found} {turns : List (String × List Found)}
    (ordered : turns.Pairwise Earlier)
    (new : ∀ turn ∈ turns, Name.bytes turn.1 ≠ Name.bytes name) :
    (inTurn name below turns).Pairwise Earlier := by
  induction turns with
  | nil => exact List.pairwise_singleton _ _
  | cons other rest inductionHypothesis =>
      rcases List.pairwise_cons.mp ordered with ⟨first, later⟩
      rcases List.forall_mem_cons.mp new with ⟨here, others⟩
      rw [inTurn]
      split
      · rename_i smaller
        refine List.pairwise_cons.mpr ⟨List.forall_mem_cons.mpr ⟨smaller, ?_⟩, ordered⟩
        exact fun turn member => List.lt_trans smaller (first turn member)
      · rename_i larger
        refine List.pairwise_cons.mpr ⟨fun turn member => ?_, inductionHypothesis later others⟩
        rcases List.mem_cons.mp ((perm_inTurn _ _ _).mem_iff.mp member) with rfl | beside
        · exact Std.lt_of_le_of_ne larger here
        · exact first turn beside

/-- What a walk finds in a directory is what it finds at the members that are not hidden. -/
theorem mem_ofMembers {turn : String × List Found} :
    turn ∈ filesBelow.ofMembers place members ↔
      ∃ entry ∈ members, isHidden entry.1 = false ∧
        turn = (entry.1, filesBelow (place.child entry.1) entry.2) := by
  induction members with
  | nil => simp [filesBelow.ofMembers]
  | cons first rest inductionHypothesis =>
      rcases first with ⟨name, child⟩
      rw [filesBelow.ofMembers, List.exists_mem_cons_iff, ← inductionHypothesis]
      cases hidden : isHidden name with
      | true => simp
      | false => simp [(perm_inTurn _ _ _).mem_iff]

theorem pairwise_ofMembers (place : Place) (ordered : Entry.Ordered members)
    (named : ∀ entry ∈ members, MemberName entry.1) :
    (filesBelow.ofMembers place members).Pairwise Earlier := by
  induction members with
  | nil => exact List.Pairwise.nil
  | cons first rest inductionHypothesis =>
      rcases first with ⟨name, child⟩
      rcases List.pairwise_cons.mp ordered with ⟨smallest, later⟩
      rcases List.forall_mem_cons.mp named with ⟨here, others⟩
      have rest := inductionHypothesis later others
      rw [filesBelow.ofMembers]
      split
      · exact rest
      · refine pairwise_inTurn rest (fun turn member same => ?_)
        rcases mem_ofMembers.mp member with ⟨entry, listed, _, rfl⟩
        have smaller : name < entry.1 := smallest entry listed
        rw [(others entry listed).eq_of_bytes here same] at smaller
        exact String.lt_irrefl _ smaller

/-! ## The files of a walk -/

theorem mem_filesBelow_directory :
    found ∈ filesBelow place (directory members) ↔
      place.encoded.length < pathLimit ∧
        ∃ entry ∈ members, isHidden entry.1 = false ∧
          found ∈ filesBelow (place.child entry.1) entry.2 := by
  rw [filesBelow]
  by_cases long : pathLimit ≤ place.encoded.length
  · rw [if_pos long]
    exact ⟨nofun, fun short => absurd long (Nat.not_le.mpr short.1)⟩
  · rw [if_neg long, List.mem_flatMap]
    constructor
    · rintro ⟨turn, member, inside⟩
      rcases mem_ofMembers.mp member with ⟨entry, listed, visible, rfl⟩
      exact ⟨Nat.not_le.mp long, entry, listed, visible, inside⟩
    · rintro ⟨_, entry, listed, visible, inside⟩
      exact ⟨_, mem_ofMembers.mpr ⟨entry, listed, visible, rfl⟩, inside⟩

/-- A walk finds the regular files to which names lead that are not hidden, through directories that
can be opened. -/
theorem mem_filesBelow_iff (sound : node.Sound) :
    found ∈ filesBelow place node ↔
      ∃ more executable, found.place = place.below more ∧
        node.get? more = some (file found.content executable) ∧
        (∀ name ∈ more, isHidden name = false) ∧ place.Passes more := by
  induction sound generalizing place with
  | file content executable =>
      rw [filesBelow, List.mem_singleton]
      constructor
      · rintro rfl
        exact ⟨[], executable, (Place.below_nil place).symm, get?_nil _, List.forall_mem_nil _,
          Place.passes_nil place⟩
      · rintro ⟨more, flag, there, got, _, _⟩
        cases more with
        | nil =>
            rw [Place.below_nil] at there
            rcases found with ⟨spot, held⟩
            cases got
            cases there
            rfl
        | cons name rest => cases got
  | link target =>
      rw [filesBelow]
      refine ⟨nofun, ?_⟩
      rintro ⟨more, flag, _, got, _, _⟩
      cases more with
      | nil => cases got
      | cons name rest => cases got
  | @directory members ordered named each inductionHypothesis =>
      rw [mem_filesBelow_directory]
      constructor
      · rintro ⟨short, entry, member, visible, walked⟩
        rcases (inductionHypothesis entry member).mp walked with
          ⟨rest, executable, there, got, shown, passes⟩
        rw [Place.child_below] at there
        exact ⟨entry.1 :: rest, executable, there,
          (get?_directory_eq_file_iff ordered).mpr ⟨entry, member, rest, rfl, got⟩,
          List.forall_mem_cons.mpr ⟨visible, shown⟩, Place.passes_cons_iff.mpr ⟨short, passes⟩⟩
      · rintro ⟨more, executable, there, got, shown, passes⟩
        rcases (get?_directory_eq_file_iff ordered).mp got with ⟨entry, member, rest, rfl, below⟩
        rcases List.forall_mem_cons.mp shown with ⟨visible, later⟩
        rcases Place.passes_cons_iff.mp passes with ⟨short, lower⟩
        rw [← Place.child_below] at there
        exact ⟨short, entry, member, visible,
          (inductionHypothesis entry member).mpr ⟨rest, executable, there, below, later, lower⟩⟩

/-- The names of the first file come before those of the second one, compared name by name. -/
def Found.Before (earlier later : Found) : Prop :=
  earlier.place.bytes < later.place.bytes

instance : Std.Irrefl Found.Before :=
  ⟨fun found => List.lt_irrefl found.place.bytes⟩

instance : Std.Antisymm Found.Before :=
  ⟨fun _ _ smaller larger => absurd larger (List.lt_asymm smaller)⟩

/-- Two files below members of one directory are ordered like the members. -/
theorem before_of_earlier {first second : String} (smaller : Name.bytes first < Name.bytes second)
    {earlier later : Found} {front back : List String}
    (above : earlier.place = (place.child first).below front)
    (beside : later.place = (place.child second).below back) : earlier.Before later := by
  rw [Found.Before, above, beside, Place.child_below, Place.child_below, Place.bytes, Place.bytes,
    Place.below, Place.below, List.map_append, List.map_append]
  exact List.append_left_lt (List.cons_lt_cons_iff.mpr (Or.inl smaller))

/-- A walk finds files in the order of their names. -/
theorem pairwise_filesBelow (sound : node.Sound) (place : Place) :
    (filesBelow place node).Pairwise Found.Before := by
  induction sound generalizing place with
  | file content executable => exact List.pairwise_singleton _ _
  | link target => exact List.Pairwise.nil
  | @directory members ordered named each inductionHypothesis =>
      rw [filesBelow]
      split
      · exact List.Pairwise.nil
      · rw [List.pairwise_flatMap]
        constructor
        · intro turn member
          rcases mem_ofMembers.mp member with ⟨entry, listed, _, rfl⟩
          exact inductionHypothesis entry listed (place.child entry.1)
        · -- what is found at a member continues its name
          refine (pairwise_ofMembers place ordered named).imp_of_mem ?_
          intro first second one other smaller earlier below later beside
          rcases mem_ofMembers.mp one with ⟨_, listed, _, rfl⟩
          rcases mem_ofMembers.mp other with ⟨_, among, _, rfl⟩
          rcases (mem_filesBelow_iff (each _ listed)).mp below with ⟨front, _, above, _⟩
          rcases (mem_filesBelow_iff (each _ among)).mp beside with ⟨back, _, further, _⟩
          exact before_of_earlier smaller above further

/-- A walk finds every file once. -/
theorem nodup_filesBelow (sound : node.Sound) (place : Place) :
    ((filesBelow place node).map Found.place).Nodup := by
  refine List.pairwise_map.mpr ((pairwise_filesBelow sound place).imp ?_)
  intro earlier later smaller same
  rw [Found.Before, same] at smaller
  exact List.lt_irrefl _ smaller

/-! ## Walks from below -/

theorem filled_of_get? {more : List String} {content : ByteArray} {executable : Bool}
    (got : (directory members).get? more = some (file content executable)) : more ≠ [] := by
  rintro rfl
  cases got

/-- A walk from a lower directory finds what the walk from above finds at or below that place. -/
theorem filesBelow_below (sound : node.Sound) (place : Place) {down : List String}
    (got : node.get? down = some (directory members))
    (visible : ∀ name ∈ down, isHidden name = false) :
    filesBelow (place.below down) (directory members) =
      (filesBelow place node).filter (fun found => (place.below down).holds found.place) := by
  have inside : (directory members).Sound := sound.get? got
  refine List.Pairwise.eq_of_mem_iff (pairwise_filesBelow inside _)
    ((pairwise_filesBelow sound place).filter _) ?_
  intro found
  rw [List.mem_filter, mem_filesBelow_iff inside, mem_filesBelow_iff sound]
  constructor
  · rintro ⟨more, executable, there, held, shown, passes⟩
    rw [Place.below_below] at there
    refine ⟨⟨down ++ more, executable, there, ?_, List.forall_mem_append.mpr ⟨visible, shown⟩,
      (Place.passes_append_iff (filled_of_get? held)).mpr passes⟩, ?_⟩
    · rw [get?_append_of_get? got, held]
    · rw [there, Place.holds_below_iff]
      exact List.prefix_append _ _
  · rintro ⟨⟨_, executable, there, held, shown, passes⟩, holds⟩
    rw [there, Place.holds_below_iff] at holds
    rcases holds with ⟨more, rfl⟩
    rw [get?_append_of_get? got] at held
    refine ⟨more, executable, ?_, held, (List.forall_mem_append.mp shown).2,
      (Place.passes_append_iff (filled_of_get? held)).mp passes⟩
    rw [there, Place.below_below]

end Node

end Workbench
