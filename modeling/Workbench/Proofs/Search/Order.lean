import Workbench.Proofs.Search.Agreement
namespace Workbench

/-!
# The walk of a search, exact and in order

The searches of directories go through the files that a walk finds.  Whatever directory the walk
starts from, it finds exactly the regular files below it that are reached by names without a dot at
their beginning, through directories that can be opened; the names of the start itself do not count.
No link is found and none is passed, because names lead to nodes without looking through links.  A
directory whose path is too long cannot be opened, and a walk does not report this; it goes on
beside it.

A name begins with a dot if its first byte is one.  The walk asks this only of names that are UTF-8,
and so it is left open here whether a file is found below a name that begins with a dot and is not
UTF-8.

The files come in the order of their paths, compared name by name and each name by its bytes.  This
is not the order of the path texts: what lies in a directory comes before a file whose name goes on
with a dot where the directory's name ends, although the dot is a smaller byte than the slash.
-/

namespace Name

/-- The name begins with a dot. -/
def Dotted (name : String) : Prop :=
  (bytes name).head? = some 46

instance (name : String) : Decidable (Dotted name) :=
  inferInstanceAs (Decidable (_ = _))

theorem head?_encoded_eq_dot_iff {text : List Char} :
    (Text.encoded text).head? = some 46 ↔ text.head? = some '.' := by
  cases text with
  | nil => exact ⟨nofun, nofun⟩
  | cons first rest =>
      rw [Text.encoded_cons, List.head?_append_of_ne_nil _ String.utf8EncodeChar_ne_nil,
        List.head?_cons, Option.some.injEq]
      constructor
      · intro begins
        exact (Text.ascii_mem_utf8EncodeChar_iff (show Char.toNat '.' < 128 by decide)).mp
          (List.mem_of_head? begins)
      · rintro rfl
        rfl

/-- Of a name that is UTF-8 it can be told whether it begins with a dot. -/
theorem isHidden_eq_true_iff {name : String} (text : isText name = true) :
    Node.isHidden name = true ↔ Dotted name := by
  rw [Dotted, bytes_of_isText text, head?_encoded_eq_dot_iff, Node.isHidden, text?, if_pos text]
  exact beq_iff_eq

/-- A name that begins with a dot and is not UTF-8 is taken for one that does not. -/
example : Dotted (ofBytes [46, 255]) ∧ Node.isHidden (ofBytes [46, 255]) = false := by
  decide +kernel

/-- Where the names that begin with a dot are UTF-8, what is not hidden does not begin with one. -/
theorem forall_visible_iff {names : List String}
    (legible : ∀ name ∈ names, Dotted name → isText name = true) :
    (∀ name ∈ names, Node.isHidden name = false) ↔ ∀ name ∈ names, ¬ Dotted name := by
  refine forall₂_congr (fun name member => ?_)
  constructor
  · intro visible dotted
    have hidden := (isHidden_eq_true_iff (legible name member dotted)).mpr dotted
    rw [visible] at hidden
    cases hidden
  · intro plain
    cases text : isText name with
    | true =>
        rw [← Bool.not_eq_true, isHidden_eq_true_iff text]
        exact plain
    | false => rw [Node.isHidden, text?, text, if_neg Bool.false_ne_true]

end Name

namespace Sample

/-- The members of a directory: a hidden directory, another one, a file whose name goes on where
that directory's name ends, and a link to the directory. -/
def walked : List (String × Node) :=
  [(".git", .directory [("config", .file "one".toUTF8 false)]),
    ("a", .directory [("x", .file "one\none".toUTF8 false)]),
    ("a.txt", .file "one".toUTF8 true),
    ("l", .link "a")]

theorem memberName_walked :
    ∀ name ∈ [".git", "config", "a", "x", "a.txt", "l", "ws"], MemberName name := by
  simp only [List.forall_mem_cons]
  refine ⟨?_, ?_, ?_, ?_, ?_, ?_, ?_, nofun⟩ <;> decide +kernel

theorem sound_walked : (Node.directory walked).Sound := by
  have ordered : Entry.Ordered walked := by
    unfold Entry.Ordered walked
    decide
  refine .directory ordered ?_ ?_
  · simp only [walked, List.forall_mem_cons]
    refine ⟨?_, ?_, ?_, ?_, nofun⟩ <;> exact memberName_walked _ (by simp)
  · simp only [walked, List.forall_mem_cons]
    exact ⟨sound_alone (memberName_walked _ (by simp)) "one",
      sound_alone (memberName_walked _ (by simp)) "one\none", .file _ _, .link _, nofun⟩

end Sample

namespace Node

/-- From whatever place a walk starts, it finds exactly the regular files below the directory there
whose names from the start on do not begin with a dot, as far as the paths of the directories on the
way to them are not too long; only of files below names that begin with a dot and are not UTF-8 it
is not said whether they are found.  Nothing but regular files below the start is found, each of
them once and in strictly increasing order of the names, compared by their bytes. -/
theorem filesBelow_exact_in_order (start : Place) {members : List (String × Node)}
    (sound : (directory members).Sound) :
    (∀ more content, (∀ name ∈ more, Name.Dotted name → Name.isText name = true) →
        (⟨start.below more, content⟩ ∈ (directory members).filesBelow start ↔
          (∃ executable, (directory members).get? more = some (.file content executable)) ∧
            (∀ name ∈ more, ¬ Name.Dotted name) ∧ start.Passes more)) ∧
      (∀ found ∈ (directory members).filesBelow start,
        ∃ more executable, found.place = start.below more ∧
          (directory members).get? more = some (file found.content executable)) ∧
      (((directory members).filesBelow start).map Found.place).Nodup ∧
      ((directory members).filesBelow start).Pairwise
        (fun earlier later => earlier.place.bytes < later.place.bytes) := by
  refine ⟨fun more content legible => ?_, fun found walked => ?_, nodup_filesBelow sound start,
    pairwise_filesBelow sound start⟩
  · rw [mem_filesBelow_iff sound, ← Name.forall_visible_iff legible]
    constructor
    · rintro ⟨further, executable, same, got, visible, passes⟩
      obtain rfl : more = further := List.append_cancel_left (congrArg Place.names same)
      exact ⟨⟨executable, got⟩, visible, passes⟩
    · rintro ⟨⟨executable, got⟩, visible, passes⟩
      exact ⟨more, executable, rfl, got, visible, passes⟩
  · rcases (mem_filesBelow_iff sound).mp walked with ⟨more, executable, there, got, _⟩
    exact ⟨more, executable, there, got⟩

/-- A walk from a hidden directory.  What is hidden below it and what only the link leads to is not
found. -/
theorem filesBelow_exact_in_order_of_hidden :
    (directory Sample.walked).Sound ∧
      (⟨⟨true, ["ws", ".start", "a", "x"]⟩, "one\none".toUTF8⟩ ∈
        (directory Sample.walked).filesBelow ⟨true, ["ws", ".start"]⟩) ∧
      (⟨⟨true, ["ws", ".start", ".git", "config"]⟩, "one".toUTF8⟩ ∉
        (directory Sample.walked).filesBelow ⟨true, ["ws", ".start"]⟩) ∧
      (⟨⟨true, ["ws", ".start", "l", "x"]⟩, "one\none".toUTF8⟩ ∉
        (directory Sample.walked).filesBelow ⟨true, ["ws", ".start"]⟩) := by
  rcases filesBelow_exact_in_order ⟨true, ["ws", ".start"]⟩ Sample.sound_walked with ⟨exact, _⟩
  have text : ∀ names ∈ [["a", "x"], [".git", "config"], ["l", "x"]],
      ∀ name ∈ names, Name.Dotted name → Name.isText name = true := by
    intro names member name inside _
    simp only [List.mem_cons, List.not_mem_nil, or_false] at member
    rcases member with rfl | rfl | rfl <;>
      simp only [List.mem_cons, List.not_mem_nil, or_false] at inside <;>
      rcases inside with rfl | rfl <;> decide
  have passes : Place.Passes ⟨true, ["ws", ".start"]⟩ ["a", "x"] :=
    Place.passes_cons_iff.mpr ⟨by decide, Place.passes_cons_iff.mpr
      ⟨by decide, Place.passes_nil _⟩⟩
  refine ⟨Sample.sound_walked, ?_, ?_, ?_⟩
  · refine (exact ["a", "x"] _ (text _ (by simp))).mpr ⟨⟨false, rfl⟩, ?_, passes⟩
    simp only [List.forall_mem_cons]
    exact ⟨by decide, by decide, nofun⟩
  · intro walked
    have visible := ((exact [".git", "config"] _ (text _ (by simp))).mp walked).2.1
    exact absurd (show Name.Dotted ".git" by decide) (visible ".git" (by simp))
  · intro walked
    rcases ((exact ["l", "x"] _ (text _ (by simp))).mp walked).1 with ⟨_, got⟩
    cases got

end Node

namespace Sample

/-- A directory so many steps down in the tree. -/
def far (depth : Nat) : Place :=
  ⟨true, List.replicate depth "a"⟩

theorem length_encoded_far (depth : Nat) : (far (depth + 1)).encoded.length = 2 * depth + 2 := by
  have names :
      (List.replicate (depth + 1) "a").map Name.bytes = List.replicate (depth + 1) [97] := by
    rw [List.map_replicate]
    rfl
  have joined := Text.measure_intercalate List.length (fun _ _ => List.length_append) [(47 : UInt8)]
    (List.cons_ne_nil [97] (List.replicate depth [97]))
  rw [← List.replicate_succ, List.map_replicate, List.sum_replicate_nat, List.length_replicate]
    at joined
  simp only [List.length_singleton, Nat.mul_one] at joined
  rw [far, Place.encoded, names, List.length_append]
  simp only [if_true, List.length_singleton]
  omega

def beyond : List (String × Node) :=
  [("a", .directory [("f.txt", .file "text".toUTF8 false)])]

theorem sound_beyond : (Node.directory beyond).Sound :=
  .directory (List.pairwise_singleton _ _) (List.forall_mem_singleton.mpr (by decide +kernel))
    (List.forall_mem_singleton.mpr (sound_alone (by decide +kernel) "text"))

end Sample

namespace Node

/-- The path of the start is short enough, but the path of the directory in it is not.  The file in
there is not found. -/
theorem filesBelow_misses_file_beyond :
    (directory Sample.beyond).Sound ∧ (Sample.far 2047).encoded.length < pathLimit ∧
      (directory Sample.beyond).get? ["a", "f.txt"] = some (file "text".toUTF8 false) ∧
      (∀ name ∈ ["a", "f.txt"], ¬ Name.Dotted name) ∧
      (directory Sample.beyond).filesBelow (Sample.far 2047) = [] := by
  refine ⟨Sample.sound_beyond, ?_, by rfl, ?_, ?_⟩
  · rw [Sample.length_encoded_far]
    decide
  · simp only [List.forall_mem_cons]
    exact ⟨by decide, by decide, nofun⟩
  · have deeper : (Sample.far 2047).child "a" = Sample.far 2048 := by
      rw [Sample.far, Place.child, ← List.replicate_succ']
      rfl
    rw [List.eq_nil_iff_forall_not_mem]
    intro found walked
    rcases mem_filesBelow_directory.mp walked with ⟨_, entry, member, _, below⟩
    rw [List.mem_singleton.mp member, deeper] at below
    have short := (mem_filesBelow_directory.mp below).1
    rw [Sample.length_encoded_far] at short
    exact absurd short (by decide)

end Node

end Workbench
