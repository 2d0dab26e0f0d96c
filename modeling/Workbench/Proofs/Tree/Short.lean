import Mathlib.Algebra.Group.Nat.Defs
import Workbench.Proofs.Tree.Scope
import Workbench.Window
import Workbench.World
namespace Workbench

/-!
# Trees of short files

A process counts the lines of a text in a word.  Where every text of a tree has fewer lines
than half of the words count, a position in one of its files and a height of as many lines
still add up.  Making directories and empty files keeps such a tree as it is.
-/

namespace Node

/-- Every text in the tree has fewer than 2⁶³ lines. -/
def Short (tree : Node) : Prop :=
  ∀ names text executable, tree.get? names = some (file text.toUTF8 executable) →
    (Window.linesOf text).length < 2 ^ 63

variable {tree : Node}

theorem short_emptyDirectory : emptyDirectory.Short := by
  intro names text executable got
  cases names with
  | nil => cases got
  | cons name rest => cases got

theorem short_file {text : String} (few : (Window.linesOf text).length < 2 ^ 63)
    (executable : Bool) : (file text.toUTF8 executable).Short := by
  intro names other flag got
  cases names with
  | nil =>
      rw [get?_nil, Option.some.injEq, Node.file.injEq] at got
      rw [← String.toByteArray_inj.mp got.1]
      exact few
  | cons name rest => cases got

theorem short_directory_iff {members : List (String × Node)} :
    (directory members).Short ↔
      ∀ name child, Entry.find? name members = some child → child.Short := by
  constructor
  · intro short name child found names text executable got
    apply short (name :: names) text executable
    rw [get?_directory_cons, found, Option.bind_some, got]
  · intro each names text executable got
    cases names with
    | nil => cases got
    | cons name rest =>
        rw [get?_directory_cons] at got
        cases found : Entry.find? name members with
        | none =>
            rw [found] at got
            cases got
        | some child =>
            rw [found] at got
            exact each name child found rest text executable got

theorem short_directory {members : List (String × Node)}
    (each : ∀ entry ∈ members, entry.2.Short) : (directory members).Short :=
  short_directory_iff.mpr fun name child found => each (name, child) (Entry.mem_of_find? found)

theorem short_insert {members : List (String × Node)} (short : (directory members).Short)
    {entry : Node} (new : entry.Short) (name : String) :
    (directory (Entry.insert name entry members)).Short := by
  rw [short_directory_iff] at short ⊢
  intro other child found
  by_cases same : other = name
  · rw [same, Entry.find?_insert_self] at found
    rw [← Option.some.inj found]
    exact new
  · rw [Entry.find?_insert_of_ne same] at found
    exact short other child found

/-- Putting a short tree into a short tree leaves a short tree. -/
theorem short_set (short : tree.Short) {entry : Node} (new : entry.Short) (names : List String) :
    (tree.set entry names).Short := by
  induction names generalizing tree with
  | nil =>
      rw [set_nil]
      exact new
  | cons name rest inductionHypothesis =>
      cases tree with
      | file content executable => exact short
      | link target => exact short
      | directory members =>
          rw [set]
          cases found : Entry.find? name members with
          | none =>
              simp only []
              split
              · exact short_insert short new name
              · exact short
          | some child =>
              have inside := short_directory_iff.mp short name child found
              exact short_insert short (inductionHypothesis inside) name

/-! ## Making -/

variable {standing : List String} {path : String} {changed : Node}

theorem short_makeDirectory (short : tree.Short)
    (made : tree.makeDirectory standing path = .ok changed) : changed.Short := by
  unfold makeDirectory at made
  split at made
  · cases made
  · cases made
    exact short_set short short_emptyDirectory _
  · cases made

theorem short_settleDirectory (short : tree.Short) (standing : List String) (path : String) :
    (tree.settleDirectory standing path).2.Short := by
  unfold settleDirectory
  split
  · rename_i made
    exact short_makeDirectory short made
  · split <;> exact short

theorem short_makeDirectoriesUp (standing : List String) (anchored : Bool) (names : List String)
    (short : tree.Short) : (makeDirectoriesUp standing anchored names tree).2.Short := by
  induction names generalizing tree with
  | nil => exact short
  | cons name above inductionHypothesis =>
      rw [makeDirectoriesUp]
      split
      · rename_i made
        exact short_makeDirectory short made
      · have higher := inductionHypothesis short
        split
        · rename_i made
          rw [made] at higher
          exact short_settleDirectory higher standing _
        · rename_i made
          rw [made] at higher
          exact higher
      · split <;> exact short

theorem short_makeDirectories (short : tree.Short) (standing : List String) (place : Place) :
    (tree.makeDirectories standing place).2.Short :=
  short_makeDirectoriesUp standing place.anchored place.names.reverse short

theorem short_makeAbove (short : tree.Short) (standing : List String) (place : Place) :
    (tree.makeAbove standing place).2.Short := by
  unfold makeAbove
  cases place.parent? with
  | none => exact short
  | some parent => exact short_makeDirectories short standing parent

theorem short_writeText_empty (short : tree.Short)
    (written : tree.writeText standing path "" = .ok changed) : changed.Short := by
  have none : (Window.linesOf "").length < 2 ^ 63 := Nat.two_pow_pos 63
  unfold writeText writeBytes at written
  split at written
  · cases written
  · cases written
    exact short_set short (short_file none false) _
  · cases written
    exact short_set short (short_file none _) _
  · cases written
  · cases written

/-! ## Reading -/

/-- What is read from a short tree is short. -/
theorem Short.of_readText (short : tree.Short) {text : String}
    (read : tree.readText standing path = .ok text) : (Window.linesOf text).length < 2 ^ 63 := by
  rw [readText_eq_ok_iff, readBytes_eq_ok_iff] at read
  rcases read with ⟨names, executable, located⟩
  exact short names text executable (locate_node located).symm

end Node

end Workbench
