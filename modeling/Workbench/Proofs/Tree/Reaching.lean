import Workbench.Proofs.Tree.Leading
import Workbench.Proofs.Tree.Walking
namespace Workbench

/-!
# Reaching what lies below a directory

A place that is found to be a directory can be written on.  The names of what lies below it in the
tree are names of members.  If they are UTF-8, they can be told apart in the longer text and hold no
zero character; only its length can still be too much.  Where it is not, a file or a directory that
the names lead to is found by this text, with as many links passed as on the way to the first
directory, because no member on the way down is a link.

No text leads to what bears another name.
-/

namespace Node

variable {tree found : Node} {standing : List String} {place : Place}
  {members : List (String × Node)} {reached more : List String}

/-- A text that is not refused names nothing that is not UTF-8. -/
theorem isText_of_accepted (accepted : refusal? place.text = none) : place.IsText := by
  intro name member
  rw [Name.isText, bne_iff_ne]
  intro first
  refine (refusal?_eq_none_iff.mp accepted).1 ?_
  exact (Place.mem_text_iff (by decide)).mpr ⟨name, member, List.mem_of_head? first⟩

/-- Behind the text of an accepted place the names of members are accepted, up to the limit. -/
theorem refusal?_below (accepted : refusal? place.text = none)
    (named : ∀ name ∈ more, MemberName name) (text : ∀ name ∈ more, Name.isText name = true)
    (short : (place.below more).encoded.length < pathLimit) :
    refusal? (place.below more).text = none := by
  have legible := Place.isText_below_iff.mpr ⟨isText_of_accepted accepted, text⟩
  rw [Place.length_encoded legible] at short
  refine refusal?_eq_none_iff.mpr ⟨?_, short⟩
  rw [Place.mem_text_iff (by decide)]
  rintro ⟨name, member, holds⟩
  rcases List.mem_append.mp member with above | below
  · refine (refusal?_eq_none_iff.mp accepted).1 ?_
    exact (Place.mem_text_iff (by decide)).mpr ⟨name, above, holds⟩
  · exact (named name below).zero_not_mem (text name below) holds

/-- A file or a directory below a directory is reached from each place that leads to the latter. -/
theorem LeadsTo.seek_below (stands : tree.faceAt? standing = some .directory)
    (leads : LeadsTo tree standing place reached) (filled : more ≠ [])
    (got : tree.get? (reached ++ more) = some found) (solid : ∀ target, found ≠ link target)
    (fits : ∀ name ∈ more, name.utf8ByteSize ≤ longestName) :
    tree.seek standing true (place.below more) = .ok ⟨reached ++ more, some found⟩ := by
  cases found with
  | file content executable => exact leads.seek_file stands filled got fits
  | link target => exact absurd rfl (solid target)
  | directory inner =>
      have entered : ∀ upper, upper ≠ [] → upper <+: more →
          tree.faceAt? (reached ++ upper) = some .directory := by
        rintro upper _ ⟨rest, rfl⟩
        rw [← List.append_assoc] at got
        by_cases last : rest = []
        · rw [last, List.append_nil] at got
          exact faceAt?_eq_directory_iff.mpr ⟨inner, got⟩
        · exact faceAt?_above last got
      rcases leads.below stands entered fits with ⟨others, sought⟩
      have node : some (directory others) = tree.get? (reached ++ more) :=
        follow_node _ _ _ _ sought
      rw [sought, node, got]

theorem Sound.find? (sound : tree.Sound) (plain : place.IsPlain)
    (there : tree.find? standing place.text = some (.directory members)) :
    (Node.directory members).Sound := by
  rcases exists_leadsTo_of_find? plain there with ⟨_, _, _, node⟩
  exact sound.get? node

/-- The place of a directory that is found has a text. -/
theorem isText_of_find? (plain : place.IsPlain)
    (there : tree.find? standing place.text = some (.directory members)) : place.IsText := by
  rcases exists_leadsTo_of_find? plain there with ⟨accepted, _⟩
  exact isText_of_accepted accepted

/-- What lies below a directory is found by the text of the directory's place, written on. -/
theorem find?_below (sound : tree.Sound) (stands : tree.faceAt? standing = some .directory)
    (plain : place.IsPlain)
    (there : tree.find? standing place.text = some (directory members))
    (got : (directory members).get? more = some found) (solid : ∀ target, found ≠ link target)
    (text : ∀ name ∈ more, Name.isText name = true)
    (short : (place.below more).encoded.length < pathLimit) :
    tree.find? standing (place.below more).text = some found := by
  by_cases none : more = []
  · subst none
    rw [Place.below, List.append_nil, there, ← got, get?_nil]
  · rcases exists_leadsTo_of_find? plain there with ⟨accepted, reached, leads, node⟩
    have named : ∀ name ∈ more, MemberName name := (sound.get? node).memberName got
    have whole : tree.get? (reached ++ more) = some found := by
      rw [get?_append_of_get? node, got]
    have below : (place.below more).IsPlain := Place.isPlain_below_iff.mpr
      ⟨plain, fun name member => (named name member).plain (text name member)⟩
    rw [find?, locate_text_of_plain below (List.append_ne_nil_of_right_ne_nil _ none),
      refusal?_below accepted named text short]
    simp only [leads.seek_below stands none whole solid
      (fun name member => (named name member).utf8ByteSize_le (text name member))]

/-- Nothing is found by a path that is too long. -/
theorem find?_of_long {path : String} (long : pathLimit ≤ path.utf8ByteSize) :
    tree.find? standing path = none := by
  unfold find? locate
  split_ifs <;> rfl

end Node

end Workbench
