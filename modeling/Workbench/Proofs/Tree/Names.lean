import Mathlib.Algebra.GroupWithZero.Nat
import Workbench.Proofs.Text.Blocks
import Workbench.Proofs.Text.Bytes
import Workbench.Proofs.Tree.Leading
import Workbench.Tree.Walk
namespace Workbench

/-!
# Names in bytes

To the system the name of a member is a sequence of bytes that has neither a zero byte nor a slash
in it.  Each such sequence is held as one name, and from the name it is got back.  Whatever is
decided by bytes is therefore decided by names: which member comes first, how long a path is, and
whether two members are the same.

A text is a name like any other, with its own bytes.  Only for such names the path of a place is
the text of the place.
-/

/-- A name that a directory can have for a member. -/
structure MemberName (name : String) : Prop where
  held : Name.ofBytes (Name.bytes name) = name
  filled : Name.bytes name ≠ []
  notDot : Name.bytes name ≠ [46]
  notDots : Name.bytes name ≠ [46, 46]
  slashless : 47 ∉ Name.bytes name
  clear : 0 ∉ Name.bytes name
  fits : (Name.bytes name).length ≤ Node.longestName

instance (name : String) : Decidable (MemberName name) :=
  decidable_of_iff
    (Name.ofBytes (Name.bytes name) = name ∧ Name.bytes name ≠ [] ∧ Name.bytes name ≠ [46] ∧
      Name.bytes name ≠ [46, 46] ∧ 47 ∉ Name.bytes name ∧ 0 ∉ Name.bytes name ∧
      (Name.bytes name).length ≤ Node.longestName)
    ⟨fun ⟨held, filled, notDot, notDots, slashless, clear, fits⟩ =>
        ⟨held, filled, notDot, notDots, slashless, clear, fits⟩,
      fun member => ⟨member.held, member.filled, member.notDot, member.notDots, member.slashless,
        member.clear, member.fits⟩⟩

namespace Name

variable {name : String}

theorem bytes_of_isText (text : isText name = true) : bytes name = Text.encoded name.toList := by
  rw [bytes, if_pos text, Text.toList_toUTF8]

theorem length_bytes (text : isText name = true) : (bytes name).length = name.utf8ByteSize := by
  rw [bytes, if_pos text, Array.length_toList]
  exact String.size_toByteArray

/-- Every sequence of bytes without a zero is got back from the name that it is held as. -/
theorem bytes_ofBytes {given : List UInt8} (clear : 0 ∉ given) : bytes (ofBytes given) = given := by
  unfold ofBytes
  split
  · rename_i text read
    have encoded : given = Text.encoded text.toList := by
      have content := Node.fromUTF8?_eq_some_iff.mp read
      rw [← Text.toList_toUTF8, ← content]
    have marked : isText text = true := by
      rw [isText, bne_iff_ne]
      intro first
      apply clear
      rw [encoded]
      exact (Text.ascii_mem_encoded_iff (show Char.toNat mark < 128 by decide)).mpr
        (List.mem_of_head? first)
    rw [bytes_of_isText marked, encoded]
  · rw [bytes, isText, String.toList_ofList]
    simp only [List.head?_cons, bne_self_eq_false, Bool.false_eq_true, if_false, List.tail_cons,
      List.map_map]
    refine (List.map_congr_left fun byte _ => ?_).trans (List.map_id given)
    have small := byte.toNat_lt
    have valid : byte.toNat.isValidChar := Or.inl (by omega)
    rw [Function.comp_apply, Char.ofNat, dif_pos valid]
    exact UInt8.ofNat_toNat

end Name

namespace MemberName

variable {name : String}

/-- Whatever the system takes for the name of a member is held as one. -/
theorem of_bytes {given : List UInt8} (filled : given ≠ []) (notDot : given ≠ [46])
    (notDots : given ≠ [46, 46]) (slashless : 47 ∉ given) (clear : 0 ∉ given)
    (fits : given.length ≤ Node.longestName) : MemberName (Name.ofBytes given) := by
  have bytes := Name.bytes_ofBytes clear
  refine ⟨?_, ?_, ?_, ?_, ?_, ?_, ?_⟩ <;> rw [bytes] <;> assumption

/-- Members with the same bytes for a name have the same name. -/
theorem eq_of_bytes {other : String} (member : MemberName name) (another : MemberName other)
    (same : Name.bytes name = Name.bytes other) : name = other := by
  rw [← member.held, same, another.held]

theorem plain (member : MemberName name) (text : Name.isText name = true) : Path.Plain name where
  nonempty := by
    rintro rfl
    exact member.filled (by decide)
  notDot := by
    rintro rfl
    exact member.notDot (by decide)
  notDots := by
    rintro rfl
    exact member.notDots (by decide)
  slashless := by
    intro slash
    apply member.slashless
    rw [Name.bytes_of_isText text]
    exact (Text.ascii_mem_encoded_iff (show Char.toNat '/' < 128 by decide)).mpr slash

theorem zero_not_mem (member : MemberName name) (text : Name.isText name = true) :
    '\x00' ∉ name.toList := by
  intro zero
  apply member.clear
  rw [Name.bytes_of_isText text]
  exact (Text.ascii_mem_encoded_iff (show Char.toNat '\x00' < 128 by decide)).mpr zero

theorem utf8ByteSize_le (member : MemberName name) (text : Name.isText name = true) :
    name.utf8ByteSize ≤ Node.longestName := by
  rw [← Name.length_bytes text]
  exact member.fits

end MemberName

/-! ## Paths in bytes -/

namespace Place

/-- All names of the place are UTF-8. -/
def IsText (place : Place) : Prop :=
  ∀ name ∈ place.names, Name.isText name = true

variable {place : Place} {more : List String}

theorem isText_below_iff :
    (place.below more).IsText ↔ place.IsText ∧ ∀ name ∈ more, Name.isText name = true :=
  List.forall_mem_append

/-- Names that are texts are joined in bytes as they are joined in a text. -/
theorem intercalate_bytes {names : List String} (text : ∀ name ∈ names, Name.isText name = true) :
    List.intercalate [47] (names.map Name.bytes) =
      Text.encoded (String.intercalate "/" names).toList := by
  induction names with
  | nil => rfl
  | cons first rest inductionHypothesis =>
      rcases List.forall_mem_cons.mp text with ⟨here, later⟩
      cases rest with
      | nil =>
          rw [List.map_singleton, List.intercalate_singleton, String.intercalate_singleton,
            Name.bytes_of_isText here]
      | cons second others =>
          rw [List.map_cons, List.map_cons, List.intercalate_cons_cons, ← List.map_cons,
            inductionHypothesis later, String.intercalate_cons_cons, String.toList_append,
            String.toList_append, Text.encoded_append, Text.encoded_append,
            Name.bytes_of_isText here]
          rfl

/-- A path is written as its text where there is one. -/
theorem encoded_of_isText (text : place.IsText) :
    place.encoded = Text.encoded place.text.toList := by
  rw [encoded, Place.text, intercalate_bytes text, String.toList_append, Text.encoded_append]
  cases place.anchored with
  | true => rfl
  | false => rfl

theorem length_encoded (text : place.IsText) :
    place.encoded.length = place.text.utf8ByteSize := by
  rw [encoded_of_isText text, ← Text.toList_toUTF8, Array.length_toList]
  exact String.size_toByteArray

theorem length_intercalate_le (front back : List (List UInt8)) :
    (List.intercalate [47] front).length ≤ (List.intercalate [47] (front ++ back)).length := by
  by_cases none : front = []
  · rw [none]
    exact Nat.zero_le _
  · by_cases last : back = []
    · rw [last, List.append_nil]
    · rw [Text.intercalate_append _ none last, List.length_append, List.length_append]
      omega

/-- A path does not become shorter when it is written on. -/
theorem length_encoded_below_le (place : Place) (upper more : List String) :
    (place.below upper).encoded.length ≤ (place.below (upper ++ more)).encoded.length := by
  have names : (place.names ++ (upper ++ more)).map Name.bytes =
      (place.names ++ upper).map Name.bytes ++ more.map Name.bytes := by
    rw [← List.append_assoc, List.map_append]
  rw [encoded, encoded, List.length_append, List.length_append, below, below, names]
  exact Nat.add_le_add_left (length_intercalate_le _ _) _

end Place

end Workbench
