import Workbench.Proofs.Tree.Scope
namespace Workbench

/-!
# Two trees with the same scope

Nothing that is done at a place of a scope can tell two trees apart that hold the
same directory there and no links.  Every question about such a place has one
answer in both trees, and every change either is refused in both for the same
cause or leaves two trees that again share the scope.  The trees may differ in
any way elsewhere, before and after.
-/

namespace Node

/-- Two trees without links that hold the same directory as their scope. -/
structure Alike (scope : List String) (left right : Node) : Prop where
  leftLinkless : left.Linkless
  rightLinkless : right.Linkless
  shared : ∃ members,
    left.get? scope = some (directory members) ∧ right.get? scope = some (directory members)

/-- The same change in two trees: refused in both for one cause, or made in both
so that the scope is shared again. -/
inductive Parallel (scope : List String) : Except Cause Node → Except Cause Node → Prop where
  | refused (cause : Cause) : Parallel scope (.error cause) (.error cause)
  | changed {left right : Node} (alike : Alike scope left right) :
      Parallel scope (.ok left) (.ok right)

theorem Parallel.cases {scope : List String} {left right : Except Cause Node}
    (parallel : Parallel scope left right) :
    (∃ cause, left = .error cause ∧ right = .error cause) ∨
      ∃ first second, left = .ok first ∧ right = .ok second ∧ Alike scope first second := by
  cases parallel with
  | refused cause => exact Or.inl ⟨cause, rfl, rfl⟩
  | changed alike => exact Or.inr ⟨_, _, rfl, rfl, alike⟩

namespace Alike

variable {scope : List String} {left right : Node} {place : Place}

theorem leftHosts (alike : Alike scope left right) : left.Hosts scope := by
  obtain ⟨members, got, _⟩ := alike.shared
  exact ⟨alike.leftLinkless, faceAt?_eq_directory_iff.mpr ⟨members, got⟩⟩

theorem rightHosts (alike : Alike scope left right) : right.Hosts scope := by
  obtain ⟨members, _, got⟩ := alike.shared
  exact ⟨alike.rightLinkless, faceAt?_eq_directory_iff.mpr ⟨members, got⟩⟩

/-! ## Questions about a place of the scope -/

theorem descend (alike : Alike scope left right) (within : place.Within scope) :
    left.descend place.names = right.descend place.names := by
  obtain ⟨members, onTheLeft, onTheRight⟩ := alike.shared
  obtain ⟨below, split⟩ := within.below
  rw [← split, descend_append onTheLeft, descend_append onTheRight]

theorem locate (alike : Alike scope left right) (within : place.Within scope)
    (standing : List String) (through : Bool) :
    left.locate standing through place.text = right.locate standing through place.text := by
  rw [alike.leftHosts.locate_text within, alike.rightHosts.locate_text within, alike.descend within]

theorem readBytes (alike : Alike scope left right) (within : place.Within scope)
    (standing : List String) :
    left.readBytes standing place.text = right.readBytes standing place.text := by
  unfold Node.readBytes
  rw [alike.locate within]

theorem readText (alike : Alike scope left right) (within : place.Within scope)
    (standing : List String) :
    left.readText standing place.text = right.readText standing place.text := by
  unfold Node.readText
  rw [alike.readBytes within]

theorem find? (alike : Alike scope left right) (within : place.Within scope)
    (standing : List String) :
    left.find? standing place.text = right.find? standing place.text := by
  unfold Node.find?
  rw [alike.locate within]

theorem existsAt (alike : Alike scope left right) (within : place.Within scope)
    (standing : List String) :
    left.existsAt standing place.text = right.existsAt standing place.text := by
  unfold Node.existsAt
  rw [alike.find? within]

theorem directoryAt (alike : Alike scope left right) (within : place.Within scope)
    (standing : List String) :
    left.directoryAt standing place.text = right.directoryAt standing place.text := by
  unfold Node.directoryAt
  rw [alike.find? within]

theorem fileAt (alike : Alike scope left right) (within : place.Within scope)
    (standing : List String) :
    left.fileAt standing place.text = right.fileAt standing place.text := by
  unfold Node.fileAt
  rw [alike.find? within]

/-! ## Changes at a place of the scope -/

theorem linkless_of_faces {tree changed : Node} {names : List String} {face : Face}
    (linkless : tree.Linkless) (kind : ∀ target, face ≠ .link target)
    (faces : ∀ other, changed.faceAt? other =
      if other = names then some face else tree.faceAt? other) :
    changed.Linkless := by
  intro other target linked
  rw [faces other] at linked
  split at linked
  · exact kind target (Option.some.inj linked)
  · exact linkless other target linked

/-- The same leaf, set strictly below the scope in both trees. -/
theorem set (alike : Alike scope left right) (within : place.Within scope)
    (deeper : place.names ≠ scope) {leaf : Node} (kind : ∀ target, leaf.face ≠ .link target)
    (leftFaces : ∀ other, (left.set leaf place.names).faceAt? other =
      if other = place.names then some leaf.face else left.faceAt? other)
    (rightFaces : ∀ other, (right.set leaf place.names).faceAt? other =
      if other = place.names then some leaf.face else right.faceAt? other) :
    Alike scope (left.set leaf place.names) (right.set leaf place.names) where
  leftLinkless := linkless_of_faces alike.leftLinkless kind leftFaces
  rightLinkless := linkless_of_faces alike.rightLinkless kind rightFaces
  shared := by
    obtain ⟨members, onTheLeft, onTheRight⟩ := alike.shared
    obtain ⟨below, split⟩ := within.below
    cases below with
    | nil => exact absurd (by rw [← split, List.append_nil]) deeper
    | cons name rest =>
        obtain ⟨changed, same⟩ := exists_members_set_cons members leaf name rest
        rw [← split]
        exact ⟨changed, by rw [get?_set_append onTheLeft, same],
          by rw [get?_set_append onTheRight, same]⟩

/-- A leaf that is set where both trees have nothing. -/
theorem set_of_descend_none (alike : Alike scope left right) (within : place.Within scope)
    (reached : left.descend place.names = .ok none) {leaf : Node} (bare : leaf.Leaf)
    (kind : ∀ target, leaf.face ≠ .link target) :
    Alike scope (left.set leaf place.names) (right.set leaf place.names) := by
  have onTheLeft := faceAt?_set_of_descend_none bare reached
  have onTheRight := faceAt?_set_of_descend_none bare ((alike.descend within).symm.trans reached)
  refine alike.set within ?_ kind onTheLeft.2 onTheRight.2
  intro own
  have absent := onTheLeft.1
  rw [own, alike.leftHosts.present] at absent
  cases absent

theorem makeDirectory (alike : Alike scope left right) (within : place.Within scope)
    (standing : List String) :
    Parallel scope (left.makeDirectory standing place.text)
      (right.makeDirectory standing place.text) := by
  unfold Node.makeDirectory
  rw [← alike.locate within]
  cases located : left.locate standing false place.text with
  | error cause => exact .refused cause
  | ok spot =>
      obtain ⟨names, node⟩ := spot
      cases node with
      | some node => exact .refused _
      | none =>
          obtain ⟨_, same, reached⟩ := alike.leftHosts.descend_of_locate within located
          subst same
          exact .changed (alike.set_of_descend_none within reached leaf_emptyDirectory
            (fun target impossible => nomatch impossible))

theorem writeBytes (alike : Alike scope left right) (within : place.Within scope)
    (standing : List String) (content : ByteArray) :
    Parallel scope (left.writeBytes standing place.text content)
      (right.writeBytes standing place.text content) := by
  unfold Node.writeBytes
  rw [← alike.locate within]
  cases located : left.locate standing true place.text with
  | error cause => exact .refused cause
  | ok spot =>
      obtain ⟨names, node⟩ := spot
      obtain ⟨_, same, reached⟩ := alike.leftHosts.descend_of_locate within located
      subst same
      have noLink : ∀ executable target, (file content executable).face ≠ .link target :=
        fun _ _ impossible => nomatch impossible
      cases node with
      | none =>
          exact .changed (alike.set_of_descend_none within reached (leaf_file content false)
            (noLink false))
      | some node =>
          cases node with
          | link target => exact .refused _
          | directory members => exact .refused _
          | file old executable =>
              have onTheLeft := get?_of_descend_some reached
              have onTheRight := get?_of_descend_some ((alike.descend within).symm.trans reached)
              refine .changed (alike.set within ?_ (noLink executable)
                (faceAt?_set_of_get? (leaf_file _ _) (leaf_file _ _) onTheLeft)
                (faceAt?_set_of_get? (leaf_file _ _) (leaf_file _ _) onTheRight))
              intro own
              have present := alike.leftHosts.present
              rw [← own, faceAt?, onTheLeft] at present
              cases present

theorem writeText (alike : Alike scope left right) (within : place.Within scope)
    (standing : List String) (text : String) :
    Parallel scope (left.writeText standing place.text text)
      (right.writeText standing place.text text) :=
  alike.writeBytes within standing text.toUTF8

theorem settleDirectory (alike : Alike scope left right) (within : place.Within scope)
    (standing : List String) :
    (left.settleDirectory standing place.text).1 = (right.settleDirectory standing place.text).1 ∧
      Alike scope (left.settleDirectory standing place.text).2
        (right.settleDirectory standing place.text).2 := by
  have sameKind := alike.directoryAt within standing
  unfold Node.settleDirectory
  rcases (alike.makeDirectory within standing).cases with
    ⟨cause, onTheLeft, onTheRight⟩ | ⟨first, second, onTheLeft, onTheRight, after⟩
  · rw [onTheLeft, onTheRight]
    simp only []
    rw [← sameKind]
    split
    · exact ⟨rfl, alike⟩
    · exact ⟨rfl, alike⟩
  · rw [onTheLeft, onTheRight]
    exact ⟨rfl, after⟩

/-- Making directories upwards goes the same way in both trees. -/
theorem makeDirectoriesUp (alike : Alike scope left right) (standing : List String)
    (path : List String) (within : (⟨true, path.reverse⟩ : Place).Within scope) :
    (Node.makeDirectoriesUp standing true path left).1 =
        (Node.makeDirectoriesUp standing true path right).1 ∧
      Alike scope (Node.makeDirectoriesUp standing true path left).2
        (Node.makeDirectoriesUp standing true path right).2 := by
  induction path with
  | nil => exact ⟨rfl, alike⟩
  | cons name above inductionHypothesis =>
      rcases (alike.makeDirectory within standing).cases with
        ⟨cause, onTheLeft, onTheRight⟩ | ⟨first, second, onTheLeft, onTheRight, after⟩
      · by_cases missing : cause = .notFound
        · subst missing
          rw [Node.makeDirectoriesUp, Node.makeDirectoriesUp, onTheLeft, onTheRight]
          obtain ⟨sameOutcome, upper⟩ := inductionHypothesis
            (within_above_of_notFound alike.leftHosts within onTheLeft)
          cases onTheLeft : Node.makeDirectoriesUp standing true above left with
          | mk leftOutcome leftChanged =>
              cases onTheRight : Node.makeDirectoriesUp standing true above right with
              | mk rightOutcome rightChanged =>
                  rw [onTheLeft, onTheRight] at sameOutcome upper
                  simp only [] at sameOutcome upper
                  subst sameOutcome
                  cases leftOutcome with
                  | ok _ => exact upper.settleDirectory within standing
                  | error cause => exact ⟨rfl, upper⟩
        · rw [makeDirectoriesUp_of_refused onTheLeft missing,
            makeDirectoriesUp_of_refused onTheRight missing, ← alike.directoryAt within]
          split
          · exact ⟨rfl, alike⟩
          · exact ⟨rfl, alike⟩
      · rw [Node.makeDirectoriesUp, Node.makeDirectoriesUp, onTheLeft, onTheRight]
        exact ⟨rfl, after⟩

theorem makeDirectories (alike : Alike scope left right) (within : place.Within scope)
    (standing : List String) :
    (left.makeDirectories standing place).1 = (right.makeDirectories standing place).1 ∧
      Alike scope (left.makeDirectories standing place).2
        (right.makeDirectories standing place).2 := by
  rw [Node.makeDirectories, Node.makeDirectories, within.anchored]
  refine alike.makeDirectoriesUp standing place.names.reverse ?_
  rw [List.reverse_reverse]
  exact ⟨rfl, within.below, within.plain⟩

/-- The directories above a place are made in both trees or in neither. -/
theorem makeAbove (alike : Alike scope left right) (within : place.Within scope)
    (standing : List String) :
    (left.makeAbove standing place).1 = (right.makeAbove standing place).1 ∧
      Alike scope (left.makeAbove standing place).2 (right.makeAbove standing place).2 := by
  rcases makeAbove_cases within with ⟨parent, above, same⟩ | ⟨outcome, same⟩
  · rw [same, same]
    exact alike.makeDirectories above standing
  · rw [same left standing alike.leftHosts, same right standing alike.rightHosts]
    exact ⟨rfl, alike⟩

end Alike

end Node

end Workbench
