import Workbench.Proofs.Tree.Access
import Workbench.Tree.Change
namespace Workbench

/-!
# Following a path

Two facts hold in every tree, with links or without.  The spot that following
gives is honest: its node is the node at its names.  And which names are reached
depends on the kinds of nodes only, not on what files hold, so writing into an
existing file leads nobody astray afterwards.
-/

namespace Node

/-! ## What following gives in every tree -/

theorem followWith_node {tree : Node} {through : Bool}
    {onLink : List String → List Step → Except Cause Spot}
    (honest : ∀ names steps spot, onLink names steps = .ok spot → spot.node = tree.get? spot.names)
    (steps : List Step) (names : List String) (spot : Spot)
    (reached : tree.followWith through onLink names steps = .ok spot) :
    spot.node = tree.get? spot.names := by
  induction steps generalizing names with
  | nil => cases reached; rfl
  | cons step rest inductionHypothesis =>
      cases step with
      | stay => exact inductionHypothesis names reached
      | up => exact inductionHypothesis names.dropLast reached
      | enter name =>
          rw [followWith] at reached
          split at reached
          · cases reached
          · split at reached
            · rename_i absent
              split at reached
              · cases reached
                exact absent.symm
              · cases reached
            · exact inductionHypothesis _ reached
            · rename_i found
              split at reached
              · cases reached
                exact found.symm
              · cases reached
            · rename_i found
              split at reached
              · cases reached
                exact found.symm
              · split at reached
                · cases reached
                · exact honest _ _ _ reached

theorem follow_node {tree : Node} {through : Bool} (left : Nat) (names : List String)
    (steps : List Step) (spot : Spot) (reached : tree.follow through left names steps = .ok spot) :
    spot.node = tree.get? spot.names := by
  induction left generalizing names steps spot with
  | zero =>
      exact followWith_node (fun _ _ _ impossible => by cases impossible) steps names spot reached
  | succ left inductionHypothesis =>
      exact followWith_node inductionHypothesis steps names spot reached

/-- The node of a spot is the node at the spot's names. -/
theorem locate_node {tree : Node} {standing : List String} {through : Bool} {path : String}
    {spot : Spot} (located : tree.locate standing through path = .ok spot) :
    spot.node = tree.get? spot.names := by
  unfold locate at located
  split at located
  · cases located
  · split at located
    · cases located
    · split at located
      · cases located
      · exact follow_node _ _ _ spot located

/-! ## Kinds of nodes decide where a path leads -/

theorem followWith_names_congr {left right : Node}
    (alike : ∀ names, left.shapeAt? names = right.shapeAt? names) (through : Bool)
    {onLeft onRight : List String → List Step → Except Cause Spot}
    (links : ∀ names steps,
      (onLeft names steps).map Spot.names = (onRight names steps).map Spot.names)
    (steps : List Step) (names : List String) :
    (left.followWith through onLeft names steps).map Spot.names =
      (right.followWith through onRight names steps).map Spot.names := by
  induction steps generalizing names with
  | nil => rfl
  | cons step rest inductionHypothesis =>
      cases step with
      | stay => exact inductionHypothesis names
      | up => exact inductionHypothesis names.dropLast
      | enter name =>
          have same := alike (names ++ [name])
          unfold shapeAt? faceAt? at same
          rw [followWith, followWith]
          by_cases long : name.utf8ByteSize > longestName
          · rw [if_pos long, if_pos long]
          · rw [if_neg long, if_neg long]
            cases onTheLeft : left.get? (names ++ [name]) with
            | none =>
                cases onTheRight : right.get? (names ++ [name]) with
                | some node => rw [onTheLeft, onTheRight] at same; cases same
                | none => cases rest.isEmpty <;> rfl
            | some first =>
                cases onTheRight : right.get? (names ++ [name]) with
                | none => rw [onTheLeft, onTheRight] at same; cases same
                | some second =>
                    rw [onTheLeft, onTheRight] at same
                    cases first <;> cases second <;>
                      simp only [Option.map_some, face, Face.shape, Option.some.injEq,
                        Shape.link.injEq, reduceCtorEq] at same
                    · cases rest.isEmpty <;> rfl
                    · subst same
                      simp only []
                      split
                      · rfl
                      · split
                        · rfl
                        · exact links _ _
                    · exact inductionHypothesis _

theorem follow_names_congr {left right : Node}
    (alike : ∀ names, left.shapeAt? names = right.shapeAt? names) (through : Bool) (passes : Nat)
    (names : List String) (steps : List Step) :
    (left.follow through passes names steps).map Spot.names =
      (right.follow through passes names steps).map Spot.names := by
  induction passes generalizing names steps with
  | zero => exact followWith_names_congr alike through (fun _ _ => rfl) steps names
  | succ passes inductionHypothesis =>
      exact followWith_names_congr alike through inductionHypothesis steps names

/-- Trees with the same kinds of nodes lead every path to the same names. -/
theorem locate_names_congr {left right : Node}
    (alike : ∀ names, left.shapeAt? names = right.shapeAt? names) (standing : List String)
    (through : Bool) (path : String) :
    (left.locate standing through path).map Spot.names =
      (right.locate standing through path).map Spot.names := by
  unfold locate
  split
  · rfl
  · split
    · rfl
    · split
      · rfl
      · exact follow_names_congr alike through _ _ _

/-! ## Writing into a file that is there -/

/-- Reading finds the spot of a regular file. -/
theorem readBytes_eq_ok_iff {tree : Node} {standing : List String} {path : String}
    {content : ByteArray} :
    tree.readBytes standing path = .ok content ↔
      ∃ names executable, tree.locate standing true path =
        .ok ⟨names, some (file content executable)⟩ := by
  unfold readBytes
  constructor
  · intro read
    split at read
    · cases read
    · cases read
    · rename_i names held executable located
      cases read
      exact ⟨names, executable, located⟩
    · cases read
    · cases read
  · rintro ⟨names, executable, located⟩
    rw [located]

theorem fromUTF8?_eq_some_iff {content : ByteArray} {text : String} :
    String.fromUTF8? content = some text ↔ content = text.toUTF8 := by
  unfold String.fromUTF8?
  constructor
  · intro decoded
    split at decoded
    · rw [← Option.some.inj decoded]
      rfl
    · cases decoded
  · intro encoded
    subst encoded
    exact dif_pos text.isValidUTF8

/-- Reading a text reads its encoding. -/
theorem readText_eq_ok_iff {tree : Node} {standing : List String} {path text : String} :
    tree.readText standing path = .ok text ↔ tree.readBytes standing path = .ok text.toUTF8 := by
  unfold readText
  cases tree.readBytes standing path with
  | error cause => simp
  | ok content =>
      simp only []
      rw [Except.ok.injEq, ← fromUTF8?_eq_some_iff]
      cases String.fromUTF8? content with
      | none => simp
      | some found => simp

/-- New content for a file whose content can be read: the file keeps its names
and its permission, the write succeeds, and reading gives what was written. -/
theorem writeBytes_of_readBytes {tree : Node} {standing : List String} {path : String}
    {old : ByteArray} (read : tree.readBytes standing path = .ok old) (new : ByteArray) :
    ∃ names executable,
      tree.get? names = some (file old executable) ∧
        tree.locate standing true path = .ok ⟨names, some (file old executable)⟩ ∧
        tree.writeBytes standing path new = .ok (tree.set (file new executable) names) ∧
        (tree.set (file new executable) names).readBytes standing path = .ok new := by
  obtain ⟨names, executable, located⟩ := readBytes_eq_ok_iff.mp read
  have held : tree.get? names = some (file old executable) := (locate_node located).symm
  have faces := faceAt?_set_of_get? (leaf_file new executable) (leaf_file old executable) held
  -- no entry changes its kind, so the path leads to the same names as before
  have alike : ∀ other,
      (tree.set (file new executable) names).shapeAt? other = tree.shapeAt? other := by
    intro other
    rw [shapeAt?, shapeAt?, faces other]
    by_cases same : other = names
    · rw [if_pos same, same, faceAt?, held]
      rfl
    · rw [if_neg same]
  refine ⟨names, executable, held, located, ?_, ?_⟩
  · rw [writeBytes, located]
  · have reached := locate_names_congr alike standing true path
    rw [located] at reached
    cases relocated : (tree.set (file new executable) names).locate standing true path with
    | error cause => rw [relocated] at reached; cases reached
    | ok spot =>
        cases spot with
        | mk reachedNames node =>
            rw [relocated] at reached
            have sameNames : reachedNames = names := Except.ok.inj reached
            have written : (tree.set (file new executable) names).get? names =
                some (file new executable) := by
              apply get?_of_faceAt?_file
              rw [faces names, if_pos rfl]
              rfl
            have found : node = some (file new executable) :=
              (locate_node relocated).trans (by rw [sameNames, written])
            exact readBytes_eq_ok_iff.mpr ⟨names, executable, by rw [relocated, sameNames, found]⟩

end Node

end Workbench
