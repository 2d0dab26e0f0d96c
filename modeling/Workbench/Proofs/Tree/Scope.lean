import Workbench.Proofs.Tree.Following
import Workbench.Proofs.Tree.Linkless
namespace Workbench

/-!
# Changes within a scope

A scope is a list of names; everything at or below them belongs to it.  If the
names lead to a directory, and the tree has no links, then whatever is done at a
place of the scope stays in it: making directories upwards stops at the scope's
own directory at the latest, because that one is there.

Two kinds of change are told apart.  A tree grows by directories and at most one
empty file, where nothing stood before; or one file is rewritten.  Both keep the
kind of every node, and neither touches a face outside of the scope.
-/

/-- A place at or below the names of a scope, readable from its own text. -/
structure Place.Within (scope : List String) (place : Place) : Prop where
  anchored : place.anchored = true
  below : scope <+: place.names
  plain : ∀ name ∈ place.names, Path.Plain name

namespace Node

/-- A tree without links in which the scope is a directory. -/
structure Hosts (scope : List String) (tree : Node) : Prop where
  linkless : tree.Linkless
  present : tree.faceAt? scope = some .directory

/-- The later tree has what the earlier one had.  What is new lies in the scope
and is a directory, but for one empty file if `fresh` gives its names. -/
def GrowsBy (fresh : Option (List String)) (scope : List String) (before after : Node) : Prop :=
  ∀ names,
    after.faceAt? names = before.faceAt? names ∨
      (scope <+: names ∧ before.faceAt? names = none ∧
        (after.faceAt? names = some .directory ∨
          (fresh = some names ∧ after.faceAt? names = some (.file ByteArray.empty false))))

/-- The later tree has gained directories and at most one empty file in the
scope, at names where nothing stood, and nothing else is different. -/
def Grows (scope : List String) (before after : Node) : Prop :=
  ∃ fresh, GrowsBy fresh scope before after

/-- One file of the scope has new content, and nothing else is different. -/
def Rewrites (scope : List String) (before after : Node) : Prop :=
  ∃ names old new executable, scope <+: names ∧
    before.faceAt? names = some (.file old executable) ∧
    ∀ other, after.faceAt? other =
      if other = names then some (.file new executable) else before.faceAt? other

/-- Whether the text of a place can be followed down to a node that is there. -/
def passage (place : Place) : Except Cause Unit :=
  match refusal? place.text with
  | some cause => .error cause
  | none =>
    if place.names.any (fun name => longestName < name.utf8ByteSize) then .error .nameTooLong
    else .ok ()

/-- Nothing outside of the scope is different, and no node is gone or has become
a node of another kind. -/
structure Contained (scope : List String) (before after : Node) : Prop where
  outside : ∀ names, ¬ scope <+: names → after.faceAt? names = before.faceAt? names
  kinds : ∀ names shape, before.shapeAt? names = some shape → after.shapeAt? names = some shape

variable {scope : List String} {tree before after : Node} {place : Place}

/-! ## Trees that host a scope -/

namespace Hosts

theorem exists_members (hosts : tree.Hosts scope) :
    ∃ members, tree.get? scope = some (directory members) :=
  faceAt?_eq_directory_iff.mp hosts.present

/-- A tree that hosts any scope is a directory itself. -/
theorem exists_top (hosts : tree.Hosts scope) : ∃ members, tree = directory members := by
  obtain ⟨members, got⟩ := hosts.exists_members
  cases scope with
  | nil =>
      rw [get?_nil, Option.some.injEq] at got
      exact ⟨members, got⟩
  | cons name rest => exact exists_members_of_get?_cons got

theorem locate_text (hosts : tree.Hosts scope) (within : place.Within scope)
    (standing : List String) (through : Bool) :
    tree.locate standing through place.text =
      match refusal? place.text with
      | some cause => .error cause
      | none => (tree.descend place.names).map (fun node => ⟨place.names, node⟩) := by
  obtain ⟨members, top⟩ := hosts.exists_top
  exact Node.locate_text hosts.linkless top standing through within.anchored within.plain

/-- What can be located at a place of the scope stands at the place's names. -/
theorem descend_of_locate (hosts : tree.Hosts scope) (within : place.Within scope)
    {standing : List String} {through : Bool} {names : List String} {node : Option Node}
    (located : tree.locate standing through place.text = .ok ⟨names, node⟩) :
    refusal? place.text = none ∧ names = place.names ∧ tree.descend place.names = .ok node := by
  rw [hosts.locate_text within] at located
  cases refused : refusal? place.text with
  | some cause => rw [refused] at located; cases located
  | none =>
      rw [refused] at located
      cases reached : tree.descend place.names with
      | error cause => rw [reached] at located; cases located
      | ok found =>
          rw [reached] at located
          cases located
          exact ⟨rfl, rfl, rfl⟩

/-- The scope's own directory is found, unless its text cannot be followed. -/
theorem locate_own (hosts : tree.Hosts scope) (within : place.Within scope)
    (own : place.names = scope) {members : List (String × Node)}
    (got : tree.get? scope = some (directory members)) (standing : List String) (through : Bool) :
    tree.locate standing through place.text =
      (passage place).map (fun _ => ⟨scope, some (directory members)⟩) := by
  rw [hosts.locate_text within, passage, own, descend_of_get? got]
  cases refusal? place.text with
  | some cause => rfl
  | none =>
      simp only []
      split
      · rfl
      · rfl

end Hosts

/-! ## Growth -/

namespace GrowsBy

variable {fresh : Option (List String)}

theorem refl (fresh : Option (List String)) (scope : List String) (tree : Node) :
    GrowsBy fresh scope tree tree :=
  fun _ => Or.inl rfl

/-- Growth by directories and then growth of any kind. -/
theorem trans {between : Node} (first : GrowsBy none scope before between)
    (second : GrowsBy fresh scope between after) : GrowsBy fresh scope before after := by
  intro names
  rcases second names with same | ⟨within, absent, new⟩
  · rcases first names with earlier | ⟨within, absent, new⟩
    · exact Or.inl (same.trans earlier)
    · rcases new with directory | ⟨impossible, _⟩
      · exact Or.inr ⟨within, absent, Or.inl (same.trans directory)⟩
      · cases impossible
  · rcases first names with earlier | ⟨_, _, new⟩
    · exact Or.inr ⟨within, earlier.symm.trans absent, new⟩
    · rcases new with directory | ⟨impossible, _⟩
      · rw [absent] at directory
        cases directory
      · cases impossible

/-- What stood before stands unchanged. -/
theorem keeps (grows : GrowsBy fresh scope before after) {names : List String} {face : Face}
    (stood : before.faceAt? names = some face) : after.faceAt? names = some face := by
  rcases grows names with same | ⟨_, absent, _⟩
  · exact same.trans stood
  · rw [absent] at stood
    cases stood

theorem outside (grows : GrowsBy fresh scope before after) {names : List String}
    (elsewhere : ¬ scope <+: names) : after.faceAt? names = before.faceAt? names := by
  rcases grows names with same | ⟨within, _, _⟩
  · exact same
  · exact absurd within elsewhere

theorem hosts (grows : GrowsBy fresh scope before after) (hosts : before.Hosts scope) :
    after.Hosts scope where
  linkless := by
    intro names target linked
    rcases grows names with same | ⟨_, _, new⟩
    · exact hosts.linkless names target (same.symm.trans linked)
    · rcases new with directory | ⟨_, file⟩
      · rw [directory] at linked
        cases linked
      · rw [file] at linked
        cases linked
  present := grows.keeps hosts.present

end GrowsBy

/-! ## Containment -/

namespace Contained

theorem refl (scope : List String) (tree : Node) : Contained scope tree tree where
  outside := fun _ _ => rfl
  kinds := fun _ _ stood => stood

theorem trans {between : Node} (first : Contained scope before between)
    (second : Contained scope between after) : Contained scope before after where
  outside := fun names elsewhere =>
    (second.outside names elsewhere).trans (first.outside names elsewhere)
  kinds := fun names shape stood => second.kinds names shape (first.kinds names shape stood)

end Contained

theorem GrowsBy.contained {fresh : Option (List String)}
    (grows : GrowsBy fresh scope before after) : Contained scope before after where
  outside := fun _ elsewhere => grows.outside elsewhere
  kinds := by
    intro names shape stood
    obtain ⟨face, seen, same⟩ := Option.map_eq_some_iff.mp stood
    rw [shapeAt?, grows.keeps seen, Option.map_some, same]

namespace Rewrites

/-- A rewritten file is the same kind of node as before. -/
theorem shapeAt?_eq (rewrites : Rewrites scope before after) (names : List String) :
    after.shapeAt? names = before.shapeAt? names := by
  obtain ⟨own, old, new, executable, _, stood, faces⟩ := rewrites
  rw [shapeAt?, shapeAt?, faces names]
  by_cases here : names = own
  · rw [if_pos here, here, stood]
    rfl
  · rw [if_neg here]

theorem contained (rewrites : Rewrites scope before after) : Contained scope before after where
  outside := by
    intro names elsewhere
    obtain ⟨own, old, new, executable, below, _, faces⟩ := rewrites
    rw [faces names, if_neg]
    intro here
    exact elsewhere (here ▸ below)
  kinds := fun names shape stood => (rewrites.shapeAt?_eq names).trans stood

theorem hosts (rewrites : Rewrites scope before after) (hosts : before.Hosts scope) :
    after.Hosts scope where
  linkless := by
    intro names target linked
    have kind := rewrites.shapeAt?_eq names
    rw [shapeAt?, linked, Option.map_some] at kind
    obtain ⟨face, seen, same⟩ := Option.map_eq_some_iff.mp kind.symm
    cases face with
    | file content executable => cases same
    | directory => cases same
    | link other => exact hosts.linkless names other seen
  present := by
    obtain ⟨own, old, new, executable, _, stood, faces⟩ := rewrites
    rw [faces scope, if_neg]
    · exact hosts.present
    · intro here
      rw [← here, hosts.present] at stood
      cases stood

end Rewrites

/-! ## Setting a leaf where nothing stood -/

/-- A leaf that is set where a descent found nothing is one more face. -/
theorem faceAt?_set_of_descend_none {names : List String} {leaf : Node} (bare : leaf.Leaf)
    (reached : tree.descend names = .ok none) :
    tree.faceAt? names = none ∧
      ∀ other, (tree.set leaf names).faceAt? other =
        if other = names then some leaf.face else tree.faceAt? other := by
  obtain ⟨above, name, members, split, holder, free⟩ := exists_holder_of_descend_none reached
  subst split
  constructor
  · rw [faceAt?, get?_append_of_get? holder, get?_directory_cons, free]
    rfl
  · refine faceAt?_set bare holder (fun child found => ?_)
    rw [free] at found
    cases found

theorem growsBy_set (within : place.Within scope) (reached : tree.descend place.names = .ok none)
    {fresh : Option (List String)} {leaf : Node} (bare : leaf.Leaf)
    (kind : leaf.face = .directory ∨
      (fresh = some place.names ∧ leaf.face = .file ByteArray.empty false)) :
    GrowsBy fresh scope tree (tree.set leaf place.names) := by
  obtain ⟨absent, faces⟩ := faceAt?_set_of_descend_none bare reached
  intro names
  rw [faces names]
  by_cases here : names = place.names
  · subst here
    rw [if_pos rfl]
    refine Or.inr ⟨within.below, absent, ?_⟩
    rcases kind with directory | ⟨named, file⟩
    · exact Or.inl (congrArg some directory)
    · exact Or.inr ⟨named, congrArg some file⟩
  · exact Or.inl (if_neg here)

/-! ## Making directories -/

theorem makeDirectory_grows (hosts : tree.Hosts scope) (within : place.Within scope)
    {standing : List String} {changed : Node}
    (made : tree.makeDirectory standing place.text = .ok changed) :
    GrowsBy none scope tree changed := by
  unfold makeDirectory at made
  split at made
  · cases made
  · rename_i names located
    obtain ⟨_, sameNames, reached⟩ := hosts.descend_of_locate within located
    cases made
    rw [sameNames]
    exact growsBy_set within reached leaf_emptyDirectory (Or.inl rfl)
  · cases made

theorem settleDirectory_grows (hosts : tree.Hosts scope) (within : place.Within scope)
    (standing : List String) :
    GrowsBy none scope tree (tree.settleDirectory standing place.text).2 := by
  unfold settleDirectory
  split
  · rename_i changed made
    exact makeDirectory_grows hosts within made
  · split <;> exact GrowsBy.refl none scope tree

theorem passage_ne_notFound (place : Place) : passage place ≠ .error .notFound := by
  unfold passage refusal?
  split
  · rename_i cause refused
    split at refused
    · cases refused
      simp
    · split at refused
      · cases refused
        simp
      · cases refused
  · split
    · simp
    · simp

/-- Making the scope's own directory is refused: it is there. -/
theorem makeDirectory_own (hosts : tree.Hosts scope) (within : place.Within scope)
    (own : place.names = scope) (standing : List String) :
    ∃ cause, tree.makeDirectory standing place.text = .error cause ∧ cause ≠ .notFound ∧
      (if tree.directoryAt standing place.text then (.ok (), tree) else (.error cause, tree)) =
        (passage place, tree) := by
  obtain ⟨members, got⟩ := hosts.exists_members
  have located := hosts.locate_own within own got standing
  have known := passage_ne_notFound place
  unfold makeDirectory directoryAt find?
  rw [located false, located true]
  cases passed : passage place with
  | ok _ => exact ⟨.alreadyExists, rfl, by decide, rfl⟩
  | error cause =>
      refine ⟨cause, rfl, ?_, rfl⟩
      intro missing
      exact known (by rw [passed, missing])

/-- The place above, if the scope's own directory has not been reached yet. -/
theorem within_above {name : String} {above : List String}
    (within : (⟨true, above ++ [name]⟩ : Place).Within scope) (deeper : above ++ [name] ≠ scope) :
    (⟨true, above⟩ : Place).Within scope where
  anchored := rfl
  below := by
    rcases List.prefix_concat_iff.mp within.below with whole | shorter
    · exact absurd whole.symm deeper
    · exact shorter
  plain := fun other member => within.plain other (List.mem_append_left [name] member)

/-- Where something above is missing, the scope's own directory lies further up. -/
theorem within_above_of_notFound (hosts : tree.Hosts scope) {name : String}
    {above : List String} (within : (⟨true, (name :: above).reverse⟩ : Place).Within scope)
    {standing : List String}
    (made : tree.makeDirectory standing (Place.text ⟨true, (name :: above).reverse⟩) =
      .error .notFound) : (⟨true, above.reverse⟩ : Place).Within scope := by
  have deeper : (name :: above).reverse ≠ scope := by
    intro own
    obtain ⟨cause, refused, known, _⟩ := makeDirectory_own hosts within own standing
    exact known (Except.error.inj (refused.symm.trans made))
  rw [List.reverse_cons] at within deeper
  exact within_above within deeper

/-- A refusal for any other reason than a missing directory above ends the making:
a directory that is there already is as good, and else the refusal stands. -/
theorem makeDirectoriesUp_of_refused {standing : List String} {anchored : Bool} {name : String}
    {above : List String} {cause : Cause}
    (made : tree.makeDirectory standing (Place.text ⟨anchored, (name :: above).reverse⟩) =
      .error cause) (other : cause ≠ .notFound) :
    makeDirectoriesUp standing anchored (name :: above) tree =
      if tree.directoryAt standing (Place.text ⟨anchored, (name :: above).reverse⟩) then
        (.ok (), tree)
      else (.error cause, tree) := by
  rw [makeDirectoriesUp, made]
  cases cause with
  | notFound => exact absurd rfl other
  | _ => rfl

/-- Making a directory of the scope and the missing ones above it adds
directories of the scope and nothing else, also when it fails half way. -/
theorem makeDirectoriesUp_grows (standing : List String) (path : List String) (tree : Node)
    (hosts : tree.Hosts scope) (within : (⟨true, path.reverse⟩ : Place).Within scope) :
    GrowsBy none scope tree (makeDirectoriesUp standing true path tree).2 := by
  induction path generalizing tree with
  | nil => exact GrowsBy.refl none scope tree
  | cons name above inductionHypothesis =>
      cases made : tree.makeDirectory standing
          (Place.text ⟨true, (name :: above).reverse⟩) with
      | ok changed =>
          rw [makeDirectoriesUp, made]
          exact makeDirectory_grows hosts within made
      | error cause =>
          by_cases missing : cause = .notFound
          · subst missing
            rw [makeDirectoriesUp, made]
            -- the workspace exists, so a missing holder is still inside of it
            have upper := inductionHypothesis tree hosts
              (within_above_of_notFound hosts within made)
            cases prepared : makeDirectoriesUp standing true above tree with
            | mk outcome changed =>
                rw [prepared] at upper
                cases outcome with
                | ok _ =>
                    exact upper.trans
                      (settleDirectory_grows (upper.hosts hosts) within standing)
                | error cause => exact upper
          · rw [makeDirectoriesUp_of_refused made missing]
            split <;> exact GrowsBy.refl none scope tree

theorem makeDirectories_grows (hosts : tree.Hosts scope) (within : place.Within scope)
    (standing : List String) : GrowsBy none scope tree (tree.makeDirectories standing place).2 := by
  rw [makeDirectories, within.anchored]
  refine makeDirectoriesUp_grows standing place.names.reverse tree hosts ?_
  rw [List.reverse_reverse]
  exact ⟨rfl, within.below, within.plain⟩

/-- Making a directory that is there changes nothing, and it fails only if the text
of its place cannot be followed. -/
theorem makeDirectories_own (hosts : tree.Hosts scope) (within : place.Within scope)
    (own : place.names = scope) (standing : List String) :
    tree.makeDirectories standing place = (passage place, tree) := by
  obtain ⟨anchored, names⟩ := place
  have top : anchored = true := within.anchored
  subst top
  rcases List.eq_nil_or_concat names with empty | ⟨above, name, whole⟩
  · subst empty
    rfl
  · rw [List.concat_eq_append] at whole
    subst whole
    obtain ⟨cause, refused, known, outcome⟩ := makeDirectory_own hosts within own standing
    have turned : (name :: above.reverse).reverse = above ++ [name] := by simp
    rw [makeDirectories, List.reverse_append, List.reverse_singleton, List.singleton_append,
      makeDirectoriesUp_of_refused (by rw [turned]; exact refused) known, turned]
    exact outcome

/-- Above a place of the scope either new directories lie in the scope themselves,
or the place is the scope's own and everything above it is there. -/
theorem makeAbove_cases (within : place.Within scope) :
    (∃ parent, parent.Within scope ∧
        ∀ (tree : Node) standing, tree.makeAbove standing place =
          tree.makeDirectories standing parent) ∨
      ∃ outcome, ∀ (tree : Node) standing, tree.Hosts scope →
        tree.makeAbove standing place = (outcome, tree) := by
  obtain ⟨anchored, names⟩ := place
  have top : anchored = true := within.anchored
  subst top
  rcases List.eq_nil_or_concat names with empty | ⟨above, name, whole⟩
  · subst empty
    exact Or.inr ⟨.ok (), fun tree standing hosts => rfl⟩
  · rw [List.concat_eq_append] at whole
    subst whole
    have parent : ∀ (tree : Node) standing, tree.makeAbove standing ⟨true, above ++ [name]⟩ =
        tree.makeDirectories standing ⟨true, above⟩ := by
      intro tree standing
      simp [makeAbove, Place.parent?]
    by_cases own : above ++ [name] = scope
    · refine Or.inr ⟨passage ⟨true, above⟩, ?_⟩
      intro tree standing hosts
      rw [parent]
      obtain ⟨members, got⟩ := hosts.exists_members
      rw [← own] at got
      obtain ⟨listed, holder, _⟩ := exists_holder_of_get? got
      have hostsAbove : tree.Hosts above :=
        ⟨hosts.linkless, faceAt?_eq_directory_iff.mpr ⟨listed, holder⟩⟩
      refine makeDirectories_own hostsAbove ⟨rfl, List.prefix_rfl, ?_⟩ rfl standing
      exact fun other member => within.plain other (List.mem_append_left [name] member)
    · exact Or.inl ⟨⟨true, above⟩, within_above within own, parent⟩

theorem makeAbove_grows (hosts : tree.Hosts scope) (within : place.Within scope)
    (standing : List String) : GrowsBy none scope tree (tree.makeAbove standing place).2 := by
  rcases makeAbove_cases within with ⟨parent, above, same⟩ | ⟨outcome, same⟩
  · rw [same]
    exact makeDirectories_grows hosts above standing
  · rw [same tree standing hosts]
    exact GrowsBy.refl none scope tree

/-! ## Writing -/

/-- A file is written at the names of its place: where nothing stood, or over the
file that stands there. -/
theorem writeBytes_cases (hosts : tree.Hosts scope) (within : place.Within scope)
    {standing : List String} {content : ByteArray} {changed : Node}
    (written : tree.writeBytes standing place.text content = .ok changed) :
    (tree.descend place.names = .ok none ∧
        changed = tree.set (file content false) place.names) ∨
      ∃ old executable, refusal? place.text = none ∧
        tree.descend place.names = .ok (some (file old executable)) ∧
        changed = tree.set (file content executable) place.names := by
  unfold writeBytes at written
  cases located : tree.locate standing true place.text with
  | error cause => rw [located] at written; cases written
  | ok spot =>
      obtain ⟨names, node⟩ := spot
      obtain ⟨clear, same, reached⟩ := hosts.descend_of_locate within located
      subst same
      rw [located] at written
      cases node with
      | none => exact Or.inl ⟨reached, (Except.ok.inj written).symm⟩
      | some node =>
          cases node with
          | link target => cases written
          | directory members => cases written
          | file old executable =>
              exact Or.inr ⟨old, executable, clear, reached, (Except.ok.inj written).symm⟩

/-- Writing over a file rewrites it. -/
theorem rewrites_set (within : place.Within scope) {old new : ByteArray} {executable : Bool}
    (held : tree.get? place.names = some (file old executable)) :
    Rewrites scope tree (tree.set (file new executable) place.names) := by
  refine ⟨place.names, old, new, executable, within.below, ?_, ?_⟩
  · rw [faceAt?, held]
    rfl
  · exact faceAt?_set_of_get? (leaf_file new executable) (leaf_file old executable) held

/-- Writing where a file can be read rewrites that file. -/
theorem writeBytes_rewrites (hosts : tree.Hosts scope) (within : place.Within scope)
    {standing : List String} {old new : ByteArray} {changed : Node}
    (read : tree.readBytes standing place.text = .ok old)
    (written : tree.writeBytes standing place.text new = .ok changed) :
    Rewrites scope tree changed := by
  rcases writeBytes_cases hosts within written with
    ⟨absent, _⟩ | ⟨old, executable, _, reached, same⟩
  · obtain ⟨names, executable, located⟩ := readBytes_eq_ok_iff.mp read
    obtain ⟨_, _, reached⟩ := hosts.descend_of_locate within located
    rw [reached] at absent
    cases absent
  · rw [same]
    exact rewrites_set within (get?_of_descend_some reached)

/-- A file that is found in the later tree was there before directories were
made, and could be found there. -/
theorem GrowsBy.existsAt_of_descend (grown : GrowsBy none scope before after)
    (hosts : before.Hosts scope) (within : place.Within scope) (standing : List String)
    (clear : refusal? place.text = none) {content : ByteArray} {executable : Bool}
    (reached : after.descend place.names = .ok (some (file content executable))) :
    before.existsAt standing place.text = true := by
  have held := get?_of_descend_some reached
  have stood : before.get? place.names = some (file content executable) := by
    apply get?_of_faceAt?_file
    rcases grown place.names with same | ⟨_, _, directory | ⟨impossible, _⟩⟩
    · rw [← same, faceAt?, held]
      rfl
    · rw [faceAt?, held] at directory
      cases directory
    · cases impossible
  have reachedBefore : before.descend place.names = .ok (some (file content executable)) := by
    rw [descend_of_get? stood, ← descend_of_get? held, reached]
  rw [existsAt, find?, hosts.locate_text within, clear, reachedBefore]
  rfl

/-- What is written at a place where nothing was found, once directories have
been made, is one new file. -/
theorem writeBytes_grows {between : Node} (hosts : tree.Hosts scope) (within : place.Within scope)
    {standing : List String} {changed : Node} (absent : tree.existsAt standing place.text = false)
    (grown : GrowsBy none scope tree between)
    (written : between.writeBytes standing place.text ByteArray.empty = .ok changed) :
    GrowsBy (some place.names) scope tree changed := by
  rcases writeBytes_cases (grown.hosts hosts) within written with
    ⟨free, same⟩ | ⟨old, executable, clear, reached, _⟩
  · rw [same]
    exact grown.trans (growsBy_set within free (leaf_file _ _) (Or.inr ⟨rfl, rfl⟩))
  · rw [grown.existsAt_of_descend hosts within standing clear reached] at absent
    cases absent

end Node

end Workbench
