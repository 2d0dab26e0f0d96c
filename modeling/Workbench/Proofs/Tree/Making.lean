import Workbench.Proofs.Tree.Leading
import Workbench.Proofs.Tree.Scope
namespace Workbench

/-!
# Making directories

The missing directories of a path are made from above, but they are tried from below: where the
directory above is missing it is made first, in the same way, and then the directory is tried
again.  Four things can come of it.  The directory is there already; something is in the way, and
nothing is made; all that was missing is made, one directory inside of the other; or a name is too
long, and what was missing above it is made all the same.  The last one is noticed late, because
a name is looked at only when there is a directory for it.

In which of the cases one is can be told from the tree before: directories are made exactly if
one of the places on the path is *free*, which means that nothing stands there and that the
directory for it is there.
-/

/-- The place has a name, and the other one is this place or lies below it. -/
structure Place.Upper (above place : Place) : Prop where
  named : above.names ≠ []
  lower : ∃ more, place = above.below more

namespace Place

theorem below_below (place : Place) (names more : List String) :
    (place.below names).below more = place.below (names ++ more) := by
  rw [below, below, below, List.append_assoc]

theorem below_nil (place : Place) : place.below [] = place := by
  rw [below, List.append_nil]

theorem exists_last {place : Place} (named : place.names ≠ []) :
    ∃ above name, place = Place.below above [name] := by
  rcases List.eq_nil_or_concat place.names with none | ⟨names, name, last⟩
  · exact absurd none named
  · refine ⟨⟨place.anchored, names⟩, name, ?_⟩
    rw [below, ← List.concat_eq_append, ← last]

theorem Upper.eq_or_upper {above place : Place} {name : String}
    (upper : above.Upper (place.below [name])) :
    above = place.below [name] ∨ above.Upper place := by
  rcases upper.lower with ⟨more, shape⟩
  rcases List.eq_nil_or_concat more with none | ⟨others, last, ends⟩
  · rw [none, below_nil] at shape
    exact Or.inl shape.symm
  · rw [ends, List.concat_eq_append, ← below_below] at shape
    have anchors : place.anchored = above.anchored :=
      congrArg (fun place => place.anchored) shape
    have ends : place.names ++ [name] = above.names ++ others ++ [last] :=
      congrArg (fun place => place.names) shape
    have names := (List.append_inj' ends rfl).1
    refine Or.inr ⟨upper.named, others, ?_⟩
    rw [below, ← anchors, ← names]

end Place

namespace Node

/-- A directory can hold the name. -/
def Fits (name : String) : Prop :=
  name.utf8ByteSize ≤ longestName

instance (name : String) : Decidable (Fits name) :=
  inferInstanceAs (Decidable (_ ≤ _))

/-- The place is not taken, and the directory is there in which it would stand. -/
def Free (tree : Node) (standing : List String) (place : Place) : Prop :=
  ∃ names, tree.locate standing false place.text = .ok ⟨names, none⟩

/-- The later tree has directories for the names, one inside of the other, where the earlier tree
had nothing, and nothing else is different. -/
structure Chain (reached names : List String) (before after : Node) : Prop where
  made : ∀ upper, upper ≠ [] → upper <+: names →
    after.faceAt? (reached ++ upper) = some .directory
  fresh : ∀ upper, upper ≠ [] → upper <+: names → before.faceAt? (reached ++ upper) = none
  kept : ∀ other, (∀ upper, upper ≠ [] → upper <+: names → other ≠ reached ++ upper) →
    after.faceAt? other = before.faceAt? other

/-- What comes of making a directory and the missing ones above it. -/
inductive Making (tree : Node) (standing : List String) (place : Place) :
    Except Cause Unit × Node → Prop where
  /-- The directory is there. -/
  | present {reached : List String} (leads : LeadsTo tree standing place reached) :
      Making tree standing place (.ok (), tree)
  /-- Nothing can be made, because something is in the way. -/
  | stuck (cause : Cause) (blocked : ∀ reached, ¬ LeadsTo tree standing place reached)
      (taken : ∀ above : Place, above.Upper place → ¬ Free tree standing above) :
      Making tree standing place (.error cause, tree)
  /-- All directories that were missing have been made. -/
  | whole {above : Place} {reached names : List String} {after : Node}
      (split : place = above.below names) (filled : names ≠ [])
      (leads : LeadsTo tree standing above reached) (fits : ∀ name ∈ names, Fits name)
      (chain : Chain reached names tree after) : Making tree standing place (.ok (), after)
  /-- The missing directories above the first name that is too long have been made. -/
  | cut {above : Place} {reached names rest : List String} {name : String} {after : Node}
      (cause : Cause) (split : place = above.below (names ++ name :: rest)) (filled : names ≠ [])
      (leads : LeadsTo tree standing above reached) (fits : ∀ name ∈ names, Fits name)
      (long : ¬ Fits name) (chain : Chain reached names tree after) :
      Making tree standing place (.error cause, after)

variable {tree before after : Node} {standing : List String} {place above : Place}
  {reached names : List String} {name : String}

/-! ## Growing chains -/

namespace Chain

theorem keeps (chain : Chain reached names before after) : Keeps before after := by
  intro other face stood
  rw [chain.kept other, stood]
  rintro upper filled front rfl
  rw [chain.fresh upper filled front] at stood
  cases stood

theorem refl (reached : List String) (tree : Node) : Chain reached [] tree tree where
  made := fun _ filled front => absurd (List.prefix_nil.mp front) filled
  fresh := fun _ filled front => absurd (List.prefix_nil.mp front) filled
  kept := fun _ _ => rfl

/-- What is below the last directory is as it was. -/
theorem kept_below (chain : Chain reached names before after) (name : String) :
    after.faceAt? (reached ++ (names ++ [name])) =
      before.faceAt? (reached ++ (names ++ [name])) := by
  apply chain.kept
  intro upper _ front same
  have longer := front.length_le
  rw [← List.append_cancel_left same, List.length_append, List.length_singleton] at longer
  omega

/-- Below the last directory there was nothing, and there is nothing now. -/
theorem free_below (chain : Chain reached names before after) (filled : names ≠ [])
    (name : String) :
    before.faceAt? (reached ++ (names ++ [name])) = none ∧
      after.get? (reached ++ names ++ [name]) = none := by
  have free : before.faceAt? (reached ++ (names ++ [name])) = none := by
    have fresh := chain.fresh names filled List.prefix_rfl
    rw [faceAt?, Option.map_eq_none_iff] at fresh
    rw [← List.append_assoc, faceAt?, get?_append, fresh]
    rfl
  have still := chain.kept_below name
  rw [free, faceAt?, Option.map_eq_none_iff, ← List.append_assoc] at still
  exact ⟨free, still⟩

/-- The first directory of a chain could be made. -/
theorem exists_first (chain : Chain reached names before after) (filled : names ≠ []) :
    ∃ first, names.head? = some first ∧ before.get? (reached ++ [first]) = none := by
  rcases List.exists_cons_of_ne_nil filled with ⟨first, others, rfl⟩
  exact ⟨first, rfl, Option.map_eq_none_iff.mp (chain.fresh [first] (by simp) (by simp))⟩

/-- One more directory at the lower end. -/
theorem concat (chain : Chain reached names before after)
    (holder : after.faceAt? (reached ++ names) = some .directory)
    (free : before.faceAt? (reached ++ (names ++ [name])) = none) :
    Chain reached (names ++ [name]) before
      (after.set emptyDirectory (reached ++ (names ++ [name]))) := by
  have untouched : after.faceAt? (reached ++ (names ++ [name])) = none := by
    rw [chain.kept_below, free]
  have faces : ∀ other, (after.set emptyDirectory (reached ++ (names ++ [name]))).faceAt? other =
      if other = reached ++ (names ++ [name]) then some .directory else after.faceAt? other := by
    rcases faceAt?_eq_directory_iff.mp holder with ⟨members, got⟩
    rw [← List.append_assoc] at untouched ⊢
    refine faceAt?_set leaf_emptyDirectory got (fun child found => ?_)
    rw [faceAt?, get?_append_of_get? got, get?_directory_cons, found] at untouched
    cases untouched
  constructor
  · intro upper filled front
    rw [faces]
    split
    · rfl
    · rename_i upperPart
      rcases List.prefix_concat_iff.mp front with last | earlier
      · exact absurd (congrArg (reached ++ ·) last) upperPart
      · exact chain.made upper filled earlier
  · intro upper filled front
    rcases List.prefix_concat_iff.mp front with last | earlier
    · rw [last, free]
    · exact chain.fresh upper filled earlier
  · intro other elsewhere
    rw [faces, if_neg (elsewhere _ (by simp) List.prefix_rfl)]
    apply chain.kept
    intro upper filled front
    exact elsewhere upper filled (front.trans (List.prefix_append _ _))

end Chain

/-! ## One directory -/

theorem directoryAt_iff (plain : place.IsPlain) (named : place.names ≠ [])
    (accepted : refusal? place.text = none) :
    tree.directoryAt standing place.text = true ↔
      ∃ reached, LeadsTo tree standing place reached := by
  rw [directoryAt, find?, locate_text_of_plain plain named, accepted]
  simp only [LeadsTo]
  constructor
  · intro found
    cases sought : tree.seek standing true place with
    | error cause => rw [sought] at found; cases found
    | ok spot =>
        rcases spot with ⟨names, node⟩
        rw [sought] at found
        cases node with
        | none => cases found
        | some node =>
            cases node with
            | directory members => exact ⟨names, members, rfl⟩
            | file content executable => cases found
            | link target => cases found
  · rintro ⟨names, members, sought⟩
    rw [sought]

/-- A place is free only if it is the next one below a directory that is there. -/
theorem exists_leadsTo_of_free (stands : tree.faceAt? standing = some .directory)
    (plain : (above.below [name]).IsPlain) (free : Free tree standing (above.below [name])) :
    ∃ reached, LeadsTo tree standing above reached ∧ Fits name ∧
      tree.get? (reached ++ [name]) = none := by
  rcases free with ⟨names, located⟩
  rw [locate_text_of_plain plain (by simp [Place.below])] at located
  split at located
  · cases located
  · by_cases leads : ∃ reached, LeadsTo tree standing above reached
    · rcases leads with ⟨reached, leads⟩
      rcases leads.exists_seek_below stands with ⟨fewer, goesOn⟩
      rw [goesOn false [name] (by simp), List.map_singleton] at located
      refine ⟨reached, leads, ?_⟩
      by_cases fits : Fits name
      · rw [follow_enter_last fits] at located
        exact ⟨fits, (Spot.mk.inj (Except.ok.inj located)).2⟩
      · rw [follow_enter_of_long (Nat.not_le.mp fits)] at located
        cases located
    · rcases exists_seek_below_of_not_leadsTo stands
        (fun reached leading => leads ⟨reached, leading⟩) with ⟨cause, ends⟩
      rw [ends false [name] (by simp)] at located
      cases located

/-- Below a free place nothing is found. -/
theorem seek_below_free (stands : tree.faceAt? standing = some .directory)
    (leads : LeadsTo tree standing above reached) (fits : Fits name)
    (free : tree.get? (reached ++ [name]) = none) (through : Bool) (more : List String) :
    tree.seek standing through (above.below (name :: more)) =
      if more.isEmpty then .ok ⟨reached ++ [name], none⟩ else .error .notFound := by
  rcases leads.exists_seek_below stands with ⟨fewer, goesOn⟩
  rw [goesOn through (name :: more) (by simp), List.map_cons, follow_enter_of_none fits free,
    List.isEmpty_map]

theorem not_leadsTo_of_free (stands : tree.faceAt? standing = some .directory)
    (plain : place.IsPlain) (upper : above.Upper place) (free : Free tree standing above) :
    ∀ reached, ¬ LeadsTo tree standing place reached := by
  rcases Place.exists_last upper.named with ⟨higher, name, rfl⟩
  rcases upper.lower with ⟨more, rfl⟩
  rcases exists_leadsTo_of_free stands plain.of_below free with ⟨reached, leads, fits, absent⟩
  rintro other ⟨members, sought⟩
  rw [Place.below_below, List.singleton_append, seek_below_free stands leads fits absent] at sought
  split at sought
  · cases sought
  · cases sought

theorem makeDirectory_eq_ok_iff {path : String} {changed : Node} :
    tree.makeDirectory standing path = .ok changed ↔
      ∃ names, tree.locate standing false path = .ok ⟨names, none⟩ ∧
        changed = tree.set emptyDirectory names := by
  unfold makeDirectory
  constructor
  · intro made
    split at made
    · cases made
    · rename_i names located
      exact ⟨names, located, (Except.ok.inj made).symm⟩
    · cases made
  · rintro ⟨names, located, rfl⟩
    rw [located]

/-- In a directory that is there, a directory is made or a reason is given that is not about the
directories above. -/
theorem makeDirectory_below (stands : tree.faceAt? standing = some .directory)
    (plain : (above.below [name]).IsPlain) (accepted : refusal? (above.below [name]).text = none)
    (leads : LeadsTo tree standing above reached) :
    tree.makeDirectory standing (above.below [name]).text =
      if Fits name then
        if (tree.get? (reached ++ [name])).isNone then
          .ok (tree.set emptyDirectory (reached ++ [name]))
        else .error .alreadyExists
      else .error .nameTooLong := by
  rcases leads.exists_seek_below stands with ⟨fewer, goesOn⟩
  have located := locate_text_of_plain plain (by simp [Place.below]) tree standing false
  rw [accepted] at located
  simp only [goesOn false [name] (by simp), List.map_singleton] at located
  rw [makeDirectory, located]
  by_cases fits : Fits name
  · rw [if_pos fits, follow_enter_last fits]
    cases tree.get? (reached ++ [name]) with
    | none => rfl
    | some node => rfl
  · rw [if_neg fits, follow_enter_of_long (Nat.not_le.mp fits)]

/-! ## Several directories in a row -/

/-- Where the directory cannot be made, and not for a missing one above, there is either a
directory already or something in the way. -/
theorem making_of_refused (stands : tree.faceAt? standing = some .directory)
    (plain : place.IsPlain) (named : place.names ≠ []) (accepted : refusal? place.text = none)
    {cause : Cause} (made : tree.makeDirectory standing place.text = .error cause)
    (other : cause ≠ .notFound) :
    Making tree standing place
      (if tree.directoryAt standing place.text then (.ok (), tree) else (.error cause, tree)) := by
  split
  · rename_i found
    rcases (directoryAt_iff plain named accepted).mp found with ⟨reached, leads⟩
    exact .present leads
  · rename_i missing
    refine .stuck cause (fun reached leads =>
      missing ((directoryAt_iff plain named accepted).mpr ⟨reached, leads⟩)) ?_
    rintro above upper free
    -- a free place is the one that is made, or the others are missing because of it
    rcases upper.lower with ⟨more, rfl⟩
    rcases Place.exists_last upper.named with ⟨higher, name, rfl⟩
    rcases exists_leadsTo_of_free stands plain.of_below free with ⟨reached, leads, fits, absent⟩
    have sought := seek_below_free stands leads fits absent false more
    have located := locate_text_of_plain plain named tree standing false
    rw [accepted, Place.below_below, List.singleton_append] at located
    rw [Place.below_below, List.singleton_append, makeDirectory, located] at made
    cases more with
    | nil => simp only [sought] at made; cases made
    | cons next others => simp only [sought] at made; exact other (Except.error.inj made).symm

/-- One more directory in the last one of a chain that has just been made. -/
theorem making_settleDirectory (stands : tree.faceAt? standing = some .directory)
    (plain : ((above.below names).below [name]).IsPlain)
    (accepted : refusal? ((above.below names).below [name]).text = none)
    (filled : names ≠ []) (leads : LeadsTo tree standing above reached)
    (fits : ∀ name ∈ names, Fits name) (chain : Chain reached names tree after) :
    Making tree standing ((above.below names).below [name])
      (after.settleDirectory standing ((above.below names).below [name]).text) := by
  have standsAfter := chain.keeps standing .directory stands
  have leadsAfter := (leads.of_keeps chain.keeps).below standsAfter chain.made fits
  rcases chain.free_below filled name with ⟨free, untouched⟩
  have made := makeDirectory_below standsAfter plain accepted leadsAfter
  by_cases here : Fits name
  · rw [if_pos here, untouched] at made
    rw [settleDirectory, made, Place.below_below, List.append_assoc]
    exact .whole rfl (by simp) leads (List.forall_mem_append.mpr ⟨fits, by simpa using here⟩)
      (chain.concat leadsAfter.faceAt? free)
  · rw [if_neg here] at made
    have missing : ¬ after.directoryAt standing ((above.below names).below [name]).text = true := by
      rw [directoryAt_iff plain (by simp [Place.below]) accepted]
      rintro ⟨found, members, sought⟩
      rcases leadsAfter.exists_seek_below standsAfter with ⟨fewer, goesOn⟩
      rw [goesOn true [name] (by simp), List.map_singleton,
        follow_enter_of_long (Nat.not_le.mp here)] at sought
      cases sought
    rw [settleDirectory, made]
    simp only [if_neg missing]
    rw [Place.below_below]
    exact .cut _ rfl filled leads fits here chain

/-- Making a directory and the missing ones above it. -/
theorem making_makeDirectoriesUp (stands : tree.faceAt? standing = some .directory)
    (anchored : Bool) (path : List String) (plain : Place.IsPlain ⟨anchored, path.reverse⟩)
    (accepted : refusal? (Place.text ⟨anchored, path.reverse⟩) = none) :
    Making tree standing ⟨anchored, path.reverse⟩
      (makeDirectoriesUp standing anchored path tree) := by
  induction path with
  | nil =>
      rcases faceAt?_eq_directory_iff.mp (faceAt?_base stands ⟨anchored, []⟩) with ⟨members, got⟩
      have leads : LeadsTo tree standing ⟨anchored, []⟩ (Place.base standing ⟨anchored, []⟩) := by
        refine ⟨members, ?_⟩
        rw [seek, List.map_nil, follow_nil, got]
      exact .present leads
  | cons name path inductionHypothesis =>
      have shape : (⟨anchored, (name :: path).reverse⟩ : Place) =
          Place.below ⟨anchored, path.reverse⟩ [name] := by
        rw [Place.below, List.reverse_cons]
      cases made : tree.makeDirectory standing (Place.text ⟨anchored, (name :: path).reverse⟩) with
      | ok changed =>
          rw [makeDirectoriesUp, made]
          rw [shape] at plain accepted made ⊢
          rcases makeDirectory_eq_ok_iff.mp made with ⟨names, located, _⟩
          rcases exists_leadsTo_of_free stands plain ⟨names, located⟩ with
            ⟨reached, leads, fits, absent⟩
          have same := makeDirectory_below stands plain accepted leads
          rw [if_pos fits, absent, made] at same
          have there : tree.faceAt? (reached ++ []) = some .directory := by
            rw [List.append_nil]
            exact leads.faceAt?
          have free : tree.faceAt? (reached ++ ([] ++ [name])) = none := by
            rw [List.nil_append, faceAt?, absent, Option.map_none]
          have grown := (Chain.refl reached tree).concat there free
          rw [List.nil_append] at grown
          rw [Except.ok.inj same]
          exact .whole rfl (by simp) leads (by simpa using fits) grown
      | error cause =>
          by_cases missing : cause = .notFound
          · subst missing
            rw [makeDirectoriesUp, made]
            rw [shape] at plain accepted made ⊢
            have upper := inductionHypothesis plain.of_below (refusal?_of_below accepted)
            simp only
            generalize makeDirectoriesUp standing anchored path tree = result at upper
            cases upper with
            | present leads =>
                rw [makeDirectory_below stands plain accepted leads] at made
                split at made
                · split at made
                  · cases made
                  · cases made
                · cases made
            | stuck cause blocked taken =>
                rcases exists_seek_below_of_not_leadsTo stands blocked with ⟨_, ends⟩
                refine .stuck cause ?_ ?_
                · rintro reached ⟨members, sought⟩
                  rw [ends true [name] (by simp)] at sought
                  cases sought
                · intro above upper free
                  rcases upper.eq_or_upper with rfl | higher
                  · rcases free with ⟨names, located⟩
                    rw [makeDirectory_eq_ok_iff.mpr ⟨names, located, rfl⟩] at made
                    cases made
                  · exact taken above higher free
            | whole split filled leads fits chain =>
                rw [split] at plain accepted ⊢
                exact making_settleDirectory stands plain accepted filled leads fits chain
            | @cut above _ names rest tooLong _ cause split filled leads fits long chain =>
                have whole : Place.below ⟨anchored, path.reverse⟩ [name] =
                    above.below (names ++ tooLong :: (rest ++ [name])) := by
                  rw [split, Place.below_below, List.append_assoc, List.cons_append]
                exact .cut cause whole filled leads fits long chain
          · rw [makeDirectoriesUp_of_refused made missing]
            exact making_of_refused stands plain (by simp) accepted made missing

end Node

end Workbench
