import Workbench.Proofs.Tree.Making
namespace Workbench

/-!
# What a tree has gained

A command says by places what it makes, and links decide at which names this then stands.  So what
a tree has gained is said in both ways: each gained place leads to names at which nothing stood
before, and at no other names anything is different.

For the directories of a path the gained places are those of its ancestors that were missing.  A
file besides them can be written far from them, if its place leads to a free name through a link,
and it takes nothing away from what has been gained before.
-/

namespace Node

/-- The place leads to these names, links followed, and this stands there. -/
def Shows (tree : Node) (standing : List String) (place : Place) (names : List String)
    (face : Face) : Prop :=
  ∃ node, tree.locate standing true place.text = .ok ⟨names, some node⟩ ∧ node.face = face

/-- The later tree has what the earlier one had, and besides exactly what is gained: each place of
it leads to names at which nothing stood before, and no other names are different. -/
structure Gains (standing : List String) (gained : Place → Face → Prop) (before after : Node) :
    Prop where
  shows : ∀ place face, gained place face →
    ∃ names, after.Shows standing place names face ∧ before.faceAt? names = none
  kept : ∀ names, after.faceAt? names = before.faceAt? names ∨
    ∃ place face, gained place face ∧ after.Shows standing place names face

/-- The other place is an ancestor directory of this one, and nothing is found there. -/
structure Missing (tree : Node) (standing : List String) (place ancestor : Place) : Prop where
  upper : ancestor.Upper place
  proper : ancestor ≠ place
  absent : tree.existsAt standing ancestor.text = false

variable {tree before between after : Node} {standing : List String} {place above : Place}
  {reached names : List String} {name : String} {gained : Place → Face → Prop}

/-! ## What is found -/

theorem Keeps.trans (first : Keeps before between) (second : Keeps between after) :
    Keeps before after :=
  fun names face stood => second names face (first names face stood)

/-- What a place shows is shown in every tree that has what this one has. -/
theorem Shows.of_keeps (keeps : Keeps before after) {face : Face} (plain : place.IsPlain)
    (named : place.names ≠ []) (shows : before.Shows standing place names face) :
    after.Shows standing place names face := by
  rcases shows with ⟨node, located, same⟩
  have stood : before.faceAt? names = some face := by
    rw [faceAt?, ← locate_node located, ← same]
    rfl
  have still := keeps names face stood
  rw [faceAt?, Option.map_eq_some_iff] at still
  rcases still with ⟨now, got, seen⟩
  refine ⟨now, ?_, seen⟩
  rw [locate_text_of_plain plain named] at located ⊢
  cases refused : refusal? place.text with
  | some cause => rw [refused] at located; cases located
  | none =>
      rw [refused] at located
      have again := follow_of_keeps keeps located (fun none => absurd none (Option.some_ne_none _))
      rw [got] at again
      exact again

theorem LeadsTo.shows (leads : LeadsTo tree standing place reached) (plain : place.IsPlain)
    (named : place.names ≠ []) (accepted : refusal? place.text = none) :
    tree.Shows standing place reached .directory := by
  rcases leads with ⟨members, sought⟩
  refine ⟨directory members, ?_, rfl⟩
  rw [locate_text_of_plain plain named, accepted]
  exact sought

/-- What lies above a directory is a directory too. -/
theorem exists_leadsTo_above (stands : tree.faceAt? standing = some .directory)
    (leads : LeadsTo tree standing (above.below names) reached) :
    ∃ higher, LeadsTo tree standing above higher := by
  by_cases none : names = []
  · rw [none, Place.below_nil] at leads
    exact ⟨reached, leads⟩
  · by_contra blocked
    rcases exists_seek_below_of_not_leadsTo stands
      (fun higher leading => blocked ⟨higher, leading⟩) with ⟨cause, ends⟩
    rcases leads with ⟨members, sought⟩
    rw [ends true names none] at sought
    cases sought

theorem existsAt_of_leadsTo (leads : LeadsTo tree standing place reached) (plain : place.IsPlain)
    (named : place.names ≠ []) (accepted : refusal? place.text = none) :
    tree.existsAt standing place.text = true := by
  rcases leads.shows plain named accepted with ⟨node, located, _⟩
  rw [existsAt, find?, located]
  rfl

/-- The names of a directory fit. -/
theorem fits_of_leadsTo (stands : tree.faceAt? standing = some .directory)
    (leads : LeadsTo tree standing place reached) : ∀ name ∈ place.names, Fits name := by
  intro name member
  by_contra long
  rcases List.append_of_mem member with ⟨front, back, split⟩
  have shape : place = Place.below ⟨place.anchored, front⟩ (name :: back) := by
    rw [Place.below, ← split]
  rw [shape] at leads
  rcases exists_leadsTo_above stands leads with ⟨higher, leading⟩
  rcases leading.exists_seek_below stands with ⟨fewer, goesOn⟩
  rcases leads with ⟨members, sought⟩
  rw [goesOn true (name :: back) (by simp), List.map_cons,
    follow_enter_of_long (Nat.not_le.mp long)] at sought
  cases sought

/-! ## Ancestors that are missing -/

/-- Above a directory nothing is missing. -/
theorem not_missing_of_leadsTo (stands : tree.faceAt? standing = some .directory)
    (plain : (place.below [name]).IsPlain) (accepted : refusal? place.text = none)
    (leads : LeadsTo tree standing place reached) (ancestor : Place) :
    ¬ Missing tree standing (place.below [name]) ancestor := by
  rintro ⟨upper, proper, absent⟩
  rcases upper.eq_or_upper with same | ⟨named, more, rfl⟩
  · exact proper same
  · rcases exists_leadsTo_above stands leads with ⟨higher, leading⟩
    rw [existsAt_of_leadsTo leading plain.of_below.of_below named (refusal?_of_below accepted)]
      at absent
    cases absent

/-- A place that has another one below it lies above a third place, or below it. -/
theorem below_eq_below_cases {ancestor : Place} {more : List String}
    (same : above.below names = ancestor.below more) :
    (∃ between, above = ancestor.below between) ∨
      ∃ upper, ancestor = above.below upper ∧ upper <+: names := by
  have anchors : above.anchored = ancestor.anchored :=
    congrArg (fun place => place.anchored) same
  have whole : above.names ++ names = ancestor.names ++ more :=
    congrArg (fun place => place.names) same
  rcases List.append_eq_append_iff.mp whole with ⟨upper, higher, rest⟩ | ⟨between, higher, _⟩
  · exact Or.inr ⟨upper, by rw [Place.below, anchors, ← higher], ⟨more, rest.symm⟩⟩
  · exact Or.inl ⟨between, by rw [Place.below, ← anchors, ← higher]⟩

/-- Below a free name all ancestors are missing, and above it none is. -/
theorem missing_iff (stands : tree.faceAt? standing = some .directory)
    (plain : ((above.below names).below [name]).IsPlain)
    (accepted : refusal? (above.below names).text = none)
    (leads : LeadsTo tree standing above reached) {first : String}
    (begins : names.head? = some first) (fits : Fits first)
    (free : tree.get? (reached ++ [first]) = none) (ancestor : Place) :
    Missing tree standing ((above.below names).below [name]) ancestor ↔
      ∃ upper, upper ≠ [] ∧ upper <+: names ∧ ancestor = above.below upper := by
  constructor
  · rintro ⟨upper, proper, absent⟩
    rcases upper.eq_or_upper with same | ⟨named, more, shape⟩
    · exact absurd same proper
    · rcases below_eq_below_cases shape with ⟨between, higher⟩ | ⟨rest, lower, front⟩
      · rw [higher] at leads plain accepted
        rcases exists_leadsTo_above stands leads with ⟨found, leading⟩
        rw [existsAt_of_leadsTo leading plain.of_below.of_below.of_below named
          (refusal?_of_below (refusal?_of_below accepted))] at absent
        cases absent
      · refine ⟨rest, ?_, front, lower⟩
        intro none
        rw [none, Place.below_nil] at lower
        rw [lower, existsAt_of_leadsTo leads plain.of_below.of_below (lower ▸ named)
          (refusal?_of_below accepted)] at absent
        cases absent
  · rintro ⟨upper, filled, ⟨rest, split⟩, rfl⟩
    have shape : (above.below names).below [name] = (above.below upper).below (rest ++ [name]) := by
      rw [Place.below_below, Place.below_below, ← List.append_assoc, split]
    have named : (above.below upper).names ≠ [] := by
      simp [Place.below, filled]
    rcases List.exists_cons_of_ne_nil filled with ⟨next, others, written⟩
    have same : next = first := by
      rw [← split, written] at begins
      exact Option.some.inj begins
    refine ⟨⟨named, _, shape⟩, ?_, ?_⟩
    · rw [shape]
      intro impossible
      have sizes := congrArg (fun place => place.names.length) impossible
      simp [Place.below] at sizes
    · rw [shape] at plain
      rw [← split, ← Place.below_below] at accepted
      rw [existsAt, find?, locate_text_of_plain plain.of_below named, refusal?_of_below accepted,
        written, same]
      simp only [seek_below_free stands leads fits free]
      cases others with
      | nil => rfl
      | cons => rfl

/-! ## What is gained -/

theorem gains_refl (standing : List String) (tree : Node) :
    Gains standing (fun _ _ => False) tree tree where
  shows := fun _ _ impossible => impossible.elim
  kept := fun _ => Or.inl rfl

theorem Gains.congr {other : Place → Face → Prop} (gains : Gains standing gained before after)
    (same : ∀ place face, other place face ↔ gained place face) :
    Gains standing other before after where
  shows := fun place face member => gains.shows place face ((same place face).mp member)
  kept := by
    intro names
    rcases gains.kept names with still | ⟨place, face, member, shown⟩
    · exact Or.inl still
    · exact Or.inr ⟨place, face, (same place face).mpr member, shown⟩

/-- A chain of directories is gained by the places that lead along it. -/
theorem gains_of_chain (stands : before.faceAt? standing = some .directory)
    (plain : (above.below names).IsPlain) (accepted : refusal? (above.below names).text = none)
    (leads : LeadsTo before standing above reached) (fits : ∀ name ∈ names, Fits name)
    (chain : Chain reached names before after) :
    Gains standing (fun place face =>
      (∃ upper, upper ≠ [] ∧ upper <+: names ∧ place = above.below upper) ∧ face = .directory)
      before after := by
  have shown : ∀ upper, upper ≠ [] → upper <+: names →
      after.Shows standing (above.below upper) (reached ++ upper) .directory := by
    rintro upper filled ⟨rest, rfl⟩
    have front : upper <+: upper ++ rest := List.prefix_append _ _
    rw [← Place.below_below] at plain accepted
    have leadsAfter := (leads.of_keeps chain.keeps).below (chain.keeps standing .directory stands)
      (fun higher some front => chain.made higher some (front.trans ⟨rest, rfl⟩))
      (fun name member => fits name (List.mem_append_left rest member))
    exact leadsAfter.shows plain.of_below (by simp [Place.below, filled])
      (refusal?_of_below accepted)
  constructor
  · rintro place face ⟨⟨upper, filled, front, rfl⟩, rfl⟩
    exact ⟨_, shown upper filled front, chain.fresh upper filled front⟩
  · intro other
    by_cases within : ∃ upper, upper ≠ [] ∧ upper <+: names ∧ other = reached ++ upper
    · rcases within with ⟨upper, filled, front, rfl⟩
      exact Or.inr ⟨_, _, ⟨⟨upper, filled, front, rfl⟩, rfl⟩, shown upper filled front⟩
    · exact Or.inl (chain.kept other (fun upper filled front same =>
        within ⟨upper, filled, front, same⟩))

theorem Gains.keeps (gains : Gains standing gained before after) : Keeps before after := by
  intro names face stood
  rcases gains.kept names with still | ⟨place, found, member, node, located, _⟩
  · rw [still, stood]
  · rcases gains.shows place found member with ⟨others, ⟨other, again, _⟩, absent⟩
    have same := (Spot.mk.inj (Except.ok.inj (again.symm.trans located))).1
    rw [same, stood] at absent
    cases absent

/-- A file that is set where a place leads to a free name is gained besides. -/
theorem Gains.set_file (gains : Gains standing gained before after)
    (stands : after.faceAt? standing = some .directory)
    (readable : ∀ found face, gained found face → found.IsPlain ∧ found.names ≠ [])
    (plain : place.IsPlain) (named : place.names ≠ [])
    (located : after.locate standing true place.text = .ok ⟨names, none⟩) (content : ByteArray) :
    Gains standing
      (fun found face => gained found face ∨ found = place ∧ face = .file content false) before
      (after.set (file content false) names) := by
  have free : after.faceAt? names = none := by
    rw [faceAt?, ← locate_node located]
    rfl
  rw [locate_text_of_plain plain named] at located
  cases refused : refusal? place.text with
  | some cause => rw [refused] at located; cases located
  | none =>
      rw [refused] at located
      rcases exists_holder_of_follow_none (faceAt?_base stands place) located with
        ⟨holder, name, members, rfl, got, absent⟩
      have faces := faceAt?_set (leaf_file content false) got (fun child found => by
        rw [absent] at found
        cases found)
      have kept : Keeps after (after.set (file content false) (holder ++ [name])) := by
        intro other face stood
        rw [faces, if_neg, stood]
        intro same
        rw [same, free] at stood
        cases stood
      have written : (after.set (file content false) (holder ++ [name])).get? (holder ++ [name]) =
          some (file content false) := by
        apply get?_of_faceAt?_file
        rw [faces, if_pos rfl]
        rfl
      have shown : (after.set (file content false) (holder ++ [name])).Shows standing place
          (holder ++ [name]) (.file content false) := by
        refine ⟨file content false, ?_, rfl⟩
        rw [locate_text_of_plain plain named, refused]
        have again := follow_of_keeps kept located (fun _ target same => by
          rw [written] at same
          cases same)
        rw [written] at again
        exact again
      have unknown : before.faceAt? (holder ++ [name]) = none := by
        cases stood : before.faceAt? (holder ++ [name]) with
        | none => rfl
        | some face => rw [gains.keeps _ _ stood] at free; cases free
      constructor
      · rintro found face (member | ⟨rfl, rfl⟩)
        · rcases readable found face member with ⟨readPlain, readNamed⟩
          rcases gains.shows found face member with ⟨others, shows, fresh⟩
          exact ⟨others, shows.of_keeps kept readPlain readNamed, fresh⟩
        · exact ⟨_, shown, unknown⟩
      · intro other
        by_cases here : other = holder ++ [name]
        · exact Or.inr ⟨place, _, Or.inr ⟨rfl, rfl⟩, here ▸ shown⟩
        · rcases gains.kept other with still | ⟨found, face, member, shows⟩
          · exact Or.inl (by rw [faces, if_neg here, still])
          · rcases readable found face member with ⟨readPlain, readNamed⟩
            exact Or.inr ⟨found, face, Or.inl member, shows.of_keeps kept readPlain readNamed⟩

end Node

end Workbench
