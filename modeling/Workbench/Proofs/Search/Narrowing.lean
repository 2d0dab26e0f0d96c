import Workbench.Proofs.Search.Order
namespace Workbench

/-!
# Searching further down

A search of a directory further down reports what the search from above reports there: the same
files by the same texts, with the same numbers of hits, in the same order.  A walk does not know
where it has been started, and places are shown from the root of the workspace and not from the
directory that is searched.  So the two walks differ in nothing but their extent.

The way down must not be hidden, or the search from above passes it over, and no link may lie on it,
or the search from above does not follow it.  The path of the lower directory may be too long to be
taken.  Then the search from above cannot open it either, and both find nothing there.
-/

namespace Search

variable {settings : SearchSettings} {environment : Environment} {world : World} {place : Place}
  {term : String} {members inner : List (String × Node)} {arguments : Arguments}

/-! ## What is found further down -/

/-- Of fewer files fewer are counted, each as before. -/
theorem tally_filter (kept : Place → Bool) (files : List Node.Found) :
    tally term (files.filter (fun found => kept found.place)) =
      (tally term files).filter (fun entry => kept entry.1) := by
  rw [tally, tally, List.filter_map, List.filter_map, List.filter_map, List.filter_comm]
  rfl

/-- Of fewer files fewer match, each as before. -/
theorem matching_filter (kept : Place → Bool) (pattern : List Glyph) (files : List Node.Found) :
    matching pattern (files.filter (fun found => kept found.place)) =
      (matching pattern files).filter kept := by
  rw [matching, matching, List.filter_map, List.filter_map, List.filter_map, List.filter_comm]
  rfl

/-! ## Reports of what is found -/

theorem byName_of_find? {name : String} (given : arguments.get? "file_name" = some name)
    (resolved : environment.resolve (scope arguments) = .ok place)
    (there : world.tree.find? environment.host.standing place.text = some (.directory members)) :
    byName settings environment arguments world =
      match Pattern.read name with
      | .error complaint =>
        (Viewer.complain ("invalid file pattern: " ++ complaint.message), world)
      | .ok pattern =>
        (.ok (matchReport settings environment name (scope arguments)
          (matching pattern ((Node.directory members).filesBelow place))), world) := by
  unfold byName Arguments.require
  cases read : Pattern.read name <;>
    simp only [given, resolved, directory?_of_find? there, read]

/-- Where no directory is found, both searches say so. -/
theorem not_found_of_find? (resolved : environment.resolve (scope arguments) = .ok place)
    (nothing : world.tree.find? environment.host.standing place.text = none) :
    (∀ term, arguments.get? "search_term" = some term →
      inDirectory settings environment arguments world =
        (.ok (missing (scope arguments)), world)) ∧
      ∀ name, arguments.get? "file_name" = some name →
        byName settings environment arguments world =
          (.ok (missing (scope arguments)), world) := by
  have absent : directory? environment world place = none := by
    rw [directory?, nothing]
  constructor
  · intro term given
    unfold inDirectory inDirectoryWith Arguments.require
    simp only [given, resolved, absent]
  · intro name given
    unfold byName Arguments.require
    simp only [given, resolved, absent]

/-! ## The narrower search -/

/-- The second arguments ask for a search further down than the first ones: the first directory has
these members, and from there the names lead to the second one through directories, none of which
is hidden.  The names are texts, because a text asks for the directory that they lead to. -/
structure Narrows (environment : Environment) (world : World) (wide narrow : Arguments)
    (place : Place) (members : List (String × Node)) (down : List String)
    (inner : List (String × Node)) : Prop where
  resolved : environment.resolve (scope wide) = .ok place
  there : world.tree.find? environment.host.standing place.text = some (.directory members)
  lower : environment.resolve (scope narrow) = .ok (place.below down)
  text : ∀ name ∈ down, Name.isText name = true
  got : (Node.directory members).get? down = some (.directory inner)
  visible : ∀ name ∈ down, Node.isHidden name = false

variable {wide narrow : Arguments} {down : List String}

theorem Narrows.isPlain
    (narrows : Narrows environment world wide narrow place members down inner) : place.IsPlain :=
  (Workspace.held_of_resolve narrows.resolved).1

theorem Narrows.sound (tree : world.tree.Sound)
    (narrows : Narrows environment world wide narrow place members down inner) :
    (Node.directory members).Sound :=
  tree.find? narrows.isPlain narrows.there

/-- The lower directory is found by its own path, if this is not too long. -/
theorem Narrows.found (tree : world.tree.Sound)
    (stands : world.tree.faceAt? environment.host.standing = some .directory)
    (narrows : Narrows environment world wide narrow place members down inner)
    (short : (place.below down).encoded.length < Node.pathLimit) :
    world.tree.find? environment.host.standing (place.below down).text =
      some (.directory inner) :=
  Node.find?_below tree stands narrows.isPlain narrows.there narrows.got nofun narrows.text short

/-- A walk from the lower directory finds a part of what the walk from above finds. -/
theorem Narrows.filesBelow_eq (tree : world.tree.Sound)
    (narrows : Narrows environment world wide narrow place members down inner) :
    (Node.directory inner).filesBelow (place.below down) =
      ((Node.directory members).filesBelow place).filter
        (fun found => (place.below down).holds found.place) :=
  Node.filesBelow_below (narrows.sound tree) place narrows.got narrows.visible

/-- The lower search counts a part of what the upper one counts. -/
theorem Narrows.tally_eq (tree : world.tree.Sound)
    (narrows : Narrows environment world wide narrow place members down inner) (term : String) :
    tally term ((Node.directory inner).filesBelow (place.below down)) =
      (tally term ((Node.directory members).filesBelow place)).filter
        (fun entry => (place.below down).holds entry.1) := by
  rw [narrows.filesBelow_eq tree]
  exact tally_filter (place.below down).holds _

theorem Narrows.matching_eq (tree : world.tree.Sound)
    (narrows : Narrows environment world wide narrow place members down inner)
    (pattern : List Glyph) :
    matching pattern ((Node.directory inner).filesBelow (place.below down)) =
      (matching pattern ((Node.directory members).filesBelow place)).filter
        (place.below down).holds := by
  rw [narrows.filesBelow_eq tree]
  exact matching_filter (place.below down).holds pattern _

/-- A walk finds nothing in a directory whose path is too long. -/
theorem filesBelow_of_long (long : Node.pathLimit ≤ place.encoded.length) :
    (Node.directory members).filesBelow place = [] := by
  rw [Node.filesBelow, if_pos long]

/-- If the path of the lower directory is too long, neither search reports anything there. -/
theorem Narrows.nothing_of_long (tree : world.tree.Sound)
    (narrows : Narrows environment world wide narrow place members down inner)
    (long : Node.pathLimit ≤ (place.below down).encoded.length) :
    world.tree.find? environment.host.standing (place.below down).text = none ∧
      (∀ term, (tally term ((Node.directory members).filesBelow place)).filter
        (fun entry => (place.below down).holds entry.1) = []) ∧
      ∀ pattern, (matching pattern ((Node.directory members).filesBelow place)).filter
        (place.below down).holds = [] := by
  have text : (place.below down).IsText := Place.isText_below_iff.mpr
    ⟨Node.isText_of_find? narrows.isPlain narrows.there, narrows.text⟩
  refine ⟨?_, fun term => ?_, fun pattern => ?_⟩
  · rw [Place.length_encoded text] at long
    exact Node.find?_of_long long
  · rw [← narrows.tally_eq tree, filesBelow_of_long long]
    rfl
  · rw [← narrows.matching_eq tree, filesBelow_of_long long]
    rfl

/-- The search of a directory further down counts exactly those files that the search from above
counts at or below that place, with the same numbers of hits and in the same order; and the files
whose names match a pattern are found in the same way.  If the pattern cannot be read, both searches
complain alike.  If the path of the lower directory is too long to be taken, the search from above
counts and finds nothing at or below that place, and the search further down reports that there is
no such directory. -/
theorem narrower_search_restricts (settings : SearchSettings) (environment : Environment)
    (world : World) (sound : world.tree.Sound)
    (stands : world.tree.faceAt? environment.host.standing = some .directory)
    {wide narrow : Arguments} {place : Place} {members inner : List (String × Node)}
    {down : List String}
    (narrows : Narrows environment world wide narrow place members down inner) :
    (∀ term, wide.get? "search_term" = some term → narrow.get? "search_term" = some term →
      inDirectory settings environment wide world =
          (.ok (tallyReport settings environment term (scope wide)
            (tally term ((Node.directory members).filesBelow place))), world) ∧
        ((place.below down).encoded.length < Node.pathLimit →
          inDirectory settings environment narrow world =
            (.ok (tallyReport settings environment term (scope narrow)
              ((tally term ((Node.directory members).filesBelow place)).filter
                (fun entry => (place.below down).holds entry.1))), world)) ∧
        (Node.pathLimit ≤ (place.below down).encoded.length →
          (tally term ((Node.directory members).filesBelow place)).filter
              (fun entry => (place.below down).holds entry.1) = [] ∧
            inDirectory settings environment narrow world =
              (.ok (missing (scope narrow)), world))) ∧
      ∀ name, wide.get? "file_name" = some name → narrow.get? "file_name" = some name →
        (∀ complaint, Pattern.read name = .error complaint →
          byName settings environment wide world =
              (Viewer.complain ("invalid file pattern: " ++ complaint.message), world) ∧
            ((place.below down).encoded.length < Node.pathLimit →
              byName settings environment narrow world =
                (Viewer.complain ("invalid file pattern: " ++ complaint.message), world))) ∧
        (∀ pattern, Pattern.read name = .ok pattern →
          byName settings environment wide world =
              (.ok (matchReport settings environment name (scope wide)
                (matching pattern ((Node.directory members).filesBelow place))), world) ∧
            ((place.below down).encoded.length < Node.pathLimit →
              byName settings environment narrow world =
                (.ok (matchReport settings environment name (scope narrow)
                  ((matching pattern ((Node.directory members).filesBelow place)).filter
                    (place.below down).holds)), world)) ∧
            (Node.pathLimit ≤ (place.below down).encoded.length →
              (matching pattern ((Node.directory members).filesBelow place)).filter
                (place.below down).holds = [])) ∧
        (Node.pathLimit ≤ (place.below down).encoded.length →
          byName settings environment narrow world =
            (.ok (missing (scope narrow)), world)) := by
  have searches (term : String) (given : wide.get? "search_term" = some term) :
      Searches environment wide world term place members :=
    ⟨given, narrows.resolved, narrows.there⟩
  refine ⟨fun term given again => ⟨inDirectory_of_searches (searches term given), fun short => ?_,
    fun long => ?_⟩, fun name given again => ⟨fun complaint unread => ⟨?_, fun short => ?_⟩,
      fun pattern read => ⟨?_, fun short => ?_, fun long => ?_⟩, fun long => ?_⟩⟩
  · rw [← narrows.tally_eq sound]
    exact inDirectory_of_searches ⟨again, narrows.lower, narrows.found sound stands short⟩
  · rcases narrows.nothing_of_long sound long with ⟨absent, uncounted, _⟩
    exact ⟨uncounted term, (not_found_of_find? narrows.lower absent).1 term again⟩
  · rw [byName_of_find? given narrows.resolved narrows.there, unread]
  · rw [byName_of_find? again narrows.lower (narrows.found sound stands short), unread]
  · rw [byName_of_find? given narrows.resolved narrows.there, read]
  · rw [byName_of_find? again narrows.lower (narrows.found sound stands short), read,
      ← narrows.matching_eq sound]
  · exact (narrows.nothing_of_long sound long).2.2 pattern
  · exact (not_found_of_find? narrows.lower (narrows.nothing_of_long sound long).1).2 name again

end Search

namespace Sample

/-- The world in which the root of the workspace has the members that are walked. -/
def walkedWorld : World where
  tree := .directory [("ws", .directory walked)]
  memory := Memory.empty

/-- Arguments that ask for a term and for a pattern, in the root of the workspace. -/
def wideArguments : Arguments :=
  (Dictionary.empty.insert "search_term" "one").insert "file_name" "*"

def narrowArguments : Arguments :=
  wideArguments.insert "dir" "a/."

theorem sound_walkedWorld : walkedWorld.tree.Sound :=
  .directory (List.pairwise_singleton _ _)
    (List.forall_mem_singleton.mpr (memberName_walked _ (by simp)))
    (List.forall_mem_singleton.mpr sound_walked)

theorem narrows_walkedWorld :
    Search.Narrows environment walkedWorld wideArguments narrowArguments ⟨true, ["ws"]⟩ walked
      ["a"] [("x", .file "one\none".toUTF8 false)] where
  resolved := by rfl
  there := by rfl
  lower := by rfl
  text := by decide
  got := by rfl
  visible := by decide

end Sample

namespace Search

/-- Of the two files that are counted in the root, one lies in the directory. -/
theorem narrower_search_restricts_to_one :
    Sample.walkedWorld.tree.Sound ∧
      Sample.walkedWorld.tree.faceAt? Sample.environment.host.standing = some .directory ∧
      Narrows Sample.environment Sample.walkedWorld Sample.wideArguments Sample.narrowArguments
        ⟨true, ["ws"]⟩ Sample.walked ["a"] [("x", .file "one\none".toUTF8 false)] ∧
      inDirectory {} Sample.environment Sample.wideArguments Sample.walkedWorld =
        (.ok ("Found 3 matches for \"one\" in .:\na/x (2 matches)\na.txt (1 matches)\n" ++
          "End of matches for \"one\" in ."), Sample.walkedWorld) ∧
      inDirectory {} Sample.environment Sample.narrowArguments Sample.walkedWorld =
        (.ok ("Found 2 matches for \"one\" in a/.:\na/x (2 matches)\n" ++
          "End of matches for \"one\" in a/."), Sample.walkedWorld) ∧
      byName {} Sample.environment Sample.narrowArguments Sample.walkedWorld =
        (.ok "Found 1 matches for \"*\" in a/.:\na/x", Sample.walkedWorld) := by
  rcases narrower_search_restricts {} Sample.environment Sample.walkedWorld
    Sample.sound_walkedWorld rfl Sample.narrows_walkedWorld with ⟨counts, finds⟩
  rcases counts "one" rfl rfl with ⟨above, below, _⟩
  have short : (Place.below ⟨true, ["ws"]⟩ ["a"]).encoded.length < Node.pathLimit := by
    decide
  have read : Pattern.read "*" = .ok [.anyRun] := by decide +kernel
  have found := ((finds "*" rfl rfl).2.1 _ read).2.1 short
  refine ⟨Sample.sound_walkedWorld, rfl, Sample.narrows_walkedWorld, ?_, ?_, ?_⟩
  · rw [above]
    rfl
  · rw [below short]
    rfl
  · rw [found]
    rfl

end Search

end Workbench
