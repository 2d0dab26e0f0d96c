import Workbench.Proofs.Workspace.Containment
namespace Workbench

/-!
# Resolving is walking

A path is resolved by writing it after the root, cutting the whole text into components and
folding them.  The walk knows neither the joined text nor the fold.  It starts at the root, or at
the top if the path is absolute, and takes the segments of the path alone, one after the other.
Both end at the same place, and whether that place is accepted depends on where the walk ends and
not on the way: a path may leave the workspace and come back.

The joined text is where the two could differ.  A slash may or may not be set between its halves,
and the segment at the seam may be empty, so the lemma about the seam compares the steps of the
two halves and not their segments.
-/

namespace Path

theorem step?_dots : step? ['.', '.'] = some .up := by
  decide

/-- A segment that is neither idle nor two dots is a name. -/
theorem step?_of_named {segment : List Char} (filled : segment ≠ []) (notDot : segment ≠ ['.'])
    (notDots : segment ≠ ['.', '.']) : step? segment = some (.name (String.ofList segment)) := by
  have busy : isIdle segment = false := by
    simp [isIdle, filled, notDot]
  rw [step?, busy, if_neg Bool.false_ne_true, if_neg notDots]

end Path

namespace Place

/-! ## Walks -/

/-- A walk along segments on the face of a path.  Empty segments and dots stay, two dots go to
the place above unless there is none, and every other segment is the name of a place below. -/
inductive Walk : Place → List (List Char) → Place → Prop where
  | arrived (place : Place) : Walk place [] place
  | empty {place target : Place} {rest : List (List Char)} (onward : Walk place rest target) :
      Walk place ([] :: rest) target
  | dot {place target : Place} {rest : List (List Char)} (onward : Walk place rest target) :
      Walk place (['.'] :: rest) target
  | above {place parent target : Place} {rest : List (List Char)}
      (known : place.parent? = some parent) (onward : Walk parent rest target) :
      Walk place (['.', '.'] :: rest) target
  | topmost {place target : Place} {rest : List (List Char)} (unknown : place.parent? = none)
      (onward : Walk place rest target) : Walk place (['.', '.'] :: rest) target
  | enter {place target : Place} {segment : List Char} {rest : List (List Char)}
      (filled : segment ≠ []) (notDot : segment ≠ ['.']) (notDots : segment ≠ ['.', '.'])
      (onward : Walk (place.child (String.ofList segment)) rest target) :
      Walk place (segment :: rest) target

theorem follow_up_of_parent {place parent : Place} (known : place.parent? = some parent) :
    place.follow .up = parent := by
  unfold parent? at known
  split at known
  · cases known
  · exact Option.some.inj known

theorem follow_up_of_topmost {place : Place} (unknown : place.parent? = none) :
    place.follow .up = place := by
  unfold parent? at unknown
  split at unknown
  · rename_i empty
    have none : place.names = [] := List.isEmpty_iff.mp empty
    cases place
    cases none
    rfl
  · cases unknown

/-- A walk ends where the fold of its steps does. -/
theorem walk_iff {place target : Place} {segments : List (List Char)} :
    Walk place segments target ↔ target = (segments.filterMap Path.step?).foldl follow place := by
  constructor
  · intro walk
    induction walk with
    | arrived place => rfl
    | empty onward inductionHypothesis => exact inductionHypothesis
    | dot onward inductionHypothesis => exact inductionHypothesis
    | above known onward inductionHypothesis =>
        rw [List.filterMap_cons_some Path.step?_dots, List.foldl_cons, follow_up_of_parent known]
        exact inductionHypothesis
    | topmost unknown onward inductionHypothesis =>
        rw [List.filterMap_cons_some Path.step?_dots, List.foldl_cons,
          follow_up_of_topmost unknown]
        exact inductionHypothesis
    | enter filled notDot notDots onward inductionHypothesis =>
        rw [List.filterMap_cons_some (Path.step?_of_named filled notDot notDots), List.foldl_cons]
        exact inductionHypothesis
  · intro same
    subst same
    induction segments generalizing place with
    | nil => exact .arrived place
    | cons segment rest inductionHypothesis =>
        by_cases empty : segment = []
        · subst empty
          exact .empty inductionHypothesis
        · by_cases dot : segment = ['.']
          · subst dot
            exact .dot inductionHypothesis
          · by_cases dots : segment = ['.', '.']
            · subst dots
              rw [List.filterMap_cons_some Path.step?_dots, List.foldl_cons]
              cases known : place.parent? with
              | none =>
                  rw [follow_up_of_topmost known]
                  exact .topmost known inductionHypothesis
              | some parent =>
                  rw [follow_up_of_parent known]
                  exact .above known inductionHypothesis
            · rw [List.filterMap_cons_some (Path.step?_of_named empty dot dots), List.foldl_cons]
              exact .enter empty dot dots inductionHypothesis

end Place

namespace Path

/-! ## The seam of a joined path -/

theorem segments_append (front back : List Char) :
    segments (front ++ '/' :: back) = segments front ++ segments back := by
  induction front with
  | nil => simp [segments]
  | cons first rest inductionHypothesis =>
      rw [List.cons_append, segments, segments, inductionHypothesis]
      by_cases slash : first = '/'
      · rw [if_pos slash, if_pos slash, List.cons_append]
      · rw [if_neg slash, if_neg slash]
        cases cut : segments rest with
        | nil => exact absurd cut (segments_ne_nil rest)
        | cons segment others => rfl

/-- A relative path that is written after another one adds its own steps, whether or not a slash
has to be set between them. -/
theorem steps_join (base addition : String) (relative : isAbsolute addition.toList = false) :
    (segments (join base addition).toList).filterMap step? =
      (segments base.toList).filterMap step? ++ (segments addition.toList).filterMap step? := by
  have later : ¬ isAbsolute addition.toList = true := by
    rw [relative]
    exact Bool.false_ne_true
  rw [join, if_neg later]
  split
  · rename_i close
    rw [Bool.or_eq_true, beq_iff_eq] at close
    rcases close with empty | slash
    · have none : base = "" := by simpa using empty
      rw [none, String.empty_append]
      rfl
    · rcases List.getLast?_eq_some_iff.mp slash with ⟨front, shape⟩
      -- the text of the base ends in an empty segment, which is no step
      rw [String.toList_append, shape, List.append_assoc, List.singleton_append, segments_append,
        segments_append, List.filterMap_append, List.filterMap_append]
      have idle : (segments []).filterMap step? = [] := rfl
      rw [idle, List.append_nil]
  · have slash : "/".toList = ['/'] := rfl
    rw [String.toList_append, String.toList_append, slash, List.append_assoc,
      List.singleton_append, segments_append, List.filterMap_append]

end Path

namespace Place

/-- The dot at the start of a relative path is a component and moves nothing. -/
theorem ofPath_eq (path : String) :
    ofPath path =
      ((Path.segments path.toList).filterMap Path.step?).foldl follow
        (if Path.isAbsolute path.toList then top else nowhere) := by
  rw [ofPath, Path.components, List.foldl_append]
  split
  · rfl
  · split <;> rfl

theorem ofPath_text {place : Place} (anchored : place.anchored = true)
    (plain : ∀ name ∈ place.names, Path.Plain name) : ofPath place.text = place := by
  rw [ofPath_of_isAbsolute _ (isAbsolute_text anchored), lexicalNames_text anchored plain,
    ← anchored]

end Place

namespace Workspace

/-- Where the walk of an input begins. -/
def start (root : Place) (input : String) : Place :=
  if Path.isAbsolute (candidate input).toList then Place.top else root

/-- The path that is folded for an input leads to where the walk from the root ends. -/
theorem ofPath_join_root (standing : List String) (directory input : String) :
    Place.ofPath (Path.join (root standing directory).text (candidate input)) =
      ((Path.segments (candidate input).toList).filterMap Path.step?).foldl Place.follow
        (start (root standing directory) input) := by
  unfold start
  cases absolute : Path.isAbsolute (candidate input).toList with
  | true => rw [Path.join, if_pos absolute, Place.ofPath_eq, if_pos absolute, if_pos rfl]
  | false =>
      rw [if_neg Bool.false_ne_true]
      by_cases named : directory = ""
      · have joined : Path.join Place.nowhere.text (candidate input) = candidate input := by
          have later : ¬ Path.isAbsolute (candidate input).toList = true := by
            rw [absolute]
            exact Bool.false_ne_true
          rw [Path.join, if_neg later]
          exact String.empty_append
        rw [named, root_of_empty, joined, Place.ofPath_eq, if_neg (by rw [absolute]; decide)]
      · have anchored : (root standing directory).anchored = true := by
          rw [root_of_named standing directory named]
        have top := Place.isAbsolute_text anchored
        have read := Place.ofPath_text anchored (plain_root standing directory)
        rw [Place.ofPath_eq, if_pos top] at read
        rw [Place.ofPath_eq, if_pos (isAbsolute_join _ _ top), Path.steps_join _ _ absolute,
          List.foldl_append, read]

/-! ## Acceptance -/

theorem resolve_eq_of_target {root target : Place} {input : String}
    (meant : Place.ofPath (Path.join root.text (candidate input)) = target) :
    resolve root input =
      if root.components <+: target.components then .ok target
      else .error (.outsideWorkspace input root.text) := by
  rw [resolve, meant]
  by_cases begins : root.components <+: target.components
  · have held : root.holds target = true := List.isPrefixOf_iff_prefix.mpr begins
    rw [if_pos begins, if_pos held]
  · have refused : ¬ root.holds target = true := mt List.isPrefixOf_iff_prefix.mp begins
    rw [if_neg begins, if_neg refused]

/-- A place beside the root, or below one beside it, is outside, whatever letters the two names
have in common. -/
theorem not_prefix_of_sibling {root target : Place} {above below : List String}
    {name sibling : String} (own : root.names = above ++ [name]) (different : sibling ≠ name)
    (beside : target.names = above ++ sibling :: below) :
    ¬ root.components <+: target.components := by
  intro begins
  have names : root.names <+: target.names := by
    cases top : root.anchored with
    | true => exact ((Place.holds_iff top).mp (List.isPrefixOf_iff_prefix.mpr begins)).2
    | false =>
        cases other : target.anchored with
        | true =>
            -- the first component of the root is a name, that of the target is the top
            rw [Place.components, Place.components, top, other, own] at begins
            cases above <;> simp at begins
        | false =>
            simp only [Place.components, top, other, Bool.false_eq_true, if_false,
              List.nil_append] at begins
            exact Place.map_name_prefix_iff.mp begins
  rw [own, beside, List.prefix_append_right_inj, List.cons_prefix_cons] at names
  exact different names.1.symm

/-- The text of an accepted place is accepted as that place. -/
theorem resolve_text_of_accepted {root target : Place} (anchored : root.anchored = true)
    (plain : ∀ name ∈ target.names, Path.Plain name)
    (begins : root.components <+: target.components) : resolve root target.text = .ok target := by
  have held : root.holds target = true := List.isPrefixOf_iff_prefix.mpr begins
  have top := ((Place.holds_iff anchored).mp held).1
  have same : (⟨true, target.names⟩ : Place) = target := by
    rw [← top]
  rw [resolve_of_isAbsolute root _ (Place.isAbsolute_text top), Place.lexicalNames_text top plain,
    same, if_pos held]

/-! ## Leaving the root and coming back -/

/-- A path that goes up from the root and comes back to it by its own names, and on from there.
It may go up further than the root is deep. -/
def detour (root : Place) (count : Nat) (below : List String) : String :=
  String.intercalate "/"
    (List.replicate count ".." ++ (root.names.drop (root.names.length - count) ++ below))

theorem steps_detour {root : Place} {count : Nat} {below : List String} (up : 0 < count)
    (plainRoot : ∀ name ∈ root.names, Path.Plain name)
    (plainBelow : ∀ name ∈ below, Path.Plain name) :
    (Path.segments (detour root count below).toList).filterMap Path.step? =
      List.replicate count .up ++
        (root.names.drop (root.names.length - count) ++ below).map Path.Component.name := by
  have plain : ∀ name ∈ root.names.drop (root.names.length - count) ++ below,
      Path.Plain name :=
    List.forall_mem_append.mpr ⟨fun name member => plainRoot name (List.mem_of_mem_drop member),
      plainBelow⟩
  have filled : List.replicate count ".." ++
      (root.names.drop (root.names.length - count) ++ below) ≠ [] :=
    List.append_ne_nil_of_left_ne_nil (by simpa using Nat.ne_of_gt up) _
  rw [detour, Path.segments_intercalate _ filled, List.map_append, List.filterMap_append,
    Path.filterMap_step? _ plain, List.map_replicate]
  · have dots : Path.step? "..".toList = some .up := Path.step?_dots
    rw [List.filterMap_replicate_of_some dots]
  · intro name member
    rcases List.mem_append.mp member with dots | later
    · rw [List.eq_of_mem_replicate dots]
      decide
    · exact (plain name later).slashless

/-- A path that begins by going up is neither blank nor absolute. -/
theorem start_detour (root : Place) {count : Nat} (up : 0 < count) (below : List String) :
    candidate (detour root count below) = detour root count below ∧
      start root (detour root count below) = root := by
  have begins : ∃ rest, (detour root count below).toList = '.' :: rest := by
    cases count with
    | zero => cases up
    | succ count =>
        rw [detour, List.replicate_succ, List.cons_append]
        cases List.replicate count ".." ++
            (root.names.drop (root.names.length - (count + 1)) ++ below) with
        | nil => exact ⟨['.'], by rw [String.intercalate_singleton]; rfl⟩
        | cons next rest =>
            rw [String.intercalate_cons_cons, String.toList_append, String.toList_append]
            exact ⟨_, rfl⟩
  rcases begins with ⟨rest, shape⟩
  have given : candidate (detour root count below) = detour root count below := by
    have solid : Text.isBlankOnly ('.' :: rest) = false := rfl
    rw [candidate, shape, solid, if_neg Bool.false_ne_true]
  refine ⟨given, ?_⟩
  have relative : Path.isAbsolute ('.' :: rest) = false := rfl
  rw [start, given, shape, relative, if_neg Bool.false_ne_true]

theorem remain_up (count : Nat) (names : List String) :
    Path.remain (List.replicate count .up ++ names.map .name) = (names, count) := by
  induction count with
  | zero => exact Path.remain_map_name names
  | succ count inductionHypothesis =>
      rw [List.replicate_succ, List.cons_append, Path.remain, inductionHypothesis]

/-- A path that leaves the root and comes back is accepted for where it ends. -/
theorem resolve_detour (standing : List String) (directory : String) {count : Nat}
    {below : List String} (up : 0 < count) (plainBelow : ∀ name ∈ below, Path.Plain name) :
    resolve (root standing directory) (detour (root standing directory) count below) =
      .ok ⟨(root standing directory).anchored, (root standing directory).names ++ below⟩ := by
  have meant := ofPath_join_root standing directory (detour (root standing directory) count below)
  rcases start_detour (root standing directory) up below with ⟨given, begins⟩
  rw [begins] at meant
  conv at meant => rhs; rw [given, steps_detour up (plain_root standing directory) plainBelow]
  have relative : ∀ names : List String,
      Path.Component.root ∉ List.replicate count .up ++ names.map .name := by
    intro names
    rw [List.mem_append, not_or]
    refine ⟨fun member => ?_, Place.root_not_mem_map_name names⟩
    cases List.eq_of_mem_replicate member
  rw [Place.foldl_follow _ (relative _), remain_up, ← List.append_assoc,
    List.take_append_drop] at meant
  rw [resolve_eq_of_target meant]
  apply if_pos
  exact ⟨below.map .name, by simp [Place.components]⟩

/-! ## The walk decides -/

/-- For every text that names a workspace and every input there is one place where the walk of
the input ends, and resolving answers with this place exactly if the components of the root begin
its components, and else with the violation that names the input as it was given and the root.
The names of the place are plain, a place beside the root is refused, the text of an accepted
place is accepted as that place if the workspace is named at all, and a path that leaves the root
and comes back is accepted for where it ends. -/
theorem resolve_follows_walk (standing : List String) (directory input : String) :
    ∃ target,
      (∀ place, Place.Walk (start (root standing directory) input)
        (Path.segments (candidate input).toList) place ↔ place = target) ∧
      (resolve (root standing directory) input =
        if (root standing directory).components <+: target.components then .ok target
        else .error (.outsideWorkspace input (root standing directory).text)) ∧
      (∀ name ∈ target.names, Path.Plain name) ∧
      (∀ above name sibling below, (root standing directory).names = above ++ [name] →
        sibling ≠ name → target.names = above ++ sibling :: below →
        resolve (root standing directory) input =
          .error (.outsideWorkspace input (root standing directory).text)) ∧
      (directory ≠ "" → (root standing directory).components <+: target.components →
        resolve (root standing directory) target.text = .ok target) ∧
      (∀ count below, 0 < count → (∀ name ∈ below, Path.Plain name) →
        resolve (root standing directory) (detour (root standing directory) count below) =
          .ok ⟨(root standing directory).anchored,
            (root standing directory).names ++ below⟩) := by
  have plain := Place.plain_ofPath (Path.join (root standing directory).text (candidate input))
  have answer := @resolve_eq_of_target (root standing directory) _ input rfl
  rw [ofPath_join_root standing directory input] at plain answer
  refine ⟨_, fun place => Place.walk_iff, answer, plain, ?_, ?_,
    fun count below up => resolve_detour standing directory up⟩
  · intro above name sibling below own different beside
    rw [answer, if_neg (not_prefix_of_sibling own different beside)]
  · intro named begins
    have anchored : (root standing directory).anchored = true := by
      rw [root_of_named standing directory named]
    exact resolve_text_of_accepted anchored plain begins

/-- Out of a root and back to it, into a directory beside it whose name begins like the root's,
and up beyond the top. -/
theorem resolve_follows_walk_out_and_back :
    (∃ target : Place, target.names = ["base"] ++ "ws-evil" :: ["a"] ∧ "ws-evil" ≠ "ws" ∧
      Place.Walk (root ["base"] "ws") (Path.segments "../ws-evil//a".toList) target ∧
      resolve (root ["base"] "ws") "../ws-evil//a" =
        .error (.outsideWorkspace "../ws-evil//a" (root ["base"] "ws").text)) ∧
      (∃ target : Place, "ws" ≠ "" ∧
        (root ["base"] "ws").components <+: target.components ∧
        resolve (root ["base"] "ws") "/base/./ws/a/b/.." = .ok target ∧
        resolve (root ["base"] "ws") target.text = .ok target) ∧
      0 < 5 ∧ (∀ name ∈ ["a"], Path.Plain name) ∧
      resolve (root ["base"] "ws") (detour (root ["base"] "ws") 5 ["a"]) =
        .ok ⟨true, ["base", "ws", "a"]⟩ := by
  have own : root ["base"] "ws" = ⟨true, ["base", "ws"]⟩ := by decide +kernel
  refine ⟨?_, ?_, by decide, ?_, ?_⟩
  · rcases resolve_follows_walk ["base"] "ws" "../ws-evil//a" with
      ⟨target, ends, _, _, refused, _, _⟩
    have walked : Place.Walk (start (root ["base"] "ws") "../ws-evil//a")
        (Path.segments (candidate "../ws-evil//a").toList) ⟨true, ["base", "ws-evil", "a"]⟩ := by
      apply Place.walk_iff.mpr
      decide +kernel
    have same := (ends _).mp walked
    refine ⟨target, by rw [← same]; rfl, by decide, ?_, ?_⟩
    · rw [← same]
      exact walked
    · exact refused ["base"] "ws" "ws-evil" ["a"] (by rw [own]; rfl) (by decide)
        (by rw [← same]; rfl)
  · rcases resolve_follows_walk ["base"] "ws" "/base/./ws/a/b/.." with
      ⟨target, ends, answer, _, _, again, _⟩
    have walked : Place.Walk (start (root ["base"] "ws") "/base/./ws/a/b/..")
        (Path.segments (candidate "/base/./ws/a/b/..").toList) ⟨true, ["base", "ws", "a"]⟩ := by
      apply Place.walk_iff.mpr
      decide +kernel
    have begins : (root ["base"] "ws").components <+: target.components := by
      rw [← (ends _).mp walked, own]
      decide
    exact ⟨target, by decide, begins, by rw [answer, if_pos begins], again (by decide) begins⟩
  · intro name member
    rw [List.mem_singleton.mp member]
    exact ⟨by decide, by decide, by decide, by decide⟩
  · rcases resolve_follows_walk ["base"] "ws" "." with ⟨_, _, _, _, _, _, back⟩
    have answer := back 5 ["a"] (by decide) (by
      intro name member
      rw [List.mem_singleton.mp member]
      exact ⟨by decide, by decide, by decide, by decide⟩)
    rw [answer, own]
    rfl

end Workspace

end Workbench
