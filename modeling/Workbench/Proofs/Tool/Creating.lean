import Workbench.Proofs.Tool.Finding
import Workbench.Proofs.Tree.Gaining
namespace Workbench

/-!
# Creating a file

A file is created in two steps: first the missing directories above it are made, then the empty
file is written.  Each of the steps can fail, and nobody takes back what has been made until then.
Where no directory is made this does not matter.  Where the first step makes directories, nothing
can be in the way of the second one, because the directory of the file is new and empty.  Only two
reasons remain: the path of the file cannot be followed although that of its directory can, which
is a matter of a few bytes, and a name that is too long, at which already the first step stops.

These cases can be told before anything is done.  In them creating a file is *cut short*: it fails
and leaves directories behind, and it is told which.  In all others it is all or nothing.
-/

namespace Node

/-- Making a file at the place fails after directories have been made for it.  One of the
directories above is missing in a directory that is there, and the text of the file's directory can
be followed, but not the text of the file itself, or one of the names is too long. -/
def CutShort (tree : Node) (standing : List String) (place : Place) : Prop :=
  ∃ parent, place.parent? = some parent ∧ refusal? parent.text = none ∧
    (∃ above : Place, above.Upper parent ∧ Free tree standing above) ∧
    (refusal? place.text ≠ none ∨ ∃ name ∈ place.names, ¬ Fits name)

/-- Makes an empty file and the missing directories above it. -/
def makeFile (tree : Node) (standing : List String) (place : Place) : Except Cause Unit × Node :=
  match tree.makeAbove standing place with
  | (.error cause, changed) => (.error cause, changed)
  | (.ok _, changed) =>
    match changed.writeText standing place.text "" with
    | .error cause => (.error cause, changed)
    | .ok written => (.ok (), written)

/-- The missing directories above the place and an empty file. -/
def WithAncestors (tree : Node) (standing : List String) (place found : Place) (face : Face) :
    Prop :=
  Missing tree standing place found ∧ face = .directory ∨
    found = place ∧ face = .file ByteArray.empty false

/-- The missing directories above the place, as far as their names are not too long. -/
def FittingAncestors (tree : Node) (standing : List String) (place found : Place) (face : Face) :
    Prop :=
  (Missing tree standing place found ∧ ∀ name ∈ found.names, Fits name) ∧ face = .directory

/-- What comes of making a file where nothing is found. -/
inductive Filing (tree : Node) (standing : List String) (place : Place) :
    Except Cause Unit × Node → Prop where
  | refused (cause : Cause) (uncut : ¬ CutShort tree standing place) :
      Filing tree standing place (.error cause, tree)
  | whole {after : Node} (uncut : ¬ CutShort tree standing place)
      (gains : Gains standing (WithAncestors tree standing place) tree after) :
      Filing tree standing place (.ok (), after)
  | cut {after : Node} (cause : Cause) (short : CutShort tree standing place)
      (gains : Gains standing (FittingAncestors tree standing place) tree after)
      (some : ∃ found, FittingAncestors tree standing place found .directory) :
      Filing tree standing place (.error cause, after)

variable {tree before after : Node} {standing : List String} {place above : Place}
  {reached names : List String} {name : String}

theorem parent?_below (above : Place) (name : String) :
    (above.below [name]).parent? = some above := by
  rw [Place.parent?, Place.below]
  simp

/-! ## The directories above -/

theorem making_makeAbove (stands : tree.faceAt? standing = some .directory)
    (plain : above.IsPlain) (accepted : refusal? above.text = none) (name : String) :
    Making tree standing above (tree.makeAbove standing (above.below [name])) := by
  have shape : (⟨above.anchored, above.names.reverse.reverse⟩ : Place) = above := by
    rw [List.reverse_reverse]
  have made := making_makeDirectoriesUp stands above.anchored above.names.reverse
    (by rw [shape]; exact plain) (by rw [shape]; exact accepted)
  rw [shape] at made
  rw [makeAbove, parent?_below]
  exact made

theorem refusal?_ne_notFound (path : String) : refusal? path ≠ some .notFound := by
  unfold refusal?
  split
  · decide
  · split
    · decide
    · decide

theorem makeAbove_of_refusal (plain : above.IsPlain) {cause : Cause}
    (refused : refusal? above.text = some cause) (tree : Node) (name : String) :
    tree.makeAbove standing (above.below [name]) = (.error cause, tree) := by
  have named : above.names ≠ [] := by
    intro unnamed
    rw [refusal?_of_unnamed unnamed] at refused
    cases refused
  have located : ∀ through, tree.locate standing through above.text = .error cause := by
    intro through
    rw [locate_text_of_plain plain named, refused]
  have other : cause ≠ .notFound := by
    rintro rfl
    exact refusal?_ne_notFound above.text refused
  have made : tree.makeDirectory standing above.text = .error cause := by
    rw [makeDirectory, located]
  have missing : tree.directoryAt standing above.text = false := by
    rw [directoryAt, find?, located]
  rcases List.exists_cons_of_ne_nil (mt List.reverse_eq_nil_iff.mp named) with ⟨last, rest, shape⟩
  have same : (⟨above.anchored, (last :: rest).reverse⟩ : Place) = above := by
    rw [← shape, List.reverse_reverse]
  rw [makeAbove, parent?_below]
  simp only [makeDirectories]
  rw [shape, makeDirectoriesUp_of_refused (by rw [same]; exact made) other, same, missing,
    if_neg Bool.false_ne_true]

/-! ## The file -/

/-- Where nothing is found, a file is written only at a free name. -/
theorem writeText_of_absent (absent : tree.existsAt standing place.text = false) :
    (∃ cause, tree.writeText standing place.text "" = .error cause) ∨
      ∃ names, tree.locate standing true place.text = .ok ⟨names, none⟩ ∧
        tree.writeText standing place.text "" =
          .ok (tree.set (file ByteArray.empty false) names) := by
  have empty : "".toUTF8 = ByteArray.empty := rfl
  rw [existsAt, find?] at absent
  rw [writeText, writeBytes, empty]
  cases located : tree.locate standing true place.text with
  | error cause => exact Or.inl ⟨cause, rfl⟩
  | ok spot =>
      rcases spot with ⟨names, node⟩
      cases node with
      | none => exact Or.inr ⟨names, rfl, rfl⟩
      | some node => rw [located] at absent; cases absent

/-- In a directory that is there, a file is written at a free name, if the text of its place can be
followed and the name fits. -/
theorem writeText_below (stands : tree.faceAt? standing = some .directory)
    (plain : (above.below [name]).IsPlain) (leads : LeadsTo tree standing above reached)
    (free : tree.get? (reached ++ [name]) = none) :
    (∃ cause, tree.writeText standing (above.below [name]).text "" = .error cause) ∧
        (refusal? (above.below [name]).text ≠ none ∨ ¬ Fits name) ∨
      refusal? (above.below [name]).text = none ∧ Fits name ∧
        tree.locate standing true (above.below [name]).text = .ok ⟨reached ++ [name], none⟩ ∧
        tree.writeText standing (above.below [name]).text "" =
          .ok (tree.set (file ByteArray.empty false) (reached ++ [name])) := by
  have empty : "".toUTF8 = ByteArray.empty := rfl
  have located := locate_text_of_plain plain (by simp [Place.below]) tree standing true
  rw [writeText, writeBytes, empty, located]
  cases refused : refusal? (above.below [name]).text with
  | some cause => exact Or.inl ⟨⟨cause, rfl⟩, Or.inl (by simp)⟩
  | none =>
      by_cases fits : Fits name
      · simp only [seek_below_free stands leads fits free]
        exact Or.inr ⟨trivial, fits, rfl, rfl⟩
      · rcases leads.exists_seek_below stands with ⟨fewer, goesOn⟩
        simp only [goesOn true [name] (by simp), List.map_singleton,
          follow_enter_of_long (Nat.not_le.mp fits)]
        exact Or.inl ⟨⟨.nameTooLong, rfl⟩, Or.inr fits⟩

/-! ## The outcome -/

theorem not_cutShort_of_taken
    (taken : ∀ higher : Place, higher.Upper above → ¬ Free tree standing higher) :
    ¬ CutShort tree standing (above.below [name]) := by
  rintro ⟨parent, known, _, ⟨higher, upper, free⟩, _⟩
  rw [parent?_below, Option.some.injEq] at known
  exact taken higher (known ▸ upper) free

/-- The ancestors that are missing and fit are those along the names that could be made. -/
theorem fittingAncestors_iff (stands : tree.faceAt? standing = some .directory)
    (rest : List String) (plain : ((above.below (names ++ rest)).below [name]).IsPlain)
    (accepted : refusal? (above.below (names ++ rest)).text = none)
    (leads : LeadsTo tree standing above reached) (fits : ∀ name ∈ names, Fits name)
    {first : String} (begins : names.head? = some first)
    (free : tree.get? (reached ++ [first]) = none)
    (stops : ∀ tooLong others, rest = tooLong :: others → ¬ Fits tooLong)
    (found : Place) (face : Face) :
    FittingAncestors tree standing ((above.below (names ++ rest)).below [name]) found face ↔
      (∃ upper, upper ≠ [] ∧ upper <+: names ∧ found = above.below upper) ∧ face = .directory := by
  have whole : (names ++ rest).head? = some first := by
    rw [List.head?_append, begins, Option.some_or]
  have here : Fits first := fits first (List.mem_of_head? begins)
  have missing := missing_iff stands plain accepted leads whole here free found
  rw [FittingAncestors, missing]
  refine and_congr_left (fun _ => ?_)
  constructor
  · rintro ⟨⟨upper, filled, front, rfl⟩, each⟩
    refine ⟨upper, filled, ?_, rfl⟩
    rcases List.prefix_or_prefix_of_prefix front (List.prefix_append names rest) with
      shorter | ⟨more, rfl⟩
    · exact shorter
    · cases more with
      | nil => rw [List.append_nil]
      | cons tooLong others =>
          rcases (List.prefix_append_right_inj names).mp front with ⟨later, ends⟩
          refine absurd (each tooLong ?_) (stops tooLong (others ++ later) ends.symm)
          simp [Place.below]
  · rintro ⟨upper, filled, front, rfl⟩
    refine ⟨⟨upper, filled, front.trans (List.prefix_append names rest), rfl⟩, ?_⟩
    intro name member
    rcases List.mem_append.mp member with higher | lower
    · exact fits_of_leadsTo stands leads name higher
    · exact fits name (front.subset lower)

/-- Directories could be made for the place. -/
theorem exists_free (stands : tree.faceAt? standing = some .directory)
    (plain : (above.below names).IsPlain) (accepted : refusal? (above.below names).text = none)
    (leads : LeadsTo tree standing above reached) {first : String}
    (begins : names.head? = some first) (fits : Fits first)
    (free : tree.get? (reached ++ [first]) = none) :
    ∃ higher : Place, higher.Upper (above.below names) ∧ Free tree standing higher := by
  rcases List.head?_eq_some_iff.mp begins with ⟨others, rfl⟩
  have shape : above.below (first :: others) = (above.below [first]).below others := by
    rw [Place.below_below, List.singleton_append]
  have named : (above.below [first]).names ≠ [] := by
    simp [Place.below]
  rw [shape] at plain accepted
  refine ⟨above.below [first], ⟨named, others, shape⟩, reached ++ [first], ?_⟩
  rw [locate_text_of_plain plain.of_below named, refusal?_of_below accepted]
  exact seek_below_free stands leads fits free false []

/-- After all missing directories have been made, either the file follows or they are left
behind. -/
theorem filing_of_whole (stands : tree.faceAt? standing = some .directory)
    (plain : ((above.below names).below [name]).IsPlain)
    (accepted : refusal? (above.below names).text = none) (filled : names ≠ [])
    (leads : LeadsTo tree standing above reached) (fits : ∀ name ∈ names, Fits name)
    (chain : Chain reached names tree after) :
    Filing tree standing ((above.below names).below [name])
      (match after.writeText standing ((above.below names).below [name]).text "" with
      | .error cause => (.error cause, after)
      | .ok written => (.ok (), written)) := by
  rcases chain.exists_first filled with ⟨first, begins, free⟩
  have here : Fits first := fits first (List.mem_of_head? begins)
  have gained := gains_of_chain stands plain.of_below accepted leads fits chain
  have fitting := fun found face => fittingAncestors_iff stands []
    (by rw [List.append_nil]; exact plain) (by rw [List.append_nil]; exact accepted) leads fits
    begins free (fun _ _ impossible => nomatch impossible) found face
  simp only [List.append_nil] at fitting
  have standsAfter := chain.keeps standing .directory stands
  have leadsAfter := (leads.of_keeps chain.keeps).below standsAfter chain.made fits
  have freeAfter := (chain.free_below filled name).2
  rcases writeText_below standsAfter plain leadsAfter freeAfter with
    ⟨⟨cause, failed⟩, which⟩ | ⟨followed, nameFits, located, made⟩
  · rw [failed]
    refine .cut cause ⟨_, parent?_below _ _, accepted,
      exists_free stands plain.of_below accepted leads begins here free, ?_⟩
      (gained.congr fitting) ⟨above.below names, ?_⟩
    · rcases which with refused | long
      · exact Or.inl refused
      · exact Or.inr ⟨name, by simp [Place.below], long⟩
    · exact (fitting _ _).mpr ⟨⟨names, filled, List.prefix_rfl, rfl⟩, rfl⟩
  · rw [made]
    refine .whole ?_ ((gained.set_file standsAfter ?_ plain (by simp [Place.below]) located
      _).congr ?_)
    · rintro ⟨_, _, _, _, refused | ⟨other, member, long⟩⟩
      · exact refused followed
      · rcases List.mem_append.mp member with ancestor | last
        · rcases List.mem_append.mp ancestor with higher | lower
          · exact long (fits_of_leadsTo stands leads other higher)
          · exact long (fits other lower)
        · exact long (List.mem_singleton.mp last ▸ nameFits)
    · rintro found face ⟨⟨upper, some, ⟨rest, rfl⟩, rfl⟩, _⟩
      rw [← Place.below_below] at plain
      exact ⟨plain.of_below.of_below, by simp [Place.below, some]⟩
    · intro found face
      rw [WithAncestors, missing_iff stands plain accepted leads begins here free]

/-- Directories are left behind above the first name that is too long. -/
theorem filing_of_cut (stands : tree.faceAt? standing = some .directory) {tooLong : String}
    {rest : List String} (plain : ((above.below (names ++ tooLong :: rest)).below [name]).IsPlain)
    (accepted : refusal? (above.below (names ++ tooLong :: rest)).text = none) (filled : names ≠ [])
    (leads : LeadsTo tree standing above reached) (fits : ∀ name ∈ names, Fits name)
    (long : ¬ Fits tooLong) (chain : Chain reached names tree after) (cause : Cause) :
    Filing tree standing ((above.below (names ++ tooLong :: rest)).below [name])
      (.error cause, after) := by
  rcases chain.exists_first filled with ⟨first, begins, free⟩
  have here : Fits first := fits first (List.mem_of_head? begins)
  have whole : (names ++ tooLong :: rest).head? = some first := by
    rw [List.head?_append, begins, Option.some_or]
  have stops : ∀ next others, tooLong :: rest = next :: others → ¬ Fits next := by
    rintro next others same
    rw [← (List.cons.inj same).1]
    exact long
  have fitting := fittingAncestors_iff stands (tooLong :: rest) plain accepted leads fits begins
    free stops
  have upper := plain.of_below
  have upperAccepted := accepted
  rw [← Place.below_below] at upper upperAccepted
  have gained := gains_of_chain stands upper.of_below (refusal?_of_below upperAccepted) leads fits
    chain
  refine .cut cause ⟨_, parent?_below _ _, accepted,
    exists_free stands plain.of_below accepted leads whole here free,
    Or.inr ⟨tooLong, by simp [Place.below], long⟩⟩ (gained.congr fitting) ⟨above.below names, ?_⟩
  exact (fitting _ _).mpr ⟨⟨names, filled, List.prefix_rfl, rfl⟩, rfl⟩

theorem filing_of_unnamed (unnamed : place.names = [])
    (absent : tree.existsAt standing place.text = false) :
    Filing tree standing place (tree.makeFile standing place) := by
  rcases place with ⟨anchored, names⟩
  subst unnamed
  cases anchored with
  | true =>
      have found : tree.locate standing true (Place.text ⟨true, []⟩) = .ok ⟨[], tree.get? []⟩ := by
        rfl
      rw [existsAt, find?, found, get?_nil] at absent
      cases absent
  | false =>
      have nowhere : tree.locate standing true (Place.text ⟨false, []⟩) = .error .notFound := by
        rfl
      have made : tree.makeFile standing ⟨false, []⟩ = (.error .notFound, tree) := by
        rw [makeFile, makeAbove]
        simp only [Place.parent?, List.isEmpty_nil, if_true, writeText, writeBytes, nowhere]
      rw [made]
      refine .refused _ ?_
      rintro ⟨parent, known, _⟩
      cases known

/-- Making a file where nothing is found makes all or nothing, unless it is cut short. -/
theorem filing_makeFile (stands : tree.faceAt? standing = some .directory) (plain : place.IsPlain)
    (absent : tree.existsAt standing place.text = false) :
    Filing tree standing place (tree.makeFile standing place) := by
  by_cases named : place.names = []
  · exact filing_of_unnamed named absent
  · rcases Place.exists_last named with ⟨above, name, rfl⟩
    cases refused : refusal? above.text with
    | some cause =>
        rw [makeFile, makeAbove_of_refusal plain.of_below refused]
        refine .refused cause ?_
        rintro ⟨parent, known, accepted, _⟩
        rw [parent?_below, Option.some.injEq] at known
        rw [← known, refused] at accepted
        cases accepted
    | none =>
        have making := making_makeAbove stands plain.of_below refused name
        rw [makeFile]
        generalize tree.makeAbove standing (above.below [name]) = made at making
        cases making with
        | @present reached leads =>
            have uncut : ¬ CutShort tree standing (above.below [name]) :=
              not_cutShort_of_taken (fun higher upper free =>
                not_leadsTo_of_free stands plain.of_below upper free reached leads)
            simp only
            rcases writeText_of_absent absent with ⟨cause, failed⟩ | ⟨names, located, written⟩
            · rw [failed]
              exact .refused cause uncut
            · rw [written]
              refine .whole uncut (((gains_refl standing tree).set_file stands
                (fun _ _ impossible => impossible.elim) plain named located _).congr ?_)
              intro found face
              rw [WithAncestors, false_or, or_iff_right]
              rintro ⟨missing, _⟩
              exact not_missing_of_leadsTo stands plain refused leads found missing
        | stuck cause blocked taken =>
            exact .refused cause (not_cutShort_of_taken taken)
        | whole split filled leads fits chain =>
            subst split
            exact filing_of_whole stands plain refused filled leads fits chain
        | cut cause split filled leads fits long chain =>
            subst split
            exact filing_of_cut stands plain refused filled leads fits long chain cause

/-- Where directories can be made for a place, nothing is found at it. -/
theorem absent_of_cutShort (stands : tree.faceAt? standing = some .directory)
    (plain : place.IsPlain) (short : CutShort tree standing place) :
    tree.existsAt standing place.text = false := by
  rcases short with ⟨parent, known, _, ⟨higher, upper, free⟩, _⟩
  have named : place.names ≠ [] := by
    intro unnamed
    rw [Place.parent?, unnamed] at known
    cases known
  rcases Place.exists_last named with ⟨above, name, rfl⟩
  rw [parent?_below, Option.some.injEq] at known
  subst known
  rcases exists_seek_below_of_not_leadsTo stands
    (not_leadsTo_of_free stands plain.of_below upper free) with ⟨cause, ends⟩
  rw [existsAt, find?, locate_text_of_plain plain named]
  cases refusal? (above.below [name]).text with
  | some cause => rfl
  | none =>
      rw [ends true [name] (by simp)]
      rfl

end Node

namespace Viewer

open Node (CutShort Gains WithAncestors FittingAncestors)

variable {settings : WindowSettings} {environment : Environment} {arguments : Arguments}
  {before : World} {place : Place}

/-- The arguments ask for a file at the place. -/
def AsksFor (environment : Environment) (arguments : Arguments) (place : Place) : Prop :=
  ∃ name, arguments.require "create" "filename" = .ok name ∧ environment.resolve name = .ok place

/-- The outcome is a failure or the report of an error. -/
def Fails (outcome : Except Failure String) : Prop :=
  (∃ failure, outcome = .error failure) ∨ ∃ message, outcome = complain message

theorem isPlain_of_asksFor (asks : AsksFor environment arguments place) : place.IsPlain := by
  rcases asks with ⟨_, _, resolved⟩
  exact (Workspace.held_of_resolve resolved).1

theorem eq_of_asksFor {other : Place} (first : AsksFor environment arguments place)
    (second : AsksFor environment arguments other) : other = place := by
  rcases first with ⟨name, given, resolved⟩
  rcases second with ⟨again, asked, meant⟩
  rw [given] at asked
  rw [← Except.ok.inj asked, resolved] at meant
  exact (Except.ok.inj meant).symm

/-- Asking for a file at a place fails if something is found there, and else makes the file. -/
theorem create_of_asksFor (settings : WindowSettings) (asks : AsksFor environment arguments place)
    (before : World) :
    (before.tree.existsAt environment.host.standing place.text = true ∧
      ∃ message, create settings environment arguments before = (complain message, before)) ∨
    before.tree.existsAt environment.host.standing place.text = false ∧
      create settings environment arguments before =
        match before.tree.makeFile environment.host.standing place with
        | (.error cause, tree) => (.error (.machine cause), { before with tree := tree })
        | (.ok _, tree) =>
          showWindow settings environment { before with tree := tree } place 1 := by
  rcases asks with ⟨name, given, resolved⟩
  cases found : before.tree.existsAt environment.host.standing place.text with
  | true =>
      refine Or.inl ⟨rfl, "File '" ++ name ++ "' already exists.", ?_⟩
      unfold create createWith
      rw [given]
      simp only [resolved, found, if_true]
  | false =>
      refine Or.inr ⟨rfl, ?_⟩
      rw [create_of_absent settings given resolved found, Node.makeFile]
      cases before.tree.makeAbove environment.host.standing place with
      | mk made tree =>
          cases made with
          | error cause => rfl
          | ok _ =>
              cases written : tree.writeText environment.host.standing place.text "" with
              | error cause => simp only [written]
              | ok changed => simp only [written]

theorem create_of_not_asksFor (settings : WindowSettings)
    (asks : ∀ place, ¬ AsksFor environment arguments place) (before : World) :
    Fails (create settings environment arguments before).1 ∧
      (create settings environment arguments before).2 = before := by
  unfold create createWith
  cases given : arguments.require "create" "filename" with
  | error failure => exact ⟨Or.inl ⟨failure, rfl⟩, rfl⟩
  | ok name =>
      cases resolved : environment.resolve name with
      | error failure =>
          simp only [resolved]
          exact ⟨Or.inr ⟨failure.message, rfl⟩, trivial⟩
      | ok place => exact absurd ⟨name, given, resolved⟩ (asks place)

/-- The file that has been made is empty, and its window is shown. -/
theorem showWindow_of_gains (settings : WindowSettings) (after : World)
    (gains : Gains environment.host.standing
      (WithAncestors before.tree environment.host.standing place) before.tree after.tree) :
    showWindow settings environment after place 1 =
      shown settings environment after place [] 1 := by
  rcases gains.shows place _ (Or.inr ⟨rfl, rfl⟩) with ⟨names, ⟨node, located, same⟩, _⟩
  have file : node = .file ByteArray.empty false := by
    cases node with
    | file content executable =>
        rcases Face.file.inj same with ⟨sameContent, sameFlag⟩
        rw [sameContent, sameFlag]
    | link target => cases same
    | directory members => cases same
  have read : contentOf environment after place = .ok "" := by
    apply Node.readText_eq_ok_iff.mpr
    apply Node.readBytes_eq_ok_iff.mpr
    exact ⟨names, false, by rw [located, file]; rfl⟩
  exact showWindow_of_content read 1

theorem create_of_not_cutShort (settings : WindowSettings)
    (stands : before.tree.faceAt? environment.host.standing = some .directory)
    (asks : AsksFor environment arguments place)
    (uncut : ¬ CutShort before.tree environment.host.standing place) :
    (Fails (create settings environment arguments before).1 ∧
        (create settings environment arguments before).2 = before) ∨
      ∃ after,
        create settings environment arguments before =
          shown settings environment { before with tree := after } place [] 1 ∧
        Gains environment.host.standing
          (WithAncestors before.tree environment.host.standing place) before.tree after := by
  rcases create_of_asksFor settings asks before with ⟨_, message, same⟩ | ⟨absent, same⟩
  · exact Or.inl ⟨Or.inr ⟨message, by rw [same]⟩, by rw [same]⟩
  · have filing := Node.filing_makeFile stands (isPlain_of_asksFor asks) absent
    generalize before.tree.makeFile environment.host.standing place = made at filing same
    cases filing with
    | refused cause _ => exact Or.inl ⟨Or.inl ⟨_, by rw [same]⟩, by rw [same]⟩
    | @whole after _ gains =>
        refine Or.inr ⟨after, same.trans ?_, gains⟩
        exact showWindow_of_gains settings { before with tree := after } gains
    | cut cause short _ _ => exact absurd short uncut

theorem create_of_cutShort (settings : WindowSettings)
    (stands : before.tree.faceAt? environment.host.standing = some .directory)
    (asks : AsksFor environment arguments place)
    (short : CutShort before.tree environment.host.standing place) :
    ∃ cause after,
      create settings environment arguments before =
        (.error (.machine cause), { before with tree := after }) ∧
      Gains environment.host.standing
        (FittingAncestors before.tree environment.host.standing place) before.tree after ∧
      ∃ found, FittingAncestors before.tree environment.host.standing place found .directory := by
  have absent := Node.absent_of_cutShort stands (isPlain_of_asksFor asks) short
  rcases create_of_asksFor settings asks before with ⟨found, _⟩ | ⟨_, same⟩
  · rw [absent] at found
    cases found
  · have filing := Node.filing_makeFile stands (isPlain_of_asksFor asks) absent
    generalize before.tree.makeFile environment.host.standing place = made at filing same
    cases filing with
    | refused cause uncut => exact absurd short uncut
    | whole uncut _ => exact absurd short uncut
    | cut cause _ gains some => exact ⟨cause, _, same, gains, some⟩

/-- Creating a file makes the file and its missing ancestors and shows its window, or it fails and
leaves everything as it was.  The one exception is that it is cut short; then it fails and leaves
the missing ancestors behind, as far as their names are not too long. -/
theorem create_all_or_nothing (settings : WindowSettings) (environment : Environment)
    (arguments : Arguments) (before : World)
    (stands : before.tree.faceAt? environment.host.standing = some .directory) :
    ((∀ place, AsksFor environment arguments place →
        ¬ CutShort before.tree environment.host.standing place) →
      (Fails (create settings environment arguments before).1 ∧
          (create settings environment arguments before).2 = before) ∨
        ∃ place, AsksFor environment arguments place ∧ ∃ after,
          create settings environment arguments before =
            shown settings environment { before with tree := after } place [] 1 ∧
          Gains environment.host.standing
            (WithAncestors before.tree environment.host.standing place) before.tree after) ∧
    ∀ place, AsksFor environment arguments place →
      CutShort before.tree environment.host.standing place →
        ∃ cause after,
          create settings environment arguments before =
            (.error (.machine cause), { before with tree := after }) ∧
          Gains environment.host.standing
            (FittingAncestors before.tree environment.host.standing place) before.tree after ∧
          ∃ found, FittingAncestors before.tree environment.host.standing place found
            .directory := by
  refine ⟨?_, fun place asks short => create_of_cutShort settings stands asks short⟩
  intro uncut
  by_cases asked : ∃ place, AsksFor environment arguments place
  · rcases asked with ⟨place, asks⟩
    rcases create_of_not_cutShort settings stands asks (uncut place asks) with failed | made
    · exact Or.inl failed
    · exact Or.inr ⟨place, asks, made⟩
  · exact Or.inl (create_of_not_asksFor settings (fun place asks => asked ⟨place, asks⟩) before)

end Viewer

/-! ## A name that is too long -/

namespace Sample

def fileArguments (name : String) : Arguments :=
  Dictionary.empty.insert "filename" name

/-- A name that is one byte too long. -/
def longName : String :=
  String.ofList (List.replicate 256 'a')

theorem plain_longName : Path.Plain longName where
  nonempty := by decide +kernel
  notDot := by decide +kernel
  notDots := by decide +kernel
  slashless := by
    intro member
    have letters : longName.toList = List.replicate 256 'a' := String.toList_ofList
    rw [letters] at member
    exact absurd (List.eq_of_mem_replicate member) (by decide)

theorem not_fits_longName : ¬ Node.Fits longName := by
  decide +kernel

/-- The long name in a directory that is not there. -/
theorem asksFor_longName :
    Viewer.AsksFor environment (fileArguments ("newdir/" ++ longName))
      ⟨true, ["ws", "newdir", longName]⟩ := by
  have plain : ∀ name ∈ ["newdir", longName], Path.Plain name := by
    have first : Path.Plain "newdir" := ⟨by decide, by decide, by decide, by decide⟩
    exact List.forall_mem_cons.mpr ⟨first, List.forall_mem_singleton.mpr plain_longName⟩
  have written : "newdir/" ++ longName = Workspace.shown ["newdir", longName] := by
    rw [Workspace.shown, if_neg (by simp), String.intercalate_cons_cons,
      String.intercalate_singleton]
    rfl
  refine ⟨_, rfl, ?_⟩
  rw [written, Environment.resolve, Environment.root, Workspace.resolve_shown _ _ plain, if_neg]
  · rfl
  · have solid : Text.isBlankOnly "newdir/".toList = false := by
      decide +kernel
    rw [Text.isBlankOnly] at solid
    rw [← written, Text.isBlankOnly, String.toList_append, List.all_append, solid, Bool.false_and]
    exact Bool.false_ne_true

theorem stands_world : (world "" "" "").tree.faceAt? environment.host.standing =
    some .directory :=
  rfl

end Sample

namespace Viewer

theorem cutShort_longName :
    Node.CutShort (Sample.tree "" "") [] ⟨true, ["ws", "newdir", Sample.longName]⟩ := by
  have upper : (⟨true, ["ws", "newdir"]⟩ : Place).Upper ⟨true, ["ws", "newdir"]⟩ :=
    ⟨by decide, [], rfl⟩
  refine ⟨⟨true, ["ws", "newdir"]⟩, rfl, by decide +kernel, ⟨_, upper, ["ws", "newdir"], rfl⟩,
    Or.inr ⟨Sample.longName, by simp, Sample.not_fits_longName⟩⟩

theorem create_all_or_nothing_in_newdir :
    (Sample.world "" "" "").tree.faceAt? Sample.environment.host.standing = some .directory ∧
    (∃ after,
      create {} Sample.environment (Sample.fileArguments "newdir/b.txt") (Sample.world "" "" "") =
        shown {} Sample.environment { Sample.world "" "" "" with tree := after }
          ⟨true, ["ws", "newdir", "b.txt"]⟩ [] 1 ∧
      Node.Gains [] (Node.WithAncestors (Sample.tree "" "") []
        ⟨true, ["ws", "newdir", "b.txt"]⟩) (Sample.tree "" "") after) ∧
    ∃ cause after,
      create {} Sample.environment (Sample.fileArguments ("newdir/" ++ Sample.longName))
          (Sample.world "" "" "") =
        (.error (.machine cause), { Sample.world "" "" "" with tree := after }) ∧
      Node.Gains [] (Node.FittingAncestors (Sample.tree "" "") []
        ⟨true, ["ws", "newdir", Sample.longName]⟩) (Sample.tree "" "") after := by
  have asks : AsksFor Sample.environment (Sample.fileArguments "newdir/b.txt")
      ⟨true, ["ws", "newdir", "b.txt"]⟩ := ⟨_, rfl, by decide +kernel⟩
  refine ⟨Sample.stands_world, ?_, ?_⟩
  · have uncut : ∀ place, AsksFor Sample.environment (Sample.fileArguments "newdir/b.txt") place →
        ¬ Node.CutShort (Sample.tree "" "") [] place := by
      intro place asked
      rw [eq_of_asksFor asks asked]
      rintro ⟨_, _, _, _, refused | ⟨name, member, long⟩⟩
      · exact refused (by decide +kernel)
      · have each : ∀ name ∈ ["ws", "newdir", "b.txt"], Node.Fits name := by decide +kernel
        exact long (each name member)
    rcases (create_all_or_nothing {} Sample.environment (Sample.fileArguments "newdir/b.txt")
      (Sample.world "" "" "") Sample.stands_world).1 uncut with ⟨_, same⟩ | ⟨place, asked, made⟩
    · have grown : (create {} Sample.environment (Sample.fileArguments "newdir/b.txt")
          (Sample.world "" "" "")).2.tree.shapeAt? ["ws", "newdir"] = some .directory := by
        decide +kernel
      rw [same] at grown
      cases grown
    · rw [eq_of_asksFor asks asked] at made
      exact made
  · rcases (create_all_or_nothing {} Sample.environment
      (Sample.fileArguments ("newdir/" ++ Sample.longName)) (Sample.world "" "" "")
      Sample.stands_world).2 _ Sample.asksFor_longName cutShort_longName with
      ⟨cause, after, same, gains, _⟩
    exact ⟨cause, after, same, gains⟩

/-- The directory of the file is made, and then the name of the file is found to be too long. -/
theorem create_leaves_directory_behind :
    ¬ ∀ (settings : WindowSettings) (environment : Environment) (arguments : Arguments)
      (before : World), before.tree.faceAt? environment.host.standing = some .directory →
        (Fails (create settings environment arguments before).1 ∧
          (create settings environment arguments before).2.tree = before.tree) ∨
        ∃ place, AsksFor environment arguments place ∧ ∃ after,
          create settings environment arguments before =
            shown settings environment { before with tree := after } place [] 1 ∧
          Node.Gains environment.host.standing
            (Node.WithAncestors before.tree environment.host.standing place) before.tree after := by
  intro always
  rcases create_of_cutShort {} Sample.stands_world Sample.asksFor_longName cutShort_longName with
    ⟨cause, after, same, gains, found, fitting⟩
  rcases always {} _ _ _ Sample.stands_world with ⟨_, unchanged⟩ | ⟨_, _, _, shows, _⟩
  · rw [same] at unchanged
    rcases gains.shows found _ fitting with ⟨names, ⟨node, located, _⟩, absent⟩
    have there := Node.locate_node located
    simp only at unchanged there
    rw [Node.faceAt?, ← unchanged, ← there] at absent
    cases absent
  · rw [same] at shows
    cases shows

end Viewer

end Workbench
