import Workbench.Proofs.Tree.Passing
import Workbench.Proofs.Workspace.Display
namespace Workbench

/-!
# Where places lead

The tools act on the texts of places.  A text can be refused before any node is looked at, for a
zero character or for its length; else the text of a place of plain names leads to where its names
lead, entered one after the other.  A refused text stays refused when it is written on, so what
lies above an accepted place is accepted too.

The rest is about a place that leads to a directory.  What lies below it in the tree is entered
there: directories one inside of the other, and a file at the end, none of which is a link.
-/

namespace Place

/-- The directory from which the names of a place are entered. -/
def base (standing : List String) (place : Place) : List String :=
  if place.anchored then [] else standing

/-- The place that is reached by more names. -/
def below (place : Place) (more : List String) : Place :=
  { place with names := place.names ++ more }

/-- The names can be told apart in the text of the place. -/
def IsPlain (place : Place) : Prop :=
  ∀ name ∈ place.names, Path.Plain name

variable {place : Place} {more : List String}

theorem isPlain_below_iff :
    (place.below more).IsPlain ↔ place.IsPlain ∧ ∀ name ∈ more, Path.Plain name :=
  List.forall_mem_append

theorem IsPlain.of_below (plain : (place.below more).IsPlain) : place.IsPlain :=
  (isPlain_below_iff.mp plain).1

theorem text_of_unanchored (free : place.anchored = false) :
    place.text = String.intercalate "/" place.names := by
  rw [text, free, if_neg Bool.false_ne_true, String.empty_append]

/-- The text of a place is written on for the places below it. -/
theorem exists_text_below (place : Place) (more : List String) :
    ∃ rest, (place.below more).text = place.text ++ rest := by
  by_cases unnamed : place.names = []
  · refine ⟨String.intercalate "/" more, ?_⟩
    rw [text, text, below, unnamed, List.nil_append, String.intercalate_nil, String.append_empty]
  · by_cases none : more = []
    · refine ⟨"", ?_⟩
      rw [text, text, below, none, List.append_nil, String.append_empty]
    · refine ⟨"/" ++ String.intercalate "/" more, ?_⟩
      rw [text, text, below, String.intercalate_append_of_ne_nil unnamed none]
      simp only [String.append_assoc]

/-- Following the text of a place that has a name means to enter its names one after the other. -/
theorem steps_text_of_plain (plain : place.IsPlain) (named : place.names ≠ []) :
    Step.ofPath place.text =
      (if place.anchored then [.stay] else []) ++ place.names.map Step.enter := by
  cases top : place.anchored with
  | true =>
      rw [steps_text top plain, if_neg named]
      rfl
  | false =>
      have slashless : ∀ name ∈ place.names, '/' ∉ name.toList :=
        fun name member => (plain name member).slashless
      rw [Step.ofPath, text_of_unanchored top,
        Path.segments_intercalate place.names named slashless, List.map_map]
      exact List.map_congr_left (fun name member => (plain name member).ofSegment)

/-- Besides slashes there are only the names in the text of a place. -/
theorem mem_text_iff {letter : Char} (other : letter ≠ '/') :
    letter ∈ place.text.toList ↔ ∃ name ∈ place.names, letter ∈ name.toList := by
  have joined : ∀ names : List String, letter ∈ (String.intercalate "/" names).toList ↔
      ∃ name ∈ names, letter ∈ name.toList := by
    intro names
    induction names with
    | nil => simp
    | cons first others inductionHypothesis =>
        cases others with
        | nil => simp
        | cons second later =>
            rw [String.intercalate_cons_cons, String.toList_append, String.toList_append,
              List.mem_append, List.mem_append, inductionHypothesis,
              List.exists_mem_cons_iff (p := fun name => letter ∈ name.toList) first]
            simp [other]
  rw [text, String.toList_append, List.mem_append, joined]
  cases place.anchored with
  | true => simp [other]
  | false => simp

theorem isAbsolute_text_of_plain (plain : place.IsPlain) :
    Path.isAbsolute place.text.toList = place.anchored := by
  cases top : place.anchored with
  | true => exact isAbsolute_text top
  | false =>
      rw [text_of_unanchored top]
      exact Path.isAbsolute_intercalate plain

theorem isEmpty_text_of_plain (plain : place.IsPlain) (named : place.names ≠ []) :
    place.text.isEmpty = false := by
  rw [String.isEmpty_eq_false_iff]
  intro empty
  have steps := steps_text_of_plain plain named
  have none : Step.ofPath "" = [.stay] := by decide
  rw [empty, none] at steps
  rcases List.exists_cons_of_ne_nil named with ⟨first, others, shape⟩
  rw [shape] at steps
  cases top : place.anchored with
  | true => rw [top] at steps; cases steps
  | false => rw [top] at steps; cases steps

end Place

namespace Node

variable {tree before after : Node} {standing : List String} {place : Place} {more : List String}

/-- A text that is refused is refused however it is written on, and maybe for another cause. -/
theorem refusal?_of_below (accepted : refusal? (place.below more).text = none) :
    refusal? place.text = none := by
  rcases place.exists_text_below more with ⟨rest, shape⟩
  rw [refusal?, shape] at accepted
  rw [refusal?]
  split at accepted
  · cases accepted
  · rename_i zeroless
    split at accepted
    · cases accepted
    · rename_i short
      rw [if_neg, if_neg]
      · rw [String.utf8ByteSize_append] at short
        omega
      · intro zero
        apply zeroless
        rw [String.toList_append, List.contains_append, zero, Bool.true_or]

theorem refusal?_of_unnamed (unnamed : place.names = []) : refusal? place.text = none := by
  cases place with
  | mk anchored names =>
      cases unnamed
      cases anchored <;> decide +kernel

theorem refusal?_eq_none_iff {path : String} :
    refusal? path = none ↔ '\x00' ∉ path.toList ∧ path.utf8ByteSize < pathLimit := by
  unfold refusal?
  split
  · rename_i zero
    rw [List.contains_iff_mem] at zero
    exact ⟨fun impossible => (nomatch impossible), fun both => absurd zero both.1⟩
  · rename_i clear
    rw [List.contains_iff_mem] at clear
    split
    · rename_i long
      exact ⟨fun impossible => (nomatch impossible), fun both => by omega⟩
    · rename_i short
      exact ⟨fun _ => ⟨clear, by omega⟩, fun _ => rfl⟩

/-- Enters the names of a place one after the other. -/
def seek (tree : Node) (standing : List String) (through : Bool) (place : Place) :
    Except Cause Spot :=
  tree.follow through linkLimit (place.base standing) (place.names.map Step.enter)

/-- A text that is not refused leads to where its names lead. -/
theorem locate_text_of_plain (plain : place.IsPlain) (named : place.names ≠ []) (tree : Node)
    (standing : List String) (through : Bool) :
    tree.locate standing through place.text =
      match refusal? place.text with
      | some cause => .error cause
      | none => tree.seek standing through place := by
  rw [locate, Place.isEmpty_text_of_plain plain named, Place.isAbsolute_text_of_plain plain,
    Place.steps_text_of_plain plain named, refusal?, seek, Place.base]
  split
  · rfl
  · rw [if_neg Bool.false_ne_true]
    split
    · rfl
    · cases place.anchored with
      | true => exact follow_stay tree through linkLimit [] (place.names.map Step.enter)
      | false => rfl

/-! ## Places that are directories -/

/-- The names of the place lead to a directory. -/
def LeadsTo (tree : Node) (standing : List String) (place : Place) (reached : List String) : Prop :=
  ∃ members, tree.seek standing true place = .ok ⟨reached, some (directory members)⟩

theorem faceAt?_top (stands : tree.faceAt? standing = some .directory) :
    tree.faceAt? [] = some .directory := by
  have top := faceAt?_onward stands "/"
  exact top

theorem faceAt?_base (stands : tree.faceAt? standing = some .directory) (place : Place) :
    tree.faceAt? (place.base standing) = some .directory := by
  unfold Place.base
  split
  · exact faceAt?_top stands
  · exact stands

theorem LeadsTo.faceAt? {reached : List String} (leads : LeadsTo tree standing place reached) :
    tree.faceAt? reached = some .directory := by
  rcases leads with ⟨members, arrives⟩
  exact faceAt?_eq_directory_iff.mpr ⟨members, (follow_node _ _ _ _ arrives).symm⟩

/-- Names behind a place are entered in the directory that the place leads to. -/
theorem LeadsTo.exists_seek_below (stands : tree.faceAt? standing = some .directory)
    {reached : List String} (leads : LeadsTo tree standing place reached) :
    ∃ fewer, ∀ through more, more ≠ [] →
      tree.seek standing through (place.below more) =
        tree.follow through fewer reached (more.map Step.enter) := by
  rcases leads with ⟨members, arrives⟩
  rcases @settled_of_stands _ linkLimit _ (place.names.map Step.enter)
      (faceAt?_base stands place) with ⟨fewer, found, passes⟩ | ⟨cause, blocked⟩
  · have same : found = reached := by
      have spots := passes.arrives.symm.trans arrives
      exact (Spot.mk.inj (Except.ok.inj spots)).1
    refine ⟨fewer, fun through more filled => ?_⟩
    have goesOn := passes.goesOn through (more.map Step.enter)
      (fun none => filled (List.map_eq_nil_iff.mp none))
    rw [same, ← List.map_append] at goesOn
    exact goesOn
  · exact absurd arrives (blocked.misses reached members)

/-- Where a place does not lead to a directory, nothing is found behind it. -/
theorem exists_seek_below_of_not_leadsTo (stands : tree.faceAt? standing = some .directory)
    (blocked : ∀ reached, ¬ LeadsTo tree standing place reached) :
    ∃ cause, ∀ through more, more ≠ [] →
      tree.seek standing through (place.below more) = .error cause := by
  rcases @settled_of_stands _ linkLimit _ (place.names.map Step.enter)
      (faceAt?_base stands place) with ⟨fewer, found, passes⟩ | ⟨cause, ends⟩
  · rcases faceAt?_eq_directory_iff.mp passes.stands with ⟨members, got⟩
    exact absurd ⟨members, got ▸ passes.arrives⟩ (blocked found)
  · refine ⟨cause, fun through more filled => ?_⟩
    have ended := ends.ends through (more.map Step.enter)
      (fun none => filled (List.map_eq_nil_iff.mp none))
    rw [← List.map_append] at ended
    exact ended

/-- A place that leads to a directory does so in every tree that has what this one has. -/
theorem LeadsTo.of_keeps (keeps : Keeps before after) {reached : List String}
    (leads : LeadsTo before standing place reached) : LeadsTo after standing place reached := by
  rcases faceAt?_eq_directory_iff.mp (keeps _ _ leads.faceAt?) with ⟨members, still⟩
  rcases leads with ⟨_, arrives⟩
  refine ⟨members, ?_⟩
  rw [seek, follow_of_keeps keeps arrives (fun none => absurd none (Option.some_ne_none _)), still]

/-- Names of directories below each other are entered without passing a link. -/
theorem follow_enter_directories {through : Bool} {left : Nat} {names : List String}
    (entered : ∀ upper, upper ≠ [] → upper <+: more →
      tree.faceAt? (names ++ upper) = some .directory)
    (fits : ∀ name ∈ more, name.utf8ByteSize ≤ longestName) (rest : List Step) :
    tree.follow through left names (more.map Step.enter ++ rest) =
      tree.follow through left (names ++ more) rest := by
  induction more generalizing names with
  | nil => rw [List.append_nil, List.map_nil, List.nil_append]
  | cons name others inductionHypothesis =>
      rcases List.forall_mem_cons.mp fits with ⟨here, later⟩
      rcases faceAt?_eq_directory_iff.mp (entered [name] (List.cons_ne_nil _ _) ⟨others, rfl⟩) with
        ⟨members, got⟩
      rw [List.map_cons, List.cons_append, follow_enter_of_directory here got,
        inductionHypothesis _ later, List.append_assoc, List.singleton_append]
      intro upper _ front
      rw [List.append_assoc, List.singleton_append]
      exact entered (name :: upper) (List.cons_ne_nil _ _) (List.cons_prefix_cons.mpr ⟨rfl, front⟩)

/-- Directories below each other are led to, from one that is. -/
theorem LeadsTo.below (stands : tree.faceAt? standing = some .directory) {reached : List String}
    (leads : LeadsTo tree standing place reached)
    (entered : ∀ upper, upper ≠ [] → upper <+: more →
      tree.faceAt? (reached ++ upper) = some .directory)
    (fits : ∀ name ∈ more, name.utf8ByteSize ≤ longestName) :
    LeadsTo tree standing (place.below more) (reached ++ more) := by
  by_cases none : more = []
  · rw [none, List.append_nil, Place.below, List.append_nil]
    exact leads
  · rcases leads.exists_seek_below stands with ⟨fewer, goesOn⟩
    rcases faceAt?_eq_directory_iff.mp (entered more none List.prefix_rfl) with ⟨members, got⟩
    refine ⟨members, ?_⟩
    have followed := @follow_enter_directories _ _ true fewer _ entered fits []
    rw [List.append_nil, follow_nil, got] at followed
    rw [goesOn true more none, followed]

/-! ## Files below a directory -/

/-- Where a directory is found, the place leads to it. -/
theorem exists_leadsTo_of_find? {members : List (String × Node)} (plain : place.IsPlain)
    (found : tree.find? standing place.text = some (directory members)) :
    refusal? place.text = none ∧
      ∃ reached, LeadsTo tree standing place reached ∧
        tree.get? reached = some (directory members) := by
  by_cases named : place.names = []
  · refine ⟨refusal?_of_unnamed named, ?_⟩
    rcases place with ⟨anchored, names⟩
    subst named
    cases anchored with
    | true =>
        have top : tree.locate standing true (Place.text ⟨true, []⟩) = .ok ⟨[], tree.get? []⟩ := by
          rfl
        rw [find?, top] at found
        refine ⟨[], ⟨members, ?_⟩, found⟩
        rw [seek, List.map_nil, follow_nil]
        exact congrArg (fun node => Except.ok (Spot.mk [] node)) found
    | false =>
        have nowhere : tree.locate standing true (Place.text ⟨false, []⟩) = .error .notFound := by
          rfl
        rw [find?, nowhere] at found
        cases found
  · rw [find?, locate_text_of_plain plain named] at found
    cases accepted : refusal? place.text with
    | some cause => rw [accepted] at found; cases found
    | none =>
        rw [accepted] at found
        cases sought : tree.seek standing true place with
        | error cause => rw [sought] at found; cases found
        | ok spot =>
            rcases spot with ⟨reached, node⟩
            rw [sought] at found
            cases found
            exact ⟨rfl, reached, ⟨members, sought⟩, (follow_node _ _ _ _ sought).symm⟩

/-- A file below a directory is reached from each place that leads to the directory. -/
theorem LeadsTo.seek_file (stands : tree.faceAt? standing = some .directory) {reached : List String}
    (leads : LeadsTo tree standing place reached) (filled : more ≠ []) {content : ByteArray}
    {executable : Bool} (got : tree.get? (reached ++ more) = some (file content executable))
    (fits : ∀ name ∈ more, name.utf8ByteSize ≤ longestName) :
    tree.seek standing true (place.below more) =
      .ok ⟨reached ++ more, some (file content executable)⟩ := by
  rcases List.eq_nil_or_concat more with none | ⟨above, name, split⟩
  · exact absurd none filled
  · rw [List.concat_eq_append] at split
    subst split
    rcases List.forall_mem_append.mp fits with ⟨fitsAbove, fitsName⟩
    have entered : ∀ upper, upper ≠ [] → upper <+: above →
        tree.faceAt? (reached ++ upper) = some .directory := by
      rintro upper _ ⟨rest, rfl⟩
      rw [List.append_assoc, ← List.append_assoc reached] at got
      exact faceAt?_above (List.append_ne_nil_of_right_ne_nil rest (List.cons_ne_nil name [])) got
    rcases leads.exists_seek_below stands with ⟨fewer, goesOn⟩
    rw [goesOn true _ filled, List.map_append, List.map_singleton,
      follow_enter_directories entered fitsAbove, follow_enter_of_file (fitsName name (by simp))
      (by rw [List.append_assoc]; exact got), List.append_assoc]
    rfl

end Node

end Workbench
