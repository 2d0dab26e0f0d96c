import Workbench.Proofs.Path.Lexical
import Workbench.Proofs.Tree.Following
import Workbench.Proofs.Tree.Linkless
namespace Workbench

/-!
# Passing through a directory on the way

The links on a path may lead anywhere, and how many of them can still be followed is counted.  So
what the end of a path comes to seems to depend on how its start has been followed.  It does so in
two respects only: where the start leads, and how many links it has used up.  Steps from a
directory either lead to a directory, and then all steps behind them are taken from there, or no
step can be taken behind them.  This cuts a path in two at any name.

The second half compares two trees.  Where a tree has what another one has, a path that leads
somewhere in the other one leads there again.  A free name is the exception, because a link that
stands there now is followed.
-/

namespace Node

variable {tree before after : Node} {through : Bool} {left : Nat} {names : List String}
  {name : String} {steps rest : List Step}

/-! ## One step at a time -/

theorem follow_nil (tree : Node) (through : Bool) (left : Nat) (names : List String) :
    tree.follow through left names [] = .ok ⟨names, tree.get? names⟩ := by
  cases left <;> rfl

theorem follow_stay (tree : Node) (through : Bool) (left : Nat) (names : List String)
    (rest : List Step) :
    tree.follow through left names (.stay :: rest) = tree.follow through left names rest := by
  cases left <;> rfl

theorem follow_up (tree : Node) (through : Bool) (left : Nat) (names : List String)
    (rest : List Step) :
    tree.follow through left names (.up :: rest) =
      tree.follow through left names.dropLast rest := by
  cases left <;> rfl

theorem follow_enter_of_long (long : longestName < name.utf8ByteSize) :
    tree.follow through left names (.enter name :: rest) = .error .nameTooLong := by
  cases left <;> rw [follow, followWith, if_pos long]

theorem follow_enter_of_none (fits : name.utf8ByteSize ≤ longestName)
    (absent : tree.get? (names ++ [name]) = none) :
    tree.follow through left names (.enter name :: rest) =
      if rest.isEmpty then .ok ⟨names ++ [name], none⟩ else .error .notFound := by
  cases left <;> rw [follow, followWith, if_neg (Nat.not_lt.mpr fits), absent]

theorem follow_enter_of_directory (fits : name.utf8ByteSize ≤ longestName)
    {members : List (String × Node)}
    (got : tree.get? (names ++ [name]) = some (directory members)) :
    tree.follow through left names (.enter name :: rest) =
      tree.follow through left (names ++ [name]) rest := by
  cases left <;> rw [follow, followWith, if_neg (Nat.not_lt.mpr fits), got] <;> rfl

theorem follow_enter_of_file (fits : name.utf8ByteSize ≤ longestName) {content : ByteArray}
    {executable : Bool} (got : tree.get? (names ++ [name]) = some (file content executable)) :
    tree.follow through left names (.enter name :: rest) =
      if rest.isEmpty then .ok ⟨names ++ [name], some (file content executable)⟩
      else .error .notADirectory := by
  cases left <;> rw [follow, followWith, if_neg (Nat.not_lt.mpr fits), got]

/-- Where the target of a link is followed from, if the link stands in the directory with the given
names. -/
def onward (target : String) (names : List String) : List String :=
  if Path.isAbsolute target.toList then [] else names

/-- A last link is an end for a reader that does not look through it. -/
theorem follow_enter_of_last_link (fits : name.utf8ByteSize ≤ longestName) {target : String}
    (got : tree.get? (names ++ [name]) = some (link target)) :
    tree.follow false left names [.enter name] = .ok ⟨names ++ [name], some (link target)⟩ := by
  cases left <;> rw [follow, followWith, if_neg (Nat.not_lt.mpr fits), got] <;> rfl

/-- A reader that does not look through links finds whatever stands at the last name. -/
theorem follow_enter_last (fits : name.utf8ByteSize ≤ longestName) :
    tree.follow false left names [.enter name] =
      .ok ⟨names ++ [name], tree.get? (names ++ [name])⟩ := by
  cases got : tree.get? (names ++ [name]) with
  | none => rw [follow_enter_of_none fits got]; rfl
  | some node =>
      cases node with
      | file content executable => rw [follow_enter_of_file fits got]; rfl
      | directory members => rw [follow_enter_of_directory fits got, follow_nil, got]
      | link target => rw [follow_enter_of_last_link fits got]

/-- Any other link is followed, if it leads anywhere and the number of links is not used up. -/
theorem follow_enter_of_link (fits : name.utf8ByteSize ≤ longestName) {target : String}
    (got : tree.get? (names ++ [name]) = some (link target))
    (followed : rest ≠ [] ∨ through = true) :
    tree.follow through left names (.enter name :: rest) =
      if target.isEmpty then .error .notFound
      else
        match left with
        | 0 => .error .tooManyLinks
        | fewer + 1 =>
          tree.follow through fewer (onward target names) (Step.ofPath target ++ rest) := by
  have goes : (rest.isEmpty && !through) = false := by
    rcases followed with more | looks
    · rw [List.isEmpty_eq_false_iff.mpr more, Bool.false_and]
    · rw [looks, Bool.not_true, Bool.and_false]
  cases left with
  | zero =>
      rw [follow, followWith, if_neg (Nat.not_lt.mpr fits), got]
      simp only [goes, Bool.false_eq_true, if_false]
  | succ fewer =>
      rw [follow, followWith, if_neg (Nat.not_lt.mpr fits), got]
      simp only [goes, Bool.false_eq_true, if_false]
      rfl

/-- What holds at the end of a path holds along it, if it is handed on by every step: to a
directory that is entered, and to the target of a link, for which one link fewer is left. -/
@[elab_as_elim]
theorem follow_induction (tree : Node) {motive : Nat → List String → List Step → Prop}
    (nil : ∀ left names, motive left names [])
    (stay : ∀ left names rest, motive left names rest → motive left names (.stay :: rest))
    (up : ∀ left names rest, motive left names.dropLast rest → motive left names (.up :: rest))
    (enter : ∀ left names name rest,
      (∀ members, tree.get? (names ++ [name]) = some (directory members) →
        motive left (names ++ [name]) rest) →
      (∀ fewer target, left = fewer + 1 → tree.get? (names ++ [name]) = some (link target) →
        motive fewer (onward target names) (Step.ofPath target ++ rest)) →
      motive left names (.enter name :: rest))
    (left : Nat) (names : List String) (steps : List Step) : motive left names steps := by
  induction left using Nat.strongRecOn generalizing names steps with
  | ind left fewerLinks =>
      induction steps generalizing names with
      | nil => exact nil left names
      | cons step rest inductionHypothesis =>
          cases step with
          | stay => exact stay left names rest (inductionHypothesis names)
          | up => exact up left names rest (inductionHypothesis names.dropLast)
          | enter name =>
              refine enter left names name rest
                (fun _ _ => inductionHypothesis (names ++ [name])) ?_
              intro fewer target count _
              exact fewerLinks fewer (by omega) _ _

/-! ## Directories on the way -/

/-- The directory above a directory is one. -/
theorem faceAt?_dropLast (stands : tree.faceAt? names = some .directory) :
    tree.faceAt? names.dropLast = some .directory := by
  rcases List.eq_nil_or_concat names with none | ⟨above, name, last⟩
  · rw [none] at stands ⊢
    exact stands
  · rw [List.concat_eq_append] at last
    subst last
    rcases faceAt?_eq_directory_iff.mp stands with ⟨members, got⟩
    rcases exists_holder_of_get? got with ⟨listed, holder, _⟩
    rw [List.dropLast_concat]
    exact faceAt?_eq_directory_iff.mpr ⟨listed, holder⟩

/-- So is the one from which the target of a link is followed. -/
theorem faceAt?_onward (stands : tree.faceAt? names = some .directory) (target : String) :
    tree.faceAt? (onward target names) = some .directory := by
  unfold onward
  split
  · rcases faceAt?_eq_directory_iff.mp stands with ⟨members, got⟩
    have top := get?_append tree [] names
    rw [List.nil_append, got, get?_nil, Option.bind_some] at top
    cases names with
    | nil => exact stands
    | cons name rest =>
        rcases exists_members_of_get?_cons top.symm with ⟨listed, same⟩
        rw [same]
        rfl
  · exact stands

/-- The steps lead to a directory, and whatever steps come behind them are taken from there. -/
structure Passes (tree : Node) (left : Nat) (names : List String) (steps : List Step)
    (fewer : Nat) (reached : List String) : Prop where
  stands : tree.faceAt? reached = some .directory
  arrives : tree.follow true left names steps = .ok ⟨reached, tree.get? reached⟩
  goesOn : ∀ through more, more ≠ [] →
    tree.follow through left names (steps ++ more) = tree.follow through fewer reached more

/-- The steps do not lead to a directory, and no steps can be taken behind them. -/
structure Blocked (tree : Node) (left : Nat) (names : List String) (steps : List Step)
    (cause : Cause) : Prop where
  misses : ∀ reached members,
    tree.follow true left names steps ≠ .ok ⟨reached, some (directory members)⟩
  ends : ∀ through more, more ≠ [] →
    tree.follow through left names (steps ++ more) = .error cause

/-- One of the two. -/
def Settled (tree : Node) (left : Nat) (names : List String) (steps : List Step) : Prop :=
  (∃ fewer reached, Passes tree left names steps fewer reached) ∨
    ∃ cause, Blocked tree left names steps cause

/-- A step that hands on to other steps leaves it to them. -/
theorem Settled.of_step {fewer : Nat} {next : List String} {later : List Step}
    (settled : Settled tree fewer next later)
    (step : ∀ through more, more ≠ [] ∨ through = true →
      tree.follow through left names (steps ++ more) =
        tree.follow through fewer next (later ++ more)) : Settled tree left names steps := by
  have here := step true [] (Or.inr rfl)
  rw [List.append_nil, List.append_nil] at here
  rcases settled with ⟨last, reached, passes⟩ | ⟨cause, blocked⟩
  · refine Or.inl ⟨last, reached, passes.stands, here.trans passes.arrives, ?_⟩
    intro through more filled
    exact (step through more (Or.inl filled)).trans (passes.goesOn through more filled)
  · refine Or.inr ⟨cause, ?_, ?_⟩
    · intro reached members same
      exact blocked.misses reached members (here.symm.trans same)
    · intro through more filled
      exact (step through more (Or.inl filled)).trans (blocked.ends through more filled)

/-- A step behind which nothing can be taken. -/
theorem settled_of_error {cause : Cause}
    (step : ∀ through more, more ≠ [] ∨ through = true →
      tree.follow through left names (steps ++ more) = .error cause) :
    Settled tree left names steps := by
  refine Or.inr ⟨cause, ?_, fun through more filled => step through more (Or.inl filled)⟩
  intro reached members same
  have here := step true [] (Or.inr rfl)
  rw [List.append_nil, same] at here
  cases here

/-- A step that is the last one or else fails, and does not lead to a directory. -/
theorem settled_of_end {cause : Cause} {spot : Spot}
    (step : ∀ through more, tree.follow through left names (.enter name :: rest ++ more) =
      if (rest ++ more).isEmpty then .ok spot else .error cause)
    (other : ∀ members, spot.node ≠ some (directory members)) :
    Settled tree left names (.enter name :: rest) := by
  refine Or.inr ⟨cause, ?_, ?_⟩
  · intro reached members same
    have here := step true []
    rw [List.append_nil, same] at here
    split at here
    · rw [← Except.ok.inj here] at other
      exact other members rfl
    · cases here
  · intro through more filled
    rw [step, if_neg]
    rw [List.isEmpty_iff]
    exact fun none => filled (List.append_eq_nil_iff.mp none).2

/-- Steps from a directory either lead to a directory, through which other steps can go on, or
nothing can be reached behind them. -/
theorem settled_of_stands (stands : tree.faceAt? names = some .directory) :
    Settled tree left names steps := by
  induction left, names, steps using follow_induction tree with
  | nil left names =>
      exact Or.inl ⟨left, names, stands, follow_nil tree true left names, fun _ _ _ => rfl⟩
  | stay left names rest inductionHypothesis =>
      exact (inductionHypothesis stands).of_step
        (fun through more _ => follow_stay tree through left names (rest ++ more))
  | up left names rest inductionHypothesis =>
      exact (inductionHypothesis (faceAt?_dropLast stands)).of_step
        (fun through more _ => follow_up tree through left names (rest ++ more))
  | enter left names name rest inside linked =>
      by_cases long : longestName < name.utf8ByteSize
      · exact settled_of_error (fun _ _ _ => follow_enter_of_long long)
      · have fits := Nat.not_lt.mp long
        cases got : tree.get? (names ++ [name]) with
        | none =>
            exact settled_of_end (fun _ _ => follow_enter_of_none fits got)
              (fun members same => nomatch same)
        | some node =>
            cases node with
            | file content executable =>
                exact settled_of_end (fun _ _ => follow_enter_of_file fits got)
                  (fun members same => nomatch same)
            | directory members =>
                have within : tree.faceAt? (names ++ [name]) = some .directory :=
                  faceAt?_eq_directory_iff.mpr ⟨members, got⟩
                exact (inside members got within).of_step
                  (fun _ _ _ => follow_enter_of_directory fits got)
            | link target =>
                have followed : ∀ (through : Bool) (more : List Step), more ≠ [] ∨ through = true →
                    rest ++ more ≠ [] ∨ through = true := by
                  rintro through more (filled | looks)
                  · exact Or.inl (fun none => filled (List.append_eq_nil_iff.mp none).2)
                  · exact Or.inr looks
                have step := fun through more filled =>
                  @follow_enter_of_link tree through left _ _ (rest ++ more) fits _ got
                    (followed through more filled)
                by_cases empty : target.isEmpty = true
                · simp only [if_pos empty] at step
                  exact settled_of_error step
                · simp only [if_neg empty] at step
                  cases left with
                  | zero => exact settled_of_error step
                  | succ fewer =>
                      refine (linked fewer target rfl got (faceAt?_onward stands target)).of_step ?_
                      intro through more filled
                      rw [List.append_assoc]
                      exact step through more filled

/-! ## A tree that has what another one has -/

/-- Whatever stands in the earlier tree stands in the later one. -/
def Keeps (before after : Node) : Prop :=
  ∀ names face, before.faceAt? names = some face → after.faceAt? names = some face

theorem get?_of_faceAt?_link {target : String}
    (seen : tree.faceAt? names = some (.link target)) : tree.get? names = some (link target) := by
  rw [faceAt?, Option.map_eq_some_iff] at seen
  rcases seen with ⟨found, got, same⟩
  cases found with
  | file content executable => cases same
  | link other => rw [got, Face.link.inj same]
  | directory members => cases same

/-- What is reached in the earlier tree is reached in the later one, and so is a free name, unless
a link stands there now. -/
theorem follow_of_keeps (keeps : Keeps before after) {spot : Spot}
    (reached : before.follow through left names steps = .ok spot)
    (unlinked : spot.node = none → ∀ target, after.get? spot.names ≠ some (link target)) :
    after.follow through left names steps = .ok ⟨spot.names, after.get? spot.names⟩ := by
  induction left, names, steps using follow_induction before with
  | nil left names =>
      rw [follow_nil] at reached ⊢
      rw [← Except.ok.inj reached]
  | stay left names rest inductionHypothesis =>
      rw [follow_stay] at reached ⊢
      exact inductionHypothesis reached
  | up left names rest inductionHypothesis =>
      rw [follow_up] at reached ⊢
      exact inductionHypothesis reached
  | enter left names name rest inside linked =>
      by_cases long : longestName < name.utf8ByteSize
      · rw [follow_enter_of_long long] at reached
        cases reached
      · have fits := Nat.not_lt.mp long
        cases got : before.get? (names ++ [name]) with
        | none =>
            rw [follow_enter_of_none fits got] at reached
            split at reached
            · rename_i last
              rw [← Except.ok.inj reached] at unlinked ⊢
              rw [List.isEmpty_iff.mp last]
              cases now : after.get? (names ++ [name]) with
              | none => rw [follow_enter_of_none fits now]; rfl
              | some node =>
                  cases node with
                  | file content executable => rw [follow_enter_of_file fits now]; rfl
                  | directory members => rw [follow_enter_of_directory fits now, follow_nil, now]
                  | link target => exact absurd now (unlinked rfl target)
            · cases reached
        | some node =>
            have kept := keeps (names ++ [name]) node.face (by rw [faceAt?, got]; rfl)
            cases node with
            | file content executable =>
                have still := get?_of_faceAt?_file kept
                rw [follow_enter_of_file fits got] at reached
                rw [follow_enter_of_file fits still]
                split at reached
                · rename_i last
                  rw [← Except.ok.inj reached, still, if_pos last]
                · cases reached
            | directory members =>
                rcases faceAt?_eq_directory_iff.mp kept with ⟨others, still⟩
                rw [follow_enter_of_directory fits got] at reached
                rw [follow_enter_of_directory fits still]
                exact inside members got reached
            | link target =>
                have still := get?_of_faceAt?_link kept
                by_cases followed : rest ≠ [] ∨ through = true
                · rw [follow_enter_of_link fits got followed] at reached
                  rw [follow_enter_of_link fits still followed]
                  split at reached
                  · cases reached
                  · rename_i leads
                    rw [if_neg leads]
                    cases left with
                    | zero => cases reached
                    | succ fewer => exact linked fewer target rfl got reached
                · rw [not_or, not_not, Bool.not_eq_true] at followed
                  rcases followed with ⟨last, stops⟩
                  subst last stops
                  rw [follow_enter_of_last_link fits got] at reached
                  rw [follow_enter_of_last_link fits still, ← Except.ok.inj reached, still]

/-- A free name that is reached is the name of no member of a directory that is there. -/
theorem exists_holder_of_follow_none (stands : tree.faceAt? names = some .directory)
    {free : List String} (reached : tree.follow through left names steps = .ok ⟨free, none⟩) :
    ∃ above name members, free = above ++ [name] ∧ tree.get? above = some (directory members) ∧
      Entry.find? name members = none := by
  induction left, names, steps using follow_induction tree with
  | nil left names =>
      rcases faceAt?_eq_directory_iff.mp stands with ⟨members, got⟩
      rw [follow_nil, got] at reached
      cases reached
  | stay left names rest inductionHypothesis =>
      rw [follow_stay] at reached
      exact inductionHypothesis stands reached
  | up left names rest inductionHypothesis =>
      rw [follow_up] at reached
      exact inductionHypothesis (faceAt?_dropLast stands) reached
  | enter left names name rest inside linked =>
      by_cases long : longestName < name.utf8ByteSize
      · rw [follow_enter_of_long long] at reached
        cases reached
      · have fits := Nat.not_lt.mp long
        cases got : tree.get? (names ++ [name]) with
        | none =>
            rw [follow_enter_of_none fits got] at reached
            split at reached
            · cases reached
              rcases faceAt?_eq_directory_iff.mp stands with ⟨members, holder⟩
              refine ⟨names, name, members, rfl, holder, ?_⟩
              rw [get?_append_of_get? holder, get?_directory_cons] at got
              cases found : Entry.find? name members with
              | none => rfl
              | some child => rw [found, Option.bind_some, get?_nil] at got; cases got
            · cases reached
        | some node =>
            cases node with
            | file content executable =>
                rw [follow_enter_of_file fits got] at reached
                split at reached
                · cases reached
                · cases reached
            | directory members =>
                rw [follow_enter_of_directory fits got] at reached
                exact inside members got (faceAt?_eq_directory_iff.mpr ⟨members, got⟩) reached
            | link target =>
                by_cases followed : rest ≠ [] ∨ through = true
                · rw [follow_enter_of_link fits got followed] at reached
                  split at reached
                  · cases reached
                  · cases left with
                    | zero => cases reached
                    | succ fewer =>
                        exact linked fewer target rfl got (faceAt?_onward stands target) reached
                · rw [not_or, not_not, Bool.not_eq_true] at followed
                  rcases followed with ⟨last, stops⟩
                  subst last stops
                  rw [follow_enter_of_last_link fits got] at reached
                  cases reached

end Node

end Workbench
