import Workbench.Proofs.Path.Segments
import Workbench.Proofs.Tree.Access
import Workbench.Tree.Change
namespace Workbench

/-!
# Trees without links

Without links the text of a place leads along the place's own names.  What comes
of it is said here by a descent: a function of one node and the names below it,
which knows nothing of the rest of the tree.  A descent through a directory that
is there depends only on what that directory holds, and this is what confines
reading.
-/

namespace Node

/-- Goes down along names.  There is a result without a node if only the last
name is missing. -/
def descend : Node → List String → Except Cause (Option Node)
  | node, [] => .ok (some node)
  | .directory members, name :: rest =>
    if name.utf8ByteSize > longestName then .error .nameTooLong
    else
      match Entry.find? name members with
      | some child => child.descend rest
      | none => if rest.isEmpty then .ok none else .error .notFound
  | _, _ :: _ => .error .notADirectory

/-- Why the text of a path is refused before any node is looked at. -/
def refusal? (path : String) : Option Cause :=
  if path.toList.contains '\x00' then some .zeroInName
  else if pathLimit ≤ path.utf8ByteSize then some .nameTooLong
  else none

/-! ## The outcomes of a descent -/

@[simp] theorem descend_nil (node : Node) : node.descend [] = .ok (some node) := by
  cases node <;> rfl

theorem get?_of_descend_some {node found : Node} {names : List String}
    (reached : node.descend names = .ok (some found)) : node.get? names = some found := by
  induction names generalizing node with
  | nil =>
      rw [descend_nil] at reached
      rw [get?_nil, Option.some.inj (Except.ok.inj reached)]
  | cons name rest inductionHypothesis =>
      cases node with
      | file content executable => cases reached
      | link target => cases reached
      | directory members =>
          rw [descend] at reached
          split at reached
          · cases reached
          · cases held : Entry.find? name members with
            | some child =>
                rw [held] at reached
                rw [get?_directory_cons, held, Option.bind_some]
                exact inductionHypothesis reached
            | none =>
                rw [held] at reached
                revert reached
                cases rest.isEmpty <;> exact fun impossible => nomatch impossible

/-- A descent that misses only its last name ends in an existing directory. -/
theorem exists_holder_of_descend_none {node : Node} {names : List String}
    (reached : node.descend names = .ok none) :
    ∃ above name members, names = above ++ [name] ∧
      node.get? above = some (directory members) ∧ Entry.find? name members = none := by
  induction names generalizing node with
  | nil => rw [descend_nil] at reached; cases reached
  | cons name rest inductionHypothesis =>
      cases node with
      | file content executable => cases reached
      | link target => cases reached
      | directory members =>
          rw [descend] at reached
          split at reached
          · cases reached
          · cases held : Entry.find? name members with
            | some child =>
                rw [held] at reached
                obtain ⟨above, last, listed, split, holder, free⟩ := inductionHypothesis reached
                refine ⟨name :: above, last, listed, by rw [split, List.cons_append], ?_, free⟩
                rw [get?_directory_cons, held, Option.bind_some, holder]
            | none =>
                rw [held] at reached
                cases rest with
                | nil => exact ⟨[], name, members, rfl, get?_nil _, held⟩
                | cons next later => cases reached

/-- A descent to a node that is there goes on from that node, unless a name on
the way is too long for any directory. -/
theorem descend_append {node within : Node} {above : List String}
    (reached : node.get? above = some within) (below : List String) :
    node.descend (above ++ below) =
      if above.any (fun name => longestName < name.utf8ByteSize) then .error .nameTooLong
      else within.descend below := by
  induction above generalizing node with
  | nil =>
      rw [get?_nil, Option.some.injEq] at reached
      rw [reached]
      rfl
  | cons name rest inductionHypothesis =>
      obtain ⟨listed, same⟩ := exists_members_of_get?_cons reached
      subst same
      rw [List.cons_append, descend, List.any_cons]
      by_cases long : name.utf8ByteSize > longestName
      · rw [if_pos long, decide_eq_true long, Bool.true_or, if_pos rfl]
      · rw [if_neg long, decide_eq_false long, Bool.false_or]
        rw [get?_directory_cons] at reached
        cases held : Entry.find? name listed with
        | none => rw [held] at reached; cases reached
        | some child =>
            rw [held, Option.bind_some] at reached
            exact inductionHypothesis reached

/-- Whether a node that is there can be reached depends on its names only. -/
theorem descend_of_get? {node found : Node} {names : List String}
    (got : node.get? names = some found) :
    node.descend names =
      if names.any (fun name => longestName < name.utf8ByteSize) then .error .nameTooLong
      else .ok (some found) := by
  have reached := descend_append got []
  rwa [List.append_nil, descend_nil] at reached

/-! ## Following in a tree without links -/

theorem Linkless.get?_ne_link {tree : Node} (linkless : tree.Linkless) (names : List String)
    (target : String) : tree.get? names ≠ some (link target) := by
  intro got
  exact linkless names target (by rw [faceAt?, got]; rfl)

/-- Entering names one after the other is a descent. -/
theorem followWith_enter {tree : Node} (linkless : tree.Linkless) (through : Bool)
    (onLink : List String → List Step → Except Cause Spot) (names above : List String)
    {members : List (String × Node)} (reached : tree.get? above = some (directory members)) :
    tree.followWith through onLink above (names.map Step.enter) =
      ((directory members).descend names).map (fun node => ⟨above ++ names, node⟩) := by
  induction names generalizing above members with
  | nil =>
      rw [List.map_nil, followWith, reached, List.append_nil]
      rfl
  | cons name rest inductionHypothesis =>
      rw [List.map_cons, followWith, descend]
      by_cases long : name.utf8ByteSize > longestName
      · rw [if_pos long, if_pos long]
        rfl
      · rw [if_neg long, if_neg long, get?_append_of_get? reached [name], get?_directory_cons]
        have further : above ++ name :: rest = (above ++ [name]) ++ rest := by simp
        cases held : Entry.find? name members with
        | none => cases rest <;> rfl
        | some child =>
            have here : tree.get? (above ++ [name]) = some child := by
              rw [get?_append_of_get? reached [name], get?_directory_cons, held, Option.bind_some,
                get?_nil]
            rw [Option.bind_some, get?_nil]
            cases child with
            | file content executable => cases rest <;> rfl
            | link target => exact absurd here (linkless.get?_ne_link _ target)
            | directory inner =>
                rw [further]
                exact inductionHypothesis (above ++ [name]) here

/-- Where the text of a place leads: to the place's names, as far as they go. -/
theorem locate_text {tree : Node} (linkless : tree.Linkless) {members : List (String × Node)}
    (top : tree = directory members) (standing : List String) (through : Bool) {place : Place}
    (anchored : place.anchored = true) (plain : ∀ name ∈ place.names, Path.Plain name) :
    tree.locate standing through place.text =
      match refusal? place.text with
      | some cause => .error cause
      | none => (tree.descend place.names).map (fun node => ⟨place.names, node⟩) := by
  have written : place.text.isEmpty = false := by
    rw [String.isEmpty_eq_false_iff]
    intro empty
    have impossible := Place.toList_text anchored
    rw [empty] at impossible
    cases impossible
  have atTop : tree.get? [] = some (directory members) := by rw [get?_nil, top]
  have entered : tree.follow through linkLimit [] (Step.ofPath place.text) =
      (tree.descend place.names).map (fun node => ⟨place.names, node⟩) := by
    rw [Place.steps_text anchored plain, linkLimit, follow, followWith]
    by_cases none : place.names = []
    · rw [if_pos none, none, followWith, followWith, atTop, descend_nil, top]
      rfl
    · rw [if_neg none, followWith_enter linkless through _ place.names [] atTop, top]
      rfl
  rw [locate, written, Place.isAbsolute_text anchored, refusal?]
  by_cases zero : place.text.toList.contains '\x00' = true
  · rw [if_pos zero, if_pos zero]
  · rw [if_neg zero, if_neg zero, if_neg Bool.false_ne_true]
    by_cases long : pathLimit ≤ place.text.utf8ByteSize
    · rw [if_pos long, if_pos long]
    · rw [if_neg long, if_neg long]
      exact entered

end Node

end Workbench
