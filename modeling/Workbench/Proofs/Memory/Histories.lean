import Workbench.Proofs.Memory.Sharing
import Workbench.Proofs.Tool.Reach
import Mathlib.Data.List.Induction
namespace Workbench

/-!
# Histories of a memory

Any number of callers set, read, remove and list variables in any order.  What a caller is
answered can be told from the history alone: a variable holds a value if the last move on it
was a set to this value, where only the moves of callers count that share their variables
with this one.  Everybody else's moves are as good as not made.

The memory is one map from stores and workspaces to variables, in which a workspace without
variables and one that was never written are the same.  A store that keeps its workspaces in
a table of their own can tell the two apart.  The last part of the main statement is that no
answer does.
-/

/-- What a caller may do with its variables. -/
inductive Access where
  | set (key value : String)
  | get (key : String)
  | remove (key : String)
  | snapshot
  deriving DecidableEq, Repr

/-- One move of a history. -/
structure Move where
  caller : Environment
  access : Access

namespace Access

inductive Answer where
  | done
  | value (found : Option String)
  | all (bindings : Dictionary String)

def perform (caller : Environment) (access : Access) (world : World) : Answer × World :=
  match access with
  | set key value => (.done, caller.setVariable world key value)
  | get key => (.value (caller.value? world key), world)
  | remove key => (.value (caller.value? world key), caller.removeVariable world key)
  | snapshot => (.all (caller.bindings world), world)

end Access

namespace Move

open Access (Answer perform)

/-- Makes the moves one after the other, and lists what they answer. -/
def performAll : List Move → World → List Answer × World
  | [], world => ([], world)
  | move :: others, world =>
    let (answer, after) := perform move.caller move.access world
    let (answers, final) := performAll others after
    (answer :: answers, final)

/-! ## What a history says -/

/-- The move sets or removes a variable that this caller sees. -/
def Changes (move : Move) (caller : Environment) (key : String) : Prop :=
  move.caller.Shares caller ∧
    ((∃ value, move.access = .set key value) ∨ move.access = .remove key)

/-- By its history, oldest move first, this variable of the caller holds this value. -/
def Holds (history : List Move) (caller : Environment) (key value : String) : Prop :=
  ∃ earlier move later, history = earlier ++ move :: later ∧ move.caller.Shares caller ∧
    move.access = .set key value ∧ ∀ other ∈ later, ¬ other.Changes caller key

/-- What a move should answer after this history. -/
def Meets (history : List Move) (move : Move) (answer : Answer) : Prop :=
  match move.access with
  | .set _ _ => answer = .done
  | .get key | .remove key =>
    ∃ found, answer = .value found ∧
      ∀ value, found = some value ↔ Holds history move.caller key value
  | .snapshot =>
    ∃ bindings, answer = .all bindings ∧ Entry.Ordered bindings.entries ∧
      ∀ key value, (key, value) ∈ bindings.entries ↔ Holds history move.caller key value

variable {history : List Move} {move : Move} {caller : Environment} {key value : String}

theorem not_holds_nil (caller : Environment) (key value : String) :
    ¬ Holds [] caller key value := by
  rintro ⟨earlier, move, later, split, _⟩
  cases earlier <;> cases split

/-- After a change only that change counts. -/
theorem holds_concat_of_changes (changes : move.Changes caller key) :
    Holds (history ++ [move]) caller key value ↔ move.access = .set key value := by
  constructor
  · rintro ⟨earlier, last, later, split, _, sets, untouched⟩
    rcases List.eq_nil_or_concat later with none | ⟨front, final, shape⟩
    · rw [none] at split
      rw [(List.append_inj' split rfl).2 |> List.cons.inj |> And.left]
      exact sets
    · rw [shape, List.concat_eq_append, ← List.cons_append, ← List.append_assoc] at split
      have same := (List.cons.inj (List.append_inj' split rfl).2).1
      refine absurd (same ▸ changes) (untouched final ?_)
      rw [shape, List.concat_eq_append]
      exact List.mem_append_right front List.mem_cons_self
  · intro sets
    exact ⟨history, move, [], rfl, changes.1, sets, fun other member => nomatch member⟩

/-- A move that changes nothing for this caller leaves what the history says. -/
theorem holds_concat_of_not_changes (idle : ¬ move.Changes caller key) :
    Holds (history ++ [move]) caller key value ↔ Holds history caller key value := by
  constructor
  · rintro ⟨earlier, last, later, split, shared, sets, untouched⟩
    rcases List.eq_nil_or_concat later with none | ⟨front, final, shape⟩
    · rw [none] at split
      have same := (List.cons.inj (List.append_inj' split rfl).2).1
      exact absurd ⟨same ▸ shared, Or.inl ⟨value, same ▸ sets⟩⟩ idle
    · rw [shape, List.concat_eq_append, ← List.cons_append, ← List.append_assoc] at split
      refine ⟨earlier, last, front, (List.append_inj' split rfl).1, shared, sets, ?_⟩
      intro other member
      apply untouched other
      rw [shape, List.concat_eq_append]
      exact List.mem_append_left [final] member
  · rintro ⟨earlier, last, later, split, shared, sets, untouched⟩
    refine ⟨earlier, last, later ++ [move], ?_, shared, sets, ?_⟩
    · rw [split, List.append_assoc, List.cons_append]
    · intro other member
      rcases List.mem_append.mp member with before | new
      · exact untouched other before
      · rw [List.mem_singleton.mp new]
        exact idle

/-! ## What a move does -/

/-- Others do not see the move at all. -/
theorem bindings_perform_of_apart (apart : ¬ move.caller.Shares caller) (world : World) :
    caller.bindings (perform move.caller move.access world).2 = caller.bindings world := by
  cases move.access with
  | set key value => exact Environment.bindings_withBindings_of_apart apart world _
  | get key => rfl
  | remove key => exact Environment.bindings_withBindings_of_apart apart world _
  | snapshot => rfl

theorem value?_perform_of_not_changes (idle : ¬ move.Changes caller key) (world : World) :
    caller.value? (perform move.caller move.access world).2 key = caller.value? world key := by
  by_cases shared : move.caller.Shares caller
  · cases made : move.access with
    | set name value =>
        have different : key ≠ name := by
          intro same
          exact idle ⟨shared, Or.inl ⟨value, same ▸ made⟩⟩
        exact Environment.value?_setVariable_of_ne different move.caller caller world value
    | get name => rfl
    | remove name =>
        have different : key ≠ name := by
          intro same
          exact idle ⟨shared, Or.inr (same ▸ made)⟩
        simp only [perform]
        rw [Environment.value?_removeVariable_of_shares shared, if_neg different]
    | snapshot => rfl
  · rw [Environment.value?, bindings_perform_of_apart shared, Environment.value?]

theorem value?_perform_of_changes (changes : move.Changes caller key) (world : World) :
    caller.value? (perform move.caller move.access world).2 key = some value ↔
      move.access = .set key value := by
  rcases changes with ⟨shared, ⟨given, made⟩ | made⟩
  · simp only [made, perform]
    rw [Environment.value?_setVariable_of_shares shared, if_pos rfl]
    simp
  · simp only [made, perform]
    rw [Environment.value?_removeVariable_of_shares shared, if_pos rfl]
    simp

/-! ## What a run does -/

theorem performAll_cons (move : Move) (others : List Move) (world : World) :
    performAll (move :: others) world =
      ((perform move.caller move.access world).1 ::
          (performAll others (perform move.caller move.access world).2).1,
        (performAll others (perform move.caller move.access world).2).2) := rfl

theorem performAll_append (first second : List Move) (world : World) :
    performAll (first ++ second) world =
      ((performAll first world).1 ++ (performAll second (performAll first world).2).1,
        (performAll second (performAll first world).2).2) := by
  induction first generalizing world with
  | nil => rfl
  | cons move others inductionHypothesis =>
      rw [List.cons_append, performAll_cons, inductionHypothesis, performAll_cons]
      rfl

theorem length_performAll (history : List Move) (world : World) :
    (performAll history world).1.length = history.length := by
  induction history generalizing world with
  | nil => rfl
  | cons move others inductionHypothesis =>
      rw [performAll_cons, List.length_cons, inductionHypothesis, List.length_cons]

/-- After any history, a variable holds just what the history says. -/
theorem value?_performAll_iff (tree : Node) (history : List Move) (caller : Environment)
    (key value : String) :
    caller.value? (performAll history ⟨tree, Memory.empty⟩).2 key = some value ↔
      Holds history caller key value := by
  induction history using List.reverseRecOn with
  | nil => exact iff_of_false nofun (not_holds_nil caller key value)
  | append_singleton history move inductionHypothesis =>
      rw [performAll_append]
      by_cases changes : move.Changes caller key
      · rw [holds_concat_of_changes changes]
        exact value?_perform_of_changes changes _
      · rw [holds_concat_of_not_changes changes, ← inductionHypothesis]
        exact iff_of_eq (congrArg (· = some value) (value?_perform_of_not_changes changes _))

/-- One more move answers what the history says. -/
theorem meets_perform (tree : Node) (history : List Move) (move : Move) :
    Meets history move
      (perform move.caller move.access (performAll history ⟨tree, Memory.empty⟩).2).1 := by
  have told := value?_performAll_iff tree history move.caller
  cases made : move.access with
  | set key value =>
      simp only [Meets, made]
      rfl
  | get key =>
      simp only [Meets, made]
      exact ⟨_, rfl, told key⟩
  | remove key =>
      simp only [Meets, made]
      exact ⟨_, rfl, told key⟩
  | snapshot =>
      simp only [Meets, made]
      exact ⟨_, rfl, Dictionary.ordered _,
        fun key value => Dictionary.mem_entries_iff.trans (told key value)⟩

end Move

/-! ## Stores in two levels -/

/-- A store that lists its workspaces.  A workspace is listed from the first variable on
that is set in it, and stays listed when no variable is left. -/
abbrev Store := List (List Path.Component × Dictionary String)

namespace Store

open Access (Answer)

def listed? (workspace : List Path.Component) : Store → Option (Dictionary String)
  | [] => none
  | (other, held) :: rest => if workspace = other then some held else listed? workspace rest

/-- Lists these variables for a workspace, in its old place if it has one. -/
def put (workspace : List Path.Component) (bindings : Dictionary String) : Store → Store
  | [] => [(workspace, bindings)]
  | (other, held) :: rest =>
    if workspace = other then (other, bindings) :: rest
    else (other, held) :: put workspace bindings rest

/-- The variables of a workspace, none if it is not listed. -/
def bindings (store : Store) (workspace : List Path.Component) : Dictionary String :=
  (store.listed? workspace).getD Dictionary.empty

/-- An access to numbered stores.  Only a set lists a workspace; removing from one that is
not listed finds nothing. -/
def perform (caller : Environment) (access : Access) (stores : Nat → Store) :
    Answer × (Nat → Store) :=
  let store := stores caller.store
  let workspace := caller.root.components
  match access with
  | .set key value =>
    (.done, Function.update stores caller.store
      (store.put workspace ((store.bindings workspace).insert key value)))
  | .get key => (.value ((store.listed? workspace).bind (·.get? key)), stores)
  | .remove key =>
    match store.listed? workspace with
    | none => (.value none, stores)
    | some held =>
      (.value (held.get? key), Function.update stores caller.store
        (store.put workspace (held.erase key)))
  | .snapshot => (.all (store.bindings workspace), stores)

def performAll : List Move → (Nat → Store) → List Answer × (Nat → Store)
  | [], stores => ([], stores)
  | move :: others, stores =>
    let (answer, after) := perform move.caller move.access stores
    let (answers, final) := performAll others after
    (answer :: answers, final)

/-- The stores hold the variables of this memory. -/
def Represents (stores : Nat → Store) (memory : Memory) : Prop :=
  ∀ number workspace, (stores number).bindings workspace = memory number workspace

theorem bindings_put (store : Store) (workspace other : List Path.Component)
    (changed : Dictionary String) :
    (store.put workspace changed).bindings other =
      if other = workspace then changed else store.bindings other := by
  have listed : (store.put workspace changed).listed? other =
      if other = workspace then some changed else store.listed? other := by
    induction store with
    | nil => simp [put, listed?]
    | cons first rest inductionHypothesis =>
        by_cases here : workspace = first.1
        · rw [put, if_pos here, listed?, listed?, here]
          by_cases same : other = first.1
          · rw [if_pos same, if_pos same]
          · rw [if_neg same, if_neg same, if_neg same]
        · rw [put, if_neg here, listed?, listed?, inductionHypothesis]
          by_cases same : other = first.1
          · rw [if_pos same, if_pos same, if_neg (fun equal => here (equal.symm.trans same))]
          · rw [if_neg same, if_neg same]
  rw [bindings, listed, bindings]
  split <;> rfl

/-- Listing changed variables for a caller's workspace is changing them in the memory. -/
theorem Represents.withBindings {stores : Nat → Store} {world : World}
    (represents : Represents stores world.memory) (caller : Environment)
    (changed : Dictionary String) :
    Represents (Function.update stores caller.store
        ((stores caller.store).put caller.root.components changed))
      (caller.withBindings world changed).memory := by
  intro number workspace
  simp only [Environment.withBindings, Memory.update]
  by_cases sameStore : number = caller.store
  · rw [sameStore, Function.update_self, bindings_put]
    by_cases same : workspace = caller.root.components
    · rw [if_pos same, if_pos ⟨rfl, same⟩]
    · rw [if_neg same, if_neg (fun both => same both.2)]
      exact represents caller.store workspace
  · rw [Function.update_of_ne sameStore, if_neg (fun both => sameStore both.1)]
    exact represents number workspace

/-- Both give the same answer, and the stores keep representing the memory. -/
theorem perform_of_represents {stores : Nat → Store} {world : World}
    (represents : Represents stores world.memory) (caller : Environment) (access : Access) :
    (perform caller access stores).1 = (Access.perform caller access world).1 ∧
      Represents (perform caller access stores).2 (Access.perform caller access world).2.memory := by
  have held : (stores caller.store).bindings caller.root.components = caller.bindings world :=
    represents caller.store caller.root.components
  cases access with
  | set key value =>
      refine ⟨rfl, ?_⟩
      simp only [perform, Access.perform, Environment.setVariable, held]
      exact represents.withBindings caller _
  | get key =>
      refine ⟨?_, represents⟩
      simp only [perform, Access.perform, Environment.value?, ← held, bindings]
      cases (stores caller.store).listed? caller.root.components <;> rfl
  | remove key =>
      cases listed : (stores caller.store).listed? caller.root.components with
      | none =>
          have unlisted : caller.bindings world = Dictionary.empty := by
            rw [← held, bindings, listed]
            rfl
          have unset : caller.value? world key = none := by
            rw [Environment.value?, unlisted]
            rfl
          simp only [perform, listed, Access.perform, unset, true_and]
          rw [caller.removeVariable_of_none unlisted]
          exact represents
      | some found =>
          have same : caller.bindings world = found := by
            rw [← held, bindings, listed]
            rfl
          simp only [perform, listed, Access.perform, Environment.value?,
            Environment.removeVariable, same, true_and]
          exact represents.withBindings caller _
  | snapshot =>
      refine ⟨?_, represents⟩
      simp only [perform, Access.perform, held]

theorem performAll_of_represents (history : List Move) {stores : Nat → Store} {world : World}
    (represents : Represents stores world.memory) :
    (performAll history stores).1 = (Move.performAll history world).1 := by
  induction history generalizing stores world with
  | nil => rfl
  | cons move others inductionHypothesis =>
      obtain ⟨same, after⟩ := perform_of_represents represents move.caller move.access
      rw [Move.performAll_cons, ← same, ← inductionHypothesis after]
      rfl

end Store

/-! ## Answers and histories -/

namespace Move

/-- Every move of every history of new stores is answered by what the moves before it say:
the last change that a caller with the same store and the same root made decides, and all
other callers' moves show nowhere.  Stores in two levels give the same answers. -/
theorem performAll_follows_history (tree : Node) (history : List Move) :
    (performAll history ⟨tree, Memory.empty⟩).1.length = history.length ∧
      (∀ earlier move later, history = earlier ++ move :: later →
        ∃ answer, (performAll history ⟨tree, Memory.empty⟩).1[earlier.length]? = some answer ∧
          Meets earlier move answer) ∧
      (∀ (move : Move) caller, ¬ move.caller.Shares caller →
        ∀ world, caller.bindings (Access.perform move.caller move.access world).2 =
          caller.bindings world) ∧
      (Store.performAll history (fun _ => [])).1 =
        (performAll history ⟨tree, Memory.empty⟩).1 := by
  refine ⟨length_performAll history _, ?_, fun move caller apart world =>
    bindings_perform_of_apart apart world, ?_⟩
  · intro earlier move later split
    refine ⟨_, ?_, meets_perform tree earlier move⟩
    rw [split, performAll_append, performAll_cons,
      List.getElem?_append_right (Nat.le_of_eq (length_performAll earlier _)),
      length_performAll, Nat.sub_self, List.getElem?_cons_zero]
  · exact Store.performAll_of_represents history (fun number workspace => rfl)

end Move

namespace Sample

/-- A caller with this text for its workspace. -/
def caller (directory : String) : Environment :=
  { environment with directory := directory }

/-- Three callers, two of which name one workspace in different ways. -/
def moves : List Move :=
  [⟨caller "/ws", .set "KEY" "one"⟩, ⟨caller "/ws2", .set "KEY" "two"⟩,
    ⟨caller "/ws/sub/..", .remove "KEY"⟩, ⟨caller "ws/", .get "KEY"⟩]

end Sample

/-- What one spelling of the root has set the other one removes; the third caller's variable
of the same name is another one. -/
theorem Move.performAll_follows_history_of_spellings :
    ∃ answer,
      (performAll Sample.moves ⟨Sample.tree "" "", Memory.empty⟩).1[2]? = some answer ∧
        Meets (Sample.moves.take 2) ⟨Sample.caller "/ws/sub/..", .remove "KEY"⟩ answer ∧
        answer = .value (some "one") ∧ ¬ (Sample.caller "/ws2").Shares (Sample.caller "ws/") ∧
        (Sample.caller "ws/").bindings (Access.perform (Sample.caller "/ws2") (.set "KEY" "two")
            ⟨Sample.tree "" "", Memory.empty⟩).2 =
          (Sample.caller "ws/").bindings ⟨Sample.tree "" "", Memory.empty⟩ := by
  rcases performAll_follows_history (Sample.tree "" "") Sample.moves with
    ⟨_, answered, apart, _⟩
  rcases answered (Sample.moves.take 2) _ (Sample.moves.drop 3) rfl with ⟨answer, listed, meets⟩
  have computed : (performAll Sample.moves ⟨Sample.tree "" "", Memory.empty⟩).1[2]? =
      some (.value (some "one")) := by rfl
  have strangers : ¬ (Sample.caller "/ws2").Shares (Sample.caller "ws/") := by decide
  exact ⟨answer, listed, meets, Option.some.inj (listed.symm.trans computed), strangers,
    apart ⟨Sample.caller "/ws2", .set "KEY" "two"⟩ (Sample.caller "ws/") strangers _⟩

end Workbench
