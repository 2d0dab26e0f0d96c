import Workbench.Proofs.Dictionary
import Workbench.Proofs.Workspace.Containment
import Workbench.World
namespace Workbench

/-!
# Who shares variables with whom

A caller's variables are found by the store in use and by the components of the workspace's
root.  So it is the root that counts and not the text that names it: callers whose texts
lead to one root have all their variables in common, and what a caller sets or removes is
invisible to everyone with another root or another store.
-/

namespace Place

/-- A place is told by its components. -/
theorem components_inj {left right : Place} :
    left.components = right.components ↔ left = right := by
  have sameNames : ∀ {names others : List String},
      names.map Path.Component.name = others.map Path.Component.name → names = others :=
    fun same => (List.map_inj_right (fun _ _ => Path.Component.name.inj)).mp same
  -- no name is the top, so only places of one kind can have the same components
  have apart : ∀ {names others : List String},
      Path.Component.root :: names.map Path.Component.name ≠ others.map Path.Component.name :=
    fun same => root_not_mem_map_name _ (same ▸ List.mem_cons_self)
  constructor
  · intro same
    rcases left with ⟨leftTop, names⟩
    rcases right with ⟨rightTop, others⟩
    cases leftTop <;> cases rightTop
    case false.false => exact congrArg (Place.mk false) (sameNames same)
    case false.true => exact absurd same.symm apart
    case true.false => exact absurd same apart
    case true.true => exact congrArg (Place.mk true) (sameNames (List.cons.inj same).2)
  · exact fun same => same ▸ rfl

end Place

namespace Environment

/-- The two callers have their variables in common. -/
structure Shares (caller other : Environment) : Prop where
  store : caller.store = other.store
  workspace : caller.root.components = other.root.components

instance (caller other : Environment) : Decidable (caller.Shares other) :=
  decidable_of_iff (caller.store = other.store ∧ caller.root.components = other.root.components)
    ⟨fun same => ⟨same.1, same.2⟩, fun shared => ⟨shared.store, shared.workspace⟩⟩

variable {caller other : Environment} {world : World}

namespace Shares

theorem refl (caller : Environment) : caller.Shares caller :=
  ⟨rfl, rfl⟩

theorem symm (shared : caller.Shares other) : other.Shares caller :=
  ⟨shared.store.symm, shared.workspace.symm⟩

theorem trans {third : Environment} (first : caller.Shares other) (second : other.Shares third) :
    caller.Shares third :=
  ⟨first.store.trans second.store, first.workspace.trans second.workspace⟩

theorem root (shared : caller.Shares other) : caller.root = other.root :=
  Place.components_inj.mp shared.workspace

theorem resolve (shared : caller.Shares other) (input : String) :
    caller.resolve input = other.resolve input := by
  rw [Environment.resolve, Environment.resolve, shared.root]

theorem bindings (shared : caller.Shares other) (world : World) :
    caller.bindings world = other.bindings world := by
  rw [Environment.bindings, Environment.bindings, shared.store, shared.workspace]

theorem value? (shared : caller.Shares other) (world : World) (key : String) :
    caller.value? world key = other.value? world key := by
  rw [Environment.value?, Environment.value?, shared.bindings]

end Shares

/-! ## What a change shows to whom -/

theorem bindings_withBindings_of_shares (shared : caller.Shares other) (world : World)
    (changed : Dictionary String) :
    other.bindings (caller.withBindings world changed) = changed := by
  simp only [Environment.bindings, withBindings, Memory.update, shared.store, shared.workspace,
    and_self, if_true]

theorem bindings_withBindings_of_apart (apart : ¬ caller.Shares other) (world : World)
    (changed : Dictionary String) :
    other.bindings (caller.withBindings world changed) = other.bindings world := by
  simp only [Environment.bindings, withBindings, Memory.update]
  rw [if_neg]
  intro same
  exact apart ⟨same.1.symm, same.2.symm⟩

theorem value?_setVariable_of_shares (shared : caller.Shares other) (world : World)
    (key value name : String) :
    other.value? (caller.setVariable world key value) name =
      if name = key then some value else other.value? world name := by
  rw [Environment.value?, setVariable, bindings_withBindings_of_shares shared,
    Dictionary.get?_insert, shared.bindings, Environment.value?]

theorem value?_setVariable_of_apart (apart : ¬ caller.Shares other) (world : World)
    (key value name : String) :
    other.value? (caller.setVariable world key value) name = other.value? world name := by
  rw [Environment.value?, setVariable, bindings_withBindings_of_apart apart, Environment.value?]

/-- Setting a variable keeps the others, whoever looks. -/
theorem value?_setVariable_of_ne {key name : String} (different : name ≠ key)
    (caller other : Environment) (world : World) (value : String) :
    other.value? (caller.setVariable world key value) name = other.value? world name := by
  by_cases shared : caller.Shares other
  · rw [value?_setVariable_of_shares shared, if_neg different]
  · exact value?_setVariable_of_apart shared world key value name

theorem value?_removeVariable_of_shares (shared : caller.Shares other) (world : World)
    (key name : String) :
    other.value? (caller.removeVariable world key) name =
      if name = key then none else other.value? world name := by
  rw [Environment.value?, removeVariable, bindings_withBindings_of_shares shared,
    Dictionary.get?_erase, shared.bindings, Environment.value?]

/-- Of two changes of all variables the later one stands. -/
theorem withBindings_withBindings (caller : Environment) (world : World)
    (earlier later : Dictionary String) :
    caller.withBindings (caller.withBindings world earlier) later =
      caller.withBindings world later := by
  simp only [withBindings, World.mk.injEq, true_and]
  funext number workspace
  simp only [Memory.update]
  split <;> rfl

/-- Giving the variables the values that they have changes nothing. -/
theorem withBindings_bindings (caller : Environment) (world : World) :
    caller.withBindings world (caller.bindings world) = world := by
  have same : world.memory.update caller.store caller.root.components (caller.bindings world) =
      world.memory := by
    funext number workspace
    simp only [Memory.update]
    split
    · rename_i own
      rw [own.1, own.2]
      rfl
    · rfl
  rw [withBindings, same]

/-- Where no variable is set, removing one changes nothing. -/
theorem removeVariable_of_none (caller : Environment) {world : World}
    (none : caller.bindings world = Dictionary.empty) (key : String) :
    caller.removeVariable world key = world := by
  have erased : (caller.bindings world).erase key = caller.bindings world := by
    rw [none]
    rfl
  rw [removeVariable, erased, withBindings_bindings]

/-- Only the memory counts for variables. -/
theorem value?_of_memory {before after : World} (same : after.memory = before.memory)
    (caller : Environment) (key : String) : caller.value? after key = caller.value? before key := by
  rw [Environment.value?, Environment.value?, Environment.bindings, Environment.bindings, same]

end Environment

end Workbench
