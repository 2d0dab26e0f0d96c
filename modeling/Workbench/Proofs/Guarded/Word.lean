import Mathlib.Algebra.GroupWithZero.Nat
import Workbench.Text.Decimal
namespace Workbench

/-!
# Operations that can abort

The functions of this library count with numbers of any size, and a list that is cut past its
end gives what it has.  A running process has words of 64 bits and vectors of fixed length.
There a sum that does not fit into a word, a difference below zero, an index or a range past
the end of a vector and a clamp between crossed bounds all abort the process.

Here are these operations as the process has them.  Each gives its value or the way in which
it aborts, and beside each stands the condition under which it gives its value.  Whether or not the
condition holds, a value that is given is the one of numbers of any size.  Both go through sequences
of operations, so one statement tells them of a whole computation: what it gives, and under which
condition it is safe.
-/

namespace Guarded

/-- The ways to abort. -/
inductive Panic where
  | overflow
  | underflow
  | outOfRange
  | crossedBounds
  deriving DecidableEq, Repr

/-- A computation that may abort. -/
abbrev Run (Value : Type) := Except Panic Value

variable {Value Item : Type}

@[simp] theorem ok_bind {Next : Type} (value : Value) (next : Value → Run Next) :
    (Except.ok value >>= next) = next value := rfl

@[simp] theorem error_bind {Next : Type} (panic : Panic) (next : Value → Run Next) :
    (Except.error panic >>= next) = .error panic := rfl

/-- The computation gives this value or aborts, and it aborts only if it is not safe. -/
inductive Gives (Safe : Prop) (value : Value) : Run Value → Prop where
  | ok : Gives Safe value (.ok value)
  | error (aborted : ¬ Safe) (panic : Panic) : Gives Safe value (.error panic)

namespace Gives

variable {Safe : Prop} {value : Value} {run : Run Value}

theorem of_if [Decidable Safe] (value : Value) (panic : Panic) :
    Gives Safe value (if Safe then .ok value else .error panic) := by
  split
  · exact .ok
  · rename_i aborted
    exact .error aborted panic

theorem eq_ok (gives : Gives Safe value run) (safe : Safe) : run = .ok value := by
  cases gives with
  | ok => rfl
  | error aborted _ => exact absurd safe aborted

theorem eq_of_ok (gives : Gives Safe value run) {given : Value} (ran : run = .ok given) :
    given = value := by
  cases gives with
  | ok => exact (Except.ok.inj ran).symm
  | error _ _ => cases ran

theorem of_imp {Safer : Prop} (safer : Safer → Safe) (gives : Gives Safe value run) :
    Gives Safer value run := by
  cases gives with
  | ok => exact .ok
  | error aborted panic => exact .error (fun safe => aborted (safer safe)) panic

/-- A computation that goes on with a value goes on with the right one. -/
theorem bind {Next : Type} (gives : Gives Safe value run) {next : Value → Run Next}
    {result : Next} (later : Gives Safe result (next value)) :
    Gives Safe result (run >>= next) := by
  cases gives with
  | ok => exact later
  | error aborted panic => exact .error aborted panic

end Gives

/-! ## Words -/

def add (left right : Nat) : Run Nat :=
  if left + right ≤ Decimal.largest then .ok (left + right) else .error .overflow

def sub (left right : Nat) : Run Nat :=
  if right ≤ left then .ok (left - right) else .error .underflow

/-- The nearest value between two bounds. -/
def clamp (value low high : Nat) : Run Nat :=
  if low ≤ high then .ok (min (max value low) high) else .error .crossedBounds

/-- The sum of numbers, added up from the first one on. -/
def total (numbers : List Nat) : Run Nat :=
  numbers.foldlM add 0

theorem add_of_le {left right : Nat} (fits : left + right ≤ Decimal.largest) :
    add left right = .ok (left + right) :=
  if_pos fits

/-- A computation that goes on with a sum goes on with the sum of the numbers. -/
theorem of_add_bind {left right : Nat} {next : Nat → Run Value} {value : Value}
    (ran : (add left right >>= next) = .ok value) : next (left + right) = .ok value := by
  unfold add at ran
  split at ran
  · exact ran
  · cases ran

theorem gives_add (left right : Nat) :
    Gives (left + right ≤ Decimal.largest) (left + right) (add left right) :=
  .of_if _ _

theorem gives_sub (left right : Nat) :
    Gives (right ≤ left) (left - right) (sub left right) :=
  .of_if _ _

theorem gives_clamp (value low high : Nat) :
    Gives (low ≤ high) (min (max value low) high) (clamp value low high) :=
  .of_if _ _

theorem foldlM_add {start : Nat} (fits : start ≤ Decimal.largest) (numbers : List Nat) :
    numbers.foldlM add start =
      if start + numbers.sum ≤ Decimal.largest then .ok (start + numbers.sum)
      else .error .overflow := by
  induction numbers generalizing start with
  | nil =>
      rw [List.sum_nil, Nat.add_zero, if_pos fits]
      rfl
  | cons first others inductionHypothesis =>
      rw [List.foldlM_cons, List.sum_cons, ← Nat.add_assoc]
      by_cases here : start + first ≤ Decimal.largest
      · rw [add_of_le here, ok_bind, inductionHypothesis here]
      · have whole : ¬ start + first + others.sum ≤ Decimal.largest := by
          omega
        rw [add, if_neg here, error_bind, if_neg whole]

/-- Adding numbers up aborts exactly if their sum does not fit. -/
theorem total_eq (numbers : List Nat) :
    total numbers =
      if numbers.sum ≤ Decimal.largest then .ok numbers.sum else .error .overflow := by
  rw [total, foldlM_add (Nat.zero_le _), Nat.zero_add]

/-! ## Vectors -/

/-- The item at a position. -/
def item (items : List Item) (position : Nat) : Run Item :=
  match items[position]? with
  | some found => .ok found
  | none => .error .outOfRange

/-- Puts another item at a position. -/
def assign (items : List Item) (position : Nat) (new : Item) : Run (List Item) :=
  if position < items.length then .ok (items.set position new) else .error .outOfRange

/-- The items from one position up to another. -/
def slice (items : List Item) (start stop : Nat) : Run (List Item) :=
  if start ≤ stop ∧ stop ≤ items.length then .ok ((items.take stop).drop start)
  else .error .outOfRange

/-- Puts other items in the place of those from one position up to another. -/
def splice (items : List Item) (start stop : Nat) (new : List Item) : Run (List Item) :=
  if start ≤ stop ∧ stop ≤ items.length then .ok (items.take start ++ new ++ items.drop stop)
  else .error .outOfRange

theorem item_of_some {items : List Item} {position : Nat} {found : Item}
    (there : items[position]? = some found) : item items position = .ok found := by
  rw [item, there]

theorem assign_of_lt {items : List Item} {position : Nat} (inside : position < items.length)
    (new : Item) : assign items position new = .ok (items.set position new) :=
  if_pos inside

theorem slice_of_le {items : List Item} {start stop : Nat} (ordered : start ≤ stop)
    (inside : stop ≤ items.length) :
    slice items start stop = .ok ((items.take stop).drop start) :=
  if_pos ⟨ordered, inside⟩

theorem gives_splice (items : List Item) (start stop : Nat) (new : List Item) :
    Gives (start ≤ stop ∧ stop ≤ items.length) (items.take start ++ new ++ items.drop stop)
      (splice items start stop new) :=
  .of_if _ _

end Guarded

end Workbench
