import Workbench.Proofs.Command.Sizes
import Workbench.Proofs.Guarded.Word
namespace Workbench

/-!
# Reading by positions

The process reads a command by positions: it takes the first line at its index, cuts the block
out of the vector of lines up to the index of its end, and walks a cursor over the tokens.  A
command that fits into memory keeps all of them in range, and what is read is what the reader
of this library reads.
-/

namespace Guarded

namespace Reader

open Reading (Sorted flagName? isEnd)

/-! ## The cursor -/

/-- What the token at a cursor comes to: where the cursor goes from here, and what is sorted
then. -/
def step (tokens : List String) (cursor : Nat) (sorted : Sorted) : Run (Nat × Sorted) := do
  let token ← item tokens cursor
  match flagName? token with
  | none =>
    let next ← add cursor 1
    pure (next, { sorted with words := sorted.words ++ [token] })
  | some flag =>
    let behind ← add cursor 1
    match tokens[behind]? with
    | some value =>
      if (flagName? value).isNone then
        let next ← add cursor 2
        pure (next, { sorted with flags := sorted.flags ++ [(flag, value)] })
      else
        let next ← add cursor 1
        pure (next, { sorted with flags := sorted.flags ++ [(flag, "true")] })
    | none =>
      let next ← add cursor 1
      pure (next, { sorted with flags := sorted.flags ++ [(flag, "true")] })

/-- The cursor always moves on. -/
theorem lt_of_step {tokens : List String} {cursor next : Nat} {sorted more : Sorted}
    (moved : step tokens cursor sorted = .ok (next, more)) : cursor < next := by
  unfold step at moved
  cases held : item tokens cursor with
  | error panic =>
      rw [held] at moved
      cases moved
  | ok token =>
      simp only [held, ok_bind] at moved
      split at moved
      · cases of_add_bind moved
        exact Nat.lt_succ_self cursor
      · have behind := of_add_bind moved
        split at behind
        · split at behind
          · cases of_add_bind behind
            exact Nat.lt_add_of_pos_right Nat.two_pos
          · cases of_add_bind behind
            exact Nat.lt_succ_self cursor
        · cases of_add_bind behind
          exact Nat.lt_succ_self cursor

/-- Sorts the tokens from a cursor on into flags and words. -/
def sortFrom (tokens : List String) (cursor : Nat) (sorted : Sorted) : Run Sorted :=
  if cursor < tokens.length then
    match moved : step tokens cursor sorted with
    | .error panic => .error panic
    | .ok (next, more) =>
      have : cursor < next := lt_of_step moved
      sortFrom tokens next more
  else .ok sorted
termination_by tokens.length - cursor

theorem sortFrom_of_end {tokens : List String} {cursor : Nat} (done : tokens.drop cursor = [])
    (sorted : Sorted) : sortFrom tokens cursor sorted = .ok sorted := by
  rw [sortFrom, if_neg (Nat.not_lt.mpr (List.drop_eq_nil_iff.mp done))]

theorem sortFrom_of_step {tokens : List String} {cursor next : Nat} {sorted more : Sorted}
    (inside : cursor < tokens.length) (moved : step tokens cursor sorted = .ok (next, more)) :
    sortFrom tokens cursor sorted = sortFrom tokens next more := by
  rw [sortFrom, if_pos inside]
  split
  · rename_i panic aborted
    cases moved.symm.trans aborted
  · rename_i again
    cases moved.symm.trans again
    rfl

/-- The flags and words that a cursor finds behind those that it has. -/
def joined (sorted more : Sorted) : Sorted :=
  ⟨sorted.flags ++ more.flags, sorted.words ++ more.words⟩

theorem getElem?_of_drop {tokens rest : List String} {cursor : Nat} {token : String}
    (left : tokens.drop cursor = token :: rest) : tokens[cursor]? = some token := by
  rw [← List.head?_drop, left, List.head?_cons]

theorem drop_succ_of_drop {tokens rest : List String} {cursor : Nat} {token : String}
    (left : tokens.drop cursor = token :: rest) : tokens.drop (cursor + 1) = rest := by
  rw [← List.tail_drop, left, List.tail_cons]

theorem lt_of_drop {tokens rest : List String} {cursor : Nat} {token : String}
    (left : tokens.drop cursor = token :: rest) : cursor + rest.length < tokens.length := by
  have lengths := congrArg List.length left
  rw [List.length_drop, List.length_cons] at lengths
  omega

section Steps

variable {tokens rest : List String} {cursor : Nat} {token flag : String}

theorem step_word (fits : tokens.length ≤ Decimal.largest)
    (left : tokens.drop cursor = token :: rest) (unnamed : flagName? token = none)
    (sorted : Sorted) :
    step tokens cursor sorted =
      .ok (cursor + 1, { sorted with words := sorted.words ++ [token] }) := by
  have inside := lt_of_drop left
  simp only [step, item_of_some (getElem?_of_drop left), ok_bind, unnamed,
    add_of_le (Nat.le_trans (show cursor + 1 ≤ tokens.length by omega) fits)]
  rfl

theorem step_pair {value : String} {others : List String} (fits : tokens.length ≤ Decimal.largest)
    (left : tokens.drop cursor = token :: value :: others) (named : flagName? token = some flag)
    (unnamed : flagName? value = none) (sorted : Sorted) :
    step tokens cursor sorted =
      .ok (cursor + 2, { sorted with flags := sorted.flags ++ [(flag, value)] }) := by
  have inside := lt_of_drop left
  rw [List.length_cons] at inside
  have behind := getElem?_of_drop (drop_succ_of_drop left)
  simp only [step, item_of_some (getElem?_of_drop left), ok_bind, named,
    add_of_le (Nat.le_trans (show cursor + 1 ≤ tokens.length by omega) fits), behind, unnamed,
    Option.isNone_none, if_true,
    add_of_le (Nat.le_trans (show cursor + 2 ≤ tokens.length by omega) fits)]
  rfl

/-- A flag at the end or before another flag stands alone. -/
theorem step_bare (fits : tokens.length ≤ Decimal.largest)
    (left : tokens.drop cursor = token :: rest) (named : flagName? token = some flag)
    (alone : ∀ value ∈ rest.head?, (flagName? value).isSome) (sorted : Sorted) :
    step tokens cursor sorted =
      .ok (cursor + 1, { sorted with flags := sorted.flags ++ [(flag, "true")] }) := by
  have inside := lt_of_drop left
  have behind : tokens[cursor + 1]? = rest.head? := by
    rw [← List.head?_drop, drop_succ_of_drop left]
  simp only [step, item_of_some (getElem?_of_drop left), ok_bind, named,
    add_of_le (Nat.le_trans (show cursor + 1 ≤ tokens.length by omega) fits), behind]
  cases next : rest.head? with
  | none => rfl
  | some value =>
      have other := alone value next
      simp only [Option.isSome_iff_ne_none.mp other, Option.isNone_iff_eq_none, if_false]
      rfl

end Steps

/-- The cursor sorts the tokens that it has before it. -/
theorem sortFrom_eq {tokens : List String} (fits : tokens.length ≤ Decimal.largest)
    (cursor : Nat) (sorted : Sorted) :
    sortFrom tokens cursor sorted =
      .ok (joined sorted (Reading.sort (tokens.drop cursor))) := by
  induction left : tokens.drop cursor using Reading.sort.induct
    generalizing cursor sorted with
  | case1 =>
      rw [sortFrom_of_end left]
      simp [joined, Reading.sort]
  | case2 token rest unnamed inductionHypothesis =>
      have inside := lt_of_drop left
      rw [sortFrom_of_step (by omega) (step_word fits left unnamed sorted),
        inductionHypothesis (cursor + 1) _ (drop_succ_of_drop left),
        Reading.sort_word unnamed]
      simp [joined]
  | case3 token name named =>
      have inside := lt_of_drop left
      have alone : ∀ found ∈ ([] : List String).head?, (flagName? found).isSome :=
        fun found first => absurd first (Option.not_mem_none found)
      rw [sortFrom_of_step (by omega) (step_bare fits left named alone sorted),
        sortFrom_of_end (drop_succ_of_drop left), Reading.sort, named]
      simp [joined]
  | case4 token name named value others other next inductionHypothesis =>
      have inside := lt_of_drop left
      have alone : ∀ found ∈ (value :: others).head?, (flagName? found).isSome := by
        intro found first
        rw [← Option.some.inj first, next]
        rfl
      rw [sortFrom_of_step (by omega) (step_bare fits left named alone sorted),
        inductionHypothesis (cursor + 1) _ (drop_succ_of_drop left),
        Reading.sort_bare named next]
      simp [joined]
  | case5 token name named value others unnamed inductionHypothesis =>
      have inside := lt_of_drop left
      rw [sortFrom_of_step (by omega) (step_pair fits left named unnamed sorted),
        inductionHypothesis (cursor + 2) _ (drop_succ_of_drop (drop_succ_of_drop left)),
        Reading.sort_pair named unnamed]
      simp [joined]

/-! ## Lines -/

/-- Resolves the tokens after a tool's name against its definition. -/
def resolve (definition : Definition) (tokens : List String) :
    Run (Except Failure Invocation) := do
  let sorted ← sortFrom tokens 0 ⟨[], []⟩
  let flagged : Arguments := Dictionary.ofList sorted.flags
  match Reading.fill definition.name definition.parameters flagged sorted.words with
  | .error failure => pure (.error failure)
  | .ok (arguments, surplus) =>
    pure (.ok ⟨definition.name,
      Reading.absorb definition flagged arguments surplus⟩)

/-- Reads a single-line command. -/
def single (definition : Definition) (text : List Char) :
    Run (Except Failure (Option Invocation)) := do
  let invocation ← resolve definition (Reading.operands text)
  pure (invocation.map some)

/-- The index of the first line behind the first one that is the end mark. -/
def endAt? (mark : String) (lines : List (List Char)) : Option Nat :=
  ((lines.drop 1).findIdx? (isEnd mark)).map (· + 1)

/-- Reads a command whose first line names a tool. -/
def readNamed (definition : Definition) (trimmed first : List Char) (lines : List (List Char)) :
    Run (Except Failure (Option Invocation)) :=
  match definition.endMark with
  | none => single definition trimmed
  | some mark =>
    if 1 < lines.length then
      match endAt? mark lines with
      | none => single definition first
      | some stop => do
        let body ← slice lines 1 stop
        pure ((Reading.block definition first body).map some)
    else single definition trimmed

/-- Reads a command; a text that is none gives `none`. -/
def read (find : String → Run (Option Definition)) (text : String) :
    Run (Except Failure (Option Invocation)) :=
  let trimmed := Text.trim text.toList
  if trimmed.isEmpty then pure (.ok none)
  else do
    let lines := Text.lines trimmed
    let first ← item lines 0
    match Text.firstWord? first with
    | none => pure (.ok none)
    | some word =>
      match ← find (String.ofList word) with
      | none => pure (.ok none)
      | some definition => readNamed definition trimmed first lines

/-! ## Nothing is out of range -/

theorem resolve_eq (definition : Definition) {tokens : List String}
    (fits : tokens.length ≤ Decimal.largest) :
    resolve definition tokens = .ok (Reading.resolve definition tokens) := by
  have sorted : joined ⟨[], []⟩ (Reading.sort tokens) = Reading.sort tokens :=
    rfl
  rw [resolve, sortFrom_eq fits, List.drop_zero, sorted, ok_bind]
  unfold Reading.resolve
  cases filling : Reading.fill definition.name definition.parameters
      (Dictionary.ofList (Reading.sort tokens).flags)
      (Reading.sort tokens).words with
  | error failure =>
      simp only [filling]
      rfl
  | ok filled =>
      simp only [filling]
      rfl

theorem single_eq (definition : Definition) {text : List Char}
    (fits : text.length ≤ Decimal.largest) :
    single definition text =
      .ok ((Reading.single definition text).map some) := by
  have tokens := Reading.length_le_room (Reading.operands text)
  have room := Reading.room_operands_le text
  rw [single, resolve_eq definition (by omega), ok_bind]
  rfl

theorem untilEnd?_eq (mark : String) (lines : List (List Char)) :
    Reading.untilEnd? mark lines = (lines.findIdx? (isEnd mark)).map lines.take := by
  induction lines with
  | nil => rfl
  | cons line others inductionHypothesis =>
      rw [Reading.untilEnd?, List.findIdx?_cons]
      split
      · rfl
      · rw [inductionHypothesis]
        cases others.findIdx? (isEnd mark) <;> rfl

/-- A command whose lines fit into memory is read without aborting. -/
theorem readNamed_eq (definition : Definition) {trimmed first : List Char}
    (shorter : first.length ≤ trimmed.length) (fits : trimmed.length ≤ Decimal.largest)
    (others : List (List Char)) :
    readNamed definition trimmed first (first :: others) =
      .ok (match definition.endMark, others with
        | some mark, _ :: _ =>
          match Reading.untilEnd? mark others with
          | some body => (Reading.block definition first body).map some
          | none => (Reading.single definition first).map some
        | _, _ => (Reading.single definition trimmed).map some) := by
  unfold readNamed
  cases definition.endMark with
  | none => exact single_eq definition fits
  | some mark =>
      cases others with
      | nil => exact single_eq definition fits
      | cons next rest =>
          have several : 1 < (first :: next :: rest).length := by simp
          simp only [if_pos several, endAt?, List.drop_one, List.tail_cons, untilEnd?_eq]
          cases ends : (next :: rest).findIdx? (isEnd mark) with
          | none => exact single_eq definition (Nat.le_trans shorter fits)
          | some stop =>
              have inside := (List.findIdx?_eq_some_iff_getElem.mp ends).1
              simp only [Option.map_some]
              rw [slice_of_le (by omega) (Nat.succ_le_succ (Nat.le_of_lt inside)), List.take_succ_cons,
                ok_bind]
              rfl

/-- Reading never aborts and reads what the reader of the library reads. -/
theorem read_eq {find : String → Run (Option Definition)} {known : String → Option Definition}
    (finds : ∀ name, find name = .ok (known name)) {text : String}
    (fits : text.toList.length ≤ Decimal.largest) :
    read find text = .ok (Reading.read known text) := by
  have trimmed := Nat.le_trans (Text.length_trim_le text.toList) fits
  unfold read Reading.read
  simp only []
  cases written : Text.lines (Text.trim text.toList) with
  | nil =>
      rw [Text.lines_eq_nil_iff.mp written]
      rfl
  | cons first others =>
      have filled : (Text.trim text.toList).isEmpty = false :=
        List.isEmpty_eq_false_iff.mpr (Text.ne_nil_of_lines written)
      simp only [filled, Bool.false_eq_true, if_false, item_of_some (List.getElem?_cons_zero),
        ok_bind, Reading.named?]
      cases Text.firstWord? first with
      | none => rfl
      | some word =>
          simp only [finds, ok_bind, Option.bind_some]
          cases known (String.ofList word) with
          | none => rfl
          | some definition =>
              have shorter : first.length ≤ (Text.trim text.toList).length :=
                Text.length_le_of_mem_lines (written ▸ List.mem_cons_self)
              exact readNamed_eq definition shorter trimmed others

end Reader

end Guarded

end Workbench
