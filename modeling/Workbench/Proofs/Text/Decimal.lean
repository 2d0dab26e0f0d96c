import Workbench.Proofs.Text.Words
import Workbench.Text.Decimal
namespace Workbench

/-!
# Reading written numbers

A written number consists of digits alone, so it is neither cut nor trimmed where it
stands in a command.  It is read back as it was, unless it does not fit into 64 bits:
then it is read as no number at all.
-/

namespace Decimal

theorem digit?_of_isDigit {character : Char} (digit : character.isDigit = true) :
    digit? character = some (character.toNat - '0'.toNat) := by
  rw [Char.isDigit, Bool.and_eq_true, decide_eq_true_eq, decide_eq_true_eq] at digit
  exact if_pos digit

/-- A run of digits has the value that the core library gives it. -/
theorem valueFrom?_of_isDigit {digits : List Char}
    (each : ∀ character ∈ digits, character.isDigit = true) (value : Nat) :
    valueFrom? value digits = some (Nat.ofDigitChars 10 digits value) := by
  induction digits generalizing value with
  | nil => rfl
  | cons first rest inductionHypothesis =>
      rcases List.forall_mem_cons.mp each with ⟨here, later⟩
      rw [valueFrom?, digit?_of_isDigit here, Nat.ofDigitChars_cons]
      exact inductionHypothesis later (10 * value + (first.toNat - '0'.toNat))

theorem isDigit_of_mem_write {value : Nat} {character : Char}
    (member : character ∈ (write value).toList) : character.isDigit = true := by
  rw [write, String.toList_ofList] at member
  exact Nat.isDigit_of_mem_toDigits (by decide) (by decide) member

/-- A written number stands on one line. -/
theorem lineFeed_not_mem_write (value : Nat) : '\n' ∉ (write value).toList := by
  intro member
  exact absurd (isDigit_of_mem_write member) (by decide)

theorem write_toList_ne_nil (value : Nat) : (write value).toList ≠ [] := by
  rw [write, String.toList_ofList]
  exact Nat.toDigits_ne_nil

/-- A digit has one of ten code points. -/
theorem toNat_of_isDigit {character : Char} (digit : character.isDigit = true) :
    48 ≤ character.toNat ∧ character.toNat ≤ 57 := by
  rw [Char.isDigit, Bool.and_eq_true, decide_eq_true_eq, decide_eq_true_eq] at digit
  exact digit

theorem isBlank_of_isDigit {character : Char} (digit : character.isDigit = true) :
    isBlank character = false := by
  have bounds := toNat_of_isDigit digit
  simp only [isBlank]
  grind

theorem trim_write (value : Nat) : Text.trim (write value).toList = (write value).toList := by
  have filled := write_toList_ne_nil value
  have solid : ∀ character ∈ (write value).toList, isBlank character = false :=
    fun _ member => isBlank_of_isDigit (isDigit_of_mem_write member)
  have ends : ∃ last, ((write value).toList ++ []).getLast? = some last ∧ isBlank last = false := by
    rw [List.append_nil]
    exact Text.exists_last_of_solid filled solid
  have trimmed := Text.trim_of_solid_word filled solid ends
  rw [List.append_nil] at trimmed
  exact trimmed

/-- Different numbers are written differently. -/
theorem write_inj {value other : Nat} (same : write value = write other) : value = other := by
  have digits := congrArg (fun text => Nat.ofDigitChars 10 text.toList 0) same
  simp only [write, String.toList_ofList, Nat.ofDigitChars_ten_toDigits] at digits
  exact digits

/-- What is read from a written number. -/
theorem read?_write (value : Nat) :
    read? (write value).toList = if value ≤ largest then some value else none := by
  have unsigned : ∀ rest, (write value).toList ≠ '+' :: rest := by
    intro rest shape
    have digit : '+'.isDigit = true := by
      apply isDigit_of_mem_write
      rw [shape]
      exact List.mem_cons_self
    exact absurd digit (by decide)
  have known : valueFrom? 0 (write value).toList = some value := by
    rw [valueFrom?_of_isDigit (fun _ member => isDigit_of_mem_write member), write,
      String.toList_ofList, Nat.ofDigitChars_ten_toDigits]
  have filled : (write value).toList.isEmpty = false := by
    simpa using write_toList_ne_nil value
  have plain : read? (write value).toList = digitsValue? (write value).toList := by
    unfold read?
    split
    · rename_i digits shape
      exact absurd shape (unsigned digits)
    · rfl
  rw [plain, digitsValue?, known, filled]
  rfl

end Decimal

end Workbench
