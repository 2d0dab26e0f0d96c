import Workbench.Proofs.Window.Listing
namespace Workbench

/-!
# Showing a window and showing it again

A window is shown of a file at a line that is asked for, and the two variables of the viewer then
say where it starts.  Where it starts is the line that was asked for, brought into the range from
which the window is full.  So what is remembered need not be what was asked for, and it is the
remembered line from which the next command starts.  Asking for it gives the same window, and the
variables are what they were.
-/

namespace Sample

/-- A text of three lines. -/
def three : String :=
  "one\ntwo\nthree\n"

def threeLines : List String :=
  ["one", "two", "three"]

theorem linesOf_three : Window.linesOf three = threeLines := by
  decide

/-- The world in which a file of three lines is open. -/
def threeWorld : World :=
  world "" three "a.txt"

end Sample

namespace Viewer

variable {settings : WindowSettings} {environment : Environment} {world : World} {place : Place}
  {text : String} {first : Nat}

/-! ## What is remembered -/

theorem remember_eq (environment : Environment) (world : World) (place : Place) (first : Nat) :
    remember environment world place first =
      environment.withBindings world
        (((environment.bindings world).insert currentFile place.text).insert firstLine
          (Decimal.write first)) := by
  simp only [remember, Environment.setVariable, Environment.withBindings_withBindings,
    Environment.bindings_withBindings_of_shares (Environment.Shares.refl environment)]

/-- Only the last view is remembered. -/
theorem remember_remember (environment : Environment) (world : World) (place : Place)
    (earlier later : Nat) :
    remember environment (remember environment world place earlier) place later =
      remember environment world place later := by
  simp only [remember_eq, Environment.withBindings_withBindings,
    Environment.bindings_withBindings_of_shares (Environment.Shares.refl environment)]
  congr 1
  apply Dictionary.eq_of_get?
  intro key
  simp only [Dictionary.get?_insert]
  split
  · rfl
  · split <;> rfl

/-- What the variables say already needs not be remembered. -/
theorem remember_of_held (file : environment.value? world currentFile = some place.text)
    (line : environment.value? world firstLine = some (Decimal.write first)) :
    remember environment world place first = world := by
  have same : ((environment.bindings world).insert currentFile place.text).insert firstLine
      (Decimal.write first) = environment.bindings world := by
    apply Dictionary.eq_of_get?
    intro key
    rw [Dictionary.get?_insert, Dictionary.get?_insert]
    split
    · rename_i isLine
      rw [isLine]
      exact line.symm
    · split
      · rename_i isFile
        rw [isFile]
        exact file.symm
      · rfl
  rw [remember_eq, same, Environment.withBindings_bindings]

/-- A first line that fits into 64 bits is read back as it was. -/
theorem lineInSight_remember (environment : Environment) (world : World) (place : Place)
    (small : first ≤ Decimal.largest) :
    lineInSight environment (remember environment world place first) = first := by
  rw [lineInSight, value?_remember_firstLine (Environment.Shares.refl environment)]
  simp only [Decimal.read?_write, if_pos small, Option.getD_some]

/-! ## Showing again -/

/-- Files are as before after a window has been shown. -/
theorem contentOf_remember (environment : Environment) (world : World) (place other : Place)
    (first : Nat) :
    contentOf environment (remember environment world place first) other =
      contentOf environment world other :=
  rfl

/-- In the world that a window leaves, any window of the file is the one that it would have been
before. -/
theorem showWindow_remember (settings : WindowSettings)
    (read : contentOf environment world place = .ok text) (earlier asked : Nat) :
    showWindow settings environment (remember environment world place earlier) place asked =
      shown settings environment world place (Window.linesOf text)
        (Window.clamp settings (Window.linesOf text).length asked) := by
  rw [showWindow_of_content ((contentOf_remember environment world place place earlier).trans read),
    shown, shown, remember_remember]

/-- A window of a file that can be read has the lines of the file as its rows, consecutive and as
many as it is high or the file has, and counts all others above and below.  It starts at the line
that was asked for, clamped to where the window is full, and this line is stored.  Showing the file
again from there gives the same text and the same world. -/
theorem showWindow_partitions (settings : WindowSettings)
    (read : contentOf environment world place = .ok text) (asked : Nat) :
    ∃ (listing : Window.Listing) (after : World),
      showWindow settings environment world place asked = (.ok listing.text, after) ∧
      listing.name = environment.display place ∧
      listing.Partitions settings (Window.linesOf text) ∧
      listing.above + 1 = max 1 (min asked ((Window.linesOf text).length - settings.lines + 1)) ∧
      environment.value? after firstLine = some (Decimal.write (listing.above + 1)) ∧
      showWindow settings environment after place (listing.above + 1) =
        (.ok listing.text, after) ∧
      (asked ≤ Decimal.largest → lineInSight environment after = listing.above + 1) := by
  have clamped := Window.clamp_eq settings (Window.linesOf text).length asked
  have bounded := Window.clamp_le_asked settings (Window.linesOf text).length asked
  have fits := Window.fits_clamp settings (Window.linesOf text).length asked
  have shows : showWindow settings environment world place asked =
      shown settings environment world place (Window.linesOf text) _ :=
    showWindow_of_content read asked
  generalize Window.clamp settings (Window.linesOf text).length asked = first at *
  have positive := fits.positive
  have start : first - 1 + 1 = first := by
    omega
  have again := showWindow_remember settings read first first
  rw [fits.clamp_eq_self] at again
  rw [shown, ← Window.text_listing fits] at shows again
  refine ⟨Window.listing settings (environment.display place) (Window.linesOf text) first, _, shows,
    rfl, Window.partitions_listing fits _, start.trans clamped, ?_, ?_, ?_⟩
  · rw [value?_remember_firstLine (Environment.Shares.refl environment)]
    exact congrArg (fun line => some (Decimal.write line)) start.symm
  · exact (congrArg _ start).trans again
  · intro small
    have readable : first ≤ Decimal.largest := by
      have least : 1 ≤ Decimal.largest := by decide
      omega
    exact (lineInSight_remember environment world place readable).trans start.symm

/-- Three lines in a window of two.  The last window starts at the second line, so that is where it
starts if the ninth is asked for. -/
theorem showWindow_partitions_behind_end :
    contentOf Sample.environment Sample.threeWorld ⟨true, ["ws", "a.txt"]⟩ = .ok Sample.three ∧
      9 ≤ Decimal.largest ∧
      ∃ (listing : Window.Listing) (after : World),
        showWindow { lines := 2 } Sample.environment Sample.threeWorld
            ⟨true, ["ws", "a.txt"]⟩ 9 = (.ok listing.text, after) ∧
        listing.name = "a.txt" ∧ listing.numbers = [2, 3] ∧ listing.above = 1 ∧
        listing.below = 0 ∧ lineInSight Sample.environment after = 2 ∧
        showWindow { lines := 2 } Sample.environment after ⟨true, ["ws", "a.txt"]⟩ 2 =
          (.ok listing.text, after) := by
  have read := Sample.contentOf_world "" Sample.three "a.txt"
  have small : 9 ≤ Decimal.largest := by
    decide
  rcases showWindow_partitions { lines := 2 } read 9 with
    ⟨listing, after, shows, name, parts, start, _, again, readable⟩
  rw [Sample.linesOf_three] at parts start
  have above : listing.above = 1 := Nat.succ.inj start
  have numbers := parts.numbers
  have counted : listing.rows.length = 2 := by
    have length := congrArg List.length numbers
    rw [Window.Listing.numbers, List.length_map, List.length_range'] at length
    exact length
  have whole := parts.whole
  rw [above, counted] at whole
  rw [above] at numbers again
  refine ⟨read, small, listing, after, shows, name.trans (by decide +kernel), numbers, above, ?_,
    ?_, again⟩
  · exact Nat.add_left_cancel whole
  · rw [readable small, above]

end Viewer

end Workbench
