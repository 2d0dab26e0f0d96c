import Mathlib.Algebra.Group.Nat.Defs
import Workbench.Proofs.Window.Scrolling
namespace Workbench

/-!
# Scrolling over and over

Scrolling on in one direction must come to the end of the file, must not pass over a line on its
way, and must come to rest there.  It is the step that decides: it is never longer than the window
is high, or lines between two windows would be lost, and never zero, or the window would not move.
The clamp only makes a step shorter.  So the first line after so many scrolls is the one that so
many steps lead to, as long as the end is not reached, and the end itself from then on.

All of this is about files that a scroll finds again.  A file whose stored path is blank is not
found, and then not even the first scroll shows a window.
-/

namespace Window.Listing

/-- What lies between two lines of the windows is in one of them. -/
def Gapless (earlier later : Listing) : Prop :=
  ∀ low ∈ earlier.numbers ++ later.numbers, ∀ high ∈ earlier.numbers ++ later.numbers,
    ∀ number, low ≤ number → number ≤ high → number ∈ earlier.numbers ++ later.numbers

/-- At least so many rows, one behind the other, are in both windows. -/
def Shares (count : Nat) (earlier later : Listing) : Prop :=
  ∃ rows, rows <:+: earlier.rows ∧ rows <:+: later.rows ∧ count ≤ rows.length

end Window.Listing

namespace Viewer

variable {settings : WindowSettings} {environment : Environment} {world after : World}
  {place : Place} {text report : String} {lines : List String} {first next total : Nat}

/-! ## Neighbouring windows -/

theorem one_le_step (settings : WindowSettings) : 1 ≤ settings.step :=
  Nat.le_max_right _ _

theorem step_le_lines (tall : 0 < settings.lines) : settings.step ≤ settings.lines := by
  unfold WindowSettings.step
  omega

/-- Windows that are no more than a step apart leave out no line between them. -/
theorem gapless_listing (tall : 0 < settings.lines)
    (fits : Window.Fits settings lines.length first)
    (fitsNext : Window.Fits settings lines.length next) (down : next ≤ first + settings.step)
    (up : first ≤ next + settings.step) (name : String) :
    (Window.listing settings name lines first).Gapless
      (Window.listing settings name lines next) := by
  have short := step_le_lines tall
  have within := fits.within
  have withinNext := fitsNext.within
  have positive := fits.positive
  have positiveNext := fitsNext.positive
  intro low lowShown high highShown number above below
  simp only [List.mem_append, Window.mem_numbers_listing_iff fits,
    Window.mem_numbers_listing_iff fitsNext] at lowShown highShown ⊢
  omega

/-- Different windows that are no more than a step apart have the rows of the overlap in common. -/
theorem shares_listing (fits : Window.Fits settings lines.length first)
    (fitsNext : Window.Fits settings lines.length next) (down : next ≤ first + settings.step)
    (up : first ≤ next + settings.step) (different : first ≠ next) (name : String) :
    (Window.listing settings name lines first).Shares
      (min settings.overlap (settings.lines - 1)) (Window.listing settings name lines next) := by
  have within := fits.within
  have withinNext := fitsNext.within
  have positive := fits.positive
  have positiveNext := fitsNext.positive
  have full : settings.lines ≤ lines.length := by
    omega
  rcases Nat.le_total first next with lower | upper
  · rcases Window.exists_shared_rows fits lower full name with ⟨rows, ends, begins, count⟩
    refine ⟨rows, ends.isInfix, begins.isInfix, ?_⟩
    rw [count]
    unfold WindowSettings.step at down
    omega
  · rcases Window.exists_shared_rows fitsNext upper full name with ⟨rows, ends, begins, count⟩
    refine ⟨rows, begins.isInfix, ends.isInfix, ?_⟩
    rw [count]
    unfold WindowSettings.step at up
    omega

/-! ## The ends of a file -/

namespace Direction

/-- The last line that comes into sight in this direction. -/
def edge (direction : Direction) (total : Nat) : Nat :=
  match direction with
  | up => 1
  | down => total

/-- Where the window starts when this line is in sight. -/
def goal (settings : WindowSettings) (total : Nat) (direction : Direction) : Nat :=
  match direction with
  | up => 1
  | down => total - settings.lines + 1

/-- How far the window is from there. -/
def distance (settings : WindowSettings) (total : Nat) (direction : Direction) (first : Nat) :
    Nat :=
  match direction with
  | up => first - 1
  | down => total - settings.lines + 1 - first

end Direction

variable {direction : Direction}

theorem edge_mem_numbers_iff (tall : 0 < settings.lines) (filled : 0 < lines.length)
    (fits : Window.Fits settings lines.length first) (name : String) :
    direction.edge lines.length ∈ (Window.listing settings name lines first).numbers ↔
      first = direction.goal settings lines.length := by
  have within := fits.within
  have positive := fits.positive
  rw [Window.mem_numbers_listing_iff fits]
  cases direction <;> simp only [Direction.edge, Direction.goal] <;> omega

/-- The number of scrolls that together lead so far. -/
def scrollsFor (settings : WindowSettings) (distance : Nat) : Nat :=
  (distance + settings.step - 1) / settings.step

theorem le_scrollsFor_mul (settings : WindowSettings) (distance : Nat) :
    distance ≤ scrollsFor settings distance * settings.step := by
  have least := one_le_step settings
  have rest := Nat.mod_lt (distance + settings.step - 1) least
  have whole := Nat.div_add_mod (distance + settings.step - 1) settings.step
  rw [Nat.mul_comm] at whole
  unfold scrollsFor
  omega

/-! ## Where the window is after some scrolls -/

theorem fits_moved (settings : WindowSettings) (total : Nat) (direction : Direction)
    (first : Nat) : Window.Fits settings total (moved settings total direction first) :=
  Window.fits_clamp settings total _

theorem fits_iterate_moved (fits : Window.Fits settings total first) (direction : Direction)
    (turn : Nat) : Window.Fits settings total ((moved settings total direction)^[turn] first) := by
  cases turn with
  | zero => exact fits
  | succ before =>
      rw [Function.iterate_succ_apply']
      exact fits_moved settings total direction _

/-- A scroll moves the window by a step at most. -/
theorem moved_near (fits : Window.Fits settings total first) (direction : Direction) :
    moved settings total direction first ≤ first + settings.step ∧
      first ≤ moved settings total direction first + settings.step := by
  have within := fits.within
  have positive := fits.positive
  cases direction with
  | up =>
      rw [moved_up fits]
      omega
  | down =>
      rw [moved_down fits]
      omega

/-- A scroll takes a whole step off the distance, or what is left of it. -/
theorem distance_moved (fits : Window.Fits settings total first) (direction : Direction) :
    direction.distance settings total (moved settings total direction first) =
      direction.distance settings total first - settings.step := by
  have within := fits.within
  have positive := fits.positive
  cases direction with
  | up =>
      rw [moved_up fits]
      simp only [Direction.distance]
      omega
  | down =>
      rw [moved_down fits]
      simp only [Direction.distance]
      omega

theorem distance_iterate_moved (fits : Window.Fits settings total first) (direction : Direction)
    (turn : Nat) :
    direction.distance settings total ((moved settings total direction)^[turn] first) =
      direction.distance settings total first - turn * settings.step := by
  induction turn with
  | zero => rw [Function.iterate_zero_apply, Nat.zero_mul, Nat.sub_zero]
  | succ before inductionHypothesis =>
      rw [Function.iterate_succ_apply', distance_moved (fits_iterate_moved fits direction before),
        inductionHypothesis, Nat.sub_sub, Nat.succ_mul]

theorem distance_eq_zero_iff (fits : Window.Fits settings total first) :
    direction.distance settings total first = 0 ↔ first = direction.goal settings total := by
  have within := fits.within
  have positive := fits.positive
  cases direction <;> simp only [Direction.distance, Direction.goal] <;> omega

/-- After scrolls enough the window has come to its goal. -/
theorem iterate_moved_scrollsFor (fits : Window.Fits settings total first)
    (direction : Direction) :
    (moved settings total direction)^[scrollsFor settings
      (direction.distance settings total first)] first = direction.goal settings total := by
  rw [← distance_eq_zero_iff (fits_iterate_moved fits direction _), distance_iterate_moved fits]
  exact Nat.sub_eq_zero_of_le (le_scrollsFor_mul settings _)

/-- Once there the window stays. -/
theorem iterate_moved_of_goal (fits : Window.Fits settings total first) {turn later : Nat}
    (reached : (moved settings total direction)^[turn] first = direction.goal settings total)
    (after : turn ≤ later) :
    (moved settings total direction)^[later] first = direction.goal settings total := by
  have rest := (distance_eq_zero_iff (fits_iterate_moved fits direction turn)).mpr reached
  rw [distance_iterate_moved fits] at rest
  rw [← distance_eq_zero_iff (fits_iterate_moved fits direction later),
    distance_iterate_moved fits]
  have further := Nat.mul_le_mul_right settings.step after
  omega

/-! ## The answers to scrolling -/

/-- An answer, and then the answers to scrolling over and over, each with the world that it
leaves. -/
def scrolling (settings : WindowSettings) (direction : Direction) (environment : Environment)
    (answer : Except Failure String × World) : Nat → Except Failure String × World
  | 0 => answer
  | turn + 1 =>
    scroll settings direction environment Dictionary.empty
      (scrolling settings direction environment answer turn).2

/-- The answers are windows onto the lines.  Between two of them no line is left out, and if they
differ they have the rows of the overlap in common.  The edge comes into sight after so many
scrolls, and from then on nothing changes any more. -/
structure Sweeps (settings : WindowSettings) (lines : List String) (edge bound : Nat)
    (answers : Nat → Except Failure String × World) (listing : Nat → Window.Listing) : Prop where
  windows : ∀ turn, (answers turn).1 = .ok (listing turn).text
  parts : ∀ turn, (listing turn).Partitions settings lines
  gapless : ∀ turn, (listing turn).Gapless (listing (turn + 1))
  shares : ∀ turn, listing turn ≠ listing (turn + 1) →
    (listing turn).Shares (min settings.overlap (settings.lines - 1)) (listing (turn + 1))
  arrives : ∃ turn ≤ bound, edge ∈ (listing turn).numbers
  settles : ∀ turn, edge ∈ (listing turn).numbers →
    ∀ later, turn ≤ later → answers later = answers turn

/-- What lies between a line of the first window and the edge comes into sight. -/
theorem Sweeps.visits {edge bound : Nat} {answers : Nat → Except Failure String × World}
    {listing : Nat → Window.Listing} (sweeps : Sweeps settings lines edge bound answers listing)
    {low : Nat} (start : low ∈ (listing 0).numbers) {number : Nat} (above : low ≤ number)
    (below : number ≤ edge) : ∃ turn ≤ bound, number ∈ (listing turn).numbers := by
  have tall : 0 < min settings.lines lines.length := by
    rw [(sweeps.parts 0).numbers, List.mem_range'_1] at start
    omega
  -- whatever line has been reached, all lines from the start up to it have been in sight
  have reaches : ∀ turn, ∀ high ∈ (listing turn).numbers, number ≤ high →
      ∃ earlier ≤ turn, number ∈ (listing earlier).numbers := by
    intro turn
    induction turn with
    | zero =>
        intro high shown inside
        refine ⟨0, Nat.le_refl 0, ?_⟩
        rw [(sweeps.parts 0).numbers, List.mem_range'_1] at start shown ⊢
        omega
    | succ before inductionHypothesis =>
        intro high shown inside
        have first : (listing before).above + 1 ∈ (listing before).numbers := by
          rw [(sweeps.parts before).numbers, List.mem_range'_1]
          omega
        by_cases higher : number ≤ (listing before).above + 1
        · rcases inductionHypothesis _ first higher with ⟨earlier, within, seen⟩
          exact ⟨earlier, Nat.le_succ_of_le within, seen⟩
        · have between := sweeps.gapless before _ (List.mem_append_left _ first) high
            (List.mem_append_right _ shown) number (by omega) inside
          rcases List.mem_append.mp between with here | later
          · exact ⟨before, Nat.le_succ before, here⟩
          · exact ⟨before + 1, Nat.le_refl _, later⟩
  rcases sweeps.arrives with ⟨turn, within, shown⟩
  rcases reaches turn edge shown below with ⟨earlier, before, seen⟩
  exact ⟨earlier, before.trans within, seen⟩

/-- Scrolling from a window of a file that is found again. -/
theorem scrolling_of_view (view : View settings environment place text first report after)
    (visible : Text.isBlankOnly place.text.toList = false)
    (countable : (Window.linesOf text).length < Decimal.largest) (direction : Direction)
    (turn : Nat) :
    scrolling settings direction environment (.ok report, after) turn =
      shown settings environment after place (Window.linesOf text)
        ((moved settings (Window.linesOf text).length direction)^[turn] first) := by
  induction turn with
  | zero => exact view.shows
  | succ before inductionHypothesis =>
      have within := (fits_iterate_moved view.fits direction before).le_succ
      rw [scrolling, inductionHypothesis, Function.iterate_succ_apply']
      exact scroll_remember view.found visible view.read (by omega) settings direction _

theorem sweeps_of_view (tall : 0 < settings.lines)
    (view : View settings environment place text first report after)
    (visible : Text.isBlankOnly place.text.toList = false)
    (filled : 0 < (Window.linesOf text).length)
    (countable : (Window.linesOf text).length < Decimal.largest) (direction : Direction) :
    Sweeps settings (Window.linesOf text) (direction.edge (Window.linesOf text).length)
      (scrollsFor settings (direction.distance settings (Window.linesOf text).length first))
      (scrolling settings direction environment (.ok report, after))
      (fun turn => Window.listing settings (environment.display place) (Window.linesOf text)
        ((moved settings (Window.linesOf text).length direction)^[turn] first)) := by
  have fits := fits_iterate_moved view.fits direction
  have near (turn : Nat) := moved_near (fits turn) direction
  have answers := scrolling_of_view view visible countable direction
  constructor
  case windows =>
    intro turn
    rw [answers, shown, Window.text_listing (fits turn)]
  case parts => exact fun turn => Window.partitions_listing (fits turn) _
  case gapless =>
    intro turn
    have fitsNext := fits (turn + 1)
    rw [Function.iterate_succ_apply'] at fitsNext ⊢
    exact gapless_listing tall (fits turn) fitsNext (near turn).1 (near turn).2 _
  case shares =>
    intro turn different
    have fitsNext := fits (turn + 1)
    rw [Function.iterate_succ_apply'] at different fitsNext ⊢
    apply shares_listing (fits turn) fitsNext (near turn).1 (near turn).2
    intro same
    rw [← same] at different
    exact different rfl
  case arrives =>
    refine ⟨_, Nat.le_refl _, ?_⟩
    rw [edge_mem_numbers_iff tall filled (fits _)]
    exact iterate_moved_scrollsFor view.fits direction
  case settles =>
    intro turn shown later follows
    rw [edge_mem_numbers_iff tall filled (fits turn)] at shown
    rw [answers, answers, shown, iterate_moved_of_goal view.fits shown follows]

/-! ## From the first window on -/

/-- Downwards from the answer by which the file of a place was opened, and upwards from wherever a
command of the viewer has left the window of this file, scrolling leaves out no line, comes to the
end of the file, and stays there.  On the way down every line comes into sight. -/
structure Scrolls (settings : WindowSettings) (environment : Environment) (place : Place)
    (text : String) (opened : Except Failure String × World) : Prop where
  down : ∃ listing,
    Sweeps settings (Window.linesOf text) (Window.linesOf text).length
      (scrollsFor settings ((Window.linesOf text).length - settings.lines))
      (scrolling settings .down environment opened) listing ∧
    ∀ number, 1 ≤ number → number ≤ (Window.linesOf text).length →
      ∃ turn ≤ scrollsFor settings ((Window.linesOf text).length - settings.lines),
        number ∈ (listing turn).numbers
  up : ∀ report after first, LeavesWindow settings environment report after →
    environment.value? after currentFile = some place.text →
    contentOf environment after place = .ok text →
    environment.value? after firstLine = some (Decimal.write first) →
      ∃ listing, Sweeps settings (Window.linesOf text) 1 (scrollsFor settings (first - 1))
        (scrolling settings .up environment (.ok report, after)) listing

theorem scrolls_of_visible (tall : 0 < settings.lines)
    (found : ∃ input, environment.resolve input = .ok place)
    (read : contentOf environment world place = .ok text)
    (filled : 0 < (Window.linesOf text).length)
    (countable : (Window.linesOf text).length < Decimal.largest)
    (visible : Text.isBlankOnly place.text.toList = false) :
    Scrolls settings environment place text
      (shown settings environment world place (Window.linesOf text) 1) where
  down := by
    have fits : Window.Fits settings (Window.linesOf text).length 1 := ⟨by omega, by omega⟩
    have sweeps := sweeps_of_view tall (view_shown found read fits) visible filled countable .down
    have whole : Direction.down.distance settings (Window.linesOf text).length 1 =
        (Window.linesOf text).length - settings.lines := Nat.add_sub_cancel _ _
    rw [whole] at sweeps
    refine ⟨_, sweeps, fun number positive inside => ?_⟩
    apply sweeps.visits _ positive inside
    rw [Function.iterate_zero_apply, Window.mem_numbers_listing_iff fits]
    omega
  up := by
    intro report after first left file readable line
    rcases exists_view left with ⟨other, held, start, view⟩
    rcases eq_of_text_eq found view.found
      (Option.some.inj (view.file.symm.trans file)) with rfl
    rcases Except.ok.inj (view.read.symm.trans readable) with rfl
    rcases Decimal.write_inj (Option.some.inj (line.symm.trans view.line)) with rfl
    exact ⟨_, sweeps_of_view tall view visible filled countable .up⟩

/-- Where the path of the file is blank, the first scroll fails. -/
theorem not_scrolls_of_blank (found : ∃ input, environment.resolve input = .ok place)
    (blank : Text.isBlankOnly place.text.toList = true) :
    ¬ Scrolls settings environment place text
      (shown settings environment world place (Window.linesOf text) 1) := by
  rintro ⟨⟨listing, sweeps, _⟩, _⟩
  -- a window is demanded after one scroll, however short the file is
  have answer := sweeps.windows 1
  have fails := scroll_remember_of_blank found blank settings .down Dictionary.empty world 1
  rw [scrolling, scrolling, shown, fails] at answer
  cases answer

/-- After a file has been opened, scrolling visits every line of it, loses none between two
windows, keeps the overlap, and settles at the end of the file after as many scrolls as its length
needs, and so it does upwards from any position.  This holds for every file except one whose path,
as it is stored for the open file, is blank. -/
theorem scrolling_sweeps_iff (settings : WindowSettings) (tall : 1 ≤ settings.lines)
    (held : HoldsText environment world place text)
    (filled : 1 ≤ (Window.linesOf text).length)
    (small : (Window.linesOf text).length + settings.lines < 2 ^ 63) {arguments : Arguments}
    {path : String} (given : arguments.get? "path" = some path)
    (unasked : arguments.get? "line_number" = none)
    (resolved : environment.resolve path = .ok place) :
    Scrolls settings environment place text (openFile settings environment arguments world) ↔
      Text.isBlankOnly place.text.toList = false := by
  have countable : (Window.linesOf text).length < Decimal.largest := by
    unfold Decimal.largest
    omega
  have read := contentOf_of_holdsText held
  rcases held with ⟨executable, file⟩
  rw [openFile_of_find? given resolved unasked file]
  constructor
  · intro scrolls
    by_contra blank
    exact not_scrolls_of_blank ⟨path, resolved⟩ (Bool.of_not_eq_false blank) scrolls
  · exact scrolls_of_visible tall ⟨path, resolved⟩ read filled countable

/-- Three lines in a window of two. -/
theorem scrolling_sweeps_three :
    HoldsText Sample.environment Sample.threeWorld ⟨true, ["ws", "a.txt"]⟩ Sample.three ∧
      (Window.linesOf Sample.three).length = 3 ∧
      Scrolls { lines := 2, overlap := 1 } Sample.environment ⟨true, ["ws", "a.txt"]⟩
        Sample.three (openFile { lines := 2, overlap := 1 } Sample.environment
          (Sample.pathArguments "a.txt") Sample.threeWorld) := by
  refine ⟨Sample.holdsText_threeWorld, by decide, ?_⟩
  apply (scrolling_sweeps_iff { lines := 2, overlap := 1 } (by decide)
    Sample.holdsText_threeWorld (by decide) (by decide) rfl rfl (by decide +kernel)).mpr
  decide

/-- The file that is named by a blank is opened and shown in a workspace that is not named, but
the scroll that should show its second line fails. -/
theorem scrolling_loses_blank_path :
    HoldsText Sample.rootless Sample.blankStart ⟨false, [" "]⟩ "one\ntwo\n" ∧
      (Window.linesOf "one\ntwo\n").length = 2 ∧
      Sample.rootless.resolve "./ " = .ok ⟨false, [" "]⟩ ∧
      (openFile { lines := 1 } Sample.rootless (Sample.pathArguments "./ ")
        Sample.blankStart).1 =
          .ok "[File:   (2 lines total)]\n1:one\n(1 more lines below)" ∧
      (scrolling { lines := 1 } .down Sample.rootless
        (openFile { lines := 1 } Sample.rootless (Sample.pathArguments "./ ")
          Sample.blankStart) 1).1 = .error (.machine .notFound) ∧
      ¬ Scrolls { lines := 1 } Sample.rootless ⟨false, [" "]⟩ "one\ntwo\n"
        (openFile { lines := 1 } Sample.rootless (Sample.pathArguments "./ ")
          Sample.blankStart) := by
  have held := Sample.holdsText_blankStart
  have resolved := Sample.resolve_blank
  rw [Sample.openFile_blankStart]
  refine ⟨held, by decide, resolved, ?_, ?_, not_scrolls_of_blank ⟨_, resolved⟩ (by decide)⟩
  · decide +kernel
  · exact congrArg Prod.fst (scroll_remember_of_blank ⟨_, resolved⟩ (by decide) { lines := 1 }
      .down Dictionary.empty Sample.blankStart 1)

end Viewer

end Workbench
