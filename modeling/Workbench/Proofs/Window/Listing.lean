import Workbench.Proofs.Tool.Finding
namespace Workbench

/-!
# The parts of a window

A window is a text, but what is said about it concerns its parts: which rows it has, and how many
lines are left out above and below.  Here the parts are data of their own, and the text is written
from them.  Three things can go wrong between a file and its window.  A row can stand under a number
that is not its own, a line can be neither shown nor counted, and the window can be shorter than
there is room for.  None of them does if the window starts at a line from which it fits, which is
what the clamp provides for.
-/

namespace Window

/-- A line under its number. -/
structure Row where
  number : Nat
  line : String
  deriving DecidableEq, Repr

def Row.text (row : Row) : String :=
  Decimal.write row.number ++ ":" ++ row.line

/-- The parts of a window. -/
structure Listing where
  name : String
  /-- How many lines lie above the first row. -/
  above : Nat
  rows : List Row
  /-- How many lines lie below the last row. -/
  below : Nat
  deriving DecidableEq, Repr

namespace Listing

def total (listing : Listing) : Nat :=
  listing.above + listing.rows.length + listing.below

def numbers (listing : Listing) : List Nat :=
  listing.rows.map Row.number

/-- A note of lines that are left out, if there are any. -/
def note (count : Nat) (words : String) : List String :=
  if 0 < count then ["(" ++ Decimal.write count ++ words] else []

def text (listing : Listing) : String :=
  let heading :=
    "[File: " ++ listing.name ++ " (" ++ Decimal.write listing.total ++ " lines total)]"
  String.intercalate "\n"
    (heading :: note listing.above " more lines above)" ++ listing.rows.map Row.text ++
      note listing.below " more lines below)")

/-- The rows are lines of the text under consecutive numbers, as many as the window has room for
and the text has, and with the lines above and below they make up the whole text. -/
structure Partitions (settings : WindowSettings) (lines : List String) (listing : Listing) :
    Prop where
  numbers : listing.numbers =
    List.range' (listing.above + 1) (min settings.lines lines.length)
  texts : ∀ row ∈ listing.rows, lines[row.number - 1]? = some row.line
  whole : listing.above + listing.rows.length + listing.below = lines.length

end Listing

/-! ## Where a window may start -/

/-- The window can start at this line without leaving room for lines that are further up. -/
structure Fits (settings : WindowSettings) (total first : Nat) : Prop where
  positive : 1 ≤ first
  within : first ≤ total - settings.lines + 1

variable {settings : WindowSettings} {total first : Nat}

/-- Clamping brings a line into the range from which the window fits. -/
theorem clamp_eq (settings : WindowSettings) (total asked : Nat) :
    clamp settings total asked = max 1 (min asked (total - settings.lines + 1)) := by
  unfold clamp
  split <;> omega

theorem fits_clamp (settings : WindowSettings) (total asked : Nat) :
    Fits settings total (clamp settings total asked) := by
  rw [clamp_eq]
  exact ⟨by omega, by omega⟩

theorem Fits.clamp_eq_self (fits : Fits settings total first) :
    clamp settings total first = first := by
  have positive := fits.positive
  have within := fits.within
  rw [clamp_eq]
  omega

theorem Fits.le_succ (fits : Fits settings total first) : first ≤ total + 1 := by
  have within := fits.within
  omega

/-! ## The parts of the window from a line on -/

/-- All lines under their numbers. -/
def entries (lines : List String) : List Row :=
  lines.mapIdx (fun offset line => ⟨offset + 1, line⟩)

def listing (settings : WindowSettings) (name : String) (lines : List String) (first : Nat) :
    Listing where
  name := name
  above := first - 1
  rows := ((entries lines).drop (first - 1)).take settings.lines
  below := lines.length - min (first - 1 + settings.lines) lines.length

variable {name : String} {lines : List String}

theorem length_entries (lines : List String) : (entries lines).length = lines.length :=
  List.length_mapIdx

theorem getElem?_entries (lines : List String) (offset : Nat) :
    (entries lines)[offset]? = lines[offset]?.map (fun line => ⟨offset + 1, line⟩) :=
  List.getElem?_mapIdx

theorem numbers_entries (lines : List String) :
    (entries lines).map Row.number = List.range' 1 lines.length := by
  apply List.ext_getElem?
  intro offset
  rw [List.getElem?_map, getElem?_entries, Option.map_map]
  by_cases inside : offset < lines.length
  · rw [List.getElem?_eq_getElem inside, List.getElem?_range' inside]
    simp only [Option.map_some, Function.comp_apply, Option.some.injEq]
    omega
  · have counted : (List.range' 1 lines.length).length ≤ offset := by
      rw [List.length_range']
      omega
    rw [List.getElem?_eq_none (by omega), List.getElem?_eq_none counted]
    rfl

theorem line_of_mem_entries {row : Row} (member : row ∈ entries lines) :
    lines[row.number - 1]? = some row.line := by
  rcases List.mem_iff_getElem?.mp member with ⟨offset, found⟩
  rw [getElem?_entries] at found
  rcases Option.map_eq_some_iff.mp found with ⟨line, there, rfl⟩
  exact there

/-- There are as many rows as the window is high or the text has lines. -/
theorem length_rows_listing (fits : Fits settings lines.length first) (name : String) :
    (listing settings name lines first).rows.length = min settings.lines lines.length := by
  have positive := fits.positive
  have within := fits.within
  simp only [listing, List.length_take, List.length_drop, length_entries]
  omega

theorem numbers_listing (fits : Fits settings lines.length first) (name : String) :
    (listing settings name lines first).numbers =
      List.range' first (min settings.lines lines.length) := by
  have positive := fits.positive
  have within := fits.within
  have start : 1 + (first - 1) * 1 = first := by
    omega
  simp only [Listing.numbers, listing, List.map_take, List.map_drop, numbers_entries]
  rw [List.drop_range', start]
  apply List.ext_getElem
  · simp only [List.length_take, List.length_range']
    omega
  · intro offset _ _
    rw [List.getElem_take, List.getElem_range', List.getElem_range']

theorem mem_numbers_listing_iff (fits : Fits settings lines.length first) (name : String)
    {number : Nat} :
    number ∈ (listing settings name lines first).numbers ↔
      first ≤ number ∧ number < first + min settings.lines lines.length := by
  rw [numbers_listing fits, List.mem_range'_1]

theorem partitions_listing (fits : Fits settings lines.length first) (name : String) :
    (listing settings name lines first).Partitions settings lines where
  numbers := by
    have positive := fits.positive
    have next : first - 1 + 1 = first := by
      omega
    rw [numbers_listing fits]
    simp only [listing, next]
  texts := fun _ member =>
    line_of_mem_entries (List.mem_of_mem_drop (List.mem_of_mem_take member))
  whole := by
    have positive := fits.positive
    have within := fits.within
    rw [length_rows_listing fits]
    simp only [listing]
    omega

/-- The rows are written as the window writes them. -/
theorem map_text_rows (positive : 1 ≤ first) (settings : WindowSettings) (name : String)
    (lines : List String) :
    (listing settings name lines first).rows.map Row.text = rows settings lines first := by
  apply List.ext_getElem?
  intro offset
  have counted : first - 1 + offset + 1 = first + offset := by
    omega
  rw [rows, getElem?_numbered, List.getElem?_map]
  simp only [listing, List.getElem?_take]
  split
  · rw [List.getElem?_drop, getElem?_entries, List.getElem?_drop, Option.map_map]
    congr 1
    funext line
    simp only [Function.comp_apply, Row.text, counted]
  · rfl

/-- The text of the parts is the text of the window. -/
theorem text_listing (fits : Fits settings lines.length first) (name : String) :
    (listing settings name lines first).text = render settings name lines first := by
  have positive := fits.positive
  have whole : (listing settings name lines first).total = lines.length :=
    (partitions_listing fits name).whole
  have above : (0 < first - 1) = (1 < first) := by
    rw [eq_iff_iff]
    omega
  have below : (0 < lines.length - min (first - 1 + settings.lines) lines.length) =
      (min (first - 1 + settings.lines) lines.length < lines.length) := by
    rw [eq_iff_iff]
    omega
  rw [Listing.text, map_text_rows positive, whole, render]
  simp only [listing, Listing.note, above, below, String.append_assoc]

example : (listing { lines := 2 } "a" ["one", "two", "three", "four"] 2).text =
    "[File: a (4 lines total)]\n(1 more lines above)\n2:two\n3:three\n(1 more lines below)" := by
  decide +kernel

/-- Of two windows that are full and not further apart than they are high, the last rows of the
upper one are the first rows of the lower one. -/
theorem exists_shared_rows {upper lower : Nat} (fits : Fits settings lines.length upper)
    (ordered : upper ≤ lower) (full : settings.lines ≤ lines.length) (name : String) :
    ∃ shared, shared <:+ (listing settings name lines upper).rows ∧
      shared <+: (listing settings name lines lower).rows ∧
      shared.length = settings.lines - (lower - upper) := by
  have positive := fits.positive
  have further : upper - 1 + (lower - upper) = lower - 1 := by
    omega
  refine ⟨(listing settings name lines upper).rows.drop (lower - upper), List.drop_suffix _ _, ?_,
    ?_⟩
  · have shorter : min (settings.lines - (lower - upper)) settings.lines =
        settings.lines - (lower - upper) := by
      omega
    have begins := List.take_prefix (settings.lines - (lower - upper))
      (listing settings name lines lower).rows
    simp only [listing] at begins ⊢
    rw [List.take_take, shorter] at begins
    rw [List.drop_take, List.drop_drop, further]
    exact begins
  · rw [List.length_drop, length_rows_listing fits, Nat.min_eq_left full]

end Window

end Workbench
