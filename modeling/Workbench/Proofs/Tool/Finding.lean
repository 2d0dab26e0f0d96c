import Workbench.Proofs.Search.Hits
import Workbench.Proofs.Text.Decimal
import Workbench.Proofs.Tool.Remembering
namespace Workbench

/-!
# Searching a file, opening it and going to a line

The three tools look at the same file: the search lists its hits, opening it shows the first
window, and going to a line shows the window around it.  A line is refused only if the file has no
such line, and the window around a line that the file has shows this line under its number.
-/

namespace Window

variable {settings : WindowSettings} {lines : List String}

/-- Behind the number of a row stands the line of this number. -/
theorem getElem?_numbered (number : Nat) (lines : List String) (offset : Nat) :
    (numbered number lines)[offset]? =
      lines[offset]?.map (fun line => Decimal.write (number + offset) ++ ":" ++ line) := by
  induction lines generalizing number offset with
  | nil => rfl
  | cons line rest inductionHypothesis =>
      cases offset with
      | zero => rfl
      | succ before =>
          have same : number + 1 + before = number + (before + 1) := by
            omega
          rw [numbered, List.getElem?_cons_succ, List.getElem?_cons_succ, inductionHypothesis, same]

/-- The window shows the lines from its first one on, as many as it is high. -/
theorem mem_rows {first number : Nat} {line : String} (found : lines[number - 1]? = some line)
    (positive : 1 ≤ first) (above : first ≤ number) (below : number < first + settings.lines) :
    Decimal.write number ++ ":" ++ line ∈ rows settings lines first := by
  have offset : first - 1 + (number - first) = number - 1 := by
    omega
  have counted : first + (number - first) = number := by
    omega
  refine List.mem_iff_getElem?.mpr ⟨number - first, ?_⟩
  rw [rows, getElem?_numbered, List.getElem?_take_of_lt (by omega), List.getElem?_drop, offset,
    found, Option.map_some, counted]

/-- The window around a line holds it, unless the window is empty. -/
theorem centered_holds (tall : 0 < settings.lines) {total number : Nat} (positive : 1 ≤ number)
    (inside : number ≤ total) :
    clamp settings total (centered settings number) ≤ number ∧
      number < clamp settings total (centered settings number) + settings.lines := by
  have filled : total ≠ 0 := by
    omega
  rw [clamp, if_neg filled, centered]
  omega

theorem clamp_one (settings : WindowSettings) (total : Nat) : clamp settings total 1 = 1 := by
  unfold clamp
  split
  · rfl
  · omega

/-- A window begins with the name of the file and the number of its lines. -/
theorem exists_render (settings : WindowSettings) (name : String) (lines : List String)
    (first : Nat) :
    ∃ rest, render settings name lines first =
      "[File: " ++ name ++ " (" ++ Decimal.write lines.length ++ " lines total)]" ++ rest := by
  rw [render]
  generalize "[File: " ++ name ++ " (" ++ Decimal.write lines.length ++ " lines total)]" = heading
  have joined (others : List String) : ∃ rest,
      String.intercalate "\n" (heading :: others) = heading ++ rest := by
    cases others with
    | nil => exact ⟨"", by rw [String.intercalate_singleton, String.append_empty]⟩
    | cons next later =>
        refine ⟨"\n" ++ String.intercalate "\n" (next :: later), ?_⟩
        rw [String.intercalate_cons_cons, String.append_assoc]
  exact joined _

end Window

namespace Viewer

variable {settings : WindowSettings} {environment : Environment} {world : World} {place : Place}
  {text : String}

/-- The content of a regular file is read if it is a text. -/
theorem contentOf_of_find? {executable : Bool}
    (held : world.tree.find? environment.host.standing place.text =
      some (.file text.toUTF8 executable)) : contentOf environment world place = .ok text := by
  apply Node.readText_eq_ok_iff.mpr
  unfold Node.find? at held
  split at held
  · rename_i spot located
    cases spot with
    | mk names node =>
        cases held
        exact Node.readBytes_eq_ok_iff.mpr ⟨names, executable, located⟩
  · cases held

/-- The window of a file from a line on, and the world in which it is remembered. -/
def shown (settings : WindowSettings) (environment : Environment) (world : World) (place : Place)
    (lines : List String) (first : Nat) : Except Failure String × World :=
  (.ok (Window.render settings (environment.display place) lines first),
    remember environment world place first)

theorem showWindow_of_content (read : contentOf environment world place = .ok text) (asked : Nat) :
    showWindow settings environment world place asked =
      shown settings environment world place (Window.linesOf text)
        (Window.clamp settings (Window.linesOf text).length asked) := by
  rw [showWindow, read]
  rfl

/-- A written number that is not too large is read back. -/
theorem number?_of_write {arguments : Arguments} {name : String} {number : Nat}
    (given : arguments.get? name = some (Decimal.write number))
    (small : number ≤ Decimal.largest) : arguments.number? name = .ok (some number) := by
  rw [Arguments.number?, given]
  simp only [Decimal.trim_write, Decimal.read?_write, if_pos small]

/-- A line that the file has may be asked for. -/
theorem requestedLine_of_number {arguments : Arguments} {number total : Nat}
    (asked : arguments.number? "line_number" = .ok (some number)) (positive : 1 ≤ number)
    (inside : number ≤ total) : requestedLine arguments total = .ok (some number) := by
  have held : 1 ≤ number ∧ number ≤ max total 1 := by
    omega
  rw [requestedLine, asked]
  exact if_pos held

theorem goToLine_of_number (settings : WindowSettings) {arguments : Arguments} {number : Nat}
    (opened : openPlace environment world = .ok place)
    (read : contentOf environment world place = .ok text)
    (asked : arguments.number? "line_number" = .ok (some number)) (positive : 1 ≤ number)
    (inside : number ≤ (Window.linesOf text).length) :
    goToLine settings environment arguments world =
      showWindow settings environment world place (Window.centered settings number) := by
  unfold goToLine goToLineWith
  rw [opened]
  simp only [read, requestedLine_of_number asked positive inside]

theorem goToLine_of_write {arguments : Arguments} {number : Nat}
    (opened : openPlace environment world = .ok place)
    (read : contentOf environment world place = .ok text)
    (given : arguments.get? "line_number" = some (Decimal.write number))
    (small : number ≤ Decimal.largest) (positive : 1 ≤ number)
    (inside : number ≤ (Window.linesOf text).length) :
    goToLine settings environment arguments world =
      shown settings environment world place (Window.linesOf text)
        (Window.clamp settings (Window.linesOf text).length (Window.centered settings number)) := by
  rw [goToLine_of_number settings opened read (number?_of_write given small) positive inside]
  exact showWindow_of_content read _

theorem directoryAt_of_fileAt {tree : Node} {standing : List String} {path : String}
    (file : tree.fileAt standing path = true) : tree.directoryAt standing path = false := by
  unfold Node.fileAt at file
  unfold Node.directoryAt
  cases found : tree.find? standing path with
  | none => rfl
  | some node =>
      rw [found] at file
      cases node with
      | directory entries => cases file
      | file content executable => rfl
      | link target => rfl

theorem openFile_of_number (settings : WindowSettings) {arguments : Arguments} {path : String}
    {number : Nat} (given : arguments.get? "path" = some path)
    (resolved : environment.resolve path = .ok place)
    (file : world.tree.fileAt environment.host.standing place.text = true)
    (read : contentOf environment world place = .ok text)
    (asked : arguments.number? "line_number" = .ok (some number)) (positive : 1 ≤ number)
    (inside : number ≤ (Window.linesOf text).length) :
    openFile settings environment arguments world =
      showWindow settings environment world place (Window.centered settings number) := by
  unfold openFile openFileWith Arguments.require
  simp only [given, resolved, directoryAt_of_fileAt file, file, read,
    requestedLine_of_number asked positive inside, Bool.false_eq_true, if_false, Bool.not_true]

/-- A file that is opened is shown from its first line on, unless a line is asked for. -/
theorem openFile_of_find? {arguments : Arguments} {path : String} {executable : Bool}
    (given : arguments.get? "path" = some path) (resolved : environment.resolve path = .ok place)
    (unasked : arguments.get? "line_number" = none)
    (held : world.tree.find? environment.host.standing place.text =
      some (.file text.toUTF8 executable)) :
    openFile settings environment arguments world =
      shown settings environment world place (Window.linesOf text) 1 := by
  have read := contentOf_of_find? held
  have file : world.tree.fileAt environment.host.standing place.text = true := by
    rw [Node.fileAt, held]
  unfold openFile openFileWith Arguments.require requestedLine Arguments.number?
  simp only [given, resolved, directoryAt_of_fileAt file, file, read, unasked, Bool.false_eq_true,
    if_false, Bool.not_true]
  rw [showWindow_of_content read, Window.clamp_one]

end Viewer

namespace Search

theorem inFile_of_find? {settings : SearchSettings} {environment : Environment}
    {arguments : Arguments} {world : World} {place : Place} {term : String} {content : ByteArray}
    {executable : Bool} (given : arguments.get? "search_term" = some term)
    (sought : target environment arguments world = .ok place)
    (held : world.tree.find? environment.host.standing place.text =
      some (.file content executable)) :
    inFile settings environment arguments world =
      (.ok (listing settings term (environment.display place) (Hit.inFile term content)),
        world) := by
  unfold inFile Arguments.require
  simp only [given, sought, held]

end Search

end Workbench
