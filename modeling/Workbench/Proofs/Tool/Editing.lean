import Workbench.Proofs.Splice.Renumbering
import Workbench.Proofs.Tool.Edit
import Workbench.Proofs.Tool.Finding
import Workbench.Proofs.Workspace.Display
namespace Workbench

/-!
# Editing a file again and again

An edit of a regular text either is refused, and then nothing changes, or it makes the file the
spliced lines, each of them ended.  The file is regular again, so edits can follow one another, and
what the second one finds is what the first one has left.

That there is a second one is not a matter of course.  After each edit the open file is the text
of its path, which is resolved anew.  This leads back to the file, or, if the path is blank, to a
place where no file can be read.  Besides, a range that is moved down may end up with a number that
no longer can be read.  Apart from these two cases, two edits whose ranges do not meet can be made
in either order.
-/

namespace Viewer

variable {settings : WindowSettings} {environment : Environment} {world after : World}
  {place : Place} {old content : String} {arguments : Arguments} {start stop : Nat}

theorem length_linesOf (text : String) :
    (Window.linesOf text).length = (Text.lines text.toList).length :=
  List.length_map _

/-! ## A single edit -/

/-- Nothing can be read at the place that no step leads to. -/
theorem contentOf_nowhere (environment : Environment) (world : World) :
    contentOf environment world Place.nowhere = .error .notFound := by
  rfl

/-- The new text that an edit is given; none is the empty text. -/
def newText (arguments : Arguments) : String :=
  (arguments.get? "content").getD ""

/-- The arguments ask for this content in the place of the lines from `start` to `stop`. -/
structure Asks (arguments : Arguments) (start stop : Nat) (content : String) : Prop where
  starts : bound arguments "start_line" = .ok start
  stops : bound arguments "end_line" = .ok stop
  content : newText arguments = content

/-- The edit goes through: it answers with a window, and leaves this world. -/
def Edits (settings : WindowSettings) (environment : Environment) (arguments : Arguments)
    (world after : World) : Prop :=
  ∃ report, edit settings environment arguments world = (.ok report, after) ∧
    Window.opening.toList <+: report.toList

theorem Edits.unique {first second : World}
    (edited : Edits settings environment arguments world first)
    (again : Edits settings environment arguments world second) : first = second := by
  rcases edited with ⟨_, answer, _⟩
  rcases again with ⟨_, other, _⟩
  exact congrArg Prod.snd (answer.symm.trans other)

/-- Where an edit goes through, a text could be read and both bounds were numbers. -/
theorem Edits.exists_content (edited : Edits settings environment arguments world after) :
    ∃ place start stop text, openPlace environment world = .ok place ∧
      bound arguments "start_line" = .ok start ∧ bound arguments "end_line" = .ok stop ∧
      contentOf environment world place = .ok text := by
  rcases edited with ⟨report, answer, begins⟩
  unfold edit editWith at answer
  cases opened : openPlace environment world with
  | error closed =>
      rw [opened] at answer
      exact absurd begins (windowless_of_openPlace opened _ (congrArg Prod.fst answer))
  | ok place =>
      cases starts : bound arguments "start_line" with
      | error failure =>
          simp only [opened, starts] at answer
          cases answer
      | ok start =>
          cases stops : bound arguments "end_line" with
          | error failure =>
              simp only [opened, starts, stops] at answer
              cases answer
          | ok stop =>
              cases read : contentOf environment world place with
              | error cause =>
                  simp only [opened, starts, stops, read] at answer
                  cases answer
              | ok text => exact ⟨place, start, stop, text, rfl, rfl, rfl, read⟩

theorem opening_render (settings : WindowSettings) (name : String) (lines : List String)
    (first : Nat) :
    Window.opening.toList <+: (Window.render settings name lines first).toList := by
  rcases Window.exists_render settings name lines first with ⟨rest, shape⟩
  rw [shape, Window.opening]
  simp only [String.toList_append, List.append_assoc]
  exact List.prefix_append _ _

/-- What is open after a window of a file of the workspace has been shown. -/
theorem openPlace_remember (found : ∃ input, environment.resolve input = .ok place)
    (world : World) (first : Nat) :
    openPlace environment (remember environment world place first) =
      .ok (if Text.isBlankOnly place.text.toList then Place.nowhere else place) := by
  rcases found with ⟨input, resolved⟩
  have again : environment.resolve place.text =
      .ok (if Text.isBlankOnly place.text.toList then Place.nowhere else place) :=
    Workspace.resolve_text_of_resolve resolved
  rw [openPlace, value?_remember_currentFile (Environment.Shares.refl environment)]
  simp only [again]

/-- A file that can be read can be written, and then holds what has been written. -/
theorem exists_written (read : contentOf environment world place = .ok old) (new : String) :
    ∃ tree, world.tree.writeText environment.host.standing place.text new = .ok tree ∧
      contentOf environment { world with tree := tree } place = .ok new := by
  rcases Node.writeBytes_of_readBytes (Node.readText_eq_ok_iff.mp read) new.toUTF8 with
    ⟨_, _, _, _, written, reread⟩
  exact ⟨_, written, Node.readText_eq_ok_iff.mpr reread⟩

/-- The window of a file that has just been written is shown, and the path is remembered. -/
theorem showWindow_of_written (settings : WindowSettings)
    (opened : openPlace environment world = .ok place)
    (read : contentOf environment world place = .ok old) {new : String} {tree : Node}
    (written : world.tree.writeText environment.host.standing place.text new = .ok tree)
    (first : Nat) :
    ∃ report after, showWindow settings environment { world with tree := tree } place first =
        (.ok report, after) ∧
      Window.opening.toList <+: report.toList ∧
      contentOf environment after place = .ok new ∧
      openPlace environment after =
        .ok (if Text.isBlankOnly place.text.toList then Place.nowhere else place) := by
  rcases exists_written read new with ⟨_, again, now⟩
  rcases Except.ok.inj (again.symm.trans written) with rfl
  exact ⟨_, _, showWindow_of_content now first, opening_render settings _ _ _, now,
    openPlace_remember (exists_input_of_openPlace opened) _ _⟩

/-- A range that fits is replaced, and the window is put around its first line. -/
theorem edit_eq_showWindow (settings : WindowSettings)
    (opened : openPlace environment world = .ok place)
    (read : contentOf environment world place = .ok old)
    (asks : Asks arguments start stop content)
    (fits : Splice.fault? (Text.lines old.toList).length start stop = none) :
    ∃ tree, world.tree.writeText environment.host.standing place.text
        (String.ofList (Splice.apply start stop content.toList old.toList)) = .ok tree ∧
      edit settings environment arguments world =
        showWindow settings environment { world with tree := tree } place
          (Window.centered settings start) := by
  rw [← length_linesOf] at fits
  rcases asks with ⟨starts, stops, rfl⟩
  rcases exists_written read
      (String.ofList (Splice.apply start stop (newText arguments).toList old.toList)) with
    ⟨tree, written, _⟩
  refine ⟨tree, written, ?_⟩
  unfold newText at written
  unfold edit editWith
  rw [opened, starts, stops]
  simp only [read, fits, written]

/-- A range that fits is replaced, and the path of the file is remembered. -/
theorem edits_of_fits (settings : WindowSettings)
    (opened : openPlace environment world = .ok place)
    (read : contentOf environment world place = .ok old)
    (asks : Asks arguments start stop content)
    (fits : Splice.fault? (Text.lines old.toList).length start stop = none) :
    ∃ after, Edits settings environment arguments world after ∧
      contentOf environment after place =
        .ok (String.ofList (Splice.apply start stop content.toList old.toList)) ∧
      openPlace environment after =
        .ok (if Text.isBlankOnly place.text.toList then Place.nowhere else place) := by
  rcases edit_eq_showWindow settings opened read asks fits with ⟨tree, written, shows⟩
  rcases showWindow_of_written settings opened read written (Window.centered settings start) with
    ⟨report, after, window, begins, now, back⟩
  exact ⟨after, ⟨report, shows.trans window, begins⟩, now, back⟩

/-- A range that does not fit is reported, and nothing changes. -/
theorem edit_of_fault (settings : WindowSettings)
    (opened : openPlace environment world = .ok place)
    (read : contentOf environment world place = .ok old)
    (asks : Asks arguments start stop content) {fault : Splice.Fault}
    (faulty : Splice.fault? (Text.lines old.toList).length start stop = some fault) :
    edit settings environment arguments world = (complain (faultReport fault), world) := by
  rw [← length_linesOf] at faulty
  unfold edit editWith
  rw [opened, asks.starts, asks.stops]
  simp only [read, faulty]

/-! ## One edit after another -/

/-- The world after edits, of which each finds what the ones before have left. -/
def editAll (settings : WindowSettings) (environment : Environment) (requests : List Arguments)
    (world : World) : World :=
  requests.foldl (fun world arguments => (edit settings environment arguments world).2) world

/-- The place has a regular text, and no other file can be open. -/
structure Tended (environment : Environment) (place : Place) (world : World) : Prop where
  regular : ∃ text, contentOf environment world place = .ok text ∧ Splice.Regular text.toList
  reached : ∀ other text, openPlace environment world = .ok other →
    contentOf environment world other = .ok text → other = place

theorem tended_of_openPlace (opened : openPlace environment world = .ok place)
    (read : contentOf environment world place = .ok old) (regular : Splice.Regular old.toList) :
    Tended environment place world where
  regular := ⟨old, read, regular⟩
  reached := fun _ _ found _ => Except.ok.inj (found.symm.trans opened)

/-- An edit leaves a regular text, whether it goes through or not. -/
theorem tended_edit (settings : WindowSettings) (tended : Tended environment place world)
    (returnless : '\r' ∉ (newText arguments).toList) :
    Tended environment place (edit settings environment arguments world).2 := by
  rcases edit_cases settings environment arguments world with
    same | ⟨found, start, stop, text, tree, opened, read, _, written, shows⟩
  · rw [same]
    exact tended
  · rcases tended.regular with ⟨held, there, regular⟩
    rcases tended.reached found text opened read with rfl
    rcases Except.ok.inj (read.symm.trans there) with rfl
    rcases showWindow_of_written settings opened read written
        (Window.centered settings start) with ⟨_, after, window, _, now, back⟩
    rw [shows, window]
    refine ⟨⟨_, now, ?_⟩, ?_⟩
    · rw [String.toList_ofList]
      exact Splice.regular_apply regular returnless start stop
    · intro other content leads readable
      rw [back] at leads
      rcases Except.ok.inj leads with rfl
      split
      · rename_i blank
        rw [if_pos blank, contentOf_nowhere] at readable
        cases readable
      · rfl

theorem tended_editAll (settings : WindowSettings) {requests : List Arguments}
    (tended : Tended environment place world)
    (returnless : ∀ arguments ∈ requests, '\r' ∉ (newText arguments).toList) :
    Tended environment place (editAll settings environment requests world) := by
  induction requests generalizing world with
  | nil => exact tended
  | cons arguments others inductionHypothesis =>
      rcases List.forall_mem_cons.mp returnless with ⟨here, rest⟩
      exact inductionHypothesis (tended_edit settings tended here) rest

/-- An edit of a regular text answers with an error and changes nothing, or it replaces the lines
of the range.  After any number of edits the text is regular still. -/
theorem edits_splice (settings : WindowSettings)
    (opened : openPlace environment world = .ok place)
    (read : contentOf environment world place = .ok old) (regular : Splice.Regular old.toList) :
    (∀ arguments start stop content, Asks arguments start stop content →
      '\r' ∉ content.toList →
      if start = 0 ∨ (Text.lines old.toList).length + 1 < start ∨ stop < start then
        ∃ message, edit settings environment arguments world = (complain message, world)
      else
        ∃ after new, Edits settings environment arguments world after ∧
          contentOf environment after place = .ok new ∧ Splice.Regular new.toList ∧
          new.toList = Text.terminated ((Text.lines old.toList).take (start - 1) ++
            Text.lines content.toList ++
            (Text.lines old.toList).drop (min stop (Text.lines old.toList).length))) ∧
    ∀ requests, (∀ arguments ∈ requests, '\r' ∉ (newText arguments).toList) →
      ∃ new, contentOf environment (editAll settings environment requests world) place = .ok new ∧
        Splice.Regular new.toList := by
  constructor
  · intro arguments start stop content asks returnless
    split
    · rename_i misplaced
      rcases Splice.exists_fault_iff.mpr misplaced with ⟨fault, faulty⟩
      exact ⟨_, edit_of_fault settings opened read asks faulty⟩
    · rename_i placed
      have fits := Option.eq_none_iff_forall_ne_some.mpr fun fault faulty =>
        placed (Splice.exists_fault_iff.mp ⟨fault, faulty⟩)
      rcases edits_of_fits settings opened read asks fits with ⟨after, edited, now, _⟩
      refine ⟨after, _, edited, now, ?_, ?_⟩
      · rw [String.toList_ofList]
        exact Splice.regular_apply regular returnless start stop
      · rw [String.toList_ofList, Splice.apply_of_endsLine regular.ended,
          Splice.replace_of_fits fits]
  · intro requests returnless
    exact (tended_editAll settings (tended_of_openPlace opened read regular) returnless).regular

/-- Two lines, of which the second is replaced by two.  An edit behind the end is turned down. -/
theorem edits_splice_two_lines :
    (∃ after, Edits {} Sample.environment (Sample.arguments "2" "9" "2\n\n")
        (Sample.world "" "one\ntwo\n" "a.txt") after ∧
      contentOf Sample.environment after ⟨true, ["ws", "a.txt"]⟩ = .ok "one\n2\n\n") ∧
    (∃ message, edit {} Sample.environment (Sample.arguments "4" "4" "four")
        (Sample.world "" "one\ntwo\n" "a.txt") =
      (complain message, Sample.world "" "one\ntwo\n" "a.txt")) ∧
    ∃ new, contentOf Sample.environment (editAll {} Sample.environment
        [Sample.arguments "1" "2" "", Sample.arguments "0" "1" "nothing",
          Sample.arguments "1" "1" "one"] (Sample.world "" "one\ntwo\n" "a.txt"))
        ⟨true, ["ws", "a.txt"]⟩ = .ok new ∧ Splice.Regular new.toList := by
  have splice := edits_splice {} (Sample.openPlace_world "" "one\ntwo\n")
    (Sample.contentOf_world "" "one\ntwo\n" "a.txt") ⟨by decide, by decide⟩
  rcases splice with ⟨each, all⟩
  have placed := each (Sample.arguments "2" "9" "2\n\n") 2 9 "2\n\n"
    ⟨by rfl, by rfl, by rfl⟩ (by decide)
  rw [if_neg (by decide)] at placed
  have misplaced := each (Sample.arguments "4" "4" "four") 4 4 "four"
    ⟨by rfl, by rfl, by rfl⟩ (by decide)
  rw [if_pos (by decide)] at misplaced
  refine ⟨?_, misplaced, all _ (by decide)⟩
  rcases placed with ⟨after, new, edited, now, _, shape⟩
  have whole : new = "one\n2\n\n" := String.toList_inj.mp (shape.trans (by decide))
  exact ⟨after, edited, whole ▸ now⟩

/-! ## Two edits of one view -/

/-- The arguments have the bounds written out. -/
structure Writes (arguments : Arguments) (start stop : Nat) (content : String) : Prop where
  starts : arguments.get? "start_line" = some (Decimal.write start)
  stops : arguments.get? "end_line" = some (Decimal.write stop)
  content : newText arguments = content

theorem asks_of_writes (writes : Writes arguments start stop content) (upward : start ≤ stop)
    (small : stop ≤ Decimal.largest) : Asks arguments start stop content where
  starts := by rw [bound_of_write writes.starts, if_pos (upward.trans small)]
  stops := by rw [bound_of_write writes.stops, if_pos small]
  content := writes.content

/-- Only a number that is not too large can be the end of an edit that goes through. -/
theorem Edits.stop_le (edited : Edits settings environment arguments world after)
    (writes : Writes arguments start stop content) : stop ≤ Decimal.largest := by
  rcases edited.exists_content with ⟨_, _, last, _, _, _, stops, _⟩
  by_contra large
  rw [bound_of_write writes.stops, if_neg large] at stops
  cases stops

/-- Both edits go through, the second one in the world that the first one has left. -/
def EditsInTurn (settings : WindowSettings) (environment : Environment)
    (earlier later : Arguments) (world after : World) : Prop :=
  ∃ between, Edits settings environment earlier world between ∧
    Edits settings environment later between after

/-- Both orders go through, and the file has the same text after either of them. -/
def Commute (settings : WindowSettings) (environment : Environment) (place : Place)
    (earlier later moved : Arguments) (world : World) : Prop :=
  ∃ upward downward text,
    EditsInTurn settings environment later earlier world upward ∧
    EditsInTurn settings environment earlier moved world downward ∧
    contentOf environment upward place = .ok text ∧
    contentOf environment downward place = .ok text

variable {earlier later moved : Arguments} {content₁ content₂ : String}
  {start₁ stop₁ start₂ stop₂ : Nat}

/-- Two edits go through if each range fits in its turn and the path leads back to the file. -/
theorem editsInTurn_of_fits (settings : WindowSettings)
    (opened : openPlace environment world = .ok place)
    (read : contentOf environment world place = .ok old)
    (visible : Text.isBlankOnly place.text.toList = false)
    (asks₁ : Asks earlier start₁ stop₁ content₁) (asks₂ : Asks later start₂ stop₂ content₂)
    (fits₁ : Splice.fault? (Text.lines old.toList).length start₁ stop₁ = none)
    (fits₂ : Splice.fault?
      (Text.lines (Splice.apply start₁ stop₁ content₁.toList old.toList)).length
      start₂ stop₂ = none) :
    ∃ after, EditsInTurn settings environment earlier later world after ∧
      contentOf environment after place = .ok (String.ofList (Splice.apply start₂ stop₂
        content₂.toList (Splice.apply start₁ stop₁ content₁.toList old.toList))) := by
  rcases edits_of_fits settings opened read asks₁ fits₁ with ⟨between, edited₁, now, back⟩
  rw [visible] at back
  rw [← String.toList_ofList (l := Splice.apply start₁ stop₁ content₁.toList old.toList)]
    at fits₂
  rcases edits_of_fits settings back now asks₂ fits₂ with ⟨after, edited₂, final, _⟩
  rw [String.toList_ofList] at final
  exact ⟨after, ⟨between, edited₁, edited₂⟩, final⟩

/-- A blank path leads nowhere, so one edit is all there can be. -/
theorem visible_of_editsInTurn (opened : openPlace environment world = .ok place)
    (read : contentOf environment world place = .ok old)
    (asks : Asks earlier start stop content)
    (fits : Splice.fault? (Text.lines old.toList).length start stop = none)
    (edited : EditsInTurn settings environment earlier later world after) :
    Text.isBlankOnly place.text.toList = false := by
  rcases edited with ⟨between, edited₁, edited₂⟩
  rcases edits_of_fits settings opened read asks fits with ⟨other, again, _, back⟩
  rcases edited₁.unique again with rfl
  rcases edited₂.exists_content with ⟨found, _, _, text, leads, _, _, readable⟩
  by_contra blank
  rw [if_pos (Bool.of_not_eq_false blank)] at back
  rcases Except.ok.inj (leads.symm.trans back) with rfl
  rw [contentOf_nowhere] at readable
  cases readable

/-- Two edits whose ranges do not meet can be made in either order, if the later range is moved
along when its turn comes second.  They can unless a bound is too large to be read or the path of
the file is blank. -/
theorem edits_commute_iff (settings : WindowSettings)
    (opened : openPlace environment world = .ok place)
    (read : contentOf environment world place = .ok old) (regular : Splice.Regular old.toList)
    (returnless₁ : '\r' ∉ content₁.toList) (returnless₂ : '\r' ∉ content₂.toList)
    (ordered : Splice.Ordered (Text.lines old.toList).length start₁ stop₁ start₂ stop₂)
    (writes₁ : Writes earlier start₁ stop₁ content₁)
    (writes₂ : Writes later start₂ stop₂ content₂)
    (writesMoved : Writes moved
      (Splice.renumbered start₁ stop₁ (Text.lines content₁.toList).length start₂)
      (Splice.renumbered start₁ stop₁ (Text.lines content₁.toList).length stop₂) content₂) :
    Commute settings environment place earlier later moved world ↔
    stop₂ ≤ Decimal.largest ∧
      Splice.renumbered start₁ stop₁ (Text.lines content₁.toList).length stop₂ ≤
        Decimal.largest ∧
      Text.isBlankOnly place.text.toList = false := by
  have upward₁ := ordered.upward₁
  have apart := ordered.apart
  have upward₂ := ordered.upward₂
  rcases Splice.fits_in_turn ordered (Text.lines content₁.toList) (Text.lines content₂.toList) with
    ⟨fits₁, fits₂, fitsAfter, fitsMoved⟩
  constructor
  · rintro ⟨up, down, _, ⟨_, edited₂, _⟩, turns, _, _⟩
    have small := edited₂.stop_le writes₂
    have asks₁ := asks_of_writes writes₁ upward₁ (by omega)
    have visible := visible_of_editsInTurn opened read asks₁ fits₁ turns
    rcases turns with ⟨_, _, editedMoved⟩
    exact ⟨small, editedMoved.stop_le writesMoved, visible⟩
  · rintro ⟨small, smallMoved, visible⟩
    have asks₁ := asks_of_writes writes₁ upward₁ (by omega)
    have asks₂ := asks_of_writes writes₂ upward₂ small
    have asksMoved := asks_of_writes writesMoved (Splice.renumbered_le upward₂) smallMoved
    rw [← Splice.lines_apply_of_regular regular returnless₂] at fitsAfter
    rw [← Splice.lines_apply_of_regular regular returnless₁] at fitsMoved
    rcases editsInTurn_of_fits settings opened read visible asks₂ asks₁ fits₂ fitsAfter with
      ⟨up, editedUp, nowUp⟩
    rcases editsInTurn_of_fits settings opened read visible asks₁ asksMoved fits₁ fitsMoved with
      ⟨down, editedDown, nowDown⟩
    rw [← Splice.apply_apply regular returnless₁ returnless₂ ordered] at nowDown
    exact ⟨up, down, _, editedUp, editedDown, nowUp, nowDown⟩

/-- The first of two lines becomes two, and the second is deleted. -/
theorem edits_commute_two_lines :
    Commute {} Sample.environment ⟨true, ["ws", "a.txt"]⟩ (Sample.arguments "1" "1" "a\nb")
      (Sample.arguments "2" "2" "") (Sample.arguments "3" "3" "")
      (Sample.world "" "one\ntwo\n" "a.txt") :=
  (@edits_commute_iff _ _ _ _ _ _ _ "a\nb" "" 1 1 2 2 {}
    (Sample.openPlace_world "" "one\ntwo\n") (Sample.contentOf_world "" "one\ntwo\n" "a.txt")
    ⟨by decide, by decide⟩ (by decide) (by decide)
    ⟨by decide, by decide, by decide, by decide, by decide⟩
    ⟨by decide, by decide, by decide⟩ ⟨by decide, by decide, by decide⟩
    ⟨by decide, by decide, by decide⟩).mpr ⟨by decide, by decide, by decide⟩

end Viewer

namespace Sample

/-- A process without a directory of its own. -/
def rootless : Environment :=
  { environment with directory := "" }

/-- The world in which a file that is named by a blank is open. -/
def blankWorld (inside : String) : World where
  tree := .directory [(" ", .file inside.toUTF8 false)]
  memory := fun _ _ => Dictionary.empty.insert Viewer.currentFile "./ "

theorem openPlace_blankWorld (inside : String) :
    Viewer.openPlace rootless (blankWorld inside) = .ok ⟨false, [" "]⟩ := by
  rfl

theorem contentOf_blankWorld (inside : String) :
    Viewer.contentOf rootless (blankWorld inside) ⟨false, [" "]⟩ = .ok inside := by
  apply Node.readText_eq_ok_iff.mpr
  rfl

end Sample

namespace Viewer

/-- Two edits of two regular lines.  In the first case the end of the range becomes too large when
it is moved, in the second one the path of the file is blank after the first edit. -/
theorem edits_not_always_commute :
    Splice.Regular "one\ntwo\n".toList ∧
    (Splice.Ordered (Text.lines "one\ntwo\n".toList).length 1 1 2 Decimal.largest ∧
      openPlace Sample.environment (Sample.world "" "one\ntwo\n" "a.txt") =
        .ok ⟨true, ["ws", "a.txt"]⟩ ∧
      contentOf Sample.environment (Sample.world "" "one\ntwo\n" "a.txt")
        ⟨true, ["ws", "a.txt"]⟩ = .ok "one\ntwo\n" ∧
      ¬ Commute {} Sample.environment ⟨true, ["ws", "a.txt"]⟩ (Sample.arguments "1" "1" "a\nb")
        (Sample.arguments "2" (Decimal.write Decimal.largest) "x")
        (Sample.arguments "3" (Decimal.write (Splice.renumbered 1 1 2 Decimal.largest)) "x")
        (Sample.world "" "one\ntwo\n" "a.txt")) ∧
    (Splice.Ordered (Text.lines "one\ntwo\n".toList).length 1 1 2 2 ∧
      openPlace Sample.rootless (Sample.blankWorld "one\ntwo\n") = .ok ⟨false, [" "]⟩ ∧
      contentOf Sample.rootless (Sample.blankWorld "one\ntwo\n") ⟨false, [" "]⟩ =
        .ok "one\ntwo\n" ∧
      ¬ Commute {} Sample.rootless ⟨false, [" "]⟩ (Sample.arguments "1" "1" "a\nb")
        (Sample.arguments "2" "2" "x")
        (Sample.arguments "3" (Decimal.write (Splice.renumbered 1 1 2 2)) "x")
        (Sample.blankWorld "one\ntwo\n")) := by
  refine ⟨⟨by decide, by decide⟩,
    ⟨⟨by decide, by decide, by decide, by decide, by decide⟩, Sample.openPlace_world _ _,
      Sample.contentOf_world _ _ _, ?_⟩,
    ⟨⟨by decide, by decide, by decide, by decide, by decide⟩, Sample.openPlace_blankWorld _,
      Sample.contentOf_blankWorld _, ?_⟩⟩
  · rintro ⟨_, _, _, _, ⟨_, _, editedMoved⟩, _⟩
    have writes : Writes (Sample.arguments "3"
        (Decimal.write (Splice.renumbered 1 1 2 Decimal.largest)) "x") 3
        (Splice.renumbered 1 1 2 Decimal.largest) "x" := ⟨by decide, by rfl, by decide⟩
    exact absurd (editedMoved.stop_le writes) (by decide)
  · rintro ⟨_, _, _, _, turns, _⟩
    have asks : Asks (Sample.arguments "1" "1" "a\nb") 1 1 "a\nb" := ⟨by rfl, by rfl, by rfl⟩
    have visible := visible_of_editsInTurn (Sample.openPlace_blankWorld "one\ntwo\n")
      (Sample.contentOf_blankWorld "one\ntwo\n") asks (by decide) turns
    exact absurd visible (by decide)

end Viewer

end Workbench
