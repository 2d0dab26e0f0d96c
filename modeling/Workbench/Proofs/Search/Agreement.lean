import Mathlib.Algebra.GroupWithZero.Nat
import Workbench.Proofs.Guarded.Standard
import Workbench.Proofs.Search.BreakingOff
import Workbench.Proofs.Tool.Editing
import Workbench.Proofs.Tree.Reaching
namespace Workbench

/-!
# Three ways to search the same file

The search of a directory reaches a file by walking, and shows its path below the root of the
workspace, whatever directory has been searched.  The search of a file takes a path and resolves
it, or resolves anew what opening the file has stored.  The three report the same hits if the
three ways end at the same place.

The place that a walk finds has been put together from an accepted one and the names of members,
and nobody has resolved it.  If its names are UTF-8, they are plain, so its text is read back as the
place, and it lies below the root because the searched directory does.  That the same file is there
once its path is followed is a matter of the tree: no member on the way is a link, and a directory
that is reached with some links left is left with as many for what lies below it.

Two kinds of paths are shown without leading back: those that are all blank, and those with a name
that is not UTF-8, of which something has been replaced.  And there is something to compare only if
the search of the directory comes to an end: the process adds up the hits in a word and aborts where
they are too many.
-/

/-! ## Places below a searched directory -/

namespace Environment

variable {environment : Environment} {place : Place} {scope : String} {more : List String}

/-- The text of a place below an accepted one is accepted as this place, unless it is blank. -/
theorem resolve_text_below (resolved : environment.resolve scope = .ok place)
    (plain : (place.below more).IsPlain)
    (solid : Text.isBlankOnly (place.below more).text.toList = false) :
    environment.resolve (place.below more).text = .ok (place.below more) := by
  rcases (Workspace.held_of_resolve resolved).2 with ⟨rest, whole⟩
  have held : environment.root.components <+: (place.below more).components := by
    refine ⟨rest ++ more.map Path.Component.name, ?_⟩
    rw [← List.append_assoc, whole, Place.components, Place.components, Place.below,
      List.map_append, List.append_assoc]
  have accepted : environment.resolve (place.below more).text =
      .ok (if Text.isBlankOnly (place.below more).text.toList then Place.nowhere
        else place.below more) :=
    Workspace.resolve_text_of_held plain held
  rw [accepted, solid, if_neg Bool.false_ne_true]

theorem display_of_unnamed (unnamed : environment.directory = "") (filled : more ≠ []) :
    environment.display (place.below more) = (place.below more).text := by
  have nowhere : environment.root = Place.nowhere := by
    rw [root, unnamed, Workspace.root_of_empty]
  rw [display, nowhere, Workspace.display_nowhere, if_neg]
  intro same
  have names : place.names ++ more = [] := congrArg (fun place => place.names) same
  exact filled (List.append_eq_nil_iff.mp names).2

/-- In a workspace that is named the text of an accepted place begins with a slash. -/
theorem solid_of_named (named : environment.directory ≠ "")
    (resolved : environment.resolve scope = .ok place) (more : List String) :
    Text.isBlankOnly (place.below more).text.toList = false := by
  have anchored : environment.root.anchored = true := by
    rw [root, Workspace.root_of_named _ _ named]
  have top : (place.below more).anchored = true :=
    (Workspace.within_of_resolve anchored resolved).1
  rw [Place.toList_text top]
  rfl

/-- A place that is shown by a visible text has a visible text. -/
theorem solid_of_visible (resolved : environment.resolve scope = .ok place) (filled : more ≠ [])
    (visible : Text.isBlankOnly (environment.display (place.below more)).toList = false) :
    Text.isBlankOnly (place.below more).text.toList = false := by
  by_cases named : environment.directory = ""
  · rw [← display_of_unnamed named filled]
    exact visible
  · exact solid_of_named named resolved more

/-- Places below an accepted one are shown by different texts. -/
theorem display_below_inj (resolved : environment.resolve scope = .ok place)
    {first second : List String} (plainFirst : (place.below first).IsPlain)
    (plainSecond : (place.below second).IsPlain) (filledFirst : first ≠ [])
    (filledSecond : second ≠ [])
    (same : environment.display (place.below first) = environment.display (place.below second)) :
    first = second := by
  have places : place.below first = place.below second := by
    by_cases named : environment.directory = ""
    · rw [display_of_unnamed named filledFirst, display_of_unnamed named filledSecond] at same
      rw [← Workspace.ofPath_text_of_plain plainFirst, same,
        Workspace.ofPath_text_of_plain plainSecond]
    · rcases Workspace.exists_below_of_resolve named
        (resolve_text_below resolved plainFirst (solid_of_named named resolved _)) with
        ⟨belowFirst, shownFirst, first⟩
      rcases Workspace.exists_below_of_resolve named
        (resolve_text_below resolved plainSecond (solid_of_named named resolved _)) with
        ⟨belowSecond, shownSecond, second⟩
      rw [first, second, display, display, root, Workspace.display_below,
        Workspace.display_below] at same
      rw [first, second, Workspace.shown_inj shownFirst shownSecond same]
  exact List.append_cancel_left (congrArg (fun place => place.names) places)

end Environment

/-! ## What is counted -/

namespace Search

variable {environment : Environment} {world : World} {place : Place} {term : String}
  {directory : Node} {members : List (String × Node)} {found : Node.Found}

/-- What is counted are the files that are found, if they have a hit. -/
theorem mem_tally_iff {files : List Node.Found} {entry : Place × Nat} :
    entry ∈ tally term files ↔
      0 < entry.2 ∧ ∃ found ∈ files, found.place = entry.1 ∧
        (hitsIn term found).length = entry.2 := by
  rw [tally, List.mem_filter, List.mem_map, decide_eq_true_eq, and_comm]
  simp only [Prod.ext_iff]

/-- Only in a file whose path can be taken there are hits. -/
theorem hitsIn_of_pos (positive : 0 < (hitsIn term found).length) :
    found.place.encoded.length < Node.pathLimit ∧
      hitsIn term found = Hit.inFile term found.content := by
  unfold hitsIn at positive ⊢
  split at positive
  · cases positive
  · rename_i short
    exact ⟨Nat.not_le.mp short, if_neg short⟩

/-- No file is counted twice. -/
theorem nodup_tally (sound : directory.Sound) (place : Place) (term : String) :
    ((tally term (directory.filesBelow place)).map Prod.fst).Nodup := by
  refine List.Nodup.sublist (List.filter_sublist.map _) ?_
  rw [List.map_map]
  exact Node.nodup_filesBelow sound place

/-- A path of texts is shown as it is. -/
theorem shown_of_isText (text : place.IsText) :
    shown environment place = environment.display place := by
  have names : place.names.map Name.shown = place.names := by
    refine (List.map_congr_left fun name member => ?_).trans (List.map_id _)
    exact if_pos (text name member)
  rw [shown, names]

/-! ## What the search of a directory reports -/

/-- How a report begins that lists what has been found. -/
def opening : String := "Found "

/-- The arguments ask for a search of a directory: they give the term, the place of the directory
is accepted, and there is a directory with these members. -/
structure Searches (environment : Environment) (arguments : Arguments) (world : World)
    (term : String) (place : Place) (members : List (String × Node)) : Prop where
  given : arguments.get? "search_term" = some term
  resolved : environment.resolve (scope arguments) = .ok place
  there : world.tree.find? environment.host.standing place.text = some (.directory members)

theorem Searches.isPlain {arguments : Arguments}
    (searches : Searches environment arguments world term place members) : place.IsPlain :=
  (Workspace.held_of_resolve searches.resolved).1

theorem Searches.sound {arguments : Arguments} (tree : world.tree.Sound)
    (searches : Searches environment arguments world term place members) :
    (Node.directory members).Sound :=
  tree.find? searches.isPlain searches.there

theorem not_lists_of_head {report : String} (other : report.toList.head? ≠ some 'F') :
    ¬ opening.toList <+: report.toList := by
  rintro ⟨rest, written⟩
  apply other
  rw [← written]
  rfl

theorem not_lists_complain {message report : String} (said : Viewer.complain message = .ok report) :
    ¬ opening.toList <+: report.toList := by
  rw [← Except.ok.inj said]
  apply not_lists_of_head
  simp [String.toList_append]

theorem not_lists_missing (scope : String) : ¬ opening.toList <+: (missing scope).toList := by
  apply not_lists_of_head
  unfold missing
  simp [String.toList_append]

theorem not_lists_nothing (term scope : String) :
    ¬ opening.toList <+: (nothing term scope).toList := by
  apply not_lists_of_head
  unfold nothing
  simp [String.toList_append]

theorem not_lists_tooMany (limit : Nat) (unit term scope : String) :
    ¬ opening.toList <+: (tooMany limit unit term scope).toList := by
  apply not_lists_of_head
  unfold tooMany
  simp [String.toList_append]

theorem exists_of_directory? (held : directory? environment world place = some directory) :
    ∃ members, directory = .directory members ∧
      world.tree.find? environment.host.standing place.text = some (.directory members) := by
  unfold directory? at held
  split at held
  · rename_i members there
    exact ⟨members, (Option.some.inj held).symm, there⟩
  · cases held

theorem directory?_of_find?
    (there : world.tree.find? environment.host.standing place.text = some (.directory members)) :
    directory? environment world place = some (.directory members) := by
  rw [directory?, there]

/-- A search of a directory reports what it has counted. -/
theorem inDirectory_of_searches {settings : SearchSettings} {arguments : Arguments}
    (searches : Searches environment arguments world term place members) :
    inDirectory settings environment arguments world =
      (.ok (tallyReport settings environment term (scope arguments)
        (tally term ((Node.directory members).filesBelow place))), world) := by
  unfold inDirectory inDirectoryWith Arguments.require
  simp only [searches.given, searches.resolved, directory?_of_find? searches.there]
  exact tallyReportWith_eq _ _ _ _ _ _

/-- A search that lists files has been asked for, and has counted them. -/
theorem exists_searches {settings : SearchSettings} {arguments : Arguments} {report : String}
    (reported : (inDirectory settings environment arguments world).1 = .ok report)
    (lists : opening.toList <+: report.toList) :
    ∃ term place members, Searches environment arguments world term place members := by
  unfold inDirectory inDirectoryWith Arguments.require at reported
  cases given : arguments.get? "search_term" with
  | none =>
      rw [given] at reported
      cases reported
  | some term =>
      simp only [given] at reported
      cases resolved : environment.resolve (scope arguments) with
      | error failure =>
          rw [resolved] at reported
          exact absurd lists (not_lists_complain reported)
      | ok place =>
          simp only [resolved] at reported
          cases held : directory? environment world place with
          | none =>
              simp only [held] at reported
              rw [← Except.ok.inj reported] at lists
              exact absurd lists (not_lists_missing _)
          | some directory =>
              rcases exists_of_directory? held with ⟨members, rfl, there⟩
              exact ⟨term, place, members, given, resolved, there⟩

/-- A report that lists files lists all that have been counted, and their hits together. -/
theorem tallyReport_of_lists {settings : SearchSettings} {scope : String}
    {counts : List (Place × Nat)}
    (lists : opening.toList <+: (tallyReport settings environment term scope counts).toList) :
    counts.length ≤ settings.maxFiles ∧
      tallyReport settings environment term scope counts =
        directoryListing environment term scope counts
          (counts.map (fun entry => entry.2)).sum := by
  unfold tallyReport tallyReportWith at lists ⊢
  split at lists
  · exact absurd lists (not_lists_nothing _ _)
  · split at lists
    · exact absurd lists (not_lists_tooMany _ _ _ _)
    · rename_i filled few
      refine ⟨Nat.not_lt.mp few, ?_⟩
      rw [if_neg filled, if_neg few, ← added_eq_sum]

/-! ## Agreement -/

/-- The search of one file reports as many hits as the search of a directory has counted in it,
whether the path of the file is given or the file has been opened by it. -/
structure AgreesOn (settings : SearchSettings) (environment : Environment) (world : World)
    (term path : String) (count : Nat) (hits : List Hit) (report : String) : Prop where
  counted : hits.length = count
  increasing : hits.Pairwise (fun earlier later => earlier.number < later.number)
  few : count ≤ settings.maxMatches → report =
    String.intercalate "\n" (heading count term path ::
      hits.map (fun hit => "Line " ++ Decimal.write hit.number ++ ":" ++ hit.text) ++
      [ending term path])
  many : settings.maxMatches < count → report = tooMany settings.maxMatches "lines" term path
  named : ∀ arguments, arguments.get? "search_term" = some term →
    arguments.get? "file" = some path →
      inFile settings environment arguments world = (.ok report, world)
  opened : ∀ window opening shown after, opening.get? "path" = some path →
    Viewer.openFile window environment opening world = (.ok shown, after) →
    Window.opening.toList <+: shown.toList →
      ∀ arguments, arguments.get? "search_term" = some term →
        arguments.get? "file" = none ∨ arguments.get? "file" = some path →
          inFile settings environment arguments after = (.ok report, after)

variable {settings : SearchSettings} {arguments : Arguments}

/-- Opening a file that is shown remembers its place and changes nothing else. -/
theorem exists_remember_of_openFile {window : WindowSettings} {path shown : String} {after : World}
    (given : arguments.get? "path" = some path) (resolved : environment.resolve path = .ok place)
    (answer : Viewer.openFile window environment arguments world = (.ok shown, after))
    (begins : Window.opening.toList <+: shown.toList) :
    ∃ first, after = Viewer.remember environment world place first := by
  have ended : ∀ {outcome : Except Failure String}, Viewer.Windowless outcome →
      (outcome, world) ≠ (.ok shown, after) :=
    fun windowless same => windowless shown (Prod.mk.inj same).1 begins
  have seen : ∀ line, Viewer.showWindow window environment world place line = (.ok shown, after) →
      ∃ first, after = Viewer.remember environment world place first := by
    intro line answer
    unfold Viewer.showWindow at answer
    split at answer
    · cases answer
    · exact ⟨_, (Prod.mk.inj answer).2.symm⟩
  unfold Viewer.openFile Viewer.openFileWith Arguments.require at answer
  simp only [given, resolved] at answer
  split at answer
  · exact absurd answer (ended (Viewer.windowless_complain _))
  · split at answer
    · exact absurd answer (ended (Viewer.windowless_complain _))
    · split at answer
      · cases answer
      · split at answer
        · rename_i unfit
          exact absurd answer (ended (Viewer.windowless_of_requestedLine unfit))
        · exact seen 1 answer
        · exact seen _ answer

/-- Where the text that shows a place leads back to it, the file there is searched with the same
result by this text and after it has been opened. -/
theorem agreesOn_of_held {file : Place} {content : ByteArray} {executable : Bool}
    (held : world.tree.find? environment.host.standing file.text =
      some (.file content executable))
    (again : environment.resolve (environment.display file) = .ok file)
    (solid : Text.isBlankOnly file.text.toList = false)
    (some : Hit.inFile term content ≠ []) :
    AgreesOn settings environment world term (environment.display file)
      (Hit.inFile term content).length (Hit.inFile term content)
      (listing settings term (environment.display file) (Hit.inFile term content)) where
  counted := rfl
  increasing := Hit.pairwise_inFile term content
  few := by
    intro few
    rw [listing, if_neg (mt List.isEmpty_iff.mp some), if_neg (Nat.not_lt.mpr few)]
  many := by
    intro many
    rw [listing, if_neg (mt List.isEmpty_iff.mp some), if_pos many]
  named := by
    intro arguments given named
    have sought : target environment arguments world = .ok file := by
      rw [target, named]
      simp only [again]
    exact inFile_of_find? given sought held
  opened := by
    intro window opening shown after path answer begins arguments given either
    rcases exists_remember_of_openFile path again answer begins with ⟨first, rfl⟩
    have sought : target environment arguments
        (Viewer.remember environment world file first) = .ok file := by
      rcases either with unnamed | named
      · rw [target, unnamed]
        simp only [Viewer.openPlace_remember ⟨_, again⟩ world first, solid, Bool.false_eq_true,
          if_false]
      · rw [target, named]
        simp only [again]
    exact inFile_of_find? given sought held

/-- A file that is counted is found again below the searched directory, with as many hits. -/
theorem exists_held_of_counted (sound : world.tree.Sound)
    (stands : world.tree.faceAt? environment.host.standing = some .directory)
    (searches : Searches environment arguments world term place members) {entry : Place × Nat}
    (counted : entry ∈ tally term ((Node.directory members).filesBelow place))
    (text : entry.1.IsText) :
    0 < entry.2 ∧ ∃ more content executable, entry.1 = place.below more ∧ more ≠ [] ∧
      (place.below more).IsPlain ∧
      world.tree.find? environment.host.standing entry.1.text = some (.file content executable) ∧
      (Hit.inFile term content).length = entry.2 := by
  have inside := searches.sound sound
  rcases mem_tally_iff.mp counted with ⟨positive, found, walked, lies, size⟩
  rcases (Node.mem_filesBelow_iff inside).mp walked with ⟨more, executable, below, got, _, _⟩
  rw [below] at lies
  rcases hitsIn_of_pos (size ▸ positive) with ⟨short, hits⟩
  rw [hits] at size
  rw [below] at short
  rw [← lies, Place.isText_below_iff] at text
  refine ⟨positive, more, found.content, executable, lies.symm, Node.filled_of_get? got, ?_, ?_,
    size⟩
  · exact Place.isPlain_below_iff.mpr ⟨searches.isPlain, fun name member =>
      (inside.memberName got name member).plain (text.2 name member)⟩
  · rw [← lies]
    exact Node.find?_below sound stands searches.isPlain searches.there got nofun text.2 short

/-- Each file that is counted is searched with the same result by its path. -/
theorem exists_agreesOn (sound : world.tree.Sound)
    (stands : world.tree.faceAt? environment.host.standing = some .directory)
    (searches : Searches environment arguments world term place members) {entry : Place × Nat}
    (counted : entry ∈ tally term ((Node.directory members).filesBelow place))
    (text : entry.1.IsText)
    (visible : Text.isBlankOnly (shown environment entry.1).toList = false) :
    ∃ hits report, AgreesOn settings environment world term (shown environment entry.1) entry.2
      hits report := by
  rcases exists_held_of_counted sound stands searches counted text with
    ⟨positive, more, content, executable, below, filled, plain, held, size⟩
  rw [shown_of_isText text] at visible ⊢
  rw [← size] at positive ⊢
  rw [below] at held visible ⊢
  have solid := Environment.solid_of_visible searches.resolved filled visible
  have again : environment.resolve (environment.display (place.below more)) =
      .ok (place.below more) :=
    Workspace.resolve_display (Environment.resolve_text_below searches.resolved plain solid) visible
  exact ⟨_, _, agreesOn_of_held held again solid (List.ne_nil_of_length_pos positive)⟩

/-- No two files whose paths are texts are shown by the same text. -/
theorem eq_of_shown (sound : world.tree.Sound)
    (stands : world.tree.faceAt? environment.host.standing = some .directory)
    (searches : Searches environment arguments world term place members)
    {entry other : Place × Nat}
    (counted : entry ∈ tally term ((Node.directory members).filesBelow place))
    (among : other ∈ tally term ((Node.directory members).filesBelow place))
    (text : entry.1.IsText) (another : other.1.IsText)
    (same : shown environment entry.1 = shown environment other.1) : entry = other := by
  rcases exists_held_of_counted sound stands searches counted text with
    ⟨_, more, _, _, below, filled, plain, _⟩
  rcases exists_held_of_counted sound stands searches among another with
    ⟨_, further, _, _, beside, filledToo, plainToo, _⟩
  rw [shown_of_isText text, shown_of_isText another, below, beside] at same
  have places : entry.1 = other.1 := by
    rw [below, beside]
    exact congrArg place.below
      (Environment.display_below_inj searches.resolved plain plainToo filled filledToo same)
  have once := nodup_tally (searches.sound sound) place term
  exact List.inj_on_of_nodup_map once counted among places

end Search

namespace Sample

def termArguments : Arguments :=
  Dictionary.empty.insert "search_term" "one"

theorem sound_alone {name : String} (member : MemberName name) (content : String) :
    (Node.directory [(name, .file content.toUTF8 false)]).Sound :=
  .directory (List.pairwise_singleton _ _) (List.forall_mem_singleton.mpr member)
    (List.forall_mem_singleton.mpr (.file _ _))

theorem sound_tree (outside inside : String) : (tree outside inside).Sound := by
  have named : ∀ name ∈ ["etc", "ws", "passwd", "a.txt"], MemberName name := by
    simp only [List.forall_mem_cons]
    refine ⟨?_, ?_, ?_, ?_, nofun⟩ <;> decide +kernel
  have ordered : "etc" < "ws" := by
    decide
  refine .directory (List.pairwise_pair.mpr ordered) ?_ ?_
  · simpa using And.intro (named "etc" (by simp)) (named "ws" (by simp))
  · simpa using And.intro (sound_alone (named "passwd" (by simp)) outside)
      (sound_alone (named "a.txt" (by simp)) inside)

end Sample

namespace Search

/-- When the process answers a search of a directory with a list of files, these are exactly those
that a walk finds and that have a hit, each once and with the number of its hits, and the numbers
are added up.  Files whose paths are UTF-8 are shown by different texts.  Each of them that is shown
by a visible path is searched with as many hits by this path, and with the same result once it has
been opened. -/
theorem searches_agree (settings : SearchSettings) (environment : Environment)
    (arguments : Arguments) (world after : World) (sound : world.tree.Sound)
    (stands : world.tree.faceAt? environment.host.standing = some .directory) {report : String}
    (answered : Guarded.Search.inDirectory settings environment arguments world =
      .ok (.ok report, after))
    (lists : opening.toList <+: report.toList) :
    ∃ term place members counts, Searches environment arguments world term place members ∧
      report = directoryListing environment term (scope arguments) counts
        (counts.map (fun entry => entry.2)).sum ∧
      (counts.map (fun entry => entry.2)).sum ≤ Decimal.largest ∧
      (counts.map (fun entry => entry.1)).Nodup ∧
      (∀ entry, entry ∈ counts ↔ 0 < entry.2 ∧
        ∃ found ∈ (Node.directory members).filesBelow place, found.place = entry.1 ∧
          (hitsIn term found).length = entry.2) ∧
      (∀ entry ∈ counts, ∀ other ∈ counts, entry.1.IsText → other.1.IsText →
        shown environment entry.1 = shown environment other.1 → entry = other) ∧
      ∀ entry ∈ counts, entry.1.IsText →
        Text.isBlankOnly (shown environment entry.1).toList = false →
          ∃ hits single, AgreesOn settings environment world term (shown environment entry.1)
            entry.2 hits single := by
  rcases Guarded.Search.inDirectory_cases settings environment arguments world with
    ⟨same, fits⟩ | ⟨aborted, _⟩
  · have reported := Except.ok.inj (same.symm.trans answered)
    rcases exists_searches (congrArg Prod.fst reported) lists with
      ⟨term, place, members, searches⟩
    rw [inDirectory_of_searches searches] at reported
    have written := Except.ok.inj (congrArg Prod.fst reported)
    rw [← written] at lists
    rcases tallyReport_of_lists lists with ⟨few, listing⟩
    have small : ((tally term ((Node.directory members).filesBelow place)).map
        (fun entry => entry.2)).sum ≤ Decimal.largest := by
      refine Nat.not_lt.mp (fun many => fits ⟨term, place, _, ?_, searches.resolved,
        directory?_of_find? searches.there, few, many⟩)
      rw [Arguments.require, searches.given]
    exact ⟨term, place, members, _, searches, written.symm.trans listing, small,
      nodup_tally (searches.sound sound) place term, fun entry => mem_tally_iff,
      fun _ counted _ among => eq_of_shown sound stands searches counted among,
      fun _ counted => exists_agreesOn sound stands searches counted⟩
  · cases aborted.symm.trans answered

/-- The root of the workspace is searched, and then its one file. -/
theorem searches_agree_on_one_line :
    (Sample.world "" "one\ntwo" "").tree.Sound ∧
      (Sample.world "" "one\ntwo" "").tree.faceAt? Sample.environment.host.standing =
        some .directory ∧
      ∃ report, Guarded.Search.inDirectory {} Sample.environment Sample.termArguments
          (Sample.world "" "one\ntwo" "") = .ok (.ok report, Sample.world "" "one\ntwo" "") ∧
        opening.toList <+: report.toList ∧
        ∃ hits single, AgreesOn {} Sample.environment (Sample.world "" "one\ntwo" "") "one" "a.txt"
          1 hits single := by
  have sound := Sample.sound_tree "" "one\ntwo"
  have answered : Guarded.Search.inDirectory {} Sample.environment Sample.termArguments
      (Sample.world "" "one\ntwo" "") =
        .ok (.ok ("Found 1 matches for \"one\" in .:\na.txt (1 matches)\n" ++
          "End of matches for \"one\" in ."), Sample.world "" "one\ntwo" "") := by
    rfl
  refine ⟨sound, rfl, _, answered, by decide, ?_⟩
  rcases searches_agree {} Sample.environment Sample.termArguments (Sample.world "" "one\ntwo" "")
      _ sound rfl answered (by decide) with
    ⟨term, place, members, counts, searches, _, _, _, counted, _, agrees⟩
  obtain rfl : term = "one" := Option.some.inj (searches.given.symm.trans rfl)
  obtain rfl : place = ⟨true, ["ws"]⟩ := Except.ok.inj (searches.resolved.symm.trans rfl)
  have inside : members = [("a.txt", .file "one\ntwo".toUTF8 false)] :=
    Node.directory.inj (Option.some.inj (searches.there.symm.trans rfl))
  have held : (⟨true, ["ws", "a.txt"]⟩, 1) ∈ counts := by
    refine (counted _).mpr ⟨Nat.one_pos, ⟨⟨true, ["ws", "a.txt"]⟩, "one\ntwo".toUTF8⟩, ?_, rfl, rfl⟩
    rw [inside]
    exact List.mem_singleton_self _
  have text : Place.IsText ⟨true, ["ws", "a.txt"]⟩ := by
    simp only [Place.IsText, List.forall_mem_cons]
    exact ⟨by decide, by decide, nofun⟩
  exact agrees _ held text (by decide +kernel)

end Search

namespace Sample

/-- A name that is the byte 255. -/
def bare : String :=
  Name.ofBytes [255]

def bareWorld : World where
  tree := .directory [("ws", .directory [(bare, .file "one".toUTF8 false)])]
  memory := Memory.empty

theorem sound_bareWorld : bareWorld.tree.Sound :=
  .directory (List.pairwise_singleton _ _) (List.forall_mem_singleton.mpr (by decide +kernel))
    (List.forall_mem_singleton.mpr (sound_alone (by decide +kernel) "one"))

end Sample

namespace Search

/-- A file whose name is not UTF-8 is listed by a visible path, and by this path nothing is
found. -/
theorem searches_differ_on_bare_name :
    Sample.bareWorld.tree.Sound ∧
      Sample.bareWorld.tree.faceAt? Sample.environment.host.standing = some .directory ∧
      Guarded.Search.inDirectory {} Sample.environment Sample.termArguments Sample.bareWorld =
        .ok (.ok ("Found 1 matches for \"one\" in .:\n\ufffd (1 matches)\n" ++
          "End of matches for \"one\" in ."), Sample.bareWorld) ∧
      Text.isBlankOnly "\ufffd".toList = false ∧
      inFile {} Sample.environment (Sample.termArguments.insert "file" "\ufffd") Sample.bareWorld =
        (.ok "Error: File \ufffd not found", Sample.bareWorld) := by
  refine ⟨Sample.sound_bareWorld, rfl, ?_, by decide +kernel, ?_⟩
  · rfl
  · rfl

end Search

end Workbench
