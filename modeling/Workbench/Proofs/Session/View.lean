import Workbench.Proofs.Session.Calls
import Workbench.Proofs.Workspace.Resolution
namespace Workbench

/-!
# The view of a workspace

The open file and the first line in sight are two texts in a memory that commands share with
everything else they store.  They still belong together after any history of calls: both are
missing or both are there, the path has kept the form in which it was resolved, and the line is
a number.  That the window fits the file can only be said of the moment in which it is shown,
because the file may change afterwards.

The induction is over the calls.  A call by a caller with other variables does not reach the two;
a call by one with the same variables resolves paths against the same root, so what it leaves is
as good for everyone who shares the variables.
-/

namespace Environment

/-- A place of the workspace is what its own text resolves to. -/
theorem resolve_text {environment : Environment} {place : Place}
    (named : environment.directory ≠ "") (within : place.Within environment.root.names) :
    environment.resolve place.text = .ok place := by
  have anchored := anchored_root named
  have held : environment.root.holds place = true :=
    (Place.holds_iff anchored).mpr ⟨within.anchored, within.below⟩
  exact Workspace.resolve_text_of_accepted anchored within.plain
    (List.isPrefixOf_iff_prefix.mp held)

end Environment

namespace Viewer

/-- The path is absolute and has no segment that is a dot or a pair of dots. -/
structure Folded (path : String) : Prop where
  absolute : Path.isAbsolute path.toList = true
  dotless : ∀ segment ∈ Path.segments path.toList, segment ≠ ['.'] ∧ segment ≠ ['.', '.']

theorem folded_text {place : Place} (anchored : place.anchored = true)
    (plain : ∀ name ∈ place.names, Path.Plain name) : Folded place.text where
  absolute := Place.isAbsolute_text anchored
  dotless := by
    rw [Place.segments_text anchored plain]
    intro segment member
    rcases List.mem_cons.mp member with rfl | among
    · exact ⟨by decide, by decide⟩
    · split at among
      · rw [List.mem_singleton.mp among]
        exact ⟨by decide, by decide⟩
      · rcases List.mem_map.mp among with ⟨name, listed, rfl⟩
        have idle := (plain name listed).isIdle
        refine ⟨fun dot => ?_, (plain name listed).toList_ne_dots⟩
        rw [dot] at idle
        cases idle

/-- What a caller finds in the two variables of the viewer. -/
inductive Sound (environment : Environment) (world : World) : Prop where
  | closed (file : environment.value? world currentFile = none)
      (line : environment.value? world firstLine = none)
  | opened {place : Place} {first : Nat}
      (file : environment.value? world currentFile = some place.text)
      (folded : Folded place.text) (inside : environment.root.holds place = true)
      (own : environment.resolve place.text = .ok place)
      (line : environment.value? world firstLine = some (Decimal.write first))
      (positive : 1 ≤ first)

/-- The content is the window of a file as the file now is.  The variables say which window it
is, and the window fits the file. -/
inductive Shows (settings : WindowSettings) (environment : Environment) (world : World) :
    String → Prop where
  | window {place : Place} {text : String} {first : Nat}
      (read : contentOf environment world place = .ok text)
      (file : environment.value? world currentFile = some place.text)
      (line : environment.value? world firstLine = some (Decimal.write first))
      (positive : 1 ≤ first)
      (fits : first ≤ max 1 ((Window.linesOf text).length - settings.lines + 1)) :
      Shows settings environment world
        (Window.render settings (environment.display place) (Window.linesOf text) first)

variable {caller environment : Environment} {before : World}

/-- Only the two values count. -/
theorem Sound.of_same (sound : Sound environment before) {after : World}
    (same : ∀ key ∈ Variables.reserved,
      environment.value? after key = environment.value? before key) :
    Sound environment after := by
  have file := same currentFile (by decide)
  have line := same firstLine (by decide)
  cases sound with
  | closed noFile noLine => exact .closed (file.trans noFile) (line.trans noLine)
  | opened held folded inside own number positive =>
      exact .opened (file.trans held) folded inside own (line.trans number) positive

/-- What a caller remembers after resolving a path is sound for all who share the variables. -/
theorem sound_remember (named : environment.directory ≠ "") (shared : caller.Shares environment)
    {place : Place} (found : ∃ input, caller.resolve input = .ok place) {first : Nat}
    (positive : 1 ≤ first) : Sound environment (remember caller before place first) := by
  rcases found with ⟨input, resolved⟩
  rw [shared.resolve] at resolved
  have within := Environment.within_of_resolve named resolved
  exact .opened (value?_remember_currentFile shared before place first)
    (folded_text within.anchored within.plain)
    ((Place.holds_iff (Environment.anchored_root named)).mpr ⟨within.anchored, within.below⟩)
    (Environment.resolve_text named within)
    (value?_remember_firstLine shared before place first) positive

theorem sound_of_ends (named : environment.directory ≠ "") {settings : WindowSettings}
    {result : Except Failure String × World} (ended : Ends settings caller before result)
    (sound : Sound environment before) : Sound environment result.2 := by
  cases ended with
  | unseen _ kept =>
      exact sound.of_same (fun key _ => Environment.value?_of_memory kept environment key)
  | seen found _ positive _ _ kept =>
      suffices remembered : Sound environment (remember caller before _ _) from
        remembered.of_same (fun key _ => Environment.value?_of_memory kept environment key)
      by_cases shared : caller.Shares environment
      · exact sound_remember named shared found positive
      · exact sound.of_same (fun key _ => value?_remember_of_apart shared before _ _ key)

/-- A window that the viewer reports is the one that is then remembered. -/
theorem shows_of_ends {settings : WindowSettings} {result : Except Failure String × World}
    (ended : Ends settings environment before result) {content : String}
    (reported : result.1 = .ok content) (begins : Window.opening.toList <+: content.toList) :
    Shows settings environment result.2 content := by
  cases ended with
  | unseen windowless _ => exact absurd begins (windowless content reported)
  | seen _ read positive fits _ kept =>
      have own := Environment.Shares.refl environment
      rw [← Except.ok.inj reported]
      exact .window read
        ((Environment.value?_of_memory kept environment _).trans
          (value?_remember_currentFile own before _ _))
        ((Environment.value?_of_memory kept environment _).trans
          (value?_remember_firstLine own before _ _)) positive fits

end Viewer

/-! ## A call and a history -/

theorem Reply.ofOutcome_eq_ok_iff {outcome : Except Failure String} {content : String} :
    Reply.ofOutcome outcome = ⟨content, false⟩ ↔ outcome = .ok content := by
  cases outcome with
  | ok said => simp only [Reply.ofOutcome, Reply.mk.injEq, and_true, Except.ok.injEq]
  | error failure =>
      simp only [Reply.ofOutcome, Reply.mk.injEq, Bool.true_eq_false, and_false, reduceCtorEq]

namespace Call

variable {settings : Settings} {catalog : Catalog Action} {environment : Environment}

/-- No call makes the two variables unsound. -/
theorem sound_take (standard : Standard.catalog settings = .ok catalog)
    (named : environment.directory ≠ "") (call : Call) {memory : Memory}
    (sound : Viewer.Sound environment ⟨call.tree, memory⟩) :
    Viewer.Sound environment (call.take catalog memory).2 := by
  have ends := ends_take standard call memory
  generalize call.take catalog memory = taken at ends
  cases ends with
  | idle _ => exact sound
  | ran _ ended =>
      cases ended with
      | viewed _ ended => exact Viewer.sound_of_ends named ended sound
      | wrote _ _ free kept =>
          apply sound.of_same
          intro name reserved
          rw [Environment.value?_of_memory kept]
          apply Environment.value?_setVariable_of_ne
          rintro rfl
          exact free reserved
      | told _ kept =>
          exact sound.of_same (fun key _ => Environment.value?_of_memory kept environment key)

/-- The two variables are sound after any history. -/
theorem sound_memoryAfter (standard : Standard.catalog settings = .ok catalog)
    (named : environment.directory ≠ "") (calls : List Call) (tree : Node) :
    Viewer.Sound environment ⟨tree, memoryAfter catalog calls Memory.empty⟩ := by
  apply keeps_memoryAfter (fun memory => Viewer.Sound environment ⟨tree, memory⟩)
  · intro call _ memory sound
    have here : Viewer.Sound environment ⟨call.tree, memory⟩ := sound.of_same fun _ _ => rfl
    exact (sound_take standard named call here).of_same fun _ _ => rfl
  · exact .closed rfl rfl

/-- What the viewer reports as a window is the window that it then remembers. -/
theorem shows_take (standard : Standard.catalog settings = .ok catalog) (call : Call)
    (memory : Memory) {name content : String} (called : Turn.command? catalog call.text = some name)
    (viewer : name ∈ Viewer.names)
    (replied : (call.take catalog memory).1 = some ⟨content, false⟩)
    (begins : Window.opening.toList <+: content.toList) :
    Viewer.Shows settings.window call.environment (call.take catalog memory).2 content := by
  rcases Turn.command?_eq_some_iff.mp called with ⟨invocation, given, rfl⟩
  have ends := ends_take standard call memory
  generalize call.take catalog memory = taken at ends replied
  cases ends with
  | idle unread => exact absurd given (unread invocation)
  | ran own ended =>
      cases Except.ok.inj (own.symm.trans given)
      have reported := Reply.ofOutcome_eq_ok_iff.mp (Option.some.inj replied)
      cases ended with
      | viewed _ ended => exact Viewer.shows_of_ends ended reported begins
      | wrote writer _ _ _ =>
          rw [writer] at viewer
          exact absurd viewer (by decide)
      | told other _ => exact absurd viewer other

/-- After any history of calls that starts without variables, the open file and the first line in
sight are both unset or both set, and what is set is sound.  Each time a tool of the viewer has
reported a window, the two say which one it is, and it fits the file. -/
theorem view_of_history (settings : Settings) :
    ∃ catalog, Standard.catalog settings = .ok catalog ∧
      ∀ (calls : List Call) (environment : Environment) (tree : Node),
        environment.directory ≠ "" →
          Viewer.Sound environment ⟨tree, memoryAfter catalog calls Memory.empty⟩ ∧
          ∀ text name content, Turn.command? catalog text = some name → name ∈ Viewer.names →
            let taken := take catalog ⟨environment, tree, text⟩
              (memoryAfter catalog calls Memory.empty)
            taken.1 = some ⟨content, false⟩ → Window.opening.toList <+: content.toList →
              Viewer.Shows settings.window environment taken.2 content := by
  rcases Standard.exists_catalog settings with ⟨catalog, standard⟩
  refine ⟨catalog, standard, fun calls environment tree named => ⟨?_, ?_⟩⟩
  · exact sound_memoryAfter standard named calls tree
  · intro text name content called viewer taken replied begins
    exact shows_take standard ⟨environment, tree, text⟩ _ called viewer replied begins

end Call

namespace Sample

/-- A call that opens the one file of the workspace. -/
def openingCall : Call where
  environment := environment
  tree := tree "" "one\ntwo\n"
  text := "open a.txt"

def openingArguments : Arguments :=
  Dictionary.empty.insert "path" "a.txt"

/-- What the window of that file looks like. -/
def windowText : String :=
  "[File: a.txt (2 lines total)]\n1:one\n2:two"

theorem openFile_openingCall (memory : Memory) :
    (Viewer.openFile {} environment openingArguments ⟨openingCall.tree, memory⟩).1 =
      .ok windowText := by
  have given : openingArguments.require "open" "path" = .ok "a.txt" := by rfl
  have resolved : environment.resolve "a.txt" = .ok ⟨true, ["ws", "a.txt"]⟩ := by
    decide +kernel
  have read : Viewer.contentOf environment ⟨openingCall.tree, memory⟩ ⟨true, ["ws", "a.txt"]⟩ =
      .ok "one\ntwo\n" := contentOf_world "" "one\ntwo\n" ""
  have noDirectory : openingCall.tree.directoryAt environment.host.standing
      (Place.text ⟨true, ["ws", "a.txt"]⟩) = false := by rfl
  have file : openingCall.tree.fileAt environment.host.standing
      (Place.text ⟨true, ["ws", "a.txt"]⟩) = true := by rfl
  have unasked (total : Nat) : Viewer.requestedLine openingArguments total = .ok none := by rfl
  unfold Viewer.openFile Viewer.openFileWith
  rw [given]
  simp only [resolved, noDirectory, file, read, unasked, Bool.false_eq_true, if_false,
    Bool.not_true]
  unfold Viewer.showWindow
  rw [read]
  rfl

theorem opener_mem :
    (⟨Viewer.openDefinition, Viewer.openFile {}⟩ : Tool Action) ∈ Standard.tools {} :=
  Standard.mem_tools_iff.mpr (Or.inl rfl)

theorem read_openingCall {catalog : Catalog Action} (standard : Standard.catalog {} = .ok catalog) :
    Reading.read catalog.find? openingCall.text =
      .ok (some ⟨"open", openingArguments⟩) := by
  have begins : Text.firstWord? openingCall.text.toList = some "open".toList := by
    decide
  rw [Reading.read_eq_readAs (Standard.named?_of_mem standard opener_mem begins)]
  rfl

theorem take_openingCall {catalog : Catalog Action} (standard : Standard.catalog {} = .ok catalog)
    (memory : Memory) :
    (openingCall.take catalog memory).1 = some ⟨windowText, false⟩ := by
  have taken : openingCall.take catalog memory = _ :=
    Call.take_of_mem standard opener_mem (read_openingCall standard) environment openingCall.tree
      memory
  rw [taken]
  exact congrArg (some ∘ Reply.ofOutcome) (openFile_openingCall memory)

end Sample

/-- The first window of a small file. -/
theorem Call.view_of_history_of_open :
    ∃ catalog, Standard.catalog {} = .ok catalog ∧
      Viewer.Sound Sample.environment ⟨Sample.openingCall.tree,
        Call.memoryAfter catalog [Sample.openingCall] Memory.empty⟩ ∧
      (Sample.openingCall.take catalog Memory.empty).1 = some ⟨Sample.windowText, false⟩ ∧
      Viewer.Shows {} Sample.environment (Sample.openingCall.take catalog Memory.empty).2
        Sample.windowText := by
  rcases Call.view_of_history {} with ⟨catalog, standard, sees⟩
  have named : Sample.environment.directory ≠ "" := by
    decide
  have taken := Sample.take_openingCall standard Memory.empty
  have called : Turn.command? catalog Sample.openingCall.text = some "open" :=
    Turn.command?_eq_some_iff.mpr ⟨_, Sample.read_openingCall standard, rfl⟩
  refine ⟨catalog, standard, ?_, taken, ?_⟩
  · exact (sees [Sample.openingCall] Sample.environment Sample.openingCall.tree named).1
  · exact (sees [] Sample.environment Sample.openingCall.tree named).2 Sample.openingCall.text "open"
      Sample.windowText called (by decide) taken (by decide)

end Workbench
