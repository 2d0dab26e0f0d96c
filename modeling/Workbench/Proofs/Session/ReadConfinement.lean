import Workbench.Proofs.Session.Turns
import Workbench.Proofs.Tree.Alike
namespace Workbench

/-!
# What a session may read

Two worlds are twins for a caller if their trees share the caller's workspace and
the variables of the workspace are the same; in all else the worlds may differ.
Every tool but the one for pull requests gives the same report in twin worlds and
leaves twin worlds behind.  So a session has the same replies in both, and nothing
outside of the workspace can be seen from its replies, its variables or its files.

Each tool is taken up by one lemma.  They all go the same way: paths are resolved
without looking at a tree, and every later question is about a place of the
workspace, where twin worlds answer alike.
-/

/-- Worlds that one caller cannot tell apart. -/
structure Twins (environment : Environment) (left right : World) : Prop where
  alike : Node.Alike environment.root.names left.tree right.tree
  bindings : environment.bindings left = environment.bindings right

/-- Outcomes that are the same report in twin worlds. -/
structure Agree (environment : Environment) (left right : Except Failure String × World) :
    Prop where
  report : left.1 = right.1
  twins : Twins environment left.2 right.2

/-- The action cannot tell twin worlds apart. -/
def Blinkered (action : Action) : Prop :=
  ∀ environment arguments left right, environment.directory ≠ "" → Twins environment left right →
    Agree environment (action environment arguments left) (action environment arguments right)

variable {environment : Environment} {left right : World} {place : Place}

namespace Environment

theorem bindings_withBindings (environment : Environment) (world : World)
    (bindings : Dictionary String) :
    environment.bindings (environment.withBindings world bindings) = bindings := by
  simp [Environment.bindings, withBindings, Memory.update]

end Environment

namespace Twins

/-! ## Twin worlds answer alike -/

/-- The same report without any change. -/
theorem agree (twins : Twins environment left right) (report : Except Failure String) :
    Agree environment (report, left) (report, right) :=
  ⟨rfl, twins⟩

theorem value? (twins : Twins environment left right) (key : String) :
    environment.value? left key = environment.value? right key := by
  rw [Environment.value?, Environment.value?, twins.bindings]

theorem openPlace (twins : Twins environment left right) :
    Viewer.openPlace environment left = Viewer.openPlace environment right := by
  rw [Viewer.openPlace, Viewer.openPlace, twins.value?]

theorem lineInSight (twins : Twins environment left right) :
    Viewer.lineInSight environment left = Viewer.lineInSight environment right := by
  rw [Viewer.lineInSight, Viewer.lineInSight, twins.value?]

theorem contentOf (twins : Twins environment left right)
    (within : place.Within environment.root.names) :
    Viewer.contentOf environment left place = Viewer.contentOf environment right place :=
  twins.alike.readText within environment.host.standing

theorem directory? (twins : Twins environment left right)
    (within : place.Within environment.root.names) :
    Search.directory? environment left place = Search.directory? environment right place := by
  rw [Search.directory?, Search.directory?, twins.alike.find? within]

theorem target (twins : Twins environment left right) (arguments : Arguments) :
    Search.target environment arguments left = Search.target environment arguments right := by
  rw [Search.target, Search.target, twins.openPlace]

/-! ## Twin worlds stay twins -/

theorem withBindings (twins : Twins environment left right) (bindings : Dictionary String) :
    Twins environment (environment.withBindings left bindings)
      (environment.withBindings right bindings) where
  alike := twins.alike
  bindings := by
    rw [Environment.bindings_withBindings, Environment.bindings_withBindings]

theorem setVariable (twins : Twins environment left right) (key value : String) :
    Twins environment (environment.setVariable left key value)
      (environment.setVariable right key value) := by
  rw [Environment.setVariable, Environment.setVariable, twins.bindings]
  exact twins.withBindings _

theorem remember (twins : Twins environment left right) (place : Place) (first : Nat) :
    Twins environment (Viewer.remember environment left place first)
      (Viewer.remember environment right place first) :=
  (twins.setVariable _ _).setVariable _ _

/-- Other trees that share the workspace. -/
theorem withTrees (twins : Twins environment left right) {leftTree rightTree : Node}
    (alike : Node.Alike environment.root.names leftTree rightTree) :
    Twins environment { left with tree := leftTree } { right with tree := rightTree } where
  alike := alike
  bindings := twins.bindings

theorem showWindow (twins : Twins environment left right)
    (within : place.Within environment.root.names) (settings : WindowSettings) (first : Nat) :
    Agree environment (Viewer.showWindow settings environment left place first)
      (Viewer.showWindow settings environment right place first) := by
  unfold Viewer.showWindow
  rw [twins.contentOf within]
  cases Viewer.contentOf environment right place with
  | error cause => exact twins.agree _
  | ok content => exact ⟨rfl, twins.remember place _⟩

/-- Writing a file and showing it, as two tools do. -/
theorem writeText (twins : Twins environment left right)
    (within : place.Within environment.root.names) (text : String) (settings : WindowSettings)
    (first : Nat) :
    Agree environment
      (match left.tree.writeText environment.host.standing place.text text with
        | .error cause => (.error (.machine cause), left)
        | .ok tree => Viewer.showWindow settings environment { left with tree := tree } place first)
      (match right.tree.writeText environment.host.standing place.text text with
        | .error cause => (.error (.machine cause), right)
        | .ok tree =>
          Viewer.showWindow settings environment { right with tree := tree } place first) := by
  rcases (twins.alike.writeText within environment.host.standing text).cases with
    ⟨cause, onTheLeft, onTheRight⟩ | ⟨leftTree, rightTree, onTheLeft, onTheRight, after⟩
  · rw [onTheLeft, onTheRight]
    exact twins.agree _
  · rw [onTheLeft, onTheRight]
    exact (twins.withTrees after).showWindow within settings first

end Twins

/-! ## The viewer's tools -/

namespace Viewer

theorem blinkered_openFile (settings : WindowSettings) : Blinkered (openFile settings) := by
  intro environment arguments left right named twins
  unfold openFile openFileWith
  cases arguments.require "open" "path" with
  | error failure => exact twins.agree _
  | ok path =>
      simp only []
      cases resolved : environment.resolve path with
      | error failure => exact twins.agree _
      | ok place =>
          have within := Environment.within_of_resolve named resolved
          simp only []
          rw [twins.alike.directoryAt within, twins.alike.fileAt within, twins.contentOf within]
          split
          · exact twins.agree _
          · split
            · exact twins.agree _
            · cases contentOf environment right place with
              | error cause => exact twins.agree _
              | ok content =>
                  simp only []
                  cases requestedLine arguments (Window.linesOf content).length with
                  | error report => exact twins.agree _
                  | ok line? =>
                      cases line? with
                      | none => exact twins.showWindow within settings 1
                      | some line => exact twins.showWindow within settings _

theorem blinkered_goToLine (settings : WindowSettings) : Blinkered (goToLine settings) := by
  intro environment arguments left right named twins
  unfold goToLine goToLineWith
  rw [twins.openPlace]
  cases opened : openPlace environment right with
  | error report => exact twins.agree _
  | ok place =>
      have within := within_of_openPlace named opened
      simp only []
      rw [twins.contentOf within]
      cases contentOf environment right place with
      | error cause => exact twins.agree _
      | ok content =>
          simp only []
          cases requestedLine arguments (Window.linesOf content).length with
          | error report => exact twins.agree _
          | ok line? =>
              cases line? with
              | none => exact twins.agree _
              | some line => exact twins.showWindow within settings _

theorem blinkered_scroll (settings : WindowSettings) (direction : Direction) :
    Blinkered (scroll settings direction) := by
  intro environment arguments left right named twins
  unfold scroll scrollWith
  rw [twins.openPlace, twins.lineInSight]
  cases opened : openPlace environment right with
  | error report => exact twins.agree _
  | ok place => exact twins.showWindow (within_of_openPlace named opened) settings _

theorem blinkered_create (settings : WindowSettings) : Blinkered (create settings) := by
  intro environment arguments left right named twins
  cases given : arguments.require "create" "filename" with
  | error failure =>
      unfold create createWith
      rw [given]
      exact twins.agree _
  | ok name =>
      cases resolved : environment.resolve name with
      | error failure =>
          unfold create createWith
          simp only [given, resolved]
          exact twins.agree _
      | ok place =>
          have within := Environment.within_of_resolve named resolved
          have sameAnswer := twins.alike.existsAt within environment.host.standing
          cases found : right.tree.existsAt environment.host.standing place.text with
          | true =>
              unfold create createWith
              simp only [given, resolved, sameAnswer, found, if_true]
              exact twins.agree _
          | false =>
              rw [create_of_absent settings given resolved found,
                create_of_absent settings given resolved (sameAnswer.trans found)]
              obtain ⟨sameOutcome, after⟩ :=
                twins.alike.makeAbove within environment.host.standing
              -- both runs make the same directories or fail alike before the file is written
              revert sameOutcome after
              cases left.tree.makeAbove environment.host.standing place with
              | mk made leftTree =>
                  cases right.tree.makeAbove environment.host.standing place with
                  | mk other rightTree =>
                      intro sameOutcome after
                      simp only [] at sameOutcome after
                      subst sameOutcome
                      cases made with
                      | error cause => exact (twins.withTrees after).agree _
                      | ok _ => exact (twins.withTrees after).writeText within "" settings 1

theorem blinkered_edit (settings : WindowSettings) : Blinkered (edit settings) := by
  intro environment arguments left right named twins
  unfold edit editWith
  rw [twins.openPlace]
  cases opened : openPlace environment right with
  | error report => exact twins.agree _
  | ok place =>
      have within := within_of_openPlace named opened
      simp only []
      cases bound arguments "start_line" with
      | error failure => exact twins.agree _
      | ok start =>
          simp only []
          cases bound arguments "end_line" with
          | error failure => exact twins.agree _
          | ok stop =>
              simp only []
              rw [twins.contentOf within]
              cases contentOf environment right place with
              | error cause => exact twins.agree _
              | ok text =>
                  simp only []
                  cases Splice.fault? (Window.linesOf text).length start stop with
                  | some fault => exact twins.agree _
                  | none => exact twins.writeText within _ settings _

end Viewer

/-! ## The other tools -/

namespace Search

theorem blinkered_inDirectory (settings : SearchSettings) : Blinkered (inDirectory settings) := by
  intro environment arguments left right named twins
  unfold inDirectory inDirectoryWith
  cases arguments.require "search_dir" "search_term" with
  | error failure => exact twins.agree _
  | ok term =>
      simp only []
      cases resolved : environment.resolve (scope arguments) with
      | error failure => exact twins.agree _
      | ok place =>
          have within := Environment.within_of_resolve named resolved
          simp only []
          rw [twins.directory? within]
          cases directory? environment right place with
          | none => exact twins.agree _
          | some directory =>
              dsimp only
              rw [tallyReportWith_eq, tallyReportWith_eq]
              exact twins.agree _

theorem blinkered_inFile (settings : SearchSettings) : Blinkered (inFile settings) := by
  intro environment arguments left right named twins
  unfold inFile
  cases arguments.require "search_file" "search_term" with
  | error failure => exact twins.agree _
  | ok term =>
      simp only []
      rw [twins.target]
      cases aimed : target environment arguments right with
      | error report => exact twins.agree _
      | ok place =>
          have within := within_of_target named aimed
          simp only []
          rw [twins.alike.find? within]
          split
          · exact twins.agree _
          · exact twins.agree _

theorem blinkered_byName (settings : SearchSettings) : Blinkered (byName settings) := by
  intro environment arguments left right named twins
  unfold byName
  cases arguments.require "find_file" "file_name" with
  | error failure => exact twins.agree _
  | ok name =>
      simp only []
      cases resolved : environment.resolve (scope arguments) with
      | error failure => exact twins.agree _
      | ok place =>
          have within := Environment.within_of_resolve named resolved
          simp only []
          rw [twins.directory? within]
          cases directory? environment right place with
          | none => exact twins.agree _
          | some directory =>
              simp only []
              cases Pattern.read name with
              | error complaint => exact twins.agree _
              | ok pattern => exact twins.agree _

end Search

namespace Variables

theorem blinkered_read : Blinkered read := by
  intro environment arguments left right named twins
  unfold read
  cases arguments.require "read_env" "key" with
  | error failure => exact twins.agree _
  | ok key =>
      simp only []
      rw [twins.value?]
      cases environment.value? right key with
      | some value => exact twins.agree _
      | none =>
          simp only []
          cases arguments.get? "default" with
          | some value => exact twins.agree _
          | none => exact twins.agree _

theorem blinkered_write : Blinkered write := by
  intro environment arguments left right named twins
  unfold write
  cases arguments.require "write_env" "key" with
  | error failure => exact twins.agree _
  | ok key =>
      simp only []
      cases arguments.require "write_env" "value" with
      | error failure => exact twins.agree _
      | ok value =>
          simp only []
          split
          · exact twins.agree _
          · split
            · exact twins.agree _
            · exact ⟨rfl, twins.setVariable key value⟩

end Variables

namespace Web

theorem blinkered_search (settings : WebSettings) : Blinkered (search settings) := by
  intro environment arguments left right named twins
  unfold search
  cases arguments.require "web_search" "query" with
  | error failure => exact twins.agree _
  | ok query =>
      simp only []
      cases service? environment.host.bindings with
      | none => exact twins.agree _
      | some found => exact twins.agree _

end Web

/-- No standard tool but the one for pull requests can tell twin worlds apart. -/
theorem Standard.blinkered_of_mem {settings : Settings} {tool : Tool Action}
    (member : tool ∈ tools settings) (peaceful : tool.name ≠ "create_pr") :
    Blinkered tool.action := by
  rcases mem_tools_iff.mp member with
    rfl | rfl | rfl | rfl | rfl | rfl | rfl | rfl | rfl | rfl | rfl | rfl | rfl
  · exact Viewer.blinkered_openFile settings.window
  · exact Viewer.blinkered_goToLine settings.window
  · exact Viewer.blinkered_scroll settings.window .down
  · exact Viewer.blinkered_scroll settings.window .up
  · exact Viewer.blinkered_create settings.window
  · exact Viewer.blinkered_edit settings.window
  · exact Search.blinkered_inDirectory settings.search
  · exact Search.blinkered_inFile settings.search
  · exact Search.blinkered_byName settings.search
  · exact Variables.blinkered_read
  · exact Variables.blinkered_write
  · exact Web.blinkered_search settings.web
  · exact absurd rfl peaceful

/-! ## A turn and a session -/

namespace Turn

variable {settings : Settings} {catalog : Catalog Action}

/-- One turn in twin worlds. -/
theorem take_twins (standard : Standard.catalog settings = .ok catalog)
    (named : environment.directory ≠ "") (twins : Twins environment left right) {text : String}
    (peaceful : command? catalog text ≠ some "create_pr") :
    (take catalog environment text left).1 = (take catalog environment text right).1 ∧
      Twins environment (take catalog environment text left).2
        (take catalog environment text right).2 := by
  cases meaning catalog text with
  | idle reply turn =>
      rw [turn, turn]
      exact ⟨rfl, twins⟩
  | call tool arguments called found turn =>
      obtain ⟨member, _⟩ := Standard.mem_tools_of_tool? standard found
      rw [called] at peaceful
      have agree := Standard.blinkered_of_mem member (fun same => peaceful (congrArg some same))
        environment arguments left right named twins
      rw [turn, turn, agree.report]
      exact ⟨rfl, agree.twins⟩

/-- A session in twin worlds has the same replies and leaves twin worlds. -/
theorem takeAll_twins (standard : Standard.catalog settings = .ok catalog)
    (named : environment.directory ≠ "") (texts : List String)
    (peaceful : ∀ text ∈ texts, command? catalog text ≠ some "create_pr")
    (left right : World) (twins : Twins environment left right) :
    (takeAll catalog environment texts left).1 = (takeAll catalog environment texts right).1 ∧
      Twins environment (takeAll catalog environment texts left).2
        (takeAll catalog environment texts right).2 := by
  induction texts generalizing left right with
  | nil => exact ⟨rfl, twins⟩
  | cons text others inductionHypothesis =>
      obtain ⟨sameReply, after⟩ :=
        take_twins standard named twins (peaceful text List.mem_cons_self)
      obtain ⟨sameReplies, final⟩ := inductionHypothesis
        (fun other member => peaceful other (List.mem_cons_of_mem text member)) _ _ after
      rw [takeAll_cons, takeAll_cons, sameReply, sameReplies]
      exact ⟨rfl, final⟩

/-- Two sessions of the same texts, in trees without links that hold the same
workspace and with the same variables, have the same replies, and end with the same
variables and the same workspace. -/
theorem takeAll_confines_reads (settings : Settings) (environment : Environment)
    (named : environment.directory ≠ "") (left right : World)
    (leftLinkless : left.tree.Linkless) (rightLinkless : right.tree.Linkless)
    (members : List (String × Node))
    (leftWorkspace : left.tree.get? environment.root.names = some (.directory members))
    (rightWorkspace : right.tree.get? environment.root.names = some (.directory members))
    (sameVariables : environment.bindings left = environment.bindings right) :
    ∃ catalog, Standard.catalog settings = .ok catalog ∧
      ∀ texts, (∀ text ∈ texts, command? catalog text ≠ some "create_pr") →
        (takeAll catalog environment texts left).1 =
            (takeAll catalog environment texts right).1 ∧
          environment.bindings (takeAll catalog environment texts left).2 =
            environment.bindings (takeAll catalog environment texts right).2 ∧
          ∃ after,
            (takeAll catalog environment texts left).2.tree.get? environment.root.names =
                some (.directory after) ∧
              (takeAll catalog environment texts right).2.tree.get? environment.root.names =
                some (.directory after) := by
  obtain ⟨catalog, standard⟩ := Standard.exists_catalog settings
  have alike : Node.Alike environment.root.names left.tree right.tree :=
    ⟨leftLinkless, rightLinkless, members, leftWorkspace, rightWorkspace⟩
  refine ⟨catalog, standard, ?_⟩
  intro texts peaceful
  obtain ⟨sameReplies, twins⟩ :=
    takeAll_twins standard named texts peaceful left right ⟨alike, sameVariables⟩
  exact ⟨sameReplies, twins.bindings, twins.alike.shared⟩

/-- A session cannot learn what stands in a file outside, although that file is
stored as the open one. -/
theorem takeAll_confines_reads_of_hostile_variable :
    (Sample.world "secret" "one\n" "/etc/passwd").tree.Linkless ∧
      (Sample.world "other" "one\n" "/etc/passwd").tree.Linkless ∧
      ∃ catalog, Standard.catalog {} = .ok catalog ∧
        (takeAll catalog Sample.environment Sample.texts
            (Sample.world "secret" "one\n" "/etc/passwd")).1 =
          (takeAll catalog Sample.environment Sample.texts
            (Sample.world "other" "one\n" "/etc/passwd")).1 := by
  have onTheLeft := (Sample.hosts_tree "secret" "one\n").linkless
  have onTheRight := (Sample.hosts_tree "other" "one\n").linkless
  obtain ⟨catalog, standard, confined⟩ :=
    takeAll_confines_reads {} Sample.environment (by decide)
      (Sample.world "secret" "one\n" "/etc/passwd")
      (Sample.world "other" "one\n" "/etc/passwd") onTheLeft onTheRight
      [("a.txt", .file "one\n".toUTF8 false)]
      (by rw [Sample.names_root]; rfl) (by rw [Sample.names_root]; rfl) rfl
  exact ⟨onTheLeft, onTheRight, catalog, standard,
    (confined Sample.texts (Sample.command?_ne_of_mem_texts catalog)).1⟩

end Turn

end Workbench
