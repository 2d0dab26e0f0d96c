import Workbench.Proofs.Session.Turns
namespace Workbench

/-!
# What a session may write

A session that opens no pull request never touches a node outside of its
workspace, and never removes a node or turns it into another kind of node.  The
statement holds for every content of the variables, so it does not matter what
path is stored as the open file.

The main statement also says what each turn of the session does to the tree: an
edit rewrites one file at most, a creation makes directories and one empty file at
most, and no other turn changes anything.  The proof is one lemma for the turn and
an induction over the texts.  What the induction carries is that the tree still
has no links and still has the workspace as a directory.
-/

/-- What a turn may do to the tree, given the tool that its text calls. -/
def Permits (scope : List String) (command : Option String) (before after : Node) : Prop :=
  if command = some "edit" then after = before ∨ Node.Rewrites scope before after
  else if command = some "create" then Node.Grows scope before after
  else after = before

namespace Permits

variable {scope : List String} {before after : Node} {command : Option String}

theorem of_unchanged (same : after = before) : Permits scope command before after := by
  unfold Permits
  split
  · exact Or.inl same
  · split
    · rw [same]
      exact ⟨none, Node.GrowsBy.refl none scope before⟩
    · exact same

/-- The three things that a permitted turn may come to. -/
theorem cases (permits : Permits scope command before after) :
    after = before ∨ Node.Rewrites scope before after ∨ Node.Grows scope before after := by
  unfold Permits at permits
  split at permits
  · rcases permits with same | rewrites
    · exact Or.inl same
    · exact Or.inr (Or.inl rewrites)
  · split at permits
    · exact Or.inr (Or.inr permits)
    · exact Or.inl permits

theorem contained (permits : Permits scope command before after) :
    Node.Contained scope before after := by
  rcases permits.cases with same | rewrites | ⟨fresh, grows⟩
  · rw [same]
    exact Node.Contained.refl scope before
  · exact rewrites.contained
  · exact grows.contained

theorem hosts (permits : Permits scope command before after) (hosts : before.Hosts scope) :
    after.Hosts scope := by
  rcases permits.cases with same | rewrites | ⟨fresh, grows⟩
  · rw [same]
    exact hosts
  · exact rewrites.hosts hosts
  · exact grows.hosts hosts

end Permits

/-! ## One tool -/

variable {environment : Environment} {world : World}

/-- Every standard tool but the one for pull requests does to the tree what a turn
of its name may do. -/
theorem Standard.permits_of_mem (named : environment.directory ≠ "")
    (hosts : world.tree.Hosts environment.root.names) {settings : Settings} {tool : Tool Action}
    (member : tool ∈ tools settings) (peaceful : tool.name ≠ "create_pr") (arguments : Arguments) :
    Permits environment.root.names (some tool.name) world.tree
      (tool.action environment arguments world).2.tree := by
  have quiet {action : Action} (leaves : LeavesFiles action) {name : String} :
      Permits environment.root.names (some name) world.tree
        (action environment arguments world).2.tree :=
    Permits.of_unchanged (leaves environment arguments world)
  rcases mem_tools_iff.mp member with
    rfl | rfl | rfl | rfl | rfl | rfl | rfl | rfl | rfl | rfl | rfl | rfl | rfl
  · exact quiet (Viewer.leavesFiles_openFile settings.window)
  · exact quiet (Viewer.leavesFiles_goToLine settings.window)
  · exact quiet (Viewer.leavesFiles_scroll settings.window .down)
  · exact quiet (Viewer.leavesFiles_scroll settings.window .up)
  · exact Viewer.tree_create named hosts settings.window arguments
  · exact Viewer.tree_edit named hosts settings.window arguments
  · exact quiet (Search.onlyReports_inDirectory settings.search).leavesFiles
  · exact quiet (Search.onlyReports_inFile settings.search).leavesFiles
  · exact quiet (Search.onlyReports_byName settings.search).leavesFiles
  · exact quiet Variables.onlyReports_read.leavesFiles
  · exact quiet Variables.leavesFiles_write
  · exact quiet (Web.onlyReports_search settings.web).leavesFiles
  · exact absurd rfl peaceful

/-! ## A turn and a session -/

namespace Turn

variable {settings : Settings} {catalog : Catalog Action}

/-- A turn does to the tree what the tool that it calls may do. -/
theorem permits_take (standard : Standard.catalog settings = .ok catalog)
    (named : environment.directory ≠ "") (hosts : world.tree.Hosts environment.root.names)
    {text : String} (peaceful : command? catalog text ≠ some "create_pr") :
    Permits environment.root.names (command? catalog text) world.tree
      (take catalog environment text world).2.tree := by
  cases meaning catalog text with
  | idle reply turn =>
      rw [turn]
      exact Permits.of_unchanged rfl
  | call tool arguments called found turn =>
      obtain ⟨member, _⟩ := Standard.mem_tools_of_tool? standard found
      rw [called] at peaceful ⊢
      rw [turn]
      exact Standard.permits_of_mem named hosts member (fun same => peaceful (congrArg some same))
        arguments

/-- The invariant of a session: it stays contained, and the workspace stays. -/
theorem contained_takeAll (standard : Standard.catalog settings = .ok catalog)
    (named : environment.directory ≠ "") (texts : List String)
    (peaceful : ∀ text ∈ texts, command? catalog text ≠ some "create_pr")
    (world : World) (hosts : world.tree.Hosts environment.root.names) :
    Node.Contained environment.root.names world.tree
        (takeAll catalog environment texts world).2.tree ∧
      (takeAll catalog environment texts world).2.tree.Hosts environment.root.names := by
  induction texts generalizing world with
  | nil => exact ⟨Node.Contained.refl _ _, hosts⟩
  | cons text others inductionHypothesis =>
      have permits := permits_take standard named hosts (peaceful text List.mem_cons_self)
      obtain ⟨contained, remains⟩ := inductionHypothesis
        (fun other member => peaceful other (List.mem_cons_of_mem text member))
        (take catalog environment text world).2 (permits.hosts hosts)
      rw [takeAll_cons]
      exact ⟨permits.contained.trans contained, remains⟩

/-- A session without pull requests is contained in its workspace, and each of its
turns does no more than the tool that it calls may do. -/
theorem takeAll_confines_writes (settings : Settings) (environment : Environment)
    (named : environment.directory ≠ "") (world : World)
    (hosts : world.tree.Hosts environment.root.names) :
    ∃ catalog, Standard.catalog settings = .ok catalog ∧
      ∀ texts, (∀ text ∈ texts, command? catalog text ≠ some "create_pr") →
        Node.Contained environment.root.names world.tree
            (takeAll catalog environment texts world).2.tree ∧
          ∀ earlier text, earlier ++ [text] <+: texts →
            Permits environment.root.names (command? catalog text)
              (takeAll catalog environment earlier world).2.tree
              (takeAll catalog environment (earlier ++ [text]) world).2.tree := by
  obtain ⟨catalog, standard⟩ := Standard.exists_catalog settings
  refine ⟨catalog, standard, ?_⟩
  intro texts peaceful
  constructor
  · exact (contained_takeAll standard named texts peaceful world hosts).1
  · intro earlier text begins
    have past := contained_takeAll standard named earlier
      (fun other member => peaceful other (begins.subset (List.mem_append_left [text] member)))
      world hosts
    have present : text ∈ texts := begins.subset (List.mem_append_right earlier List.mem_cons_self)
    rw [takeAll_concat]
    exact permits_take standard named past.2 (peaceful text present)

/-- A file outside of the workspace survives a session that was left with it as its
open file. -/
theorem takeAll_confines_writes_of_hostile_variable :
    Sample.environment.directory ≠ "" ∧
      (Sample.world "secret" "one\n" "/etc/passwd").tree.Hosts Sample.environment.root.names ∧
      ∃ catalog, Standard.catalog {} = .ok catalog ∧
        (takeAll catalog Sample.environment Sample.texts
            (Sample.world "secret" "one\n" "/etc/passwd")).2.tree.faceAt? ["etc", "passwd"] =
          some (.file "secret".toUTF8 false) := by
  have named : Sample.environment.directory ≠ "" := by decide
  have hosts := Sample.hosts_tree "secret" "one\n"
  obtain ⟨catalog, standard, confined⟩ :=
    takeAll_confines_writes {} Sample.environment named
      (Sample.world "secret" "one\n" "/etc/passwd") hosts
  refine ⟨named, hosts, catalog, standard, ?_⟩
  have contained := (confined Sample.texts (Sample.command?_ne_of_mem_texts catalog)).1
  rw [Sample.names_root] at contained
  rw [contained.outside ["etc", "passwd"] (by decide)]
  rfl

end Turn

end Workbench
