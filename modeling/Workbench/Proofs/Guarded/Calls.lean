import Workbench.Proofs.Guarded.Reader
import Workbench.Proofs.Guarded.Standard
import Workbench.Proofs.Search.Hits
import Workbench.Proofs.Session.View
namespace Workbench

/-!
# Which calls abort

A call is read and carried out by the process with its words and vectors.  Whatever a call does
without aborting is what it does in numbers of any size, so all that is said of calls elsewhere
holds of the process.

When it aborts is another question.  The one number that calls hand on to each other is the first
line in sight, and it is always one that was reached in some short file.  So whatever the earlier
calls were and whatever has become of the files since, no bound fails.  The invariant is about all
callers at once, because a caller may find the line that another one has left.  Only the sum of
the hits that a search of a directory adds up is not bounded by anything: the process aborts
exactly where it is more than a word can count.
-/

/-! ## The line in sight -/

namespace Viewer

variable {environment caller : Environment} {before after : World}

theorem lineInSight_congr
    (same : environment.value? after firstLine = environment.value? before firstLine) :
    lineInSight environment after = lineInSight environment before := by
  unfold lineInSight
  rw [same]

/-- A number that is too large to be read again counts as one. -/
theorem lineInSight_of_written {first : Nat}
    (held : environment.value? before firstLine = some (Decimal.write first)) :
    lineInSight environment before ≤ max first 1 := by
  unfold lineInSight
  rw [held]
  simp only [Decimal.read?_write]
  split
  · exact Nat.le_max_left _ _
  · exact Nat.le_max_right _ _

/-- A line that was reached in a short file is no further down than one behind its last. -/
theorem Reached.le {place : Place} {line : Nat} (reached : Reached environment before place line)
    (files : before.tree.Short) : line ≤ 2 ^ 63 := by
  rcases reached with rfl | ⟨text, read, inside⟩
  · exact Nat.one_le_two_pow
  · have short := files.of_readText read
    omega

theorem lineInSight_of_ends {settings : WindowSettings} {result : Except Failure String × World}
    (ended : Ends settings caller before result) (files : before.tree.Short)
    (near : lineInSight environment before ≤ 2 ^ 63) :
    lineInSight environment result.2 ≤ 2 ^ 63 := by
  cases ended with
  | unseen _ kept =>
      rw [lineInSight_congr (Environment.value?_of_memory kept environment _)]
      exact near
  | @seen place _ first _ _ _ _ _ reached kept =>
      rw [lineInSight_congr (Environment.value?_of_memory kept environment _)]
      by_cases shared : caller.Shares environment
      · have low := reached.le files
        have read := lineInSight_of_written (value?_remember_firstLine shared before place first)
        omega
      · rw [lineInSight_congr (value?_remember_of_apart shared before place first firstLine)]
        exact near

end Viewer

namespace Call

variable {settings : Settings} {catalog : Catalog Workbench.Action}

/-- Nobody has a line in sight that is further down than one behind the last of a short file. -/
def Near (memory : Memory) : Prop :=
  ∀ (environment : Environment) (tree : Node),
    Viewer.lineInSight environment ⟨tree, memory⟩ ≤ 2 ^ 63

theorem near_take (standard : Standard.catalog settings = .ok catalog) {call : Call}
    (files : call.tree.Short) {memory : Memory} (near : Near memory) :
    Near (call.take catalog memory).2.memory := by
  intro environment tree
  have here := near environment call.tree
  have ends := ends_take standard call memory
  generalize call.take catalog memory = taken at ends
  suffices after : Viewer.lineInSight environment taken.2 ≤ 2 ^ 63 from after
  cases ends with
  | idle _ => exact here
  | ran _ ended =>
      cases ended with
      | viewed _ ended => exact Viewer.lineInSight_of_ends ended files here
      | @wrote key _ _ _ free kept =>
          have apart : Viewer.firstLine ≠ key := by
            rintro rfl
            exact free (by decide)
          rw [Viewer.lineInSight_congr (Environment.value?_of_memory kept environment _),
            Viewer.lineInSight_congr
              (Environment.value?_setVariable_of_ne apart call.environment environment _ _)]
          exact here
      | told _ kept =>
          rw [Viewer.lineInSight_congr (Environment.value?_of_memory kept environment _)]
          exact here

theorem near_memoryAfter (standard : Standard.catalog settings = .ok catalog) {calls : List Call}
    (files : ∀ call ∈ calls, call.tree.Short) : Near (memoryAfter catalog calls Memory.empty) := by
  apply keeps_memoryAfter Near
  · intro call member memory near
    exact near_take standard (files call member) near
  · intro environment tree
    exact Nat.one_le_two_pow

/-- The text is one that a process can hold at all, and every file is short.  Nothing is asked of
how many files there are. -/
structure Fits (call : Call) : Prop where
  text : call.text.toList.length < 2 ^ 63
  files : call.tree.Short

end Call

theorem Sample.fits_openingCall : openingCall.Fits where
  text := by decide
  files := by
    have outside : (Node.file "".toUTF8 false).Short := Node.short_file (by decide) false
    have inside : (Node.file "one\ntwo\n".toUTF8 false).Short :=
      Node.short_file (by decide) false
    apply Node.short_directory
    simp only [List.forall_mem_cons]
    refine ⟨Node.short_directory ?_, Node.short_directory ?_, by simp⟩
    · simpa using outside
    · simpa using inside

/-! ## A call in words -/

namespace Guarded

/-- Runs the tool of a name. -/
def run (registry : Registry Action) (name : String) : Action :=
  fun environment arguments world => do
    match ← registry.tool? name with
    | none => pure (.error (.unknownTool name), world)
    | some tool => tool.action environment arguments world

/-- The reply to a call, and the world that it leaves. -/
def take (registry : Registry Action) (call : Call) (memory : Memory) :
    Run (Option Reply × World) := do
  match ← Reader.read registry.find? call.text with
  | .ok none => pure (none, ⟨call.tree, memory⟩)
  | .error failure => pure (some (Reply.ofOutcome (.error failure)), ⟨call.tree, memory⟩)
  | .ok (some invocation) =>
    let result ← run registry invocation.name call.environment invocation.arguments
      ⟨call.tree, memory⟩
    pure (some (Reply.ofOutcome result.1), result.2)

namespace Standard

variable {settings : Settings}

theorem definitions_tools (settings : Settings) :
    (tools settings).map Tool.definition =
      (Workbench.Standard.tools settings).map Tool.definition := rfl

/-- The registry of the standard tools can be built, and nothing aborts on the way. -/
theorem exists_registry (settings : Settings) :
    ∃ built catalog, registry settings = .ok (.ok built) ∧ built.Holds catalog ∧
      catalog.tools = tools settings := by
  have sound : ∀ tool ∈ tools settings, tool.definition.defect? = none := by
    intro tool member
    have listed := List.mem_map_of_mem (f := Tool.definition) member
    rw [definitions_tools] at listed
    rcases List.mem_map.mp listed with ⟨twin, standard, same⟩
    rw [← same]
    exact Workbench.Standard.defect?_of_mem_tools standard
  have distinct : (((Catalog.empty : Catalog Action).tools ++ tools settings).map
      Tool.name).Nodup := Workbench.Standard.nodup_names_tools settings
  rcases Registry.registerAll_alike Registry.holds_empty (tools settings) with
    ⟨outcome, registered, alike⟩
  rcases Catalog.exists_registerAll sound Catalog.empty with ⟨catalog, accepted⟩
  rw [accepted] at alike
  cases alike with
  | @accepted built _ holds =>
      exact ⟨built, catalog, registered, holds,
        Catalog.tools_of_registerAll sound distinct accepted⟩

/-- Every standard tool has its twin. -/
theorem exists_twin {tool : Tool Workbench.Action}
    (member : tool ∈ Workbench.Standard.tools settings) :
    ∃ guarded ∈ tools settings, Twins settings guarded tool := by
  have each := twins_tools settings
  generalize tools settings = guarded at each ⊢
  generalize Workbench.Standard.tools settings = standard at each member
  induction each with
  | nil => cases member
  | cons twins _ inductionHypothesis =>
      rcases List.mem_cons.mp member with rfl | later
      · exact ⟨_, List.mem_cons_self, twins⟩
      · rcases inductionHypothesis later with ⟨other, listed, same⟩
        exact ⟨other, List.mem_cons_of_mem _ listed, same⟩

end Standard

theorem find?_eq_find?_definitions {Action : Type} (catalog : Catalog Action) (name : String) :
    catalog.find? name =
      catalog.definitions.find? (fun definition => definition.name == name) := by
  rw [Catalog.find?, Catalog.tool?, Catalog.definitions, List.find?_map]
  rfl

variable {settings : Settings} {catalog : Catalog Workbench.Action} {twin : Catalog Action}
  {registry : Registry Action}

/-- The registry finds what the standard catalog finds. -/
theorem finds (standard : Workbench.Standard.catalog settings = .ok catalog)
    (holds : registry.Holds twin) (listed : twin.tools = Standard.tools settings)
    (name : String) : registry.find? name = .ok (catalog.find? name) := by
  rw [Registry.find?_eq holds, find?_eq_find?_definitions, find?_eq_find?_definitions,
    Catalog.definitions, Catalog.definitions, listed,
    Workbench.Standard.tools_of_catalog standard, Standard.definitions_tools]

/-- A command of the standard catalog is carried out by the twin of its tool. -/
theorem exists_twin_of_read (standard : Workbench.Standard.catalog settings = .ok catalog)
    (holds : registry.Holds twin) (listed : twin.tools = Standard.tools settings)
    {text : String} {invocation : Invocation}
    (given : Reading.read catalog.find? text = .ok (some invocation)) :
    ∃ guarded tool, Standard.Twins settings guarded tool ∧ tool.name = invocation.name ∧
      run registry invocation.name = guarded.action ∧
      Turn.run catalog invocation.name = tool.action := by
  rcases Call.exists_named_of_read standard given with ⟨tool, member, named, dispatched⟩
  rcases Standard.exists_twin member with ⟨guarded, among, twins⟩
  have found : twin.tool? invocation.name = some guarded := by
    rw [← named, Tool.name, ← twins.definition]
    exact Catalog.tool?_of_mem (listed ▸ among)
  refine ⟨guarded, tool, twins, named, ?_, dispatched⟩
  funext environment arguments world
  rw [run, Registry.tool?_eq holds, found, ok_bind]

/-- The hits of a search are more than a word can count. -/
def Spills (settings : Settings) (catalog : Catalog Workbench.Action) (call : Call)
    (memory : Memory) : Prop :=
  ∃ arguments, Reading.read catalog.find? call.text =
      .ok (some ⟨"search_dir", arguments⟩) ∧
    Search.Spills settings.search call.environment arguments ⟨call.tree, memory⟩

/-- What a command gets to see in a call that fits is moderate. -/
theorem moderate_of_read (height : settings.window.lines < 2 ^ 63) {call : Call}
    (fits : call.Fits) {memory : Memory} (near : Call.Near memory) {invocation : Invocation}
    (given : Reading.read catalog.find? call.text = .ok (some invocation)) :
    Moderate settings.window call.environment invocation.arguments ⟨call.tree, memory⟩ where
  height := height
  files := fits.files
  sight := near call.environment call.tree
  content := by
    intro content held
    have small := fits.text
    have lines := Reading.lines_content_le given held
    omega

/-- What a call comes to, told by what its command comes to. -/
theorem take_eq_bind (standard : Workbench.Standard.catalog settings = .ok catalog)
    (holds : registry.Holds twin) (listed : twin.tools = Standard.tools settings) {call : Call}
    (small : call.text.toList.length ≤ Decimal.largest) {memory : Memory} {invocation : Invocation}
    (given : Reading.read catalog.find? call.text = .ok (some invocation)) :
    take registry call memory =
      run registry invocation.name call.environment invocation.arguments ⟨call.tree, memory⟩ >>=
        fun result => pure (some (Reply.ofOutcome result.1), result.2) := by
  rw [take, Reader.read_eq (finds standard holds listed) small, ok_bind, given]

/-- A call gives what it gives in numbers of any size or aborts. -/
theorem gives_take (standard : Workbench.Standard.catalog settings = .ok catalog)
    (holds : registry.Holds twin) (listed : twin.tools = Standard.tools settings)
    {call : Call} (small : call.text.toList.length ≤ Decimal.largest) (memory : Memory) :
    Gives (settings.window.lines < 2 ^ 63 ∧ call.Fits ∧ Call.Near memory ∧
        ¬ Spills settings catalog call memory)
      (call.take catalog memory) (take registry call memory) := by
  unfold Call.take
  cases given : Reading.read catalog.find? call.text with
  | error failure =>
      rw [take, Reader.read_eq (finds standard holds listed) small, ok_bind, given, Turn.take,
        given]
      exact .ok
  | ok invocation? =>
      cases invocation? with
      | none =>
          rw [take, Reader.read_eq (finds standard holds listed) small, ok_bind, given, Turn.take,
            given]
          exact .ok
      | some invocation =>
          rcases exists_twin_of_read standard holds listed given with
            ⟨guarded, tool, twins, named, carried, dispatched⟩
          rw [take_eq_bind standard holds listed small given, Turn.take_of_invocation given,
            carried, dispatched]
          refine ((twins.follows _ _ _).of_imp ?_).bind .ok
          rintro ⟨height, fits, near, unspilled⟩
          refine ⟨moderate_of_read height fits near given, ?_⟩
          rintro ⟨searches, spills⟩
          rcases invocation with ⟨name, arguments⟩
          cases named.symm.trans searches
          exact unspilled ⟨arguments, given, spills⟩

/-- A call whose search finds too much aborts. -/
theorem take_of_spills (standard : Workbench.Standard.catalog settings = .ok catalog)
    (holds : registry.Holds twin) (listed : twin.tools = Standard.tools settings)
    {call : Call} (small : call.text.toList.length ≤ Decimal.largest) {memory : Memory}
    (spills : Spills settings catalog call memory) :
    take registry call memory = .error .overflow := by
  rcases spills with ⟨arguments, given, many⟩
  rcases exists_twin_of_read standard holds listed given with
    ⟨guarded, tool, twins, named, carried, _⟩
  rw [take_eq_bind standard holds listed small given, carried,
    twins.aborts _ _ _ ⟨named, many⟩, error_bind]

theorem small_of_fits {call : Call} (fits : call.Fits) :
    call.text.toList.length ≤ Decimal.largest := by
  have text := fits.text
  unfold Decimal.largest
  omega

/-- Whatever has happened before and however large the files are, a call that does not abort gives
what it gives in numbers of any size. -/
theorem take_gives_nothing_else (settings : Settings) :
    ∃ catalog registry, Workbench.Standard.catalog settings = .ok catalog ∧
      Standard.registry settings = .ok (.ok registry) ∧
      ∀ (call : Call) (memory : Memory), call.text.toList.length ≤ Decimal.largest →
        ∀ taken, take registry call memory = .ok taken → taken = call.take catalog memory := by
  rcases Workbench.Standard.exists_catalog settings with ⟨catalog, standard⟩
  rcases Standard.exists_registry settings with ⟨registry, twin, built, holds, listed⟩
  refine ⟨catalog, registry, standard, built, ?_⟩
  intro call memory small taken ran
  exact (gives_take standard holds listed small memory).eq_of_ok ran

/-- After any history of calls that starts without variables, with any change of the files in
between as long as each is short, no difference, clamp, index or range of a further call fails, and
of the sums only one can: that of the hits which a search of a directory lists.  The call aborts if
and only if these hits are more than a word can count, and otherwise comes to what it comes to in
numbers of any size. -/
theorem take_aborts_iff {settings : Settings} (height : settings.window.lines < 2 ^ 63) :
    ∃ catalog registry, Workbench.Standard.catalog settings = .ok catalog ∧
      Standard.registry settings = .ok (.ok registry) ∧
      ∀ (calls : List Call) (call : Call), (∀ each ∈ call :: calls, each.Fits) →
        let memory := Call.memoryAfter catalog calls Memory.empty
        (take registry call memory = .error .overflow ↔ Spills settings catalog call memory) ∧
          (take registry call memory = .ok (call.take catalog memory) ↔
            ¬ Spills settings catalog call memory) := by
  rcases Workbench.Standard.exists_catalog settings with ⟨catalog, standard⟩
  rcases Standard.exists_registry settings with ⟨registry, twin, built, holds, listed⟩
  refine ⟨catalog, registry, standard, built, ?_⟩
  intro calls call fits memory
  rcases List.forall_mem_cons.mp fits with ⟨here, earlier⟩
  have near : Call.Near memory :=
    Call.near_memoryAfter standard (fun each member => (earlier each member).files)
  have small := small_of_fits here
  have survives (unspilled : ¬ Spills settings catalog call memory) :
      take registry call memory = .ok (call.take catalog memory) :=
    (gives_take standard holds listed small memory).eq_ok ⟨height, here, near, unspilled⟩
  have aborts (spills : Spills settings catalog call memory) :
      take registry call memory = .error .overflow :=
    take_of_spills standard holds listed small spills
  constructor
  · refine ⟨fun aborted => ?_, aborts⟩
    by_contra unspilled
    cases aborted.symm.trans (survives unspilled)
  · refine ⟨fun survived spills => ?_, survives⟩
    cases survived.symm.trans (aborts spills)

/-- Opening a small file again, after it has been opened. -/
theorem take_aborts_iff_of_open :
    ∃ catalog registry, Workbench.Standard.catalog {} = .ok catalog ∧
      Standard.registry {} = .ok (.ok registry) ∧ Sample.openingCall.Fits ∧
      ∃ world, take registry Sample.openingCall
          (Call.memoryAfter catalog [Sample.openingCall] Memory.empty) =
        .ok (some ⟨Sample.windowText, false⟩, world) := by
  have height : ({} : Settings).window.lines < 2 ^ 63 := by
    decide
  rcases take_aborts_iff height with ⟨catalog, registry, standard, built, decides⟩
  have fits := Sample.fits_openingCall
  refine ⟨catalog, registry, standard, built, fits, ?_⟩
  have both : ∀ each ∈ [Sample.openingCall, Sample.openingCall], each.Fits := by
    simp [fits]
  have survived := (decides [Sample.openingCall] Sample.openingCall both).2.mpr (by
    rintro ⟨arguments, given, _⟩
    rw [Sample.read_openingCall standard] at given
    exact absurd given (by simp))
  rw [survived]
  refine ⟨_, congrArg Except.ok (Prod.ext ?_ rfl)⟩
  exact Sample.take_openingCall standard _

end Guarded

/-! ### Three files that are full of line feeds -/

namespace Sample

def feeds (count : Nat) : String :=
  String.ofList (List.replicate count '\n')

theorem linesOf_feeds (count : Nat) : Window.linesOf (feeds count) = List.replicate count "" := by
  have lines : Text.lines (List.replicate count '\n') = List.replicate count [] := by
    unfold Text.lines
    induction count with
    | zero => rfl
    | succ count inductionHypothesis =>
        rw [List.replicate_succ, List.replicate_succ, Text.pieces, if_pos rfl, List.map_cons,
          inductionHypothesis]
        rfl
  rw [Window.linesOf, feeds, String.toList_ofList, lines, List.map_replicate]

/-- The empty text is found in every line. -/
theorem length_inFile_feeds (count : Nat) :
    (Hit.inFile "" (feeds count).toUTF8).length = count := by
  have clear (character : Char) (other : character ≠ '\n') :
      character ∉ (feeds count).toList := by
    rw [feeds, String.toList_ofList]
    exact fun member => other (List.eq_of_mem_replicate member)
  have unmarked : (feeds count).toList.head? ≠ some '\ufeff' := fun first =>
    clear '\ufeff' (by decide) (List.mem_of_head? first)
  have listed : Hit.Lists "" 1 (Window.linesOf (feeds count))
      (Hit.inFile "" (feeds count).toUTF8) :=
    Hit.lists_inFile (clear '\x00' (by decide)) unmarked (by decide)
  rw [listed.length_of_forall (fun line _ => List.nil_infix), linesOf_feeds,
    List.length_replicate]

def fedTree (count : Nat) : Node :=
  .directory
    [("ws", .directory
      [("a", .file (feeds count).toUTF8 false), ("b", .file (feeds count).toUTF8 false),
        ("c", .file (feeds count).toUTF8 false)])]

/-- A search that finds every line of these files. -/
def searchingCall (count : Nat) : Call where
  environment := environment
  tree := fedTree count
  text := "search_dir \"\""

def emptyTerm : Arguments :=
  Dictionary.empty.insert "search_term" ""

theorem read_searchingCall {catalog : Catalog Action}
    (standard : Standard.catalog {} = .ok catalog) (count : Nat) :
    Reading.read catalog.find? (searchingCall count).text =
      .ok (some ⟨"search_dir", emptyTerm⟩) := by
  have member : (⟨Search.inDirectoryDefinition, Search.inDirectory {}⟩ : Tool Action) ∈
      Standard.tools {} := Standard.mem_tools_iff.mpr (by simp)
  have begins : Text.firstWord? (searchingCall count).text.toList =
      some "search_dir".toList := by
    show Text.firstWord? "search_dir \"\"".toList = _
    decide
  rw [Reading.read_eq_readAs (Standard.named?_of_mem standard member begins)]
  show Reading.readAs Search.inDirectoryDefinition "search_dir \"\"" = _
  rfl

theorem fits_searchingCall {count : Nat} (few : count < 2 ^ 63) : (searchingCall count).Fits where
  text := by
    show "search_dir \"\"".toList.length < 2 ^ 63
    decide
  files := by
    have file : (Node.file (feeds count).toUTF8 false).Short := by
      apply Node.short_file
      rw [linesOf_feeds, List.length_replicate]
      exact few
    apply Node.short_directory
    rw [List.forall_mem_singleton]
    apply Node.short_directory
    simp only [List.forall_mem_cons]
    exact ⟨file, file, file, by simp⟩

theorem tally_fedTree {count : Nat} (positive : 0 < count) :
    Search.tally "" ((Node.directory
        [("a", .file (feeds count).toUTF8 false), ("b", .file (feeds count).toUTF8 false),
          ("c", .file (feeds count).toUTF8 false)]).filesBelow ⟨true, ["ws"]⟩) =
      [(⟨true, ["ws", "a"]⟩, count), (⟨true, ["ws", "b"]⟩, count),
        (⟨true, ["ws", "c"]⟩, count)] := by
  have hits (name : String) (short : (Place.encoded ⟨true, ["ws", name]⟩).length < Node.pathLimit) :
      (Search.hitsIn "" ⟨⟨true, ["ws", name]⟩, (feeds count).toUTF8⟩).length = count := by
    rw [Search.hitsIn, if_neg (Nat.not_le.mpr short), length_inFile_feeds]
  have found (content : ByteArray) : (Node.directory
      [("a", .file content false), ("b", .file content false),
        ("c", .file content false)]).filesBelow ⟨true, ["ws"]⟩ =
      [⟨⟨true, ["ws", "a"]⟩, content⟩, ⟨⟨true, ["ws", "b"]⟩, content⟩,
        ⟨⟨true, ["ws", "c"]⟩, content⟩] := by
    have visible : Node.isHidden "a" = false ∧ Node.isHidden "b" = false ∧
        Node.isHidden "c" = false := by decide
    have ordered : Name.bytes "a" < Name.bytes "b" ∧ Name.bytes "b" < Name.bytes "c" := by decide
    rw [Node.filesBelow, if_neg (by decide)]
    simp only [Node.filesBelow.ofMembers, Node.filesBelow, Node.inTurn, visible, ordered,
      Bool.false_eq_true, if_false, if_true]
    rfl
  rw [found, Search.tally]
  simp only [List.map_cons, List.map_nil, hits "a" (by decide), hits "b" (by decide),
    hits "c" (by decide)]
  simp [positive]

end Sample

namespace Guarded

/-- Three files, each with one line less than half of the words count, are searched for the empty
text.  The process aborts. -/
theorem take_of_feeds_aborts :
    ∃ catalog registry, Workbench.Standard.catalog {} = .ok catalog ∧
      Standard.registry {} = .ok (.ok registry) ∧ ({} : Settings).window.lines < 2 ^ 63 ∧
      (Sample.searchingCall (2 ^ 63 - 1)).Fits ∧
      take registry (Sample.searchingCall (2 ^ 63 - 1)) Memory.empty = .error .overflow := by
  have height : ({} : Settings).window.lines < 2 ^ 63 := by
    decide
  rcases Workbench.Standard.exists_catalog {} with ⟨catalog, standard⟩
  rcases Standard.exists_registry {} with ⟨registry, twin, built, holds, listed⟩
  have fits : (Sample.searchingCall (2 ^ 63 - 1)).Fits := Sample.fits_searchingCall (by decide)
  refine ⟨catalog, registry, standard, built, height, fits, ?_⟩
  apply take_of_spills standard holds listed (small_of_fits fits)
  refine ⟨Sample.emptyTerm, Sample.read_searchingCall standard _, "", ⟨true, ["ws"]⟩, _, rfl,
    by decide +kernel, rfl, ?_, ?_⟩
  · rw [Sample.tally_fedTree (by decide)]
    decide
  · rw [Sample.tally_fedTree (by decide)]
    decide

end Guarded

end Workbench
