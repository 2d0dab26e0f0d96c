import Workbench.Proofs.Session.Feeding
import Workbench.Proofs.Tool.Reach
namespace Workbench

/-!
# What a console prints

The console feeds what is typed to a conversation.  Between segments it keeps blank lines
and orders to itself, and one kind of order ends it; inside of a block they are lines like
any other.  So what it prints, and what it leaves of the world, can be told from the
segments of the typed lines: a prompt for every line, and behind the last line of a segment
what a turn with its text comes to.

Whoever types can interrupt the console between two lines.  No segment reaches across an
interrupt: a block that has not come to its end is dropped with all its lines, and the lines
behind the interrupt are cut into segments of their own, as if they were the first ones.  If
no further line can be read, the console is left as it is and ends with a complaint.
-/

variable {catalog : Catalog Action} {environment : Environment}

namespace Console

/-- Lines that the console keeps to itself, unless a block is being typed: blank ones and
orders. -/
def isOwn (line : String) : Bool :=
  (Text.trim line.toList).isEmpty || (Text.trim line.toList).head? == some '/'

/-- What is printed for a line of the console's own, unless it is the order to end. -/
def ownText? (catalog : Catalog Action) (environment : Environment) (world : World)
    (line : String) : Option String :=
  if (Text.trim line.toList).isEmpty then some ""
  else
    match order (Text.trim line.toList) with
    | .help => some help
    | .docs => some (catalog.documentation ++ "\n")
    | .state => some (listing (environment.bindings world))
    | .unknown word => some ("Unknown command: " ++ word ++ "\n")
    | .quit => none

/-- The prompts for lines that are typed one after the other as one segment. -/
def promptsFor (lines : List String) : String :=
  "> " ++ String.join (lines.tail.map (fun _ => "... "))

end Console

/-- What the console prints for lines that are cut into segments, and how it ends.  What it comes
to behind the last line is told for each prompt.  Nothing behind the order to end is looked at. -/
def Cut.transcript (environment : Environment) (behind : String → World → Console.Ending) :
    Cut catalog.find? Console.isOwn → World → Console.Ending
  | done, world => behind "> " world
  | unfinished begun _, world => (behind "... " world).behind (Console.promptsFor begun.lines)
  | aside line _ rest, world =>
    match Console.ownText? catalog environment world line with
    | none => ⟨"> " ++ Console.farewell, none, world⟩
    | some text => (rest.transcript environment behind world).behind ("> " ++ text)
  | taken segment _ rest, world =>
    let settled := settle catalog environment segment.lines world
    (rest.transcript environment behind settled.2).behind
      (Console.promptsFor segment.lines ++ Console.shown settled.1)

/-- What the console comes to at a prompt if there is no further input. -/
def Console.close (prompt : String) (world : World) : Console.Ending :=
  ⟨prompt ++ "\n" ++ Console.farewell, none, world⟩

/-- What is typed, cut at its interrupts, and the lines between them cut into segments.  Behind the
last lines there is either no further input or none that can be read. -/
inductive Typed (find : String → Option Definition) where
  | ended (cut : Cut find Console.isOwn)
  | failed (cut : Cut find Console.isOwn) (complaint : String) (rest : List Console.Input)
  | interrupted (cut : Cut find Console.isOwn) (rest : Typed find)

namespace Typed

def inputs {find : String → Option Definition} : Typed find → List Console.Input
  | ended cut => cut.lines.map .line
  | failed cut complaint rest => cut.lines.map .line ++ .failure complaint :: rest
  | interrupted cut rest => cut.lines.map .line ++ .interrupt :: rest.inputs

/-- What the console prints for what is typed, and how it ends. -/
def transcript (environment : Environment) : Typed catalog.find? → World → Console.Ending
  | ended cut => cut.transcript environment Console.close
  | failed cut complaint _ =>
    cut.transcript environment fun prompt world =>
      ⟨prompt, some ("Readline error: " ++ complaint), world⟩
  | interrupted cut rest =>
    cut.transcript environment fun prompt world =>
      (rest.transcript environment world).behind (prompt ++ "^C\n")

/-- The lines up to the first interrupt. -/
def cut {find : String → Option Definition} : Typed find → Cut find Console.isOwn
  | ended cut => cut
  | failed cut _ _ => cut
  | interrupted cut _ => cut

/-- What is typed behind these lines. -/
def later {find : String → Option Definition} : Typed find → List Console.Input
  | ended _ => []
  | failed _ complaint rest => .failure complaint :: rest
  | interrupted _ rest => .interrupt :: rest.inputs

end Typed

/-! ## One way to cut what is typed -/

namespace Typed

variable {find : String → Option Definition}

theorem inputs_eq (typed : Typed find) :
    typed.inputs = typed.cut.lines.map .line ++ typed.later := by
  cases typed with
  | ended cut => exact (List.append_nil _).symm
  | failed cut complaint rest => rfl
  | interrupted cut rest => rfl

theorem later_ne (typed : Typed find) (line : String) (rest : List Console.Input) :
    typed.later ≠ .line line :: rest := by
  cases typed <;> nofun

/-- Of lines with something else behind them, the lines can be told. -/
theorem eq_of_map_line_append {lines others : List String} {front back : List Console.Input}
    (closed : ∀ line rest, front ≠ .line line :: rest)
    (closedToo : ∀ line rest, back ≠ .line line :: rest)
    (same : lines.map .line ++ front = others.map .line ++ back) :
    lines = others ∧ front = back := by
  induction lines generalizing others with
  | nil =>
      cases others with
      | nil => exact ⟨rfl, same⟩
      | cons other later => exact absurd same (closed _ _)
  | cons line rest inductionHypothesis =>
      cases others with
      | nil => exact absurd same.symm (closedToo _ _)
      | cons other later =>
          rcases List.cons.inj same with ⟨first, behind⟩
          rcases inductionHypothesis behind with ⟨lines, ends⟩
          exact ⟨by rw [Console.Input.line.inj first, lines], ends⟩

/-- What is typed tells how its first lines are cut and what stands behind them. -/
theorem parts_of_inputs {left right : Typed find} (same : right.inputs = left.inputs) :
    right.cut = left.cut ∧ right.later = left.later := by
  rw [inputs_eq right, inputs_eq left] at same
  rcases eq_of_map_line_append right.later_ne left.later_ne same with ⟨lines, ends⟩
  exact ⟨Cut.eq_of_lines lines, ends⟩

/-- What is typed is cut in one way only. -/
theorem eq_of_inputs {left right : Typed find} (same : right.inputs = left.inputs) :
    right = left := by
  induction left generalizing right with
  | ended cut =>
      rcases parts_of_inputs same with ⟨cuts, ends⟩
      cases right with
      | ended other => exact congrArg ended cuts
      | failed other complaint rest => cases ends
      | interrupted other rest => cases ends
  | failed cut complaint rest =>
      rcases parts_of_inputs same with ⟨cuts, ends⟩
      cases right with
      | ended other => cases ends
      | failed other another behind =>
          cases ends
          exact congrArg (fun front => failed front complaint rest) cuts
      | interrupted other rest => cases ends
  | interrupted cut rest inductionHypothesis =>
      rcases parts_of_inputs same with ⟨cuts, ends⟩
      cases right with
      | ended other => cases ends
      | failed other complaint behind => cases ends
      | interrupted other behind =>
          rw [inductionHypothesis (List.cons.inj ends).2]
          exact congrArg (fun front => interrupted front rest) cuts

/-- What is typed can be cut. -/
theorem exists_of_inputs (find : String → Option Definition) (lines : List String)
    (inputs : List Console.Input) :
    ∃ typed : Typed find, typed.inputs = lines.map .line ++ inputs := by
  rcases Cut.exists_of_lines find Console.isOwn lines with ⟨cut, same⟩
  induction inputs generalizing lines cut with
  | nil => exact ⟨.ended cut, by rw [Typed.inputs, same, List.append_nil]⟩
  | cons input rest inductionHypothesis =>
      cases input with
      | line text =>
          rcases Cut.exists_of_lines find Console.isOwn (lines ++ [text]) with ⟨longer, whole⟩
          rcases inductionHypothesis (lines ++ [text]) longer whole with ⟨typed, given⟩
          refine ⟨typed, ?_⟩
          rw [given, List.map_append, List.append_assoc]
          rfl
      | interrupt =>
          rcases inductionHypothesis [] .done rfl with ⟨typed, given⟩
          exact ⟨.interrupted cut typed, by rw [Typed.inputs, same, given]; rfl⟩
      | failure complaint => exact ⟨.failed cut complaint rest, by rw [Typed.inputs, same]⟩

end Typed

namespace Console

theorem Ending.behind_behind (ending : Ending) (first second : String) :
    (ending.behind second).behind first = ending.behind (first ++ second) := by
  rw [behind, behind, behind, String.append_assoc]

theorem Ending.behind_empty (ending : Ending) : ending.behind "" = ending := by
  rw [behind, String.empty_append]

/-! ## One line -/

theorem answer_of_own {line : String} (own : isOwn line = true) (world : World) :
    answer catalog environment .start line world =
      match ownText? catalog environment world line with
      | some text => ⟨text, some .start, world⟩
      | none => ⟨"", none, world⟩ := by
  unfold answer ownText?
  simp only [Conversation.start, List.isEmpty_nil, Bool.true_and]
  cases blank : (Text.trim line.toList).isEmpty with
  | true => simp only [if_true]
  | false =>
      rw [isOwn, blank, Bool.false_or] at own
      simp only [own, Bool.false_eq_true, if_false, if_true]
      cases order (Text.trim line.toList) <;> rfl

theorem answer_of_fed {conversation : Conversation} {line : String}
    (fed : conversation.pending ≠ [] ∨ isOwn line = false) (world : World) :
    answer catalog environment conversation line world =
      ⟨shown (conversation.feed catalog environment line world).1,
        some (conversation.feed catalog environment line world).2.1,
        (conversation.feed catalog environment line world).2.2⟩ := by
  have passed : (conversation.pending.isEmpty && (Text.trim line.toList).isEmpty) = false ∧
      (conversation.pending.isEmpty && (Text.trim line.toList).head? == some '/') = false := by
    rcases fed with busy | free
    · have filled : conversation.pending.isEmpty = false := List.isEmpty_eq_false_iff.mpr busy
      rw [filled]
      exact ⟨rfl, rfl⟩
    · rcases Bool.or_eq_false_iff.mp free with ⟨solid, unordered⟩
      rw [solid, unordered, Bool.and_false]
      exact ⟨rfl, rfl⟩
  unfold answer
  simp only [passed.1, passed.2, Bool.false_eq_true, if_false]

theorem converse_of_fed {conversation : Conversation} {line : String}
    (fed : conversation.pending ≠ [] ∨ isOwn line = false) (others : List Input)
    (world : World) :
    converse catalog environment (.line line :: others) conversation world =
      (converse catalog environment others
          (conversation.feed catalog environment line world).2.1
          (conversation.feed catalog environment line world).2.2).behind
        (prompt conversation ++ shown (conversation.feed catalog environment line world).1) := by
  rw [converse, answer_of_fed fed]

/-- A line that waits is prompted for, and nothing else is printed. -/
theorem converse_of_awaited {conversation : Conversation} {line mark : String}
    (fed : conversation.pending ≠ [] ∨ isOwn line = false)
    (waits : Reading.awaited? catalog.find? (joined (conversation.pending ++ [line])) = some mark)
    (world : World) (others : List Input) :
    converse catalog environment (.line line :: others) conversation world =
      (converse catalog environment others ⟨conversation.pending ++ [line]⟩ world).behind
        (prompt conversation) := by
  have quiet : prompt conversation ++ shown (.more mark) = prompt conversation :=
    String.append_empty
  rw [converse_of_fed fed, Conversation.feed_of_awaited waits]
  simp only [quiet]

/-! ## The lines of a segment -/

theorem prompt_of_busy {conversation : Conversation} (busy : conversation.pending ≠ []) :
    prompt conversation = "... " := by
  rw [prompt, List.isEmpty_eq_false_iff.mpr busy]
  rfl

/-- Inside of a block, nothing but the prompts is printed as long as the lines wait. -/
theorem converse_append_of_awaited {lines : List String} {conversation : Conversation}
    {mark : String} (busy : conversation.pending ≠ [])
    (waits : ∀ typed, typed ≠ [] → typed <+: lines →
      Reading.awaited? catalog.find? (joined (conversation.pending ++ typed)) = some mark)
    (world : World) (more : List Input) :
    converse catalog environment (lines.map .line ++ more) conversation world =
      (converse catalog environment more ⟨conversation.pending ++ lines⟩ world).behind
        (String.join (lines.map (fun _ => "... "))) := by
  induction lines generalizing conversation with
  | nil =>
      rw [List.map_nil, List.nil_append, List.append_nil, List.map_nil, String.join_nil,
        Ending.behind_empty]
  | cons line others inductionHypothesis =>
      have here := waits [line] (List.cons_ne_nil line []) (List.prefix_append [line] others)
      have kept : (Conversation.mk (conversation.pending ++ [line])).pending ≠ [] := by simp
      rw [List.map_cons, List.cons_append, converse_of_awaited (Or.inl busy) here,
        prompt_of_busy busy, inductionHypothesis kept (Conversation.waits_of_cons waits),
        Ending.behind_behind, List.map_cons, String.join_cons, List.append_assoc,
        List.singleton_append]

theorem prompt_start : prompt .start = "> " :=
  if_pos rfl

/-- While a block is being typed, its lines are prompted for. -/
theorem converse_begun (begun : Begun catalog.find?) (filled : begun.mark ≠ "")
    (clear : ∀ line ∈ begun.lines, '\n' ∉ line.toList) (fed : isOwn begun.first = false)
    (world : World) (more : List Input) :
    converse catalog environment (begun.lines.map .line ++ more) .start world =
      (converse catalog environment more ⟨begun.lines⟩ world).behind (promptsFor begun.lines) := by
  have waits : ∀ typed, typed ≠ [] → typed <+: begun.first :: begun.inside →
      Reading.awaited? catalog.find? (joined (Conversation.start.pending ++ typed)) =
        some begun.mark := begun.awaits filled clear
  have here := waits [begun.first] (List.cons_ne_nil _ _)
    (List.prefix_append [begun.first] begun.inside)
  have kept : (Conversation.mk (Conversation.start.pending ++ [begun.first])).pending ≠ [] :=
    List.cons_ne_nil _ _
  have whole : Conversation.mk
      ((Conversation.mk (Conversation.start.pending ++ [begun.first])).pending ++ begun.inside) =
        ⟨begun.lines⟩ := rfl
  rw [Begun.lines, List.map_cons, List.cons_append, converse_of_awaited (Or.inr fed) here,
    prompt_start, converse_append_of_awaited kept (Conversation.waits_of_cons waits), whole,
    Ending.behind_behind, promptsFor, List.tail_cons, Begun.lines]

/-- A segment that is fed is prompted for line by line, and what it comes to is printed. -/
theorem converse_segment (segment : Segment catalog.find?)
    (matchable : ∀ line mark, Reading.asked? catalog.find? line = some mark →
      Reading.Matchable mark)
    (clear : ∀ line ∈ segment.lines, '\n' ∉ line.toList) (fed : isOwn segment.first = false)
    (world : World) (more : List Input) :
    converse catalog environment (segment.lines.map .line ++ more) .start world =
      (converse catalog environment more .start
          (settle catalog environment segment.lines world).2).behind
        (promptsFor segment.lines ++
          shown (settle catalog environment segment.lines world).1) := by
  have settled := segment.settles matchable clear
  cases segment with
  | alone line plain =>
      have alone : Reading.awaited? catalog.find? (joined (Conversation.start.pending ++ [line])) =
          none := settled
      have outside : isOwn line = false := fed
      have prompted : promptsFor [line] = "> " := String.append_empty
      have lone : Conversation.start.pending ++ [line] = [line] := rfl
      rw [Segment.lines, List.map_singleton, List.singleton_append,
        converse_of_fed (Or.inr outside), Conversation.feed_of_settled alone, prompt_start,
        prompted, lone]
  | block begun last ends =>
      have filled := (matchable _ _ begun.asks).filled
      rcases List.forall_mem_append.mp clear with ⟨clearBegun, clearLast⟩
      have ended : Reading.awaited? catalog.find?
          (joined ((Conversation.mk begun.lines).pending ++ [last])) = none := settled
      have busy : (Conversation.mk begun.lines).pending ≠ [] := begun.lines_ne_nil
      have prompted : promptsFor (begun.lines ++ [last]) = promptsFor begun.lines ++ "... " := by
        rw [promptsFor, promptsFor, Begun.lines, List.cons_append, List.tail_cons, List.tail_cons,
          List.map_append, List.map_singleton, String.join_append, String.join_cons,
          String.join_nil, String.append_empty, String.append_assoc]
      rw [Segment.lines, List.map_append, List.append_assoc,
        converse_begun begun filled clearBegun fed, List.map_singleton, List.singleton_append,
        converse_of_fed (Or.inl busy), Conversation.feed_of_settled ended, prompt_of_busy busy,
        prompted, Ending.behind_behind]
      simp only [String.append_assoc]

/-! ## All lines -/

/-- A line of the console's own is answered, and the conversation goes on or is over. -/
theorem converse_own {line : String} (own : isOwn line = true) (others : List Input)
    (world : World) :
    converse catalog environment (.line line :: others) .start world =
      match ownText? catalog environment world line with
      | none => ⟨"> " ++ farewell, none, world⟩
      | some text => (converse catalog environment others .start world).behind ("> " ++ text) := by
  rw [converse, answer_of_own own, prompt_start]
  cases ownText? catalog environment world line with
  | none => simp only [String.append_empty]
  | some text => simp only []

/-- The console's conversation over the lines of a cut is its transcript, whatever comes behind. -/
theorem converse_cut (matchable : ∀ line mark, Reading.asked? catalog.find? line = some mark →
      Reading.Matchable mark) {more : List Input} {behind : String → World → Ending}
    (closes : ∀ conversation world,
      converse catalog environment more conversation world = behind (prompt conversation) world)
    (cut : Cut catalog.find? isOwn) (clear : ∀ line ∈ cut.lines, '\n' ∉ line.toList)
    (world : World) :
    converse catalog environment (cut.lines.map .line ++ more) .start world =
      cut.transcript environment behind world := by
  induction cut generalizing world with
  | done => rw [Cut.lines, List.map_nil, List.nil_append, closes, prompt_start, Cut.transcript]
  | unfinished begun within =>
      have filled := (matchable _ _ begun.asks).filled
      have busy : (Conversation.mk begun.lines).pending ≠ [] := begun.lines_ne_nil
      rw [Cut.lines, converse_begun begun filled clear within, closes, prompt_of_busy busy,
        Cut.transcript]
  | aside line out rest inductionHypothesis =>
      rcases List.forall_mem_cons.mp clear with ⟨_, clearLater⟩
      rw [Cut.lines, List.map_cons, List.cons_append, converse_own out,
        inductionHypothesis clearLater, Cut.transcript]
  | taken segment within rest inductionHypothesis =>
      rcases List.forall_mem_append.mp clear with ⟨clearHere, clearLater⟩
      rw [Cut.lines, List.map_append, List.append_assoc,
        converse_segment segment matchable clearHere within, inductionHypothesis clearLater,
        Cut.transcript]

/-- No line that is typed has a line feed in it. -/
def Clear (inputs : List Input) : Prop :=
  ∀ line, .line line ∈ inputs → '\n' ∉ line.toList

theorem clear_of_append {lines : List String} {more : List Input}
    (clear : Clear (lines.map .line ++ more)) :
    (∀ line ∈ lines, '\n' ∉ line.toList) ∧ Clear more :=
  ⟨fun line member => clear line (List.mem_append_left _ (List.mem_map_of_mem member)),
    fun line member => clear line (List.mem_append_right _ member)⟩

/-- The console's conversation over all that is typed is its transcript. -/
theorem converse_typed (matchable : ∀ line mark, Reading.asked? catalog.find? line = some mark →
      Reading.Matchable mark) (typed : Typed catalog.find?) (clear : Clear typed.inputs)
    (world : World) :
    converse catalog environment typed.inputs .start world =
      typed.transcript environment world := by
  induction typed generalizing world with
  | ended cut =>
      rw [Typed.inputs, ← List.append_nil (cut.lines.map Input.line)] at clear ⊢
      exact converse_cut matchable (fun _ _ => rfl) cut (clear_of_append clear).1 world
  | failed cut complaint rest =>
      exact converse_cut matchable (fun _ _ => rfl) cut (clear_of_append clear).1 world
  | interrupted cut rest inductionHypothesis =>
      rcases clear_of_append clear with ⟨here, later⟩
      have beyond : Clear rest.inputs :=
        fun line member => later line (List.mem_cons_of_mem _ member)
      refine converse_cut matchable (fun conversation after => ?_) cut here world
      rw [converse, inductionHypothesis beyond]

end Console

/-! ## Lines and segments -/

/-- A mark that is asked for is the end mark of a tool of the catalog. -/
theorem matchable_of_asked? (marks : ∀ tool ∈ catalog.tools, ∀ mark,
      tool.definition.endMark = some mark → Reading.Matchable mark) (line : List Char)
    (mark : String) (asks : Reading.asked? catalog.find? line = some mark) :
    Reading.Matchable mark := by
  rcases Option.bind_eq_some_iff.mp asks with ⟨definition, named, marked⟩
  rcases Catalog.exists_tool_of_named named with ⟨tool, same, _, held⟩
  rw [← same] at marked
  exact marks tool (Catalog.tool?_eq_some held).1 mark marked

/-- Lines that are fed one by one are cut into segments in exactly one way, and what they
come to is what the segments come to: the lines before the last one of a segment wait, and
the last one is answered as the whole segment would be.  The same holds of the console for
the lines that are read up to the order to end or to the end of the input, but for blank
lines and orders between segments.  Where the console is interrupted, or no further line can
be read, it holds of the lines in between. -/
theorem Conversation.feeding_follows_segments (marks : ∀ tool ∈ catalog.tools, ∀ mark,
      tool.definition.endMark = some mark → Reading.Matchable mark)
    (environment : Environment) (world : World) :
    (∀ lines : List String, (∀ line ∈ lines, '\n' ∉ line.toList) →
      ∃ cut : Cut catalog.find? (fun _ => false), cut.lines = lines ∧
        (∀ other : Cut catalog.find? (fun _ => false), other.lines = lines → other = cut) ∧
        Conversation.feedAll catalog environment lines .start world =
          cut.steps environment world) ∧
      (∀ lines : List String, (∀ line ∈ lines, '\n' ∉ line.toList) →
        ∃ cut : Cut catalog.find? Console.isOwn, cut.lines = lines ∧
          (∀ other : Cut catalog.find? Console.isOwn, other.lines = lines → other = cut) ∧
          Console.run catalog environment (lines.map .line) world =
            (cut.transcript environment Console.close world).behind
              (Console.greeting environment)) ∧
      ∀ inputs : List Console.Input, Console.Clear inputs →
        ∃ typed : Typed catalog.find?, typed.inputs = inputs ∧
          (∀ other : Typed catalog.find?, other.inputs = inputs → other = typed) ∧
          Console.run catalog environment inputs world =
            (typed.transcript environment world).behind (Console.greeting environment) := by
  have matchable := matchable_of_asked? marks
  refine ⟨fun lines clear => ?_, fun lines clear => ?_, fun inputs clear => ?_⟩
  · rcases Cut.existsUnique_lines catalog.find? (fun _ => false) lines with ⟨cut, same, unique⟩
    refine ⟨cut, same, unique, ?_⟩
    rw [← same] at clear ⊢
    exact Conversation.feedAll_cut matchable cut clear world
  · rcases Cut.existsUnique_lines catalog.find? Console.isOwn lines with ⟨cut, same, unique⟩
    refine ⟨cut, same, unique, ?_⟩
    have closes : ∀ conversation world, Console.converse catalog environment [] conversation world =
        Console.close (Console.prompt conversation) world := fun _ _ => rfl
    rw [← same] at clear ⊢
    rw [Console.run, ← List.append_nil (cut.lines.map Console.Input.line),
      Console.converse_cut matchable closes cut clear]
  · rcases Typed.exists_of_inputs catalog.find? [] inputs with ⟨typed, same⟩
    rw [List.map_nil, List.nil_append] at same
    refine ⟨typed, same, fun other given => Typed.eq_of_inputs (given.trans same.symm), ?_⟩
    rw [← same] at clear ⊢
    rw [Console.run, Console.converse_typed matchable typed clear]

/-! ## A typed block -/

namespace Sample

/-- A tool that takes a block and answers with its content. -/
def repeating : Catalog Action :=
  Catalog.empty.put ⟨Viewer.editDefinition, fun _ arguments world =>
    (.ok ((arguments.get? "content").getD ""), world)⟩

/-- A block that holds a blank line, an order and much of its own mark. -/
def begun : Begun repeating.find? where
  first := "edit 1:1"
  mark := "end_of_edit"
  asks := by rfl
  inside := ["", "/quit", "end_of_edit x"]
  unmarked := by decide

def fed : Cut repeating.find? (fun _ => false) :=
  .taken (.block begun "\tend_of_edit " (by decide)) rfl
    (.taken (.alone "  " (by rfl)) rfl (.taken (.alone "say hi" (by rfl)) rfl .done))

/-- The same block at the console, and behind it a blank line and the order to end. -/
def typed : Cut repeating.find? Console.isOwn :=
  .taken (.block begun "\tend_of_edit " (by decide)) (by decide)
    (.aside "  " (by decide) (.aside " /exit now" (by decide)
      (.taken (.alone "say hi" (by rfl)) (by decide) .done)))

/-- The block is interrupted before its end is typed, and so the end is a line like any other. -/
def dropped : Typed repeating.find? :=
  .interrupted (.unfinished begun (by decide))
    (.ended (.taken (.alone "end_of_edit" (by rfl)) (by decide) .done))

end Sample

theorem Conversation.feeding_follows_segments_repeating :
    (∀ tool ∈ Sample.repeating.tools, ∀ mark,
        tool.definition.endMark = some mark → Reading.Matchable mark) ∧
      (Conversation.feedAll Sample.repeating Sample.environment
          ["edit 1:1", "", "/quit", "end_of_edit x", "\tend_of_edit ", "  ", "say hi"]
          .start (Sample.world "" "" "")).map Prod.fst =
        [.more "end_of_edit", .more "end_of_edit", .more "end_of_edit", .more "end_of_edit",
          .reply ⟨"\n/quit\nend_of_edit x", false⟩, .plain "", .plain "say hi"] ∧
      Console.run Sample.repeating Sample.environment
          [.line "edit 1:1", .line "", .line "/quit", .line "end_of_edit x",
            .line "\tend_of_edit ", .line "  ", .line " /exit now", .line "say hi"]
          (Sample.world "" "" "") =
        ⟨Console.greeting Sample.environment ++
          "> ... ... ... ... \n/quit\nend_of_edit x\n> > Goodbye!\n", none,
          Sample.world "" "" ""⟩ ∧
      Console.run Sample.repeating Sample.environment
          [.line "edit 1:1", .line "", .line "/quit", .line "end_of_edit x", .interrupt,
            .line "end_of_edit"]
          (Sample.world "" "" "") =
        ⟨Console.greeting Sample.environment ++
          "> ... ... ... ... ^C\n> Not a tool command: end_of_edit\n> \nGoodbye!\n", none,
          Sample.world "" "" ""⟩ := by
  have marks : ∀ tool ∈ Sample.repeating.tools, ∀ mark,
      tool.definition.endMark = some mark → Reading.Matchable mark := by
    intro tool member mark marked
    rw [List.mem_singleton.mp member] at marked
    rw [← Option.some.inj marked]
    decide
  rcases Conversation.feeding_follows_segments marks Sample.environment
    (Sample.world "" "" "") with ⟨feeding, reading, running⟩
  refine ⟨marks, ?_, ?_, ?_⟩
  · rcases feeding Sample.fed.lines (by decide) with ⟨cut, _, unique, steps⟩
    rw [← unique Sample.fed rfl] at steps
    have lines : Sample.fed.lines =
        ["edit 1:1", "", "/quit", "end_of_edit x", "\tend_of_edit ", "  ", "say hi"] := rfl
    rw [← lines, steps]
    rfl
  · rcases reading Sample.typed.lines (by decide) with ⟨cut, _, unique, printed⟩
    rw [← unique Sample.typed rfl] at printed
    exact printed.trans rfl
  · have clear : Console.Clear Sample.dropped.inputs := by
      intro line member
      simp only [Sample.dropped, Typed.inputs, Cut.lines, Begun.lines, Sample.begun,
        Segment.lines, List.map_cons, List.map_nil, List.cons_append, List.nil_append,
        List.mem_cons, Console.Input.line.injEq, reduceCtorEq, false_or, List.not_mem_nil,
        or_false] at member
      rcases member with rfl | rfl | rfl | rfl | rfl <;> decide
    rcases running Sample.dropped.inputs clear with ⟨typed, _, unique, printed⟩
    rw [← unique Sample.dropped rfl] at printed
    exact printed.trans rfl

end Workbench
