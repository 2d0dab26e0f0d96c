import Workbench.Proofs.Session.Segments
import Workbench.Console
import Mathlib.Data.List.Infix
namespace Workbench

/-!
# Feeding lines

A conversation takes a text line by line.  What the lines come to is told here by their
segments: every line of a segment but the last waits for the end mark and does nothing, and
on the last one the segment is taken as one text, exactly as in a turn of its own.
-/

variable {catalog : Catalog Action} {environment : Environment}

/-- Lines as one text. -/
def joined (lines : List String) : String :=
  String.intercalate "\n" lines

theorem joined_append {lines : List String} (filled : lines ≠ []) (line : String) :
    joined (lines ++ [line]) = joined lines ++ "\n" ++ line := by
  apply String.toList_inj.mp
  rcases List.eq_nil_or_concat lines with none | ⟨others, last, split⟩
  · exact absurd none filled
  · rw [List.concat_eq_append] at split
    rw [Reading.toList_append_line, joined, joined, Text.toList_intercalate_lineFeed,
      Text.toList_intercalate_lineFeed, List.map_append, List.map_singleton, Text.join_concat,
      split, List.map_append, List.map_singleton, Text.terminated_concat, Text.join_concat]
    simp

/-! ## How long lines wait -/

variable {find : String → Option Definition}

/-- However far the lines of a block have come, they wait for its mark. -/
theorem Begun.awaits (begun : Begun find) (filled : begun.mark ≠ "")
    (clear : ∀ line ∈ begun.lines, '\n' ∉ line.toList) (typed : List String) (given : typed ≠ [])
    (front : typed <+: begun.lines) :
    Reading.awaited? find (joined typed) = some begun.mark := by
  induction typed using List.reverseRecOn with
  | nil => exact absurd rfl given
  | append_singleton earlier line inductionHypothesis =>
      have clearLine := clear line (front.subset (List.mem_append_right earlier List.mem_cons_self))
      cases earlier with
      | nil =>
          have same : line = begun.first := by
            rcases front with ⟨rest, whole⟩
            exact (List.cons.inj whole).1
          have alone : joined ([] ++ [line]) = line := String.intercalate_singleton
          rw [alone, Reading.awaited?_eq_some_iff, same]
          rw [same] at clearLine
          refine ⟨begun.asks, ?_⟩
          rw [Text.tail_trimmedLines_of_clear clearLine]
          exact List.not_mem_nil
      | cons first others =>
          have waits := inductionHypothesis (List.cons_ne_nil first others)
            ((List.prefix_append _ _).trans front)
          have member : line ∈ begun.inside := by
            rcases front with ⟨rest, whole⟩
            have inside := (List.cons.inj whole).2
            rw [← inside]
            simp
          rw [joined_append (List.cons_ne_nil first others),
            Reading.awaited?_append_line waits clearLine filled, begun.unmarked line member]
          rfl

/-- The last line of a segment ends its wait. -/
theorem Segment.settles (segment : Segment find)
    (matchable : ∀ line mark, Reading.asked? find line = some mark → Reading.Matchable mark)
    (clear : ∀ line ∈ segment.lines, '\n' ∉ line.toList) :
    Reading.awaited? find (joined segment.lines) = none := by
  cases segment with
  | alone line plain =>
      have alone : joined [line] = line := String.intercalate_singleton
      rw [Segment.lines, alone, Reading.awaited?_eq, plain]
      rfl
  | block begun last ends =>
      have filled := (matchable _ _ begun.asks).filled
      rcases List.forall_mem_append.mp clear with ⟨clearBegun, clearLast⟩
      have waits := begun.awaits filled clearBegun begun.lines
        begun.lines_ne_nil (List.prefix_refl _)
      rw [Segment.lines, joined_append begun.lines_ne_nil,
        Reading.awaited?_append_line waits (clearLast last List.mem_cons_self) filled, ends]
      rfl

/-! ## What lines come to -/

/-- What lines that are taken together come to. -/
def settle (catalog : Catalog Action) (environment : Environment) (lines : List String)
    (world : World) : LineOutcome × World :=
  match Turn.take catalog environment (joined lines) world with
  | (some reply, after) => (.reply reply, after)
  | (none, after) => (.plain (String.ofList (Text.trim (joined lines).toList)), after)

/-- What a line comes to: its outcome, the conversation and the world after it. -/
abbrev Conversation.Step :=
  LineOutcome × Conversation × World

/-- The steps of a block that has begun: at each line the lines so far wait. -/
def Begun.steps {find : String → Option Definition} (begun : Begun find) (world : World) :
    List Conversation.Step :=
  begun.lines.inits.tail.map (fun typed => (.more begun.mark, ⟨typed⟩, world))

/-- The steps of a segment: its lines are taken together at the last of them, and nothing
is kept. -/
def Segment.steps (environment : Environment) (world : World) :
    Segment catalog.find? → List Conversation.Step
  | alone line _ =>
    let settled := settle catalog environment [line] world
    [(settled.1, Conversation.start, settled.2)]
  | block begun last _ =>
    let settled := settle catalog environment (begun.lines ++ [last]) world
    begun.steps world ++ [(settled.1, Conversation.start, settled.2)]

/-- The steps of lines that are cut into segments; lines that are set aside are not
fed. -/
def Cut.steps {isAside : String → Bool} (environment : Environment) :
    Cut catalog.find? isAside → World → List Conversation.Step
  | done, _ => []
  | unfinished begun _, world => begun.steps world
  | aside _ _ rest, world => rest.steps environment world
  | taken segment _ rest, world =>
    segment.steps environment world ++
      rest.steps environment (settle catalog environment segment.lines world).2

namespace Conversation

/-- Feeds lines one after the other. -/
def feedAll (catalog : Catalog Action) (environment : Environment) :
    List String → Conversation → World → List Conversation.Step
  | [], _, _ => []
  | line :: others, conversation, world =>
    let step := conversation.feed catalog environment line world
    step :: feedAll catalog environment others step.2.1 step.2.2

/-! ## One line -/

theorem feed_of_awaited {conversation : Conversation} {line mark : String}
    (waits : Reading.awaited? catalog.find? (joined (conversation.pending ++ [line])) = some mark)
    (world : World) :
    conversation.feed catalog environment line world =
      (.more mark, ⟨conversation.pending ++ [line]⟩, world) := by
  unfold feed
  simp only [joined] at waits
  simp only [waits]

theorem feed_of_settled {conversation : Conversation} {line : String}
    (settled : Reading.awaited? catalog.find? (joined (conversation.pending ++ [line])) = none)
    (world : World) :
    conversation.feed catalog environment line world =
      ((settle catalog environment (conversation.pending ++ [line]) world).1, start,
        (settle catalog environment (conversation.pending ++ [line]) world).2) := by
  unfold feed settle
  simp only [joined] at settled ⊢
  simp only [settled]
  cases taken : Turn.take catalog environment
      (String.intercalate "\n" (conversation.pending ++ [line])) world with
  | mk reply after =>
      cases reply with
      | none => rfl
      | some reply => rfl

/-! ## Lines that wait -/

/-- The lines behind one that was kept wait like those that it came with. -/
theorem waits_of_cons {pending others : List String} {line mark : String}
    (waits : ∀ typed, typed ≠ [] → typed <+: line :: others →
      Reading.awaited? find (joined (pending ++ typed)) = some mark) :
    ∀ typed, typed ≠ [] → typed <+: others →
      Reading.awaited? find (joined ((Conversation.mk (pending ++ [line])).pending ++ typed)) =
        some mark := by
  intro typed _ front
  have further := waits (line :: typed) (List.cons_ne_nil line typed)
    (List.cons_prefix_cons.mpr ⟨rfl, front⟩)
  rw [List.append_assoc]
  exact further

/-- Lines that wait however far they have come are kept, and nothing is done. -/
theorem feedAll_of_awaited {lines : List String} {conversation : Conversation} {mark : String}
    (waits : ∀ typed, typed ≠ [] → typed <+: lines →
      Reading.awaited? catalog.find? (joined (conversation.pending ++ typed)) = some mark)
    (world : World) (more : List String) :
    feedAll catalog environment (lines ++ more) conversation world =
      lines.inits.tail.map (fun typed => (.more mark, ⟨conversation.pending ++ typed⟩, world)) ++
        feedAll catalog environment more ⟨conversation.pending ++ lines⟩ world := by
  induction lines generalizing conversation with
  | nil => simp
  | cons line others inductionHypothesis =>
      have here : conversation.feed catalog environment line world =
          (.more mark, ⟨conversation.pending ++ [line]⟩, world) :=
        feed_of_awaited
          (waits [line] (List.cons_ne_nil line []) (List.prefix_append [line] others)) world
      rw [List.cons_append, feedAll, here]
      simp only [inductionHypothesis (waits_of_cons waits)]
      cases others with
      | nil => simp
      | cons second rest => simp

theorem feedAll_begun (begun : Begun catalog.find?) (filled : begun.mark ≠ "")
    (clear : ∀ line ∈ begun.lines, '\n' ∉ line.toList) (world : World) (more : List String) :
    feedAll catalog environment (begun.lines ++ more) start world =
      begun.steps world ++ feedAll catalog environment more ⟨begun.lines⟩ world := by
  have waits : ∀ typed, typed ≠ [] → typed <+: begun.lines →
      Reading.awaited? catalog.find? (joined (start.pending ++ typed)) = some begun.mark :=
    begun.awaits filled clear
  exact feedAll_of_awaited waits world more

/-! ## Segments -/

theorem feedAll_segment (segment : Segment catalog.find?)
    (matchable : ∀ line mark, Reading.asked? catalog.find? line = some mark →
      Reading.Matchable mark)
    (clear : ∀ line ∈ segment.lines, '\n' ∉ line.toList) (world : World) (more : List String) :
    feedAll catalog environment (segment.lines ++ more) start world =
      segment.steps environment world ++
        feedAll catalog environment more start
          (settle catalog environment segment.lines world).2 := by
  have settled := segment.settles matchable clear
  cases segment with
  | alone line plain =>
      have alone : Reading.awaited? catalog.find? (joined (start.pending ++ [line])) = none :=
        settled
      rw [Segment.lines, List.singleton_append, feedAll, feed_of_settled alone]
      rfl
  | block begun last ends =>
      have filled := (matchable _ _ begun.asks).filled
      rcases List.forall_mem_append.mp clear with ⟨clearBegun, clearLast⟩
      have ended : Reading.awaited? catalog.find?
          (joined ((Conversation.mk begun.lines).pending ++ [last])) = none := settled
      rw [Segment.lines, List.append_assoc, feedAll_begun begun filled clearBegun,
        List.singleton_append, feedAll, feed_of_settled ended, Segment.steps, List.append_assoc]
      rfl

/-- The lines of a cut come to the steps of its segments. -/
theorem feedAll_cut (matchable : ∀ line mark, Reading.asked? catalog.find? line = some mark →
      Reading.Matchable mark) (cut : Cut catalog.find? (fun _ => false))
    (clear : ∀ line ∈ cut.lines, '\n' ∉ line.toList) (world : World) :
    feedAll catalog environment cut.lines start world = cut.steps environment world := by
  induction cut generalizing world with
  | done => rfl
  | unfinished begun within =>
      have filled := (matchable _ _ begun.asks).filled
      rw [Cut.lines, ← List.append_nil begun.lines, feedAll_begun begun filled clear, feedAll,
        List.append_nil]
      rfl
  | aside line out rest inductionHypothesis => cases out
  | taken segment within rest inductionHypothesis =>
      rcases List.forall_mem_append.mp clear with ⟨clearHere, clearLater⟩
      rw [Cut.lines, feedAll_segment segment matchable clearHere, Cut.steps,
        inductionHypothesis clearLater]

end Conversation

end Workbench
