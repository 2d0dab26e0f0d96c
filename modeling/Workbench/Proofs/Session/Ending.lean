import Workbench.Proofs.Session.Feeding
import Workbench.Proofs.Tool.Reach
namespace Workbench

/-!
# Ending a block

A conversation that waits for the end of a block should be brought to an end by the mark
that it waits for.  It is, exactly if a line can be this mark at all.  Nothing in the
registration of a tool asks for that, so a tool may be registered under a mark that no line
ever is, and a conversation that has begun a block of this tool waits for good.
-/

variable {catalog : Catalog Action} {environment : Environment}

/-- Lines that are taken together are answered. -/
theorem settle_ne_more (lines : List String) (world : World) (mark : String) :
    (settle catalog environment lines world).1 ≠ .more mark := by
  unfold settle
  cases Turn.take catalog environment (joined lines) world with
  | mk reply after =>
      cases reply with
      | none => exact LineOutcome.noConfusion
      | some reply => exact LineOutcome.noConfusion

namespace Conversation

/-- The conversation waits for the end of a block of this tool: so it has answered the last
line that it was fed. -/
structure WaitsFor (catalog : Catalog Action) (tool : Tool Action) (conversation : Conversation) :
    Prop where
  registered : tool ∈ catalog.tools
  named : Reading.named? catalog.find? (joined conversation.pending).toList = some tool.definition
  answered : ∃ (earlier : Conversation) (environment : Environment) (line mark : String)
    (world after : World),
      earlier.feed catalog environment line world = (.more mark, conversation, after)

/-- A conversation that has answered so keeps what it was fed, and its text waits. -/
theorem eq_of_feed_more {earlier later : Conversation} {line mark : String} {world after : World}
    (fed : earlier.feed catalog environment line world = (.more mark, later, after)) :
    later.pending = earlier.pending ++ [line] ∧
      Reading.awaited? catalog.find? (joined later.pending) = some mark := by
  cases waits : Reading.awaited? catalog.find? (joined (earlier.pending ++ [line])) with
  | none =>
      rw [feed_of_settled waits] at fed
      exact absurd (Prod.mk.inj fed).1 (settle_ne_more _ world mark)
  | some awaited =>
      rw [feed_of_awaited waits] at fed
      rcases Prod.mk.inj fed with ⟨sameMark, pair⟩
      rcases Prod.mk.inj pair with ⟨same, _⟩
      rw [← same, waits, LineOutcome.more.inj sameMark]
      exact ⟨rfl, rfl⟩

/-- A conversation that waits for a block of a tool waits for the mark of this tool. -/
theorem WaitsFor.awaited {tool : Tool Action} {conversation : Conversation} {mark : String}
    (waits : WaitsFor catalog tool conversation) (marked : tool.definition.endMark = some mark) :
    conversation.pending ≠ [] ∧
      Reading.awaited? catalog.find? (joined conversation.pending) = some mark := by
  rcases waits.answered with ⟨earlier, environment, line, awaited, world, after, fed⟩
  rcases eq_of_feed_more fed with ⟨kept, awaits⟩
  have asks := (Reading.awaited?_eq_some_iff.mp awaits).1
  rw [Reading.asked?, waits.named, Option.bind_some, marked] at asks
  rw [awaits, Option.some.inj asks, kept]
  exact ⟨by simp, rfl⟩

/-- Feeding a conversation the mark that it waits for ends the block exactly if a line can
be this mark. -/
theorem feed_endMark_iff {tool : Tool Action} {conversation : Conversation} {mark : String}
    (waits : WaitsFor catalog tool conversation) (marked : tool.definition.endMark = some mark)
    (environment : Environment) (world : World) :
    ((∀ more, (conversation.feed catalog environment mark world).1 ≠ .more more) ∧
        (conversation.feed catalog environment mark world).2.1 = start) ↔
      Reading.Matchable mark := by
  rcases waits.awaited marked with ⟨filled, awaits⟩
  rw [← Reading.awaited?_append_mark_iff awaits, ← joined_append filled]
  cases next : Reading.awaited? catalog.find? (joined (conversation.pending ++ [mark])) with
  | none =>
      rw [feed_of_settled next]
      exact ⟨fun _ => rfl, fun _ => ⟨settle_ne_more _ world, rfl⟩⟩
  | some awaited =>
      rw [feed_of_awaited next]
      exact ⟨fun ended => absurd rfl (ended.1 awaited), fun none => nomatch none⟩

end Conversation

namespace Sample

/-- A tool that takes a block up to the given mark. -/
def noter (mark : String) : Tool Action where
  definition :=
    { name := "note", signature := "note", summary := "Takes a note.", parameters := []
      endMark := some mark }
  action := fun _ _ world => (.ok "Noted.", world)

def notes (mark : String) : Catalog Action :=
  Catalog.empty.put (noter mark)

theorem built_notes (mark : String) : (notes mark).Built := by
  have same : (noter mark).definition.defect? = (noter "").definition.defect? := rfl
  have sound : (noter mark).definition.defect? = none := by
    rw [same]
    decide
  exact Catalog.Built.empty.put sound

/-- The first line of a note is answered by asking for more. -/
theorem waitsFor_notes (mark : String) (world : World) :
    Conversation.WaitsFor (notes mark) (noter mark) ⟨["note 1:2"]⟩ where
  registered := List.mem_cons_self
  named := by rfl
  answered := ⟨.start, environment, "note 1:2", mark, world, world, by rfl⟩

end Sample

namespace Conversation

/-- A mark may have blanks in it, but not around it. -/
theorem feed_endMark_of_two_words :
    WaitsFor (Sample.notes "the end") (Sample.noter "the end") ⟨["note 1:2"]⟩ ∧
      ((Conversation.mk ["note 1:2"]).feed (Sample.notes "the end") Sample.environment "the end"
        (Sample.world "" "" "")).2.1 = start := by
  have waits := Sample.waitsFor_notes "the end" (Sample.world "" "" "")
  have matchable : Reading.Matchable "the end" := by decide
  exact ⟨waits, ((feed_endMark_iff waits rfl Sample.environment _).mpr matchable).2⟩

/-- A registered tool whose mark has a blank at either end: the mark is asked for once more. -/
theorem feed_endMark_asks_again :
    (Sample.notes " end ").Built ∧
      (Sample.noter " end ").definition.endMark = some " end " ∧
      WaitsFor (Sample.notes " end ") (Sample.noter " end ") ⟨["note 1:2"]⟩ ∧
      ((Conversation.mk ["note 1:2"]).feed (Sample.notes " end ") Sample.environment " end "
        (Sample.world "" "" "")).1 = .more " end " :=
  ⟨Sample.built_notes " end ", rfl, Sample.waitsFor_notes " end " (Sample.world "" "" ""), by rfl⟩

end Conversation

end Workbench
