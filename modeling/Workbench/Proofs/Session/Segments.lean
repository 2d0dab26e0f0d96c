import Workbench.Proofs.Command.Awaiting
namespace Workbench

/-!
# Segments

Lines that come one after the other belong together in segments.  A line whose first word
asks for no end mark is a segment of its own.  Any other line opens a block, and its
segment runs through the first later line that is the mark.  Some lines may be kept out of
this, as long as they do not stand in a block: they are set aside.  Every list of lines is
cut in this way, and in one way only, so that no line is lost or changed and none belongs
to two segments.
-/

variable {find : String → Option Definition}

/-- A block that has begun: its first line asks for an end mark, and no line after it is
the mark. -/
structure Begun (find : String → Option Definition) where
  first : String
  mark : String
  asks : Reading.asked? find first.toList = some mark
  inside : List String
  unmarked : ∀ line ∈ inside, Reading.isEnd mark line.toList = false

def Begun.lines (begun : Begun find) : List String :=
  begun.first :: begun.inside

theorem Begun.lines_ne_nil (begun : Begun find) : begun.lines ≠ [] :=
  List.cons_ne_nil _ _

/-- Lines that belong together. -/
inductive Segment (find : String → Option Definition) where
  | alone (line : String) (plain : Reading.asked? find line.toList = none)
  | block (begun : Begun find) (last : String)
      (ends : Reading.isEnd begun.mark last.toList = true)

namespace Segment

def first : Segment find → String
  | alone line _ => line
  | block begun _ _ => begun.first

def lines : Segment find → List String
  | alone line _ => [line]
  | block begun last _ => begun.lines ++ [last]

end Segment

/-- Lines cut into segments.  Between segments there may be lines that are set aside, and
the last block may lack its end. -/
inductive Cut (find : String → Option Definition) (isAside : String → Bool) where
  | done
  | unfinished (begun : Begun find) (within : isAside begun.first = false)
  | aside (line : String) (out : isAside line = true) (rest : Cut find isAside)
  | taken (segment : Segment find) (within : isAside segment.first = false)
      (rest : Cut find isAside)

def Cut.lines {isAside : String → Bool} : Cut find isAside → List String
  | done => []
  | unfinished begun _ => begun.lines
  | aside line _ rest => line :: rest.lines
  | taken segment _ rest => segment.lines ++ rest.lines

/-! ## One way to cut -/

/-- A block is given by its lines. -/
theorem Begun.eq_of_lines {left right : Begun find} (same : left.lines = right.lines) :
    left = right := by
  rcases left with ⟨first, mark, asks, inside, unmarked⟩
  rcases right with ⟨otherFirst, otherMark, otherAsks, otherInside, otherUnmarked⟩
  rcases List.cons.inj same with ⟨sameFirst, sameInside⟩
  simp only [] at sameFirst sameInside
  subst sameFirst sameInside
  have sameMark : mark = otherMark := Option.some.inj (asks.symm.trans otherAsks)
  subst sameMark
  rfl

/-- The first line of a block decides its mark. -/
theorem Begun.mark_eq {left right : Begun find} (same : left.first = right.first) :
    left.mark = right.mark := by
  have asks := left.asks
  rw [same, right.asks] at asks
  exact (Option.some.inj asks).symm

theorem Begun.first_ne (begun : Begun find) {line : String}
    (plain : Reading.asked? find line.toList = none) : line ≠ begun.first := by
  intro same
  rw [same, begun.asks] at plain
  cases plain

/-- The lines of a block are those before the first one that is the mark. -/
theorem takeWhile_unmarked {mark : String} {inside : List String}
    (unmarked : ∀ line ∈ inside, Reading.isEnd mark line.toList = false) {last : String}
    (ends : Reading.isEnd mark last.toList = true) (rest : List String) :
    (inside ++ last :: rest).takeWhile (fun line => !Reading.isEnd mark line.toList) = inside := by
  rw [List.takeWhile_append_of_pos, List.takeWhile_cons_of_neg (by simp [ends]), List.append_nil]
  intro line member
  rw [unmarked line member]
  rfl

namespace Segment

theorem exists_lines (segment : Segment find) :
    ∃ others, segment.lines = segment.first :: others := by
  cases segment with
  | alone line plain => exact ⟨[], rfl⟩
  | block begun last ends => exact ⟨begun.inside ++ [last], rfl⟩

/-- Of lines that begin with a segment, the segment and what comes after it can be told. -/
theorem eq_of_lines_append {left right : Segment find} {rest others : List String}
    (same : left.lines ++ rest = right.lines ++ others) : left = right ∧ rest = others := by
  cases left with
  | alone line plain =>
      cases right with
      | alone other otherPlain =>
          rcases List.cons.inj same with ⟨sameLine, sameRest⟩
          subst sameLine
          exact ⟨rfl, sameRest⟩
      | block begun last ends =>
          exact absurd (List.cons.inj same).1 (begun.first_ne plain)
  | block begun last ends =>
      cases right with
      | alone other otherPlain =>
          exact absurd (List.cons.inj same).1.symm (begun.first_ne otherPlain)
      | block otherBegun otherLast otherEnds =>
          simp only [lines, Begun.lines, List.cons_append, List.append_assoc, List.nil_append]
            at same
          rcases List.cons.inj same with ⟨sameFirst, sameLater⟩
          have sameMark := Begun.mark_eq sameFirst
          have sameInside : begun.inside = otherBegun.inside := by
            rw [← takeWhile_unmarked begun.unmarked ends rest, sameLater, sameMark,
              takeWhile_unmarked otherBegun.unmarked otherEnds]
          have sameBegun : begun = otherBegun :=
            Begun.eq_of_lines (by rw [Begun.lines, Begun.lines, sameFirst, sameInside])
          subst sameBegun
          rcases List.cons.inj (List.append_cancel_left sameLater) with ⟨sameLast, sameRest⟩
          subst sameLast
          exact ⟨rfl, sameRest⟩

/-- A block without its end does not begin with a segment. -/
theorem lines_append_ne (segment : Segment find) (rest : List String) (begun : Begun find) :
    segment.lines ++ rest ≠ begun.lines := by
  intro same
  cases segment with
  | alone line plain =>
      exact absurd (List.cons.inj same).1 (begun.first_ne plain)
  | block other last ends =>
      simp only [lines, Begun.lines, List.cons_append, List.append_assoc, List.nil_append] at same
      rcases List.cons.inj same with ⟨sameFirst, sameLater⟩
      have sameMark := Begun.mark_eq sameFirst
      have member : last ∈ begun.inside := by
        rw [← sameLater]
        exact List.mem_append_right other.inside List.mem_cons_self
      rw [sameMark, begun.unmarked last member] at ends
      cases ends

end Segment

namespace Cut

variable {isAside : String → Bool}

theorem eq_done_of_lines {cut : Cut find isAside} (same : cut.lines = []) : cut = done := by
  cases cut with
  | done => rfl
  | unfinished begun within => exact absurd same begun.lines_ne_nil
  | aside line out rest => exact absurd same (List.cons_ne_nil _ _)
  | taken segment within rest =>
      rcases segment.exists_lines with ⟨others, shape⟩
      rw [lines, shape] at same
      exact absurd same (List.cons_ne_nil _ _)

theorem eq_unfinished_of_lines {cut : Cut find isAside} {begun : Begun find}
    (within : isAside begun.first = false) (same : cut.lines = begun.lines) :
    cut = unfinished begun within := by
  cases cut with
  | done => exact absurd same.symm begun.lines_ne_nil
  | unfinished other otherWithin =>
      have sameBegun : other = begun := Begun.eq_of_lines same
      subst sameBegun
      rfl
  | aside line out rest =>
      have sameFirst : line = begun.first := (List.cons.inj same).1
      rw [sameFirst, within] at out
      cases out
  | taken segment otherWithin rest => exact absurd same (segment.lines_append_ne rest.lines begun)

theorem exists_aside_of_lines {cut : Cut find isAside} {line : String} {others : List String}
    (out : isAside line = true) (same : cut.lines = line :: others) :
    ∃ rest, cut = aside line out rest ∧ rest.lines = others := by
  cases cut with
  | done => exact absurd same.symm (List.cons_ne_nil _ _)
  | unfinished begun within =>
      have sameFirst : begun.first = line := (List.cons.inj same).1
      rw [sameFirst, out] at within
      cases within
  | aside other otherOut rest =>
      rcases List.cons.inj same with ⟨sameLine, sameRest⟩
      subst sameLine
      exact ⟨rest, rfl, sameRest⟩
  | taken segment within rest =>
      rcases segment.exists_lines with ⟨later, shape⟩
      rw [lines, shape] at same
      have sameFirst : segment.first = line := (List.cons.inj same).1
      rw [sameFirst, out] at within
      cases within

theorem exists_taken_of_lines {cut : Cut find isAside} {segment : Segment find}
    {others : List String} (within : isAside segment.first = false)
    (same : cut.lines = segment.lines ++ others) :
    ∃ rest, cut = taken segment within rest ∧ rest.lines = others := by
  cases cut with
  | done =>
      rcases segment.exists_lines with ⟨later, shape⟩
      rw [shape] at same
      exact absurd same.symm (List.cons_ne_nil _ _)
  | unfinished begun otherWithin =>
      exact absurd same.symm (segment.lines_append_ne others begun)
  | aside line out rest =>
      rcases segment.exists_lines with ⟨later, shape⟩
      rw [shape] at same
      have sameFirst : line = segment.first := (List.cons.inj same).1
      rw [sameFirst, within] at out
      cases out
  | taken other otherWithin rest =>
      rcases Segment.eq_of_lines_append same with ⟨sameSegment, sameRest⟩
      subst sameSegment
      exact ⟨rest, rfl, sameRest⟩

/-- Lines are cut in one way only. -/
theorem eq_of_lines {left right : Cut find isAside} (same : right.lines = left.lines) :
    right = left := by
  induction left generalizing right with
  | done => exact eq_done_of_lines same
  | unfinished begun within => exact eq_unfinished_of_lines within same
  | aside line out rest inductionHypothesis =>
      rcases exists_aside_of_lines out same with ⟨others, shape, sameRest⟩
      rw [shape, inductionHypothesis sameRest]
  | taken segment within rest inductionHypothesis =>
      rcases exists_taken_of_lines within same with ⟨others, shape, sameRest⟩
      rw [shape, inductionHypothesis sameRest]

/-- Lines can be cut. -/
theorem exists_of_lines (find : String → Option Definition) (isAside : String → Bool)
    (given : List String) : ∃ cut : Cut find isAside, cut.lines = given := by
  rcases given with _ | ⟨first, others⟩
  · exact ⟨.done, rfl⟩
  · cases out : isAside first with
    | true =>
        rcases exists_of_lines find isAside others with ⟨rest, same⟩
        exact ⟨.aside first out rest, by rw [lines, same]⟩
    | false =>
        cases asks : Reading.asked? find first.toList with
        | none =>
            rcases exists_of_lines find isAside others with ⟨rest, same⟩
            exact ⟨.taken (.alone first asks) out rest, congrArg (first :: ·) same⟩
        | some mark =>
            cases found : others.find? (fun line => Reading.isEnd mark line.toList) with
            | none =>
                have unmarked : ∀ line ∈ others, Reading.isEnd mark line.toList = false :=
                  fun line member => Bool.eq_false_iff.mpr (List.find?_eq_none.mp found line member)
                exact ⟨.unfinished ⟨first, mark, asks, others, unmarked⟩ out, rfl⟩
            | some last =>
                rcases List.find?_eq_some_iff_append.mp found with
                  ⟨ends, inside, later, split, passed⟩
                have unmarked : ∀ line ∈ inside, Reading.isEnd mark line.toList = false := by
                  intro line member
                  simpa using passed line member
                have shorter : later.length < others.length + 1 := by
                  rw [split, List.length_append, List.length_cons]
                  omega
                rcases exists_of_lines find isAside later with ⟨rest, same⟩
                have whole : first :: inside ++ [last] ++ rest.lines = first :: others := by
                  rw [same, split]
                  simp
                exact ⟨.taken (.block ⟨first, mark, asks, inside, unmarked⟩ last ends) out rest,
                  whole⟩
termination_by given.length

/-- Lines are cut in one way. -/
theorem existsUnique_lines (find : String → Option Definition) (isAside : String → Bool)
    (given : List String) : ∃! cut : Cut find isAside, cut.lines = given := by
  rcases exists_of_lines find isAside given with ⟨cut, same⟩
  exact ⟨cut, same, fun other otherSame => eq_of_lines (otherSame.trans same.symm)⟩

end Cut

end Workbench
