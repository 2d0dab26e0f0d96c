import Mathlib.Data.List.Forall2
import Workbench.Proofs.Search.Hits
namespace Workbench

/-!
# Searches that break off

The hits of a file are collected while it is searched, and two things end a search before the
end of the file: a piece with a zero byte, and a line that holds the term and is not encoded as
UTF-8.  What has been found until then is kept, so a file can be listed with fewer hits than it
has matching lines.

Here the matching lines of a file are told from its bytes alone, whether they are searched and
can be read or not.  A matching line is *reportable* if it is both.  Then the hits are the
reportable lines in front of the first one that is not, and this list is complete or empty only
if all of the matching lines are reportable or the first of them already is not.
-/

namespace Hit

open Text (encoded)

/-- A line of a file as its bytes, and its number. -/
abbrev NumberedLine : Type :=
  List UInt8 × Nat

/-- The bytes of a line hold those of the term.  The line feed does not count. -/
def Holds (term : String) (line : List UInt8) : Prop :=
  encoded term.toList <:+: withoutFeed 10 line

instance (term : String) (line : List UInt8) : Decidable (Holds term line) :=
  decidable_of_iff _ occurs_iff

/-- The lines of a file, with their line feeds. -/
def linesOf (content : ByteArray) : List (List UInt8) :=
  bytePieces (unmark content.data.toList).1

/-- Of some lines those that hold the term, by increasing numbers.  The lines are numbered from
the given number on. -/
def matchingFrom (term : String) (number : Nat) (lines : List (List UInt8)) : List NumberedLine :=
  (lines.zipIdx number).filter (fun line => Holds term line.1)

/-- All lines of a file that hold the term. -/
def matching (term : String) (content : ByteArray) : List NumberedLine :=
  matchingFrom term 1 (linesOf content)

/-- How many lines of a file are searched. -/
def reach (content : ByteArray) : Nat :=
  (bytePieces (searchable content)).length

/-- The line is shown by the hit. -/
structure IsHit (line : NumberedLine) (hit : Hit) : Prop where
  number : hit.number = line.2
  text : ∃ text, String.fromUTF8? ⟨line.1.toArray⟩ = some text ∧
    hit.text = String.ofList (Text.trimEnd text.toList)

/-- The line is searched, and it can be read. -/
def Reportable (content : ByteArray) (line : NumberedLine) : Prop :=
  line.2 ≤ reach content ∧ ∃ text, String.fromUTF8? ⟨line.1.toArray⟩ = some text

/-- The hits are exactly the lines of the file that hold the term, by increasing numbers. -/
structure Complete (term : String) (content : ByteArray) (hits : List Hit) : Prop where
  each : List.Forall₂ IsHit (matching term content) hits
  increasing : hits.Pairwise (fun earlier later => earlier.number < later.number)

/-- All matching lines of the file can be reported, or already the first one cannot. -/
def Undivided (term : String) (content : ByteArray) : Prop :=
  (∀ line ∈ matching term content, Reportable content line) ∨
    ∀ first, (matching term content).head? = some first → ¬ Reportable content first

variable {term : String} {content : ByteArray}

/-! ## The line that holds a term, as bytes -/

theorem withoutFeed_encoded (piece : List Char) :
    withoutFeed 10 (encoded piece) = encoded (withoutFeed '\n' piece) := by
  rcases List.eq_nil_or_concat piece with none | ⟨body, last, shape⟩
  · rw [none]
    rfl
  · rw [shape, List.concat_eq_append, withoutFeed, withoutFeed, List.getLast?_concat]
    by_cases lineFeed : last = '\n'
    · have single : encoded (body ++ [last]) = encoded body ++ [10] := by
        rw [encoded, List.flatMap_append, List.flatMap_singleton, lineFeed]
        rfl
      rw [single, List.getLast?_concat, if_pos (beq_self_eq_true _), lineFeed,
        if_pos (beq_self_eq_true _), List.dropLast_concat, List.dropLast_concat]
    · rw [if_neg, if_neg]
      · exact fun same => lineFeed (Option.some.inj (beq_iff_eq.mp same))
      · intro same
        have ends := beq_iff_eq.mp same
        rw [encoded, List.flatMap_append, List.flatMap_singleton,
          List.getLast?_append_of_ne_nil _ String.utf8EncodeChar_ne_nil] at ends
        have member := List.mem_of_getLast? ends
        exact lineFeed ((Text.ascii_mem_utf8EncodeChar_iff (by decide)).mp member)

/-- Whether a line that can be read holds the term can be told from its bytes. -/
theorem holds_of_fromUTF8? {line : List UInt8} {text : String}
    (read : String.fromUTF8? ⟨line.toArray⟩ = some text) :
    Holds term line ↔ occurs (withoutFeed '\n' text.toList) term.toList = true := by
  have bytes : line = encoded text.toList := by
    rw [← Text.toList_toUTF8, ← Node.fromUTF8?_eq_some_iff.mp read]
  rw [Holds, bytes, withoutFeed_encoded, Text.infix_encoded_iff, occurs_iff]

/-! ## The run of a search -/

/-- The hit that shows a line, if the line can be read. -/
def read? (line : NumberedLine) : Option Hit :=
  (String.fromUTF8? ⟨line.1.toArray⟩).map
    (fun text => ⟨line.2, String.ofList (Text.trimEnd text.toList)⟩)

theorem matchingFrom_cons (number : Nat) (line : List UInt8) (rest : List (List UInt8)) :
    matchingFrom term number (line :: rest) =
      if Holds term line then (line, number) :: matchingFrom term (number + 1) rest
      else matchingFrom term (number + 1) rest := by
  rw [matchingFrom, List.zipIdx_cons, List.filter_cons]
  simp only [decide_eq_true_eq]
  rfl

/-- A search lists the matching lines up to the first one that cannot be read. -/
theorem inLines_eq (number : Nat) (lines : List (List UInt8)) :
    (inLines term number lines).map some =
      ((matchingFrom term number lines).map read?).takeWhile Option.isSome := by
  induction lines generalizing number with
  | nil => rfl
  | cons line rest inductionHypothesis =>
      rw [inLines, matchingFrom_cons]
      cases read : String.fromUTF8? ⟨line.toArray⟩ with
      | some text =>
          have listed : read? (line, number) =
              some ⟨number, String.ofList (Text.trimEnd text.toList)⟩ := by
            rw [read?, read]
            rfl
          simp only [← holds_of_fromUTF8? read]
          split
          · rw [List.map_cons, List.map_cons, listed, List.takeWhile_cons_of_pos rfl,
              inductionHypothesis]
          · exact inductionHypothesis (number + 1)
      | none =>
          have unlisted : read? (line, number) = none := by
            rw [read?, read]
            rfl
          have bytes : occurs (withoutFeed 10 line) term.toUTF8.data.toList = true ↔
              Holds term line := by
            rw [Text.toList_toUTF8, occurs_iff, Holds]
          simp only [bytes]
          split
          · rw [List.map_cons, unlisted, List.takeWhile_cons_of_neg (by decide), List.map_nil]
          · exact inductionHypothesis (number + 1)

/-- Hits are numbered increasingly, from the given number on. -/
theorem pairwise_inLines (term : String) (number : Nat) (lines : List (List UInt8)) :
    (inLines term number lines).Pairwise (fun earlier later => earlier.number < later.number) ∧
      ∀ hit ∈ inLines term number lines, number ≤ hit.number := by
  induction lines generalizing number with
  | nil => exact ⟨List.Pairwise.nil, List.forall_mem_nil _⟩
  | cons line rest inductionHypothesis =>
      rcases inductionHypothesis (number + 1) with ⟨increasing, above⟩
      have passed : ∀ hit ∈ inLines term (number + 1) rest, number ≤ hit.number :=
        fun hit member => Nat.le_of_succ_le (above hit member)
      rw [inLines]
      split
      · split
        · exact ⟨List.pairwise_cons.mpr ⟨above, increasing⟩,
            List.forall_mem_cons.mpr ⟨Nat.le_refl number, passed⟩⟩
        · exact ⟨increasing, passed⟩
      · split
        · exact ⟨List.Pairwise.nil, List.forall_mem_nil _⟩
        · exact ⟨increasing, passed⟩

theorem pairwise_inFile (term : String) (content : ByteArray) :
    (inFile term content).Pairwise (fun earlier later => earlier.number < later.number) :=
  (pairwise_inLines term 1 _).1

/-! ## The lines that are searched -/

/-- The bytes are cut at the place: there a line ends, or nothing stands before it. -/
def Edge (bytes : List UInt8) : Prop :=
  bytes = [] ∨ bytes.getLast? = some 10

theorem exists_cons_bytePieces (first : UInt8) (rest : List UInt8) :
    ∃ piece others, bytePieces (first :: rest) = piece :: others := by
  rw [bytePieces]
  split
  · exact ⟨_, _, rfl⟩
  · split
    · exact ⟨_, _, rfl⟩
    · exact ⟨_, _, rfl⟩

theorem edge_append_of_getLast? {bytes : List UInt8} (ends : bytes.getLast? = some 10)
    (front : List UInt8) : Edge (front ++ bytes) :=
  Or.inr (by rw [List.getLast?_append, ends, Option.some_or])

/-- Bytes that begin a new line begin a new piece. -/
theorem bytePieces_append_of_edge {front : List UInt8} (edge : Edge front) (rest : List UInt8) :
    bytePieces (front ++ rest) = bytePieces front ++ bytePieces rest := by
  induction front with
  | nil => rfl
  | cons first more inductionHypothesis =>
      rcases edge with none | ends
      · cases none
      · rw [List.cons_append, bytePieces, bytePieces]
        cases more with
        | nil =>
            have feed : first = 10 := Option.some.inj ends
            rw [if_pos feed, if_pos feed]
            rfl
        | cons next later =>
            rw [List.getLast?_cons_cons] at ends
            have cut := inductionHypothesis (Or.inr ends)
            rcases exists_cons_bytePieces next later with ⟨piece, others, shape⟩
            rw [cut, shape]
            split
            · rfl
            · rfl

/-- Bytes with a line feed are some that end at the last one, and those behind it. -/
theorem exists_edge {piece : List UInt8}
    (fed : (piece.reverse.takeWhile (· != 10)).length ≠ piece.length) :
    ∃ upTo behind, piece = upTo ++ behind ∧ upTo.getLast? = some 10 ∧
      behind.length = (piece.reverse.takeWhile (· != 10)).length := by
  have cut : piece = (piece.reverse.dropWhile (· != 10)).reverse ++
      (piece.reverse.takeWhile (· != 10)).reverse := by
    rw [← List.reverse_append, List.takeWhile_append_dropWhile, List.reverse_reverse]
  refine ⟨_, _, cut, ?_, List.length_reverse⟩
  rw [List.getLast?_reverse]
  have begins := List.head?_dropWhile_not (· != 10) piece.reverse
  cases first : (piece.reverse.dropWhile (· != 10)).head? with
  | none =>
      have whole := congrArg List.length cut
      rw [List.head?_eq_none_iff.mp first, List.reverse_nil, List.nil_append,
        List.length_reverse] at whole
      exact absurd whole.symm fed
  | some byte =>
      rw [first] at begins
      simpa using begins

/-- However many pieces are read, the bytes that are searched end where a line ends, or they are
all there are.  What is known in between: the passed bytes end where a line ends, and there is
room for what is held and for what is read next. -/
theorem edge_reachFrom (fuel : Nat) {size room : Nat} {passed held rest : List UInt8}
    (edge : Edge passed) (positive : 0 < size) (fits : held.length + size ≤ room) :
    Edge ((passed ++ held ++ rest).take
        (reachFrom fuel size room held.length passed.length rest)) ∨
      reachFrom fuel size room held.length passed.length rest =
        (passed ++ held ++ rest).length := by
  induction fuel generalizing size room passed held rest with
  | zero =>
      rw [reachFrom, List.append_assoc, List.take_left]
      exact Or.inl edge
  | succ fuel inductionHypothesis =>
      have read : (rest.take size).length ≤ size := List.length_take_le size rest
      have ended : rest.take size = [] → rest = [] := fun none =>
        (List.take_eq_nil_iff.mp none).resolve_left (Nat.ne_of_gt positive)
      have whole : rest.take size ++ rest.drop size = rest := List.take_append_drop size rest
      simp only [reachFrom]
      generalize rest.take size = piece at read ended whole
      generalize rest.drop size = behind at whole
      split
      · rename_i empty
        rw [ended (List.isEmpty_iff.mp empty), List.append_nil, List.length_append]
        exact Or.inr rfl
      · split
        · rw [List.append_assoc, List.take_left]
          exact Or.inl edge
        · split
          · -- no line ends in the piece, so all of it is held
            have count : held.length + piece.length = (held ++ piece).length :=
              List.length_append.symm
            have shape : passed ++ held ++ rest = passed ++ (held ++ piece) ++ behind := by
              rw [← whole, List.append_assoc, List.append_assoc, List.append_assoc]
            have room' : held.length + piece.length <
                if held.length + piece.length < room then room else 3 * room := by
              split
              · assumption
              · omega
            rw [shape, count]
            rw [count] at room'
            exact inductionHypothesis edge (Nat.sub_pos_of_lt room')
              (Nat.le_of_eq (Nat.add_sub_cancel' (Nat.le_of_lt room')))
          · rename_i fed
            rcases exists_edge fed with ⟨upTo, line, cut, stops, length⟩
            have sizes := congrArg List.length cut
            rw [List.length_append] at sizes
            have count : passed.length + held.length + (piece.length - line.length) =
                (passed ++ held ++ upTo).length := by
              rw [List.length_append, List.length_append]
              omega
            have shape : passed ++ held ++ rest = passed ++ held ++ upTo ++ line ++ behind := by
              rw [← whole, cut, List.append_assoc, List.append_assoc, List.append_assoc,
                List.append_assoc, List.append_assoc]
            rw [shape, ← length, count]
            exact inductionHypothesis (edge_append_of_getLast? stops _) (by omega) (by omega)

/-- What is searched is all of the file's bytes, or its bytes up to the end of a line. -/
theorem exists_searchable (content : ByteArray) :
    ∃ rest, (unmark content.data.toList).1 = searchable content ++ rest ∧
      (Edge (searchable content) ∨ rest = []) := by
  rw [searchable]
  generalize unmark content.data.toList = unmarked
  rcases unmarked with ⟨bytes, marked⟩
  simp only
  split
  · have size : 0 < if marked then capacity else peeked := by
      cases marked <;> decide
    have room : ([] : List UInt8).length + (if marked then capacity else peeked) ≤ capacity := by
      cases marked <;> decide
    have known := @edge_reachFrom (bytes.length + 1) _ _ [] [] bytes (Or.inl rfl) size room
    simp only [List.nil_append, List.length_nil] at known
    refine ⟨_, (List.take_append_drop _ bytes).symm, ?_⟩
    rcases known with edge | whole
    · exact Or.inl edge
    · exact Or.inr (by rw [whole, List.drop_length])
  · exact ⟨[], (List.append_nil bytes).symm, Or.inr rfl⟩

/-- The lines that are searched are the first ones of the file. -/
theorem bytePieces_searchable (content : ByteArray) :
    bytePieces (searchable content) = (linesOf content).take (reach content) := by
  rcases exists_searchable content with ⟨rest, whole, stops⟩
  have cut : linesOf content = bytePieces (searchable content) ++ bytePieces rest := by
    rw [linesOf, whole]
    rcases stops with edge | none
    · exact bytePieces_append_of_edge edge rest
    · rw [none, List.append_nil, bytePieces, List.append_nil]
  rw [cut, reach, List.take_left]

/-! ## Complete, absent, or neither -/

/-- The hit that a line is reported by, if it is. -/
def report? (content : ByteArray) (line : NumberedLine) : Option Hit :=
  if line.2 ≤ reach content then read? line else none

theorem isSome_report?_iff (line : NumberedLine) :
    (report? content line).isSome = true ↔ Reportable content line := by
  rw [report?, Reportable]
  split
  · rename_i searched
    rw [read?, Option.isSome_map, Option.isSome_iff_exists]
    exact ⟨fun decoded => ⟨searched, decoded⟩, And.right⟩
  · rename_i beyond
    constructor
    · intro listed
      cases listed
    · intro reportable
      exact absurd reportable.1 beyond

theorem takeWhile_isSome_append {front rest : List (Option Hit)}
    (absent : ∀ entry ∈ rest, entry = none) :
    (front ++ rest).takeWhile Option.isSome = front.takeWhile Option.isSome := by
  induction front with
  | nil =>
      cases rest with
      | nil => rfl
      | cons first others => rw [absent first List.mem_cons_self]; rfl
  | cons first others inductionHypothesis =>
      cases first with
      | none => rfl
      | some hit =>
          rw [List.cons_append, List.takeWhile_cons_of_pos rfl, List.takeWhile_cons_of_pos rfl,
            inductionHypothesis]

/-- The hits in a file are its matching lines up to the first one that is not reportable. -/
theorem inFile_eq (term : String) (content : ByteArray) :
    (inFile term content).map some =
      ((matching term content).map (report? content)).takeWhile Option.isSome := by
  have count : ((linesOf content).take (reach content)).length = reach content := by
    rw [← bytePieces_searchable, reach]
  have cut : matching term content =
      matchingFrom term 1 ((linesOf content).take (reach content)) ++
        matchingFrom term (1 + reach content) ((linesOf content).drop (reach content)) := by
    rw [matching, matchingFrom, matchingFrom, matchingFrom, ← List.filter_append]
    nth_rewrite 3 [← count]
    rw [← List.zipIdx_append, List.take_append_drop]
  have searched : ∀ line ∈ matchingFrom term 1 ((linesOf content).take (reach content)),
      report? content line = read? line := by
    intro line member
    have bound := List.snd_lt_of_mem_zipIdx (List.mem_filter.mp member).1
    rw [report?, if_pos (by omega)]
  rw [inFile, inLines_eq, bytePieces_searchable, cut, List.map_append,
    List.map_congr_left searched]
  symm
  apply takeWhile_isSome_append
  intro entry member
  rcases List.mem_map.mp member with ⟨line, listed, rfl⟩
  have bound := List.le_snd_of_mem_zipIdx (List.mem_filter.mp listed).1
  rw [report?, if_neg (by omega)]

theorem isHit_iff (line : NumberedLine) (hit : Hit) : IsHit line hit ↔ some hit = read? line := by
  rw [read?]
  cases decoded : String.fromUTF8? ⟨line.1.toArray⟩ with
  | none =>
      constructor
      · rintro ⟨_, text, same, _⟩
        rw [decoded] at same
        cases same
      · intro none
        cases none
  | some text =>
      rw [Option.map_some, Option.some.injEq]
      constructor
      · rintro ⟨number, other, same, shown⟩
        rw [decoded, Option.some.injEq] at same
        rw [same, ← number, ← shown]
      · intro same
        rw [same]
        exact ⟨rfl, text, decoded, rfl⟩

/-- A search that stops at no matching line reports all of them. -/
theorem complete_of_reportable
    (all : ∀ line ∈ matching term content, Reportable content line) :
    Complete term content (inFile term content) := by
  have whole : (inFile term content).map some = (matching term content).map read? := by
    rw [inFile_eq, List.takeWhile_eq_self_iff.mpr]
    · apply List.map_congr_left
      intro line member
      rw [report?, if_pos (all line member).1]
    · intro entry member
      rcases List.mem_map.mp member with ⟨line, listed, rfl⟩
      exact (isSome_report?_iff line).mpr (all line listed)
  have each : List.Forall₂ IsHit (matching term content) (inFile term content) := by
    have same := List.forall₂_eq_eq_eq ▸ whole.symm
    rw [List.forall₂_map_left_iff, List.forall₂_map_right_iff] at same
    exact same.imp (fun line hit read => (isHit_iff line hit).mpr read.symm)
  exact ⟨each, pairwise_inFile term content⟩

/-- A search with as many hits as there are matching lines has stopped at none of them. -/
theorem reportable_of_length_le
    (enough : (matching term content).length ≤ (inFile term content).length) :
    ∀ line ∈ matching term content, Reportable content line := by
  have size := congrArg List.length (inFile_eq term content)
  rw [List.length_map] at size
  have front : ((matching term content).map (report? content)).takeWhile Option.isSome <+:
      (matching term content).map (report? content) :=
    List.takeWhile_prefix _
  have whole := front.eq_of_length_le (by rw [List.length_map, ← size]; exact enough)
  intro line member
  exact (isSome_report?_iff line).mp
    (List.takeWhile_eq_self_iff.mp whole _ (List.mem_map_of_mem member))

theorem inFile_eq_nil_iff : inFile term content = [] ↔
    ∀ first, (matching term content).head? = some first → ¬ Reportable content first := by
  rw [← List.map_eq_nil_iff (f := some), inFile_eq]
  cases matching term content with
  | nil =>
      refine ⟨?_, fun _ => rfl⟩
      intro _ first begins
      cases begins
  | cons first rest =>
      rw [List.map_cons, List.head?_cons]
      by_cases reportable : Reportable content first
      · rw [List.takeWhile_cons_of_pos ((isSome_report?_iff first).mpr reportable)]
        constructor
        · intro none
          cases none
        · intro broken
          exact absurd reportable (broken first rfl)
      · rw [List.takeWhile_cons_of_neg (mt (isSome_report?_iff first).mp reportable)]
        refine ⟨?_, fun _ => rfl⟩
        rintro _ line same
        rw [← Option.some.inj same]
        exact reportable

/-- The hits in a file are all of its matching lines or none of them exactly if the lines are not
divided into reportable ones and later ones that are not.  In the same cases the hits, if there
are any, are as many as the matching lines. -/
theorem complete_or_absent_iff (term : String) (content : ByteArray) :
    (inFile term content = [] ∨ Complete term content (inFile term content) ↔
      Undivided term content) ∧
    (inFile term content = [] ∨ (matching term content).length ≤ (inFile term content).length ↔
      Undivided term content) := by
  have count : Complete term content (inFile term content) →
      (matching term content).length ≤ (inFile term content).length :=
    fun complete => Nat.le_of_eq complete.each.length_eq
  rw [inFile_eq_nil_iff, Undivided]
  constructor
  · constructor
    · rintro (broken | complete)
      · exact Or.inr broken
      · exact Or.inl (reportable_of_length_le (count complete))
    · rintro (all | broken)
      · exact Or.inr (complete_of_reportable all)
      · exact Or.inl broken
  · constructor
    · rintro (broken | enough)
      · exact Or.inr broken
      · exact Or.inl (reportable_of_length_le enough)
    · rintro (all | broken)
      · exact Or.inr (count (complete_of_reportable all))
      · exact Or.inl broken

/-- Three lines that hold the same word; the middle one is not encoded as UTF-8. -/
def severed : ByteArray :=
  "hit\n".toUTF8 ++ ⟨#[0xFF, 0xFE]⟩ ++ " hit\nhit\n".toUTF8

/-- The first line is reported, and the two others are lost. -/
theorem severed_neither_complete_nor_absent :
    inFile "hit" severed = [⟨1, "hit"⟩] ∧ (matching "hit" severed).length = 3 ∧
      ¬ ∀ (term : String) (content : ByteArray),
        inFile term content = [] ∨ Complete term content (inFile term content) := by
  have found : inFile "hit" severed = [⟨1, "hit"⟩] := by
    decide +kernel
  have lines : (matching "hit" severed).length = 3 := by
    decide +kernel
  refine ⟨found, lines, ?_⟩
  intro always
  rcases always "hit" severed with absent | complete
  · rw [found] at absent
    cases absent
  · have size := complete.each.length_eq
    rw [found, lines] at size
    cases size

end Hit

end Workbench
