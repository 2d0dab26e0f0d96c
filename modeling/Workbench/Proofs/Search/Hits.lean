import Mathlib.Data.List.Infix
import Workbench.Proofs.Text.Bytes
import Workbench.Proofs.Text.Encoding
import Workbench.Proofs.Text.Trimming
import Workbench.Proofs.Tree.Following
import Workbench.Search.Hit
import Workbench.Window
namespace Workbench

/-!
# Which lines a search finds

A search cuts the bytes of a file after every line feed, and a window cuts its characters there.
The code of a line feed is in no other character, so both cut at the same places and the pieces
correspond one to one.  A search keeps the carriage return of a longer line end, which a window
leaves out; a term without a carriage return cannot tell, and at the end of a hit the carriage
return is trimmed with the other blanks.
-/

namespace Hit

/-- The hits are the lines that hold the term, each with its number and without the blanks at its
end, by increasing numbers.  The lines are numbered from the given number on. -/
structure Lists (term : String) (number : Nat) (lines : List String) (hits : List Hit) : Prop where
  increasing : hits.Pairwise (fun earlier later => earlier.number < later.number)
  members : ∀ hit, hit ∈ hits ↔ ∃ offset line, lines[offset]? = some line ∧
    hit.number = number + offset ∧ term.toList <:+: line.toList ∧
    hit.text = String.ofList (Text.trimEnd line.toList)

variable {term : String} {number : Nat} {lines : List String} {hits : List Hit}

theorem Lists.number_le (listed : Lists term number lines hits) {hit : Hit} (member : hit ∈ hits) :
    number ≤ hit.number := by
  rcases (listed.members hit).mp member with ⟨offset, _, _, counted, _, _⟩
  omega

/-- A term that every line holds is found as often as there are lines. -/
theorem Lists.length_of_forall (listed : Lists term number lines hits)
    (all : ∀ line ∈ lines, term.toList <:+: line.toList) : hits.length = lines.length := by
  have distinct : (hits.map Hit.number).Nodup :=
    List.pairwise_map.mpr (listed.increasing.imp Nat.ne_of_lt)
  have same : ∀ counted, counted ∈ hits.map Hit.number ↔
      counted ∈ List.range' number lines.length := by
    intro counted
    rw [List.mem_map, List.mem_range'_1]
    constructor
    · rintro ⟨hit, member, rfl⟩
      rcases (listed.members hit).mp member with ⟨offset, line, found, place, _, _⟩
      have inside := (List.getElem?_eq_some_iff.mp found).1
      omega
    · rintro ⟨above, below⟩
      have inside : counted - number < lines.length := by
        omega
      have found := List.getElem?_eq_getElem inside
      refine ⟨⟨counted, _⟩, (listed.members _).mpr ⟨counted - number, _, found, ?_, ?_, rfl⟩, rfl⟩
      · exact (Nat.add_sub_cancel' above).symm
      · exact all _ (List.mem_of_getElem? found)
  have sizes := ((List.perm_ext_iff_of_nodup distinct List.nodup_range').mpr same).length_eq
  rw [List.length_map, List.length_range'] at sizes
  exact sizes

/-! ## One line after the other -/

theorem lists_nil (term : String) (number : Nat) : Lists term number [] [] where
  increasing := List.Pairwise.nil
  members := by
    intro hit
    constructor
    · intro member
      cases member
    · rintro ⟨offset, line, found, _, _, _⟩
      cases found

/-- A line that does not hold the term counts, but is no hit. -/
theorem Lists.pass {line : String} (listed : Lists term (number + 1) lines hits)
    (absent : ¬ term.toList <:+: line.toList) : Lists term number (line :: lines) hits where
  increasing := listed.increasing
  members := by
    intro hit
    rw [listed.members hit]
    constructor
    · rintro ⟨offset, later, found, counted, holds, shown⟩
      exact ⟨offset + 1, later, found, by omega, holds, shown⟩
    · rintro ⟨offset, later, found, counted, holds, shown⟩
      cases offset with
      | zero =>
          rw [List.getElem?_cons_zero, Option.some.injEq] at found
          rw [← found] at holds
          exact absurd holds absent
      | succ before =>
          rw [List.getElem?_cons_succ] at found
          exact ⟨before, later, found, by omega, holds, shown⟩

/-- A line that holds the term is a hit in front of the hits in later lines. -/
theorem Lists.find {line : String} (listed : Lists term (number + 1) lines hits)
    (here : term.toList <:+: line.toList) :
    Lists term number (line :: lines)
      (⟨number, String.ofList (Text.trimEnd line.toList)⟩ :: hits) where
  increasing := by
    refine List.pairwise_cons.mpr ⟨?_, listed.increasing⟩
    intro hit member
    exact listed.number_le member
  members := by
    intro hit
    rw [List.mem_cons, listed.members hit]
    constructor
    · rintro (rfl | ⟨offset, later, found, counted, holds, shown⟩)
      · exact ⟨0, line, rfl, rfl, here, rfl⟩
      · exact ⟨offset + 1, later, found, by omega, holds, shown⟩
    · rintro ⟨offset, later, found, counted, holds, shown⟩
      cases offset with
      | zero =>
          rw [List.getElem?_cons_zero, Option.some.injEq] at found
          refine Or.inl ?_
          rw [found, ← shown, ← Nat.add_zero number, ← counted]
      | succ before =>
          rw [List.getElem?_cons_succ] at found
          exact Or.inr ⟨before, later, found, by omega, holds, shown⟩

/-! ## The line that holds a term -/

theorem occurs_iff {Element : Type} [BEq Element] [LawfulBEq Element] {text term : List Element} :
    occurs text term = true ↔ term <:+: text := by
  induction text with
  | nil => rw [occurs, List.isEmpty_iff, List.infix_nil]
  | cons first rest inductionHypothesis =>
      rw [occurs, Bool.or_eq_true, List.isPrefixOf_iff_prefix, inductionHypothesis,
        List.infix_cons_iff]

/-- A character at the end that is not in the term does not count. -/
theorem infix_concat_of_not_mem {term line : List Char} {mark : Char} (absent : mark ∉ term) :
    term <:+: line ++ [mark] ↔ term <:+: line := by
  rw [List.infix_concat_iff]
  constructor
  · rintro (⟨front, ends⟩ | inside)
    · rcases List.eq_nil_or_concat term with none | ⟨begin, last, shape⟩
      · rw [none]
        exact List.nil_infix
      · rw [List.concat_eq_append] at shape
        rw [shape, ← List.append_assoc] at ends
        have same := List.singleton_inj.mp (List.append_inj' ends rfl).2
        rw [shape, same] at absent
        exact absurd (List.mem_append_right begin (List.mem_singleton_self mark)) absent
    · exact inside
  · exact Or.inr

/-- A piece without its line feed holds such a term exactly if its line does. -/
theorem infix_withoutFeed_iff {term piece : List Char}
    (shape : Text.Closed piece ∨ Text.Unclosed piece) (plain : '\r' ∉ term) :
    term <:+: withoutFeed '\n' piece ↔ term <:+: Text.bare piece := by
  rcases shape with closed | unclosed
  · rcases Text.bare_of_closed closed with ⟨line, seen, _, ⟨_, whole⟩ | ⟨_, whole⟩⟩
    · have kept : withoutFeed '\n' piece = line := by
        rw [whole, withoutFeed, List.getLast?_concat, if_pos (beq_self_eq_true _),
          List.dropLast_concat]
      rw [kept, seen]
    · have kept : withoutFeed '\n' piece = line ++ ['\r'] := by
        rw [whole, List.append_cons, withoutFeed, List.getLast?_concat,
          if_pos (beq_self_eq_true _), List.dropLast_concat]
      rw [kept, seen, infix_concat_of_not_mem plain]
  · have kept : withoutFeed '\n' piece = piece := by
      rw [withoutFeed, if_neg]
      intro ends
      exact unclosed.2 (List.mem_of_getLast? (beq_iff_eq.mp ends))
    rw [kept, Text.bare_of_unclosed unclosed]

/-! ## The bytes of a text -/

open Text (encoded)

/-- Bytes without a line feed belong to the first piece. -/
theorem bytePieces_append {front : List UInt8} (filled : front ≠ []) (clear : 10 ∉ front)
    (rest : List UInt8) :
    bytePieces (front ++ rest) = match bytePieces rest with
      | [] => [front]
      | piece :: others => (front ++ piece) :: others := by
  induction front with
  | nil => exact absurd rfl filled
  | cons first more inductionHypothesis =>
      rw [List.mem_cons, not_or] at clear
      rcases clear with ⟨ordinary, clearMore⟩
      rw [List.cons_append, bytePieces, if_neg (Ne.symm ordinary)]
      by_cases empty : more = []
      · rw [empty, List.nil_append]
        cases bytePieces rest with
        | nil => rfl
        | cons piece others => rfl
      · rw [inductionHypothesis empty clearMore]
        cases bytePieces rest with
        | nil => rfl
        | cons piece others => rfl

/-- The bytes of a text are cut where the text is cut. -/
theorem bytePieces_encoded (text : List Char) :
    bytePieces (encoded text) = (Text.pieces text).map encoded := by
  induction text with
  | nil => rfl
  | cons first rest inductionHypothesis =>
      rw [Text.encoded_cons, Text.pieces]
      by_cases lineFeed : first = '\n'
      · have single : String.utf8EncodeChar first = [10] := by
          rw [lineFeed]
          decide
        rw [single, if_pos lineFeed, List.singleton_append, bytePieces, if_pos rfl,
          inductionHypothesis]
        rfl
      · have clear : 10 ∉ String.utf8EncodeChar first := by
          intro member
          exact lineFeed ((Text.ascii_mem_utf8EncodeChar_iff (by decide)).mp member)
        rw [bytePieces_append String.utf8EncodeChar_ne_nil clear, inductionHypothesis,
          if_neg lineFeed]
        cases Text.pieces rest with
        | nil => rw [List.map_nil, List.map_singleton, encoded, List.flatMap_singleton]
        | cons piece others => rw [List.map_cons, List.map_cons, Text.encoded_cons]

/-- The bytes of a text begin with a byte order mark only if the text does. -/
theorem unmark_encoded {text : List Char} (unmarked : text.head? ≠ some '\ufeff') :
    unmark (encoded text) = (encoded text, false) := by
  unfold unmark
  split
  · rename_i rest begins
    exfalso
    have split : List.utf8Encode ['\ufeff'] ++ rest.toByteArray = text.utf8Encode := by
      rw [List.utf8Encode, List.utf8Encode, ← List.toByteArray_append]
      exact congrArg List.toByteArray begins.symm
    rcases List.isPrefix_of_utf8Encode_append_eq_utf8Encode _ split with ⟨more, shape⟩
    rw [← shape] at unmarked
    exact unmarked rfl
  · rename_i rest begins
    have small := Text.toNat_lt_of_mem_encoded (begins ▸ List.mem_cons_self)
    exact absurd small (by decide)
  · rename_i rest begins
    have small := Text.toNat_lt_of_mem_encoded (begins ▸ List.mem_cons_self)
    exact absurd small (by decide)
  · rfl

theorem searchable_toUTF8 {text : String} (clear : '\x00' ∉ text.toList)
    (unmarked : text.toList.head? ≠ some '\ufeff') :
    searchable text.toUTF8 = encoded text.toList := by
  have zeroless : (encoded text.toList).contains 0 = false := by
    rw [← Bool.not_eq_true, List.contains_iff_mem]
    exact fun member => clear ((Text.ascii_mem_encoded_iff (by decide)).mp member)
  rw [searchable, Text.toList_toUTF8, unmark_encoded unmarked]
  simp only [zeroless, Bool.false_eq_true, if_false]

/-! ## The hits in a text -/

/-- An encoded piece is read back. -/
theorem fromUTF8?_encoded (piece : List Char) :
    String.fromUTF8? ⟨(encoded piece).toArray⟩ = some (String.ofList piece) := by
  apply Node.fromUTF8?_eq_some_iff.mpr
  rw [String.toUTF8_eq_toByteArray, String.toByteArray_ofList, List.utf8Encode]
  exact ByteArray.ext List.data_toByteArray.symm

theorem lists_inLines {cut : List (List Char)}
    (shapes : ∀ piece ∈ cut, Text.Closed piece ∨ Text.Unclosed piece)
    (plain : '\r' ∉ term.toList) (number : Nat) :
    Lists term number ((cut.map Text.bare).map String.ofList)
      (inLines term number (cut.map encoded)) := by
  induction cut generalizing number with
  | nil => exact lists_nil term number
  | cons piece others inductionHypothesis =>
      rcases List.forall_mem_cons.mp shapes with ⟨shape, later⟩
      have line : (String.ofList (Text.bare piece)).toList = Text.bare piece :=
        String.toList_ofList
      have found : occurs (withoutFeed '\n' piece) term.toList = true ↔
          term.toList <:+: (String.ofList (Text.bare piece)).toList := by
        rw [occurs_iff, infix_withoutFeed_iff shape plain, line]
      have shown : Text.trimEnd piece = Text.trimEnd (String.ofList (Text.bare piece)).toList := by
        rw [line, Text.trimEnd_bare]
      rw [List.map_cons, List.map_cons, List.map_cons, inLines, fromUTF8?_encoded]
      simp only [String.toList_ofList]
      by_cases holds : occurs (withoutFeed '\n' piece) term.toList = true
      · rw [if_pos holds, shown]
        exact (inductionHypothesis later (number + 1)).find (found.mp holds)
      · rw [if_neg holds]
        exact (inductionHypothesis later (number + 1)).pass (mt found.mpr holds)

/-- A search finds the lines that a window numbers. -/
theorem lists_inFile {text : String} (clear : '\x00' ∉ text.toList)
    (unmarked : text.toList.head? ≠ some '\ufeff') (plain : '\r' ∉ term.toList) :
    Lists term 1 (Window.linesOf text) (inFile term text.toUTF8) := by
  rw [inFile, searchable_toUTF8 clear unmarked, bytePieces_encoded]
  exact lists_inLines (fun _ => Text.closed_or_unclosed) plain 1

end Hit

end Workbench
