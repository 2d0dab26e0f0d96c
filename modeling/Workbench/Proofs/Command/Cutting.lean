import Workbench.Proofs.Command.Naming
namespace Workbench

/-!
# Cutting a line between its tokens

From one character to the next a scan carries the quoting, the characters that it holds and the
tokens that it has cut so far.  The rest of the line sees only the first two.  So a line can be cut
in two wherever no span is open and nothing is held: at a blank, in front of a quote mark, and
behind the mark that closes a span.  The tokens of the two parts are then the tokens of the whole.

Nothing is lost but separators.  What a line tells is said here without a scan: a line consists of
blanks, of plain characters and of quoted spans, the last of which may lack its closing mark.  The
blanks between the spans go and so do the marks that delimit the spans; all else stays in its order.
-/

namespace Token

/-! ## Where a line can be cut -/

/-- The rest of a line is scanned from the quoting in which the part before it leaves the scan, and
with the characters that this part leaves held. -/
theorem exists_scanFrom_append (quoting : Quoting) (held front : List Char) :
    ∃ tokens kept, ∀ rest, scanFrom quoting held (front ++ rest) =
      tokens ++ scanFrom (quotingAfter quoting front) kept rest := by
  induction front generalizing quoting held with
  | nil => exact ⟨[], held, fun rest => by rw [quotingAfter]; rfl⟩
  | cons first others inductionHypothesis =>
      cases quoting with
      | inside mark =>
          by_cases closes : first = mark
          · rcases inductionHypothesis .outside [] with ⟨tokens, kept, onward⟩
            refine ⟨held.reverse :: tokens, kept, fun rest => ?_⟩
            rw [List.cons_append, scanFrom, quotingAfter, if_pos closes, if_pos closes, onward,
              List.cons_append]
          · rcases inductionHypothesis (.inside mark) (first :: held) with ⟨tokens, kept, onward⟩
            refine ⟨tokens, kept, fun rest => ?_⟩
            rw [List.cons_append, scanFrom, quotingAfter, if_neg closes, if_neg closes, onward]
      | outside =>
          by_cases opens : isMark first = true
          · rcases inductionHypothesis (.inside first) [] with ⟨tokens, kept, onward⟩
            refine ⟨flush held ++ tokens, kept, fun rest => ?_⟩
            rw [List.cons_append, scanFrom, quotingAfter, if_pos opens, if_pos opens, onward,
              List.append_assoc]
          · by_cases wide : isBlank first = true
            · rcases inductionHypothesis .outside [] with ⟨tokens, kept, onward⟩
              refine ⟨flush held ++ tokens, kept, fun rest => ?_⟩
              rw [List.cons_append, scanFrom_blank wide, quotingAfter, if_neg opens, onward,
                List.append_assoc]
            · rcases inductionHypothesis .outside (first :: held) with ⟨tokens, kept, onward⟩
              refine ⟨tokens, kept, fun rest => ?_⟩
              rw [List.cons_append, scanFrom, quotingAfter, if_neg opens, if_neg opens, if_neg wide,
                onward]

/-- A line that leaves no span open leaves at most one token unfinished. -/
theorem exists_scan_append {front : List Char} (closed : quotingAfter .outside front = .outside) :
    ∃ tokens kept, scan front = tokens ++ flush kept ∧
      ∀ rest, scan (front ++ rest) = tokens ++ scanFrom .outside kept rest := by
  rcases exists_scanFrom_append .outside [] front with ⟨tokens, kept, onward⟩
  rw [closed] at onward
  refine ⟨tokens, kept, ?_, onward⟩
  have whole := onward []
  rw [List.append_nil] at whole
  exact whole

theorem scan_append_blank {front : List Char} (closed : quotingAfter .outside front = .outside)
    {blank : Char} (wide : isBlank blank = true) (back : List Char) :
    scan (front ++ blank :: back) = scan front ++ scan back := by
  rcases exists_scan_append closed with ⟨tokens, kept, before, onward⟩
  rw [onward, scanFrom_blank wide, before, List.append_assoc, scan]

/-- A quote mark ends what is held, so it may follow at once. -/
theorem scan_append_mark {front : List Char} (closed : quotingAfter .outside front = .outside)
    {mark : Char} (quotes : isMark mark = true) (back : List Char) :
    scan (front ++ mark :: back) = scan front ++ scan (mark :: back) := by
  rcases exists_scan_append closed with ⟨tokens, kept, before, onward⟩
  have opened := scan_of_mark (List.forall_mem_nil _) quotes back
  rw [List.nil_append] at opened
  rw [onward, scanFrom, quotes, if_pos rfl, before, opened, List.append_assoc]
  rfl

/-- The mark that closes a span is the last character of the line. -/
def Closes (line : List Char) : Prop :=
  ∃ front mark, line = front ++ [mark] ∧ quotingAfter .outside front = .inside mark

/-- Behind a closing mark nothing is held, so anything may follow at once. -/
theorem scan_append_of_closes {front : List Char} (closes : Closes front) (back : List Char) :
    scan (front ++ back) = scan front ++ scan back := by
  rcases closes with ⟨above, mark, rfl, inside⟩
  rcases exists_scanFrom_append .outside [] above with ⟨tokens, kept, onward⟩
  have closed : ∀ rest, scan (above ++ mark :: rest) = tokens ++ kept.reverse :: scan rest := by
    intro rest
    rw [scan, onward, inside, scanFrom, if_pos rfl, scan]
  rw [List.append_assoc, List.singleton_append, closed, closed]
  simp [scan, scanFrom, flush]

/-! ## What a line tells -/

/-- What a line tells: the line without the blanks outside of its quoted spans and without the marks
that delimit the spans. -/
inductive Tells : List Char → List Char → Prop where
  | nothing : Tells [] []
  | blank {blank : Char} {line text : List Char} (wide : isBlank blank = true)
      (onward : Tells line text) : Tells (blank :: line) text
  | plain {character : Char} {line text : List Char} (plain : IsPlain character)
      (onward : Tells line text) : Tells (character :: line) (character :: text)
  | span {mark : Char} {inner line text : List Char} (quotes : isMark mark = true)
      (lacks : mark ∉ inner) (onward : Tells line text) :
      Tells (enclose mark inner ++ line) (inner ++ text)
  | unclosed {mark : Char} {inner : List Char} (quotes : isMark mark = true)
      (lacks : mark ∉ inner) : Tells (mark :: inner) inner

theorem flatten_flush (held : List Char) : (flush held).flatten = held.reverse := by
  cases held with
  | nil => rfl
  | cons first others => exact List.flatten_singleton

/-- Together the tokens give what the line tells, behind what has been held before. -/
theorem flatten_scanFrom_of_tells {line text : List Char} (tells : Tells line text)
    (held : List Char) : (scanFrom .outside held line).flatten = held.reverse ++ text := by
  induction tells generalizing held with
  | nothing => rw [scanFrom, flatten_flush, List.append_nil]
  | blank wide _ inductionHypothesis =>
      rw [scanFrom_blank wide, List.flatten_append, flatten_flush, inductionHypothesis]
      rfl
  | plain plain _ inductionHypothesis =>
      rw [scanFrom, plain.1, plain.2, if_neg Bool.false_ne_true, if_neg Bool.false_ne_true,
        inductionHypothesis, List.reverse_cons, List.append_assoc, List.singleton_append]
  | span quotes lacks _ inductionHypothesis =>
      rw [scanFrom_enclose quotes lacks, List.flatten_append, flatten_flush, List.flatten_cons,
        inductionHypothesis]
      rfl
  | unclosed quotes lacks =>
      rw [scanFrom, quotes, if_pos rfl, scanFrom_inside_open lacks, List.flatten_append,
        flatten_flush, List.flatten_singleton]
      rfl

/-- Every line tells something: a mark is followed by its like, or its span is never closed. -/
theorem exists_tells (line : List Char) : ∃ text, Tells line text := by
  -- the length, because a whole span is passed at once
  induction size : line.length using Nat.strong_induction_on generalizing line with
  | _ length shorter =>
      cases line with
      | nil => exact ⟨[], .nothing⟩
      | cons first others =>
          rw [List.length_cons] at size
          cases marked : isMark first with
          | true =>
              by_cases again : first ∈ others
              · rcases List.eq_append_cons_of_mem again with ⟨inner, rest, split, lacks⟩
                have less : rest.length < length := by
                  rw [← size, split, List.length_append, List.length_cons]
                  omega
                rcases shorter _ less rest rfl with ⟨text, onward⟩
                refine ⟨inner ++ text, ?_⟩
                have written : first :: others = enclose first inner ++ rest := by
                  rw [split, enclose, List.cons_append, List.append_assoc, List.singleton_append]
                rw [written]
                exact .span marked lacks onward
              · exact ⟨others, .unclosed marked again⟩
          | false =>
              rcases shorter others.length (by omega) others rfl with ⟨text, onward⟩
              cases wide : isBlank first with
              | true => exact ⟨text, .blank wide onward⟩
              | false => exact ⟨first :: text, .plain ⟨marked, wide⟩ onward⟩

/-- The tokens of a line, written one after the other, are what the line tells. -/
theorem flatten_scan_iff {line text : List Char} :
    (scan line).flatten = text ↔ Tells line text := by
  rcases exists_tells line with ⟨told, tells⟩
  have whole : (scan line).flatten = told := flatten_scanFrom_of_tells tells []
  constructor
  · intro same
    rw [← same, whole]
    exact tells
  · intro other
    exact flatten_scanFrom_of_tells other []

/-! ## Words and single spaces -/

/-- Words with single spaces between them are scanned as themselves. -/
theorem scan_intercalate {words : List (List Char)}
    (each : ∀ word ∈ words, word ≠ [] ∧ ∀ character ∈ word, IsPlain character) :
    scan ([' '].intercalate words) = words := by
  induction words with
  | nil => rfl
  | cons word others inductionHypothesis =>
      rcases List.forall_mem_cons.mp each with ⟨⟨filled, plain⟩, later⟩
      cases others with
      | nil =>
          rw [List.intercalate_singleton]
          exact scan_of_plain filled plain
      | cons second more =>
          rw [List.intercalate_cons_cons, List.append_assoc,
            scan_word_gap filled plain (List.cons_ne_nil _ _) (List.forall_mem_singleton.mpr rfl),
            inductionHypothesis later]

/-- A line is cut at its separators and loses nothing else.  Behind a part that leaves no span open
it may be cut at any blank, and without one in front of a quote mark or behind a closing mark.  Its
tokens together are the line without the blanks outside of the quoted spans and without the marks
that delimit these.  Tokens that are words are found again when single spaces are set between
them. -/
theorem scan_cuts_at_separators :
    (∀ front back : List Char, quotingAfter .outside front = .outside →
        (∀ blank, isBlank blank = true →
          scan (front ++ blank :: back) = scan front ++ scan back) ∧
        ((∃ mark rest, isMark mark = true ∧ back = mark :: rest) ∨ Closes front →
          scan (front ++ back) = scan front ++ scan back)) ∧
      (∀ line text : List Char, (scan line).flatten = text ↔ Tells line text) ∧
      ∀ line : List Char, (∀ token ∈ scan line, token ≠ [] ∧ ∀ character ∈ token,
          IsPlain character) →
        scan ([' '].intercalate (scan line)) = scan line := by
  refine ⟨fun front back closed => ⟨?_, ?_⟩, fun _ _ => flatten_scan_iff, ?_⟩
  · intro blank wide
    exact scan_append_blank closed wide back
  · rintro (⟨mark, rest, quotes, rfl⟩ | closes)
    · exact scan_append_mark closed quotes rest
    · exact scan_append_of_closes closes back
  · intro line words
    exact scan_intercalate words

/-- A word and a span that touch, cut from a span that is left open: at a wide space, in front of
the opening mark and behind the closing one.  And two words between more blanks than are needed. -/
theorem scan_cuts_at_separators_of_touching :
    quotingAfter .outside "say\"it's \"".toList = .outside ∧
      scan "say\"it's \"\u3000'now".toList =
        ["say".toList, "it's ".toList] ++ scan "'now".toList ∧
      scan "say'now".toList = ["say".toList] ++ scan "'now".toList ∧
      scan "say\"it's \"now".toList = ["say".toList, "it's ".toList] ++ scan "now".toList ∧
      Tells "say\"it's \"\u3000'now".toList "sayit's now".toList ∧
      scan "\ta  b ".toList = [['a'], ['b']] ∧
      scan "a b".toList = [['a'], ['b']] := by
  have closed : quotingAfter .outside "say\"it's \"".toList = .outside := by decide
  have scanned : scan "\ta  b ".toList = [['a'], ['b']] := by decide
  rcases scan_cuts_at_separators with ⟨cuts, tells, again⟩
  refine ⟨closed, ?_, ?_, ?_, (tells _ _).mp (by decide), scanned, ?_⟩
  · exact (cuts _ "'now".toList closed).1 '\u3000' (by decide)
  · exact (cuts "say".toList _ (by decide)).2 (Or.inl ⟨'\'', "now".toList, rfl, rfl⟩)
  · exact (cuts _ "now".toList closed).2
      (Or.inr ⟨"say\"it's ".toList, '"', rfl, by decide⟩)
  · have words : ∀ token ∈ scan "\ta  b ".toList,
        token ≠ [] ∧ ∀ character ∈ token, IsPlain character := by
      rw [scanned]
      exact List.forall_mem_cons.mpr
        ⟨⟨by decide, List.forall_mem_singleton.mpr (by decide)⟩, List.forall_mem_singleton.mpr
          ⟨by decide, List.forall_mem_singleton.mpr (by decide)⟩⟩
    have joined := again _ words
    rw [scanned] at joined
    exact joined

end Token

end Workbench
