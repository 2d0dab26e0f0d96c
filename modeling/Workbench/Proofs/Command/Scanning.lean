import Workbench.Command.Reading
import Workbench.Proofs.Text.Decimal
namespace Workbench

/-!
# Scanning words and quoted spans

A scan takes characters that are neither blank nor a quote mark one by one into the
token that it holds.  A blank ends that token, and so does a quoted span, which is a
token of its own.  So a line that is a word followed by quoted spans, with blanks in
front of each, is scanned into the word and the texts of the spans, whatever stands
between the quotes.
-/

namespace Token

/-- The character neither ends a token nor begins a quoted span. -/
def IsPlain (character : Char) : Prop :=
  isMark character = false ∧ isBlank character = false

instance (character : Char) : Decidable (IsPlain character) :=
  inferInstanceAs (Decidable (_ ∧ _))

theorem isMark_of_ne {character : Char} (double : character ≠ '"') (single : character ≠ '\'') :
    isMark character = false := by
  rw [isMark, beq_false_of_ne double, beq_false_of_ne single]
  rfl

theorem isMark_of_isBlank {character : Char} (blank : isBlank character = true) :
    isMark character = false := by
  apply isMark_of_ne
  · intro same
    rw [same] at blank
    exact absurd blank (by decide)
  · intro same
    rw [same] at blank
    exact absurd blank (by decide)

/-- So written numbers are scanned as they stand. -/
theorem isPlain_of_isDigit {character : Char} (digit : character.isDigit = true) :
    IsPlain character := by
  refine ⟨?_, Decimal.isBlank_of_isDigit digit⟩
  apply isMark_of_ne
  · intro same
    rw [same] at digit
    exact absurd digit (by decide)
  · intro same
    rw [same] at digit
    exact absurd digit (by decide)

theorem isPlain_of_mem_write {number : Nat} {character : Char}
    (member : character ∈ (Decimal.write number).toList) : IsPlain character :=
  isPlain_of_isDigit (Decimal.isDigit_of_mem_write member)

theorem scanFrom_plain {word : List Char} (plain : ∀ character ∈ word, IsPlain character)
    (held rest : List Char) :
    scanFrom .outside held (word ++ rest) = scanFrom .outside (word.reverse ++ held) rest := by
  induction word generalizing held with
  | nil => rfl
  | cons first others inductionHypothesis =>
      rcases List.forall_mem_cons.mp plain with ⟨⟨unmarked, solid⟩, plainOthers⟩
      rw [List.cons_append, scanFrom, unmarked, solid, if_neg (by decide), if_neg (by decide),
        inductionHypothesis plainOthers, List.reverse_cons, List.append_assoc,
        List.singleton_append]

theorem scanFrom_blank {blank : Char} (wide : isBlank blank = true) (held rest : List Char) :
    scanFrom .outside held (blank :: rest) = flush held ++ scanFrom .outside [] rest := by
  rw [scanFrom, isMark_of_isBlank wide, wide, if_neg (by decide), if_pos rfl]

theorem scanFrom_gap {gap : List Char} (filled : gap ≠ [])
    (wide : ∀ character ∈ gap, isBlank character = true) (held rest : List Char) :
    scanFrom .outside held (gap ++ rest) = flush held ++ scanFrom .outside [] rest := by
  induction gap generalizing held with
  | nil => exact absurd rfl filled
  | cons first others inductionHypothesis =>
      rcases List.forall_mem_cons.mp wide with ⟨here, later⟩
      rw [List.cons_append, scanFrom_blank here]
      cases others with
      | nil => rfl
      | cons second more =>
          rw [inductionHypothesis (List.cons_ne_nil second more) later]
          rfl

theorem scanFrom_enclose {mark : Char} (quotes : isMark mark = true) {text : List Char}
    (lacks : mark ∉ text) (held rest : List Char) :
    scanFrom .outside held (enclose mark text ++ rest) =
      flush held ++ text :: scanFrom .outside [] rest := by
  rw [enclose, List.cons_append, scanFrom, quotes, if_pos rfl, List.append_assoc,
    List.singleton_append, scanFrom_inside_of_not_mem text lacks]
  rfl

/-- A quoted text with blanks in front of it.  The text may be anything that the quote
mark is not in. -/
structure Span where
  gap : List Char
  mark : Char
  text : String
  filled : gap ≠ []
  wide : ∀ character ∈ gap, isBlank character = true
  quotes : isMark mark = true
  lacks : mark ∉ text.toList

def Span.written (span : Span) : List Char :=
  span.gap ++ enclose span.mark span.text.toList

theorem scanFrom_spans (held : List Char) (spans : List Span) :
    scanFrom .outside held (spans.flatMap Span.written) =
      flush held ++ spans.map (fun span => span.text.toList) := by
  induction spans generalizing held with
  | nil => simp [scanFrom]
  | cons span others inductionHypothesis =>
      rw [List.flatMap_cons, Span.written, List.append_assoc,
        scanFrom_gap span.filled span.wide, scanFrom_enclose span.quotes span.lacks,
        inductionHypothesis]
      rfl

theorem flush_reverse {word : List Char} (filled : word ≠ []) : flush word.reverse = [word] := by
  cases reversed : word.reverse with
  | nil => exact absurd (List.reverse_eq_nil_iff.mp reversed) filled
  | cons first rest =>
      have held : flush (first :: rest) = [(first :: rest).reverse] := rfl
      rw [held, ← reversed, List.reverse_reverse]

/-- Nothing, a blank or a quote mark stands here, so a token in front of it ends. -/
def Parted (rest : List Char) : Prop :=
  ∀ character, rest.head? = some character → isBlank character = true ∨ isMark character = true

/-- A word with blanks behind it is a token of its own. -/
theorem scan_word_gap {word gap : List Char} (filled : word ≠ [])
    (plain : ∀ character ∈ word, IsPlain character) (parts : gap ≠ [])
    (wide : ∀ character ∈ gap, isBlank character = true) (rest : List Char) :
    scan (word ++ (gap ++ rest)) = word :: scan rest := by
  rw [scan, scanFrom_plain plain, List.append_nil, scanFrom_gap parts wide, flush_reverse filled,
    List.singleton_append, scan]

theorem exists_scan_of_parted {word rest : List Char} (filled : word ≠ [])
    (plain : ∀ character ∈ word, IsPlain character) (parted : Parted rest) :
    ∃ later, scan (word ++ rest) = word :: later := by
  rw [scan, scanFrom_plain plain, List.append_nil]
  cases rest with
  | nil => exact ⟨[], by rw [scanFrom, flush_reverse filled]⟩
  | cons first others =>
      rcases parted first rfl with blank | mark
      · exact ⟨_, by rw [scanFrom_blank blank, flush_reverse filled, List.singleton_append]⟩
      · exact ⟨_, by rw [scanFrom, mark, if_pos rfl, flush_reverse filled, List.singleton_append]⟩

/-- A word is scanned as itself. -/
theorem scan_of_plain {word : List Char} (filled : word ≠ [])
    (plain : ∀ character ∈ word, IsPlain character) : scan word = [word] := by
  have scanned := scanFrom_plain plain [] []
  rw [List.append_nil, List.append_nil] at scanned
  rw [scan, scanned, scanFrom, flush_reverse filled]

theorem scan_write (number : Nat) :
    scan (Decimal.write number).toList = [(Decimal.write number).toList] :=
  scan_of_plain (Decimal.write_toList_ne_nil number) (fun _ => isPlain_of_mem_write)

end Token

namespace Reading

open Token (IsPlain Span)

/-- Behind the first word, the tokens are the quoted texts. -/
theorem operands_of_spans {word : List Char} (filled : word ≠ [])
    (plain : ∀ character ∈ word, IsPlain character) (spans : List Span) :
    operands (word ++ spans.flatMap Span.written) = spans.map Span.text := by
  have scanned : Token.scan (word ++ spans.flatMap Span.written) =
      word :: spans.map (fun span => span.text.toList) := by
    rw [Token.scan, Token.scanFrom_plain plain, List.append_nil, Token.scanFrom_spans,
      Token.flush_reverse filled]
    rfl
  have texts : String.ofList ∘ (fun span : Span => span.text.toList) = Span.text := by
    funext span
    exact String.ofList_toList
  rw [operands, scanned, List.drop_one, List.tail_cons, List.map_map, texts]

/-- Behind the first word and a blank, the tokens are those of the rest. -/
theorem operands_of_blank {word : List Char} (filled : word ≠ [])
    (plain : ∀ character ∈ word, IsPlain character) {blank : Char} (wide : isBlank blank = true)
    (rest : List Char) :
    operands (word ++ blank :: rest) = (Token.scan rest).map String.ofList := by
  rw [operands, Token.scan, Token.scanFrom_plain plain, List.append_nil, Token.scanFrom_blank wide,
    Token.flush_reverse filled, List.singleton_append, List.drop_one, List.tail_cons, Token.scan]

end Reading

end Workbench
