import Workbench.Proofs.Command.Forms
import Workbench.Proofs.Command.Registration
import Workbench.Proofs.Command.Scanning
import Workbench.Proofs.Command.Sorting
import Workbench.Proofs.Text.Words
namespace Workbench

/-!
# Spelling arguments out

Arguments can be written down so that reading gives exactly them back: every name as
a flag, every value behind its flag, and each of these tokens between quotes, with
blanks of any kind in front.  What a value holds does not matter as long as one of the
quote marks is not in it.  It may be empty, it may have blanks at its ends, and it may
have several lines, which are then lines of the command as well.  Only a value that
would be taken for a flag itself cannot be written in this way.
-/

namespace Reading

/-- The tokens that give these entries: a flag of each name, and the value behind it. -/
def spelled (entries : List (String × String)) : List String :=
  entries.flatMap (fun entry => ["--" ++ entry.1, entry.2])

/-- The entry can be given by a flag and a value behind it. -/
structure Spellable (entry : String × String) : Prop where
  named : entry.1 ≠ ""
  undashed : entry.1.toList.head? ≠ some '-'
  plain : ¬ IsFlag entry.2

theorem flagName?_spelled {name : String} (filled : name ≠ "")
    (first : name.toList.head? ≠ some '-') : flagName? ("--" ++ name) = some name := by
  have letters : ("--" ++ name).toList = '-' :: '-' :: name.toList := by
    rw [String.toList_append]
    rfl
  have kept : ("--" ++ name).toList.dropWhile (· == '-') = name.toList := by
    rw [letters, List.dropWhile_cons_of_pos (by decide), List.dropWhile_cons_of_pos (by decide)]
    cases shape : name.toList with
    | nil => rfl
    | cons head rest =>
        rw [shape] at first
        have different : head ≠ '-' := fun same => first (congrArg some same)
        rw [List.dropWhile_cons_of_neg (by simpa using different)]
  apply flagName?_eq_some_iff.mpr
  constructor
  · constructor
    · rw [letters]
      exact ⟨name.toList, rfl⟩
    · rw [kept]
      intro none
      exact filled (String.toList_eq_nil_iff.mp none)
  · rw [undashed, kept, String.ofList_toList]

/-- Spelled entries are sorted into just these flags, and no words. -/
theorem sort_spelled {entries : List (String × String)}
    (spellable : ∀ entry ∈ entries, Spellable entry) : sort (spelled entries) = ⟨entries, []⟩ := by
  induction entries with
  | nil => rfl
  | cons entry others inductionHypothesis =>
      rcases List.forall_mem_cons.mp spellable with ⟨⟨named, undashed, plain⟩, later⟩
      have shown := sort_pair (flagName?_spelled named undashed) (flagName?_of_not_isFlag plain)
        (spelled others)
      rw [inductionHypothesis later] at shown
      exact shown

/-- Without words nothing is filled in, and nothing has to be if no required argument
is missing. -/
theorem fill_of_complete (tool : String) {parameters : List Parameter} {arguments : Arguments}
    (complete : ∀ parameter ∈ parameters, parameter.required = true →
      arguments.contains parameter.name = true) :
    fill tool parameters arguments [] = .ok (arguments, []) := by
  induction parameters with
  | nil => rfl
  | cons parameter others inductionHypothesis =>
      rcases List.forall_mem_cons.mp complete with ⟨here, later⟩
      rw [fill.eq_def]
      cases held : arguments.contains parameter.name with
      | true =>
          simp only [held, if_true]
          exact inductionHypothesis later
      | false =>
          have optional : parameter.required = false := by
            cases required : parameter.required with
            | false => rfl
            | true =>
                rw [here required] at held
                cases held
          simp only [held, optional, Bool.false_eq_true, if_false]
          exact inductionHypothesis later

theorem resolve_spelled {definition : Definition} {arguments : Arguments}
    (complete : ∀ parameter ∈ definition.parameters, parameter.required = true →
      arguments.contains parameter.name = true)
    {entries : List (String × String)} (order : entries.Perm arguments.entries)
    (spellable : ∀ entry ∈ entries, Spellable entry) :
    resolve definition (spelled entries) = .ok ⟨definition.name, arguments⟩ := by
  have flags : Dictionary.ofList entries = arguments := Dictionary.ofList_of_perm order
  simp only [resolve, sort_spelled spellable, flags, fill_of_complete definition.name complete]
  rfl

open Token (Span)

/-- What follows a word in a line of quoted spans begins with a blank. -/
theorem apart_spans (spans : List Span) : Text.Apart (spans.flatMap Span.written) := by
  cases spans with
  | nil => exact fun character first => nomatch first
  | cons span others =>
      rw [List.flatMap_cons, Span.written, List.append_assoc]
      exact Text.apart_of_gap span.filled span.wide _

/-- A line of a word and quoted spans ends solid. -/
theorem exists_last_solid {word : List Char} (filled : word ≠ [])
    (solid : ∀ character ∈ word, isBlank character = false) (spans : List Span) :
    ∃ last, (word ++ spans.flatMap Span.written).getLast? = some last ∧ isBlank last = false := by
  rcases List.eq_nil_or_concat spans with none | ⟨front, span, split⟩
  · rw [none, List.flatMap_nil, List.append_nil]
    exact Text.exists_last_of_solid filled solid
  · refine ⟨span.mark, ?_, ?_⟩
    · rw [split, List.concat_eq_append, List.flatMap_append, List.flatMap_singleton, Span.written,
        Token.enclose, ← List.cons_append, ← List.append_assoc, ← List.append_assoc,
        ← List.append_assoc, List.getLast?_concat]
    · cases blank : isBlank span.mark with
      | false => rfl
      | true =>
          have quotes := span.quotes
          rw [Token.isMark_of_isBlank blank] at quotes
          cases quotes

variable {Action : Type}

/-- A word that names a tool without an end mark, followed by quoted spans: the tokens
of the spans are resolved. -/
theorem read_of_spans {catalog : Catalog Action} (built : catalog.Built) {tool : Tool Action}
    (registered : tool ∈ catalog.tools) (unmarked : tool.definition.endMark = none)
    (unquoted : ∀ character ∈ tool.name.toList, Token.isMark character = false)
    (spans : List Span) :
    read catalog.find? (String.ofList (tool.name.toList ++ spans.flatMap Span.written)) =
      (resolve tool.definition (spans.map Span.text)).map some := by
  rcases built.solid_name registered with ⟨filled, solid⟩
  have plain : ∀ character ∈ tool.name.toList, Token.IsPlain character :=
    fun character member => ⟨unquoted character member, solid character member⟩
  have text : (String.ofList (tool.name.toList ++ spans.flatMap Span.written)).toList =
      tool.name.toList ++ spans.flatMap Span.written := String.toList_ofList
  have trimmed := Text.trim_of_solid_word filled solid (exists_last_solid filled solid spans)
  cases written : Text.lines (tool.name.toList ++ spans.flatMap Span.written) with
  | nil =>
      rw [Text.lines_eq_nil_iff, List.append_eq_nil_iff] at written
      exact absurd written.1 filled
  | cons first others =>
      have named : named? catalog.find? first = some tool.definition := by
        rw [named?, Text.firstWord?_of_lines filled solid (apart_spans spans) written,
          Option.bind_some, String.ofList_toList]
        exact Catalog.find?_of_mem registered
      have lines : Text.lines (Text.trim (String.ofList
          (tool.name.toList ++ spans.flatMap Span.written)).toList) = first :: others := by
        rw [text, trimmed, written]
      rw [read_of_singleLine (SingleLine.whole lines named (Or.inl unmarked)), single, text,
        trimmed, operands_of_spans filled plain]

/-- Arguments that hold all required ones are read back as they were spelled out, in
any order of the entries, between any blanks and with any quote marks that fit. -/
theorem read_of_spelled {catalog : Catalog Action} (built : catalog.Built) {tool : Tool Action}
    (registered : tool ∈ catalog.tools) (unmarked : tool.definition.endMark = none)
    (unquoted : ∀ character ∈ tool.name.toList, Token.isMark character = false)
    {arguments : Arguments}
    (complete : ∀ parameter ∈ tool.definition.parameters, parameter.required = true →
      arguments.contains parameter.name = true)
    (spellable : ∀ entry ∈ arguments.entries, Spellable entry)
    {entries : List (String × String)} (order : entries.Perm arguments.entries)
    {spans : List Span} (spelling : spans.map Span.text = spelled entries) :
    read catalog.find? (String.ofList (tool.name.toList ++ spans.flatMap Span.written)) =
      .ok (some ⟨tool.name, arguments⟩) := by
  have each : ∀ entry ∈ entries, Spellable entry :=
    fun entry member => spellable entry (order.mem_iff.mp member)
  rw [read_of_spans built registered unmarked unquoted, spelling,
    resolve_spelled complete order each]
  rfl

/-- A value in several lines, and one with a quote mark in it, given before the other
in spite of the order of their names. -/
theorem read_of_spelled_lines :
    read Sample.searching.find?
        "search_dir\t\"--search_term\" \"it's\"\n'--dir' ' a\n'" =
      .ok (some ⟨"search_dir",
        (Dictionary.empty.insert "dir" " a\n").insert "search_term" "it's"⟩) := by
  have spellable : ∀ entry ∈ [("dir", " a\n"), ("search_term", "it's")], Spellable entry := by
    intro entry member
    rcases List.mem_pair.mp member with rfl | rfl
    · exact ⟨by decide, by decide, by decide⟩
    · exact ⟨by decide, by decide, by decide⟩
  have order : [("search_term", "it's"), ("dir", " a\n")].Perm
      [("dir", " a\n"), ("search_term", "it's")] := List.Perm.swap _ _ _
  have spelling :
      [(⟨['\t'], '"', "--search_term", by decide, List.forall_mem_singleton.mpr rfl, rfl,
            by decide⟩ : Span),
          ⟨[' '], '"', "it's", by decide, List.forall_mem_singleton.mpr rfl, rfl, by decide⟩,
          ⟨['\n'], '\'', "--dir", by decide, List.forall_mem_singleton.mpr rfl, rfl, by decide⟩,
          ⟨[' '], '\'', " a\n", by decide, List.forall_mem_singleton.mpr rfl, rfl,
            by decide⟩].map Span.text =
        spelled [("search_term", "it's"), ("dir", " a\n")] := by rfl
  have arguments : ((Dictionary.empty.insert "dir" " a\n").insert "search_term" "it's").entries =
      [("dir", " a\n"), ("search_term", "it's")] := by rfl
  have unquoted : ∀ character ∈ "search_dir".toList, Token.isMark character = false := by
    intro character member
    have none : "search_dir".toList.any Token.isMark = false := by decide
    exact Bool.eq_false_iff.mpr (List.any_eq_false.mp none character member)
  exact read_of_spelled Sample.built_searching List.mem_cons_self rfl unquoted (by decide)
    (arguments ▸ spellable) (arguments ▸ order) spelling

end Reading

end Workbench
