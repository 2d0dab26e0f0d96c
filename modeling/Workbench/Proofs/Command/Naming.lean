import Workbench.Proofs.Command.Requirements
import Workbench.Proofs.Command.Scanning
import Mathlib.Data.Bool.AllAny
namespace Workbench

/-!
# The name in front of the operands

The tool of a command is found by the first word of its text, and its operands are the
tokens behind the first one.  Word and token are not the same thing: a word ends at a
blank, and a token also at a quoted span.  They agree on a name exactly if the name is
one whole token, which is to say that it has no quote mark, or that it is a quoted text
and nothing else.  Any other name spills over.  Its later parts become operands, or it
leaves a quote open that takes the operands in.
-/

namespace Token

/-- The text is a token as a whole, and leaves no quote open. -/
inductive Whole : List Char → Prop where
  | unquoted {word : List Char} (unmarked : ∀ character ∈ word, isMark character = false) :
      Whole word
  | quoted {mark : Char} {text : List Char} (quotes : isMark mark = true) (lacks : mark ∉ text) :
      Whole (enclose mark text)

/-! ## Whole names -/

/-- Behind a whole word and a blank, a scan starts afresh. -/
theorem exists_scan_of_whole {word : List Char} (whole : Whole word) (filled : word ≠ [])
    (solid : ∀ character ∈ word, isBlank character = false) :
    ∃ token, scan word = [token] ∧
      ∀ blank rest, isBlank blank = true → scan (word ++ blank :: rest) = token :: scan rest := by
  cases whole with
  | unquoted unmarked =>
      have plain : ∀ character ∈ word, IsPlain character :=
        fun character member => ⟨unmarked character member, solid character member⟩
      refine ⟨word, scan_of_plain filled plain, ?_⟩
      intro blank rest wide
      exact scan_word_gap filled plain (List.cons_ne_nil blank [])
        (List.forall_mem_singleton.mpr wide) rest
  | @quoted mark text quotes lacks =>
      refine ⟨text, ?_, ?_⟩
      · have scanned := scanFrom_enclose quotes lacks [] []
        rw [List.append_nil] at scanned
        rw [scan, scanned]
        rfl
      · intro blank rest wide
        rw [scan, scanFrom_enclose quotes lacks, scanFrom_blank wide]
        rfl

/-! ## Names that spill over -/

/-- A span that is never closed is held to the end. -/
theorem scanFrom_inside_open {mark : Char} {text : List Char} (lacks : mark ∉ text)
    (held : List Char) : scanFrom (.inside mark) held text = [held.reverse ++ text] := by
  induction text generalizing held with
  | nil => rw [scanFrom, List.append_nil]
  | cons first others inductionHypothesis =>
      rw [List.mem_cons, not_or] at lacks
      have different : first ≠ mark := fun same => lacks.1 same.symm
      rw [scanFrom, if_neg different, inductionHypothesis lacks.2]
      simp

theorem scanFrom_inside_ne_nil (mark : Char) (held text : List Char) :
    scanFrom (.inside mark) held text ≠ [] := by
  induction text generalizing held with
  | nil => exact List.cons_ne_nil _ _
  | cons first others inductionHypothesis =>
      rw [scanFrom]
      split
      · exact List.cons_ne_nil _ _
      · exact inductionHypothesis (first :: held)

/-- The first quote mark of a line ends what is held and opens a span. -/
theorem scan_of_mark {front : List Char} (plain : ∀ character ∈ front, IsPlain character)
    {mark : Char} (quotes : isMark mark = true) (back : List Char) :
    scan (front ++ mark :: back) = flush front.reverse ++ scanFrom (.inside mark) [] back := by
  rw [scan, scanFrom_plain plain, List.append_nil, scanFrom, quotes, if_pos rfl]

/-- A word is plain, or it has a first quote mark. -/
theorem plain_or_exists_mark {word : List Char}
    (solid : ∀ character ∈ word, isBlank character = false) :
    (∀ character ∈ word, IsPlain character) ∨
      ∃ front mark back, word = front ++ mark :: back ∧
        (∀ character ∈ front, IsPlain character) ∧ isMark mark = true := by
  cases found : word.find? isMark with
  | none =>
      apply Or.inl
      intro character member
      exact ⟨Bool.eq_false_iff.mpr (List.find?_eq_none.mp found character member),
        solid character member⟩
  | some mark =>
      rcases List.find?_eq_some_iff_append.mp found with ⟨quotes, front, back, split, unmarked⟩
      refine Or.inr ⟨front, mark, back, split, ?_, quotes⟩
      intro character member
      have inWord : character ∈ word := by
        rw [split]
        exact List.mem_append_left _ member
      exact ⟨by simpa using unmarked character member, solid character inWord⟩

theorem scan_ne_nil_of_solid {word : List Char} (filled : word ≠ [])
    (solid : ∀ character ∈ word, isBlank character = false) : scan word ≠ [] := by
  rcases plain_or_exists_mark solid with plain | ⟨front, mark, back, split, plain, quotes⟩
  · rw [scan_of_plain filled plain]
    exact List.cons_ne_nil word []
  · rw [split, scan_of_mark plain quotes]
    intro none
    exact scanFrom_inside_ne_nil mark [] back (List.append_eq_nil_iff.mp none).2

/-- A word that is not whole gives a token too many, or it leaves a quote open that takes
in what comes behind it. -/
theorem spill_of_not_whole {word : List Char}
    (solid : ∀ character ∈ word, isBlank character = false) (broken : ¬ Whole word) :
    (∃ token later, scan word = token :: later ∧ later ≠ []) ∨
      ∃ token, scan (word ++ [' ', 'x']) = [token] := by
  rcases plain_or_exists_mark solid with plain | ⟨front, mark, back, split, plain, quotes⟩
  · exact absurd (Whole.unquoted (fun character member => (plain character member).1)) broken
  · cases front with
    | cons first others =>
        -- the span comes behind what stands in front of it
        refine Or.inl ⟨first :: others, scanFrom (.inside mark) [] back, ?_,
          scanFrom_inside_ne_nil mark [] back⟩
        rw [split, scan_of_mark plain quotes, flush_reverse (List.cons_ne_nil first others)]
        rfl
    | nil =>
        by_cases closed : mark ∈ back
        · -- what comes behind the closed span is not empty, for the word is not whole
          rcases List.eq_append_cons_of_mem closed with ⟨body, rest, shape, lacks⟩
          have more : rest ≠ [] := by
            intro none
            apply broken
            rw [split, shape, none]
            exact Whole.quoted quotes lacks
          have solidRest : ∀ character ∈ rest, isBlank character = false := by
            intro character member
            apply solid
            rw [split, shape]
            exact List.mem_cons_of_mem mark
              (List.mem_append_right body (List.mem_cons_of_mem mark member))
          refine Or.inl ⟨body, scan rest, ?_, scan_ne_nil_of_solid more solidRest⟩
          rw [split, shape, scan_of_mark plain quotes, scanFrom_inside_of_not_mem body lacks]
          rfl
        · have lacks : mark ∉ back ++ [' ', 'x'] := by
            rw [List.mem_append, not_or]
            refine ⟨closed, ?_⟩
            intro member
            rcases List.mem_pair.mp member with space | letter
            · rw [space] at quotes
              exact absurd quotes (by decide)
            · rw [letter] at quotes
              exact absurd quotes (by decide)
          refine Or.inr ⟨back ++ [' ', 'x'], ?_⟩
          rw [split, List.nil_append, List.cons_append]
          have scanned := scan_of_mark plain quotes (back ++ [' ', 'x'])
          rw [List.nil_append] at scanned
          rw [scanned, scanFrom_inside_open lacks]
          rfl

end Token

namespace Reading

/-! ## Reading behind a name -/

/-- A text that does not end in a blank. -/
def EndsSolid (text : String) : Prop :=
  ∀ last, text.toList.getLast? = some last → isBlank last = false

theorem endsSolid_of_last {text : String} {last : Char} (ends : text.toList.getLast? = some last)
    (solid : isBlank last = false) : EndsSolid text := by
  intro other here
  rw [ends] at here
  rw [← Option.some.inj here, solid]

/-- The text of a command: its name, a space and the rest. -/
def commandText (name rest : String) : String :=
  name ++ " " ++ rest

theorem toList_commandText (name rest : String) :
    (commandText name rest).toList = name.toList ++ ' ' :: rest.toList := by
  simp [commandText]

theorem read_of_markless {find : String → Option Definition} {text : String}
    {definition : Definition} (named : named? find text.toList = some definition)
    (unmarked : definition.endMark = none) :
    read find text = (single definition (Text.trim text.toList)).map some := by
  rcases exists_lines_of_named named with ⟨first, others, written, namedFirst⟩
  exact read_of_singleLine (.whole written namedFirst (Or.inl unmarked))

theorem named?_commandText {find : String → Option Definition} {definition : Definition}
    {name : String} (found : find name = some definition) (filled : name.toList ≠ [])
    (solid : ∀ character ∈ name.toList, isBlank character = false) (rest : String) :
    named? find (commandText name rest).toList = some definition := by
  have leads : Text.leading (name.toList ++ ' ' :: rest.toList) = name.toList := by
    rw [Text.leading_append_blank _ (by decide), Text.leading_of_solid solid]
  rw [named?, toList_commandText, Text.firstWord?_of_leading leads filled, Option.bind_some,
    String.ofList_toList, found]

/-- Without a rest, the name is left of the text. -/
theorem trim_commandText_empty {name : String} (filled : name.toList ≠ [])
    (solid : ∀ character ∈ name.toList, isBlank character = false) :
    Text.trim (commandText name "").toList = name.toList := by
  rw [toList_commandText, Text.trim_append_wide name.toList (by decide),
    (Text.isCore_of_solid filled solid).trim]

theorem trim_commandText {name rest : String} (filled : name.toList ≠ [])
    (solid : ∀ character ∈ name.toList, isBlank character = false) (more : rest ≠ "")
    (ends : EndsSolid rest) :
    Text.trim (commandText name rest).toList = name.toList ++ ' ' :: rest.toList := by
  rw [toList_commandText]
  apply Text.trim_of_solid_word filled solid
  have letters : rest.toList ≠ [] := mt String.toList_eq_nil_iff.mp more
  have last := List.getLast?_eq_some_getLast letters
  refine ⟨rest.toList.getLast letters, ?_, ends _ last⟩
  rw [List.getLast?_append, List.getLast?_cons, last]
  rfl

/-! ## A tool that tells whether it got operands -/

/-- A definition with this name and one argument, which may be left out. -/
def probe (name : String) : Definition where
  name := name
  signature := name
  summary := ""
  parameters := [⟨"text", "string", "", false⟩]
  endMark := none

theorem defect?_probe {name : String} (filled : name.toList ≠ [])
    (solid : ∀ character ∈ name.toList, isBlank character = false) :
    (probe name).defect? = none := by
  have named : Text.isBlankOnly name.toList = false := by
    rcases List.exists_cons_of_ne_nil filled with ⟨first, others, shape⟩
    rw [Text.isBlankOnly, List.all_eq_false]
    refine ⟨first, by rw [shape]; exact List.mem_cons_self, ?_⟩
    rw [solid first (by rw [shape]; exact List.mem_cons_self)]
    decide
  have blankless : name.toList.any isBlank = false := by
    rw [List.any_eq_false]
    intro character member
    rw [solid character member]
    decide
  have lines : ∀ text ∈ (probe name).singleLines, '\n' ∉ text.toList := by
    intro text member
    have listed : text ∈ [name, "", ""] := member
    simp only [List.mem_cons, List.not_mem_nil, or_false] at listed
    rcases listed with same | same | same
    · rw [same]
      exact Text.lineFeed_not_mem_of_solid solid
    · rw [same]
      decide
    · rw [same]
      decide
  exact Definition.defect?_eq_none named blankless named lines

/-- A catalog with the probe alone. -/
def probing (Action : Type) [Inhabited Action] (name : String) : Catalog Action :=
  Catalog.empty.put ⟨probe name, default⟩

theorem mem_probing (Action : Type) [Inhabited Action] (name : String) :
    (⟨probe name, default⟩ : Tool Action) ∈ (probing Action name).tools :=
  List.mem_cons_self

theorem resolve_probe_nil (name : String) :
    resolve (probe name) [] = .ok ⟨name, Dictionary.empty⟩ := rfl

/-- Operands show in the arguments of the probe. -/
theorem resolve_probe_ne {tokens : List String} (given : tokens ≠ []) (name : String) :
    resolve (probe name) tokens ≠ .ok ⟨name, Dictionary.empty⟩ := by
  intro resolved
  rcases List.exists_cons_of_ne_nil given with ⟨token, later, shape⟩
  unfold resolve at resolved
  simp only [sort_eq] at resolved
  split at resolved
  · cases resolved
  · rename_i filled surplus filling
    have nothing : ∀ key, ¬ filled.contains key = true := by
      intro key held
      have kept := contains_absorb (probe name) (Dictionary.ofList (flags tokens)) held surplus
      rw [(Invocation.mk.inj (Except.ok.inj resolved)).2] at kept
      cases kept
    rw [shape] at filling
    by_cases flag : IsFlag token
    · have held :
          (Dictionary.ofList (flags (token :: later))).contains (undashed token) = true := by
        rw [contains_flagged, flagged?, flags_cons, if_pos flag, List.singleton_append,
          Entry.values_cons_self, List.getLast?_cons]
        rfl
      exact nothing (undashed token) (contains_of_fill filling held)
    · rw [words_of_word flag] at filling
      by_cases has : (Dictionary.ofList (flags (token :: later))).contains "text" = true
      · exact nothing "text" (contains_of_fill filling has)
      · rw [probe, fill_of_word _ has] at filling
        apply nothing "text"
        apply contains_of_fill filling
        rw [Dictionary.contains_insert, beq_self_eq_true, Bool.true_or]

/-! ## The name consumed -/

variable {Action : Type}

/-- Reading the text of a command resolves what is left of its tokens without the first. -/
theorem read_commandText {catalog : Catalog Action} {tool : Tool Action}
    (member : tool ∈ catalog.tools) (filled : tool.name.toList ≠ [])
    (solid : ∀ character ∈ tool.name.toList, isBlank character = false)
    (unmarked : tool.definition.endMark = none) (rest : String) :
    read catalog.find? (commandText tool.name rest) =
      (resolve tool.definition
        (operands (Text.trim (commandText tool.name rest).toList))).map some := by
  have found := Catalog.find?_of_mem member
  rw [read_of_markless (named?_commandText found filled solid rest) unmarked, single]

/-- Behind a whole name stand the tokens of the rest. -/
theorem operands_of_whole {name : String} (filled : name.toList ≠ [])
    (solid : ∀ character ∈ name.toList, isBlank character = false)
    (whole : Token.Whole name.toList) {rest : String} (ends : EndsSolid rest) :
    operands (Text.trim (commandText name rest).toList) =
      (Token.scan rest.toList).map String.ofList := by
  rcases Token.exists_scan_of_whole whole filled solid with ⟨token, alone, afresh⟩
  by_cases none : rest = ""
  · rw [none, trim_commandText_empty filled solid, operands, alone]
    rfl
  · rw [trim_commandText filled solid none ends, operands, afresh ' ' rest.toList (by decide)]
    rfl

/-- Behind a name that is no whole token, a rest has its tokens changed from none to some
or from some to none. -/
theorem exists_spill {name : String} (filled : name.toList ≠ [])
    (solid : ∀ character ∈ name.toList, isBlank character = false)
    (broken : ¬ Token.Whole name.toList) :
    ∃ rest, EndsSolid rest ∧
      ((operands (Text.trim (commandText name rest).toList) ≠ [] ∧
          (Token.scan rest.toList).map String.ofList = []) ∨
        (operands (Text.trim (commandText name rest).toList) = [] ∧
          (Token.scan rest.toList).map String.ofList ≠ [])) := by
  rcases Token.spill_of_not_whole solid broken with ⟨token, later, scanned, more⟩ | ⟨token, scanned⟩
  · have ends : EndsSolid "" := fun last none => nomatch none
    refine ⟨"", ends, Or.inl ⟨?_, rfl⟩⟩
    rw [trim_commandText_empty filled solid, operands, scanned, List.drop_one, List.tail_cons]
    intro none
    exact more (List.map_eq_nil_iff.mp none)
  · have ends : EndsSolid "x" := endsSolid_of_last rfl (by decide)
    refine ⟨"x", ends, Or.inr ⟨?_, by decide⟩⟩
    have letters : "x".toList = ['x'] := rfl
    rw [trim_commandText filled solid (by decide) ends, letters, operands, scanned]
    rfl

/-- A registered name is taken off exactly, for every tool of this name and whatever comes
behind it, if and only if it is a whole token. -/
theorem read_commandText_iff (Action : Type) [Inhabited Action] {name : String}
    (filled : name.toList ≠ [])
    (solid : ∀ character ∈ name.toList, isBlank character = false) :
    (∀ catalog : Catalog Action, catalog.Built → ∀ tool ∈ catalog.tools, tool.name = name →
        tool.definition.endMark = none → ∀ rest, EndsSolid rest →
          read catalog.find? (commandText name rest) =
            (resolve tool.definition ((Token.scan rest.toList).map String.ofList)).map some) ↔
      Token.Whole name.toList := by
  constructor
  · intro consumed
    by_contra broken
    rcases exists_spill filled solid broken with ⟨rest, ends, changed⟩
    have built : (probing Action name).Built :=
      Catalog.Built.empty.put (defect?_probe filled solid)
    have seen := read_commandText (mem_probing Action name) filled solid rfl rest
    have agree : (resolve (probe name) (operands (Text.trim (commandText name rest).toList))).map
        some = (resolve (probe name) ((Token.scan rest.toList).map String.ofList)).map some :=
      seen.symm.trans (consumed _ built _ (mem_probing Action name) rfl rfl rest ends)
    -- the probe has arguments on one side and none on the other
    rcases changed with ⟨given, none⟩ | ⟨none, given⟩
    · rw [none, resolve_probe_nil] at agree
      exact resolve_probe_ne given name (eq_ok_of_map_some agree)
    · rw [none, resolve_probe_nil] at agree
      exact resolve_probe_ne given name (eq_ok_of_map_some agree.symm)
  · intro whole catalog built tool member same unmarked rest ends
    subst same
    rw [read_commandText member filled solid unmarked, operands_of_whole filled solid whole ends]

/-- A name in quotes, and behind it a quote that is left open. -/
theorem read_commandText_quoted :
    read (probing Unit "'say'").find? "'say' \"hi there" =
      .ok (some ⟨"'say'", Dictionary.empty.insert "text" "hi there"⟩) := by
  have whole : Token.Whole "'say'".toList := by
    have text : "'say'".toList = Token.enclose '\'' "say".toList := by rfl
    rw [text]
    exact .quoted (by decide) (by decide)
  have solid : ∀ character ∈ "'say'".toList, isBlank character = false :=
    List.all_iff_forall_prop.mp (by decide)
  have sound : (probe "'say'").defect? = none := defect?_probe (by decide) solid
  have ends : EndsSolid "\"hi there" := endsSolid_of_last rfl (by decide)
  have consumed := (read_commandText_iff Unit (by decide) solid).mpr whole _
    (Catalog.Built.empty.put sound) _ (mem_probing Unit "'say'") rfl rfl "\"hi there" ends
  exact consumed

/-- A quoted span in a name becomes the first operand, and the one that was given is
dropped. -/
theorem read_commandText_leaks :
    (probing Unit "say\"hi\"").Built ∧ EndsSolid "x" ∧
      read (probing Unit "say\"hi\"").find? (commandText "say\"hi\"" "x") =
        .ok (some ⟨"say\"hi\"", Dictionary.empty.insert "text" "hi"⟩) ∧
      resolve (probe "say\"hi\"") ((Token.scan "x".toList).map String.ofList) =
        .ok ⟨"say\"hi\"", Dictionary.empty.insert "text" "x"⟩ ∧
      (Dictionary.empty.insert "text" "hi").get? "text" ≠
        (Dictionary.empty.insert "text" "x").get? "text" := by
  have solid : ∀ character ∈ "say\"hi\"".toList, isBlank character = false :=
    List.all_iff_forall_prop.mp (by decide)
  have sound : (probe "say\"hi\"").defect? = none := defect?_probe (by decide) solid
  have ends : EndsSolid "x" := endsSolid_of_last rfl (by decide)
  exact ⟨Catalog.Built.empty.put sound, ends, by rfl, by rfl, by decide⟩

end Reading

end Workbench
