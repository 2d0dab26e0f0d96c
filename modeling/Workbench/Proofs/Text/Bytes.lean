import Mathlib.Tactic.SplitIfs
namespace Workbench

/-!
# The bytes of a text

A character of ASCII is encoded as one byte, which is its code.  Any other character is encoded
as bytes from 128 on, none of which is larger than 247.  So a character of ASCII is found in the
bytes of a text exactly where it stands in the text.  A whole text is found there too only where
it stands, because the first byte of a character tells that a character begins.
-/

namespace Text

/-- The bytes of a text, character after character. -/
def encoded (text : List Char) : List UInt8 :=
  text.flatMap String.utf8EncodeChar

theorem toList_toUTF8 (text : String) : text.toUTF8.data.toList = encoded text.toList := by
  have bytes : text.toUTF8 = List.utf8Encode text.toList := by
    rw [String.toUTF8_eq_toByteArray, ← String.toByteArray_ofList, String.ofList_toList]
  rw [bytes, List.utf8Encode, List.data_toByteArray]
  rfl

theorem encoded_cons (first : Char) (rest : List Char) :
    encoded (first :: rest) = String.utf8EncodeChar first ++ encoded rest :=
  List.flatMap_cons

theorem encoded_append (front back : List Char) :
    encoded (front ++ back) = encoded front ++ encoded back :=
  List.flatMap_append

/-- How a character is encoded: by its code, or by larger bytes. -/
theorem utf8EncodeChar_cases (character : Char) :
    character.toNat < 128 ∧ String.utf8EncodeChar character = [UInt8.ofNat character.toNat] ∨
      128 ≤ character.toNat ∧
        ∀ byte ∈ String.utf8EncodeChar character, 128 ≤ byte.toNat ∧ byte.toNat < 248 := by
  have code : character.toNat = character.val.toNat := rfl
  have size := character.val.toNat_lt
  rw [String.utf8EncodeChar]
  by_cases ascii : character.val.toNat ≤ 127
  · exact Or.inl ⟨by omega, by rw [if_pos ascii, code]⟩
  · refine Or.inr ⟨by omega, ?_⟩
    rw [if_neg ascii]
    intro byte member
    split at member
    · simp only [List.mem_cons, List.not_mem_nil, or_false] at member
      rcases member with rfl | rfl <;> rw [UInt8.toNat_ofNat'] <;> omega
    · split at member
      · simp only [List.mem_cons, List.not_mem_nil, or_false] at member
        rcases member with rfl | rfl | rfl <;> rw [UInt8.toNat_ofNat'] <;> omega
      · simp only [List.mem_cons, List.not_mem_nil, or_false] at member
        rcases member with rfl | rfl | rfl | rfl <;> rw [UInt8.toNat_ofNat'] <;> omega

/-- Among the bytes of a character, the code of a character of ASCII stands for this character. -/
theorem ascii_mem_utf8EncodeChar_iff {mark : Char} (ascii : mark.toNat < 128) {character : Char} :
    UInt8.ofNat mark.toNat ∈ String.utf8EncodeChar character ↔ character = mark := by
  have code : (UInt8.ofNat mark.toNat).toNat = mark.toNat := by
    rw [UInt8.toNat_ofNat']
    omega
  rcases utf8EncodeChar_cases character with ⟨small, single⟩ | ⟨large, bounds⟩
  · rw [single, List.mem_singleton]
    constructor
    · intro same
      have codes := congrArg UInt8.toNat same
      rw [code, UInt8.toNat_ofNat', Nat.mod_eq_of_lt (by omega)] at codes
      exact Char.toNat_inj.mp codes.symm
    · intro same
      rw [same]
  · constructor
    · intro member
      have larger := (bounds _ member).1
      omega
    · intro same
      rw [same] at large
      omega

theorem ascii_mem_encoded_iff {mark : Char} (ascii : mark.toNat < 128) {text : List Char} :
    UInt8.ofNat mark.toNat ∈ encoded text ↔ mark ∈ text := by
  rw [encoded, List.mem_flatMap]
  constructor
  · rintro ⟨character, member, among⟩
    rw [← (ascii_mem_utf8EncodeChar_iff ascii).mp among]
    exact member
  · intro member
    exact ⟨mark, member, (ascii_mem_utf8EncodeChar_iff ascii).mpr rfl⟩

/-- Some bytes stand in no text. -/
theorem toNat_lt_of_mem_encoded {text : List Char} {byte : UInt8} (member : byte ∈ encoded text) :
    byte.toNat < 248 := by
  rcases List.mem_flatMap.mp member with ⟨character, _, among⟩
  rcases utf8EncodeChar_cases character with ⟨small, single⟩ | ⟨_, bounds⟩
  · rw [single, List.mem_singleton] at among
    rw [among, UInt8.toNat_ofNat']
    omega
  · exact (bounds byte among).2

/-! ## One text inside of another -/

theorem prefix_encoded_iff {term text : List Char} :
    encoded term <+: encoded text ↔ term <+: text := by
  constructor
  · rintro ⟨rest, whole⟩
    have split : List.utf8Encode term ++ rest.toByteArray = text.utf8Encode := by
      rw [List.utf8Encode, List.utf8Encode, ← List.toByteArray_append]
      exact congrArg List.toByteArray whole
    exact List.isPrefix_of_utf8Encode_append_eq_utf8Encode _ split
  · rintro ⟨rest, rfl⟩
    rw [encoded_append]
    exact List.prefix_append _ _

/-- A byte in the bytes of a character begins a character only if it is the first one. -/
theorem eq_nil_of_begins {character letter : Char} {front more back : List UInt8}
    {rest : List UInt8} (inside : String.utf8EncodeChar character = front ++ more)
    (filled : more ≠ []) (begins : String.utf8EncodeChar letter ++ rest = more ++ back) :
    front = [] := by
  obtain ⟨byte, others, shape⟩ := List.exists_cons_of_ne_nil filled
  obtain ⟨start, continued, letterShape⟩ :=
    List.exists_cons_of_ne_nil (String.utf8EncodeChar_ne_nil (c := letter))
  rw [shape, letterShape, List.cons_append, List.cons_append, List.cons.injEq] at begins
  have isFirst : start.IsUTF8FirstByte := by
    have zero : 0 < (String.utf8EncodeChar letter).length := by
      rw [letterShape]
      exact Nat.zero_lt_succ _
    have there : (String.utf8EncodeChar letter)[0] = start := by
      simp only [letterShape, List.getElem_cons_zero]
    rw [← there]
    exact UInt8.isUTF8FirstByte_getElem_utf8EncodeChar.mpr rfl
  have bound : front.length < (String.utf8EncodeChar character).length := by
    rw [inside, shape, List.length_append, List.length_cons]
    omega
  have there : (String.utf8EncodeChar character)[front.length] = start := by
    simp only [inside, shape, begins.1]
    simp
  have zero : front.length = 0 := by
    apply UInt8.isUTF8FirstByte_getElem_utf8EncodeChar.mp
    rw [there]
    exact isFirst
  exact List.length_eq_zero_iff.mp zero

/-- The bytes of a text hold those of a term exactly where the text holds the term: no character
begins inside of another one. -/
theorem infix_encoded_iff {term text : List Char} :
    encoded term <:+: encoded text ↔ term <:+: text := by
  constructor
  · rintro ⟨front, back, whole⟩
    rw [List.append_assoc] at whole
    cases term with
    | nil => exact List.nil_infix
    | cons letter letters =>
        induction text generalizing front with
        | nil =>
            have none := (List.append_eq_nil_iff.mp (List.append_eq_nil_iff.mp whole).2).1
            rw [encoded_cons, List.append_eq_nil_iff] at none
            exact absurd none.1 String.utf8EncodeChar_ne_nil
        | cons first rest inductionHypothesis =>
            rw [encoded_cons first] at whole
            rcases List.append_eq_append_iff.mp whole with
              ⟨more, character, later⟩ | ⟨more, _, later⟩
            · by_cases filled : more = []
              · rw [filled, List.nil_append] at later
                have begins : letter :: letters <+: rest := prefix_encoded_iff.mp ⟨back, later⟩
                exact begins.isInfix.trans (List.suffix_cons first rest).isInfix
              · rw [encoded_cons, List.append_assoc] at later
                have atFront := eq_nil_of_begins character filled later
                rw [atFront, List.nil_append, ← encoded_cons] at whole
                exact (prefix_encoded_iff.mp ⟨back, whole⟩).isInfix
            · exact (inductionHypothesis more later.symm).trans
                (List.suffix_cons first rest).isInfix
  · rintro ⟨front, back, rfl⟩
    rw [encoded_append, encoded_append]
    exact List.infix_append _ _ _

end Text

end Workbench
