namespace Workbench

/-!
# Texts within encoded texts

An encoding can be cut apart into encodings at the ends of characters only.  So if
the bytes of a text begin with the bytes of a second one and end with the bytes of
a third one, without overlapping, then so do its characters.
-/

namespace Text

theorem utf8Encode_inj {left right : List Char} (same : left.utf8Encode = right.utf8Encode) :
    left = right := by
  have texts : String.ofList left = String.ofList right := by
    apply String.toByteArray_inj.mp
    rw [String.toByteArray_ofList, String.toByteArray_ofList, same]
  rw [← @String.toList_ofList left, texts, String.toList_ofList]

/-- What stands before an encoded text in an encoded text is an encoded text. -/
theorem exists_of_append_utf8Encode {front : ByteArray} {back whole : List Char}
    (split : front ++ back.utf8Encode = whole.utf8Encode) :
    ∃ characters, front = List.utf8Encode characters ∧ characters ++ back = whole := by
  have bytes : (String.ofList whole).toByteArray = front ++ back.utf8Encode := by
    rw [String.toByteArray_ofList, split]
  have size : (String.ofList whole).utf8ByteSize = front.size + back.utf8Encode.size := by
    rw [← String.size_toByteArray, bytes, ByteArray.size_append]
  -- the bytes from there to the end are an encoding, so a character begins there
  have boundary : String.Pos.Raw.IsValid (String.ofList whole) ⟨front.size⟩ := by
    rw [String.Pos.Raw.isValid_iff_isValidUTF8_extract_utf8ByteSize]
    refine ⟨?_, ?_⟩
    · rw [String.Pos.Raw.le_iff]
      simp only [String.byteIdx_rawEndPos, size]
      omega
    · rw [bytes, size, ByteArray.extract_append_eq_right rfl rfl]
      exact ByteArray.isValidUTF8_utf8Encode
  obtain ⟨characters, encoded⟩ := boundary.isValidUTF8_extract_zero
  rw [bytes, ByteArray.extract_append_eq_left rfl] at encoded
  refine ⟨characters, encoded, ?_⟩
  apply utf8Encode_inj
  rw [List.utf8Encode_append, ← encoded, split]

/-- Bytes that begin and end with given texts are a text that does. -/
theorem exists_bytes_between_iff {before after whole : List Char} :
    (∃ middle : ByteArray,
        whole.utf8Encode = before.utf8Encode ++ middle ++ after.utf8Encode) ↔
      ∃ middle, whole = before ++ middle ++ after := by
  constructor
  · rintro ⟨middle, split⟩
    obtain ⟨front, encoded, rebuilt⟩ := exists_of_append_utf8Encode split.symm
    obtain ⟨between, same⟩ := List.isPrefix_of_utf8Encode_append_eq_utf8Encode middle encoded
    exact ⟨between, by rw [same, rebuilt]⟩
  · rintro ⟨middle, split⟩
    exact ⟨middle.utf8Encode, by rw [split, List.utf8Encode_append, List.utf8Encode_append]⟩

end Text

end Workbench
