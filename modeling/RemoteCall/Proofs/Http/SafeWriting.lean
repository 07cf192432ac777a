import RemoteCall.Proofs.Http.Occurrences
import RemoteCall.Proofs.Http.WrittenFields

/-!
# Any text may be written

Whatever a text holds, it can be written into a header.  What the header reads as afterwards has a
character for each character of the text, and none that could end the header; it is the text itself
exactly if there is nothing to clean, so writing it once more changes nothing.  All earlier values
of the header are gone, and the values of every other name are the ones from before.
-/

namespace RemoteCall

namespace FieldValue

theorem isPlain_of_mem_cleaned {text : String} {character : Char}
    (member : character ∈ (cleaned text).toList) : IsPlain character := by
  rw [cleaned, String.toList_ofList] at member
  obtain ⟨original, _, rfl⟩ := List.mem_map.mp member
  exact isPlain_clean original

theorem length_cleaned (text : String) : (cleaned text).length = text.length := by
  rw [cleaned, String.length_ofList, List.length_map, String.length_toList]

/-- A text that has been cleaned stays as it is. -/
@[simp]
theorem cleaned_cleaned (text : String) : cleaned (cleaned text) = cleaned text :=
  cleaned_of_isPlain fun _ member => isPlain_of_mem_cleaned member

@[simp]
theorem ofText_cleaned (text : String) : ofText (cleaned text) = ofText text := by
  rw [ofText, cleaned_cleaned, ofText]

/-- Only the empty text is written as the empty value. -/
theorem ofText_eq_empty_iff {text : String} : ofText text = empty ↔ text = "" := by
  rw [ofText_eq, empty, FieldValue.mk.injEq, cleanedBytes, List.map_eq_nil_iff,
    String.toList_eq_nil_iff]

/-- No byte of a written value ends a line or a text. -/
theorem not_control_of_mem_ofText {text : String} {byte : UInt8}
    (member : byte ∈ (ofText text).bytes) : byte ≠ 0x0D ∧ byte ≠ 0x0A ∧ byte ≠ 0x00 := by
  rw [ofText_eq] at member
  have visible := isVisible_of_mem_cleanedBytes member
  refine ⟨?_, ?_, ?_⟩ <;>
  · rintro rfl
    exact absurd visible (by decide)

end FieldValue

namespace Fields

variable (fields : Fields) (name : FieldName) (value : FieldValue)

/-- A name that is set has one value, and the values of the others stay. -/
theorem values_set (other : FieldName) :
    (fields.set name value).values other =
      if other = name then [value] else fields.values other := by
  unfold values set append erase
  rw [List.filter_append, List.filter_filter, List.map_append]
  by_cases same : other = name
  · subst same
    simp
  · have kept : (fields.entries.filter fun entry =>
        decide (entry.1 = other) && !decide (entry.1 = name)) =
        fields.entries.filter fun entry => decide (entry.1 = other) := by
      refine List.filter_congr fun entry _ => ?_
      by_cases found : entry.1 = other <;> simp [found, same]
    simp [kept, same, Ne.symm same]

/-- Setting a name twice is setting it once. -/
theorem set_set : (fields.set name value).set name value = fields.set name value := by
  simp [set, append, erase, List.filter_append, List.filter_filter]

end Fields

/-- A text is written into a header safely.  The header then reads as a text with as many
characters, each of them a tab or visible, which is the text itself exactly if all of its characters
are of this kind, and which can be written again without any change.  The value for texts that may
not stand in a header is never needed, and the bytes that end a line or a text are kept out.  The
header has one value afterwards, every other name has the values that it had before, and the other
headers of the protocol read as before. -/
theorem Fields.written_safely (fields : Fields) (header : Header) (text : String) :
    let written := fields.write header text
    (∃ told, written.read header = some told ∧ told.length = text.length ∧
      (∀ character ∈ told.toList, FieldValue.IsPlain character) ∧
      (told = text ↔ ∀ character ∈ text.toList, FieldValue.IsPlain character) ∧
      written.write header told = written) ∧
    FieldValue.ofBytes? (Text.encodeUtf8 (FieldValue.cleaned text)) =
      some (FieldValue.ofText text) ∧
    (FieldValue.ofText text = .empty ↔ text = "") ∧
    (∀ byte ∈ (FieldValue.ofText text).bytes, byte ≠ 0x0D ∧ byte ≠ 0x0A ∧ byte ≠ 0x00) ∧
    (∀ entry ∈ written.entries,
      entry = (header.fieldName, FieldValue.ofText text) ∨ entry ∈ fields.entries) ∧
    (∀ name, written.values name =
      if name = header.fieldName then [FieldValue.ofText text] else fields.values name) ∧
    ∀ other, other ≠ header →
      written.read other = fields.read other ∧ written.has other = fields.has other := by
  intro written
  refine ⟨?_, ?_, FieldValue.ofText_eq_empty_iff,
    fun _ member => FieldValue.not_control_of_mem_ofText member, fun _ member => mem_set member,
    values_set fields header.fieldName _, ?_⟩
  · refine ⟨FieldValue.cleaned text, read_write_self fields header text,
      FieldValue.length_cleaned text, fun _ member => FieldValue.isPlain_of_mem_cleaned member,
      FieldValue.cleaned_eq_self_iff, ?_⟩
    change (fields.set _ _).set _ (FieldValue.ofText (FieldValue.cleaned text)) = _
    rw [FieldValue.ofText_cleaned]
    exact set_set fields header.fieldName _
  · rw [FieldValue.ofBytes?_cleaned, FieldValue.ofText_eq]
  · intro other differs
    exact ⟨read_write_of_ne fields text differs, has_write_of_ne fields text differs⟩

end RemoteCall
