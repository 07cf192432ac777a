import RemoteCall.Http.Fields
import Mathlib.Data.List.Forall2
import RemoteCall.Proofs.Text.Numeral

/-!
# Reading headers that were written

A text is cleaned when it is written into a header, so the header reads back as the cleaned text,
whatever the text was.  A text of tabs and visible ASCII characters is not changed by cleaning.
Headers of different names do not disturb each other, because no two headers of the protocol
travel under one name.
-/

namespace RemoteCall

namespace FieldValue

/-- Characters that stand in a header as they are. -/
def IsPlain (character : Char) : Prop :=
  character = '\t' ∨ 0x20 ≤ character.toNat ∧ character.toNat ≤ 0x7E

theorem isPlain_clean (character : Char) : IsPlain (clean character) := by
  unfold clean IsPlain
  split
  · left
    assumption
  · right
    split
    · decide
    · split
      · decide
      · omega

/-- What stands in a header for a character: the character itself if it may stand there, a space for
a control, and a question mark for a character beyond ASCII. -/
inductive StandsFor : Char → Char → Prop where
  | plain {character : Char} (plain : IsPlain character) : StandsFor character character
  | control {character : Char} (other : character ≠ '\t')
      (control : character.toNat < 0x20 ∨ character.toNat = 0x7F) : StandsFor character ' '
  | foreign {character : Char} (beyond : 0x7F < character.toNat) : StandsFor character '?'

theorem standsFor_clean (character : Char) : StandsFor character (clean character) := by
  unfold clean
  split
  · next tab => exact .plain (Or.inl tab)
  · next other =>
      split
      · next control => exact .control other control
      · next visible =>
          split
          · next beyond => exact .foreign beyond
          · exact .plain (Or.inr (by omega))

theorem forall₂_cleaned (text : String) :
    List.Forall₂ StandsFor text.toList (cleaned text).toList := by
  rw [cleaned, String.toList_ofList, List.forall₂_map_right_iff, List.forall₂_same]
  exact fun character _ => standsFor_clean character

theorem clean_of_isPlain {character : Char} (plain : IsPlain character) :
    clean character = character := by
  unfold clean
  rcases plain with tab | ⟨least, greatest⟩
  · rw [if_pos tab]
  · split
    · rfl
    · rw [if_neg (by omega), if_neg (by omega)]

theorem cleaned_of_isPlain {text : String}
    (plain : ∀ character ∈ text.toList, IsPlain character) : cleaned text = text := by
  have unchanged : text.toList.map clean = text.toList := by
    rw [List.map_congr_left fun character member => clean_of_isPlain (plain character member)]
    exact List.map_id _
  rw [cleaned, unchanged, String.ofList_toList]

theorem cleaned_eq_self_iff {text : String} :
    cleaned text = text ↔ ∀ character ∈ text.toList, IsPlain character := by
  refine ⟨fun unchanged character member => ?_, cleaned_of_isPlain⟩
  rw [← unchanged, cleaned, String.toList_ofList] at member
  obtain ⟨original, _, rfl⟩ := List.mem_map.mp member
  exact isPlain_clean original

theorem IsPlain.toNat_lt {character : Char} (plain : IsPlain character) :
    character.toNat < 0x7F := by
  rcases plain with rfl | ⟨_, greatest⟩
  · decide
  · omega

theorem IsPlain.encode {character : Char} (plain : IsPlain character) :
    String.utf8EncodeChar character = [UInt8.ofNat character.toNat] := by
  have small : character.val.toNat ≤ 0x7F := Nat.le_of_lt plain.toNat_lt
  simp only [String.utf8EncodeChar, if_pos small]
  rfl

theorem IsPlain.toNat_byte {character : Char} (plain : IsPlain character) :
    (UInt8.ofNat character.toNat).toNat = character.toNat := by
  have small := plain.toNat_lt
  rw [UInt8.toNat_ofNat']
  omega

theorem IsPlain.isVisible {character : Char} (plain : IsPlain character) :
    isVisible (UInt8.ofNat character.toNat) = true := by
  have size := plain.toNat_byte
  rcases plain with rfl | ⟨least, greatest⟩
  · decide
  · simp only [FieldValue.isVisible, Bool.or_eq_true, Bool.and_eq_true, decide_eq_true_eq,
      UInt8.le_iff_toNat_le, size]
    exact Or.inr ⟨least, greatest⟩

theorem isAllowed_of_isVisible {byte : UInt8} (visible : isVisible byte = true) :
    isAllowed byte = true := by
  simp only [isVisible, isAllowed, Bool.or_eq_true, Bool.and_eq_true, decide_eq_true_eq,
    bne_iff_ne] at visible ⊢
  rcases visible with tab | ⟨least, greatest⟩
  · exact Or.inl tab
  · refine Or.inr ⟨least, ?_⟩
    rintro rfl
    exact absurd greatest (by decide)

theorem encodeUtf8_of_isPlain {characters : List Char}
    (plain : ∀ character ∈ characters, IsPlain character) :
    characters.flatMap String.utf8EncodeChar =
      characters.map fun character => UInt8.ofNat character.toNat := by
  induction characters with
  | nil => rfl
  | cons character later ih =>
      have head := (plain character (by simp)).encode
      have tail := ih fun other member => plain other (by simp [member])
      simp [head, tail]

/-- The bytes of a text that has been cleaned, one for each character. -/
def cleanedBytes (text : String) : Bytes :=
  text.toList.map fun character => UInt8.ofNat (clean character).toNat

theorem encodeUtf8_cleaned (text : String) :
    Text.encodeUtf8 (cleaned text) = cleanedBytes text := by
  have plain : ∀ character ∈ text.toList.map clean, IsPlain character := by
    intro character member
    obtain ⟨original, _, rfl⟩ := List.mem_map.mp member
    exact isPlain_clean original
  rw [Text.encodeUtf8, cleaned, String.toList_ofList, encodeUtf8_of_isPlain plain, List.map_map]
  rfl

theorem isVisible_of_mem_cleanedBytes {text : String} {byte : UInt8}
    (member : byte ∈ cleanedBytes text) : isVisible byte = true := by
  obtain ⟨character, _, rfl⟩ := List.mem_map.mp member
  exact (isPlain_clean character).isVisible

/-- All bytes of a cleaned text may stand in a header. -/
theorem ofBytes?_cleaned (text : String) :
    ofBytes? (Text.encodeUtf8 (cleaned text)) = some ⟨cleanedBytes text⟩ := by
  have allowed : (cleanedBytes text).all isAllowed = true :=
    List.all_eq_true.mpr fun _ member =>
      isAllowed_of_isVisible (isVisible_of_mem_cleanedBytes member)
  rw [encodeUtf8_cleaned, ofBytes?, if_pos allowed]

theorem ofText_eq (text : String) : ofText text = ⟨cleanedBytes text⟩ := by
  rw [ofText, ofBytes?_cleaned, Option.getD_some]

/-- What was written reads back cleaned. -/
@[simp]
theorem text?_ofText (text : String) : (ofText text).text? = some (cleaned text) := by
  have visible : (cleanedBytes text).all isVisible = true :=
    List.all_eq_true.mpr fun _ member => isVisible_of_mem_cleanedBytes member
  have restored : (cleanedBytes text).map (fun byte => Char.ofNat byte.toNat) =
      text.toList.map clean := by
    rw [cleanedBytes, List.map_map]
    refine List.map_congr_left fun character _ => ?_
    simp [(isPlain_clean character).toNat_byte, Char.ofNat_toNat]
  rw [ofText_eq, text?, if_pos visible, restored, cleaned]

theorem isPlain_of_isNumeral {character : Char} (numeral : Text.IsNumeral character) :
    IsPlain character := by
  right
  rcases numeral with digit | rfl
  · have bounds : 48 ≤ character.toNat ∧ character.toNat ≤ 57 := by
      simpa [Char.isDigit, Char.le_def, UInt32.le_iff_toNat_le] using digit
    omega
  · decide

/-- A natural number in decimal is not changed by cleaning. -/
@[simp]
theorem cleaned_toString (number : Nat) : cleaned (toString number) = toString number :=
  cleaned_of_isPlain fun character member =>
    isPlain_of_isNumeral (Or.inl (Text.isDigit_of_mem_toString number character member))

end FieldValue

theorem Header.fieldName_injective : Function.Injective Header.fieldName := by
  intro first second same
  have sameName : first.wireName = second.wireName := congrArg FieldName.lower same
  revert sameName
  cases first <;> cases second <;> decide

namespace Fields

@[simp]
theorem read_write_self (fields : Fields) (header : Header) (text : String) :
    (fields.write header text).read header = some (FieldValue.cleaned text) := by
  simp [read, write]

theorem read_write_of_ne (fields : Fields) {header other : Header} (text : String)
    (differs : other ≠ header) :
    (fields.write header text).read other = fields.read other := by
  have unequal : other.fieldName ≠ header.fieldName :=
    fun same => differs (Header.fieldName_injective same)
  simp [read, write, find?_set_of_ne _ _ unequal]

@[simp]
theorem has_write_self (fields : Fields) (header : Header) (text : String) :
    (fields.write header text).has header = true := by
  simp [has, contains, write]

theorem has_write_of_ne (fields : Fields) {header other : Header} (text : String)
    (differs : other ≠ header) :
    (fields.write header text).has other = fields.has other := by
  have unequal : other.fieldName ≠ header.fieldName :=
    fun same => differs (Header.fieldName_injective same)
  simp [has, contains, write, find?_set_of_ne _ _ unequal]

theorem erase_write_self (fields : Fields) (header : Header) (text : String) :
    (fields.write header text).erase header.fieldName = fields.erase header.fieldName := by
  simp [write, set, append, erase]

end Fields

end RemoteCall
