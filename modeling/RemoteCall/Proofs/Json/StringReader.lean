import Mathlib.Tactic.SplitIfs
import RemoteCall.Json.Printer
import RemoteCall.Json.StringReader
import RemoteCall.Proofs.Text.Utf8

/-!
# Reading written strings

Between its quotes a written string leads the reader of strings to the bytes of the text, character
by character: most characters stand for themselves, and the others are escaped in one of three ways.
At the closing quote the bytes are the encoded text, which decodes to the text.
-/

namespace RemoteCall
namespace Json
namespace PartialString

/-- Bytes that lead from one partial string to another, wherever they stand. -/
inductive Extends : Bytes → PartialString → PartialString → Prop where
  | refl (text : PartialString) : Extends [] text text
  | cons {byte : UInt8} {later : Bytes} {first next last : PartialString}
      (step : ∀ position, first.step byte position = .extend next)
      (extends' : Extends later next last) : Extends (byte :: later) first last

theorem Extends.trans {bytes later : Bytes} {first next last : PartialString}
    (start : Extends bytes first next) (rest : Extends later next last) :
    Extends (bytes ++ later) first last := by
  induction start with
  | refl text => exact rest
  | cons step _ ih => exact .cons step (ih rest)

/-- A byte that may stand for itself in a string. -/
def IsVerbatim (byte : UInt8) : Prop := byte ≠ 0x22 ∧ byte ≠ 0x5C ∧ ¬byte < 0x20

theorem extends_verbatim {bytes : Bytes} (verbatim : ∀ byte ∈ bytes, IsVerbatim byte)
    (read : Bytes) : Extends bytes ⟨read, .none⟩ ⟨bytes.reverse ++ read, .none⟩ := by
  induction bytes generalizing read with
  | nil => exact .refl _
  | cons byte later ih =>
      obtain ⟨notQuote, notBackslash, notControl⟩ := verbatim byte (by simp)
      rw [List.reverse_cons, List.append_assoc]
      refine .cons (fun position => ?_)
        (ih (fun other member => verbatim other (by simp [member])) (byte :: read))
      rw [step]
      dsimp only
      rw [if_neg notQuote, if_neg notBackslash, if_neg notControl, pushByte]

theorem isVerbatim_of_toNat {number : Nat} (least : 0x80 ≤ number) (small : number < 256) :
    IsVerbatim (UInt8.ofNat number) := by
  have byte : (UInt8.ofNat number).toNat = number := Text.toNat_byte small
  simp only [IsVerbatim, ne_eq, ← UInt8.toNat_inj, UInt8.lt_iff_toNat_lt, byte]
  refine ⟨?_, ?_, ?_⟩ <;> simp <;> omega

theorem isVerbatim_utf8EncodeChar {character : Char} (notQuote : character ≠ '"')
    (notBackslash : character ≠ '\\') (printable : 0x20 ≤ character.toNat) :
    ∀ byte ∈ String.utf8EncodeChar character, IsVerbatim byte := by
  have code : character.val.toNat = character.toNat := rfl
  intro byte member
  simp only [String.utf8EncodeChar, code] at member
  split at member
  · next small =>
      rw [List.mem_singleton] at member
      subst member
      have size : (UInt8.ofNat character.toNat).toNat = character.toNat :=
        Text.toNat_byte (by omega)
      have restored : ∀ other : Char, character ≠ other → character.toNat ≠ other.toNat :=
        fun other differs same => differs (Char.toNat_inj.mp same)
      simp only [IsVerbatim, ne_eq, ← UInt8.toNat_inj, UInt8.lt_iff_toNat_lt, size]
      exact ⟨restored '"' notQuote, restored '\\' notBackslash, by simp; omega⟩
  · have high : ∃ number, 0x80 ≤ number ∧ number < 256 ∧ byte = UInt8.ofNat number := by
      split at member
      · simp only [List.mem_cons, List.not_mem_nil, or_false] at member
        rcases member with rfl | rfl
        · exact ⟨_, by omega, by omega, rfl⟩
        · exact ⟨_, by omega, by omega, rfl⟩
      · split at member
        · simp only [List.mem_cons, List.not_mem_nil, or_false] at member
          rcases member with rfl | rfl | rfl
          · exact ⟨_, by omega, by omega, rfl⟩
          · exact ⟨_, by omega, by omega, rfl⟩
          · exact ⟨_, by omega, by omega, rfl⟩
        · simp only [List.mem_cons, List.not_mem_nil, or_false] at member
          rcases member with rfl | rfl | rfl | rfl
          · exact ⟨_, by omega, by omega, rfl⟩
          · exact ⟨_, by omega, by omega, rfl⟩
          · exact ⟨_, by omega, by omega, rfl⟩
          · exact ⟨_, by omega, by omega, rfl⟩
    obtain ⟨number, least, small, rfl⟩ := high
    exact isVerbatim_of_toNat least small

section Escapes

theorem step_backslash (read : Bytes) (position : Position) :
    step ⟨read, .none⟩ 0x5C position = .extend ⟨read, .backslash⟩ := rfl

theorem extends_letter {byte : UInt8} {character : Char} (letter : byte ≠ 0x75)
    (escaped : simpleEscape? byte = some character) (read : Bytes) :
    Extends [0x5C, byte] ⟨read, .none⟩
      ⟨(String.utf8EncodeChar character).reverse ++ read, .none⟩ := by
  refine .cons (step_backslash read) (.cons (fun position => ?_) (.refl _))
  rw [step]
  dsimp only
  rw [if_neg letter, escaped]
  rfl

/-- An escape of four hexadecimal digits that is not one half of a pair. -/
theorem extends_hexadecimal {first second third fourth : UInt8} {number : Nat}
    (spelled : hexadecimalValue? [fourth, third, second, first] = some number)
    (below : number < 0xD800) (read : Bytes) :
    Extends [0x5C, 0x75, first, second, third, fourth] ⟨read, .none⟩
      ⟨(String.utf8EncodeChar (Char.ofNat number)).reverse ++ read, .none⟩ := by
  have notTrailing : isTrailing number = false := by simp [isTrailing]; omega
  have notLeading : isLeading number = false := by simp [isLeading]; omega
  refine .cons (step_backslash read) (.cons (fun _ => rfl) (.cons (fun _ => rfl)
    (.cons (fun _ => rfl) (.cons (fun _ => rfl) (.cons (fun position => ?_) (.refl _))))))
  rw [step]
  dsimp only
  rw [if_neg (by simp), spelled]
  dsimp only
  rw [pushEscape, notTrailing, notLeading]
  rfl

theorem hexByte?_hexDigit : ∀ digit < 16,
    hexByte? (UInt8.ofNat (Text.hexDigit digit).toNat) = some digit := by
  decide

theorem utf8EncodeChar_hexDigit : ∀ digit < 16,
    String.utf8EncodeChar (Text.hexDigit digit) =
      [UInt8.ofNat (Text.hexDigit digit).toNat] := by
  decide

end Escapes

theorem extends_control {number : Nat} (control : number < 0x20) (read : Bytes) :
    Extends
      (['\\', 'u', '0', '0', Text.hexDigit (number / 16), Text.hexDigit (number % 16)].flatMap
        String.utf8EncodeChar)
      ⟨read, .none⟩ ⟨(String.utf8EncodeChar (Char.ofNat number)).reverse ++ read, .none⟩ := by
  have high := utf8EncodeChar_hexDigit (number / 16) (by omega)
  have low := utf8EncodeChar_hexDigit (number % 16) (by omega)
  have spelled : hexadecimalValue? [UInt8.ofNat (Text.hexDigit (number % 16)).toNat,
      UInt8.ofNat (Text.hexDigit (number / 16)).toNat, 0x30, 0x30] = some number := by
    have zeros : hexadecimalValue? [0x30, 0x30] = some 0 := by decide
    rw [hexadecimalValue?, hexadecimalValue?, zeros, hexByte?_hexDigit _ (by omega),
      hexByte?_hexDigit _ (by omega)]
    dsimp only
    rw [Option.some_inj]
    omega
  have written :
      (['\\', 'u', '0', '0', Text.hexDigit (number / 16), Text.hexDigit (number % 16)].flatMap
        String.utf8EncodeChar) =
      [0x5C, 0x75, 0x30, 0x30, UInt8.ofNat (Text.hexDigit (number / 16)).toNat,
        UInt8.ofNat (Text.hexDigit (number % 16)).toNat] := by
    simp only [List.flatMap_cons, List.flatMap_nil, high, low]
    rfl
  rw [written]
  exact extends_hexadecimal spelled (by omega) read

theorem extends_controlLetter {byte : UInt8} {character : Char} {number : Nat}
    (same : character.toNat = number) (letter : byte ≠ 0x75)
    (escaped : simpleEscape? byte = some (Char.ofNat number)) (read : Bytes) :
    Extends [0x5C, byte] ⟨read, .none⟩
      ⟨(String.utf8EncodeChar character).reverse ++ read, .none⟩ := by
  subst same
  rw [Char.ofNat_toNat] at escaped
  exact extends_letter letter escaped read

/-- A character as it is written in a string adds its bytes to what has been read. -/
theorem extends_stringCharacter (character : Char) (read : Bytes) :
    Extends ((stringCharacter character).flatMap String.utf8EncodeChar) ⟨read, .none⟩
      ⟨(String.utf8EncodeChar character).reverse ++ read, .none⟩ := by
  unfold stringCharacter
  split_ifs with quote backslash printable backspace tab lineFeed formFeed carriageReturn
  · subst quote
    exact extends_letter (by decide) rfl read
  · subst backslash
    exact extends_letter (by decide) rfl read
  · rw [List.flatMap_singleton]
    exact extends_verbatim (isVerbatim_utf8EncodeChar quote backslash printable) read
  · exact extends_controlLetter backspace (by decide) rfl read
  · exact extends_controlLetter tab (by decide) rfl read
  · exact extends_controlLetter lineFeed (by decide) rfl read
  · exact extends_controlLetter formFeed (by decide) rfl read
  · exact extends_controlLetter carriageReturn (by decide) rfl read
  · -- Only control characters without a letter of their own are left.
    have unprintable : character.toNat < 0x20 := by omega
    have numbered := extends_control unprintable read
    rwa [Char.ofNat_toNat] at numbered

theorem extends_characters (characters : List Char) (read : Bytes) :
    Extends ((characters.flatMap stringCharacter).flatMap String.utf8EncodeChar) ⟨read, .none⟩
      ⟨(characters.flatMap String.utf8EncodeChar).reverse ++ read, .none⟩ := by
  induction characters generalizing read with
  | nil => exact .refl _
  | cons character later ih =>
      rw [List.flatMap_cons, List.flatMap_append, List.flatMap_cons, List.reverse_append,
        List.append_assoc]
      exact (extends_stringCharacter character read).trans (ih _)

/-- At the closing quote a text has been read that was written in a string. -/
theorem step_closing_quote (text : String) (position : Position) :
    step ⟨(Text.encodeUtf8 text).reverse, .none⟩ 0x22 position = .close text := by
  rw [step]
  dsimp only
  rw [if_pos rfl, close]
  dsimp only
  rw [List.reverse_reverse, Text.decodeUtf8?_encodeUtf8]

end PartialString
end Json
end RemoteCall
