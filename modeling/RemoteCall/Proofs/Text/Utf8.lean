import Mathlib.Tactic.SplitIfs
import RemoteCall.Text.Utf8

/-!
# Reading encoded text

The bytes of a character lead the machine that reads UTF-8 from between two characters to that
character and back.  Both readings run the machine, so both give back a text that was encoded.
-/

namespace RemoteCall
namespace Text

/-- Bytes that complete a character, possibly begun before them. -/
inductive Completes : Option PartialCharacter → Bytes → Char → Prop where
  | last {begun : Option PartialCharacter} {byte : UInt8} {character : Char}
      (complete : nextByte begun byte = .complete character) : Completes begun [byte] character
  | more {begun : Option PartialCharacter} {byte : UInt8} {rest : PartialCharacter}
      {later : Bytes} {character : Char} (await : nextByte begun byte = .await rest)
      (completes : Completes (some rest) later character) :
      Completes begun (byte :: later) character

section Readings

variable {begun : Option PartialCharacter} {bytes : Bytes} {character : Char}

theorem decodeFrom_of_completes (completes : Completes begun bytes character) (later : Bytes) :
    decodeFrom begun (bytes ++ later) = (decodeFrom none later).map (character :: ·) := by
  induction completes with
  | last complete =>
      rw [List.singleton_append, decodeFrom, complete]
  | more await _ ih =>
      rw [List.cons_append, decodeFrom, await]
      exact ih

theorem decodeLenientFrom_of_completes (completes : Completes begun bytes character)
    (later : Bytes) :
    decodeLenientFrom begun (bytes ++ later) = character :: decodeLenientFrom none later := by
  induction completes with
  | @last begun byte character complete =>
      cases begun with
      | none =>
          have first : firstByte byte = .complete character := complete
          rw [List.singleton_append, decodeLenientFrom, first]
      | some awaited =>
          have follows : laterByte awaited byte = .complete character := complete
          rw [List.singleton_append, decodeLenientFrom, follows]
  | @more begun byte rest bytes character await _ ih =>
      cases begun with
      | none =>
          have first : firstByte byte = .await rest := await
          rw [List.cons_append, decodeLenientFrom, first]
          exact ih
      | some awaited =>
          have follows : laterByte awaited byte = .await rest := await
          rw [List.cons_append, decodeLenientFrom, follows]
          exact ih

end Readings

section Bytes

theorem toNat_byte {number : Nat} (small : number < 256) : (UInt8.ofNat number).toNat = number := by
  rw [UInt8.toNat_ofNat']
  omega

theorem not_refused {awaited : PartialCharacter} {byte : UInt8}
    (least : awaited.least.toNat ≤ byte.toNat) (greatest : byte.toNat ≤ awaited.greatest.toNat) :
    ¬(byte < awaited.least || awaited.greatest < byte) = true := by
  simp only [Bool.or_eq_true, decide_eq_true_eq, UInt8.lt_iff_toNat_lt]
  omega

theorem laterByte_complete {awaited : PartialCharacter} {byte : UInt8}
    (least : awaited.least.toNat ≤ byte.toNat) (greatest : byte.toNat ≤ awaited.greatest.toNat)
    (last : awaited.missing ≤ 1) :
    laterByte awaited byte =
      .complete (Char.ofNat (awaited.collected * 64 + (byte.toNat - 0x80))) := by
  rw [laterByte, if_neg (not_refused least greatest)]
  dsimp only
  rw [if_pos last]

/-- A byte of a character that is neither its first nor its last. -/
theorem laterByte_await {awaited : PartialCharacter} {byte : UInt8}
    (least : awaited.least.toNat ≤ byte.toNat) (greatest : byte.toNat ≤ awaited.greatest.toNat)
    (more : ¬awaited.missing ≤ 1) :
    laterByte awaited byte =
      .await ⟨awaited.missing - 1, 0x80, 0xBF,
        awaited.collected * 64 + (byte.toNat - 0x80)⟩ := by
  rw [laterByte, if_neg (not_refused least greatest)]
  dsimp only
  rw [if_neg more]

theorem completes_one {character : Char} {least greatest : UInt8} {collected low : Nat}
    (small : low < 64) (inLeast : least.toNat ≤ low + 0x80)
    (inGreatest : low + 0x80 ≤ greatest.toNat) (code : collected * 64 + low = character.toNat) :
    Completes (some ⟨1, least, greatest, collected⟩) [UInt8.ofNat (low + 0x80)] character := by
  have byte : (UInt8.ofNat (low + 0x80)).toNat = low + 0x80 := toNat_byte (by omega)
  refine .last ?_
  rw [nextByte, laterByte_complete (by rw [byte]; exact inLeast) (by rw [byte]; exact inGreatest)
    (Nat.le_refl 1), byte, Nat.add_sub_cancel, code, Char.ofNat_toNat]

theorem completes_more {character : Char} {least greatest : UInt8} {missing collected low : Nat}
    {later : Bytes} (small : low < 64) (inLeast : least.toNat ≤ low + 0x80)
    (inGreatest : low + 0x80 ≤ greatest.toNat)
    (completes : Completes (some ⟨missing + 1, 0x80, 0xBF, collected * 64 + low⟩) later character) :
    Completes (some ⟨missing + 2, least, greatest, collected⟩) (UInt8.ofNat (low + 0x80) :: later)
      character := by
  have byte : (UInt8.ofNat (low + 0x80)).toNat = low + 0x80 := toNat_byte (by omega)
  refine .more ?_ completes
  rw [nextByte, laterByte_await (by rw [byte]; exact inLeast) (by rw [byte]; exact inGreatest)
    (by dsimp only; omega), byte, Nat.add_sub_cancel]
  rfl

end Bytes

section FirstBytes

theorem firstByte_one {number : Nat} (small : number < 0x80) :
    firstByte (UInt8.ofNat number) = .complete (Char.ofNat number) := by
  have byte : (UInt8.ofNat number).toNat = number := toNat_byte (by omega)
  have first : UInt8.ofNat number < 0x80 := by
    rw [UInt8.lt_iff_toNat_lt, byte]
    exact small
  rw [firstByte, if_pos first, byte]

theorem firstByte_two {high : Nat} (least : 2 ≤ high) (small : high < 32) :
    firstByte (UInt8.ofNat (high + 0xC0)) = .await ⟨1, 0x80, 0xBF, high⟩ := by
  have byte : (UInt8.ofNat (high + 0xC0)).toNat = high + 0xC0 := toNat_byte (by omega)
  simp only [firstByte, UInt8.lt_iff_toNat_lt, byte]
  rw [if_neg (by simp), if_neg (by simp; omega), if_pos (by simp; omega), Nat.add_sub_cancel]

/-- A first byte of three: the least of them excludes longer forms, and one the surrogates. -/
theorem firstByte_three {high : Nat} (small : high < 16) :
    firstByte (UInt8.ofNat (high + 0xE0)) =
      .await ⟨2, if high = 0 then 0xA0 else 0x80, if high = 13 then 0x9F else 0xBF, high⟩ := by
  have byte : (UInt8.ofNat (high + 0xE0)).toNat = high + 0xE0 := toNat_byte (by omega)
  simp only [firstByte, UInt8.lt_iff_toNat_lt, ← UInt8.toNat_inj, byte]
  rw [if_neg (by simp), if_neg (by simp), if_neg (by simp)]
  by_cases lowest : high = 0
  · simp [lowest]
  · by_cases surrogates : high = 13
    · simp [surrogates]
    · rw [if_neg (by simp; omega), if_neg (by simp; omega), if_pos (by simp; omega),
        if_neg lowest, if_neg surrogates, Nat.add_sub_cancel]

/-- A first byte of four: the least of them excludes longer forms, and the greatest what lies beyond
all characters. -/
theorem firstByte_four {high : Nat} (small : high < 5) :
    firstByte (UInt8.ofNat (high + 0xF0)) =
      .await ⟨3, if high = 0 then 0x90 else 0x80, if high = 4 then 0x8F else 0xBF, high⟩ := by
  have byte : (UInt8.ofNat (high + 0xF0)).toNat = high + 0xF0 := toNat_byte (by omega)
  simp only [firstByte, UInt8.lt_iff_toNat_lt, ← UInt8.toNat_inj, byte]
  rw [if_neg (by simp), if_neg (by simp), if_neg (by simp), if_neg (by simp), if_neg (by simp),
    if_neg (by simp)]
  by_cases lowest : high = 0
  · simp [lowest]
  · by_cases greatest : high = 4
    · simp [greatest]
    · rw [if_neg (by simp; omega), if_pos (by simp; omega), if_neg lowest, if_neg greatest,
        Nat.add_sub_cancel]

end FirstBytes

/-- The bytes of a character lead to that character. -/
theorem completes_utf8EncodeChar (character : Char) :
    Completes none (String.utf8EncodeChar character) character := by
  have valid : character.toNat.isValidChar := character.valid
  have code : character.val.toNat = character.toNat := rfl
  unfold Nat.isValidChar at valid
  simp only [String.utf8EncodeChar, code]
  split_ifs with oneByte twoBytes threeBytes
  · refine .last ?_
    rw [nextByte, firstByte_one (by omega), Char.ofNat_toNat]
  · refine .more (firstByte_two (by omega) (by omega)) ?_
    exact completes_one (by omega) (by simp) (by simp; omega) (by omega)
  · refine .more (firstByte_three (by omega)) ?_
    refine completes_more (by omega) ?_ ?_ ?_
    · split
      · simp
        omega
      · simp
    · split
      · simp
        omega
      · simp
        omega
    · exact completes_one (by omega) (by simp) (by simp; omega) (by omega)
  · refine .more (firstByte_four (by omega)) ?_
    refine completes_more (by omega) ?_ ?_ ?_
    · split
      · simp
        omega
      · simp
    · split
      · simp
        omega
      · simp
        omega
    · refine completes_more (by omega) (by simp) (by simp; omega) ?_
      exact completes_one (by omega) (by simp) (by simp; omega) (by omega)

theorem decodeFrom_flatMap (characters : List Char) :
    decodeFrom none (characters.flatMap String.utf8EncodeChar) = some characters := by
  induction characters with
  | nil => rfl
  | cons character later ih =>
      rw [List.flatMap_cons, decodeFrom_of_completes (completes_utf8EncodeChar character), ih,
        Option.map_some]

@[simp]
theorem decodeUtf8?_encodeUtf8 (text : String) : decodeUtf8? (encodeUtf8 text) = some text := by
  rw [decodeUtf8?, encodeUtf8, decodeFrom_flatMap, Option.map_some, String.ofList_toList]

theorem decodeLenientFrom_flatMap (characters : List Char) :
    decodeLenientFrom none (characters.flatMap String.utf8EncodeChar) = characters := by
  induction characters with
  | nil => rfl
  | cons character later ih =>
      rw [List.flatMap_cons,
        decodeLenientFrom_of_completes (completes_utf8EncodeChar character), ih]

@[simp]
theorem decodeLenient_encodeUtf8 (text : String) : decodeLenient (encodeUtf8 text) = text := by
  rw [decodeLenient, encodeUtf8, decodeLenientFrom_flatMap, String.ofList_toList]

end Text
end RemoteCall
