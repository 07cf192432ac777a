import RemoteCall.Text.Lowercase

/-!
# Names that differ in case alone

Names are stored in lower case and compared letter by letter, and both ways of telling two names
apart agree for every text.  Only the letters of ASCII have two forms here: all other characters,
letters of other scripts among them, are compared as they are.
-/

namespace RemoteCall
namespace Text

theorem isUpper_iff {character : Char} :
    character.isUpper = true ↔ 65 ≤ character.toNat ∧ character.toNat ≤ 90 :=
  decide_eq_true_iff

theorem toNat_toLower (character : Char) :
    character.toLower.toNat =
      if character.isUpper = true then character.toNat + 32 else character.toNat := by
  unfold Char.toLower
  split
  · next upper =>
      have isUpper : character.isUpper = true := decide_eq_true upper
      have small := (isUpper_iff.mp isUpper).2
      rw [if_pos isUpper]
      change (character.val + 32).toNat = character.val.toNat + 32
      change character.val.toNat ≤ 90 at small
      rw [UInt32.toNat_add]
      change (character.val.toNat + 32) % 4294967296 = _
      omega
  · next lower =>
      have notUpper : ¬character.isUpper = true := fun isUpper => lower (of_decide_eq_true isUpper)
      rw [if_neg notUpper]

/-- Small letters are no capitals, so a capital has no third form. -/
theorem sameLetter_iff {first second : Char} :
    sameLetter first second = true ↔ first.toLower = second.toLower := by
  rw [← Char.toNat_inj, toNat_toLower, toNat_toLower]
  simp only [sameLetter, Bool.or_eq_true, Bool.and_eq_true, beq_iff_eq, isUpper_iff,
    ← Char.toNat_inj]
  split <;> split <;> omega

theorem sameLetters_iff {first second : List Char} :
    sameLetters first second = true ↔ first.map Char.toLower = second.map Char.toLower := by
  induction first generalizing second with
  | nil => cases second <;> simp [sameLetters]
  | cons character later ih =>
      cases second with
      | nil => simp [sameLetters]
      | cons other others => simp [sameLetters, sameLetter_iff, ih]

theorem sameIgnoringCase_iff {first second : String} :
    sameIgnoringCase first second = true ↔ lowercaseAscii first = lowercaseAscii second := by
  rw [sameIgnoringCase, sameLetters_iff, lowercaseAscii, lowercaseAscii, ← String.toList_inj,
    String.toList_map, String.toList_map]

end Text
end RemoteCall
