import RemoteCall.Json.Number
import RemoteCall.Json.Printer
import RemoteCall.Proofs.Text.Utf8

/-!
# Reading written whole numbers

The digits of a whole number lead the reader of numbers to a significand that holds the number, as
long as it fits into sixty-four bits.  A number that has been read so far goes on with further
digits only, and where it ends it is the integer that was written.
-/

namespace RemoteCall
namespace Json
namespace PartialNumber

/-- A whole number that has been read, with or without a minus sign. -/
def whole (negative : Bool) (magnitude : Nat) : PartialNumber :=
  if magnitude = 0 then ⟨.zero, negative, 0, 0, false, 0⟩
  else ⟨.whole, negative, UInt64.ofNat magnitude, 0, false, 0⟩

def digitByte (digit : Nat) : UInt8 := UInt8.ofNat (digit + 0x30)

theorem toNat_digitByte {digit : Nat} (small : digit < 10) :
    (digitByte digit).toNat = digit + 0x30 := Text.toNat_byte (by omega)

theorem digitByte_ne {digit : Nat} (small : digit < 10) {other : UInt8}
    (outside : other.toNat < 0x30 ∨ 0x39 < other.toNat) : digitByte digit ≠ other := by
  rintro rfl
  rw [toNat_digitByte small] at outside
  omega

theorem byteDigit?_digitByte {digit : Nat} (small : digit < 10) :
    byteDigit? (digitByte digit) = some digit := by
  have bounds : 0x30 ≤ digitByte digit ∧ digitByte digit ≤ 0x39 := by
    simp only [UInt8.le_iff_toNat_le, toNat_digitByte small]
    constructor
    · simp
    · simp
      omega
  rw [byteDigit?, if_pos bounds, toNat_digitByte small, Nat.add_sub_cancel]

theorem utf8EncodeChar_digitChar {digit : Nat} (small : digit < 10) :
    String.utf8EncodeChar (Nat.digitChar digit) = [digitByte digit] := by
  have code : (Nat.digitChar digit).val.toNat = 48 + digit :=
    Nat.toNat_digitChar_of_lt_ten small
  simp only [String.utf8EncodeChar, code]
  rw [if_pos (by omega), digitByte, Nat.add_comm]

theorem ofByte?_digitByte {digit : Nat} (small : digit < 10) :
    ofByte? (digitByte digit) = some (whole false digit) := by
  have notSign : digitByte digit ≠ 0x2D := digitByte_ne small (by decide)
  rw [ofByte?, if_neg notSign, byteDigit?_digitByte small]
  cases digit with
  | zero => rfl
  | succ digit => rfl

theorem step_sign {digit : Nat} (small : digit < 10) :
    step ⟨.sign, true, 0, 0, false, 0⟩ (digitByte digit) = .extend (whole true digit) := by
  rw [step, byteDigit?_digitByte small]
  cases digit with
  | zero => rfl
  | succ digit =>
      simp [append, whole]

theorem step_whole {negative : Bool} {magnitude digit : Nat} (positive : magnitude ≠ 0)
    (small : digit < 10) (fits : magnitude * 10 + digit < 0x10000000000000000) :
    step (whole negative magnitude) (digitByte digit) =
      .extend (whole negative (magnitude * 10 + digit)) := by
  have size : (UInt64.ofNat magnitude).toNat = magnitude := by
    rw [UInt64.toNat_ofNat']
    omega
  have inRange :
      overflows ⟨.whole, negative, UInt64.ofNat magnitude, 0, false, 0⟩ digit = false := by
    simp only [overflows, size, decide_eq_false_iff_not]
    omega
  rw [whole, if_neg positive, step, byteDigit?_digitByte small]
  dsimp only
  rw [inRange, if_neg (by decide), append, whole, if_neg (by omega), size]

/-- Bytes that lead from one partial number to another. -/
inductive Extends : Bytes → PartialNumber → PartialNumber → Prop where
  | refl (number : PartialNumber) : Extends [] number number
  | cons {byte : UInt8} {later : Bytes} {first next last : PartialNumber}
      (step : first.step byte = .extend next) (rest : Extends later next last) :
      Extends (byte :: later) first last

theorem Extends.trans {bytes later : Bytes} {first next last : PartialNumber}
    (start : Extends bytes first next) (rest : Extends later next last) :
    Extends (bytes ++ later) first last := by
  induction start with
  | refl number => exact rest
  | cons step _ ih => exact .cons step (ih rest)

/-- The digits of a whole number: the first of them, and how the others extend it. -/
theorem extends_toDigits {magnitude : Nat} (fits : magnitude < 0x10000000000000000) :
    ∃ first rest, first < 10 ∧
      (Nat.toDigits 10 magnitude).flatMap String.utf8EncodeChar = digitByte first :: rest ∧
      ∀ negative, Extends rest (whole negative first) (whole negative magnitude) := by
  induction magnitude using Nat.strongRecOn with
  | ind magnitude ih =>
      by_cases single : magnitude < 10
      · refine ⟨magnitude, [], single, ?_, fun negative => .refl _⟩
        rw [Nat.toDigits_of_lt_base single, List.flatMap_singleton,
          utf8EncodeChar_digitChar single]
      · have least : 10 ≤ magnitude := by omega
        have lastSmall : magnitude % 10 < 10 := Nat.mod_lt magnitude (by decide)
        obtain ⟨first, rest, small, written, extended⟩ := ih (magnitude / 10) (by omega) (by omega)
        refine ⟨first, rest ++ [digitByte (magnitude % 10)], small, ?_, ?_⟩
        · rw [Nat.toDigits_of_base_le (by decide) least, List.flatMap_append, written,
            List.flatMap_singleton, utf8EncodeChar_digitChar lastSmall, List.cons_append]
        · intro negative
          have joined : magnitude / 10 * 10 + magnitude % 10 = magnitude := by omega
          have last : step (whole negative (magnitude / 10)) (digitByte (magnitude % 10)) =
              .extend (whole negative (magnitude / 10 * 10 + magnitude % 10)) :=
            step_whole (by omega) lastSmall (by omega)
          rw [joined] at last
          exact (extended negative).trans (.cons last (.refl _))

/-- Bytes that may follow a value in a written document. -/
def IsSeparator (byte : UInt8) : Prop := byte = 0x2C ∨ byte = 0x5D ∨ byte = 0x7D

/-- A whole number ends before a byte that separates values. -/
theorem step_separator {byte : UInt8} (separator : IsSeparator byte) (negative : Bool)
    (magnitude : Nat) : step (whole negative magnitude) byte = .ended := by
  unfold whole
  rcases separator with rfl | rfl | rfl
  · split <;> rfl
  · split <;> rfl
  · split <;> rfl

theorem finish_whole (number : Integer) :
    finish (whole (decide (number.value < 0)) number.value.natAbs) = .ok (.integer number) := by
  obtain ⟨value, least, bound⟩ := number
  have restored : Integer.ofInt? value = some ⟨value, least, bound⟩ := by
    rw [Integer.ofInt?, dif_pos ⟨least, bound⟩]
  by_cases zero : value = 0
  · subst zero
    simp [whole, finish, restored]
  · have size : (UInt64.ofNat value.natAbs).toNat = value.natAbs := by
      rw [UInt64.toNat_ofNat']
      omega
    have magnitude : value.natAbs ≠ 0 := by omega
    have signed : (if decide (value < 0) then -Int.ofNat value.natAbs
        else Int.ofNat value.natAbs) = value := by
      by_cases negative : value < 0
      · simp only [negative, decide_true, if_true, Int.ofNat_eq_natCast]
        omega
      · simp only [negative, decide_false, Int.ofNat_eq_natCast]
        simp
        omega
    have nonzero : ¬(decide (value < 0) = true ∧ Int.ofNat value.natAbs = 0) := by
      rintro ⟨_, zero⟩
      simp at zero
      omega
    dsimp only
    rw [whole, if_neg magnitude, finish]
    dsimp only
    rw [size, if_neg nonzero, signed, restored]

end PartialNumber
end Json
end RemoteCall
