import RemoteCall.Json.Fault
import RemoteCall.Json.Value

/-!
# Reading JSON numbers

A number is read digit by digit into a significand of sixty-four bits.  Without point and exponent
it stays a whole number as long as it fits; everything else is scaled by a power of ten to a
double.  Digits that no longer fit the significand count towards the exponent before the point and
are left out after it, so long numerals may differ from the nearest double in the last place.
-/

namespace RemoteCall
namespace Json

inductive NumberStage where
  /-- Only the minus sign has been read. -/
  | sign
  /-- The number starts with a zero. -/
  | zero
  /-- Digits before the point, all of them in the significand. -/
  | whole
  /-- Digits before the point that no longer fit. -/
  | wholeOverflow
  /-- The point, without a digit after it. -/
  | point
  /-- Digits after the point, all of them in the significand. -/
  | fraction
  /-- Digits after the point that no longer fit. -/
  | fractionOverflow
  /-- The exponent mark. -/
  | exponentMark
  /-- The sign of the exponent. -/
  | exponentSign
  /-- Digits of the exponent. -/
  | exponent
  /-- Digits of an exponent so small that the number is zero. -/
  | vanishing
  deriving DecidableEq, Repr

/-- A number of which some bytes have been read. -/
structure PartialNumber where
  stage : NumberStage
  negative : Bool
  significand : UInt64
  /-- The power of ten that scales the significand. -/
  scale : Int
  exponentNegative : Bool
  exponent : Nat
  deriving DecidableEq, Repr

inductive NumberStep where
  /-- The byte belongs to the number. -/
  | extend (number : PartialNumber)
  /-- The number ended before the byte. -/
  | ended
  /-- The byte, and with it the document, is refused. -/
  | refuse (kind : FaultKind)

/-- The decimal digit that a byte stands for. -/
def byteDigit? (byte : UInt8) : Option Nat :=
  if 0x30 ≤ byte ∧ byte ≤ 0x39 then some (byte.toNat - 0x30) else none

namespace PartialNumber

/-- A number that starts with this byte, if one does. -/
def ofByte? (byte : UInt8) : Option PartialNumber :=
  if byte = 0x2D then some ⟨.sign, true, 0, 0, false, 0⟩
  else
    match byteDigit? byte with
    | some 0 => some ⟨.zero, false, 0, 0, false, 0⟩
    | some digit => some ⟨.whole, false, UInt64.ofNat digit, 0, false, 0⟩
    | none => none

/-- Whether the significand has no room for another digit. -/
def overflows (number : PartialNumber) (digit : Nat) : Bool :=
  0x10000000000000000 ≤ number.significand.toNat * 10 + digit

/-- Another digit at the end of the significand. -/
def append (number : PartialNumber) (digit : Nat) : PartialNumber :=
  { number with significand := UInt64.ofNat (number.significand.toNat * 10 + digit) }

/-- A byte after the whole part or after a fraction that is not one of its digits. -/
def afterDigits (number : PartialNumber) (pointAllowed : Bool) (byte : UInt8) : NumberStep :=
  if byte = 0x2E ∧ pointAllowed then .extend { number with stage := .point }
  else if byte = 0x65 ∨ byte = 0x45 then .extend { number with stage := .exponentMark }
  else .ended

def step (number : PartialNumber) (byte : UInt8) : NumberStep :=
  match number.stage, byteDigit? byte with
  | .sign, some 0 => .extend { number with stage := .zero }
  | .sign, some digit => .extend { number.append digit with stage := .whole }
  | .sign, none => .refuse .invalidNumber
  | .zero, some _ => .refuse .invalidNumber
  | .zero, none => number.afterDigits true byte
  | .whole, some digit =>
      if number.overflows digit then
        .extend { number with stage := .wholeOverflow, scale := number.scale + 1 }
      else .extend (number.append digit)
  | .whole, none => number.afterDigits true byte
  | .wholeOverflow, some _ => .extend { number with scale := number.scale + 1 }
  | .wholeOverflow, none => number.afterDigits true byte
  | .point, some digit | .fraction, some digit =>
      if number.overflows digit then .extend { number with stage := .fractionOverflow }
      else
        .extend { number.append digit with stage := .fraction, scale := number.scale - 1 }
  | .point, none => .refuse .invalidNumber
  | .fraction, none => number.afterDigits false byte
  | .fractionOverflow, some _ => .extend number
  | .fractionOverflow, none => number.afterDigits false byte
  | .exponentMark, some digit | .exponentSign, some digit =>
      .extend { number with stage := .exponent, exponent := digit }
  | .exponentMark, none =>
      if byte = 0x2B then .extend { number with stage := .exponentSign }
      else if byte = 0x2D then
        .extend { number with stage := .exponentSign, exponentNegative := true }
      else .refuse .invalidNumber
  | .exponentSign, none => .refuse .invalidNumber
  | .exponent, some digit =>
      if number.exponent * 10 + digit < 0x80000000 then
        .extend { number with exponent := number.exponent * 10 + digit }
      else if number.significand ≠ 0 ∧ ¬number.exponentNegative then .refuse .numberOutOfRange
      else .extend { number with stage := .vanishing }
  | .exponent, none => .ended
  | .vanishing, some _ => .extend number
  | .vanishing, none => .ended

def finalScale (number : PartialNumber) : Int :=
  let exponent : Int := if number.exponentNegative then -number.exponent else number.exponent
  max (-0x80000000) (min 0x7FFFFFFF (number.scale + exponent))

/-- The power of ten with this exponent as a double. -/
def powerOfTen (exponent : Nat) : Float := Float.ofScientific 1 false exponent

/-- Multiplies or divides by a power of ten.  A scale below the least tabulated power is applied
in several divisions, at most as many as the fuel. -/
def scaled : Nat → Float → Int → Option Float
  | 0, value, _ => some value
  | fuel + 1, value, scale =>
      if scale.natAbs ≤ 308 then
        if 0 ≤ scale then
          let product := value * powerOfTen scale.natAbs
          if product.isInf then none else some product
        else some (value / powerOfTen scale.natAbs)
      else if value == 0 then some value
      else if 0 ≤ scale then none
      else scaled fuel (value / powerOfTen 308) (scale + 308)

/-- The magnitude given the sign of the number. -/
def signed (number : PartialNumber) (value : Float) : Value :=
  .float (Double.ofFloat (if number.negative then -value else value))

/-- The double of a number with a fraction, an exponent or too many digits. -/
def inexact (number : PartialNumber) : Except FaultKind Value :=
  match scaled 8 number.significand.toFloat number.finalScale with
  | some value => .ok (number.signed value)
  | none => .error .numberOutOfRange

def finish (number : PartialNumber) : Except FaultKind Value :=
  match number.stage with
  | .sign | .point | .exponentMark | .exponentSign => .error .endInValue
  | .zero | .whole =>
      let magnitude := Int.ofNat number.significand.toNat
      if number.negative ∧ magnitude = 0 then .ok (number.signed 0)
      else
        match Integer.ofInt? (if number.negative then -magnitude else magnitude) with
        | some whole => .ok (.integer whole)
        | none => .ok (number.signed number.significand.toFloat)
  | .wholeOverflow | .fraction | .fractionOverflow | .exponent => number.inexact
  | .vanishing => .ok (number.signed 0)

end PartialNumber
end Json
end RemoteCall
