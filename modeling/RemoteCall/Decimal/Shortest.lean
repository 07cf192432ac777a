import RemoteCall.Decimal.Double

/-!
# The fewest digits that read back

Among the decimals that round to a given double, those with the fewest digits are wanted, and of
these the nearest.  For one, two, … seventeen digits the two neighbours of the number on that
decimal grid are tried in exact arithmetic; the first grid with a hit wins.
-/

namespace RemoteCall

/-- A decimal, its digits read as a whole number times a power of ten. -/
structure Scientific where
  digits : Nat
  exponent : Int
  deriving DecidableEq, Repr

namespace Scientific

/-- Drops trailing zero digits, at most as many as the fuel. -/
def trimmed : Nat → Scientific → Scientific
  | 0, decimal => decimal
  | fuel + 1, decimal =>
      if decimal.digits ≠ 0 ∧ decimal.digits % 10 = 0 then
        trimmed fuel ⟨decimal.digits / 10, decimal.exponent + 1⟩
      else decimal

end Scientific

/-- The rationals that round to a positive double: the double itself, the ends of the interval
around it, all over one denominator, and whether the ends belong to it. -/
structure RoundingInterval where
  center : Nat
  low : Nat
  high : Nat
  denominator : Nat
  closed : Bool

namespace RoundingInterval

/-- The rounding interval of the magnitude of a double.  The ends lie half way to the neighbours
and round to the double when its significand is even. -/
def ofDouble (number : Double) : RoundingInterval :=
  let center := number.significand * 4
  let below := if number.isLeastOfBinade then 1 else 2
  let scale := Nat.pow 2 (number.exponent - 2).toNat
  { center := center * scale
    low := (center - below) * scale
    high := (center + 2) * scale
    denominator := Nat.pow 2 (2 - number.exponent).toNat
    closed := number.significand % 2 == 0 }

/-- Whether `digits · 10 ^ exponent` rounds to the double. -/
def contains (interval : RoundingInterval) (decimal : Scientific) : Bool :=
  let value := decimal.digits * Nat.pow 10 decimal.exponent.toNat * interval.denominator
  let scale := Nat.pow 10 (-decimal.exponent).toNat
  if interval.closed then interval.low * scale ≤ value && value ≤ interval.high * scale
  else interval.low * scale < value && value < interval.high * scale

/-- The power of ten just above a positive number: for a number below one by counting the tens
that bring it to one, else by counting digits. -/
def magnitude (interval : RoundingInterval) : Int :=
  let whole := interval.center / interval.denominator
  if whole ≠ 0 then Int.ofNat (Nat.toDigits 10 whole).length
  else
    let tens := (List.range 400).find? fun tens =>
      interval.denominator ≤ interval.center * Nat.pow 10 (tens + 1)
    Int.negOfNat (tens.getD 0)

/-- The neighbour of the number on the grid of a power of ten that rounds to the double, the
nearer one if both do, and of two equally near ones the even one. -/
def onGrid? (interval : RoundingInterval) (exponent : Int) : Option Scientific :=
  let unit := interval.denominator * Nat.pow 10 exponent.toNat
  let scaled := interval.center * Nat.pow 10 (-exponent).toNat
  let below : Scientific := ⟨scaled / unit, exponent⟩
  let above : Scientific := ⟨scaled / unit + 1, exponent⟩
  let rest := scaled % unit
  let belowFirst := rest * 2 < unit || (rest * 2 == unit && below.digits % 2 == 0)
  match interval.contains below, interval.contains above with
  | true, true => some (if belowFirst then below else above)
  | true, false => some below
  | false, true => some above
  | false, false => none

end RoundingInterval

/-- The nearest of the shortest decimals that round to the magnitude of a finite nonzero double. -/
def Double.shortest (number : Double) : Scientific :=
  let interval := RoundingInterval.ofDouble number
  let magnitude := interval.magnitude
  let found := (List.range 17).findSome? fun digits =>
    interval.onGrid? (magnitude - Int.ofNat (digits + 1))
  (found.getD ⟨0, 0⟩).trimmed 20

end RemoteCall
