/-!
# Double precision numbers

A double precision number is kept as its sixty-four bits, so that two of them are the same exactly
when no reader can tell them apart; the zeros of both signs differ.  The magnitude of a finite one
is a whole significand times a power of two.
-/

namespace RemoteCall

structure Double where
  bits : UInt64
  deriving DecidableEq, Repr, Inhabited

namespace Double

def ofFloat (value : Float) : Double := ⟨value.toBits⟩

/-- The number as floating point arithmetic takes it. -/
def toFloat (number : Double) : Float := Float.ofBits number.bits

def isNegative (number : Double) : Bool := 0x8000000000000000 ≤ number.bits.toNat

def exponentBits (number : Double) : Nat := number.bits.toNat / 0x10000000000000 % 0x800

def fractionBits (number : Double) : Nat := number.bits.toNat % 0x10000000000000

def isFinite (number : Double) : Bool := number.exponentBits != 0x7FF

/-- The whole number that a power of two scales to the magnitude. -/
def significand (number : Double) : Nat :=
  if number.exponentBits = 0 then number.fractionBits else number.fractionBits + 0x10000000000000

/-- The power of two that scales the significand. -/
def exponent (number : Double) : Int :=
  if number.exponentBits = 0 then -1074 else Int.ofNat number.exponentBits - 1075

/-- Whether the next smaller magnitude lies half as far away as the next larger one. -/
def isLeastOfBinade (number : Double) : Bool :=
  number.fractionBits == 0 && 1 < number.exponentBits

/-- The double nearest to an integer of at most sixty-four bits. -/
def ofInt (value : Int) : Double :=
  if value < 0 then ofFloat (-(UInt64.ofNat value.natAbs).toFloat)
  else ofFloat (UInt64.ofNat value.natAbs).toFloat

end Double
end RemoteCall
