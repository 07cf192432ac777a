/-!
# Durations in words

A span of time is written in the largest of four units that does not exceed it, with as many
decimals as it needs.
-/

namespace RemoteCall

structure Duration where
  nanoseconds : Nat
  deriving DecidableEq, Repr

namespace Duration

def ofMilliseconds (milliseconds : Nat) : Duration := ⟨milliseconds * 1000000⟩

/-- The decimals of a fraction, `digits` of them, without trailing zeros. -/
def decimals (digits fraction : Nat) : List Char :=
  let written := Nat.toDigits 10 fraction
  let padded := List.replicate (digits - written.length) '0' ++ written
  (padded.reverse.dropWhile (· = '0')).reverse

/-- An amount of a unit that is a power of ten of nanoseconds. -/
def inUnit (duration : Duration) (digits : Nat) (unit : String) : String :=
  let fraction := decimals digits (duration.nanoseconds % Nat.pow 10 digits)
  let whole := toString (duration.nanoseconds / Nat.pow 10 digits)
  if fraction.isEmpty then whole ++ unit else whole ++ "." ++ String.ofList fraction ++ unit

/-- The written form: seconds, milliseconds, microseconds or nanoseconds. -/
def text (duration : Duration) : String :=
  if 1000000000 ≤ duration.nanoseconds then duration.inUnit 9 "s"
  else if 1000000 ≤ duration.nanoseconds then duration.inUnit 6 "ms"
  else if 1000 ≤ duration.nanoseconds then duration.inUnit 3 "µs"
  else toString duration.nanoseconds ++ "ns"

end Duration
end RemoteCall
