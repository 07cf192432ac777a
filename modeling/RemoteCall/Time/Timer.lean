/-!
# Timers

Waiting is done with timers that count milliseconds.  A timer cannot be set to more than thirty
years; one that is set to more goes off after thirty years.
-/

namespace RemoteCall
namespace Timer

/-- The milliseconds of thirty years of 365 days, the longest that a timer runs. -/
def limit : Nat := 30 * 365 * 24 * 60 * 60 * 1000

/-- The milliseconds after which a timer goes off that is set to some number of them. -/
def span (milliseconds : Nat) : Nat := min milliseconds limit

/-- Whether a wait is still going on when a timer for its bound, if there is one, goes off. -/
def expires (bound : Option Nat) (wait : Nat) : Bool :=
  match bound with
  | none => false
  | some bound => span bound < wait

end Timer
end RemoteCall
