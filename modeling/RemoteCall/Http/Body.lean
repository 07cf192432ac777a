import RemoteCall.Http.Fields

/-!
# Receiving a body

A body arrives in frames, each after some wait.  It is gathered as a whole or not at all: an error
before its end, or a wait longer than the bound on inactivity, loses everything that arrived.
The bound applies to each wait alone, so a body may take any time in total.
-/

namespace RemoteCall
namespace Body

/-- A part of a body as it arrives. -/
inductive Frame where
  | data (bytes : Bytes)
  | trailers (fields : Fields)
  /-- The connection failed, with its own explanation. -/
  | broken (explanation : String)
  deriving DecidableEq, Repr

/-- A frame and the wait before it, in milliseconds. -/
structure TimedFrame where
  wait : Nat
  frame : Frame
  deriving DecidableEq, Repr

/-- A body as it arrives: its frames, and the wait between the last of them and the end. -/
structure Stream where
  frames : List TimedFrame
  ending : Nat
  deriving DecidableEq, Repr

/-- Why a body cannot be gathered (the errors of `buffer_response_body`). -/
inductive Fault where
  | inactive
  | broken (explanation : String)
  deriving DecidableEq, Repr

/-- The wording of a body that could not be gathered. -/
def Fault.message : Fault → String
  | .inactive => "deadline has elapsed"
  | .broken explanation => explanation

/-- What gathering a body comes to, and the milliseconds it takes. -/
structure Gathered where
  result : Except Fault Bytes
  elapsed : Nat

/-- Whether a wait is longer than a bound on it, if there is one. -/
def overdue (bound : Option Nat) (wait : Nat) : Bool :=
  match bound with
  | none => false
  | some bound => bound < wait

/-- Gathers what is left of a body; `elapsed` counts the milliseconds so far (the loop of
`buffer_response_body`). -/
def gatherFrom (bound : Option Nat) (ending elapsed : Nat) : List TimedFrame → Gathered
  | [] =>
      if overdue bound ending then ⟨.error .inactive, elapsed + bound.getD 0⟩
      else ⟨.ok [], elapsed + ending⟩
  | timed :: later =>
      if overdue bound timed.wait then ⟨.error .inactive, elapsed + bound.getD 0⟩
      else
        match timed.frame with
        | .data bytes =>
            let rest := gatherFrom bound ending (elapsed + timed.wait) later
            ⟨rest.result.map (bytes ++ ·), rest.elapsed⟩
        | .trailers _ => gatherFrom bound ending (elapsed + timed.wait) later
        | .broken explanation => ⟨.error (.broken explanation), elapsed + timed.wait⟩

/-- Gathers a body under a bound on inactivity (`buffer_response_body`). -/
def gather (bound : Option Nat) (body : Stream) : Gathered :=
  gatherFrom bound body.ending 0 body.frames

/-- A body of which the end follows the last frame at once. -/
def Stream.ofFrames (frames : List TimedFrame) : Stream := ⟨frames, 0⟩

def Stream.ofBytes (bytes : Bytes) : Stream := .ofFrames [⟨0, .data bytes⟩]

end Body
end RemoteCall
