import RemoteCall.Http.Message
import RemoteCall.Service.Interface
import RemoteCall.Service.Parameters

/-!
# Remote objects

An object serves the methods of an interface.  Dispatching a method either finds none, gives a
value at once, which no remote call may do, or gives a reply that comes later.
-/

namespace RemoteCall

/-- What a method replies with: a result, or an answer that is passed on as it is (`Reply`). -/
inductive Reply where
  | value (value : Json.Value)
  | response (response : Response)

/-- A reply that comes later: the milliseconds until then and what it comes to (`ReplyFuture`). -/
structure Deferred where
  wait : Nat
  outcome : Except RemoteError Reply

/-- What dispatching a method gives (`Invocation`). -/
inductive Invocation where
  | deferred (reply : Deferred)
  | immediate (value : Json.Value)

namespace Invocation

/-- The name of the kind of invocation: for a value at once the kind of that value
(`Invocation::kind_name`). -/
def kindName : Invocation → String
  | .deferred _ => "Deferred"
  | .immediate value => value.kindName

/-- The invocation as it is shown to a developer (`Invocation::fmt`). -/
def description : Invocation → String
  | .deferred _ => "Invocation::Deferred(..)"
  | .immediate value => "Invocation::Immediate(" ++ value.text ++ ")"

/-- A reply that is there at once (`Invocation::deferred_value`). -/
def ofOutcome (outcome : Except RemoteError Json.Value) : Invocation :=
  .deferred ⟨0, outcome.map .value⟩

end Invocation

/-- An object that serves methods (`RemoteObject`). -/
structure RemoteObject where
  className : String
  implements : Interface → Bool
  dispatch : String → Parameters → Option Invocation

end RemoteCall
