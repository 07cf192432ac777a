import RemoteCall.Json.Description
import RemoteCall.Json.Fault

/-!
# Why a value does not fit

Fitting a value to what is expected of it ends with the first thing that does not fit, in the
order in which the parts of the value are visited.
-/

namespace RemoteCall
namespace Json

/-- Why a value does not have a shape. -/
inductive Mismatch where
  | wrongType (found : Value) (expected : String)
  | outOfRange (number : Integer) (expected : String)
  | wrongLength (length : Nat) (expected : String)
  | missingField (name : String)
  /-- A value under construction has a key that is not a text. -/
  | keyNotString
  /-- An embedded document is refused. -/
  | unreadable (fault : Fault)

def Mismatch.message : Mismatch → String
  | .wrongType found expected => wrongTypeText found.description expected
  | .outOfRange number expected =>
      "invalid value: " ++ (Value.integer number).description ++ ", expected " ++ expected
  | .wrongLength length expected =>
      "invalid length " ++ toString length ++ ", expected " ++ expected
  | .missingField name => "missing field \x60" ++ name ++ "\x60"
  | .keyNotString => FaultKind.keyNotString.message
  | .unreadable fault => fault.message

end Json
end RemoteCall
