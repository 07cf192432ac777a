import RemoteCall.Json.Shape
import RemoteCall.Service.RemoteError

/-!
# Positional parameters

A remote method receives its parameters as a list and picks them by position, each with the shape
it expects.
-/

namespace RemoteCall

abbrev Parameters := List Json.Value

namespace Parameters

/-- A parameter is not there (in `positional_param`). -/
def missing (index passed : Nat) : RemoteError where
  className := "ArgumentCountError"
  message :=
    "Too few arguments: parameter #" ++ toString index ++ " is missing, " ++ toString passed ++
      " passed"
  code := 0

/-- A parameter does not have the shape expected of it (in `positional_param`). -/
def mistyped (index : Nat) (mismatch : Json.Mismatch) : RemoteError where
  className := "TypeError"
  message := "Parameter #" ++ toString index ++ " has an unexpected type: " ++ mismatch.message
  code := 0

/-- The parameter at a position, fitted to a shape (`positional_param`). -/
def read (parameters : Parameters) (index : Nat) (shape : Json.Shape) :
    Except RemoteError Json.Value :=
  match parameters[index]? with
  | none => .error (missing index parameters.length)
  | some value =>
      match shape.fit value with
      | .ok fitted => .ok fitted
      | .error mismatch => .error (mistyped index mismatch)

end Parameters
end RemoteCall
