import RemoteCall.Json.Expansion

/-!
# Shapes of values

A caller or a method that wants a typed value says which shape it expects.  Fitting a value to a
shape gives the value as the typed reader would write it back, or the first thing that does not
fit, in the order in which the reader meets it.
-/

namespace RemoteCall
namespace Json

inductive Scalar where
  | i64
  | u64
  | u8
  | f64
  | bool
  | string
  | unit
  | any
  deriving DecidableEq, Repr

inductive Shape where
  | plain (scalar : Scalar)
  /-- Null or the given scalar. -/
  | optional (scalar : Scalar)
  /-- An array of any length. -/
  | list (scalar : Scalar)
  /-- An object with these fields, or an array of as many items in their order. -/
  | record (name : String) (fields : List (String × Scalar))
  deriving DecidableEq, Repr

namespace Scalar

def expectation : Scalar → String
  | .i64 => "i64"
  | .u64 => "u64"
  | .u8 => "u8"
  | .f64 => "f64"
  | .bool => "a boolean"
  | .string => "a string"
  | .unit => "unit"
  | .any => "any value"

/-- Whether an integer lies in the range of the scalar. -/
def admits (scalar : Scalar) (number : Int) : Bool :=
  match scalar with
  | .i64 => -0x8000000000000000 ≤ number && number < 0x8000000000000000
  | .u64 => 0 ≤ number && number < 0x10000000000000000
  | .u8 => 0 ≤ number && number < 0x100
  | _ => false

/-- Fits a value to a scalar; a whole number is taken for a double where one is expected. -/
def fit (scalar : Scalar) (value : Value) : Except Mismatch Value :=
  match scalar, value with
  | .any, value => value.expand
  | .i64, .integer number | .u64, .integer number | .u8, .integer number =>
      if scalar.admits number.value then .ok value
      else .error (.outOfRange number scalar.expectation)
  | .f64, .integer number => .ok (.float (Double.ofInt number.value))
  | .f64, .float _ | .bool, .bool _ | .string, .string _ | .unit, .null => .ok value
  | _, found => .error (.wrongType found scalar.expectation)

def fitAll (scalar : Scalar) : List Value → Except Mismatch (List Value)
  | [] => .ok []
  | item :: later =>
      match scalar.fit item with
      | .error mismatch => .error mismatch
      | .ok fitted =>
          match scalar.fitAll later with
          | .error mismatch => .error mismatch
          | .ok others => .ok (fitted :: others)

end Scalar

namespace Shape

/-- Fits items to fields in order; `index` counts the fields before. -/
def fitItems (tooFew : String) (index : Nat) :
    List (String × Scalar) → List Value → Except Mismatch (List (String × Value))
  | [], [] => .ok []
  | [], rest => .error (.wrongLength (index + rest.length) "fewer elements in array")
  | _ :: _, [] => .error (.wrongLength index tooFew)
  | (name, scalar) :: fields, item :: later =>
      match scalar.fit item with
      | .error mismatch => .error mismatch
      | .ok fitted =>
          match fitItems tooFew (index + 1) fields later with
          | .error mismatch => .error mismatch
          | .ok others => .ok ((name, fitted) :: others)

/-- Fits the members of an object in their order; members that are not fields are passed over. -/
def fitMembers (fields : List (String × Scalar)) :
    List (String × Value) → Except Mismatch (List (String × Value))
  | [] => .ok []
  | (key, value) :: later =>
      match fields.lookup key with
      | none => fitMembers fields later
      | some scalar =>
          match scalar.fit value with
          | .error mismatch => .error mismatch
          | .ok fitted =>
              match fitMembers fields later with
              | .error mismatch => .error mismatch
              | .ok others => .ok ((key, fitted) :: others)

/-- The first field for which there is no member. -/
def missingField? (fields : List (String × Scalar)) (members : List (String × Value)) :
    Option String :=
  (fields.map Prod.fst).find? fun name => (members.lookup name).isNone

def objectOf (members : List (String × Value)) : Value :=
  .object (members.foldl (fun placed member => putMember member.1 member.2 placed) [])

/-- Fits a value to a shape, as `positional_param` and `RpcProxy::call` do. -/
def fit (shape : Shape) (value : Value) : Except Mismatch Value :=
  match shape, value with
  | .plain scalar, value => scalar.fit value
  | .optional _, .null => .ok .null
  | .optional scalar, value => scalar.fit value
  | .list scalar, .array items =>
      match scalar.fitAll items with
      | .error mismatch => .error mismatch
      | .ok fitted => .ok (.array fitted)
  | .list _, found => .error (.wrongType found "a sequence")
  | .record name fields, .array items =>
      let tooFew := "struct " ++ name ++ " with " ++ toString fields.length ++ " elements"
      match fitItems tooFew 0 fields items with
      | .error mismatch => .error mismatch
      | .ok members => .ok (objectOf members)
  | .record _ fields, .object members =>
      match fitMembers fields members with
      | .error mismatch => .error mismatch
      | .ok fitted =>
          match missingField? fields fitted with
          | some name => .error (.missingField name)
          | none => .ok (objectOf fitted)
  | .record name _, found => .error (.wrongType found ("struct " ++ name))

end Shape
end Json
end RemoteCall
