import RemoteCall.Json.Printer
import RemoteCall.Text.Quoted

/-!
# Naming values

A value that is not of the kind expected is named in the refusal: by its kind and, if it has no
parts, by its written form.
-/

namespace RemoteCall
namespace Json

/-- How a value is named when it is not of the expected kind. -/
def Value.description : Value → String
  | .null => "null"
  | .bool true => "boolean \x60true\x60"
  | .bool false => "boolean \x60false\x60"
  | .integer number => "integer \x60" ++ String.ofList (integerText number) ++ "\x60"
  | .float number => "floating point \x60" ++ String.ofList (floatText number) ++ "\x60"
  | .string text => "string " ++ Text.quote text
  | .array _ => "sequence"
  | .object _ => "map"

/-- The wording of a value that is not of the expected kind. -/
def wrongTypeText (found expected : String) : String :=
  "invalid type: " ++ found ++ ", expected " ++ expected

end Json
end RemoteCall
