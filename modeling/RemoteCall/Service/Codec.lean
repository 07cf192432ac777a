import RemoteCall.Json.Printer
import RemoteCall.Json.Reader

/-!
# Codecs

Parameters and results travel as bytes.  A codec turns values into bytes and back; both sides of
a call have to use the same one.  The usual codec is JSON.
-/

namespace RemoteCall

/-- A failure of a codec, with its own explanation (`SerializationError`). -/
inductive CodecFault where
  | encoding (explanation : String)
  | decoding (explanation : String)
  deriving DecidableEq, Repr

def CodecFault.message : CodecFault → String
  | .encoding explanation => "failed to serialize value: " ++ explanation
  | .decoding explanation => "failed to deserialize value: " ++ explanation

/-- How values become bytes and back (`RpcSerializer`). -/
structure Codec where
  encode : Json.Value → Except CodecFault Bytes
  decode : Bytes → Except CodecFault Json.Value

namespace Codec

/-- The usual codec (`JsonSerializer`). -/
def json : Codec where
  encode value := .ok value.bytes
  decode document :=
    match Json.read document with
    | .ok value => .ok value
    | .error fault => .error (.decoding fault.message)

/-- The same codec, except that nothing can be encoded. -/
def withoutEncoding (codec : Codec) (explanation : String) : Codec :=
  { codec with encode := fun _ => .error (.encoding explanation) }

end Codec
end RemoteCall
