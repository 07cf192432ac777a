import RemoteCall.Http.Fields
import RemoteCall.Http.Status
import RemoteCall.Uri.Basic

/-!
# Messages

Requests and responses as both sides of a call see them, with their bodies in one piece.
-/

namespace RemoteCall

/-- A request as a server gets it (`RpcRequest`). -/
structure Request where
  method : String
  uri : Uri
  fields : Fields
  body : Bytes
  deriving DecidableEq, Repr

/-- The part of a response that comes before its body. -/
structure ResponseHead where
  status : Status
  fields : Fields
  deriving DecidableEq, Repr

/-- An answer as a server gives it (`RpcHttpResponse`). -/
structure Response where
  status : Status
  fields : Fields
  body : Bytes
  deriving DecidableEq, Repr

/-- The part of the response that comes before its body. -/
def Response.head (response : Response) : ResponseHead := ⟨response.status, response.fields⟩

end RemoteCall
