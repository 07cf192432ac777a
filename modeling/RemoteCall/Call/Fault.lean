import RemoteCall.Call.Redirect
import RemoteCall.Failure.Basic
import RemoteCall.Http.Body
import RemoteCall.Http.Status
import RemoteCall.Net.Resolver
import RemoteCall.Service.Codec
import RemoteCall.Time.Duration

/-!
# Why calls fail

A call fails because its request cannot be built, because it does not reach a server or the answer
does not come back, because the answer makes no sense, or because the allowed attempts are used
up.  Each reason has a kind, which tells what is known about effects, and a wording.
-/

namespace RemoteCall

/-- Why no answer to a request came (`TransportError`). -/
inductive TransportFault where
  /-- The server did not process the request. -/
  | unprocessed (explanation : String)
  | timedOut (after : Duration)
  | failed (explanation : String)
  deriving DecidableEq, Repr

def TransportFault.message : TransportFault → String
  | .unprocessed explanation => "request was not processed: " ++ explanation
  | .timedOut duration => "request timed out after " ++ duration.text
  | .failed explanation => "transport failure: " ++ explanation

/-- Why a request cannot be built (`RequestBuildError`). -/
inductive BuildFault where
  | parameters (interface method : String) (fault : CodecFault)
  | lookup (fault : Net.LookupFault)
  | aim (fault : Uri.AimFault)
  /-- The remembered target is not a URI. -/
  | rememberedTarget (target : String) (fault : Uri.Fault)
  deriving DecidableEq, Repr

/-- The wording of a request that cannot be built. -/
def BuildFault.message : BuildFault → String
  | .parameters interface method fault =>
      "Failed to serialize RPC parameters for " ++ interface ++ "::" ++ method ++
        "() due an error: " ++ fault.message ++ "."
  | .lookup fault => fault.message
  | .aim fault => fault.message
  | .rememberedTarget target fault =>
      "cached target \x60" ++ target ++ "\x60 is not a valid uri: " ++ fault.message

/-- Why a call fails of itself, with one case for each error that `RpcClient::call` and
`RpcResponseHandler::handle_response` make. -/
inductive CallFault where
  | notBuilt (fault : BuildFault)
  /-- No server processed the request, and no attempt is left. -/
  | unreached (explanation : String)
  /-- The exchange failed in a way that leaves open what happened. -/
  | interrupted (fault : TransportFault)
  /-- The answer does not say of which kind it is. -/
  | untyped
  | serverError (status : Status)
  | retriesForbidden
  | retriesExceeded (limit : UInt32)
  | unreadable (fault : Body.Fault)
  | undecodable (fault : CodecFault)
  | unexpectedStatus (status : Status) (body : Bytes)
  /-- A redirect came, and there is no request to send again. -/
  | requestForgotten
  | redirectsForbidden
  | redirectsExceeded (limit : UInt32)
  | redirectWithoutHost
  | invalidRedirect (fault : RedirectFault)
  deriving DecidableEq, Repr

namespace CallFault

def kind : CallFault → FailureKind
  | .notBuilt _ | .unreached _ | .serverError _ | .retriesForbidden | .requestForgotten
  | .redirectsForbidden | .redirectWithoutHost | .invalidRedirect _ => .unprocessed
  | .interrupted _ | .untyped | .unreadable _ | .undecodable _ | .unexpectedStatus _ _ =>
      .possiblyProcessed
  | .retriesExceeded _ => .retriesExceeded
  | .redirectsExceeded _ => .redirectsExceeded

/-- The wording of a failed call to a method, given as `interface::method()`. -/
def message (method : String) : CallFault → String
  | .notBuilt fault =>
      "Failed RPC call for " ++ method ++ " due to request building fail. Error message: " ++
        fault.message ++ "."
  | .unreached explanation =>
      "Failed RPC call due to an HTTP communication failure for " ++ method ++
        ". The request was not processed. Error message: " ++ explanation ++ "."
  | .interrupted fault =>
      "Failed RPC call due to an HTTP communication failure for " ++ method ++
        ". Error message: " ++ fault.message ++ "."
  | .untyped =>
      "Failed RPC call to " ++ method ++ " because RPC response type header value is missing or " ++
        "is not one of these: " ++ ResponseType.joinedTags ++ "."
  | .serverError status =>
      "Failed RPC call for " ++ method ++ ". Status code: " ++ toString status.code ++
        ". Reason: " ++ status.reason ++ "."
  | .retriesForbidden =>
      "Failed RPC call for " ++ method ++ ". This request is not allowed retries."
  | .retriesExceeded limit =>
      "Failed RPC call for " ++ method ++ ". Maximum number of retries (" ++
        toString limit.toNat ++ ") exceeded."
  | .unreadable fault =>
      "Failed to buffer RPC result for " ++ method ++ ". Error message: " ++ fault.message ++ "."
  | .undecodable fault =>
      "Failed to deserialize RPC result for " ++ method ++ ". Error message: " ++
        fault.message ++ "."
  | .unexpectedStatus status body =>
      "Failed RPC call to " ++ method ++ " due to an unexpected HTTP status code: " ++
        toString status.code ++ ". Reason: " ++ status.reason ++ ". \r\n " ++
        Text.decodeLenient body ++ "."
  | .requestForgotten =>
      "Failed RPC call for " ++ method ++ ". RpcCall object does not contain Request object"
  | .redirectsForbidden =>
      "Failed RPC call for " ++ method ++ ". This request is not allowed to follow redirect"
  | .redirectsExceeded limit =>
      "Failed RPC call for " ++ method ++ ". Maximum number of redirects (" ++
        toString limit.toNat ++ ") exceeded."
  | .redirectWithoutHost =>
      "Failed RPC call for " ++ method ++ ". " ++ Header.redirectHost.canonicalName ++
        " request header not specified."
  | .invalidRedirect fault =>
      "Failed RPC call for " ++ method ++ ". Invalid redirect target: " ++ fault.message ++ "."

def cause : CallFault → Option Cause
  | .notBuilt fault => some ⟨.requestBuilding, fault.message⟩
  | .unreached explanation => some ⟨.unprocessedRequest, explanation⟩
  | .interrupted fault => some ⟨.transport, fault.message⟩
  | .unreadable fault => some ⟨.responseBody, fault.message⟩
  | .undecodable fault => some ⟨.codec, fault.message⟩
  | _ => none

/-- The failure that the caller of a method learns of. -/
def failure (fault : CallFault) (interface method : String) : Failure :=
  { kind := fault.kind
    message := fault.message (interface ++ "::" ++ method ++ "()")
    code := 0
    remoteClass := none
    cause := fault.cause }

end CallFault
end RemoteCall
