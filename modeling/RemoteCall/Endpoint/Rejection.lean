import RemoteCall.Response.Factory
import RemoteCall.Service.Codec

/-!
# Requests that are not served

A server names the first reason for which a request cannot be served.  None of the reasons comes
after the work has begun, except that its result may turn out not to be encodable.
-/

namespace RemoteCall
namespace Endpoint

/-- Why a server does not serve a request, or cannot answer it (the errors of
`RpcRequestHandler::handle`). -/
inductive Rejection where
  | notPosted
  | undecodable (fault : CodecFault)
  /-- The interface or the method is not named readably. -/
  | unnamed (interface method : Option String)
  | notAList (kindName : String)
  | notRegistered (interface method : String)
  | notDeclared (interface method : String)
  | notInstantiated (className method explanation : String)
  | notOnObject (className method : String)
  | notDeferred (kindName : String)
  /-- The method was run, and its result cannot be encoded. -/
  | unencodable (fault : CodecFault)
  deriving DecidableEq, Repr

namespace Rejection

def message : Rejection → String
  | .notPosted => "HTTP Request METHOD MUST be POST."
  | .undecodable _ => "Failed to decode RPC parameters."
  | .unnamed interface method =>
      interface.getD "?interface" ++ "::" ++ method.getD "?method" ++ "() not found."
  | .notAList kindName => "Invalid parameter format (" ++ kindName ++ "). Array expected."
  | .notRegistered interface method =>
      "Failed to call " ++ interface ++ "::" ++ method ++ "(), because " ++ interface ++
        " is not registered."
  | .notDeclared interface method => interface ++ "::" ++ method ++ "() not found."
  | .notInstantiated className method _ =>
      "Failed to call " ++ className ++ "::" ++ method ++ "(), because " ++ className ++
        " is not exists."
  | .notOnObject className method =>
      "Failed to call " ++ className ++ "::" ++ method ++ "(), because " ++ method ++
        " is not exists in " ++ className ++ "."
  | .notDeferred kindName =>
      "RPC calls must always return an instance of Deferred, got " ++ kindName ++ "."
  | .unencodable fault =>
      "Failed to serialize RPC return value, due an error: " ++ fault.message ++ "."

def code : Rejection → Int64
  | .notPosted => 405
  | _ => 0

def cause : Rejection → Option Cause
  | .undecodable fault | .unencodable fault => some ⟨.codec, fault.message⟩
  | .notInstantiated _ _ explanation => some ⟨.instantiation, explanation⟩
  | _ => none

def failure (rejection : Rejection) : Failure :=
  ⟨.general, rejection.message, rejection.code, none, rejection.cause⟩

/-- What is known about the work of the call (in `RpcRequestHandler::handle`). -/
def certainty : Rejection → Certainty
  | .unencodable _ => .processed
  | _ => .unprocessed

/-- The answer that reports the rejection (`throwable_response`). -/
def response (rejection : Rejection) : Response :=
  Response.throwable (.ofFailure rejection.failure) rejection.certainty

end Rejection
end Endpoint
end RemoteCall
