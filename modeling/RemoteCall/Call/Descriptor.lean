import RemoteCall.Call.Outbound
import RemoteCall.Service.Parameters

/-!
# Calls

A call names an interface, a method and parameters.  Its request is built when it is first sent;
the request and the counts of retries and redirects last for the whole call.
-/

namespace RemoteCall

/-- One more, unless the greatest number is reached. -/
def increment (count : UInt32) : UInt32 := if count = 0xFFFFFFFF then count else count + 1

/-- A call with its request and its counters (`RpcCall`). -/
structure Call where
  interface : String
  method : String
  parameters : Parameters
  request : Option OutboundRequest
  retries : UInt32
  redirects : UInt32

namespace Call

/-- A call that has not been sent yet (`RpcCall::new`). -/
def fresh (interface method : String) (parameters : Parameters) : Call :=
  ⟨interface, method, parameters, none, 0, 0⟩

/-- Counts one retry (`RpcCall::bump_retrying_count`). -/
def countRetry (call : Call) : Call := { call with retries := increment call.retries }

/-- Counts one redirect (`RpcCall::bump_redirection_count`). -/
def countRedirect (call : Call) : Call := { call with redirects := increment call.redirects }

/-- The route key of the request, if it has been built and has one (`RpcCall::cache_key`). -/
def routeKey (call : Call) : Option String := call.request.bind OutboundRequest.routeKey

def withRequest (call : Call) (request : OutboundRequest) : Call :=
  { call with request := some request }

/-- The call as if its request had not been built. -/
def withoutRequest (call : Call) : Call := { call with request := none }

/-- The bound on the gaps in an answer to the request (in `RpcResponseHandler::handle_response`). -/
def inactivityBound (call : Call) : Option Nat :=
  (call.request.bind OutboundRequest.timeouts).map Timeouts.inactivity

end Call
end RemoteCall
