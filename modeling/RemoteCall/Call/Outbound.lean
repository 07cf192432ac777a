import RemoteCall.Http.Message

/-!
# Outbound requests

A call is sent as one request, which is built once and then only re-aimed: retries send it again
and redirects change its URI, so that the headers gathered on the way stay on it.
-/

namespace RemoteCall

/-- Bounds on time, in milliseconds (`RequestTimeouts`). -/
structure Timeouts where
  /-- The bound on the whole exchange. -/
  transfer : Nat
  /-- The bound on each gap in the answer. -/
  inactivity : Nat
  deriving DecidableEq, Repr

/-- Both bounds from one (`RequestTimeouts::from_request_timeout`). -/
def Timeouts.ofRequestTimeout (timeout : Nat) : Timeouts := ⟨timeout, timeout⟩

/-- The request of a call (`OutboundRequest`). -/
structure OutboundRequest extends Request where
  timeouts : Option Timeouts
  /-- The key under which the request's target is remembered, as it was built. -/
  routeKey : Option String
  deriving DecidableEq, Repr

namespace OutboundRequest

/-- A request with a body and nothing else (`OutboundRequest::post`). -/
def post (uri : Uri) (body : Bytes) : OutboundRequest where
  method := "POST"
  uri := uri
  fields := .empty
  body := body
  timeouts := none
  routeKey := none

/-- The request with another URI (`OutboundRequest::set_uri`). -/
def withUri (request : OutboundRequest) (uri : Uri) : OutboundRequest :=
  { request with uri := uri }

/-- The request with a header of the protocol (`OutboundRequest::set_rpc_header`). -/
def withHeader (request : OutboundRequest) (header : Header) (text : String) : OutboundRequest :=
  { request with fields := request.fields.write header text }

/-- The request with bounds on time (`OutboundRequest::set_timeouts`). -/
def withTimeouts (request : OutboundRequest) (timeouts : Timeouts) : OutboundRequest :=
  { request with timeouts := some timeouts }

/-- Records the route key, and forwards it as a header (`OutboundRequest::set_cache_key`). -/
def withRouteKey (request : OutboundRequest) (key : String) : OutboundRequest :=
  { request.withHeader .routeKey key with routeKey := some key }

end OutboundRequest
end RemoteCall
