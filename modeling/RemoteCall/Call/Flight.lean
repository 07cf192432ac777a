import RemoteCall.Call.Client
import RemoteCall.Failure.Reported

/-!
# Calls in flight

A flight is one run of `RpcClient::call` and `RpcResponseHandler::handle_response`, which call each
other for every retry and every redirect.  A call in flight waits for one thing at a time: the
addresses of a host, the answer to its request, the body of that answer, or the end of a pause.
What it does next depends on the event alone and on the routing cache, which it may share with
other calls; so a run of a call is a fold over events, and several calls on one cache interleave
event by event.

Each attempt of a call ends by remembering its target under the route key it was made with, or by
forgetting that key.  An attempt that is repeated within another one stays open until the repeated
one has ended, and open attempts end from the latest to the earliest.
-/

namespace RemoteCall
namespace Flight

/-- What a call waits for: a point at which `RpcClient::call` or
`RpcResponseHandler::handle_response` awaits something. -/
inductive Stage where
  /-- The addresses of a host, which the request still lacks. -/
  | resolving (host : String) (draft : OutboundRequest)
  /-- The answer to a request. -/
  | sending (request : OutboundRequest)
  /-- The body of an answer of a kind. -/
  | reading (head : ResponseHead) (kind : ResponseType)
  /-- The end of a pause, in milliseconds. -/
  | pausing (milliseconds : Nat)
  /-- Nothing more. -/
  | settled (outcome : Outcome)

/-- An event that a call can wait for. -/
inductive Event where
  | resolved (found : Except Net.LookupFault (List Net.Address))
  | answered (head : ResponseHead)
  | unanswered (fault : TransportFault)
  | received (body : Except Body.Fault Bytes)
  | resumed

end Flight

/-- One run of `RpcClient::call` that waits at a stage. -/
structure Flight where
  call : Call
  /-- The route keys of the open attempts, the latest first. -/
  attempts : List (Option String)
  stage : Flight.Stage

namespace Flight

/-- Ends one attempt of a call: success remembers the target of the request unless something is
remembered already, failure forgets what is remembered (the end of `RpcClient::call`, with
`RpcClient::remember_resolved_target`). -/
def concludeAttempt (call : Call) (outcome : Outcome) (cache : Route.Cache) :
    Option String → Route.Cache
  | none => cache
  | some key =>
      match outcome with
      | .error _ => cache.remove key
      | .ok _ =>
          if cache.contains key then cache
          else
            match call.request with
            | some request => cache.put key request.uri.targetText
            | none => cache

/-- Ends the call with all attempts that are still open (`RpcClient::call` returns, innermost
first). -/
def settle (flight : Flight) (cache : Route.Cache) (outcome : Outcome) : Flight × Route.Cache :=
  ({ flight with attempts := [], stage := .settled outcome },
    flight.attempts.foldl (concludeAttempt flight.call outcome) cache)

/-- Ends the call with a failure. -/
def fail (flight : Flight) (cache : Route.Cache) (fault : CallFault) : Flight × Route.Cache :=
  flight.settle cache (.error (fault.failure flight.call.interface flight.call.method))

/-- Sends a request, which opens an attempt (`RpcTransport::send` in `RpcClient::call`). -/
def send (flight : Flight) (request : OutboundRequest) : Flight :=
  { call := flight.call.withRequest request
    attempts := request.routeKey :: flight.attempts
    stage := .sending request }

/-- Makes an attempt, building the request if the call has none (`RpcClient::call` up to the
sending). -/
def attempt (client : Client) (flight : Flight) (cache : Route.Cache) : Flight × Route.Cache :=
  match flight.call.request with
  | some request => (flight.send request, cache)
  | none =>
      match client.prepare cache flight.call with
      | (.ready request, cache) => (flight.send request, cache)
      | (.lookup host draft, cache) => ({ flight with stage := .resolving host draft }, cache)
      | (.failed fault, cache) => flight.fail cache (.notBuilt fault)

/-- Starts a call (`RpcClient::call`; `RpcClient::invoke` starts a fresh one). -/
def start (client : Client) (call : Call) (cache : Route.Cache) : Flight × Route.Cache :=
  attempt client ⟨call, [], .pausing 0⟩ cache

/-- Forgets what is remembered under a key, if there is one
(`RpcClient::remove_item_from_request_to_uri_cache`). -/
def forget (cache : Route.Cache) : Option String → Route.Cache
  | none => cache
  | some key => cache.remove key

/-- Whether a retry is allowed after those counted so far (in `RpcClient::call` and
`RpcResponseHandler::handle_response`). -/
def mayRetry (client : Client) (call : Call) : Bool :=
  call.retries < client.settings.retriesLimit

/-- The pause that an answer asks for: a positive number of milliseconds, or else the usual one (in
`RpcResponseHandler::handle_response`). -/
def suggestedPause (client : Client) (fields : Fields) : Nat :=
  match (fields.read .retryDelay).bind fun text =>
      Text.readNatural? 0x10000000000000000 (Text.trimmed text) with
  | some milliseconds =>
      if milliseconds = 0 then client.settings.retryDelay else milliseconds
  | none => client.settings.retryDelay

/-- No server processed the request: the attempt ends here, its key is forgotten, and if a retry is
left the request is sent again after the usual pause (in `RpcClient::call`). -/
def afterUnprocessed (client : Client) (flight : Flight) (cache : Route.Cache)
    (explanation : String) : Flight × Route.Cache :=
  let cache := forget cache (flight.attempts.head?.join)
  let counted := { flight with call := flight.call.countRetry }
  if mayRetry client flight.call then
    ({ counted with
        attempts := flight.attempts.tail
        stage := .pausing client.settings.retryDelay }, cache)
  else counted.fail cache (.unreached explanation)

/-- Takes it that no answer came (in `RpcClient::call`). -/
def afterTransportFault (client : Client) (flight : Flight) (cache : Route.Cache) :
    TransportFault → Flight × Route.Cache
  | .unprocessed explanation => flight.afterUnprocessed client cache explanation
  | fault => flight.fail cache (.interrupted fault)

/-- Why a call ends that may not be retried: a failed server's status, retries that are not allowed
at all, or retries that are used up (in `RpcResponseHandler::handle_response`). -/
def exhausted (client : Client) (status : Status) : CallFault :=
  if status.isServerError then .serverError status
  else if client.settings.retriesLimit = 0 then .retriesForbidden
  else .retriesExceeded client.settings.retriesLimit

/-- Takes an answer that asks to try again (in `RpcResponseHandler::handle_response`). -/
def afterRetrySignal (client : Client) (flight : Flight) (cache : Route.Cache)
    (head : ResponseHead) : Flight × Route.Cache :=
  let counted := { flight with call := flight.call.countRetry }
  if mayRetry client flight.call then
    ({ counted with stage := .pausing (suggestedPause client head.fields) }, cache)
  else counted.fail cache (exhausted client head.status)

/-- The kind of an answer, if it states one readably (in `RpcResponseHandler::handle_response`). -/
def responseKind? (fields : Fields) : Option ResponseType :=
  (fields.read .responseType).bind ResponseType.ofTag?

/-- Takes an answer by the rules of the protocol (`RpcResponseHandler::handle_response` up to the
body). -/
def interpret (client : Client) (flight : Flight) (cache : Route.Cache) (head : ResponseHead) :
    Flight × Route.Cache :=
  match responseKind? head.fields with
  | none => flight.fail cache .untyped
  | some .throwable =>
      ({ flight with stage := .reading head .throwable }, forget cache flight.call.routeKey)
  | some kind =>
      if head.status.isServerError ∨ kind = .retry then flight.afterRetrySignal client cache head
      else ({ flight with stage := .reading head kind }, cache)

/-- Hands an answer to the handler of the client (in `RpcClient::call`). -/
def afterAnswer (client : Client) (flight : Flight) (cache : Route.Cache) (head : ResponseHead) :
    Flight × Route.Cache :=
  match client.handler with
  | .standard => flight.interpret client cache head
  | .forgetful =>
      interpret client { flight with call := flight.call.withoutRequest } cache head
  | .custom judge => flight.settle cache (judge head)

/-- The value of a body: null if it is empty, decoded if it says that it is encoded, and else its
text (in `RpcResponseHandler::handle_response`). -/
def resultOf (codec : Codec) (fields : Fields) (body : Bytes) : Except CodecFault Json.Value :=
  if body.isEmpty then .ok .null
  else if fields.has .serializedContent then codec.decode body
  else .ok (.string (Text.decodeLenient body))

/-- Notes that a redirect comes from a relay, if it does (in `RpcResponseHandler::handle_response`).
-/
def directed (request : OutboundRequest) (fields : Fields) : OutboundRequest :=
  if fields.has .directDirection then request.withHeader .directDirection Header.yes else request

/-- Follows a redirect: the new target is remembered at once, and the request goes there in an
attempt within the present one (in `RpcResponseHandler::handle_response`). -/
def follow (client : Client) (flight : Flight) (cache : Route.Cache) (fields : Fields) :
    Flight × Route.Cache :=
  match flight.call.request with
  | none => flight.fail cache .requestForgotten
  | some request =>
      if client.settings.redirectsLimit = 0 then flight.fail cache .redirectsForbidden
      else
        let counted := { flight with call := flight.call.countRedirect }
        if client.settings.redirectsLimit < flight.call.redirects then
          counted.fail cache (.redirectsExceeded client.settings.redirectsLimit)
        else
          let request := directed request fields
          let flight := { counted with call := counted.call.withRequest request }
          match fields.read .redirectHost with
          | none => flight.fail cache .redirectWithoutHost
          | some host =>
              match Redirect.target request.uri host fields with
              | .error fault => flight.fail cache (.invalidRedirect fault)
              | .ok uri =>
                  let cache :=
                    match request.routeKey with
                    | some key => cache.put key uri.targetText
                    | none => cache
                  (flight.send (request.withUri uri), cache)

/-- Takes the body of an answer with a result or a redirect (in
`RpcResponseHandler::handle_response`). -/
def afterContent (client : Client) (flight : Flight) (cache : Route.Cache) (head : ResponseHead)
    (kind : ResponseType) (body : Bytes) : Flight × Route.Cache :=
  match resultOf client.codec head.fields body with
  | .error fault => flight.fail cache (.undecodable fault)
  | .ok value =>
      if head.status ≠ .ok then flight.fail cache (.unexpectedStatus head.status body)
      else if kind = .redirect then flight.follow client cache head.fields
      else flight.settle cache (.ok value)

/-- Takes the body of an answer, or that it did not arrive (`RpcResponseHandler::handle_response`
from the body on). -/
def afterBody (client : Client) (flight : Flight) (cache : Route.Cache) (head : ResponseHead) :
    ResponseType → Except Body.Fault Bytes → Flight × Route.Cache
  | .throwable, body =>
      let told :=
        match body with
        | .ok bytes => bytes
        | .error _ => []
      flight.settle cache (.error (Failure.ofReport head.fields told))
  | _, .error fault => flight.fail cache (.unreadable fault)
  | kind, .ok body => flight.afterContent client cache head kind body

/-- What a call does at an event: `RpcClient::call` goes on to the next point at which it awaits
something.  An event that the call does not wait for changes nothing. -/
def advance (client : Client) (flight : Flight) (cache : Route.Cache) (event : Event) :
    Flight × Route.Cache :=
  match flight.stage, event with
  | .resolving host draft, .resolved found =>
      match client.aim flight.call host draft found with
      | .error fault => flight.fail cache (.notBuilt fault)
      | .ok request => (flight.send request, cache)
  | .sending _, .answered head => flight.afterAnswer client cache head
  | .sending _, .unanswered fault => flight.afterTransportFault client cache fault
  | .reading head kind, .received body => flight.afterBody client cache head kind body
  | .pausing _, .resumed => attempt client flight cache
  | _, _ => (flight, cache)

/-- A call and its cache after some events. -/
def run (client : Client) (flight : Flight) (cache : Route.Cache) (events : List Event) :
    Flight × Route.Cache :=
  events.foldl (fun state event => advance client state.1 state.2 event) (flight, cache)

end Flight
end RemoteCall
