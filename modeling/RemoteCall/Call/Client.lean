import RemoteCall.Call.Descriptor
import RemoteCall.Call.Fault
import RemoteCall.Call.Settings
import RemoteCall.Json.Printer
import RemoteCall.Net.Resolver
import RemoteCall.Route.Cache
import RemoteCall.Route.Key
import RemoteCall.Service.Codec

/-!
# Clients and their requests

A client sends calls to an entry server, or to where a call under the same route key landed before.
A host that is an address is used as it is; any other host is looked up unless a target is
remembered.  Building a request therefore happens in two parts, before and after the lookup.
-/

namespace RemoteCall

/-- What a call comes to (the result of `RpcClient::call`). -/
abbrev Outcome := Except Failure Json.Value

/-- How answers to requests are taken (`RpcResponseHandlerInterface`). -/
inductive ResponseHandler where
  /-- By the rules of the protocol (`RpcResponseHandler`). -/
  | standard
  /-- By the rules of the protocol, after forgetting the request that was sent. -/
  | forgetful
  /-- By the part of the answer before its body alone. -/
  | custom (judge : ResponseHead → Outcome)

/-- A client (`RpcClient`).  Its cache is given to each step, and what comes of its resolver and its
transport are events. -/
structure Client where
  entry : Uri
  settings : Settings
  codec : Codec
  handler : ResponseHandler

/-- What building a request comes to before a lookup (in `RpcClient::build_request`). -/
inductive Preparation where
  | ready (request : OutboundRequest)
  /-- The addresses of a host are needed first. -/
  | lookup (host : String) (draft : OutboundRequest)
  | failed (fault : BuildFault)

namespace Client

/-- The entity that a parameter names: null names none, a text names itself, and any other value is
taken as its JSON text (`stringify_entity_id`). -/
def entityText : Json.Value → Option String
  | .null => none
  | .string identifier => some identifier
  | other => some other.text

/-- The entity that a call is about, if one of its parameters names it (in
`RpcClient::build_request`). -/
def entity (client : Client) (call : Call) : Option String :=
  match client.settings.entityPosition with
  | none => none
  | some position => (call.parameters[position]?).bind entityText

/-- The host of the entry, unless it is an address (in `RpcClient::build_request`). -/
def entryName (client : Client) : Option String :=
  client.entry.host.filter fun host => !Net.isAddressLiteral host

/-- The route key of a call that enters through a named host (in `RpcClient::build_request`). -/
def routeKey (client : Client) (host : String) (call : Call) : String :=
  Route.key host call.interface call.method (client.entity call)

/-- The target remembered under a key; an empty one counts as none
(`RpcClient::get_item_from_request_to_uri_cache`). -/
def rememberedTarget (cache : Route.Cache) (key : String) : Option String × Route.Cache :=
  let (found, cache) := cache.get key
  (found.filter (!·.isEmpty), cache)

/-- What every request of a call gets last: the bounds on time and the names of the interface and
the method (the end of `RpcClient::build_request`). -/
def complete (client : Client) (call : Call) (request : OutboundRequest) : OutboundRequest :=
  let bounded :=
    match client.settings.requestTimeout with
    | some timeout => request.withTimeouts (.ofRequestTimeout timeout)
    | none => request
  (bounded.withHeader .interfaceName call.interface).withHeader .methodName call.method

/-- The request with the entity of the call as a header (in `RpcClient::build_request`). -/
def addressed (client : Client) (call : Call) (body : Bytes) : OutboundRequest :=
  let request := OutboundRequest.post client.entry body
  match client.entity call with
  | some identifier => request.withHeader .targetEntity identifier
  | none => request

/-- Builds the request of a call as far as it goes without a lookup (`RpcClient::build_request` up
to its lookup). -/
def prepare (client : Client) (cache : Route.Cache) (call : Call) : Preparation × Route.Cache :=
  match client.codec.encode (.array call.parameters) with
  | .error fault => (.failed (.parameters call.interface call.method fault), cache)
  | .ok body =>
      let request := client.addressed call body
      match client.entryName with
      | none => (.ready (client.complete call request), cache)
      | some host =>
          let key := client.routeKey host call
          let draft := request.withRouteKey key
          match rememberedTarget cache key with
          | (none, cache) => (.lookup host draft, cache)
          | (some target, cache) =>
              match Uri.parse target with
              | .error fault => (.failed (.rememberedTarget target fault), cache)
              | .ok uri => (.ready (client.complete call (draft.withUri uri)), cache)

/-- Builds the rest of a request from what the lookup of its host found (`RpcClient::build_request`
after its lookup). -/
def aim (client : Client) (call : Call) (host : String) (draft : OutboundRequest)
    (found : Except Net.LookupFault (List Net.Address)) : Except BuildFault OutboundRequest :=
  match Net.chooseIpv4 host found with
  | .error fault => .error (.lookup fault)
  | .ok address =>
      match draft.uri.withHost address.text with
      | .error fault => .error (.aim fault)
      | .ok uri => .ok (client.complete call (draft.withUri uri))

end Client
end RemoteCall
