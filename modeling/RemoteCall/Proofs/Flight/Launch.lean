import RemoteCall.Proofs.Flight.Steps
import RemoteCall.Proofs.Http.WrittenFields

/-!
# Starting a call

A call that is started sends its request, waits for the addresses of a host, or fails because its
request cannot be built.  A call to an address needs no lookup, so it sends its request at once.
-/

namespace RemoteCall
namespace Flight

variable {client : Client} {flight : Flight} {cache : Route.Cache}

/-- A call that has been started, and what the lookup of its host has found if there is one. -/
def launch (client : Client) (call : Call) (cache : Route.Cache)
    (found : Except Net.LookupFault (List Net.Address)) : Flight × Route.Cache :=
  let started := start client call cache
  started.1.advance client started.2 (.resolved found)

theorem attempt_built {request : OutboundRequest} (built : flight.call.request = some request) :
    attempt client flight cache = (flight.send request, cache) := by
  rw [attempt, built]

theorem attempt_ready {request : OutboundRequest} {later : Route.Cache}
    (unbuilt : flight.call.request = none)
    (ready : client.prepare cache flight.call = (.ready request, later)) :
    attempt client flight cache = (flight.send request, later) := by
  rw [attempt, unbuilt, ready]

theorem attempt_lookup {host : String} {draft : OutboundRequest} {later : Route.Cache}
    (unbuilt : flight.call.request = none)
    (lookup : client.prepare cache flight.call = (.lookup host draft, later)) :
    attempt client flight cache = ({ flight with stage := .resolving host draft }, later) := by
  rw [attempt, unbuilt, lookup]

theorem attempt_failed {fault : BuildFault} {later : Route.Cache}
    (unbuilt : flight.call.request = none)
    (failed : client.prepare cache flight.call = (.failed fault, later)) :
    attempt client flight cache = flight.fail later (.notBuilt fault) := by
  rw [attempt, unbuilt, failed]

section Launching

variable {call : Call} {later : Route.Cache} (unbuilt : call.request = none)
  (found : Except Net.LookupFault (List Net.Address))

include unbuilt

theorem launch_failed {fault : BuildFault}
    (failed : client.prepare cache call = (.failed fault, later)) :
    launch client call cache found = fail ⟨call, [], .pausing 0⟩ later (.notBuilt fault) := by
  have started : start client call cache = fail ⟨call, [], .pausing 0⟩ later (.notBuilt fault) :=
    attempt_failed unbuilt failed
  rw [launch, started]
  exact advance_settled (fail_stage _) _

theorem launch_ready {request : OutboundRequest}
    (ready : client.prepare cache call = (.ready request, later)) :
    launch client call cache found = (send ⟨call, [], .pausing 0⟩ request, later) := by
  have started : start client call cache = (send ⟨call, [], .pausing 0⟩ request, later) :=
    attempt_ready unbuilt ready
  rw [launch, started]
  rfl

theorem launch_lookup {host : String} {draft : OutboundRequest}
    (lookup : client.prepare cache call = (.lookup host draft, later)) :
    launch client call cache found =
      match client.aim call host draft found with
      | .error fault => fail ⟨call, [], .resolving host draft⟩ later (.notBuilt fault)
      | .ok request => (send ⟨call, [], .resolving host draft⟩ request, later) := by
  have started : start client call cache = (⟨call, [], .resolving host draft⟩, later) :=
    attempt_lookup unbuilt lookup
  rw [launch, started]
  exact advance_resolved rfl found

end Launching

/-- A call sends its request, waits for addresses, or has failed, once an attempt is made. -/
theorem attempt_cases (client : Client) (flight : Flight) (cache : Route.Cache) :
    (∃ request, (attempt client flight cache).1 = flight.send request) ∨
      (∃ host draft,
        (attempt client flight cache).1 = { flight with stage := .resolving host draft }) ∨
      ∃ failure, (attempt client flight cache).1.stage = .settled (.error failure) := by
  cases built : flight.call.request with
  | some request => exact Or.inl ⟨request, by rw [attempt_built built]⟩
  | none =>
      rcases prepared : client.prepare cache flight.call with ⟨preparation, later⟩
      cases preparation with
      | ready request => exact Or.inl ⟨request, by rw [attempt_ready built prepared]⟩
      | lookup host draft =>
          exact Or.inr (Or.inl ⟨host, draft, by rw [attempt_lookup built prepared]⟩)
      | failed fault =>
          refine Or.inr (Or.inr ?_)
          rw [attempt_failed built prepared]
          exact ⟨_, fail_stage _⟩

/-- A call that has been launched and sends a request keeps this request and nothing else new. -/
theorem launch_call {call : Call} {found : Except Net.LookupFault (List Net.Address)}
    {request : OutboundRequest}
    (launched : (launch client call cache found).1.stage = .sending request) :
    (launch client call cache found).1.call = call.withRequest request := by
  unfold launch start at launched ⊢
  dsimp only at launched ⊢
  rcases attempt_cases client ⟨call, [], .pausing 0⟩ cache with
    ⟨sent, attempted⟩ | ⟨host, draft, attempted⟩ | ⟨outcome, settled⟩
  · rw [attempted] at launched ⊢
    cases launched
    rfl
  · rw [attempted] at launched ⊢
    unfold advance at launched ⊢
    dsimp only at launched ⊢
    cases aimed : client.aim call host draft found with
    | error fault =>
        rw [aimed] at launched
        cases launched
    | ok sent =>
        rw [aimed] at launched
        cases launched
        rfl
  · rw [advance_settled settled] at launched
    rw [settled] at launched
    cases launched

/-- How a request is built for a host that is an address. -/
theorem prepare_of_address {call : Call} (address : client.entryName = none) {body : Bytes}
    (encoded : client.codec.encode (.array call.parameters) = .ok body) (cache : Route.Cache) :
    client.prepare cache call =
      (.ready (client.complete call (client.addressed call body)), cache) := by
  rw [Client.prepare, encoded]
  dsimp only
  rw [address]

/-- A call to an address sends its request at once, whatever the cache holds. -/
theorem start_of_address {call : Call} (address : client.entryName = none)
    (unbuilt : call.request = none) {body : Bytes}
    (encoded : client.codec.encode (.array call.parameters) = .ok body) (cache : Route.Cache) :
    start client call cache =
      (send ⟨call, [], .pausing 0⟩ (client.complete call (client.addressed call body)),
        cache) :=
  attempt_ready unbuilt (prepare_of_address address encoded cache)

section Requests

variable {call : Call}

theorem complete_method (request : OutboundRequest) :
    (client.complete call request).method = request.method := by
  unfold Client.complete
  cases client.settings.requestTimeout <;> rfl

theorem complete_body (request : OutboundRequest) :
    (client.complete call request).body = request.body := by
  unfold Client.complete
  cases client.settings.requestTimeout <;> rfl

theorem complete_uri (request : OutboundRequest) :
    (client.complete call request).uri = request.uri := by
  unfold Client.complete
  cases client.settings.requestTimeout <;> rfl

theorem complete_read_interfaceName (request : OutboundRequest) :
    (client.complete call request).fields.read .interfaceName =
      some (FieldValue.cleaned call.interface) := by
  unfold Client.complete
  dsimp only [OutboundRequest.withHeader]
  rw [Fields.read_write_of_ne _ _ (by decide), Fields.read_write_self]

theorem complete_read_methodName (request : OutboundRequest) :
    (client.complete call request).fields.read .methodName =
      some (FieldValue.cleaned call.method) := by
  unfold Client.complete
  dsimp only [OutboundRequest.withHeader]
  rw [Fields.read_write_self]

/-- What every request of a call has. -/
structure Requests (client : Client) (call : Call) (request : OutboundRequest) : Prop where
  method : request.method = "POST"
  body : client.codec.encode (.array call.parameters) = .ok request.body
  interfaceName :
    request.fields.read .interfaceName = some (FieldValue.cleaned call.interface)
  methodName : request.fields.read .methodName = some (FieldValue.cleaned call.method)

theorem requests_complete {request : OutboundRequest} (method : request.method = "POST")
    (body : client.codec.encode (.array call.parameters) = .ok request.body) :
    Requests client call (client.complete call request) where
  method := by rw [complete_method, method]
  body := by rw [complete_body, body]
  interfaceName := complete_read_interfaceName request
  methodName := complete_read_methodName request

theorem addressed_method (client : Client) (call : Call) (body : Bytes) :
    (client.addressed call body).method = "POST" := by
  unfold Client.addressed
  cases client.entity call <;> rfl

theorem addressed_body (client : Client) (call : Call) (body : Bytes) :
    (client.addressed call body).body = body := by
  unfold Client.addressed
  cases client.entity call <;> rfl

theorem addressed_uri (client : Client) (call : Call) (body : Bytes) :
    (client.addressed call body).uri = client.entry := by
  unfold Client.addressed
  cases client.entity call <;> rfl

theorem rememberedTarget_eq (cache : Route.Cache) (key : String) :
    (Client.rememberedTarget cache key).1 = (cache.find? key).filter (!·.isEmpty) := rfl

/-- How building a request goes, as far as it can without a lookup. -/
inductive Prepares (client : Client) (call : Call) (cache : Route.Cache) :
    Preparation × Route.Cache → Prop where
  | unencodable (fault : CodecFault) :
      Prepares client call cache (.failed (.parameters call.interface call.method fault), cache)
  | address {body : Bytes} (encoded : client.codec.encode (.array call.parameters) = .ok body)
      (address : client.entryName = none) :
      Prepares client call cache
        (.ready (client.complete call (client.addressed call body)), cache)
  | unknown {body : Bytes} (encoded : client.codec.encode (.array call.parameters) = .ok body)
      {host : String} (named : client.entryName = some host) :
      Prepares client call cache
        (.lookup host ((client.addressed call body).withRouteKey (client.routeKey host call)),
          cache.touch (client.routeKey host call))
  | misremembered {host : String} (named : client.entryName = some host) (target : String)
      (fault : Uri.Fault) :
      Prepares client call cache
        (.failed (.rememberedTarget target fault), cache.touch (client.routeKey host call))
  | remembered {body : Bytes} (encoded : client.codec.encode (.array call.parameters) = .ok body)
      {host : String} (named : client.entryName = some host) (uri : Uri) :
      Prepares client call cache
        (.ready (client.complete call (((client.addressed call body).withRouteKey
          (client.routeKey host call)).withUri uri)), cache.touch (client.routeKey host call))

theorem prepare_of_unencodable {fault : CodecFault}
    (unencodable : client.codec.encode (.array call.parameters) = .error fault)
    (cache : Route.Cache) :
    client.prepare cache call =
      (.failed (.parameters call.interface call.method fault), cache) := by
  rw [Client.prepare, unencodable]

/-- How a request is built for a host with a name: where a target is remembered the request goes
there, and otherwise the host is looked up. -/
theorem prepare_of_name {body : Bytes}
    (encoded : client.codec.encode (.array call.parameters) = .ok body) {host : String}
    (named : client.entryName = some host) (cache : Route.Cache) :
    let key := client.routeKey host call
    let draft := (client.addressed call body).withRouteKey key
    client.prepare cache call =
      match (cache.find? key).filter (!·.isEmpty) with
      | none => (.lookup host draft, cache.touch key)
      | some target =>
          match Uri.parse target with
          | .error fault => (.failed (.rememberedTarget target fault), cache.touch key)
          | .ok uri => (.ready (client.complete call (draft.withUri uri)), cache.touch key) := by
  intro key draft
  rw [Client.prepare, encoded]
  dsimp only
  rw [named]
  simp only [Client.rememberedTarget, Route.Cache.get, key, draft]
  cases (cache.find? (client.routeKey host call)).filter (!·.isEmpty) with
  | none => rfl
  | some target => cases Uri.parse target <;> rfl

theorem prepares (client : Client) (call : Call) (cache : Route.Cache) :
    Prepares client call cache (client.prepare cache call) := by
  cases encoded : client.codec.encode (.array call.parameters) with
  | error fault =>
      rw [prepare_of_unencodable encoded]
      exact .unencodable fault
  | ok body =>
      cases named : client.entryName with
      | none =>
          rw [prepare_of_address named encoded]
          exact .address encoded named
      | some host =>
          rw [prepare_of_name encoded named]
          cases (cache.find? (client.routeKey host call)).filter (!·.isEmpty) with
          | none => exact .unknown encoded named
          | some target =>
              dsimp only
              cases Uri.parse target with
              | error fault => exact .misremembered named target fault
              | ok uri => exact .remembered encoded named uri

/-- What is built before a lookup is a request, or the draft of one. -/
structure Drafted (client : Client) (call : Call) (preparation : Preparation) : Prop where
  ready : ∀ request, preparation = .ready request → Requests client call request
  lookup : ∀ host draft, preparation = .lookup host draft →
    draft.method = "POST" ∧ client.codec.encode (.array call.parameters) = .ok draft.body

theorem Prepares.drafted {prepared : Preparation × Route.Cache}
    (prepares : Prepares client call cache prepared) : Drafted client call prepared.1 := by
  cases prepares with
  | unencodable | misremembered => exact ⟨nofun, nofun⟩
  | address encoded address =>
      refine ⟨?_, nofun⟩
      intro request isReady
      cases isReady
      exact requests_complete (addressed_method client call _)
        (encoded.trans (congrArg Except.ok (addressed_body client call _).symm))
  | unknown encoded named =>
      refine ⟨nofun, ?_⟩
      intro host draft isLookup
      cases isLookup
      exact ⟨addressed_method client call _,
        encoded.trans (congrArg Except.ok (addressed_body client call _).symm)⟩
  | remembered encoded named uri =>
      refine ⟨?_, nofun⟩
      intro request isReady
      cases isReady
      exact requests_complete (addressed_method client call _)
        (encoded.trans (congrArg Except.ok (addressed_body client call _).symm))

/-- A request goes to the address that is chosen for its host. -/
theorem chosen_of_aim {host : String} {draft request : OutboundRequest}
    {found : Except Net.LookupFault (List Net.Address)}
    (aimed : client.aim call host draft found = .ok request) :
    ∃ address uri, Net.chooseIpv4 host found = .ok address ∧
      draft.uri.withHost address.text = .ok uri ∧
        request = client.complete call (draft.withUri uri) := by
  unfold Client.aim at aimed
  split at aimed
  · cases aimed
  · next address chosen =>
      split at aimed
      · cases aimed
      · next uri replaced =>
          cases aimed
          exact ⟨address, uri, chosen, replaced, rfl⟩

theorem aim_of_chosen {host : String} {draft : OutboundRequest}
    {found : Except Net.LookupFault (List Net.Address)} {address : Net.Ipv4} {uri : Uri}
    (chosen : Net.chooseIpv4 host found = .ok address)
    (replaced : draft.uri.withHost address.text = .ok uri) :
    client.aim call host draft found = .ok (client.complete call (draft.withUri uri)) := by
  rw [Client.aim, chosen]
  dsimp only
  rw [replaced]

theorem exists_of_aim {host : String} {draft request : OutboundRequest}
    {found : Except Net.LookupFault (List Net.Address)}
    (aimed : client.aim call host draft found = .ok request) :
    ∃ address uri, draft.uri.withHost address = .ok uri ∧
      request = client.complete call (draft.withUri uri) := by
  obtain ⟨address, uri, _, replaced, same⟩ := chosen_of_aim aimed
  exact ⟨address.text, uri, replaced, same⟩

theorem requests_aim {host : String} {draft request : OutboundRequest}
    {found : Except Net.LookupFault (List Net.Address)} (method : draft.method = "POST")
    (body : client.codec.encode (.array call.parameters) = .ok draft.body)
    (aimed : client.aim call host draft found = .ok request) :
    Requests client call request := by
  obtain ⟨_, uri, _, rfl⟩ := exists_of_aim aimed
  exact requests_complete method body

/-- The request that a call sends first names its interface and its method and has its parameters as
the body. -/
theorem requests_launch (unbuilt : call.request = none)
    {found : Except Net.LookupFault (List Net.Address)} {request : OutboundRequest}
    (launched : (launch client call cache found).1.stage = .sending request) :
    Requests client call request := by
  have drafted := (prepares client call cache).drafted
  rcases prepared : client.prepare cache call with ⟨preparation, later⟩
  rw [prepared] at drafted
  cases preparation with
  | ready sent =>
      rw [launch_ready unbuilt found prepared] at launched
      cases launched
      exact drafted.ready request rfl
  | lookup host draft =>
      obtain ⟨method, body⟩ := drafted.lookup host draft rfl
      rw [launch_lookup unbuilt found prepared] at launched
      cases aimed : client.aim call host draft found with
      | error fault =>
          rw [aimed] at launched
          cases launched
      | ok sent =>
          rw [aimed] at launched
          cases launched
          exact requests_aim method body aimed
  | failed fault =>
      rw [launch_failed unbuilt found prepared] at launched
      cases launched

end Requests

/-- A client of a server on the same machine. -/
def loopback : Client where
  entry := ⟨some "http", some "127.0.0.1:8080", "/", none⟩
  settings := .usual
  codec := .json
  handler := .standard

def loopbackRequest (interface method : String) (parameters : Parameters) : OutboundRequest :=
  let call := Call.fresh interface method parameters
  loopback.complete call (loopback.addressed call (Json.Value.array parameters).bytes)

theorem start_loopback (interface method : String) (parameters : Parameters)
    (cache : Route.Cache) :
    start loopback (.fresh interface method parameters) cache =
      (send ⟨.fresh interface method parameters, [], .pausing 0⟩
        (loopbackRequest interface method parameters), cache) :=
  start_of_address (by decide) rfl rfl cache

theorem launch_loopback (interface method : String) (parameters : Parameters)
    (cache : Route.Cache) (found : Except Net.LookupFault (List Net.Address)) :
    (launch loopback (.fresh interface method parameters) cache found).1.stage =
      .sending (loopbackRequest interface method parameters) := by
  rw [launch, start_loopback]
  rfl

end Flight
end RemoteCall
