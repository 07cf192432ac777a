import RemoteCall.Proofs.Flight.Deeds

/-!
# The first request of a call

A call that is made without a request builds one and sends it as soon as it knows where to.  It
knows at once if its entry is an address, or if a target is remembered for it that can be read.
Otherwise it has to wait for the addresses of its host, and whatever else happens meanwhile is
nothing to it.  This is all: a call whose parameters cannot be encoded, or that never comes to know
its target, sends nothing.
-/

namespace RemoteCall
namespace Flight

/-- What a lookup has found, if an event is the end of one. -/
def Event.resolution? : Event → Option (Except Net.LookupFault (List Net.Address))
  | .resolved found => some found
  | .answered _ | .unanswered _ | .received _ | .resumed => none

/-- Where a call without a request is to go first, as far as its entry, the cache and the first
lookup among some events tell. -/
inductive Targets (client : Client) (call : Call) (cache : Route.Cache) (events : List Event) :
    Uri → Prop where
  | address (unnamed : client.entryName = none) : Targets client call cache events client.entry
  | remembered {host target : String} {uri : Uri} (named : client.entryName = some host)
      (found : (Client.rememberedTarget cache (client.routeKey host call)).1 = some target)
      (read : Uri.parse target = .ok uri) : Targets client call cache events uri
  | resolved {host : String} {found : Except Net.LookupFault (List Net.Address)}
      {address : Net.Ipv4} {uri : Uri} (named : client.entryName = some host)
      (missing : (Client.rememberedTarget cache (client.routeKey host call)).1 = none)
      (first : events.findSome? Event.resolution? = some found)
      (chosen : Net.chooseIpv4 host found = .ok address)
      (replaced : client.entry.withHost address.text = .ok uri) :
      Targets client call cache events uri

variable {client : Client} {flight : Flight} {cache : Route.Cache} {events : List Event}

/-- What a lookup makes of the draft of a request. -/
theorem aim_addressed_iff {call : Call} {body : Bytes} {host key : String}
    {found : Except Net.LookupFault (List Net.Address)} {request : OutboundRequest} :
    (client.aim call host ((client.addressed call body).withRouteKey key) found).toOption =
        some request ↔
      ∃ address uri, Net.chooseIpv4 host found = .ok address ∧
        client.entry.withHost address.text = .ok uri ∧
          request = client.complete call
            (((client.addressed call body).withRouteKey key).withUri uri) := by
  have entry : ((client.addressed call body).withRouteKey key).uri = client.entry :=
    addressed_uri client call body
  constructor
  · intro taken
    cases aimed : client.aim call host ((client.addressed call body).withRouteKey key) found with
    | error fault =>
        rw [aimed] at taken
        cases taken
    | ok other =>
        rw [aimed] at taken
        cases taken
        rw [← entry]
        exact chosen_of_aim aimed
  · rintro ⟨address, uri, chosen, replaced, rfl⟩
    rw [← entry] at replaced
    rw [aim_of_chosen chosen replaced]
    rfl

section Waiting

variable {host : String} {draft : OutboundRequest}
variable (resolving : flight.stage = .resolving host draft)

include resolving

theorem deedsAt_resolved (found : Except Net.LookupFault (List Net.Address)) :
    deedsAt client flight cache (.resolved found) =
      (flight.advance client cache (.resolved found)).1.stage.demand := by
  have awaited : flight.stage.awaits (.resolved found) = true := by
    rw [resolving]
    rfl
  rw [deedsAt, if_pos awaited, encodesAt, List.nil_append]

/-- The first lookup that ends is the one that a call has waited for. -/
theorem head?_requests_of_resolving (cache : Route.Cache) (events : List Event) :
    (requests (deeds client flight cache events)).head? =
      (events.findSome? Event.resolution?).bind fun found =>
        (client.aim flight.call host draft found).toOption := by
  induction events with
  | nil => rfl
  | cons event later ih =>
      have ignored (unawaited : flight.stage.awaits event = false)
          (unresolved : event.resolution? = none) :
          (requests (deeds client flight cache (event :: later))).head? =
            ((event :: later).findSome? Event.resolution?).bind fun found =>
              (client.aim flight.call host draft found).toOption := by
        rw [deeds_cons, deedsAt_of_not_awaits unawaited, advance_of_not_awaits unawaited,
          List.nil_append, List.findSome?_cons_of_isNone (by rw [unresolved]; rfl)]
        exact ih
      cases event with
      | resolved found =>
          rw [deeds_cons, deedsAt_resolved resolving, advance_resolved resolving,
            List.findSome?_cons_of_isSome rfl]
          cases aimed : client.aim flight.call host draft found with
          | error fault =>
              dsimp only
              rw [deeds_settled (fail_stage _), fail_stage]
              simp [Event.resolution?, aimed, Stage.demand, Except.toOption]
          | ok request =>
              simp [Event.resolution?, aimed, Stage.demand, Except.toOption, send, requests,
                Deed.request?]
      | answered | unanswered | received | resumed =>
          exact ignored (by rw [resolving]; rfl) rfl

end Waiting

section Starting

variable {call : Call} {later : Route.Cache} (unbuilt : call.request = none)

include unbuilt

/-- A call whose request is ready sends it before anything happens. -/
theorem head?_requests_of_ready {request : OutboundRequest}
    (ready : client.prepare cache call = (.ready request, later)) (events : List Event) :
    (requests (callDeeds client call cache events)).head? = some request := by
  have started : start client call cache = (send ⟨call, [], .pausing 0⟩ request, later) :=
    attempt_ready unbuilt ready
  rw [requests_callDeeds started]
  rfl

/-- A call whose request cannot be built sends nothing. -/
theorem requests_of_failed {fault : BuildFault}
    (failed : client.prepare cache call = (.failed fault, later)) (events : List Event) :
    requests (callDeeds client call cache events) = [] := by
  have started : start client call cache = fail ⟨call, [], .pausing 0⟩ later (.notBuilt fault) :=
    attempt_failed unbuilt failed
  rw [requests_callDeeds started, deeds_settled (fail_stage _), fail_stage]
  rfl

/-- A call that waits for a lookup sends what it builds from the first one that ends. -/
theorem head?_requests_of_lookup {host : String} {draft : OutboundRequest}
    (lookup : client.prepare cache call = (.lookup host draft, later)) (events : List Event) :
    (requests (callDeeds client call cache events)).head? =
      (events.findSome? Event.resolution?).bind fun found =>
        (client.aim call host draft found).toOption := by
  have started : start client call cache = (⟨call, [], .resolving host draft⟩, later) :=
    attempt_lookup unbuilt lookup
  rw [requests_callDeeds started]
  exact head?_requests_of_resolving rfl later events

variable {body : Bytes} (encoded : client.codec.encode (.array call.parameters) = .ok body)

include encoded

/-- A call that knows its target sends the text of its parameters there. -/
theorem Targets.first_request {uri : Uri} (targets : Targets client call cache events uri) :
    ∃ request, (requests (callDeeds client call cache events)).head? = some request ∧
      request.uri = uri ∧ request.body = body := by
  cases targets with
  | address unnamed =>
      refine ⟨_, head?_requests_of_ready unbuilt (prepare_of_address unnamed encoded cache) events,
        ?_, ?_⟩
      · rw [complete_uri, addressed_uri]
      · rw [complete_body, addressed_body]
  | @remembered host target uri named found read =>
      have prepared := prepare_of_name encoded named cache
      rw [rememberedTarget_eq] at found
      simp only [found, read] at prepared
      refine ⟨_, head?_requests_of_ready unbuilt prepared events, ?_, ?_⟩
      · exact complete_uri _
      · exact (complete_body _).trans (addressed_body client call body)
  | @resolved host found address uri named missing first chosen replaced =>
      have prepared := prepare_of_name encoded named cache
      rw [rememberedTarget_eq] at missing
      simp only [missing] at prepared
      refine ⟨client.complete call (((client.addressed call body).withRouteKey
        (client.routeKey host call)).withUri uri), ?_, ?_, ?_⟩
      · rw [head?_requests_of_lookup unbuilt prepared, first]
        exact aim_addressed_iff.mpr ⟨address, uri, chosen, replaced, rfl⟩
      · exact complete_uri _
      · exact (complete_body _).trans (addressed_body client call body)

/-- A call that has sent something has sent it to a target that it knew. -/
theorem targets_of_first_request {request : OutboundRequest}
    (sent : (requests (callDeeds client call cache events)).head? = some request) :
    Targets client call cache events request.uri := by
  cases named : client.entryName with
  | none =>
      rw [head?_requests_of_ready unbuilt (prepare_of_address named encoded cache)] at sent
      cases sent
      rw [complete_uri, addressed_uri]
      exact .address named
  | some host =>
      have prepared := prepare_of_name encoded named cache
      dsimp only at prepared
      rw [← rememberedTarget_eq] at prepared
      cases found : (Client.rememberedTarget cache (client.routeKey host call)).1 with
      | none =>
          rw [found] at prepared
          rw [head?_requests_of_lookup unbuilt prepared] at sent
          obtain ⟨resolution, first, aimed⟩ := Option.bind_eq_some_iff.mp sent
          obtain ⟨address, uri, chosen, replaced, rfl⟩ := aim_addressed_iff.mp aimed
          rw [complete_uri]
          exact .resolved named found first chosen replaced
      | some target =>
          rw [found] at prepared
          cases read : Uri.parse target with
          | error fault =>
              simp only [read] at prepared
              rw [requests_of_failed unbuilt prepared] at sent
              cases sent
          | ok uri =>
              simp only [read] at prepared
              rw [head?_requests_of_ready unbuilt prepared] at sent
              cases sent
              rw [complete_uri]
              exact .remembered named found read

end Starting

/-- A call without a request sends its first one to the target that it knows, with the text of its
parameters.  It sends nothing as long as it knows none, or if its parameters have no text. -/
theorem first_request_iff {call : Call} (unbuilt : call.request = none) (client : Client)
    (cache : Route.Cache) (events : List Event) (uri : Uri) (body : Bytes) :
    (∃ request, (requests (callDeeds client call cache events)).head? = some request ∧
        request.uri = uri ∧ request.body = body) ↔
      client.codec.encode (.array call.parameters) = .ok body ∧
        Targets client call cache events uri := by
  cases encoded : client.codec.encode (.array call.parameters) with
  | error fault =>
      rw [requests_of_failed unbuilt (prepare_of_unencodable encoded cache)]
      constructor
      · rintro ⟨_, none, _⟩
        cases none
      · rintro ⟨unencoded, _⟩
        cases unencoded
  | ok text =>
      constructor
      · rintro ⟨request, sent, rfl, rfl⟩
        have targets := targets_of_first_request unbuilt encoded sent
        obtain ⟨other, isSent, _, body⟩ := targets.first_request unbuilt encoded
        rw [sent] at isSent
        cases isSent
        exact ⟨congrArg Except.ok body.symm, targets⟩
      · rintro ⟨same, targets⟩
        cases same
        exact targets.first_request unbuilt encoded

end Flight
end RemoteCall
