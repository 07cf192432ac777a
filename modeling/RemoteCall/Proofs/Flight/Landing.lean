import RemoteCall.Proofs.Flight.Deeds
import RemoteCall.Proofs.Flight.Eviction
import RemoteCall.Proofs.Uri.Target
import RemoteCall.Response.Factory

/-!
# A successful call is remembered where it landed

While a call is on its way, what is remembered under its key leads to where its request goes, if
anything is remembered at all: redirects remember their target at once, and servers that are not
reached let it be forgotten.  Success fills the gap.  So in the end the key leads to where the last
request went, whatever redirects and retries there were.
-/

namespace RemoteCall
namespace Flight

open Uri

variable {client : Client} {flight : Flight} {initial cache : Route.Cache} {key : String}

section Sending

/-- The request that was sent last is the one that the call has, unless the call has failed. -/
def LastSent (flight : Flight) (sent : List OutboundRequest) : Prop :=
  (∃ failure, flight.stage = .settled (.error failure)) ∨ sent.getLast? = flight.call.request

theorem LastSent.of_sending {request : OutboundRequest} (sent : List OutboundRequest)
    (built : flight.call.request = some request) (sending : flight.stage = .sending request) :
    LastSent flight (sent ++ requests flight.stage.demand) := by
  right
  rw [built, sending]
  exact List.getLast?_concat

theorem LastSent.of_quiet {next : Flight} {sent : List OutboundRequest}
    (last : sent.getLast? = flight.call.request) (same : next.call.request = flight.call.request)
    (quiet : requests next.stage.demand = []) :
    LastSent next (sent ++ requests next.stage.demand) := by
  right
  rw [quiet, List.append_nil, last, same]

theorem LastSent.attempt {sent : List OutboundRequest}
    (last : sent.getLast? = flight.call.request) :
    LastSent (attempt client flight cache).1
      (sent ++ requests (attempt client flight cache).1.stage.demand) := by
  rcases attempt_cases client flight cache with
    ⟨request, sending⟩ | ⟨host, draft, resolving⟩ | ⟨failure, failed⟩
  · rw [sending]
    exact .of_sending sent rfl rfl
  · rw [resolving]
    exact .of_quiet last rfl rfl
  · exact Or.inl ⟨failure, failed⟩

theorem LastSent.moves {sent : List OutboundRequest} (last : sent.getLast? = flight.call.request)
    {event : Event} {next : Flight × Route.Cache} (moves : Moves client flight cache event next)
    (awaited : flight.stage.awaits event = true) :
    LastSent next.1 (sent ++ requests next.1.stage.demand) := by
  cases moves with
  | rests unawaited =>
      rw [unawaited] at awaited
      cases awaited
  | fails _ _ _ failure => exact Or.inl ⟨failure, rfl⟩
  | aims | redirected => exact .of_sending sent rfl rfl
  | unreached | judged | deferred | told | opened | succeeds => exact .of_quiet last rfl rfl
  | resumes => exact .attempt last

theorem LastSent.advance (retentive : client.handler ≠ .forgetful)
    {sent : List OutboundRequest} (last : LastSent flight sent) (event : Event) :
    LastSent (flight.advance client cache event).1
      (sent ++ requests (deedsAt client flight cache event)) := by
  cases awaited : flight.stage.awaits event with
  | false =>
      rw [advance_of_not_awaits awaited, deedsAt_of_not_awaits awaited]
      rwa [requests_nil, List.append_nil]
  | true =>
      rcases last with ⟨failure, failed⟩ | last
      · rw [failed] at awaited
        cases awaited
      · rw [deedsAt, if_pos awaited, requests_append, requests_encodesAt, List.nil_append]
        exact LastSent.moves last (moves_advance retentive flight cache event) awaited

theorem LastSent.run (retentive : client.handler ≠ .forgetful) {sent : List OutboundRequest}
    (last : LastSent flight sent) (events : List Event) :
    LastSent (run client flight cache events).1
      (sent ++ requests (deeds client flight cache events)) := by
  induction events generalizing flight cache sent with
  | nil =>
      rw [deeds_nil, run_nil]
      rwa [requests_nil, List.append_nil]
  | cons event later ih =>
      rw [deeds_cons, run_cons, requests_append, ← List.append_assoc]
      exact ih (last.advance retentive event)

theorem LastSent.of_succeeded {sent : List OutboundRequest} (last : LastSent flight sent)
    {value : Json.Value} (succeeded : flight.stage = .settled (.ok value)) :
    sent.getLast? = flight.call.request := by
  rcases last with ⟨failure, failed⟩ | last
  · rw [succeeded] at failed
    cases failed
  · exact last

/-- A call that has not failed has the request that it sent last. -/
theorem lastSent (retentive : client.handler ≠ .forgetful) (call : Call) (cache : Route.Cache)
    (events : List Event) :
    let started := start client call cache
    LastSent (run client started.1 started.2 events).1
      (requests (callDeeds client call cache events)) := by
  intro started
  have first : LastSent started.1 (requests started.1.stage.demand) := by
    cases built : call.request with
    | none =>
        rw [← List.nil_append (requests _)]
        exact .attempt built.symm
    | some request =>
        unfold started start
        rw [attempt_built built]
        exact .of_sending [] rfl rfl
  rw [requests_callDeeds rfl]
  exact first.run retentive events

end Sending

section Remembering

/-- What is remembered under a key, if anything is, leads to a URI: it is the URI's own target, or
it has been there from the beginning and reads as a URI for the same place. -/
def LeadsTo (key : String) (initial cache : Route.Cache) (uri : Uri) : Prop :=
  ∀ target, cache.find? key = some target →
    target = uri.targetText ∨
      initial.find? key = some target ∧ ∃ landed, Uri.parse target = .ok landed ∧
        SamePlace landed uri

theorem leadsTo_of_forgotten (forgotten : cache.find? key = none) (uri : Uri) :
    LeadsTo key initial cache uri := by
  intro target found
  rw [forgotten] at found
  cases found

theorem leadsTo_put (cache : Route.Cache) (uri : Uri) :
    LeadsTo key initial (cache.put key uri.targetText) uri := by
  intro target found
  rw [Route.Cache.find?_put_self] at found
  exact Or.inl (Option.some.inj found).symm

theorem LeadsTo.landed {uri : Uri} (leads : LeadsTo key initial cache uri)
    (absolute : uri.Absolute) (within : uri.text.utf8ByteSize ≤ Uri.lengthLimit) {target : String}
    (found : cache.find? key = some target) :
    ∃ landed, Uri.parse target = .ok landed ∧ SamePlace landed uri := by
  rcases leads target found with rfl | ⟨_, landed, read, same⟩
  · exact absolute.parse_targetText (Nat.le_trans absolute.targetText_size within)
  · exact ⟨landed, read, same⟩

/-- A call with its request, whose key leads to where the request goes. -/
def Routed (key : String) (initial : Route.Cache) (call : Call) (cache : Route.Cache) : Prop :=
  ∃ request, call.request = some request ∧ request.routeKey = some key ∧
    request.uri.Absolute ∧ LeadsTo key initial cache request.uri

/-- What a call has done for its key when it comes to a stage. -/
def StageLanding (key : String) (initial : Route.Cache) (flight : Flight) (cache : Route.Cache) :
    Prop :=
  match flight.stage with
  | .resolving _ draft =>
      draft.routeKey = some key ∧ draft.uri.Readable ∧ draft.uri.authority ≠ none ∧
        cache.find? key = none
  | .sending _ | .reading _ _ => Routed key initial flight.call cache ∧ flight.attempts ≠ []
  | .pausing _ => Routed key initial flight.call cache
  | .settled (.ok _) =>
      Routed key initial flight.call cache ∧ ∃ target, cache.find? key = some target
  | .settled (.error _) => True

/-- A call on its way to where it is going to be remembered. -/
structure Landing (key : String) (initial : Route.Cache) (state : Flight × Route.Cache) :
    Prop where
  own : ∀ attempt ∈ state.1.attempts, attempt = some key
  stage : StageLanding key initial state.1 state.2

theorem landing_send {request : OutboundRequest} (own : request.routeKey = some key)
    (absolute : request.uri.Absolute) (leads : LeadsTo key initial cache request.uri)
    (earlier : ∀ attempt ∈ flight.attempts, attempt = some key) :
    Landing key initial (flight.send request, cache) where
  own := by
    intro attempt member
    rcases List.mem_cons.mp member with rfl | before
    · exact own
    · exact earlier attempt before
  stage := ⟨⟨request, rfl, own, absolute, leads⟩, nofun⟩

section Success

variable {call : Call} {request : OutboundRequest} (built : call.request = some request)
  (value : Json.Value)

include built

/-- Success leaves what is remembered, and remembers the target of the request where nothing is. -/
theorem find?_concludeAttempt_ok (cache : Route.Cache) :
    (concludeAttempt call (.ok value) cache (some key)).find? key =
      (cache.find? key).or (some request.uri.targetText) := by
  simp only [concludeAttempt]
  by_cases present : cache.contains key = true
  · obtain ⟨target, found⟩ := Option.isSome_iff_exists.mp present
    rw [if_pos present, found, Option.some_or]
  · have absent : cache.find? key = none := by
      rwa [Route.Cache.contains, Option.not_isSome_iff_eq_none] at present
    rw [if_neg present, built, absent, Option.none_or]
    exact Route.Cache.find?_put_self cache key request.uri.targetText

theorem find?_conclude_ok {attempts : List (Option String)}
    (own : ∀ attempt ∈ attempts, attempt = some key) (opened : attempts ≠ []) :
    (attempts.foldl (concludeAttempt call (.ok value)) cache).find? key =
      (cache.find? key).or (some request.uri.targetText) := by
  induction attempts generalizing cache with
  | nil => exact absurd rfl opened
  | cons attempt later ih =>
      rw [List.foldl_cons, own attempt (by simp)]
      have concluded : (concludeAttempt call (.ok value) cache (some key)).find? key = _ :=
        find?_concludeAttempt_ok built value cache
      by_cases last : later = []
      · rw [last]
        exact concluded
      · rw [ih (fun other member => own other (by simp [member])) last, concluded, Option.or_assoc,
          Option.or_self]

end Success

theorem landing_settle_error (failure : Failure) :
    Landing key initial (flight.settle cache (.error failure)) :=
  ⟨fun _ member => absurd member List.not_mem_nil, trivial⟩

theorem landing_fail (fault : CallFault) : Landing key initial (flight.fail cache fault) :=
  landing_settle_error _

/-- A call that succeeds with an attempt open is remembered. -/
theorem landing_settle_ok (routed : Routed key initial flight.call cache)
    (own : ∀ attempt ∈ flight.attempts, attempt = some key) (opened : flight.attempts ≠ [])
    (value : Json.Value) : Landing key initial (flight.settle cache (.ok value)) := by
  obtain ⟨request, built, ownRequest, absolute, leads⟩ := routed
  have remembered : (flight.settle cache (.ok value)).2.find? key =
      (cache.find? key).or (some request.uri.targetText) :=
    find?_conclude_ok built value own opened
  refine ⟨nofun, ⟨request, built, ownRequest, absolute, ?_⟩, ?_⟩
  · intro target found
    rw [remembered] at found
    cases before : cache.find? key with
    | some earlier =>
        rw [before] at found
        cases found
        exact leads target before
    | none =>
        rw [before] at found
        cases found
        exact Or.inl rfl
  · rw [remembered]
    cases cache.find? key with
    | some earlier => exact ⟨earlier, rfl⟩
    | none => exact ⟨request.uri.targetText, rfl⟩

theorem Routed.forget (routed : Routed key initial flight.call cache) :
    Routed key initial flight.call (forget cache (some key)) := by
  obtain ⟨request, built, own, absolute, _⟩ := routed
  exact ⟨request, built, own, absolute,
    leadsTo_of_forgotten (Route.Cache.find?_remove_self cache key) request.uri⟩

/-- Every move of a call keeps it on its way to where it is going to be remembered. -/
theorem Landing.moves (landing : Landing key initial (flight, cache)) {event : Event}
    {next : Flight × Route.Cache} (moves : Moves client flight cache event next) :
    Landing key initial next := by
  obtain ⟨own, stage⟩ := landing
  dsimp only [StageLanding] at own stage
  cases moves with
  | rests => exact ⟨own, stage⟩
  | fails => exact landing_settle_error _
  | aims resolving aimed =>
      rw [resolving] at stage
      obtain ⟨ownDraft, readable, authority, absent⟩ := stage
      obtain ⟨address, uri, replaced, rfl⟩ := exists_of_aim aimed
      refine landing_send ?_ ?_ (leadsTo_of_forgotten absent _) own
      · rw [complete_routeKey]
        exact ownDraft
      · rw [complete_uri]
        exact readable.withHost authority replaced
  | unreached sending allowed =>
      rw [sending] at stage
      have head : flight.attempts.head?.join = some key := by
        cases attempts : flight.attempts with
        | nil => exact absurd attempts stage.2
        | cons attempt later =>
            rw [attempts] at own
            exact own attempt (by simp)
      rw [head]
      exact ⟨fun attempt member => own attempt (List.mem_of_mem_tail member), stage.1.forget⟩
  | @judged _ judge answer custom sending =>
      rw [sending] at stage
      cases judge answer with
      | error failure => exact landing_settle_error failure
      | ok value => exact landing_settle_ok stage.1 own stage.2 value
  | deferred sending =>
      rw [sending] at stage
      exact ⟨own, stage.1⟩
  | told sending =>
      rw [sending] at stage
      have ownKey : flight.call.routeKey = some key := by
        obtain ⟨request, built, ownRequest, _⟩ := stage.1
        rw [Call.routeKey, built]
        exact ownRequest
      rw [ownKey]
      exact ⟨own, stage.1.forget, stage.2⟩
  | opened sending =>
      rw [sending] at stage
      exact ⟨own, stage⟩
  | succeeds reading =>
      rw [reading] at stage
      exact landing_settle_ok stage.1 own stage.2 _
  | @redirected head _ request _ uri reading built named aimed =>
      rw [reading] at stage
      obtain ⟨⟨sent, isBuilt, ownRequest, absolute, _⟩, _⟩ := stage
      rw [built] at isBuilt
      cases isBuilt
      rw [ownRequest, Option.elim_some]
      refine landing_send ?_ (Redirect.absolute_target absolute aimed) (leadsTo_put cache uri) own
      exact (directed_routeKey request head.fields).trans ownRequest
  | resumes pausing =>
      rw [pausing] at stage
      obtain ⟨request, built, ownRequest, absolute, leads⟩ := stage
      rw [attempt_built built]
      exact landing_send ownRequest absolute leads own

theorem Landing.run (retentive : client.handler ≠ .forgetful)
    (landing : Landing key initial (flight, cache)) (events : List Event) :
    Landing key initial (run client flight cache events) := by
  induction events generalizing flight cache with
  | nil => exact landing
  | cons event later ih =>
      rw [run_cons]
      exact ih (landing.moves (moves_advance retentive flight cache event))

end Remembering

section Starting

variable {call : Call}

/-- What a call finds under its key when it starts is nothing or an absolute URI, and a request
that it brings along goes to where this leads. -/
structure Consistent (call : Call) (cache : Route.Cache) (key : String) : Prop where
  remembered : ∀ target, cache.find? key = some target →
    ∃ uri, Uri.parse target = .ok uri ∧ uri.scheme ≠ none ∧ uri.authority ≠ none
  brought : ∀ request, call.request = some request → request.uri.Absolute ∧
    ∀ target uri, cache.find? key = some target → Uri.parse target = .ok uri →
      SamePlace uri request.uri

theorem authority_of_entryName {host : String} (named : client.entryName = some host) :
    client.entry.authority ≠ none := by
  intro unaimed
  rw [Client.entryName, Uri.host, unaimed] at named
  cases named

theorem landing_start (readable : client.entry.Readable) (keyed : client.keyOf call = some key)
    (consistent : Consistent call cache key) :
    Landing key cache (start client call cache) := by
  cases built : call.request with
  | some request =>
      rw [Client.keyOf, built] at keyed
      obtain ⟨absolute, agrees⟩ := consistent.brought request built
      rw [start, attempt_built built]
      refine landing_send keyed absolute ?_ (by simp)
      intro target found
      obtain ⟨uri, read, _⟩ := consistent.remembered target found
      exact Or.inr ⟨found, uri, read, agrees target uri found read⟩
  | none =>
      rw [Client.keyOf, built] at keyed
      obtain ⟨host, named, rfl⟩ := Option.map_eq_some_iff.mp keyed
      cases encoded : client.codec.encode (.array call.parameters) with
      | error fault =>
          rw [start, attempt_failed built (prepare_of_unencodable encoded cache)]
          exact landing_fail _
      | ok body =>
          have prepared := prepare_of_name encoded named cache
          dsimp only at prepared
          cases found : cache.find? (client.routeKey host call) with
          | none =>
              rw [found, Option.filter_none] at prepared
              rw [start, attempt_lookup built prepared]
              have uri : ((client.addressed call body).withRouteKey
                  (client.routeKey host call)).uri = client.entry := addressed_uri client call body
              refine ⟨by simp, rfl, ?_, ?_, ?_⟩
              · rw [uri]
                exact readable
              · rw [uri]
                exact authority_of_entryName named
              · rw [Route.Cache.find?_touch, found]
          | some target =>
              obtain ⟨uri, read, schemed, aimed⟩ := consistent.remembered target found
              rw [found, Option.filter_some, isEmpty_of_parse read] at prepared
              simp only [Bool.not_false, if_true, read] at prepared
              rw [start, attempt_ready built prepared]
              refine landing_send ?_ ?_ ?_ (by simp)
              · rw [complete_routeKey]
                rfl
              · rw [complete_uri]
                exact ⟨readable_of_parse read, schemed, aimed⟩
              · rw [complete_uri]
                intro other isFound
                rw [Route.Cache.find?_touch, found] at isFound
                cases isFound
                exact Or.inr ⟨found, uri, read, .refl uri⟩

/-- A call that has succeeded may be made again with the request that it has. -/
theorem Landing.consistent {initial : Route.Cache} {state : Flight × Route.Cache}
    (landing : Landing key initial state) {value : Json.Value}
    (succeeded : state.1.stage = .settled (.ok value))
    (within : ∀ request, state.1.call.request = some request →
      request.uri.text.utf8ByteSize ≤ Uri.lengthLimit) :
    Consistent state.1.call state.2 key := by
  have stage := landing.stage
  rw [StageLanding, succeeded] at stage
  obtain ⟨⟨request, built, _, absolute, leads⟩, _⟩ := stage
  have landed {target : String} (found : state.2.find? key = some target) :=
    leads.landed absolute (within request built) found
  constructor
  · intro target found
    obtain ⟨uri, read, same⟩ := landed found
    have landedThere := absolute.of_samePlace same (readable_of_parse read)
    exact ⟨uri, read, landedThere.schemed, landedThere.aimed⟩
  · intro brought isBrought
    rw [built] at isBrought
    cases isBrought
    refine ⟨absolute, fun target uri found read => ?_⟩
    obtain ⟨other, isRead, same⟩ := landed found
    rw [read] at isRead
    cases isRead
    exact same

end Starting

/-- The value of a call that has succeeded. -/
def Stage.result? : Stage → Option Json.Value
  | .settled (.ok value) => some value
  | _ => none

theorem Stage.result?_eq_some_iff {stage : Stage} {value : Json.Value} :
    stage.result? = some value ↔ stage = .settled (.ok value) := by
  constructor
  · intro found
    cases stage with
    | settled outcome =>
        cases outcome with
        | ok result =>
            cases found
            rfl
        | error failure => cases found
    | resolving | sending | reading | pausing => cases found
  · rintro rfl
    rfl

/-- The way of a call whose first server is not there and whose second one sends it on. -/
def detour : List Event :=
  let relayed := Response.redirect ⟨"10.0.0.8", some "/calls", none, false⟩
  let answer := Response.success (Json.Value.bool true).bytes
  [.resolved (.ok [.v4 ⟨#v[10, 0, 0, 7]⟩]), .unanswered (.unprocessed "refused"), .resumed,
    .answered relayed.head, .received (.ok relayed.body), .answered answer.head,
    .received (.ok answer.body)]

/-- A call that succeeds leaves an entry under its key that leads to where its last request went:
the text of that target, or else what has been remembered from the beginning. -/
theorem remembered_where_landed (retentive : client.handler ≠ .forgetful)
    (readable : client.entry.Readable) {call : Call} (keyed : client.keyOf call = some key)
    (consistent : Consistent call cache key) (events : List Event) :
    let started := start client call cache
    let ended := run client started.1 started.2 events
    ∀ value, ended.1.stage = .settled (.ok value) →
      ∃ request, (requests (callDeeds client call cache events)).getLast? = some request ∧
        ∃ target, ended.2.find? key = some target ∧
          (target = request.uri.targetText ∨ cache.find? key = some target) ∧
            (request.uri.text.utf8ByteSize ≤ Uri.lengthLimit →
              ∃ landed, Uri.parse target = .ok landed ∧ SamePlace landed request.uri) := by
  intro started ended value succeeded
  have landing : Landing key cache ended :=
    (landing_start readable keyed consistent).run retentive events
  have stage := landing.stage
  rw [StageLanding, succeeded] at stage
  obtain ⟨⟨request, built, _, absolute, leads⟩, target, found⟩ := stage
  have last : LastSent ended.1 (requests (callDeeds client call cache events)) :=
    lastSent retentive call cache events
  have sent : (requests (callDeeds client call cache events)).getLast? = some request := by
    rcases last with ⟨failure, failed⟩ | sent
    · rw [succeeded] at failed
      cases failed
    · rw [sent, built]
  have origin : target = request.uri.targetText ∨ cache.find? key = some target :=
    (leads target found).imp_right And.left
  exact ⟨request, sent, target, found, origin, fun within => leads.landed absolute within found⟩

/-- A call is remembered where its detour took it. -/
theorem remembered_where_landed_detour :
    let call := Call.fresh "SimpleCalc" "add" []
    let key := relay.routeKey "relay" call
    let started := start relay call .usual
    let ended := run relay started.1 started.2 detour
    ∃ value, ended.1.stage = .settled (.ok value) ∧
      ∃ request, (requests (callDeeds relay call .usual detour)).getLast? = some request ∧
        request.uri.text = "http://10.0.0.8:8080/calls" ∧
          ∃ target landed, ended.2.find? key = some target ∧ Uri.parse target = .ok landed ∧
            SamePlace landed request.uri := by
  intro call key started ended
  have result : ended.1.stage.result?.map Json.Value.text = some "true" := by decide +kernel
  obtain ⟨value, isResult, _⟩ := Option.map_eq_some_iff.mp result
  have succeeded : ended.1.stage = .settled (.ok value) := Stage.result?_eq_some_iff.mp isResult
  have retentive : relay.handler ≠ .forgetful := nofun
  have readable : relay.entry.Readable :=
    readable_of_parse (by rfl : Uri.parse "http://relay:8080/" = .ok relay.entry)
  have consistent : Consistent call .usual key := ⟨nofun, nofun⟩
  obtain ⟨request, sent, target, found, _, leads⟩ :=
    remembered_where_landed retentive readable (rfl : relay.keyOf call = some key) consistent
      detour _ succeeded
  have last : (requests (callDeeds relay call .usual detour)).getLast?.map
      (fun request => request.uri.text) = some "http://10.0.0.8:8080/calls" := by
    decide +kernel
  rw [sent] at last
  have text : request.uri.text = "http://10.0.0.8:8080/calls" := Option.some.inj last
  obtain ⟨landed, read, same⟩ := leads (by rw [text]; decide)
  exact ⟨value, succeeded, request, sent, text, target, landed, found, read, same⟩

/-- Two successful calls that are not remembered where they landed: one brings along a request that
goes elsewhere than what is remembered under its key, which stays; the other is made by a client
that forgets the request it has sent. -/
theorem unremembered_landings :
    let answer := Response.success (Json.Value.bool true).bytes
    let events : List Event := [.resolved (.ok [.v4 ⟨#v[10, 0, 0, 7]⟩]), .answered answer.head,
      .received (.ok answer.body)]
    (let request :=
        (OutboundRequest.post ⟨some "http", some "10.0.0.9:8080", "/", none⟩ []).withRouteKey "k"
      let call := (Call.fresh "SimpleCalc" "add" []).withRequest request
      let cache := Route.Cache.usual.put "k" "http://10.0.0.7:8080/"
      let started := start relay call cache
      let ended := run relay started.1 started.2 events
      ended.1.stage = .settled (.ok (.bool true)) ∧
        (requests (callDeeds relay call cache events)).getLast? = some request ∧
          ended.2.find? "k" = some "http://10.0.0.7:8080/" ∧
            ∃ landed, Uri.parse "http://10.0.0.7:8080/" = .ok landed ∧
              landed.host ≠ request.uri.host) ∧
      (let client : Client := { relay with handler := .forgetful }
        let call := Call.fresh "SimpleCalc" "add" []
        let started := start client call .usual
        let ended := run client started.1 started.2 events
        ended.1.stage = .settled (.ok (.bool true)) ∧
          ended.2.find? (client.routeKey "relay" call) = none) := by
  intro answer events
  refine ⟨⟨rfl, rfl, rfl, ⟨some "http", some "10.0.0.7:8080", "/", none⟩, rfl, by decide⟩, ?_⟩
  exact ⟨rfl, rfl⟩

end Flight
end RemoteCall
