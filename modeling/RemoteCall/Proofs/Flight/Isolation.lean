import RemoteCall.Proofs.Flight.Landing
import RemoteCall.Proofs.Flight.Traffic
import RemoteCall.Proofs.Route.Room

/-!
# Calls under different keys do not interfere

A step of a call looks at the entry of its own key and changes no other one, so in a cache with room
the steps of calls under different keys can be taken in any order.  What each of them sends, how it
ends and what is remembered for it is then what it would be without the others.
-/

namespace RemoteCall

/-- The keys that a call works under: that of its request, and if its client forgets the request,
also that of the one which is built in its place. -/
def Client.keysOf (client : Client) (call : Call) : Finset String :=
  match client.handler with
  | .standard | .custom _ => (client.keyOf call).toFinset
  | .forgetful => (client.keyOf call).toFinset ∪ (client.keyOf call.withoutRequest).toFinset

namespace Flight

open Route Cache

variable {client : Client} {involved keys : Finset String} {flight : Flight}

/-- A call whose request is under some keys, also if it is built anew. -/
structure CallOwned (client : Client) (keys : Finset String) (call : Call) : Prop where
  request : ∀ key ∈ call.routeKey, key ∈ keys
  unbuilt : call.request = none ∨ client.handler = .forgetful →
    ∀ key ∈ client.keyOf call.withoutRequest, key ∈ keys

/-- All the keys that a call can come to use are among some keys. -/
structure Owned (client : Client) (keys : Finset String) (flight : Flight) : Prop where
  call : CallOwned client keys flight.call
  attempts : ∀ key, some key ∈ flight.attempts → key ∈ keys
  draft : ∀ host draft, flight.stage = .resolving host draft → ∀ key ∈ draft.routeKey, key ∈ keys

namespace CallOwned

variable {call : Call} (owned : CallOwned client keys call)

include owned

theorem countRetry : CallOwned client keys call.countRetry := ⟨owned.request, owned.unbuilt⟩

theorem countRedirect : CallOwned client keys call.countRedirect := ⟨owned.request, owned.unbuilt⟩

theorem withRequest {request : OutboundRequest} (own : ∀ key ∈ request.routeKey, key ∈ keys) :
    CallOwned client keys (call.withRequest request) where
  request := own
  unbuilt forgetting := by
    rcases forgetting with absent | forgetful
    · cases absent
    · exact owned.unbuilt (Or.inr forgetful)

theorem of_built {request : OutboundRequest} (built : call.request = some request) :
    ∀ key ∈ request.routeKey, key ∈ keys := by
  have own := owned.request
  rw [Call.routeKey, built] at own
  exact own

theorem withoutRequest (forgetful : client.handler = .forgetful) :
    CallOwned client keys call.withoutRequest where
  request := nofun
  unbuilt _ := owned.unbuilt (Or.inr forgetful)

end CallOwned

theorem callOwned_keysOf (client : Client) (call : Call) :
    CallOwned client (client.keysOf call) call where
  request key own := by
    have keyOf : client.keyOf call = some key := by
      cases built : call.request with
      | none =>
          rw [Call.routeKey, built] at own
          cases own
      | some request =>
          rw [Call.routeKey, built] at own
          rw [Client.keyOf, built]
          exact own
    rw [Client.keysOf, keyOf]
    cases client.handler <;> simp
  unbuilt forgetting key rebuilt := by
    rw [Client.keysOf]
    rw [Option.mem_def] at rebuilt
    cases handler : client.handler with
    | forgetful => simp [rebuilt]
    | standard | custom =>
        -- The request is built once, from the call as it is.
        rcases forgetting with absent | forgetful
        · have same : call.withoutRequest = call := by
            cases call
            cases absent
            rfl
          rw [same] at rebuilt
          simp [rebuilt]
        · rw [handler] at forgetful
          cases forgetful

theorem owned_poised (client : Client) (call : Call) :
    Owned client (client.keysOf call) (poised call) :=
  ⟨callOwned_keysOf client call, nofun, nofun⟩

theorem Owned.of_call {call : Call} (owned : CallOwned client keys call)
    {attempts : List (Option String)} (own : ∀ key, some key ∈ attempts → key ∈ keys)
    {stage : Stage} (aimed : ∀ host draft, stage ≠ .resolving host draft) :
    Owned client keys ⟨call, attempts, stage⟩ :=
  ⟨owned, own, fun host draft same => absurd same (aimed host draft)⟩

theorem Owned.withCall (owned : Owned client keys flight) {call : Call}
    (ownCall : CallOwned client keys call) : Owned client keys { flight with call := call } :=
  ⟨ownCall, owned.attempts, owned.draft⟩

theorem Owned.send (owned : Owned client keys flight) {request : OutboundRequest}
    (own : ∀ key ∈ request.routeKey, key ∈ keys) : Owned client keys (flight.send request) := by
  refine .of_call (owned.call.withRequest own) ?_ (by simp)
  intro key member
  rcases List.mem_cons.mp member with same | earlier
  · exact own key same.symm
  · exact owned.attempts key earlier

section Ending

variable {Result : Type} {condition : Result → Prop} {result : Result} (meets : condition result)

include meets

theorem isolated_forget {attempt : Option String} (own : ∀ key ∈ attempt, key ∈ keys) :
    Isolated involved keys condition fun cache => (result, forget cache attempt) := by
  cases attempt with
  | none => exact .pure meets
  | some key => exact .remove (own key rfl) meets

variable (within : keys ⊆ involved)

include within

theorem isolated_concludeAttempt (call : Call) (outcome : Outcome) {attempt : Option String}
    (own : ∀ key ∈ attempt, key ∈ keys) :
    Isolated involved keys condition fun cache =>
      (result, concludeAttempt call outcome cache attempt) := by
  cases attempt with
  | none => exact .pure meets
  | some key =>
      have mine : key ∈ keys := own key rfl
      cases outcome with
      | error failure => exact .remove mine meets
      | ok value =>
          -- Success looks whether there is an entry and else makes one.
          refine .of_find? mine fun found => ?_
          cases found with
          | some target =>
              refine ⟨_, .pure meets, fun cache same => ?_⟩
              simp [concludeAttempt, contains, same]
          | none =>
              cases built : call.request with
              | none =>
                  refine ⟨_, .pure meets, fun cache same => ?_⟩
                  simp [concludeAttempt, contains, same, built]
              | some request =>
                  refine ⟨_, .put within mine request.uri.targetText meets, fun cache same => ?_⟩
                  simp [concludeAttempt, contains, same, built]

theorem isolated_conclude (call : Call) (outcome : Outcome) {attempts : List (Option String)}
    (own : ∀ key, some key ∈ attempts → key ∈ keys) :
    Isolated involved keys condition fun cache =>
      (result, attempts.foldl (concludeAttempt call outcome) cache) := by
  induction attempts with
  | nil => exact .pure meets
  | cons attempt later ih =>
      have first : ∀ key ∈ attempt, key ∈ keys := by
        rintro key rfl
        exact own key List.mem_cons_self
      have others : ∀ key, some key ∈ later → key ∈ keys :=
        fun key member => own key (List.mem_cons_of_mem attempt member)
      have concluding : Isolated involved keys (fun _ => True) fun cache =>
          ((), concludeAttempt call outcome cache attempt) :=
        isolated_concludeAttempt trivial within call outcome first
      exact concluding.bind
        (fun _ cache => (result, later.foldl (concludeAttempt call outcome) cache))
        fun _ _ => ih others

end Ending

section Building

variable {call : Call}

/-- What an attempt makes of what has been built for it. -/
def attemptWith (flight : Flight) : Preparation → Route.Cache → Flight × Route.Cache
  | .ready request, cache => (flight.send request, cache)
  | .lookup host draft, cache => ({ flight with stage := .resolving host draft }, cache)
  | .failed fault, cache => flight.fail cache (.notBuilt fault)

theorem attempt_unbuilt (unbuilt : flight.call.request = none) (cache : Route.Cache) :
    attempt client flight cache =
      flight.attemptWith (client.prepare cache flight.call).1
        (client.prepare cache flight.call).2 := by
  rcases prepared : client.prepare cache flight.call with ⟨preparation, later⟩
  cases preparation with
  | ready request => exact attempt_ready unbuilt prepared
  | lookup host draft => exact attempt_lookup unbuilt prepared
  | failed fault => exact attempt_failed unbuilt prepared

/-- What is built for a call is under its keys. -/
def Preparation.Owned (keys : Finset String) : Preparation → Prop
  | .ready request => ∀ key ∈ request.routeKey, key ∈ keys
  | .lookup _ draft => ∀ key ∈ draft.routeKey, key ∈ keys
  | .failed _ => True

/-- What is built for a host with a name depends on the entry of the call's key alone. -/
theorem exists_prepare {body : Bytes}
    (encoded : client.codec.encode (.array call.parameters) = .ok body) {host : String}
    (named : client.entryName = some host) (own : client.routeKey host call ∈ keys)
    (found : Option String) :
    ∃ preparation, Preparation.Owned keys preparation ∧
      ∀ cache : Route.Cache, cache.find? (client.routeKey host call) = found →
        client.prepare cache call = (preparation, cache.touch (client.routeKey host call)) := by
  have prepare := prepare_of_name encoded named
  let draft := (client.addressed call body).withRouteKey (client.routeKey host call)
  have ownDraft : ∀ key ∈ draft.routeKey, key ∈ keys := by
    intro key same
    cases same
    exact own
  cases remembered : found.filter (!·.isEmpty) with
  | none =>
      refine ⟨.lookup host draft, ownDraft, fun cache same => ?_⟩
      rw [prepare, same, remembered]
  | some target =>
      cases parsed : Uri.parse target with
      | error fault =>
          refine ⟨.failed (.rememberedTarget target fault), trivial, fun cache same => ?_⟩
          rw [prepare, same, remembered]
          simp only [parsed]
      | ok uri =>
          let request := client.complete call (draft.withUri uri)
          have ownRequest : ∀ key ∈ request.routeKey, key ∈ keys := by
            rw [complete_routeKey]
            exact ownDraft
          refine ⟨.ready request, ownRequest, fun cache same => ?_⟩
          rw [prepare, same, remembered]
          simp only [parsed]
          rfl

theorem isolated_prepare (owned : CallOwned client keys call) (unbuilt : call.request = none) :
    Isolated involved keys (Preparation.Owned keys) fun cache => client.prepare cache call := by
  cases encoded : client.codec.encode (.array call.parameters) with
  | error fault =>
      simp only [prepare_of_unencodable encoded]
      exact .pure trivial
  | ok body =>
      cases named : client.entryName with
      | none =>
          have unkeyed : (client.complete call (client.addressed call body)).routeKey = none := by
            rw [complete_routeKey, addressed_routeKey]
          simp only [Client.prepare, encoded, named]
          refine .pure fun key own => ?_
          rw [unkeyed] at own
          cases own
      | some host =>
          have mine : client.routeKey host call ∈ keys := by
            refine owned.unbuilt (Or.inl unbuilt) _ ?_
            rw [Client.keyOf, Call.withoutRequest, named]
            rfl
          refine .of_find? mine fun found => ?_
          obtain ⟨preparation, own, prepared⟩ := exists_prepare encoded named mine found
          exact ⟨_, .touch _ own, prepared⟩

end Building

section Steps

variable (within : keys ⊆ involved)

include within

theorem isolated_settle (owned : Owned client keys flight) (outcome : Outcome) :
    Isolated involved keys (Owned client keys) fun cache => flight.settle cache outcome :=
  isolated_conclude (.of_call owned.call (by simp) (by simp)) within flight.call outcome
    owned.attempts

theorem isolated_fail (owned : Owned client keys flight) (fault : CallFault) :
    Isolated involved keys (Owned client keys) fun cache => flight.fail cache fault :=
  isolated_settle within owned _

theorem isolated_attempt (owned : Owned client keys flight) :
    Isolated involved keys (Owned client keys) fun cache => attempt client flight cache := by
  cases built : flight.call.request with
  | some request =>
      simp only [attempt_built built]
      exact .pure (owned.send (owned.call.of_built built))
  | none =>
      simp only [attempt_unbuilt built]
      refine (isolated_prepare owned.call built).bind flight.attemptWith ?_
      rintro (request | ⟨host, draft⟩ | fault) mine
      · exact .pure (owned.send mine)
      · refine .pure ⟨owned.call, owned.attempts, ?_⟩
        rintro _ _ same
        cases same
        exact mine
      · exact isolated_fail within owned _

theorem isolated_afterTransportFault (owned : Owned client keys flight) (fault : TransportFault) :
    Isolated involved keys (Owned client keys) fun cache =>
      flight.afterTransportFault client cache fault := by
  cases fault with
  | timedOut | failed => exact isolated_fail within owned _
  | unprocessed explanation =>
      have own : ∀ key ∈ flight.attempts.head?.join, key ∈ keys := by
        intro key member
        rw [Option.mem_def, Option.join_eq_some_iff, List.head?_eq_some_iff] at member
        obtain ⟨later, split⟩ := member
        exact owned.attempts key (by rw [split]; exact List.mem_cons_self)
      simp only [afterTransportFault, afterUnprocessed]
      cases mayRetry client flight.call with
      | true =>
          refine isolated_forget (.of_call owned.call.countRetry ?_ (by simp)) own
          exact fun key member => owned.attempts key (List.mem_of_mem_tail member)
      | false =>
          have forgetting : Isolated involved keys (fun _ => True) fun cache =>
              ((), forget cache flight.attempts.head?.join) :=
            isolated_forget trivial own
          let counted : Flight := { flight with call := flight.call.countRetry }
          exact forgetting.bind (fun _ cache => counted.fail cache (.unreached explanation))
            fun _ _ => isolated_fail within (owned.withCall owned.call.countRetry) _

theorem isolated_afterRetrySignal (owned : Owned client keys flight) (head : ResponseHead) :
    Isolated involved keys (Owned client keys) fun cache =>
      flight.afterRetrySignal client cache head := by
  simp only [afterRetrySignal]
  cases mayRetry client flight.call with
  | true => exact .pure (.of_call owned.call.countRetry owned.attempts (by simp))
  | false => exact isolated_fail within (owned.withCall owned.call.countRetry) _

theorem isolated_interpret (owned : Owned client keys flight) (head : ResponseHead) :
    Isolated involved keys (Owned client keys) fun cache => flight.interpret client cache head := by
  cases typed : responseKind? head.fields with
  | none =>
      simp only [interpret_untyped typed]
      exact isolated_fail within owned _
  | some kind =>
      have reading : Owned client keys { flight with stage := .reading head kind } :=
        .of_call owned.call owned.attempts (by simp)
      by_cases thrown : kind = .throwable
      · subst thrown
        simp only [interpret_throwable typed]
        exact isolated_forget reading owned.call.request
      · by_cases asked : head.status.isServerError ∨ kind = .retry
        · simp only [interpret_retry typed thrown asked]
          exact isolated_afterRetrySignal within owned head
        · simp only [interpret_content typed thrown asked]
          exact .pure reading

theorem isolated_afterAnswer (owned : Owned client keys flight) (head : ResponseHead) :
    Isolated involved keys (Owned client keys) fun cache =>
      flight.afterAnswer client cache head := by
  cases handler : client.handler with
  | standard =>
      simp only [afterAnswer, handler]
      exact isolated_interpret within owned head
  | forgetful =>
      simp only [afterAnswer, handler]
      exact isolated_interpret within (owned.withCall (owned.call.withoutRequest handler)) head
  | custom judge =>
      simp only [afterAnswer, handler]
      exact isolated_settle within owned _

theorem isolated_follow (owned : Owned client keys flight) (fields : Fields) :
    Isolated involved keys (Owned client keys) fun cache => flight.follow client cache fields := by
  cases built : flight.call.request with
  | none =>
      simp only [follow, built]
      exact isolated_fail within owned _
  | some request =>
      have own : ∀ key ∈ (directed request fields).routeKey, key ∈ keys := by
        rw [directed_routeKey]
        exact owned.call.of_built built
      have marked := owned.withCall (owned.call.countRedirect.withRequest own)
      by_cases forbidden : client.settings.redirectsLimit = 0
      · simp only [follow, built, if_pos forbidden]
        exact isolated_fail within owned _
      · by_cases exceeded : client.settings.redirectsLimit < flight.call.redirects
        · simp only [follow, built, if_neg forbidden, if_pos exceeded]
          exact isolated_fail within (owned.withCall owned.call.countRedirect) _
        · simp only [follow, built, if_neg forbidden, if_neg exceeded]
          cases named : fields.read .redirectHost with
          | none => exact isolated_fail within marked _
          | some host =>
              cases aimed : Redirect.target (directed request fields).uri host fields with
              | error fault =>
                  simp only [aimed]
                  exact isolated_fail within marked _
              | ok uri =>
                  simp only [aimed]
                  have sent : Owned client keys (send { flight with
                      call := flight.call.countRedirect.withRequest (directed request fields) }
                        ((directed request fields).withUri uri)) := marked.send own
                  cases key : (directed request fields).routeKey with
                  | none => exact .pure sent
                  | some name => exact .put within (own name key) _ sent

theorem isolated_afterBody (owned : Owned client keys flight) (head : ResponseHead)
    (kind : ResponseType) (received : Except Body.Fault Bytes) :
    Isolated involved keys (Owned client keys) fun cache =>
      flight.afterBody client cache head kind received := by
  by_cases thrown : kind = .throwable
  · subst thrown
    simp only [afterBody_throwable]
    exact isolated_settle within owned _
  · cases received with
    | error fault =>
        simp only [afterBody_unreadable thrown]
        exact isolated_fail within owned _
    | ok body =>
        simp only [afterBody_content thrown]
        cases decoded : resultOf client.codec head.fields body with
        | error fault =>
            simp only [afterContent_undecodable decoded]
            exact isolated_fail within owned _
        | ok value =>
            by_cases status : head.status = .ok
            · by_cases leaving : kind = .redirect
              · subst leaving
                simp only [afterContent_redirect decoded status]
                exact isolated_follow within owned head.fields
              · simp only [afterContent_value decoded status leaving]
                exact isolated_settle within owned _
            · simp only [afterContent_unexpected decoded status]
              exact isolated_fail within owned _

/-- A step of a call touches its own keys alone. -/
theorem isolated_advance (owned : Owned client keys flight) (event : Event) :
    Isolated involved keys (Owned client keys) fun cache => flight.advance client cache event := by
  unfold advance
  cases stage : flight.stage with
  | resolving host draft =>
      cases event with
      | resolved found =>
          cases aimed : client.aim flight.call host draft found with
          | error fault =>
              simp only [aimed]
              exact isolated_fail within owned _
          | ok request =>
              simp only [aimed]
              refine .pure (owned.send ?_)
              rw [aim_routeKey aimed]
              exact owned.draft host draft stage
      | answered | unanswered | received | resumed => exact .pure owned
  | sending request =>
      cases event with
      | answered head => exact isolated_afterAnswer within owned head
      | unanswered fault => exact isolated_afterTransportFault within owned fault
      | resolved | received | resumed => exact .pure owned
  | reading head kind =>
      cases event with
      | received body => exact isolated_afterBody within owned head kind body
      | resolved | answered | unanswered | resumed => exact .pure owned
  | pausing milliseconds =>
      cases event with
      | resumed => exact isolated_attempt within owned
      | resolved | answered | unanswered | received => exact .pure owned
  | settled outcome => cases event <;> exact .pure owned

end Steps

end Flight

namespace Traffic

open Flight Route Cache

variable {Caller : Type} [DecidableEq Caller] {clients : Caller → Client}
  {keys : Caller → Finset String} {involved : Finset String} {traffic : Traffic Caller}
  {caller : Caller} {alone : Flight × Route.Cache}

/-- A call among others is where it would be alone, and so is what is remembered for it. -/
structure Alike (clients : Caller → Client) (keys : Caller → Finset String)
    (involved : Finset String) (traffic : Traffic Caller) (caller : Caller)
    (alone : Flight × Route.Cache) : Prop where
  flight : traffic.flights caller = alone.1
  entries : AgreeOn (keys caller) traffic.cache alone.2
  roomy : Roomy involved traffic.cache
  roomyAlone : Roomy involved alone.2
  owned : ∀ other, Owned (clients other) (keys other) (traffic.flights other)

section Turns

variable (within : ∀ caller, keys caller ⊆ involved)
  (alike : Alike clients keys involved traffic caller alone)

include within alike

theorem Alike.owned_advance (turn : Caller × Event) (other : Caller) :
    Owned (clients other) (keys other) ((traffic.advance clients turn).flights other) := by
  obtain ⟨mover, event⟩ := turn
  by_cases same : mover = other
  · subst same
    rw [flights_advance_self]
    exact (isolated_advance (within mover) (alike.owned mover) event).meets traffic.cache
  · rw [flights_advance_of_ne same]
    exact alike.owned other

theorem Alike.own_turn (event : Event) :
    Alike clients keys involved (traffic.advance clients (caller, event)) caller
        (alone.1.advance (clients caller) alone.2 event) ∧
      part caller (deedsAt clients traffic (caller, event)) =
        Flight.deedsAt (clients caller) alone.1 alone.2 event := by
  have isolated := isolated_advance (within caller) (alike.owned caller) event
  obtain ⟨flights, entries⟩ := isolated.blind alike.roomy alike.roomyAlone alike.entries
  have roomyAlone := isolated.roomy alike.roomyAlone
  rw [alike.flight] at flights entries roomyAlone
  constructor
  · refine ⟨?_, ?_, isolated.roomy alike.roomy, roomyAlone, alike.owned_advance within _⟩
    · rw [flights_advance_self, alike.flight]
      exact flights
    · rw [cache_advance, alike.flight]
      exact entries
  · rw [part_deedsAt_self, alike.flight, Flight.deedsAt, Flight.deedsAt]
    rw [flights]

theorem Alike.other_turn (apart : ∀ one other, one ≠ other → Disjoint (keys one) (keys other))
    {other : Caller} (differs : other ≠ caller) (event : Event) :
    Alike clients keys involved (traffic.advance clients (other, event)) caller alone := by
  have isolated := isolated_advance (within other) (alike.owned other) event
  refine ⟨?_, ?_, isolated.roomy alike.roomy, alike.roomyAlone, alike.owned_advance within _⟩
  · rw [flights_advance_of_ne differs]
    exact alike.flight
  · intro key own
    have foreign : key ∉ keys other := Finset.disjoint_right.mp (apart other caller differs) own
    rw [← alike.entries key own]
    exact isolated.framed alike.roomy key foreign

/-- However the turns of the others fall, a call goes the way it goes alone. -/
theorem Alike.run (apart : ∀ one other, one ≠ other → Disjoint (keys one) (keys other))
    (turns : List (Caller × Event)) :
    Alike clients keys involved (run clients traffic turns) caller
        (Flight.run (clients caller) alone.1 alone.2 (part caller turns)) ∧
      part caller (deeds clients traffic turns) =
        Flight.deeds (clients caller) alone.1 alone.2 (part caller turns) := by
  -- The turns of the call are taken on both sides, those of the others only in traffic.
  induction turns generalizing traffic alone with
  | nil => exact ⟨alike, rfl⟩
  | cons turn later ih =>
      obtain ⟨mover, event⟩ := turn
      by_cases same : mover = caller
      · subst same
        obtain ⟨moved, did⟩ := alike.own_turn within event
        obtain ⟨ran, done⟩ := ih moved
        rw [part_cons_self, Flight.run_cons, Flight.deeds_cons, run_cons, deeds_cons, part_append,
          did, done]
        exact ⟨ran, rfl⟩
      · obtain ⟨ran, done⟩ := ih (alike.other_turn within apart same event)
        rw [part_cons_of_ne same, run_cons, deeds_cons, part_append, part_deedsAt_of_ne same, done]
        exact ⟨ran, rfl⟩

end Turns

/-- Calls that work under different keys, in a cache with room for these keys and for those that it
holds already, do not interfere: however their turns are interleaved, each of them encodes, asks for
and sends the same, comes to the same, and leaves the same entries for its keys as when it is alone
with the cache. -/
theorem undisturbed (clients : Caller → Client) (calls : Caller → Call) {cache : Route.Cache}
    {involved : Finset String} (roomy : Roomy involved cache)
    (within : ∀ caller, (clients caller).keysOf (calls caller) ⊆ involved)
    (apart : ∀ one other, one ≠ other →
      Disjoint ((clients one).keysOf (calls one)) ((clients other).keysOf (calls other)))
    (turns : List (Caller × Event)) (caller : Caller) :
    let client := clients caller
    let call := Flight.poised (calls caller)
    let together := run clients (poised calls cache) turns
    let alone := Flight.run client call cache (part caller turns)
    together.flights caller = alone.1 ∧
      part caller (deeds clients (poised calls cache) turns) =
        Flight.deeds client call cache (part caller turns) ∧
      ∀ key ∈ client.keysOf (calls caller), together.cache.find? key = alone.2.find? key := by
  intro client call together alone
  have start : Alike clients (fun caller => (clients caller).keysOf (calls caller)) involved
      (poised calls cache) caller (call, cache) :=
    ⟨rfl, .refl _ cache, roomy, roomy, fun other => owned_poised (clients other) (calls other)⟩
  obtain ⟨ran, done⟩ := start.run within apart turns
  exact ⟨ran.flight, done, ran.entries⟩

/-- A call that has to try again while another one is answered. -/
theorem undisturbed_retrying :
    let calls : Bool → Call := fun caller =>
      .fresh "SimpleCalc" (if caller then "subtract" else "add") []
    let answer := Response.success (Json.Value.bool true).bytes
    let turns : List (Bool × Event) :=
      [(false, .resumed), (true, .resumed), (true, .resolved (.ok [.v4 ⟨#v[10, 0, 0, 8]⟩])),
        (false, .resolved (.ok [.v4 ⟨#v[10, 0, 0, 7]⟩])),
        (false, .unanswered (.unprocessed "refused")), (true, .answered answer.head),
        (true, .received (.ok answer.body)), (false, .resumed), (false, .answered answer.head),
        (false, .received (.ok answer.body))]
    let together := run (fun _ => relay) (poised calls .usual) turns
    (together.flights false).stage.result?.map Json.Value.text = some "true" ∧
      together.cache.find? (relay.routeKey "relay" (calls false)) =
        some "http://10.0.0.7:8080" := by
  intro calls answer turns together
  let involved := relay.keysOf (calls false) ∪ relay.keysOf (calls true)
  have roomy : Roomy involved .usual := roomy_withCapacity (by decide +kernel)
  have within : ∀ caller, relay.keysOf (calls caller) ⊆ involved := by
    rintro (_ | _)
    · exact Finset.subset_union_left
    · exact Finset.subset_union_right
  have apart : ∀ one other, one ≠ other →
      Disjoint (relay.keysOf (calls one)) (relay.keysOf (calls other)) := by decide +kernel
  have own : relay.routeKey "relay" (calls false) ∈ relay.keysOf (calls false) := by
    decide +kernel
  obtain ⟨flight, _, entries⟩ :=
    undisturbed (fun _ => relay) calls roomy within apart turns false
  constructor
  · rw [flight]
    decide +kernel
  · rw [entries _ own]
    decide +kernel

end Traffic
end RemoteCall
