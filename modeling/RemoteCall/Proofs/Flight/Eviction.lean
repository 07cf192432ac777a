import RemoteCall.Proofs.Flight.Launch
import RemoteCall.Proofs.Route.Frame
import RemoteCall.Response.Factory

/-!
# Eviction on failure

All that a call does to a cache it does under its own key.  While the call is on its way the
entries of other keys stay, except for those that make room; and when it fails, whichever way it
does, its key is forgotten.  The reason is that every failure ends all attempts that are open, of
which there is at least one from the moment the request is sent, and each of them forgets the key.
-/

namespace RemoteCall

/-- The key of a call: that of its request, or the one that its request is going to have. -/
def Client.keyOf (client : Client) (call : Call) : Option String :=
  match call.request with
  | some request => request.routeKey
  | none => client.entryName.map fun host => client.routeKey host call

namespace Flight

open Route Cache

variable {client : Client} {flight : Flight} {initial cache : Route.Cache} {key : Option String}

section Attempts

theorem framed_forget (framed : Framed key initial cache) :
    Framed key initial (forget cache key) := by
  cases key with
  | none => exact framed
  | some name => exact framed.remove

theorem framed_concludeAttempt (framed : Framed key initial cache) (call : Call)
    (outcome : Outcome) : Framed key initial (concludeAttempt call outcome cache key) := by
  cases key with
  | none => exact framed
  | some name =>
      cases outcome with
      | error failure => exact framed.remove
      | ok value =>
          simp only [concludeAttempt]
          split
          · exact framed
          · split
            · exact framed.put _
            · exact framed

theorem framed_conclude (framed : Framed key initial cache) (call : Call) (outcome : Outcome)
    {attempts : List (Option String)} (own : ∀ attempt ∈ attempts, attempt = key) :
    Framed key initial (attempts.foldl (concludeAttempt call outcome) cache) := by
  induction attempts generalizing cache with
  | nil => exact framed
  | cons attempt later ih =>
      rw [List.foldl_cons, own attempt (by simp)]
      exact ih (framed_concludeAttempt framed call outcome)
        fun other member => own other (by simp [member])

theorem find?_conclude_of_none {name : String} (forgotten : cache.find? name = none) (call : Call)
    (failure : Failure) {attempts : List (Option String)}
    (own : ∀ attempt ∈ attempts, attempt = some name) :
    (attempts.foldl (concludeAttempt call (.error failure)) cache).find? name = none := by
  induction attempts generalizing cache with
  | nil => exact forgotten
  | cons attempt later ih =>
      rw [List.foldl_cons, own attempt (by simp)]
      exact ih (find?_remove_self cache name) fun other member => own other (by simp [member])

/-- One failing attempt is enough to forget the key. -/
theorem find?_conclude {name : String} (cache : Route.Cache) (call : Call) (failure : Failure)
    {attempts : List (Option String)} (own : ∀ attempt ∈ attempts, attempt = some name)
    (opened : attempts ≠ []) :
    (attempts.foldl (concludeAttempt call (.error failure)) cache).find? name = none := by
  cases attempts with
  | nil => exact absurd rfl opened
  | cons attempt later =>
      rw [List.foldl_cons, own attempt (by simp)]
      exact find?_conclude_of_none (find?_remove_self cache name) call failure
        fun other member => own other (by simp [member])

end Attempts

/-- What a call must have open, or must have done, at its stage. -/
def StageConfined (key : Option String) (flight : Flight) (cache : Route.Cache) : Prop :=
  match flight.stage with
  | .resolving _ draft => flight.call.request = none ∧ draft.routeKey = key
  | .sending _ | .reading _ _ => flight.call.request ≠ none ∧ flight.attempts ≠ []
  | .pausing _ => flight.call.request ≠ none
  | .settled (.error _) =>
      flight.call.request ≠ none → ∀ name, key = some name → cache.find? name = none
  | .settled (.ok _) => True

/-- A call that has worked on a cache under one key only. -/
structure Confined (key : Option String) (initial : Route.Cache)
    (state : Flight × Route.Cache) : Prop where
  framed : Framed key initial state.2
  own : ∀ attempt ∈ state.1.attempts, attempt = key
  keyed : ∀ request, state.1.call.request = some request → request.routeKey = key
  stage : StageConfined key state.1 state.2

/-- A call that has sent its request, with at least one attempt open. -/
structure Working (key : Option String) (initial : Route.Cache) (flight : Flight)
    (cache : Route.Cache) : Prop where
  framed : Framed key initial cache
  own : ∀ attempt ∈ flight.attempts, attempt = key
  keyed : ∀ request, flight.call.request = some request → request.routeKey = key
  built : flight.call.request ≠ none
  opened : flight.attempts ≠ []

theorem confined_send (framed : Framed key initial cache)
    (own : ∀ attempt ∈ flight.attempts, attempt = key) {request : OutboundRequest}
    (ownRequest : request.routeKey = key) : Confined key initial (flight.send request, cache) where
  framed := framed
  own := by
    intro attempt member
    rcases List.mem_cons.mp member with rfl | earlier
    · exact ownRequest
    · exact own attempt earlier
  keyed := by
    intro sent isSent
    cases isSent
    exact ownRequest
  stage := ⟨nofun, nofun⟩

/-- A call whose request cannot be built has nothing to forget. -/
theorem confined_fail_unbuilt (framed : Framed key initial cache)
    (own : ∀ attempt ∈ flight.attempts, attempt = key) (unbuilt : flight.call.request = none)
    (fault : CallFault) : Confined key initial (flight.fail cache fault) where
  framed := framed_conclude framed flight.call _ own
  own := nofun
  keyed := by
    intro request built
    rw [fail_call, unbuilt] at built
    cases built
  stage built := absurd unbuilt built

namespace Working

variable (working : Working key initial flight cache)

include working

/-- However a call ends, it ends within the frame, and failure forgets the key. -/
theorem settle (outcome : Outcome) : Confined key initial (flight.settle cache outcome) where
  framed := framed_conclude working.framed flight.call outcome working.own
  own := nofun
  keyed := working.keyed
  stage := by
    cases outcome with
    | ok value => trivial
    | error failure =>
        intro built name same
        subst same
        exact find?_conclude cache flight.call failure working.own working.opened

theorem fail (fault : CallFault) : Confined key initial (flight.fail cache fault) :=
  working.settle _

theorem forgetting : Working key initial flight (forget cache key) :=
  { working with framed := framed_forget working.framed }

theorem countingRetry :
    Working key initial { flight with call := flight.call.countRetry } cache :=
  ⟨working.framed, working.own, working.keyed, working.built, working.opened⟩

theorem countingRedirect :
    Working key initial { flight with call := flight.call.countRedirect } cache :=
  ⟨working.framed, working.own, working.keyed, working.built, working.opened⟩

theorem reading (head : ResponseHead) (kind : ResponseType) :
    Confined key initial ({ flight with stage := .reading head kind }, cache) :=
  ⟨working.framed, working.own, working.keyed, working.built, working.opened⟩

theorem resending {request : OutboundRequest} (ownRequest : request.routeKey = key) :
    Working key initial { flight with call := flight.call.withRequest request } cache where
  framed := working.framed
  own := working.own
  keyed := by
    intro sent isSent
    cases isSent
    exact ownRequest
  built := nofun
  opened := working.opened

theorem head_attempt : flight.attempts.head?.join = key := by
  have own := working.own
  have opened := working.opened
  cases attempts : flight.attempts with
  | nil => exact absurd attempts opened
  | cons attempt later =>
      rw [attempts] at own
      exact own attempt (by simp)

theorem routeKey_call : flight.call.routeKey = key := by
  cases built : flight.call.request with
  | none => exact absurd built working.built
  | some request =>
      rw [Call.routeKey, built]
      exact working.keyed request built

theorem afterTransportFault (fault : TransportFault) :
    Confined key initial (flight.afterTransportFault client cache fault) := by
  cases fault with
  | timedOut | failed => exact working.fail _
  | unprocessed explanation =>
      rw [Flight.afterTransportFault, afterUnprocessed, working.head_attempt]
      dsimp only
      split
      · exact ⟨framed_forget working.framed,
          fun attempt member => working.own attempt (List.mem_of_mem_tail member),
          working.keyed, working.built⟩
      · exact working.forgetting.countingRetry.fail _

theorem afterRetrySignal (head : ResponseHead) :
    Confined key initial (flight.afterRetrySignal client cache head) := by
  rw [Flight.afterRetrySignal]
  dsimp only
  split
  · exact ⟨working.framed, working.own, working.keyed, working.built⟩
  · exact working.countingRetry.fail _

theorem interpret (head : ResponseHead) :
    Confined key initial (flight.interpret client cache head) := by
  cases typed : responseKind? head.fields with
  | none =>
      rw [interpret_untyped typed]
      exact working.fail _
  | some kind =>
      by_cases thrown : kind = .throwable
      · subst thrown
        rw [interpret_throwable typed, working.routeKey_call]
        exact working.forgetting.reading head .throwable
      · by_cases asked : head.status.isServerError ∨ kind = .retry
        · rw [interpret_retry typed thrown asked]
          exact working.afterRetrySignal head
        · rw [interpret_content typed thrown asked]
          exact working.reading head kind

/-- A redirect that is followed remembers its target under the key of the call. -/
theorem follow (fields : Fields) : Confined key initial (flight.follow client cache fields) := by
  cases built : flight.call.request with
  | none => exact absurd built working.built
  | some request =>
      have requestKey := working.keyed request built
      have ownRequest : (directed request fields).routeKey = key := by
        rw [directed_routeKey, requestKey]
      have counted := working.countingRedirect
      have resending := counted.resending ownRequest
      have follows := follows client built cache fields
      generalize Flight.follow client flight cache fields = next at follows ⊢
      cases follows with
      | forbidden => exact working.fail _
      | exceeded => exact counted.fail _
      | lost _ _ fault _ => exact resending.fail fault
      | followed _ _ _ aimed =>
          refine confined_send ?_ resending.own ownRequest
          rw [requestKey]
          cases key with
          | none => exact working.framed
          | some name => exact working.framed.put _

theorem afterContent (head : ResponseHead) (kind : ResponseType) (body : Bytes) :
    Confined key initial (flight.afterContent client cache head kind body) := by
  cases decoded : resultOf client.codec head.fields body with
  | error fault =>
      rw [afterContent_undecodable decoded]
      exact working.fail _
  | ok value =>
      by_cases status : head.status = .ok
      · by_cases leaving : kind = .redirect
        · subst leaving
          rw [afterContent_redirect decoded status]
          exact working.follow head.fields
        · rw [afterContent_value decoded status leaving]
          exact working.settle _
      · rw [afterContent_unexpected decoded status]
        exact working.fail _

theorem afterBody (head : ResponseHead) (kind : ResponseType) (body : Except Body.Fault Bytes) :
    Confined key initial (flight.afterBody client cache head kind body) := by
  by_cases thrown : kind = .throwable
  · subst thrown
    rw [afterBody_throwable]
    exact working.settle _
  · cases body with
    | error fault =>
        rw [afterBody_unreadable thrown]
        exact working.fail _
    | ok body =>
        rw [afterBody_content thrown]
        exact working.afterContent head kind body

end Working

section Building

@[simp]
theorem complete_routeKey (call : Call) (request : OutboundRequest) :
    (client.complete call request).routeKey = request.routeKey := by
  unfold Client.complete
  cases client.settings.requestTimeout <;> rfl

theorem addressed_routeKey (call : Call) (body : Bytes) :
    (client.addressed call body).routeKey = none := by
  unfold Client.addressed
  dsimp only
  split <;> rfl

/-- What building a request leaves: the cache with at most one use of the key, and a request or a
draft under that key. -/
structure Prepared (key : Option String) (initial : Route.Cache)
    (prepared : Preparation × Route.Cache) : Prop where
  framed : Framed key initial prepared.2
  ready : ∀ request, prepared.1 = .ready request → request.routeKey = key
  lookup : ∀ host draft, prepared.1 = .lookup host draft → draft.routeKey = key

theorem prepared_prepare (client : Client) {call : Call} (unbuilt : call.request = none)
    (cache : Route.Cache) : Prepared (client.keyOf call) cache (client.prepare cache call) := by
  have keyOf : client.keyOf call = client.entryName.map fun host => client.routeKey host call := by
    rw [Client.keyOf, unbuilt]
  have framed : ∀ {host}, client.entryName = some host →
      Framed (client.keyOf call) cache (cache.touch (client.routeKey host call)) := by
    intro host named
    rw [keyOf, named, Option.map_some]
    exact (Framed.refl _ cache).touch
  have prepares := prepares client call cache
  generalize client.prepare cache call = prepared at prepares ⊢
  cases prepares with
  | unencodable fault => exact ⟨.refl _ cache, nofun, nofun⟩
  | misremembered named target fault => exact ⟨framed named, nofun, nofun⟩
  | address encoded address =>
      refine ⟨.refl _ cache, ?_, nofun⟩
      intro request isReady
      cases isReady
      rw [complete_routeKey, addressed_routeKey, keyOf, address, Option.map_none]
  | unknown encoded named =>
      refine ⟨framed named, nofun, ?_⟩
      intro host draft isLookup
      cases isLookup
      rw [keyOf, named]
      rfl
  | remembered encoded named uri =>
      refine ⟨framed named, ?_, nofun⟩
      intro request isReady
      cases isReady
      rw [complete_routeKey, keyOf, named]
      rfl

theorem aim_routeKey {call : Call} {host : String} {draft request : OutboundRequest}
    {found : Except Net.LookupFault (List Net.Address)}
    (aimed : client.aim call host draft found = .ok request) :
    request.routeKey = draft.routeKey := by
  obtain ⟨_, uri, _, rfl⟩ := exists_of_aim aimed
  rw [complete_routeKey]
  rfl

theorem confined_start (client : Client) (call : Call) (cache : Route.Cache) :
    Confined (client.keyOf call) cache (start client call cache) := by
  cases built : call.request with
  | some request =>
      have sameKey : request.routeKey = client.keyOf call := by rw [Client.keyOf, built]
      rw [start, attempt_built built]
      exact confined_send (.refl _ cache) (by simp) sameKey
  | none =>
      have prepared := prepared_prepare client built cache
      rcases result : client.prepare cache call with ⟨preparation, later⟩
      rw [result] at prepared
      cases preparation with
      | ready request =>
          rw [start, attempt_ready built result]
          exact confined_send prepared.framed (by simp) (prepared.ready request rfl)
      | lookup host draft =>
          rw [start, attempt_lookup built result]
          refine ⟨prepared.framed, by simp, ?_, built, prepared.lookup host draft rfl⟩
          intro request isBuilt
          rw [built] at isBuilt
          cases isBuilt
      | failed fault =>
          rw [start, attempt_failed built result]
          exact confined_fail_unbuilt prepared.framed (by simp) built _

end Building

/-- One step of a call stays within the frame of its key. -/
theorem Confined.advance (retentive : client.handler ≠ .forgetful)
    (confined : Confined key initial (flight, cache)) (event : Event) :
    Confined key initial (flight.advance client cache event) := by
  obtain ⟨framed, own, keyed, stage⟩ := id confined
  dsimp only [StageConfined] at framed own keyed stage
  cases stageEq : flight.stage with
  | resolving host draft =>
      rw [stageEq] at stage
      cases event with
      | resolved found =>
          rw [advance_resolved stageEq]
          cases aimed : client.aim flight.call host draft found with
          | error fault => exact confined_fail_unbuilt framed own stage.1 _
          | ok request => exact confined_send framed own ((aim_routeKey aimed).trans stage.2)
      | answered | unanswered | received | resumed =>
          -- These are not what the call waits for, so neither it nor the cache changes.
          unfold Flight.advance
          rw [stageEq]
          exact confined
  | sending request =>
      rw [stageEq] at stage
      have working : Working key initial flight cache := ⟨framed, own, keyed, stage.1, stage.2⟩
      cases event with
      | answered head =>
          cases handler : client.handler with
          | standard =>
              rw [advance_answered stageEq handler]
              exact working.interpret head
          | forgetful => exact absurd handler retentive
          | custom judge =>
              rw [advance_judged stageEq handler]
              exact working.settle (judge head)
      | unanswered fault =>
          rw [advance_unanswered stageEq]
          exact working.afterTransportFault fault
      | resolved | received | resumed =>
          unfold Flight.advance
          rw [stageEq]
          exact confined
  | reading head kind =>
      rw [stageEq] at stage
      have working : Working key initial flight cache := ⟨framed, own, keyed, stage.1, stage.2⟩
      cases event with
      | received body =>
          rw [advance_received stageEq]
          exact working.afterBody head kind body
      | resolved | answered | unanswered | resumed =>
          unfold Flight.advance
          rw [stageEq]
          exact confined
  | pausing milliseconds =>
      rw [stageEq] at stage
      cases event with
      | resumed =>
          cases built : flight.call.request with
          | none => exact absurd built stage
          | some request =>
              rw [advance_resumed stageEq built]
              exact confined_send framed own (keyed request built)
      | resolved | answered | unanswered | received =>
          unfold Flight.advance
          rw [stageEq]
          exact confined
  | settled outcome =>
      rw [advance_settled stageEq]
      exact confined

/-- A whole run of a call stays within the frame of its key. -/
theorem Confined.run_of_retentive (retentive : client.handler ≠ .forgetful)
    (confined : Confined key initial (flight, cache)) (events : List Event) :
    Confined key initial (Flight.run client flight cache events) := by
  induction events generalizing flight cache with
  | nil => exact confined
  | cons event later ih =>
      rw [run_cons]
      exact ih (confined.advance retentive event)

theorem Confined.run (standard : client.handler = .standard)
    (confined : Confined key initial (flight, cache)) (events : List Event) :
    Confined key initial (Flight.run client flight cache events) :=
  confined.run_of_retentive (by rw [standard]; exact nofun) events

/-- A failed call whose request was built has forgotten its key. -/
theorem Confined.forgotten {state : Flight × Route.Cache} (confined : Confined key initial state)
    {failure : Failure} (failed : state.1.stage = .settled (.error failure))
    {request : OutboundRequest} (built : state.1.call.request = some request) :
    ∀ name, key = some name → state.2.find? name = none := by
  have stage := confined.stage
  rw [StageConfined, failed] at stage
  exact stage (by rw [built]; nofun)

theorem keyOf_of_address {call : Call} (address : client.entryName = none)
    (unkeyed : call.routeKey = none) : client.keyOf call = none := by
  unfold Client.keyOf
  cases built : call.request with
  | none => rw [address, Option.map_none]
  | some request =>
      rw [Call.routeKey, built] at unkeyed
      exact unkeyed

/-- A failed call whose request was built leaves no entry under its key, and every entry it leaves
was there before: entries of other keys stay in their order, except that in a full cache some may
have made room.  A call to an address leaves the entries as they are, whatever becomes of it, unless
it comes with a request that carries a key. -/
theorem evicted_on_failure (standard : client.handler = .standard) (call : Call)
    (cache : Route.Cache) (events : List Event) :
    let started := start client call cache
    let ended := run client started.1 started.2 events
    (∀ failure request, ended.1.stage = .settled (.error failure) →
      ended.1.call.request = some request →
        (∀ name, request.routeKey = some name →
          ended.2.find? name = none ∧
            (ended.2.entries = cache.others name ∨
              cache.capacity ≤ (cache.others name).length ∧
                ended.2.entries = (cache.others name).take (cache.capacity - 1))) ∧
        ∀ entry ∈ ended.2.entries, entry ∈ cache.entries) ∧
      (client.entryName = none → call.routeKey = none → ended.2.entries = cache.entries) := by
  intro started ended
  have confined : Confined (client.keyOf call) cache ended :=
    (confined_start client call cache).run standard events
  constructor
  · intro failure request failed built
    have forgotten := confined.forgotten failed built
    rw [confined.keyed request built]
    constructor
    · intro name own
      have framed := confined.framed
      rw [own] at framed
      exact ⟨forgotten name own, framed.entries_of_forgotten (forgotten name own)⟩
    · exact fun entry member => confined.framed.subset_of_forgotten forgotten member
  · intro address unkeyed
    exact confined.framed.unkeyed (keyOf_of_address address unkeyed)

/-- A client that calls enter through by name. -/
def relay : Client := { loopback with entry := ⟨some "http", some "relay:8080", "/", none⟩ }

/-- The answer to a call is lost, and the target that was remembered for the call is forgotten. -/
theorem evicted_on_failure_lost :
    let call := Call.fresh "SimpleCalc" "add" []
    let key := relay.routeKey "relay" call
    let cache := Route.Cache.usual.put key "http://10.0.0.7:8080/"
    let started := start relay call cache
    let ended := run relay started.1 started.2 [.unanswered (.failed "reset")]
    cache.find? key = some "http://10.0.0.7:8080/" ∧ ended.2.find? key = none := by
  intro call key cache started ended
  refine ⟨find?_put_self _ _ _, ?_⟩
  exact (((evicted_on_failure rfl call cache [.unanswered (.failed "reset")]).1 _ _ rfl rfl).1
    key rfl).1

/-- A request that was built with a key takes it along to a client that calls enter through by
address, and a successful call is remembered under it. -/
theorem remembered_under_carried_key :
    let request := (OutboundRequest.post loopback.entry []).withRouteKey "k"
    let call := (Call.fresh "SimpleCalc" "add" []).withRequest request
    let cache := Route.Cache.usual
    let answer := Response.success (Json.Value.bool true).bytes
    let started := start loopback call cache
    let ended := run loopback started.1 started.2
      [.answered answer.head, .received (.ok answer.body)]
    loopback.handler = .standard ∧ loopback.entryName = none ∧
      ended.1.stage = .settled (.ok (.bool true)) ∧ ended.2.entries ≠ cache.entries := by
  intro request call cache answer started ended
  have remembered : ended.2.entries = [("k", "http://127.0.0.1:8080")] := by rfl
  refine ⟨rfl, by decide, rfl, ?_⟩
  rw [remembered]
  exact List.cons_ne_nil _ _

end Flight
end RemoteCall
