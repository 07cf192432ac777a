import RemoteCall.Proofs.Flight.Launch

/-!
# Every move of a call

Where the answers are taken by the rules of the protocol or judged by themselves, one step of a
call is one of the few moves below.  Each says under what condition it is made and what it leaves
of the call and of the cache; so an invariant of calls is shown by one case for each move.
-/

namespace RemoteCall
namespace Flight

/-- Whether a call at a stage waits for an event. -/
def Stage.awaits : Stage → Event → Bool
  | .resolving _ _, .resolved _ => true
  | .sending _, .answered _ => true
  | .sending _, .unanswered _ => true
  | .reading _ _, .received _ => true
  | .pausing _, .resumed => true
  | _, _ => false

variable {client : Client} {flight : Flight} {cache : Route.Cache}

/-- An event that a call does not wait for changes nothing. -/
theorem advance_of_not_awaits {event : Event} (unawaited : flight.stage.awaits event = false)
    (client : Client) (cache : Route.Cache) :
    flight.advance client cache event = (flight, cache) := by
  revert unawaited
  unfold advance
  cases flight.stage <;> cases event <;> first | exact fun _ => rfl | exact nofun

/-- A call as it was before, apart from its counters and from the mark of a relay on its request. -/
structure Continues (before after : Call) : Prop where
  interface : after.interface = before.interface
  method : after.method = before.method
  parameters : after.parameters = before.parameters
  request : after.request = before.request ∨
    ∃ request fields, before.request = some request ∧
      after.request = some (directed request fields)

theorem Continues.refl (call : Call) : Continues call call := ⟨rfl, rfl, rfl, .inl rfl⟩

theorem Continues.countRetry (call : Call) : Continues call call.countRetry :=
  ⟨rfl, rfl, rfl, .inl rfl⟩

theorem Continues.countRedirect (call : Call) : Continues call call.countRedirect :=
  ⟨rfl, rfl, rfl, .inl rfl⟩

theorem Continues.routeKey {before after : Call} (continues : Continues before after) :
    after.routeKey = before.routeKey := by
  rcases continues.request with same | ⟨request, fields, built, marked⟩
  · rw [Call.routeKey, Call.routeKey, same]
  · rw [Call.routeKey, Call.routeKey, built, marked]
    exact directed_routeKey request fields

/-- The moves of a call.  The key that a failing attempt forgets may have been forgotten before. -/
inductive Moves (client : Client) (flight : Flight) (cache : Route.Cache) :
    Event → Flight × Route.Cache → Prop where
  | rests {event : Event} (unawaited : flight.stage.awaits event = false) :
      Moves client flight cache event (flight, cache)
  | fails {event : Event} (awaited : flight.stage.awaits event = true) {call : Call}
      (continues : Continues flight.call call) {left : Route.Cache}
      (forgot : left = cache ∨ left = forget cache flight.attempts.head?.join)
      (failure : Failure) :
      Moves client flight cache event
        (settle { flight with call := call } left (.error failure))
  | aims {host : String} {draft request : OutboundRequest}
      {found : Except Net.LookupFault (List Net.Address)}
      (resolving : flight.stage = .resolving host draft)
      (aimed : client.aim flight.call host draft found = .ok request) :
      Moves client flight cache (.resolved found) (flight.send request, cache)
  | unreached {request : OutboundRequest} {explanation : String}
      (sending : flight.stage = .sending request)
      (allowed : mayRetry client flight.call = true) :
      Moves client flight cache (.unanswered (.unprocessed explanation))
        ({ call := flight.call.countRetry
           attempts := flight.attempts.tail
           stage := .pausing client.settings.retryDelay },
          forget cache flight.attempts.head?.join)
  | judged {request : OutboundRequest} {judge : ResponseHead → Outcome} {head : ResponseHead}
      (custom : client.handler = .custom judge) (sending : flight.stage = .sending request) :
      Moves client flight cache (.answered head) (flight.settle cache (judge head))
  | deferred {request : OutboundRequest} {head : ResponseHead} {kind : ResponseType}
      (sending : flight.stage = .sending request)
      (typed : responseKind? head.fields = some kind) (unthrown : kind ≠ .throwable)
      (asked : head.status.isServerError ∨ kind = .retry)
      (allowed : mayRetry client flight.call = true) :
      Moves client flight cache (.answered head)
        ({ flight with
            call := flight.call.countRetry
            stage := .pausing (suggestedPause client head.fields) }, cache)
  | told {request : OutboundRequest} {head : ResponseHead}
      (sending : flight.stage = .sending request)
      (typed : responseKind? head.fields = some .throwable) :
      Moves client flight cache (.answered head)
        ({ flight with stage := .reading head .throwable }, forget cache flight.call.routeKey)
  | opened {request : OutboundRequest} {head : ResponseHead} {kind : ResponseType}
      (sending : flight.stage = .sending request)
      (typed : responseKind? head.fields = some kind) (unthrown : kind ≠ .throwable)
      (unasked : ¬(head.status.isServerError ∨ kind = .retry)) :
      Moves client flight cache (.answered head)
        ({ flight with stage := .reading head kind }, cache)
  | succeeds {head : ResponseHead} {kind : ResponseType} {body : Bytes} {value : Json.Value}
      (reading : flight.stage = .reading head kind) (unthrown : kind ≠ .throwable)
      (staying : kind ≠ .redirect) (status : head.status = .ok)
      (decoded : resultOf client.codec head.fields body = .ok value) :
      Moves client flight cache (.received (.ok body)) (flight.settle cache (.ok value))
  | redirected {head : ResponseHead} {body : Bytes} {request : OutboundRequest} {host : String}
      {uri : Uri} (reading : flight.stage = .reading head .redirect)
      (built : flight.call.request = some request)
      (named : head.fields.read .redirectHost = some host)
      (aimed : Redirect.target request.uri host head.fields = .ok uri) :
      Moves client flight cache (.received (.ok body))
        (send { flight with
            call := flight.call.countRedirect.withRequest (directed request head.fields) }
          ((directed request head.fields).withUri uri),
          request.routeKey.elim cache fun key => cache.put key uri.targetText)
  | resumes {milliseconds : Nat} (pausing : flight.stage = .pausing milliseconds) :
      Moves client flight cache .resumed (attempt client flight cache)

section Ending

variable {event : Event} (awaited : flight.stage.awaits event = true)

include awaited

theorem moves_settle_error (failure : Failure) :
    Moves client flight cache event (flight.settle cache (.error failure)) :=
  .fails awaited (.refl flight.call) (.inl rfl) failure

theorem moves_fail (fault : CallFault) :
    Moves client flight cache event (flight.fail cache fault) :=
  moves_settle_error awaited _

theorem moves_fail_of_continues {call : Call} (continues : Continues flight.call call)
    (fault : CallFault) :
    Moves client flight cache event (fail { flight with call := call } cache fault) :=
  .fails awaited continues (.inl rfl) _

end Ending

theorem moves_afterTransportFault {request : OutboundRequest}
    (sending : flight.stage = .sending request) (fault : TransportFault) :
    Moves client flight cache (.unanswered fault)
      (flight.afterTransportFault client cache fault) := by
  have awaited : flight.stage.awaits (.unanswered fault) = true := by
    rw [sending]
    rfl
  cases fault with
  | timedOut | failed => exact moves_fail awaited _
  | unprocessed explanation =>
      rw [afterTransportFault, afterUnprocessed]
      dsimp only
      split
      · next allowed => exact .unreached sending allowed
      · exact .fails awaited (.countRetry flight.call) (.inr rfl) _

theorem moves_interpret {request : OutboundRequest} (sending : flight.stage = .sending request)
    (head : ResponseHead) :
    Moves client flight cache (.answered head) (flight.interpret client cache head) := by
  have awaited : flight.stage.awaits (.answered head) = true := by
    rw [sending]
    rfl
  cases typed : responseKind? head.fields with
  | none =>
      rw [interpret_untyped typed]
      exact moves_fail awaited _
  | some kind =>
      by_cases thrown : kind = .throwable
      · subst thrown
        rw [interpret_throwable typed]
        exact .told sending typed
      · by_cases asked : head.status.isServerError ∨ kind = .retry
        · rw [interpret_retry typed thrown asked, afterRetrySignal]
          dsimp only
          split
          · next allowed => exact .deferred sending typed thrown asked allowed
          · exact moves_fail_of_continues awaited (.countRetry flight.call) _
        · rw [interpret_content typed thrown asked]
          exact .opened sending typed thrown asked

/-- A call without its request cannot follow a redirect, and any other may. -/
theorem moves_follow {head : ResponseHead} (reading : flight.stage = .reading head .redirect)
    (body : Bytes) :
    Moves client flight cache (.received (.ok body)) (flight.follow client cache head.fields) := by
  have awaited : flight.stage.awaits (.received (.ok body)) = true := by
    rw [reading]
    rfl
  cases built : flight.call.request with
  | none =>
      rw [follow, built]
      exact moves_fail awaited _
  | some request =>
      have follows := follows client built cache head.fields
      generalize follow client flight cache head.fields = next at follows ⊢
      cases follows with
      | forbidden => exact moves_fail awaited _
      | exceeded => exact moves_fail_of_continues awaited (.countRedirect flight.call) _
      | lost _ _ fault _ =>
          have continues : Continues flight.call
              (flight.call.countRedirect.withRequest (directed request head.fields)) :=
            ⟨rfl, rfl, rfl, .inr ⟨request, head.fields, built, rfl⟩⟩
          exact moves_fail_of_continues awaited continues fault
      | followed _ _ named aimed =>
          rw [directed_uri] at aimed
          exact .redirected reading built named aimed

theorem moves_afterBody {head : ResponseHead} {kind : ResponseType}
    (reading : flight.stage = .reading head kind) (received : Except Body.Fault Bytes) :
    Moves client flight cache (.received received)
      (flight.afterBody client cache head kind received) := by
  have awaited : flight.stage.awaits (.received received) = true := by
    rw [reading]
    rfl
  by_cases thrown : kind = .throwable
  · subst thrown
    rw [afterBody_throwable]
    exact moves_settle_error awaited _
  · cases received with
    | error fault =>
        rw [afterBody_unreadable thrown]
        exact moves_fail awaited _
    | ok body =>
        rw [afterBody_content thrown]
        cases decoded : resultOf client.codec head.fields body with
        | error fault =>
            rw [afterContent_undecodable decoded]
            exact moves_fail awaited _
        | ok value =>
            by_cases status : head.status = .ok
            · by_cases leaving : kind = .redirect
              · subst leaving
                rw [afterContent_redirect decoded status]
                exact moves_follow reading body
              · rw [afterContent_value decoded status leaving]
                exact .succeeds reading thrown leaving status decoded
            · rw [afterContent_unexpected decoded status]
              exact moves_fail awaited _

theorem retentive_of_standard (standard : client.handler = .standard) :
    client.handler ≠ .forgetful := by
  rw [standard]
  exact nofun

/-- Every step of a call is one of its moves, unless an answer makes its client forget the request.
-/
theorem moves_advance_unless_forgotten {event : Event}
    (kept : ∀ head, event = .answered head → client.handler ≠ .forgetful) (flight : Flight)
    (cache : Route.Cache) :
    Moves client flight cache event (flight.advance client cache event) := by
  cases awaited : flight.stage.awaits event with
  | false =>
      rw [advance_of_not_awaits awaited]
      exact .rests awaited
  | true =>
      cases stage : flight.stage with
      | resolving host draft =>
          cases event with
          | resolved found =>
              rw [advance_resolved stage]
              cases aimed : client.aim flight.call host draft found with
              | error fault => exact moves_fail awaited _
              | ok request => exact .aims stage aimed
          | answered | unanswered | received | resumed =>
              rw [stage] at awaited
              cases awaited
      | sending request =>
          cases event with
          | answered head =>
              cases handler : client.handler with
              | standard =>
                  rw [advance_answered stage handler]
                  exact moves_interpret stage head
              | forgetful => exact absurd handler (kept head rfl)
              | custom judge =>
                  rw [advance_judged stage handler]
                  exact .judged handler stage
          | unanswered fault =>
              rw [advance_unanswered stage]
              exact moves_afterTransportFault stage fault
          | resolved | received | resumed =>
              rw [stage] at awaited
              cases awaited
      | reading head kind =>
          cases event with
          | received body =>
              rw [advance_received stage]
              exact moves_afterBody stage body
          | resolved | answered | unanswered | resumed =>
              rw [stage] at awaited
              cases awaited
      | pausing milliseconds =>
          cases event with
          | resumed =>
              have resumed : flight.advance client cache .resumed =
                  attempt client flight cache := by
                unfold advance
                rw [stage]
              rw [resumed]
              exact .resumes stage
          | resolved | answered | unanswered | received =>
              rw [stage] at awaited
              cases awaited
      | settled outcome =>
          rw [stage] at awaited
          cases event <;> cases awaited

theorem moves_advance (retentive : client.handler ≠ .forgetful) (flight : Flight)
    (cache : Route.Cache) (event : Event) :
    Moves client flight cache event (flight.advance client cache event) :=
  moves_advance_unless_forgotten (fun _ _ => retentive) flight cache

/-- A call keeps having its request once it has one. -/
theorem Moves.built {event : Event} {next : Flight × Route.Cache}
    (moves : Moves client flight cache event next) (built : flight.call.request ≠ none) :
    next.1.call.request ≠ none := by
  cases moves with
  | rests | unreached | judged | deferred | told | opened | succeeds => exact built
  | aims | redirected => exact nofun
  | fails _ continues =>
      rcases continues.request with same | ⟨_, _, _, marked⟩
      · rw [settle, same]
        exact built
      · rw [settle, marked]
        exact nofun
  | resumes =>
      obtain ⟨request, isBuilt⟩ := Option.ne_none_iff_exists'.mp built
      rw [attempt_built isBuilt]
      exact nofun

theorem built_run (retentive : client.handler ≠ .forgetful) (built : flight.call.request ≠ none)
    (cache : Route.Cache) (events : List Event) :
    (run client flight cache events).1.call.request ≠ none := by
  induction events generalizing flight cache with
  | nil => exact built
  | cons event later ih => exact ih ((moves_advance retentive flight cache event).built built) _

/-- The request that a call waits for the answer to is the one that it has. -/
def Carries (flight : Flight) : Prop :=
  ∀ request, flight.stage = .sending request → flight.call.request = some request

theorem carries_send (flight : Flight) (request : OutboundRequest) :
    Carries (flight.send request) := by
  intro sent sending
  cases sending
  rfl

theorem carries_attempt (client : Client) (flight : Flight) (cache : Route.Cache) :
    Carries (attempt client flight cache).1 := by
  rcases attempt_cases client flight cache with
    ⟨request, sent⟩ | ⟨host, draft, resolving⟩ | ⟨failure, failed⟩
  · rw [sent]
    exact carries_send flight request
  · rw [resolving]
    exact nofun
  · intro request sending
    rw [failed] at sending
    cases sending

theorem Moves.carries {event : Event} {next : Flight × Route.Cache}
    (moves : Moves client flight cache event next) (carries : Carries flight) :
    Carries next.1 := by
  cases moves with
  | rests => exact carries
  | aims | redirected => exact carries_send _ _
  | resumes => exact carries_attempt client flight cache
  | fails | unreached | judged | deferred | told | opened | succeeds => exact nofun

theorem Carries.run (retentive : client.handler ≠ .forgetful) (carries : Carries flight)
    (cache : Route.Cache) (events : List Event) : Carries (run client flight cache events).1 := by
  induction events generalizing flight cache with
  | nil => exact carries
  | cons event later ih =>
      exact ih ((moves_advance retentive flight cache event).carries carries) _

end Flight
end RemoteCall
