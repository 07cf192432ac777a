import RemoteCall.Call.Flight

/-!
# Steps of a call in flight

What each event does to a call whose client takes answers by the rules of the protocol, one fact for
each thing that the call may wait for.  Statements about whole calls go through these facts and do
not open the steps themselves.
-/

namespace RemoteCall
namespace Flight

variable {client : Client} {flight : Flight} {cache : Route.Cache}

@[simp]
theorem settle_stage (outcome : Outcome) :
    (flight.settle cache outcome).1.stage = .settled outcome := rfl

theorem fail_stage (fault : CallFault) :
    (flight.fail cache fault).1.stage =
      .settled (.error (fault.failure flight.call.interface flight.call.method)) := rfl

@[simp]
theorem fail_call (fault : CallFault) : (flight.fail cache fault).1.call = flight.call := rfl

/-- The stage of a call that has failed in some way. -/
def FailedAs (flight : Flight) (kind : FailureKind) : Prop :=
  ∃ failure, flight.stage = .settled (.error failure) ∧ failure.kind = kind

theorem failedAs_fail {fault : CallFault} {kind : FailureKind} (sameKind : fault.kind = kind) :
    (flight.fail cache fault).1.FailedAs kind :=
  ⟨_, rfl, sameKind⟩

/-- A call waits for the answer to the request that it keeps. -/
def Sending (flight : Flight) : Prop :=
  ∃ request, flight.stage = .sending request ∧ flight.call.request = some request

def Settled (flight : Flight) : Prop := ∃ outcome, flight.stage = .settled outcome

theorem Sending.not_settled (sending : flight.Sending) : ¬flight.Settled := by
  obtain ⟨request, sendingStage, _⟩ := sending
  rintro ⟨outcome, settledStage⟩
  rw [sendingStage] at settledStage
  cases settledStage

theorem FailedAs.settled {kind : FailureKind} (failed : flight.FailedAs kind) :
    flight.Settled :=
  ⟨_, failed.choose_spec.1⟩

theorem sending_send (request : OutboundRequest) : (flight.send request).Sending :=
  ⟨request, rfl, rfl⟩

theorem withRequest_of_built {call : Call} {request : OutboundRequest}
    (built : call.request = some request) : call.withRequest request = call := by
  cases call
  cases built
  rfl

section Waiting

/-- A call that has ended stays as it is. -/
theorem advance_settled {outcome : Outcome} (settled : flight.stage = .settled outcome)
    (event : Event) : flight.advance client cache event = (flight, cache) := by
  unfold advance
  rw [settled]

variable {request : OutboundRequest} (sending : flight.stage = .sending request)

include sending

theorem advance_unanswered (fault : TransportFault) :
    flight.advance client cache (.unanswered fault) =
      flight.afterTransportFault client cache fault := by
  unfold advance
  rw [sending]

theorem advance_answered (standard : client.handler = .standard) (head : ResponseHead) :
    flight.advance client cache (.answered head) = flight.interpret client cache head := by
  unfold advance
  rw [sending]
  dsimp only
  rw [afterAnswer, standard]

theorem advance_judged {judge : ResponseHead → Outcome} (custom : client.handler = .custom judge)
    (head : ResponseHead) :
    flight.advance client cache (.answered head) = flight.settle cache (judge head) := by
  unfold advance
  rw [sending]
  dsimp only
  rw [afterAnswer, custom]

theorem advance_resumed_sending : flight.advance client cache .resumed = (flight, cache) := by
  unfold advance
  rw [sending]

end Waiting

/-- The addresses of its host let a call send its request, unless none of them will do. -/
theorem advance_resolved {host : String} {draft : OutboundRequest}
    (resolving : flight.stage = .resolving host draft)
    (found : Except Net.LookupFault (List Net.Address)) :
    flight.advance client cache (.resolved found) =
      match client.aim flight.call host draft found with
      | .error fault => flight.fail cache (.notBuilt fault)
      | .ok request => (flight.send request, cache) := by
  cases aimed : client.aim flight.call host draft found with
  | error fault => simp only [advance, resolving, aimed]
  | ok request => simp only [advance, resolving, aimed]

theorem advance_received {head : ResponseHead} {kind : ResponseType}
    (reading : flight.stage = .reading head kind) (body : Except Body.Fault Bytes) :
    flight.advance client cache (.received body) =
      flight.afterBody client cache head kind body := by
  unfold advance
  rw [reading]

section Pausing

variable {milliseconds : Nat} (pausing : flight.stage = .pausing milliseconds)

include pausing

theorem advance_received_pausing (body : Except Body.Fault Bytes) :
    flight.advance client cache (.received body) = (flight, cache) := by
  unfold advance
  rw [pausing]

theorem advance_resumed {request : OutboundRequest} (built : flight.call.request = some request) :
    flight.advance client cache .resumed = (flight.send request, cache) := by
  unfold advance
  rw [pausing]
  dsimp only
  rw [attempt, built]

end Pausing

section Answers

variable {head : ResponseHead}

theorem interpret_untyped (untyped : responseKind? head.fields = none) :
    flight.interpret client cache head = flight.fail cache .untyped := by
  rw [interpret, untyped]

/-- An answer that reports a failure is read, whatever its status is. -/
theorem interpret_throwable (typed : responseKind? head.fields = some .throwable) :
    flight.interpret client cache head =
      ({ flight with stage := .reading head .throwable }, forget cache flight.call.routeKey) := by
  rw [interpret, typed]

theorem interpret_retry {kind : ResponseType} (typed : responseKind? head.fields = some kind)
    (unthrown : kind ≠ .throwable) (asked : head.status.isServerError ∨ kind = .retry) :
    flight.interpret client cache head = flight.afterRetrySignal client cache head := by
  rw [interpret, typed]
  cases kind with
  | throwable => exact absurd rfl unthrown
  | success | retry | redirect => exact if_pos asked

theorem interpret_content {kind : ResponseType} (typed : responseKind? head.fields = some kind)
    (unthrown : kind ≠ .throwable) (unasked : ¬(head.status.isServerError ∨ kind = .retry)) :
    flight.interpret client cache head =
      ({ flight with stage := .reading head kind }, cache) := by
  rw [interpret, typed]
  cases kind with
  | throwable => exact absurd rfl unthrown
  | success | retry | redirect => exact if_neg unasked

/-- What is reported does not depend on the body alone: without one it is reported all the same. -/
theorem afterBody_throwable (body : Except Body.Fault Bytes) :
    flight.afterBody client cache head .throwable body =
      flight.settle cache
        (.error (Failure.ofReport head.fields (body.toOption.getD []))) := by
  cases body <;> rfl

theorem afterBody_unreadable {kind : ResponseType} (unthrown : kind ≠ .throwable)
    (fault : Body.Fault) :
    flight.afterBody client cache head kind (.error fault) =
      flight.fail cache (.unreadable fault) := by
  cases kind with
  | throwable => exact absurd rfl unthrown
  | success | retry | redirect => rfl

theorem afterBody_content {kind : ResponseType} (unthrown : kind ≠ .throwable) (body : Bytes) :
    flight.afterBody client cache head kind (.ok body) =
      flight.afterContent client cache head kind body := by
  cases kind with
  | throwable => exact absurd rfl unthrown
  | success | retry | redirect => rfl

end Answers

section Contents

variable {head : ResponseHead} {kind : ResponseType} {body : Bytes}

theorem afterContent_undecodable {fault : CodecFault}
    (undecodable : resultOf client.codec head.fields body = .error fault) :
    flight.afterContent client cache head kind body = flight.fail cache (.undecodable fault) := by
  rw [afterContent, undecodable]

variable {value : Json.Value} (decoded : resultOf client.codec head.fields body = .ok value)

include decoded

theorem afterContent_unexpected (unexpected : head.status ≠ .ok) :
    flight.afterContent client cache head kind body =
      flight.fail cache (.unexpectedStatus head.status body) := by
  rw [afterContent, decoded]
  exact if_pos unexpected

theorem afterContent_redirect (status : head.status = .ok) :
    flight.afterContent client cache head .redirect body =
      flight.follow client cache head.fields := by
  rw [afterContent, decoded]
  dsimp only
  rw [if_neg (not_not_intro status), if_pos rfl]

theorem afterContent_value (status : head.status = .ok) (staying : kind ≠ .redirect) :
    flight.afterContent client cache head kind body = flight.settle cache (.ok value) := by
  rw [afterContent, decoded]
  dsimp only
  rw [if_neg (not_not_intro status), if_neg staying]

end Contents

section Redirects

theorem directed_routeKey (request : OutboundRequest) (fields : Fields) :
    (directed request fields).routeKey = request.routeKey := by
  unfold directed
  split <;> rfl

theorem directed_uri (request : OutboundRequest) (fields : Fields) :
    (directed request fields).uri = request.uri := by
  unfold directed
  split <;> rfl

theorem directed_body (request : OutboundRequest) (fields : Fields) :
    (directed request fields).body = request.body := by
  unfold directed
  split <;> rfl

/-- How a redirect is followed, or why it is not. -/
inductive Follows (client : Client) (flight : Flight) (cache : Route.Cache) (fields : Fields)
    (request : OutboundRequest) : Flight × Route.Cache → Prop where
  | forbidden (forbidden : client.settings.redirectsLimit = 0) :
      Follows client flight cache fields request (flight.fail cache .redirectsForbidden)
  | exceeded (allowed : client.settings.redirectsLimit ≠ 0)
      (exceeded : client.settings.redirectsLimit < flight.call.redirects) :
      Follows client flight cache fields request
        (fail { flight with call := flight.call.countRedirect } cache
          (.redirectsExceeded client.settings.redirectsLimit))
  | lost (allowed : client.settings.redirectsLimit ≠ 0)
      (within : ¬client.settings.redirectsLimit < flight.call.redirects)
      (fault : CallFault) (unprocessed : fault.kind = .unprocessed) :
      Follows client flight cache fields request
        (fail { flight with
          call := flight.call.countRedirect.withRequest (directed request fields) } cache fault)
  | followed (allowed : client.settings.redirectsLimit ≠ 0)
      (within : ¬client.settings.redirectsLimit < flight.call.redirects)
      {host : String} (named : fields.read .redirectHost = some host)
      {uri : Uri} (aimed : Redirect.target (directed request fields).uri host fields = .ok uri) :
      Follows client flight cache fields request
        (send { flight with
            call := flight.call.countRedirect.withRequest (directed request fields) }
          ((directed request fields).withUri uri),
          request.routeKey.elim cache fun key => cache.put key uri.targetText)

theorem follows (client : Client) {request : OutboundRequest}
    (built : flight.call.request = some request) (cache : Route.Cache) (fields : Fields) :
    Follows client flight cache fields request (follow client flight cache fields) := by
  rw [follow, built]
  dsimp only
  by_cases forbidden : client.settings.redirectsLimit = 0
  · rw [if_pos forbidden]
    exact .forbidden forbidden
  · rw [if_neg forbidden]
    by_cases exceeded : client.settings.redirectsLimit < flight.call.redirects
    · rw [if_pos exceeded]
      exact .exceeded forbidden exceeded
    · rw [if_neg exceeded]
      cases named : fields.read .redirectHost with
      | none => exact .lost forbidden exceeded .redirectWithoutHost rfl
      | some host =>
          dsimp only
          cases aimed : Redirect.target (directed request fields).uri host fields with
          | error fault => exact .lost forbidden exceeded (.invalidRedirect fault) rfl
          | ok uri =>
              have followed : Follows client flight cache fields request _ :=
                .followed forbidden exceeded named aimed
              rw [← directed_routeKey request fields] at followed
              dsimp only
              cases key : (directed request fields).routeKey with
              | none =>
                  rw [key] at followed
                  exact followed
              | some name =>
                  rw [key] at followed
                  exact followed

end Redirects

section Runs

@[simp]
theorem run_nil : run client flight cache [] = (flight, cache) := rfl

@[simp]
theorem run_cons (event : Event) (later : List Event) :
    run client flight cache (event :: later) =
      run client (flight.advance client cache event).1 (flight.advance client cache event).2
        later := rfl

theorem run_settled {outcome : Outcome} (settled : flight.stage = .settled outcome)
    (events : List Event) : run client flight cache events = (flight, cache) := by
  induction events with
  | nil => rfl
  | cons event later ih => rw [run_cons, advance_settled settled, ih]

end Runs

end Flight
end RemoteCall
