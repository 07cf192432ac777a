import RemoteCall.Proofs.Endpoint.Dispatch
import RemoteCall.Proofs.Endpoint.Journal
import RemoteCall.Proofs.Flight.Launch
import RemoteCall.Proofs.Response.Answers

/-!
# A call runs its method at most once

A journey is a call on its way together with the journals of all the servers that it reaches.
However often the call is sent, by retries and redirects, at most one of these servers dispatches a
method, and at most one awaits a reply.  The reason is that a server that has dispatched a method
gives an answer that ends the call, and that a lost answer ends the call too.  When the call ends
with a failure that speaks of no effects, no server has awaited a reply at all.

The servers may be any, with any interceptors, and both may change from one request to the next;
the only condition is that methods reply with values and errors and not with complete answers.
-/

namespace RemoteCall

/-- The methods of a registry reply with values and errors, and never with complete answers. -/
def Registry.RepliesPlainly (registry : Registry) : Prop :=
  ∀ reply, registry.CanReply reply → ∀ response, reply.outcome ≠ .ok (.response response)

/-- The kinds of failure that speak of no effects. -/
def FailureKind.deniesEffects : FailureKind → Bool
  | .unprocessed | .retriesExceeded | .redirectsExceeded => true
  | .general | .possiblyProcessed | .processed => false

namespace Flight

open Endpoint

/-- What may happen to a call next, and what servers do meanwhile.  A request that is sent is not
delivered, or it is served once and the answer arrives, or it is served at most once and the
exchange fails. -/
inductive Occurs : Stage → Event → List Endpoint.Event → Prop where
  | resolved (host : String) (draft : OutboundRequest)
      (found : Except Net.LookupFault (List Net.Address)) :
      Occurs (.resolving host draft) (.resolved found) []
  | undelivered (request : OutboundRequest) (explanation : String) :
      Occurs (.sending request) (.unanswered (.unprocessed explanation)) []
  | answered {α : Type} (request : OutboundRequest) (behaviour : Behaviour α) (server : Server α)
      (plain : server.registry.RepliesPlainly) :
      Occurs (.sending request)
        (.answered (serve behaviour server request.toRequest).response.head)
        (serve behaviour server request.toRequest).events
  | lost (request : OutboundRequest) (fault : TransportFault)
      (unclear : ∀ explanation, fault ≠ .unprocessed explanation) :
      Occurs (.sending request) (.unanswered fault) []
  | lostAnswer {α : Type} (request : OutboundRequest) (fault : TransportFault)
      (unclear : ∀ explanation, fault ≠ .unprocessed explanation)
      (behaviour : Behaviour α) (server : Server α) (plain : server.registry.RepliesPlainly) :
      Occurs (.sending request) (.unanswered fault)
        (serve behaviour server request.toRequest).events
  | received (head : ResponseHead) (kind : ResponseType) (body : Except Body.Fault Bytes) :
      Occurs (.reading head kind) (.received body) []
  | resumed (milliseconds : Nat) : Occurs (.pausing milliseconds) .resumed []

/-- A call on its way, with the journals of all servers that it has reached so far.  Before each
step the cache may be any, since other calls may use it too. -/
inductive Journey (client : Client) : Flight → List Endpoint.Event → Prop where
  | start (call : Call) (cache : Route.Cache) : Journey client (start client call cache).1 []
  | step {flight : Flight} {journal : List Endpoint.Event} {event : Event}
      {served : List Endpoint.Event} (before : Journey client flight journal) (cache : Route.Cache)
      (occurs : Occurs flight.stage event served) :
      Journey client (flight.advance client cache event).1 (journal ++ served)

structure Once (journal : List Endpoint.Event) : Prop where
  dispatches_le : dispatches journal ≤ 1
  awaits_le : awaits journal ≤ 1

theorem Once.of_idle {journal : List Endpoint.Event} (idle : Idle journal) : Once journal :=
  ⟨by simp [idle.1], by simp [idle.2]⟩

/-- An answer that ends the call, and does not deny effects if a reply was awaited. -/
structure Conclusive (head : ResponseHead) (kind : ResponseType)
    (journal : List Endpoint.Event) : Prop where
  typed : responseKind? head.fields = some kind
  conclusive : kind = .throwable ∨ kind = .success ∧ head.status = .ok
  honest : awaits journal ≠ 0 → Failure.reportedCertainty? head.fields ≠ some .unprocessed

/-- The call is about to end or has ended, and does not deny effects if a reply was awaited. -/
def Concluding (journal : List Endpoint.Event) : Stage → Prop
  | .reading head kind => Conclusive head kind journal
  | .settled (.error failure) => awaits journal ≠ 0 → failure.kind.deniesEffects = false
  | .settled (.ok _) => True
  | _ => False

theorem Once.after {before journal : List Endpoint.Event} (once : Once journal)
    (idle : Idle before) : Once (before ++ journal) :=
  ⟨by simpa [idle.1] using once.dispatches_le, by simpa [idle.2] using once.awaits_le⟩

theorem Conclusive.after {head : ResponseHead} {kind : ResponseType}
    {before journal : List Endpoint.Event} (conclusive : Conclusive head kind journal)
    (idle : Idle before) : Conclusive head kind (before ++ journal) where
  typed := conclusive.typed
  conclusive := conclusive.conclusive
  honest awaited := conclusive.honest (by simpa [idle.2] using awaited)

/-- What servers have done, as far as the stage of the call tells: as long as they have done nothing
everything is possible, and from then on the call is coming to its end. -/
def Accounted (stage : Stage) (journal : List Endpoint.Event) : Prop :=
  Idle journal ∨ Once journal ∧ Concluding journal stage

section Answers

variable {report : Response.Report} {certainty : Certainty}

theorem conclusive_throwable {journal : List Endpoint.Event}
    (honest : awaits journal ≠ 0 → certainty ≠ .unprocessed) :
    Conclusive (Response.throwable report certainty).head .throwable journal where
  typed := responseKind?_throwable report certainty
  conclusive := Or.inl rfl
  honest awaited := by
    simpa [Response.head] using honest awaited

theorem conclusive_success {journal : List Endpoint.Event} (result : Bytes) :
    Conclusive (Response.success result).head .success journal where
  typed := responseKind?_success result
  conclusive := Or.inr ⟨rfl, by simp [Response.head]⟩
  honest _ := by simp [Response.head]

theorem conclusive_answerTo {journal : List Endpoint.Event} (codec : Codec)
    {outcome : Except RemoteError Reply} (plain : ∀ response, outcome ≠ .ok (.response response)) :
    ∃ kind, Conclusive (answerTo codec outcome).head kind journal := by
  unfold answerTo
  split
  · exact ⟨_, conclusive_throwable fun _ => by decide⟩
  · next response => exact absurd rfl (plain response)
  · split
    · exact ⟨_, conclusive_success _⟩
    · exact ⟨_, conclusive_throwable fun _ processed => by cases processed⟩

/-- A server either does nothing for a request, or it gives an answer that ends the call. -/
theorem idle_or_conclusive_of_serve {α : Type} (behaviour : Behaviour α) {server : Server α}
    (plain : server.registry.RepliesPlainly) (request : Request) :
    let served := serve behaviour server request
    Idle served.events ∨
      Once served.events ∧ ∃ kind, Conclusive served.response.head kind served.events := by
  intro served
  have course : Course server.codec server.registry served.response served.events :=
    course_serve behaviour server request
  generalize served.response = response at course ⊢
  generalize served.events = events at course ⊢
  cases course with
  | idle idle => exact Or.inl idle
  | rejected rejection dispatched unawaited =>
      refine Or.inr ⟨⟨by omega, by omega⟩, .throwable, conclusive_throwable ?_⟩
      intro awaited
      exact absurd unawaited awaited
  | answered reply possible dispatched awaited =>
      exact Or.inr ⟨⟨by omega, by omega⟩, conclusive_answerTo server.codec (plain reply possible)⟩

end Answers

section Steps

variable {client : Client} {flight : Flight} {cache : Route.Cache}
  {journal : List Endpoint.Event}

theorem accounted_answered (standard : client.handler = .standard) {request : OutboundRequest}
    (sending : flight.stage = .sending request) {head : ResponseHead} {kind : ResponseType}
    (once : Once journal) (conclusive : Conclusive head kind journal) :
    Accounted (flight.advance client cache (.answered head)).1.stage journal := by
  rw [advance_answered sending standard]
  rcases conclusive.conclusive with rfl | ⟨rfl, status⟩
  · rw [interpret_throwable conclusive.typed]
    exact Or.inr ⟨once, conclusive⟩
  · rw [interpret_content conclusive.typed (by decide) (by simp [status]; decide)]
    exact Or.inr ⟨once, conclusive⟩

theorem accounted_received {head : ResponseHead} {kind : ResponseType}
    (reading : flight.stage = .reading head kind) (body : Except Body.Fault Bytes)
    (once : Once journal) (conclusive : Conclusive head kind journal) :
    Accounted (flight.advance client cache (.received body)).1.stage journal := by
  rw [advance_received reading]
  refine Or.inr ⟨once, ?_⟩
  rcases conclusive.conclusive with rfl | ⟨rfl, status⟩
  · rw [afterBody_throwable, settle_stage]
    intro awaited
    have honest := conclusive.honest awaited
    simp only [Failure.ofReport]
    revert honest
    cases Failure.reportedCertainty? head.fields with
    | none => intro _; rfl
    | some certainty =>
        cases certainty with
        | unprocessed => intro honest; exact absurd rfl honest
        | possiblyProcessed | processed => intro _; rfl
  · cases body with
    | error fault =>
        rw [afterBody_unreadable (by decide), fail_stage]
        intro _
        rfl
    | ok body =>
        rw [afterBody_content (by decide)]
        cases decoded : resultOf client.codec head.fields body with
        | error fault =>
            rw [afterContent_undecodable decoded, fail_stage]
            intro _
            rfl
        | ok value =>
            rw [afterContent_value decoded status (by decide), settle_stage]
            trivial

theorem accounted_unanswered {request : OutboundRequest}
    (sending : flight.stage = .sending request) {fault : TransportFault}
    (unclear : ∀ explanation, fault ≠ .unprocessed explanation) (once : Once journal) :
    Accounted (flight.advance client cache (.unanswered fault)).1.stage journal := by
  rw [advance_unanswered sending]
  refine Or.inr ⟨once, ?_⟩
  cases fault with
  | unprocessed explanation => exact absurd rfl (unclear explanation)
  | timedOut | failed =>
      intro _
      rfl

/-- One step keeps account of what servers have done. -/
theorem Accounted.step (standard : client.handler = .standard) {event : Event}
    {served : List Endpoint.Event} (accounted : Accounted flight.stage journal)
    (occurs : Occurs flight.stage event served) :
    Accounted (flight.advance client cache event).1.stage (journal ++ served) := by
  generalize stageEq : flight.stage = stage at accounted occurs
  rcases accounted with idle | ⟨once, concluding⟩
  · -- Only an answer that arrives or gets lost can end the time in which nothing was done.
    cases occurs with
    | resolved | undelivered | lost | received | resumed => exact Or.inl (idle.append Idle.nil)
    | answered request behaviour server plain =>
        rcases idle_or_conclusive_of_serve behaviour plain request.toRequest with
          servedIdle | ⟨once, kind, conclusive⟩
        · exact Or.inl (idle.append servedIdle)
        · exact accounted_answered standard stageEq (once.after idle) (conclusive.after idle)
    | lostAnswer request fault unclear behaviour server plain =>
        rcases idle_or_conclusive_of_serve behaviour plain request.toRequest with
          servedIdle | ⟨once, _⟩
        · exact Or.inl (idle.append servedIdle)
        · exact accounted_unanswered stageEq unclear (once.after idle)
  · cases occurs with
    | received head kind body =>
        rw [List.append_nil]
        exact accounted_received stageEq body once concluding
    | resolved | undelivered | answered | lost | lostAnswer | resumed => exact concluding.elim

end Steps

/-- At every moment of a call, account is kept of what servers have done. -/
theorem Journey.accounted {client : Client} (standard : client.handler = .standard)
    {flight : Flight} {journal : List Endpoint.Event} (journey : Journey client flight journal) :
    Accounted flight.stage journal := by
  induction journey with
  | start call cache => exact Or.inl Idle.nil
  | step before cache occurs ih => exact ih.step standard occurs

/-- Over all retries and redirects of a call, at most one method is dispatched and at most one reply
is awaited; and a call that ends with a failure that denies effects has made no server await one. -/
theorem Journey.at_most_once {client : Client} (standard : client.handler = .standard)
    {flight : Flight} {journal : List Endpoint.Event} (journey : Journey client flight journal) :
    dispatches journal ≤ 1 ∧ awaits journal ≤ 1 ∧
      ∀ failure, flight.stage = .settled (.error failure) →
        failure.kind.deniesEffects = true → awaits journal = 0 := by
  rcases journey.accounted standard with idle | ⟨once, concluding⟩
  · exact ⟨(Once.of_idle idle).dispatches_le, (Once.of_idle idle).awaits_le, fun _ _ _ => idle.2⟩
  · refine ⟨once.dispatches_le, once.awaits_le, ?_⟩
    intro failure ended denies
    rw [ended] at concluding
    by_cases unawaited : awaits journal = 0
    · exact unawaited
    · rw [concluding unawaited] at denies
      cases denies

theorem repliesPlainly_replyingServer (reply : Parameters → Except RemoteError Json.Value) :
    (replyingServer reply).registry.RepliesPlainly := by
  rintro deferred ⟨interface, registration, run, object, method, parameters, found, made,
    dispatched⟩ response isResponse
  simp only [Registry.find?, replyingServer, List.lookup_cons, List.lookup_nil] at found
  split at found
  · cases found
    cases made
    cases dispatched
    cases replied : reply parameters with
    | error error =>
        rw [replied] at isResponse
        cases isResponse
    | ok value =>
        rw [replied] at isResponse
        cases isResponse
  · cases found

theorem at_most_once_echo :
    let request := loopbackRequest "Echo" "say" []
    let served := serve (fun _ _ request chain => (.ok (.proceed request), chain))
      (replyingServer fun parameters => .ok (.array parameters)) request.toRequest
    let sent := (start loopback (.fresh "Echo" "say" []) .usual).1
    Journey loopback (sent.advance loopback .usual (.answered served.response.head)).1
        served.events ∧
      dispatches served.events ≤ 1 ∧ awaits served.events ≤ 1 := by
  intro request served sent
  have started : sent = send ⟨.fresh "Echo" "say" [], [], .pausing 0⟩ request :=
    congrArg Prod.fst (start_loopback "Echo" "say" [] .usual)
  have journey : Journey loopback
      (sent.advance loopback .usual (.answered served.response.head)).1 served.events := by
    refine Journey.step (Journey.start (.fresh "Echo" "say" []) .usual) .usual ?_
    change Occurs sent.stage _ _
    rw [started]
    exact .answered request _ _ (repliesPlainly_replyingServer _)
  have once := journey.at_most_once rfl
  exact ⟨journey, once.1, once.2.1⟩

end Flight
end RemoteCall
