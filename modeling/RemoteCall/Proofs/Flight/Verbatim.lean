import RemoteCall.Proofs.Endpoint.Classification
import RemoteCall.Proofs.Flight.AtMostOnce
import RemoteCall.Proofs.Flight.Verdict

/-!
# Replies that are complete answers

A method may reply with a complete answer, which its server passes on as it is.  Such an answer can
ask the caller to go on: to try again, or to turn to another server.  A call that goes on has lost
sight of the method that has run, and may end as unprocessed after all.  The final answers below are
those that neither ask to go on nor say themselves that nothing was done.  If methods give no other
complete answers, a call for which some server has awaited a reply never ends as unprocessed.  This
is shown for voyages, which are calls on their way from one exchange to the next.  No more can be
allowed: every other answer either ends the call that it was awaited for as unprocessed, or sends it
on to a server which may refuse it.
-/

namespace RemoteCall

namespace Endpoint

/-- A server without any objects. -/
def deserted : Server Unit where
  codec := .json
  registry := .empty
  healthRoute := none
  chain := .empty

section Deserted

variable {behaviour : Behaviour Unit} {request : Request}

theorem not_awaited_deserted (reply : Deferred) : ¬Awaited behaviour deserted request reply := by
  rintro ⟨_, events, last, final, _, resolved⟩
  have resolves := resolves deserted.codec deserted.registry last
  rw [resolved] at resolves
  generalize (resolve deserted.codec deserted.registry last).events = events at resolves
  cases resolves with
  | @dispatched wanted found =>
      have targets := targets deserted.codec deserted.registry last
      rw [found] at targets
      cases targets with
      | found _ _ _ _ registered => cases registered

theorem not_decides_deserted (decision : Except Failure Interception) :
    ¬Decides behaviour deserted request decision := by
  rintro ⟨_, earlier, later, id, interceptor, _, _, _, _, parts, _⟩
  have nonempty : earlier ++ (id, interceptor) :: later ≠ [] := by simp
  exact nonempty parts.symm

/-- A server without objects awaits no reply and tells every caller that nothing was done. -/
theorem serve_deserted (behaviour : Behaviour Unit) (request : Request) :
    let served := serve behaviour deserted request
    Flight.responseKind? served.response.fields = some .throwable ∧
      Failure.reportedCertainty? served.response.fields = some .unprocessed ∧
        awaits served.events = 0 := by
  intro served
  have origin : Origin behaviour deserted request served.response served.events :=
    origin_serve behaviour deserted request
  generalize served.events = events at origin ⊢
  generalize served.response = answer at origin ⊢
  cases origin with
  | health checked => cases checked
  | unposted =>
      exact ⟨Rejection.responseKind?_response _, Rejection.reportedCertainty?_response _, rfl⟩
  | answered decides | failed decides => exact absurd decides (not_decides_deserted _)
  | rejected rejection unprocessed unawaited =>
      refine ⟨rejection.responseKind?_response, ?_, unawaited⟩
      rw [rejection.reportedCertainty?_response, unprocessed]
  | replied awaited => exact absurd awaited (not_awaited_deserted _)

end Deserted

end Endpoint

namespace Flight

open Endpoint

variable {client : Client} {flight : Flight} {cache : Route.Cache} {response : Response}
  {exchange : Exchange}

/-- An answer that arrives whole. -/
def Exchange.ofResponse (response : Response) : Exchange :=
  .answered response.head (.ok response.body)

/-- An answer that ends every call, and does not say that nothing was done. -/
structure Final (codec : Codec) (response : Response) : Prop where
  unasked : (Exchange.ofResponse response).isRetrySignal = false
  undirected : (Exchange.ofResponse response).isRedirectSignal codec = false
  owned : responseKind? response.fields = some .throwable →
    Failure.reportedCertainty? response.fields ≠ some .unprocessed

/-- An exchange that ends every call, and not as unprocessed. -/
structure Exchange.Concludes (codec : Codec) (exchange : Exchange) : Prop where
  unasked : exchange.isRetrySignal = false
  undirected : exchange.isRedirectSignal codec = false
  owned : ∀ failure, exchange.Reports failure → failure.kind ≠ .unprocessed

/-- What an exchange can bring of an answer. -/
inductive Brings (response : Response) : Exchange → Prop where
  | whole : Brings response (.ofResponse response)
  | bodiless (fault : Body.Fault) : Brings response (.answered response.head (.error fault))
  | nothing (fault : TransportFault) (unclear : ∀ explanation, fault ≠ .unprocessed explanation) :
      Brings response (.unanswered fault)

section Answers

theorem ofReport_kind_eq_unprocessed_iff {fields : Fields} {body : Bytes} :
    (Failure.ofReport fields body).kind = .unprocessed ↔
      Failure.reportedCertainty? fields = some .unprocessed := by
  rw [Failure.ofReport]
  cases Failure.reportedCertainty? fields with
  | none => simp [FailureKind.ofCertainty]
  | some certainty => cases certainty <;> simp [FailureKind.ofCertainty]

theorem Final.concludes {codec : Codec} (final : Final codec response)
    (brings : Brings response exchange) : exchange.Concludes codec := by
  have owned {body : Except Body.Fault Bytes} (failure : Failure)
      (reports : (Exchange.answered response.head body).Reports failure) :
      failure.kind ≠ .unprocessed := by
    obtain ⟨head, _, same, typed, rfl⟩ := reports
    cases same
    exact fun unprocessed =>
      final.owned typed (ofReport_kind_eq_unprocessed_iff.mp unprocessed)
  cases brings with
  | whole => exact ⟨final.unasked, final.undirected, owned⟩
  | bodiless fault =>
      -- Whether an answer asks to try again is not up to its body.
      exact ⟨final.unasked, rfl, owned⟩
  | nothing fault unclear =>
      refine ⟨?_, rfl, ?_⟩
      · cases fault with
        | unprocessed explanation => exact absurd rfl (unclear explanation)
        | timedOut | failed => rfl
      · rintro failure ⟨_, _, same, _⟩
        cases same

/-- The answers that servers compose once a reply was awaited are final. -/
theorem Conclusive.final {kind : ResponseType} {journal : List Endpoint.Event}
    (conclusive : Conclusive response.head kind journal) (awaited : awaits journal ≠ 0)
    (codec : Codec) : Final codec response := by
  have typed : responseKind? response.fields = some kind := conclusive.typed
  have honest := conclusive.honest awaited
  rcases conclusive.conclusive with rfl | ⟨rfl, status⟩
  · constructor
    · simp [Exchange.isRetrySignal, Exchange.ofResponse, Response.head, typed]
    · simp [Exchange.isRedirectSignal, Exchange.ofResponse, Response.head, typed]
    · exact fun _ => honest
  · constructor
    · have unfailed : response.head.status.isServerError = false := by rw [status]; decide
      simpa [Exchange.isRetrySignal, Exchange.ofResponse, Response.head, typed] using unfailed
    · simp [Exchange.isRedirectSignal, Exchange.ofResponse, Response.head, typed]
    · exact fun _ => honest

end Answers

/-- The complete answers that a reply to a request can be are all allowed. -/
def RepliesWithin {α : Type} (allowed : Response → Prop) (behaviour : Behaviour α)
    (server : Server α) (request : Request) : Prop :=
  ∀ reply response, Awaited behaviour server request reply →
    reply.outcome = .ok (.response response) → allowed response

/-- A request has one reply at most. -/
theorem repliesWithin_of_awaited {α : Type} {allowed : Response → Prop} {behaviour : Behaviour α}
    {server : Server α} {request : Request} {reply : Deferred}
    (awaited : Awaited behaviour server request reply)
    (verbatim : reply.outcome = .ok (.response response)) (isAllowed : allowed response) :
    RepliesWithin allowed behaviour server request := by
  intro other given otherAwaited outcome
  have answered := otherAwaited.served.1
  rw [awaited.served.1, verbatim, outcome] at answered
  cases answered
  exact isAllowed

/-- What comes of sending a request, and what a server does meanwhile.  The transport says that the
request was not processed only if it did not deliver it. -/
inductive Visits (allowed : Response → Prop) (request : OutboundRequest) :
    Exchange → List Endpoint.Event → Prop where
  | undelivered (explanation : String) :
      Visits allowed request (.unanswered (.unprocessed explanation)) []
  | lost (fault : TransportFault) (unclear : ∀ explanation, fault ≠ .unprocessed explanation) :
      Visits allowed request (.unanswered fault) []
  | served {α : Type} (behaviour : Behaviour α) (server : Server α)
      (within : RepliesWithin allowed behaviour server request.toRequest) {exchange : Exchange}
      (brings : Brings (serve behaviour server request.toRequest).response exchange) :
      Visits allowed request exchange (serve behaviour server request.toRequest).events

/-- A call on its way from one exchange to the next, with the journals of all servers that it has
reached so far.  Servers, interceptors and the cache may be others each time. -/
inductive Voyage (client : Client) (allowed : Response → Prop) :
    Flight → List Endpoint.Event → Prop where
  | launched (call : Call) (cache : Route.Cache)
      (found : Except Net.LookupFault (List Net.Address)) :
      Voyage client allowed (launch client call cache found).1 []
  | exchanged {flight : Flight} {journal : List Endpoint.Event} {request : OutboundRequest}
      {exchange : Exchange} {served : List Endpoint.Event}
      (before : Voyage client allowed flight journal) (sending : flight.stage = .sending request)
      (cache : Route.Cache) (visits : Visits allowed request exchange served) :
      Voyage client allowed (run client flight cache exchange.events).1 (journal ++ served)

/-- A call after its first exchange, if a server has awaited a complete answer for it. -/
theorem voyage_of_awaited {allowed : Response → Prop} {call : Call} {request : OutboundRequest}
    {found : Except Net.LookupFault (List Net.Address)}
    (launched : (launch client call cache found).1.stage = .sending request) {α : Type}
    {behaviour : Behaviour α} {server : Server α} {reply : Deferred}
    (awaited : Awaited behaviour server request.toRequest reply)
    (verbatim : reply.outcome = .ok (.response response)) (isAllowed : allowed response)
    (later : Route.Cache) :
    Voyage client allowed
      (run client (launch client call cache found).1 later (Exchange.ofResponse response).events).1
      (serve behaviour server request.toRequest).events := by
  have answered := awaited.served.1
  rw [verbatim] at answered
  have brings : Brings (serve behaviour server request.toRequest).response
      (Exchange.ofResponse response) := by
    rw [answered]
    exact .whole
  exact .exchanged (.launched call cache found) launched later
    (.served behaviour server (repliesWithin_of_awaited awaited verbatim isAllowed) brings)

/-- A call that has ended as unprocessed, or that one more exchange ends so, in which nobody awaits
a reply. -/
inductive NearsUnprocessed (client : Client) (allowed : Response → Prop) (flight : Flight) :
    Prop where
  | failed (failed : flight.FailedAs .unprocessed)
  | refused {request : OutboundRequest} (sending : flight.stage = .sending request)
      {exchange : Exchange} {served : List Endpoint.Event}
      (visits : Visits allowed request exchange served) (unawaited : awaits served = 0)
      (fails : ∀ cache, (run client flight cache exchange.events).1.FailedAs .unprocessed)

section Soundness

variable {codec : Codec} {request : OutboundRequest} {journal served : List Endpoint.Event}

/-- A server that has awaited a reply gives a final answer, if methods give no others. -/
theorem final_of_serve {α : Type} {behaviour : Behaviour α} {server : Server α}
    {request : Request} (within : RepliesWithin (Final codec) behaviour server request)
    (awaited : awaits (serve behaviour server request).events ≠ 0) :
    Final codec (serve behaviour server request).response := by
  have origin := origin_serve behaviour server request
  generalize (serve behaviour server request).response = response at origin ⊢
  generalize (serve behaviour server request).events = events at origin awaited
  cases origin with
  | health | unposted => exact absurd rfl awaited
  | answered _ idle | failed _ idle => exact absurd idle.2 awaited
  | rejected _ _ unawaited => exact absurd unawaited awaited
  | @replied reply waited =>
      by_cases verbatim : ∃ response, reply.outcome = .ok (.response response)
      · obtain ⟨response, outcome⟩ := verbatim
        rw [outcome]
        exact within reply response waited outcome
      · have plain : ∀ response, reply.outcome ≠ .ok (.response response) :=
          fun response outcome => verbatim ⟨response, outcome⟩
        obtain ⟨kind, conclusive⟩ := conclusive_answerTo server.codec plain
        exact conclusive.final awaited codec

theorem Visits.concludes (visits : Visits (Final codec) request exchange served)
    (awaited : awaits served ≠ 0) : exchange.Concludes codec := by
  cases visits with
  | undelivered | lost => exact absurd rfl awaited
  | served behaviour server within brings => exact (final_of_serve within awaited).concludes brings

variable (standard : client.handler = .standard)

include standard

theorem run_concludes (sending : flight.stage = .sending request) (cache : Route.Cache)
    (concludes : exchange.Concludes client.codec) :
    let next := (run client flight cache exchange.events).1
    next.Settled ∧ ¬next.FailedAs .unprocessed := by
  intro next
  rcases Exchange.cases client.codec exchange with
    retry | redirect | ⟨value, delivers⟩ | ⟨failure, reports⟩ | doubtful
  · rw [concludes.unasked] at retry
    cases retry
  · rw [concludes.undirected] at redirect
    cases redirect
  · have settled : next.stage = .settled (.ok value) := run_delivers sending standard delivers
    exact ⟨⟨_, settled⟩, fun failed => failed.not_value value settled⟩
  · have settled : next.stage = .settled (.error failure) := run_reports sending standard reports
    have failed : next.FailedAs failure.kind := ⟨failure, settled, rfl⟩
    exact ⟨⟨_, settled⟩, fun unprocessed =>
      concludes.owned failure reports (failed.kind_eq unprocessed)⟩
  · have failed : next.FailedAs .possiblyProcessed := run_doubtful sending standard doubtful
    exact ⟨failed.settled, fun unprocessed => nomatch failed.kind_eq unprocessed⟩

/-- As long as no reply was awaited everything is possible; from then on the call has ended, and not
as unprocessed. -/
theorem Voyage.accounted (voyage : Voyage client (Final client.codec) flight journal) :
    awaits journal = 0 ∨ flight.Settled ∧ ¬flight.FailedAs .unprocessed := by
  induction voyage with
  | launched => exact Or.inl rfl
  | @exchanged flight journal request exchange served before sending cache visits ih =>
      rcases ih with unawaited | ⟨⟨outcome, settled⟩, _⟩
      · by_cases awaited : awaits served = 0
        · exact Or.inl (by rw [awaits_append, unawaited, awaited])
        · exact Or.inr (run_concludes standard sending cache (visits.concludes awaited))
      · rw [sending] at settled
        cases settled

end Soundness

section Sharpness

variable {codec : Codec} {request : OutboundRequest} {call : Call}

/-- An answer that is not final asks to go on, or says that nothing was done. -/
theorem inviting_cases (inviting : ¬Final codec response) :
    (Exchange.ofResponse response).isRetrySignal = true ∨
      (Exchange.ofResponse response).isRedirectSignal codec = true ∨
        responseKind? response.fields = some .throwable ∧
          Failure.reportedCertainty? response.fields = some .unprocessed := by
  by_contra final
  simp only [not_or, not_and, Bool.not_eq_true] at final
  exact inviting ⟨final.1, final.2.1, final.2.2⟩

theorem run_unprocessed (sending : flight.stage = .sending request)
    (standard : client.handler = .standard) (cache : Route.Cache)
    (typed : responseKind? response.fields = some .throwable)
    (tagged : Failure.reportedCertainty? response.fields = some .unprocessed) :
    (run client flight cache (Exchange.ofResponse response).events).1.FailedAs .unprocessed :=
  ⟨_, run_reports sending standard ⟨_, _, rfl, typed, rfl⟩,
    ofReport_kind_eq_unprocessed_iff.mpr tagged⟩

variable (standard : client.handler = .standard)

include standard

/-- A call that has not gone on before goes on at an answer that is not final, or ends as
unprocessed. -/
theorem run_inviting (inviting : ¬Final client.codec response)
    (sending : flight.stage = .sending request) (built : flight.call.request = some request)
    (noRetries : flight.call.retries = 0) (noRedirects : flight.call.redirects = 0)
    (cache : Route.Cache) :
    let next := (run client flight cache (Exchange.ofResponse response).events).1
    next.Sending ∨ next.FailedAs .unprocessed := by
  intro next
  rcases inviting_cases inviting with retry | redirect | ⟨typed, tagged⟩
  · cases allowed : mayRetry client flight.call with
    | true =>
        have resent : next.stage = .sending request ∧ _ :=
          run_retry sending standard built retry allowed
        exact Or.inl ⟨request, resent.1, by rw [resent.2]; exact built⟩
    | false =>
        have failed : next.FailedAs _ := run_retry_exhausted sending standard retry allowed
        have noneAllowed : client.settings.retriesLimit = 0 := by
          simpa [mayRetry, noRetries] using allowed
        rw [retryFailure, if_neg (by simp [noneAllowed])] at failed
        exact Or.inr failed
  · obtain ⟨reading, fields, sameCall, followed⟩ :=
      run_redirect sending standard cache built redirect
    rw [← sameCall] at built noRedirects
    have isNext : next = _ := followed
    rw [isNext]
    by_cases forbidden : client.settings.redirectsLimit = 0
    · exact Or.inr (follow_forbidden built forbidden)
    · rcases follow_within cache fields built forbidden (by simp [noRedirects]) with
        ⟨resent, _⟩ | failed
      · exact Or.inl resent
      · exact Or.inr failed
  · exact Or.inr (run_unprocessed sending standard cache typed tagged)

/-- A call that waits for an answer may reach a server without objects. -/
theorem Sending.nearsUnprocessed (sending : flight.Sending) (allowed : Response → Prop) :
    NearsUnprocessed client allowed flight := by
  obtain ⟨request, stage, _⟩ := sending
  let behaviour : Behaviour Unit := fun _ _ request chain => (.ok (.proceed request), chain)
  have within : RepliesWithin allowed behaviour Endpoint.deserted request.toRequest :=
    fun reply _ awaited => absurd awaited (not_awaited_deserted reply)
  obtain ⟨typed, tagged, unawaited⟩ := serve_deserted behaviour request.toRequest
  exact .refused stage (.served behaviour _ within .whole) unawaited fun cache =>
    run_unprocessed stage standard cache typed tagged

/-- A complete answer that is not final leaves the call that it was awaited for close to the end as
unprocessed. -/
theorem nearsUnprocessed_of_inviting (inviting : ¬Final client.codec response)
    (noRetries : call.retries = 0) (noRedirects : call.redirects = 0)
    {found : Except Net.LookupFault (List Net.Address)}
    (launched : (launch client call cache found).1.stage = .sending request)
    (allowed : Response → Prop) (later : Route.Cache) :
    NearsUnprocessed client allowed (run client (launch client call cache found).1 later
      (Exchange.ofResponse response).events).1 := by
  have kept := launch_call launched
  rcases run_inviting standard inviting launched (by rw [kept]; rfl) (by rw [kept]; exact noRetries)
      (by rw [kept]; exact noRedirects) later with sending | failed
  · exact sending.nearsUnprocessed standard allowed
  · exact .failed failed

end Sharpness

/-- If methods reply with final answers, values and errors only, a call for which a reply was
awaited does not end as unprocessed.  With any other complete answer it may: whenever a server
awaits such an answer for a fresh call, that call either ends as unprocessed at once, or goes on and
ends so at the next server if that one refuses it. -/
theorem unprocessed_only_after_inviting (standard : client.handler = .standard) :
    (∀ (flight : Flight) (journal : List Endpoint.Event),
      Voyage client (Final client.codec) flight journal → awaits journal ≠ 0 →
        ¬flight.FailedAs .unprocessed) ∧
    ∀ response, ¬Final client.codec response →
      ∀ (interface method : String) (parameters : Parameters) (cache : Route.Cache)
        (found : Except Net.LookupFault (List Net.Address)) (request : OutboundRequest),
        let launched := (launch client (.fresh interface method parameters) cache found).1
        launched.stage = .sending request →
        ∀ {α : Type} (behaviour : Behaviour α) (server : Server α) (reply : Deferred),
          Awaited behaviour server request.toRequest reply →
          reply.outcome = .ok (.response response) →
          ∀ later,
            let served := serve behaviour server request.toRequest
            let next := (run client launched later (Exchange.ofResponse response).events).1
            served.response = response ∧ awaits served.events = 1 ∧
              Voyage client (fun other => other = response) next served.events ∧
              NearsUnprocessed client (fun other => other = response) next := by
  constructor
  · intro flight journal voyage awaited
    rcases voyage.accounted standard with unawaited | ⟨_, owned⟩
    · exact absurd unawaited awaited
    · exact owned
  · intro response inviting interface method parameters cache found request launched stage _
      behaviour server reply awaited verbatim later served next
    have answered : served.response = answerTo server.codec reply.outcome := awaited.served.1
    rw [verbatim] at answered
    refine ⟨answered, awaited.served.2, voyage_of_awaited stage awaited verbatim ?_ later,
      nearsUnprocessed_of_inviting standard inviting rfl rfl stage _ later⟩
    rfl

section Samples

/-- An object the methods of which reply with one complete answer. -/
def verbatimObject (response : Response) : RemoteObject :=
  Sample.objectOf "Echo" fun _ _ => some (.deferred ⟨0, .ok (.response response)⟩)

def verbatimRegistration (response : Response) : Registration where
  interface := Sample.interfaceOf "Echo" ["say"]
  className := "Echo"
  factory := Sample.always (verbatimObject response)
  runs := 0

/-- A server with one such object. -/
def verbatimServer (response : Response) : Server Unit where
  codec := .json
  registry := ⟨[(Registry.storedName "Echo", verbatimRegistration response)]⟩
  healthRoute := none
  chain := .empty

theorem awaited_verbatimServer (behaviour : Behaviour Unit) (response : Response)
    {request : Request} {parameters : Parameters} (posted : request.method = "POST")
    (asks : Asks .json request "Echo" "say" parameters) :
    ∃ reply, Awaited behaviour (verbatimServer response) request reply ∧
      reply.outcome = .ok (.response response) := by
  have registered : (verbatimServer response).registry.find? "Echo" =
      some (verbatimRegistration response) := by
    simp [Registry.find?, verbatimServer]
  have replies : (verbatimServer response).registry.Replies "Echo" "say" parameters
      (.ok (.response response)) :=
    ⟨by decide, by decide, verbatimRegistration response, verbatimObject response,
      ⟨0, .ok (.response response)⟩, registered, rfl, rfl, rfl, rfl⟩
  obtain ⟨reply, resolved, outcome⟩ := (replies_iff asks).mp replies
  exact ⟨reply, ⟨⟨rfl, posted⟩, [], request, _, .nil request _, resolved⟩, outcome⟩

theorem asks_loopbackRequest :
    Asks .json (loopbackRequest "Echo" "say" []).toRequest "Echo" "say" [] :=
  ⟨rfl, rfl, rfl⟩

/-- A client that follows no redirects takes one for a sign that nothing was done, also where a
method that has run has sent it. -/
theorem unprocessed_after_forbidden_redirect :
    let client := { loopback with settings := { Settings.usual with redirectsLimit := 0 } }
    let response := Response.redirect ⟨"10.0.0.8", none, none, false⟩
    let behaviour : Behaviour Unit := fun _ _ request chain => (.ok (.proceed request), chain)
    let request := loopbackRequest "Echo" "say" []
    let served := serve behaviour (verbatimServer response) request.toRequest
    let launched := (launch client (.fresh "Echo" "say" []) .usual (.ok [])).1
    let flight := (run client launched .usual (Exchange.ofResponse served.response).events).1
    launched.stage = .sending request ∧
      (∃ reply, Awaited behaviour (verbatimServer response) request.toRequest reply ∧
        reply.outcome = .ok (.response response)) ∧
      awaits served.events = 1 ∧ flight.FailedAs .unprocessed := by
  intro client response behaviour request served launched flight
  obtain ⟨reply, awaited, outcome⟩ :=
    awaited_verbatimServer behaviour response rfl asks_loopbackRequest
  have answered : served.response = response := by
    rw [show served.response = _ from awaited.served.1, outcome]
    rfl
  have started : start client (.fresh "Echo" "say" []) .usual =
      (send ⟨.fresh "Echo" "say" [], [], .pausing 0⟩ request, .usual) :=
    start_of_address (by decide) rfl rfl .usual
  have sending : launched = send ⟨.fresh "Echo" "say" [], [], .pausing 0⟩ request := by
    unfold launched launch
    rw [started]
    rfl
  have stage : launched.stage = .sending request := by
    rw [sending]
    rfl
  have built : launched.call.request = some request := by
    rw [sending]
    rfl
  refine ⟨stage, ⟨reply, awaited, outcome⟩, awaited.served.2, ?_⟩
  have redirecting : (Exchange.ofResponse response).isRedirectSignal client.codec = true := by
    decide
  obtain ⟨reading, fields, sameCall, followed⟩ :=
    run_redirect stage rfl .usual built redirecting
  unfold flight
  rw [answered, followed]
  exact follow_forbidden (by rw [sameCall, built]) rfl

/-- A result in the words of a method is final, and a request to try again is not. -/
theorem unprocessed_only_after_inviting_loopback :
    (∃ (flight : Flight) (journal : List Endpoint.Event),
      Voyage loopback (Final loopback.codec) flight journal ∧ awaits journal ≠ 0 ∧
        ¬flight.FailedAs .unprocessed) ∧
    let behaviour : Behaviour Unit := fun _ _ request chain => (.ok (.proceed request), chain)
    let served := serve behaviour (verbatimServer (Response.retry none))
      (loopbackRequest "Echo" "say" []).toRequest
    let launched := (launch loopback (.fresh "Echo" "say" []) .usual (.ok [])).1
    let next := (run loopback launched .usual (Exchange.ofResponse (Response.retry none)).events).1
    served.response = Response.retry none ∧ awaits served.events = 1 ∧
      Voyage loopback (fun other => other = Response.retry none) next served.events ∧
      NearsUnprocessed loopback (fun other => other = Response.retry none) next := by
  let behaviour : Behaviour Unit := fun _ _ request chain => (.ok (.proceed request), chain)
  have standard : loopback.handler = .standard := rfl
  obtain ⟨sound, sharp⟩ := unprocessed_only_after_inviting standard
  have launched := launch_loopback "Echo" "say" [] .usual (.ok [])
  constructor
  · let result := Response.success (Json.Value.bool true).bytes
    have conclusive : Conclusive result.head .success [.awaited] := conclusive_success _
    have final : Final loopback.codec result := conclusive.final (by decide) loopback.codec
    obtain ⟨reply, awaited, outcome⟩ :=
      awaited_verbatimServer behaviour result rfl asks_loopbackRequest
    have voyage := voyage_of_awaited launched awaited outcome final .usual
    have waited : awaits (serve behaviour (verbatimServer result)
        (loopbackRequest "Echo" "say" []).toRequest).events ≠ 0 := by
      rw [awaited.served.2]
      decide
    exact ⟨_, _, voyage, waited, sound _ _ voyage waited⟩
  · obtain ⟨reply, awaited, outcome⟩ :=
      awaited_verbatimServer behaviour (Response.retry none) rfl asks_loopbackRequest
    have inviting : ¬Final loopback.codec (Response.retry none) := fun final => by
      have asked : (Exchange.ofResponse (Response.retry none)).isRetrySignal = true := by decide
      rw [final.unasked] at asked
      cases asked
    exact sharp _ inviting "Echo" "say" [] .usual (.ok []) _ launched behaviour _ reply awaited
      outcome .usual

end Samples

end Flight
end RemoteCall
