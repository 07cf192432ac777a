import RemoteCall.Proofs.Endpoint.Interception
import RemoteCall.Proofs.Endpoint.Journal
import RemoteCall.Proofs.Response.Answers

/-!
# What the tag of an answer tells about the work

The answer to a request is composed by the server itself unless an interceptor answers or a method
replies with a complete answer.  An answer that the server composes is tagged truly: its caller can
tell from the tag alone whether a reply was awaited and what became of it.  Every answer has one of
six origins, and the tag follows from the origin.
-/

namespace RemoteCall
namespace Endpoint

open Chain

variable {α : Type} {behaviour : Behaviour α} {server : Server α} {request : Request}

/-- The turns of the interceptors come to one that decides so. -/
def Decides (behaviour : Behaviour α) (server : Server α) (request : Request)
    (decision : Except Failure Interception) : Prop :=
  Admitted server request ∧
    ∃ (earlier later : List (InterceptorId × α)) (id : InterceptorId) (interceptor : α)
      (events : List Event) (given : Request) (changed final : Chain α),
      server.chain.entries = earlier ++ (id, interceptor) :: later ∧
        Passes behaviour earlier request server.chain events given changed ∧
        behaviour id interceptor given changed = (decision, final)

/-- The interceptors let a request pass, and what they leave of it comes to a reply. -/
def Awaited (behaviour : Behaviour α) (server : Server α) (request : Request)
    (reply : Deferred) : Prop :=
  Admitted server request ∧
    ∃ (events : List Event) (last : Request) (final : Chain α),
      Passes behaviour server.chain.entries request server.chain events last final ∧
        (resolve server.codec server.registry last).result = .ok (.deferred reply)

/-- Where an answer comes from, and what was done before. -/
inductive Origin (behaviour : Behaviour α) (server : Server α) (request : Request) :
    Response → List Event → Prop where
  | health (checked : isHealthCheck server.healthRoute request = true) :
      Origin behaviour server request Response.health []
  | unposted : Origin behaviour server request Rejection.notPosted.response []
  | answered {response : Response} (decides : Decides behaviour server request
      (.ok (.respond response))) {events : List Event} (idle : Idle events) :
      Origin behaviour server request response events
  | failed {failure : Failure} (decides : Decides behaviour server request (.error failure))
      {events : List Event} (idle : Idle events) :
      Origin behaviour server request
        (Response.throwable (.ofFailure failure) (interceptorCertainty failure)) events
  | rejected (rejection : Rejection) (unprocessed : rejection.certainty = .unprocessed)
      {events : List Event} (unawaited : awaits events = 0) :
      Origin behaviour server request rejection.response events
  | replied {reply : Deferred} (awaited : Awaited behaviour server request reply)
      {events : List Event} (once : awaits events = 1) :
      Origin behaviour server request (answerTo server.codec reply.outcome) events

theorem Passes.intercept_eq {entries : List (InterceptorId × α)} {request last : Request}
    {chain final : Chain α} {events : List Event}
    (passes : Passes behaviour entries request chain events last final) :
    intercept behaviour entries request chain = ⟨.proceed last, events, final⟩ := by
  induction passes with
  | nil => rfl
  | cons proceeds rest ih =>
      unfold intercept
      rw [proceeds]
      dsimp only
      rw [ih]

theorem Passes.idle {entries : List (InterceptorId × α)} {request last : Request}
    {chain final : Chain α} {events : List Event}
    (passes : Passes behaviour entries request chain events last final) : Idle events := by
  have idle := idle_intercept behaviour entries request chain
  rw [passes.intercept_eq] at idle
  exact idle

theorem awaits_resolve (codec : Codec) (registry : Registry) (request : Request) :
    awaits (resolve codec registry request).events = 0 :=
  (resolve_cases codec registry request).1

theorem origin_of_passes (admitted : Admitted server request) {events : List Event}
    {last : Request} {final : Chain α}
    (passes : Passes behaviour server.chain.entries request server.chain events last final) :
    Origin behaviour server request
      (serveIntercepted { server with chain := final } last).response
      (events ++ (serveIntercepted { server with chain := final } last).events) := by
  have unawaited : awaits (events ++ (resolve server.codec server.registry last).events) = 0 := by
    rw [awaits_append, passes.idle.2, awaits_resolve]
  unfold serveIntercepted
  dsimp only
  split
  · next rejection rejected =>
      exact .rejected rejection (certainty_of_resolve rejected) unawaited
  · next value immediate => exact .rejected _ rfl unawaited
  · next reply deferred =>
      refine .replied ⟨admitted, events, last, final, passes, deferred⟩ ?_
      rw [← List.append_assoc, awaits_append, unawaited]
      rfl

/-- Every answer has an origin. -/
theorem origin_serve (behaviour : Behaviour α) (server : Server α) (request : Request) :
    Origin behaviour server request (serve behaviour server request).response
      (serve behaviour server request).events := by
  by_cases admitted : Admitted server request
  · have idle := idle_intercept behaviour server.chain.entries request server.chain
    have turns := turns_intercept behaviour server.chain.entries request server.chain
    rw [serve_of_admitted admitted]
    generalize intercept behaviour server.chain.entries request server.chain = intercepted
      at idle turns
    cases turns with
    | passed passes => exact origin_of_passes admitted passes
    | answered parts passes answers =>
        exact .answered ⟨admitted, _, _, _, _, _, _, _, _, parts, passes, answers⟩ idle
    | failed parts passes fails =>
        exact .failed ⟨admitted, _, _, _, _, _, _, _, _, parts, passes, fails⟩ idle
  · unfold serve
    split
    · next checked => exact .health checked
    · next unchecked =>
        have unposted : request.method ≠ "POST" := by
          intro posted
          exact admitted ⟨Bool.eq_false_iff.mpr unchecked, posted⟩
        rw [if_pos unposted]
        exact .unposted

/-- A reply that is awaited is answered. -/
theorem Awaited.served {reply : Deferred} (awaited : Awaited behaviour server request reply) :
    (serve behaviour server request).response = answerTo server.codec reply.outcome ∧
      awaits (serve behaviour server request).events = 1 := by
  obtain ⟨admitted, events, last, final, passes, resolved⟩ := awaited
  rw [serve_of_admitted admitted, passes.intercept_eq]
  unfold Server.afterInterceptors serveIntercepted
  dsimp only
  rw [resolved]
  refine ⟨rfl, ?_⟩
  dsimp only
  rw [awaits_append, awaits_append, passes.idle.2, awaits_resolve]
  rfl

/-- Neither an interceptor nor the reply of a method is the answer. -/
structure Composed (behaviour : Behaviour α) (server : Server α) (request : Request) : Prop where
  undecided : ∀ response, ¬Decides behaviour server request (.ok (.respond response))
  plain : ∀ reply, Awaited behaviour server request reply →
    ∀ response, reply.outcome ≠ .ok (.response response)

section Tags

theorem reportedCertainty?_health : Failure.reportedCertainty? Response.health.fields = none := by
  unfold Failure.reportedCertainty? Response.health
  rw [Response.Draft.read_finish_of_ne _ (by decide)]
  rfl

@[simp]
theorem Rejection.reportedCertainty?_response (rejection : Rejection) :
    Failure.reportedCertainty? rejection.response.fields = some rejection.certainty :=
  Response.reportedCertainty?_throwable _ _

theorem Rejection.responseKind?_response (rejection : Rejection) :
    Flight.responseKind? rejection.response.fields = some .throwable :=
  Flight.responseKind?_throwable _ _

/-- What the answer to a plain reply tells of it. -/
inductive Reports (codec : Codec) :
    Except RemoteError Reply → Option Certainty → ResponseType → Response → Prop where
  | failed (error : RemoteError) :
      Reports codec (.error error) (some .possiblyProcessed) .throwable
        (Response.throwable (.ofRemoteError error) .possiblyProcessed)
  | lost {value : Json.Value} {fault : CodecFault} (unencodable : codec.encode value = .error fault) :
      Reports codec (.ok (.value value)) (some .processed) .throwable
        (Rejection.unencodable fault).response
  | encoded {value : Json.Value} {result : Bytes} (encodes : codec.encode value = .ok result) :
      Reports codec (.ok (.value value)) none .success (Response.success result)

theorem reports_answerTo (codec : Codec) {outcome : Except RemoteError Reply}
    (plain : ∀ response, outcome ≠ .ok (.response response)) :
    ∃ certainty kind, Reports codec outcome certainty kind (answerTo codec outcome) ∧
      Failure.reportedCertainty? (answerTo codec outcome).fields = certainty ∧
      Flight.responseKind? (answerTo codec outcome).fields = some kind := by
  unfold answerTo
  split
  · next error =>
      exact ⟨_, _, .failed error, Response.reportedCertainty?_throwable _ _,
        Flight.responseKind?_throwable _ _⟩
  · next response => exact absurd rfl (plain response)
  · next value =>
      split
      · next result encodes =>
          exact ⟨_, _, .encoded encodes, Response.reportedCertainty?_success result,
            Flight.responseKind?_success result⟩
      · next fault unencodable =>
          exact ⟨_, _, .lost unencodable, Rejection.reportedCertainty?_response _,
            Rejection.responseKind?_response _⟩

theorem interceptorCertainty_cases (failure : Failure) :
    failure.kind = .unprocessed ∧ interceptorCertainty failure = .unprocessed ∨
      failure.kind ≠ .unprocessed ∧ interceptorCertainty failure = .possiblyProcessed := by
  unfold interceptorCertainty
  cases failure.kind with
  | unprocessed => exact Or.inl ⟨rfl, rfl⟩
  | general | possiblyProcessed | processed | retriesExceeded | redirectsExceeded =>
      exact Or.inr ⟨nofun, rfl⟩

end Tags

/-- A tag tells the truth about what was done. -/
structure Truthful (behaviour : Behaviour α) (server : Server α) (request : Request)
    (response : Response) (events : List Event) : Prop where
  unprocessed : Failure.reportedCertainty? response.fields = some .unprocessed → awaits events = 0
  processed : Failure.reportedCertainty? response.fields = some .processed →
    ∃ reply value fault, Awaited behaviour server request reply ∧ awaits events = 1 ∧
      reply.outcome = .ok (.value value) ∧ server.codec.encode value = .error fault
  possiblyProcessed : Failure.reportedCertainty? response.fields = some .possiblyProcessed →
    (∃ reply error, Awaited behaviour server request reply ∧ awaits events = 1 ∧
        reply.outcome = .error error ∧
        response = Response.throwable (.ofRemoteError error) .possiblyProcessed) ∨
      ∃ failure, Decides behaviour server request (.error failure) ∧
        failure.kind ≠ .unprocessed ∧ dispatches events = 0
  success : Flight.responseKind? response.fields = some .success →
    isHealthCheck server.healthRoute request = true ∨
      ∃ reply value, Awaited behaviour server request reply ∧ awaits events = 1 ∧
        reply.outcome = .ok (.value value) ∧ server.codec.encode value = .ok response.body

theorem truthful_health (checked : isHealthCheck server.healthRoute request = true) :
    Truthful behaviour server request Response.health [] := by
  constructor
  · exact fun _ => rfl
  · rw [reportedCertainty?_health]
    exact nofun
  · rw [reportedCertainty?_health]
    exact nofun
  · exact fun _ => Or.inl checked

theorem truthful_rejection {rejection : Rejection}
    (unprocessed : rejection.certainty = .unprocessed) {events : List Event}
    (unawaited : awaits events = 0) :
    Truthful behaviour server request rejection.response events := by
  have tagged := rejection.reportedCertainty?_response
  rw [unprocessed] at tagged
  constructor
  · exact fun _ => unawaited
  · rw [tagged]
    exact nofun
  · rw [tagged]
    exact nofun
  · rw [rejection.responseKind?_response]
    exact nofun

theorem truthful_failure {failure : Failure}
    (decides : Decides behaviour server request (.error failure)) {events : List Event}
    (idle : Idle events) :
    Truthful behaviour server request
      (Response.throwable (.ofFailure failure) (interceptorCertainty failure)) events := by
  constructor
  · exact fun _ => idle.2
  · rw [Response.reportedCertainty?_throwable]
    intro processed
    rcases interceptorCertainty_cases failure with ⟨_, certainty⟩ | ⟨_, certainty⟩
    · rw [certainty] at processed
      cases processed
    · rw [certainty] at processed
      cases processed
  · rw [Response.reportedCertainty?_throwable]
    intro possibly
    rcases interceptorCertainty_cases failure with ⟨_, certainty⟩ | ⟨unlike, _⟩
    · rw [certainty] at possibly
      cases possibly
    · exact Or.inr ⟨failure, decides, unlike, idle.1⟩
  · intro success
    have throwable := Flight.responseKind?_throwable (.ofFailure failure)
      (interceptorCertainty failure)
    rw [Response.head, success] at throwable
    cases throwable

theorem truthful_reply {reply : Deferred} (awaited : Awaited behaviour server request reply)
    (plain : ∀ response, reply.outcome ≠ .ok (.response response)) {events : List Event}
    (once : awaits events = 1) :
    Truthful behaviour server request (answerTo server.codec reply.outcome) events := by
  obtain ⟨certainty, kind, reports, tagged, typed⟩ := reports_answerTo server.codec plain
  generalize outcomeEq : reply.outcome = outcome at reports tagged typed ⊢
  generalize answerTo server.codec outcome = response at reports tagged typed ⊢
  constructor
  · rw [tagged]
    intro unprocessed
    cases reports with
    | failed | lost | encoded => cases unprocessed
  · rw [tagged]
    intro processed
    cases reports with
    | failed | encoded => cases processed
    | lost unencodable => exact ⟨reply, _, _, awaited, once, outcomeEq, unencodable⟩
  · rw [tagged]
    intro possibly
    cases reports with
    | failed error => exact Or.inl ⟨reply, error, awaited, once, outcomeEq, rfl⟩
    | lost | encoded => cases possibly
  · rw [typed]
    intro success
    cases reports with
    | failed | lost => cases success
    | encoded encodes =>
        rw [Response.success_body]
        exact Or.inr ⟨reply, _, awaited, once, outcomeEq, encodes⟩

/-- The tag of an answer that the server composes tells the truth, and where a reply was awaited it
does not say that nothing was done. -/
theorem truthful_of_composed (composed : Composed behaviour server request) :
    let served := serve behaviour server request
    Truthful behaviour server request served.response served.events ∧
      ∀ reply, Awaited behaviour server request reply →
        Failure.reportedCertainty? served.response.fields ≠ some .unprocessed := by
  intro served
  have truthful : Truthful behaviour server request served.response served.events := by
    have origin : Origin behaviour server request served.response served.events :=
      origin_serve behaviour server request
    generalize served.response = response at origin ⊢
    generalize served.events = events at origin ⊢
    cases origin with
    | health checked => exact truthful_health checked
    | unposted => exact truthful_rejection rfl rfl
    | answered decides => exact absurd decides (composed.undecided response)
    | failed decides idle => exact truthful_failure decides idle
    | rejected rejection unprocessed unawaited => exact truthful_rejection unprocessed unawaited
    | replied awaited once => exact truthful_reply awaited (composed.plain _ awaited) once
  refine ⟨truthful, ?_⟩
  intro reply awaited unprocessed
  have unawaited := truthful.unprocessed unprocessed
  rw [awaited.served.2] at unawaited
  cases unawaited

/-- A server that cannot encode what its method replies. -/
theorem truthful_of_composed_unencodable :
    let behaviour : Behaviour Unit := fun _ _ request chain => (.ok (.proceed request), chain)
    let server : Server Unit :=
      { replyingServer (fun parameters => .ok (.array parameters)) with
        codec := Codec.json.withoutEncoding "full" }
    let request : Request := ⟨"POST", ⟨none, none, "/", none⟩,
      (Fields.empty.write .interfaceName "Echo").write .methodName "say", Text.encodeUtf8 "[]"⟩
    let served := serve behaviour server request
    Composed behaviour server request ∧
      Failure.reportedCertainty? served.response.fields = some .processed ∧
      ∃ reply value fault, Awaited behaviour server request reply ∧ awaits served.events = 1 ∧
        reply.outcome = .ok (.value value) ∧ server.codec.encode value = .error fault := by
  intro behaviour server request served
  have asks : Asks server.codec request "Echo" "say" [] := ⟨rfl, rfl, rfl⟩
  obtain ⟨deferred, resolved, outcome⟩ :=
    (replies_iff asks).mp (replies_replyingServer (fun parameters => .ok (.array parameters)) [])
  have awaited : Awaited behaviour server request deferred :=
    ⟨⟨rfl, rfl⟩, [], request, server.chain, .nil request server.chain, resolved⟩
  have composed : Composed behaviour server request := by
    constructor
    · rintro response ⟨_, earlier, later, id, interceptor, _, _, _, _, parts, _⟩
      have nonempty : earlier ++ (id, interceptor) :: later ≠ [] := by simp
      exact nonempty parts.symm
    · rintro reply ⟨_, _, _, _, passes, replied⟩ response isResponse
      cases passes with
      | nil =>
          rw [resolved] at replied
          cases replied
          rw [outcome] at isResponse
          cases isResponse
  have tagged : Failure.reportedCertainty? served.response.fields = some .processed := by
    rw [show served.response = _ from awaited.served.1, outcome]
    exact Rejection.reportedCertainty?_response (.unencodable (.encoding "full"))
  exact ⟨composed, tagged, (truthful_of_composed composed).1.processed tagged⟩

end Endpoint
end RemoteCall
