import RemoteCall.Proofs.Endpoint.Classification
import RemoteCall.Proofs.Service.Registrations

/-!
# Which requests are dispatched

A request is accepted if it is posted and no health check, if every interceptor lets it pass, and
if what the interceptors leave of it names a declared method of a registered interface with a list
of parameters.  The factory of the interface is run for the accepted requests and for no others,
once for each, and the method is dispatched on the object that this run has made.  The checks before
the interceptors look at the request as it came, the others at what the last interceptor left.
-/

namespace RemoteCall
namespace Endpoint

variable {α : Type} {behaviour : Behaviour α} {server : Server α} {request : Request}

/-- How often a factory was run. -/
def instantiations (events : List Event) : Nat :=
  events.countP fun event =>
    match event with
    | .instantiated => true
    | _ => false

/-- Whether an event is part of the work on a request, and not of its interception. -/
def Event.isWork : Event → Bool
  | .intercepted _ _ => false
  | .instantiated | .dispatched _ _ | .awaited => true

/-- What is done for a request apart from its interception. -/
def work (events : List Event) : List Event := events.filter Event.isWork

@[simp]
theorem work_append (first second : List Event) :
    work (first ++ second) = work first ++ work second :=
  List.filter_append first second

theorem mem_of_work_eq {event : Event} {events worked : List Event}
    (isWorked : work events = worked) (isWork : event.isWork = true) :
    event ∈ events ↔ event ∈ worked := by
  simp [← isWorked, work, isWork]

/-- Interception neither dispatches a method nor runs a factory. -/
theorem counts_of_work_eq {events worked : List Event} (isWorked : work events = worked) :
    dispatches events = dispatches worked ∧ instantiations events = instantiations worked := by
  simp only [← isWorked, work, dispatches, instantiations, List.countP_filter]
  constructor
  · refine List.countP_congr fun event _ => ?_
    cases event <;> simp [Event.isDispatch, Event.isWork]
  · refine List.countP_congr fun event _ => ?_
    cases event <;> simp [Event.isWork]

theorem work_intercept (behaviour : Behaviour α) (entries : List (InterceptorId × α))
    (request : Request) (chain : Chain α) :
    work (intercept behaviour entries request chain).events = [] := by
  induction entries generalizing request chain with
  | nil => rfl
  | cons entry later ih =>
      obtain ⟨id, interceptor⟩ := entry
      unfold intercept
      split
      · next next changed _ => exact ih next changed
      · rfl
      · rfl

section Accepting

/-- What a request asks for is there: a declared method of a registered interface, whatever the case
of the interface's name, with a list of parameters. -/
structure Wants (codec : Codec) (registry : Registry) (request : Request) (wanted : Target) :
    Prop where
  asks : Asks codec request wanted.interface wanted.method wanted.parameters
  interfaceGiven : wanted.interface ≠ ""
  methodGiven : wanted.method ≠ ""
  registered : wanted.registration ∈ registry.registrations
  named : wanted.registration.interface.answersTo wanted.interface = true
  declared : wanted.registration.interface.declares wanted.method = true

/-- A request is let through to what it asks for. -/
def Accepted (behaviour : Behaviour α) (server : Server α) (request : Request)
    (wanted : Target) : Prop :=
  Admitted server request ∧
    ∃ (events : List Event) (last : Request) (final : Chain α),
      Passes behaviour server.chain.entries request server.chain events last final ∧
        Wants server.codec server.registry last wanted

theorem read_of_nameIn {fields : Fields} {header : Header} {name : String}
    (named : nameIn fields header = some name) : fields.read header = some name ∧ name ≠ "" := by
  obtain ⟨read, given⟩ := Option.filter_eq_some_iff.mp named
  exact ⟨read, by simpa using given⟩

theorem target_eq_ok_iff_wants {codec : Codec} {registry : Registry} (sound : registry.Sound)
    {wanted : Target} :
    target codec registry request = .ok wanted ↔ Wants codec registry request wanted := by
  constructor
  · intro isFound
    have targets := targets codec registry request
    rw [isFound] at targets
    cases targets with
    | found wanted decoded interfaceName methodName registered declared =>
        obtain ⟨interfaceRead, interfaceGiven⟩ := read_of_nameIn interfaceName
        obtain ⟨methodRead, methodGiven⟩ := read_of_nameIn methodName
        obtain ⟨stored, named⟩ := sound.find?_eq_some_iff.mp registered
        exact ⟨⟨decoded, interfaceRead, methodRead⟩, interfaceGiven, methodGiven, stored, named,
          declared⟩
  · rintro ⟨asks, interfaceGiven, methodGiven, stored, named, declared⟩
    exact (target_eq_ok_iff asks).mpr ⟨interfaceGiven, methodGiven, wanted.registration,
      sound.find?_eq_some_iff.mpr ⟨stored, named⟩, declared, rfl⟩

/-- Interceptors that let a request pass leave one request only. -/
theorem Passes.unique {entries : List (InterceptorId × α)} {first second : Request}
    {chain final other : Chain α} {events others : List Event}
    (passes : Passes behaviour entries request chain events first final)
    (again : Passes behaviour entries request chain others second other) : first = second := by
  have same := passes.intercept_eq.symm.trans again.intercept_eq
  cases same
  rfl

end Accepting

section Declining

/-- An answer that reports a failure with some certainty, and succeeds as an answer. -/
structure Tagged (response : Response) (certainty : Certainty) : Prop where
  status : response.status = .ok
  typed : Flight.responseKind? response.fields = some .throwable
  tagged : Failure.reportedCertainty? response.fields = some certainty

theorem tagged_throwable (report : Response.Report) (certainty : Certainty) :
    Tagged (Response.throwable report certainty) certainty where
  status := by simp [Response.throwable, Response.Draft.ofKind]
  typed := Flight.responseKind?_throwable report certainty
  tagged := Response.reportedCertainty?_throwable report certainty

theorem Rejection.tagged {rejection : Rejection} {certainty : Certainty}
    (same : rejection.certainty = certainty) : Tagged rejection.response certainty := by
  rw [← same]
  exact tagged_throwable _ _

/-- The answers to requests that are not dispatched. -/
inductive Declined (behaviour : Behaviour α) (server : Server α) (request : Request) :
    Response → Prop where
  | health (checked : isHealthCheck server.healthRoute request = true) :
      Declined behaviour server request Response.health
  | answered {response : Response}
      (decides : Decides behaviour server request (.ok (.respond response))) :
      Declined behaviour server request response
  | failed {failure : Failure} (decides : Decides behaviour server request (.error failure))
      {response : Response} (tagged : Tagged response (interceptorCertainty failure)) :
      Declined behaviour server request response
  | rejected {response : Response} (tagged : Tagged response .unprocessed) :
      Declined behaviour server request response

end Declining

/-- The answer to what a dispatched method comes to. -/
def answerOf (codec : Codec) (wanted : Target) : Option Invocation → Response
  | none => (Rejection.notOnObject wanted.registration.className wanted.method).response
  | some (.immediate value) =>
      (Rejection.notDeferred (Invocation.immediate value).kindName).response
  | some (.deferred reply) => answerTo codec reply.outcome

/-- What is done after a method has been dispatched. -/
def waitFor : Option Invocation → List Event
  | some (.deferred _) => [.awaited]
  | some (.immediate _) | none => []

theorem waitFor_cases (invocation : Option Invocation) :
    waitFor invocation = [] ∨ waitFor invocation = [.awaited] := by
  cases invocation with
  | none => exact Or.inl rfl
  | some invocation =>
      cases invocation with
      | immediate => exact Or.inl rfl
      | deferred => exact Or.inr rfl

/-- How a request is served: it is declined and no factory is run, or it is accepted, and then the
object that the factory makes decides. -/
inductive Serves (behaviour : Behaviour α) (server : Server α) (request : Request) :
    Response → List Event → Registry → Prop where
  | declined (unaccepted : ∀ wanted, ¬Accepted behaviour server request wanted)
      {response : Response} (declined : Declined behaviour server request response)
      {events : List Event} (idle : work events = []) :
      Serves behaviour server request response events server.registry
  | unmade {wanted : Target} (accepted : Accepted behaviour server request wanted)
      {explanation : String} (failed : wanted.registration.instantiate.1 = .error explanation)
      {events : List Event} (worked : work events = [.instantiated]) :
      Serves behaviour server request
        (Rejection.notInstantiated wanted.registration.className wanted.method explanation).response
        events (server.registry.update wanted.interface wanted.registration.instantiate.2)
  | dispatched {wanted : Target} (accepted : Accepted behaviour server request wanted)
      {object : RemoteObject} (made : wanted.registration.instantiate.1 = .ok object)
      {events : List Event}
      (worked : work events = [.instantiated, .dispatched wanted.method wanted.parameters] ++
        waitFor (object.dispatch wanted.method wanted.parameters)) :
      Serves behaviour server request
        (answerOf server.codec wanted (object.dispatch wanted.method wanted.parameters))
        events (server.registry.update wanted.interface wanted.registration.instantiate.2)

section Serving

/-- What the interceptors have let pass is declined if it asks for nothing that is there. -/
theorem serves_of_untargeted (unaccepted : ∀ wanted, ¬Accepted behaviour server request wanted)
    {last : Request} {final : Chain α} {rejection : Rejection}
    (refused : target server.codec server.registry last = .error rejection)
    {events : List Event} (idle : work events = []) :
    let served := serveIntercepted { server with chain := final } last
    Serves behaviour server request served.response (events ++ served.events)
      served.server.registry := by
  have resolved : resolve server.codec server.registry last =
      ⟨.error rejection, [], server.registry⟩ := by
    rw [resolve, refused]
  have rejected : (resolve server.codec server.registry last).result = .error rejection := by
    rw [resolved]
  have unprocessed : rejection.certainty = .unprocessed := certainty_of_resolve rejected
  dsimp only [serveIntercepted]
  rw [resolved]
  dsimp only
  rw [List.append_nil]
  exact .declined unaccepted (.rejected (Rejection.tagged unprocessed)) idle

/-- What comes of the dispatched method decides how the request is served. -/
theorem serveIntercepted_of_made (server : Server α) {wanted : Target}
    (found : target server.codec server.registry request = .ok wanted) {object : RemoteObject}
    (made : wanted.registration.instantiate.1 = .ok object) :
    let served := serveIntercepted server request
    let invocation := object.dispatch wanted.method wanted.parameters
    served.response = answerOf server.codec wanted invocation ∧
      served.events =
        [.instantiated, .dispatched wanted.method wanted.parameters] ++ waitFor invocation ∧
      served.server.registry =
        server.registry.update wanted.interface wanted.registration.instantiate.2 := by
  intro served invocation
  unfold served invocation serveIntercepted
  rw [resolve_eq_of_made found made]
  dsimp only
  cases object.dispatch wanted.method wanted.parameters with
  | none => exact ⟨rfl, rfl, rfl⟩
  | some invocation => cases invocation <;> exact ⟨rfl, rfl, rfl⟩

theorem serveIntercepted_of_unmade (server : Server α) {wanted : Target}
    (found : target server.codec server.registry request = .ok wanted) {explanation : String}
    (failed : wanted.registration.instantiate.1 = .error explanation) :
    let served := serveIntercepted server request
    served.response =
        (Rejection.notInstantiated wanted.registration.className wanted.method
          explanation).response ∧
      served.events = [.instantiated] ∧
      served.server.registry =
        server.registry.update wanted.interface wanted.registration.instantiate.2 := by
  intro served
  unfold served serveIntercepted
  rw [resolve_eq_of_unmade found failed]
  exact ⟨rfl, rfl, rfl⟩

/-- The object that is made for what a request asks for decides how the request is served. -/
theorem serves_of_target {wanted : Target} (accepted : Accepted behaviour server request wanted)
    {last : Request} {final : Chain α}
    (found : target server.codec server.registry last = .ok wanted)
    {events : List Event} (idle : work events = []) :
    let served := serveIntercepted { server with chain := final } last
    Serves behaviour server request served.response (events ++ served.events)
      served.server.registry := by
  intro served
  have worked : work (events ++ served.events) = work served.events := by
    rw [work_append, idle, List.nil_append]
  cases made : wanted.registration.instantiate.1 with
  | error explanation =>
      obtain ⟨response, journal, registry⟩ :=
        serveIntercepted_of_unmade { server with chain := final } found made
      rw [response, registry]
      exact .unmade accepted made (worked.trans (by rw [journal]; rfl))
  | ok object =>
      obtain ⟨response, journal, registry⟩ :=
        serveIntercepted_of_made { server with chain := final } found made
      rw [response, registry]
      refine .dispatched accepted made (worked.trans ?_)
      rw [journal]
      rcases waitFor_cases (object.dispatch wanted.method wanted.parameters) with none | one
      · rw [none]
        rfl
      · rw [one]
        rfl

theorem serves_of_admitted (sound : server.registry.Sound) (admitted : Admitted server request) :
    let served := serve behaviour server request
    Serves behaviour server request served.response served.events served.server.registry := by
  have idle := work_intercept behaviour server.chain.entries request server.chain
  have turns := turns_intercept behaviour server.chain.entries request server.chain
  -- Only requests that pass can be accepted.
  have unaccepted {response : Response}
      (ended : (intercept behaviour server.chain.entries request server.chain).result =
        .respond response) (wanted : Target) : ¬Accepted behaviour server request wanted := by
    rintro ⟨_, events, last, final, passes, _⟩
    rw [passes.intercept_eq] at ended
    cases ended
  rw [serve_of_admitted admitted]
  generalize intercept behaviour server.chain.entries request server.chain = intercepted
    at idle turns unaccepted
  cases turns with
  | answered parts passes answers =>
      exact .declined (unaccepted rfl)
        (.answered ⟨admitted, _, _, _, _, _, _, _, _, parts, passes, answers⟩) idle
  | failed parts passes fails =>
      exact .declined (unaccepted rfl)
        (.failed ⟨admitted, _, _, _, _, _, _, _, _, parts, passes, fails⟩ (tagged_throwable _ _))
        idle
  | @passed events last final passes =>
      cases found : target server.codec server.registry last with
      | ok wanted =>
          have wants := (target_eq_ok_iff_wants sound).mp found
          exact serves_of_target ⟨admitted, events, last, final, passes, wants⟩ found idle
      | error rejection =>
          refine serves_of_untargeted ?_ found idle
          rintro wanted ⟨_, _, _, _, again, wants⟩
          have isFound := (target_eq_ok_iff_wants sound).mpr wants
          rw [← passes.unique again, found] at isFound
          cases isFound

theorem serves (behaviour : Behaviour α) (sound : server.registry.Sound) (request : Request) :
    let served := serve behaviour server request
    Serves behaviour server request served.response served.events served.server.registry := by
  by_cases admitted : Admitted server request
  · exact serves_of_admitted sound admitted
  · have unaccepted : ∀ wanted, ¬Accepted behaviour server request wanted :=
      fun _ accepted => admitted accepted.1
    unfold serve
    split
    · next checked => exact .declined unaccepted (.health checked) rfl
    · next unchecked =>
        have unposted : request.method ≠ "POST" :=
          fun posted => admitted ⟨Bool.eq_false_iff.mpr unchecked, posted⟩
        rw [if_pos unposted]
        exact .declined unaccepted (.rejected (Rejection.tagged rfl)) rfl

/-- At most one thing is asked for that is there. -/
theorem Accepted.unique (sound : server.registry.Sound) {first second : Target}
    (accepted : Accepted behaviour server request first)
    (again : Accepted behaviour server request second) : first = second := by
  obtain ⟨_, _, _, _, passes, wants⟩ := accepted
  obtain ⟨_, _, _, _, passesAgain, wantsAgain⟩ := again
  rw [passesAgain.unique passes] at wantsAgain
  have found := (target_eq_ok_iff_wants sound).mpr wants
  rw [(target_eq_ok_iff_wants sound).mpr wantsAgain] at found
  exact (Except.ok.inj found).symm

/-- The factory of what an accepted request asks for has been run once more than before. -/
theorem Accepted.find?_update (sound : server.registry.Sound) {wanted : Target}
    (accepted : Accepted behaviour server request wanted) :
    let registry := server.registry.update wanted.interface wanted.registration.instantiate.2
    registry.find? wanted.interface = some wanted.registration.instantiate.2 ∧
      registry.Sound := by
  intro registry
  obtain ⟨_, _, _, _, _, wants⟩ := accepted
  have found := sound.find?_eq_some_iff.mpr ⟨wants.registered, wants.named⟩
  refine ⟨?_, sound.update found (wanted.registration.runs + 1)⟩
  have replaced : registry.find? wanted.interface = _ :=
    Pairs.lookup_replace server.registry.entries (Registry.storedName wanted.interface)
      (Registry.storedName wanted.interface) wanted.registration.instantiate.2
  rw [if_pos rfl] at replaced
  rw [replaced]
  change (server.registry.find? wanted.interface).map _ = _
  rw [found, Option.map_some]

end Serving

section Exactness

variable {response : Response} {events : List Event} {registry : Registry}
  (serves : Serves behaviour server request response events registry)

include serves

theorem Serves.counts_le : dispatches events ≤ 1 ∧ instantiations events ≤ 1 := by
  cases serves with
  | declined _ _ idle =>
      obtain ⟨dispatched, instantiated⟩ := counts_of_work_eq idle
      rw [dispatched, instantiated]
      decide
  | unmade _ _ worked =>
      obtain ⟨dispatched, instantiated⟩ := counts_of_work_eq worked
      rw [dispatched, instantiated]
      decide
  | @dispatched wanted _ object _ _ worked =>
      obtain ⟨dispatched, instantiated⟩ := counts_of_work_eq worked
      rw [dispatched, instantiated]
      rcases waitFor_cases (object.dispatch wanted.method wanted.parameters) with none | one
      · rw [none]
        exact ⟨Nat.le_refl 1, Nat.le_refl 1⟩
      · rw [one]
        exact ⟨Nat.le_refl 1, Nat.le_refl 1⟩

theorem Serves.instantiated_iff :
    .instantiated ∈ events ↔ ∃ wanted, Accepted behaviour server request wanted := by
  cases serves with
  | declined unaccepted _ idle =>
      rw [mem_of_work_eq idle rfl]
      simpa using unaccepted
  | unmade accepted _ worked | dispatched accepted _ worked =>
      rw [mem_of_work_eq worked rfl]
      exact ⟨fun _ => ⟨_, accepted⟩, fun _ => by simp⟩

theorem Serves.of_made (sound : server.registry.Sound) {wanted : Target}
    (accepted : Accepted behaviour server request wanted) {object : RemoteObject}
    (made : wanted.registration.instantiate.1 = .ok object) :
    work events = [.instantiated, .dispatched wanted.method wanted.parameters] ++
        waitFor (object.dispatch wanted.method wanted.parameters) ∧
      response =
        answerOf server.codec wanted (object.dispatch wanted.method wanted.parameters) := by
  cases serves with
  | declined unaccepted => exact absurd accepted (unaccepted wanted)
  | unmade other failed =>
      rw [other.unique sound accepted, made] at failed
      cases failed
  | dispatched other isMade worked =>
      cases other.unique sound accepted
      rw [made] at isMade
      cases isMade
      exact ⟨worked, rfl⟩

theorem Serves.dispatched_iff (sound : server.registry.Sound) {method : String}
    {parameters : Parameters} :
    .dispatched method parameters ∈ events ↔
      ∃ wanted object, Accepted behaviour server request wanted ∧
        wanted.registration.instantiate.1 = .ok object ∧
          wanted.method = method ∧ wanted.parameters = parameters := by
  constructor
  · intro member
    cases serves with
    | declined _ _ idle =>
        rw [mem_of_work_eq idle rfl] at member
        cases member
    | unmade _ _ worked =>
        rw [mem_of_work_eq worked rfl] at member
        simp at member
    | @dispatched wanted accepted object made _ worked =>
        rw [mem_of_work_eq worked rfl] at member
        refine ⟨wanted, object, accepted, made, ?_⟩
        rcases waitFor_cases (object.dispatch wanted.method wanted.parameters) with none | one
        · simpa [none, eq_comm] using member
        · simpa [one, eq_comm] using member
  · rintro ⟨wanted, object, accepted, made, rfl, rfl⟩
    rw [mem_of_work_eq (serves.of_made sound accepted made).1 rfl]
    simp

theorem Serves.declined_of_undispatched (undispatched : dispatches events = 0) :
    Declined behaviour server request response := by
  cases serves with
  | declined _ declined => exact declined
  | unmade => exact .rejected (Rejection.tagged rfl)
  | dispatched _ _ worked =>
      rw [(counts_of_work_eq worked).1, dispatches_append] at undispatched
      exact absurd (Nat.eq_zero_of_add_eq_zero_right undispatched) Nat.one_ne_zero

end Exactness

end Endpoint
end RemoteCall
