import RemoteCall.Endpoint.Pipeline
import RemoteCall.Sample.Objects

/-!
# Serving is dispatching

A request that no interceptor touches is served by dispatching what it asks for on a fresh object
of the registry.  If that gives a reply, the reply is answered; in every other case the request is
rejected, and the rejection says that its work has not begun.
-/

namespace RemoteCall

/-- What a method of a registered interface replies, when it is dispatched on a fresh object. -/
def Registry.Replies (registry : Registry) (interface method : String) (parameters : Parameters)
    (outcome : Except RemoteError Reply) : Prop :=
  interface ≠ "" ∧ method ≠ "" ∧
    ∃ registration object deferred,
      registry.find? interface = some registration ∧
        registration.interface.declares method = true ∧
        registration.instantiate.1 = .ok object ∧
        object.dispatch method parameters = some (.deferred deferred) ∧
        deferred.outcome = outcome

theorem Registry.Replies.unique {registry : Registry} {interface method : String}
    {parameters : Parameters} {first second : Except RemoteError Reply}
    (once : registry.Replies interface method parameters first)
    (again : registry.Replies interface method parameters second) : first = second := by
  obtain ⟨_, _, registration, object, deferred, registered, _, made, dispatched, rfl⟩ := once
  obtain ⟨_, _, _, _, _, registered', _, made', dispatched', rfl⟩ := again
  rw [registered] at registered'
  cases registered'
  rw [made] at made'
  cases made'
  rw [dispatched] at dispatched'
  cases dispatched'
  rfl

namespace Endpoint

section Resolving

variable {codec : Codec} {registry : Registry} {request : Request}

/-- How a request finds what it asks for, or does not. -/
inductive Targets (codec : Codec) (registry : Registry) (request : Request) :
    Except Rejection Target → Prop where
  | rejected (rejection : Rejection) (unprocessed : rejection.certainty = .unprocessed) :
      Targets codec registry request (.error rejection)
  | found (wanted : Target) (decoded : codec.decode request.body = .ok (.array wanted.parameters))
      (interfaceName : nameIn request.fields .interfaceName = some wanted.interface)
      (methodName : nameIn request.fields .methodName = some wanted.method)
      (registered : registry.find? wanted.interface = some wanted.registration)
      (declared : wanted.registration.interface.declares wanted.method = true) :
      Targets codec registry request (.ok wanted)

theorem targets (codec : Codec) (registry : Registry) (request : Request) :
    Targets codec registry request (target codec registry request) := by
  rw [target]
  cases decoded : codec.decode request.body with
  | error fault => exact .rejected _ rfl
  | ok value =>
      dsimp only
      split
      · next interface method interfaceName methodName =>
          split
          · next parameters =>
              cases registered : registry.find? interface with
              | none => exact .rejected _ rfl
              | some registration =>
                  dsimp only
                  split
                  · next declared =>
                      exact .found ⟨interface, registration, method, parameters⟩ decoded
                        interfaceName methodName registered declared
                  · exact .rejected _ rfl
          · exact .rejected _ rfl
      · exact .rejected _ rfl

/-- How a request comes to a reply, or does not, and what is done on the way. -/
inductive Resolves (codec : Codec) (registry : Registry) (request : Request) :
    Except Rejection Invocation → List Event → Prop where
  | rejected (rejection : Rejection) (unprocessed : rejection.certainty = .unprocessed) :
      Resolves codec registry request (.error rejection) []
  | unmade (wanted : Target) (explanation : String) :
      Resolves codec registry request
        (.error (.notInstantiated wanted.registration.className wanted.method explanation))
        [.instantiated]
  | undispatched (wanted : Target) :
      Resolves codec registry request
        (.error (.notOnObject wanted.registration.className wanted.method))
        [.instantiated, .dispatched wanted.method wanted.parameters]
  | dispatched {wanted : Target} (found : target codec registry request = .ok wanted)
      {object : RemoteObject} (made : wanted.registration.instantiate.1 = .ok object)
      {invocation : Invocation}
      (dispatched : object.dispatch wanted.method wanted.parameters = some invocation) :
      Resolves codec registry request (.ok invocation)
        [.instantiated, .dispatched wanted.method wanted.parameters]

theorem resolves (codec : Codec) (registry : Registry) (request : Request) :
    Resolves codec registry request (resolve codec registry request).result
      (resolve codec registry request).events := by
  have targets := targets codec registry request
  rw [resolve]
  cases found : target codec registry request with
  | error rejection =>
      rw [found] at targets
      cases targets with
      | rejected rejection unprocessed => exact .rejected rejection unprocessed
  | ok wanted =>
      dsimp only
      split
      · next explanation _ => exact .unmade wanted explanation
      · next object made =>
          cases dispatched : object.dispatch wanted.method wanted.parameters with
          | none => exact .undispatched wanted
          | some invocation => exact .dispatched found made dispatched

/-- How a request is resolved once its object is made, whatever object this is. -/
theorem resolve_eq_of_made {wanted : Target} (found : target codec registry request = .ok wanted)
    {object : RemoteObject} (made : wanted.registration.instantiate.1 = .ok object) :
    resolve codec registry request =
      { result := (object.dispatch wanted.method wanted.parameters).elim
          (.error (.notOnObject wanted.registration.className wanted.method)) .ok
        events := [.instantiated, .dispatched wanted.method wanted.parameters]
        registry := registry.update wanted.interface wanted.registration.instantiate.2 } := by
  rw [resolve, found]
  dsimp only
  rw [made]
  dsimp only
  cases object.dispatch wanted.method wanted.parameters <;> rfl

theorem resolve_eq_of_unmade {wanted : Target} (found : target codec registry request = .ok wanted)
    {explanation : String} (failed : wanted.registration.instantiate.1 = .error explanation) :
    resolve codec registry request =
      { result := .error (.notInstantiated wanted.registration.className wanted.method explanation)
        events := [.instantiated]
        registry := registry.update wanted.interface wanted.registration.instantiate.2 } := by
  rw [resolve, found]
  dsimp only
  rw [failed]
  rfl

/-- What is rejected before a reply is awaited is rejected before any work. -/
theorem certainty_of_resolve {rejection : Rejection}
    (rejected : (resolve codec registry request).result = .error rejection) :
    rejection.certainty = .unprocessed := by
  have resolves := resolves codec registry request
  rw [rejected] at resolves
  generalize (resolve codec registry request).events = events at resolves
  cases resolves with
  | rejected rejection unprocessed => exact unprocessed
  | unmade | undispatched => rfl

/-- What a request asks for, as its receiver reads it. -/
structure Asks (codec : Codec) (request : Request) (interface method : String)
    (parameters : Parameters) : Prop where
  body : codec.decode request.body = .ok (.array parameters)
  interfaceName : request.fields.read .interfaceName = some interface
  methodName : request.fields.read .methodName = some method

theorem nameIn_eq_some_iff {fields : Fields} {header : Header} {text name : String}
    (read : fields.read header = some text) :
    nameIn fields header = some name ↔ text ≠ "" ∧ text = name := by
  rw [nameIn, read, Option.filter_some]
  by_cases empty : text = ""
  · simp [empty]
  · simp [empty]

variable {interface method : String} {parameters : Parameters}

/-- A request finds its target exactly if the interface is registered and declares the method. -/
theorem target_eq_ok_iff (asks : Asks codec request interface method parameters)
    {wanted : Target} :
    target codec registry request = .ok wanted ↔
      interface ≠ "" ∧ method ≠ "" ∧
        ∃ registration, registry.find? interface = some registration ∧
          registration.interface.declares method = true ∧
          wanted = ⟨interface, registration, method, parameters⟩ := by
  obtain ⟨body, interfaceName, methodName⟩ := asks
  constructor
  · intro isFound
    have targets := targets codec registry request
    rw [isFound] at targets
    cases targets with
    | found wanted decoded interfaceRead methodRead registered declared =>
        obtain ⟨interfaceGiven, rfl⟩ := (nameIn_eq_some_iff interfaceName).mp interfaceRead
        obtain ⟨methodGiven, rfl⟩ := (nameIn_eq_some_iff methodName).mp methodRead
        -- Both come from the one body.
        have sameParameters : parameters = wanted.parameters := by
          rw [body] at decoded
          cases decoded
          rfl
        subst sameParameters
        exact ⟨interfaceGiven, methodGiven, wanted.registration, registered, declared, rfl⟩
  · rintro ⟨interfaceGiven, methodGiven, registration, registered, declared, rfl⟩
    have interfaceRead : nameIn request.fields .interfaceName = some interface :=
      (nameIn_eq_some_iff interfaceName).mpr ⟨interfaceGiven, rfl⟩
    have methodRead : nameIn request.fields .methodName = some method :=
      (nameIn_eq_some_iff methodName).mpr ⟨methodGiven, rfl⟩
    rw [target, body, interfaceRead, methodRead]
    dsimp only
    rw [registered]
    exact if_pos declared

/-- A request comes to a reply exactly if what it asks for replies so. -/
theorem replies_iff (asks : Asks codec request interface method parameters)
    {outcome : Except RemoteError Reply} :
    registry.Replies interface method parameters outcome ↔
      ∃ deferred, (resolve codec registry request).result = .ok (.deferred deferred) ∧
        deferred.outcome = outcome := by
  constructor
  · rintro ⟨interfaceGiven, methodGiven, registration, object, deferred, registered, declared,
      made, dispatched, replied⟩
    have found : target codec registry request =
        .ok ⟨interface, registration, method, parameters⟩ :=
      (target_eq_ok_iff asks).mpr
        ⟨interfaceGiven, methodGiven, registration, registered, declared, rfl⟩
    refine ⟨deferred, ?_, replied⟩
    rw [resolve, found]
    dsimp only
    rw [made]
    dsimp only
    rw [dispatched]
  · rintro ⟨deferred, resolved, replied⟩
    have resolves := resolves codec registry request
    rw [resolved] at resolves
    generalize (resolve codec registry request).events = events at resolves
    cases resolves with
    | dispatched found made dispatched =>
        obtain ⟨interfaceGiven, methodGiven, registration, registered, declared, rfl⟩ :=
          (target_eq_ok_iff asks).mp found
        exact ⟨interfaceGiven, methodGiven, registration, _, deferred, registered, declared, made,
          dispatched, replied⟩

end Resolving

section Serving

variable {α : Type} (behaviour : Behaviour α) (server : Server α) (request : Request)

theorem response_serve (unintercepted : server.chain.entries = [])
    (noHealthCheck : server.healthRoute ≠ some request.uri.path)
    (posted : request.method = "POST") :
    (serve behaviour server request).response = (serveIntercepted server request).response := by
  have unchecked : isHealthCheck server.healthRoute request = false := by
    simp [isHealthCheck, noHealthCheck]
  rw [serve, unchecked, if_neg Bool.false_ne_true, if_neg (not_not_intro posted), unintercepted]
  rfl

theorem response_of_deferred {deferred : Deferred}
    (resolved : (resolve server.codec server.registry request).result =
      .ok (.deferred deferred)) :
    (serveIntercepted server request).response = answerTo server.codec deferred.outcome := by
  rw [serveIntercepted]
  dsimp only
  rw [resolved]

theorem rejection_of_no_deferred
    (unresolved : ∀ deferred,
      (resolve server.codec server.registry request).result ≠ .ok (.deferred deferred)) :
    ∃ rejection : Rejection, rejection.certainty = .unprocessed ∧
      (serveIntercepted server request).response = rejection.response := by
  rw [serveIntercepted]
  dsimp only
  split
  · next rejection rejected => exact ⟨rejection, certainty_of_resolve rejected, rfl⟩
  · exact ⟨_, rfl, rfl⟩
  · next reply resolved => exact absurd resolved (unresolved reply)

end Serving

/-- An object the methods of which reply to their parameters in one way. -/
def replyingObject (reply : Parameters → Except RemoteError Json.Value) : RemoteObject :=
  Sample.objectOf "Echo" fun _ parameters => some (.ofOutcome (reply parameters))

def replyingRegistration (reply : Parameters → Except RemoteError Json.Value) : Registration where
  interface := Sample.interfaceOf "Echo" ["say"]
  className := "Echo"
  factory := Sample.always (replyingObject reply)
  runs := 0

/-- A server with one such object. -/
def replyingServer (reply : Parameters → Except RemoteError Json.Value) : Server Unit where
  codec := .json
  registry := ⟨[(Registry.storedName "Echo", replyingRegistration reply)]⟩
  healthRoute := none
  chain := .empty

theorem replies_replyingServer (reply : Parameters → Except RemoteError Json.Value)
    (parameters : Parameters) :
    (replyingServer reply).registry.Replies "Echo" "say" parameters
      ((reply parameters).map .value) := by
  have registered : (replyingServer reply).registry.find? "Echo" =
      some (replyingRegistration reply) := by
    simp [Registry.find?, replyingServer]
  exact ⟨by decide, by decide, replyingRegistration reply, replyingObject reply,
    ⟨0, (reply parameters).map .value⟩, registered, rfl, rfl, rfl, rfl⟩

end Endpoint
end RemoteCall
