import RemoteCall.Proofs.Endpoint.Interception
import RemoteCall.Proofs.Flight.Launch
import RemoteCall.Proofs.Response.Reports
import RemoteCall.Proofs.Service.Registrations

/-!
# Methods that a call can reach

A registry takes interfaces of any name, but a call names what it asks for in two headers, which
carry tabs and visible ASCII characters only and name nothing if they are empty.  A name made of
such characters reaches the server as it is, and then the call meets the registration of this very
name.  A name with any other character arrives as another name, and since no case of a letter is
involved, the interface that is met then is never the one that was meant.
-/

namespace RemoteCall

namespace FieldValue

/-- A name that a header carries as it is and that names something. -/
structure Legible (name : String) : Prop where
  nonempty : name ≠ ""
  plain : ∀ character ∈ name.toList, IsPlain character

theorem Legible.cleaned_eq {name : String} (legible : Legible name) : cleaned name = name :=
  cleaned_eq_self_iff.mpr legible.plain

theorem cleaned_eq_empty_iff {name : String} : cleaned name = "" ↔ name = "" := by
  rw [cleaned, ← String.toList_inj, ← String.toList_inj, String.toList_ofList]
  exact List.map_eq_nil_iff

theorem clean_cases (character : Char) :
    IsPlain character ∨ clean character = ' ' ∨ clean character = '?' := by
  unfold clean IsPlain
  split
  · exact Or.inl (Or.inl ‹_›)
  · split
    · exact Or.inr (Or.inl rfl)
    · split
      · exact Or.inr (Or.inr rfl)
      · exact Or.inl (Or.inr (by omega))

theorem isPlain_of_toNat_toLower {character : Char} (visible : 0x20 ≤ character.toLower.toNat)
    (ascii : character.toLower.toNat ≤ 0x40) : IsPlain character := by
  have notUpper : ¬character.isUpper = true := by
    intro upper
    have least := (Text.isUpper_iff.mp upper).1
    rw [Text.toNat_toLower, if_pos upper] at ascii
    omega
  rw [Text.toNat_toLower, if_neg notUpper] at visible ascii
  exact Or.inr ⟨visible, by omega⟩

/-- What cleaning puts in the place of a character is no form of it. -/
theorem isPlain_of_toLower_eq {character : Char}
    (same : character.toLower = (clean character).toLower) : IsPlain character := by
  rcases clean_cases character with plain | blank | unknown
  · exact plain
  · rw [blank] at same
    exact isPlain_of_toNat_toLower (same ▸ by decide) (same ▸ by decide)
  · rw [unknown] at same
    exact isPlain_of_toNat_toLower (same ▸ by decide) (same ▸ by decide)

/-- Only a name that is not changed by cleaning denotes the interface after cleaning. -/
theorem answersTo_cleaned_iff {interface : Interface} :
    interface.answersTo (cleaned interface.name) = true ↔
      ∀ character ∈ interface.name.toList, IsPlain character := by
  rw [Interface.answersTo, Text.sameIgnoringCase, Text.sameLetters_iff, cleaned,
    String.toList_ofList, List.map_map]
  constructor
  · intro same character member
    exact isPlain_of_toLower_eq (List.map_inj_left.mp same character member)
  · intro plain
    refine List.map_congr_left fun character member => ?_
    rw [Function.comp_apply, clean_of_isPlain (plain character member)]

end FieldValue

namespace Registry

theorem perform_register_of_free {registry : Registry} (sound : registry.Sound)
    {interface : Interface} {factory : Factory} (free : registry.Free interface.name)
    {registration : Registration} (ready : prepare interface factory = .ok registration) :
    registry.perform (.register interface factory) = registry.adding registration := by
  rw [perform, attempt, sound.register_of_free free, ready]
  rfl

end Registry

namespace Endpoint

variable {α : Type} {behaviour : Behaviour α} {server : Server α} {request : Request}

theorem serve_of_unintercepted (unintercepted : server.chain.entries = [])
    (admitted : Admitted server request) :
    serve behaviour server request = serveIntercepted server request := by
  rw [serve_of_admitted admitted, unintercepted]
  rfl

/-- After what is done to come to a reply, the reply is awaited at most. -/
theorem events_serveIntercepted (server : Server α) (request : Request) :
    (serveIntercepted server request).events =
        (resolve server.codec server.registry request).events ∨
      (serveIntercepted server request).events =
        (resolve server.codec server.registry request).events ++ [.awaited] := by
  unfold serveIntercepted
  dsimp only
  split
  · exact Or.inl rfl
  · exact Or.inl rfl
  · exact Or.inr rfl

/-- Whatever object is made, the method is dispatched on it. -/
theorem resolve_of_made {codec : Codec} {registry : Registry} {wanted : Target}
    (found : target codec registry request = .ok wanted) {object : RemoteObject}
    (made : wanted.registration.instantiate.1 = .ok object) :
    (resolve codec registry request).events =
        [.instantiated, .dispatched wanted.method wanted.parameters] ∧
      (resolve codec registry request).result =
        (object.dispatch wanted.method wanted.parameters).elim
          (.error (.notOnObject wanted.registration.className wanted.method)) .ok := by
  rw [resolve_eq_of_made found made]
  exact ⟨rfl, rfl⟩

theorem events_resolve_of_unmade {codec : Codec} {registry : Registry} {wanted : Target}
    (found : target codec registry request = .ok wanted) {explanation : String}
    (unmade : wanted.registration.instantiate.1 = .error explanation) :
    (resolve codec registry request).events = [.instantiated] := by
  rw [resolve_eq_of_unmade found unmade]

end Endpoint

namespace Flight

open FieldValue

/-- A call for a method of a registered interface, delivered as it was sent to a server that reads
its parameters. -/
structure Delivered {α : Type} (client : Client) (server : Endpoint.Server α)
    (operations : List Registry.Operation) (registration : Registration) (method : String)
    (parameters : Parameters) (cache : Route.Cache)
    (found : Except Net.LookupFault (List Net.Address)) (request : OutboundRequest)
    (received : Parameters) : Prop where
  filled : server.registry = Registry.empty.run operations
  registered : registration ∈ server.registry.registrations
  declared : registration.interface.declares method = true
  launched : (launch client (.fresh registration.interface.name method parameters) cache
    found).1.stage = .sending request
  unintercepted : server.chain.entries = []
  noHealthCheck : server.healthRoute ≠ some request.uri.path
  decodable : server.codec.decode request.body = .ok (.array received)

section Deliveries

variable {α : Type} {client : Client} {server : Endpoint.Server α}
  {operations : List Registry.Operation} {registration : Registration} {method : String}
  {parameters received : Parameters} {cache : Route.Cache}
  {found : Except Net.LookupFault (List Net.Address)} {request : OutboundRequest}
  (delivered : Delivered client server operations registration method parameters cache found
    request received)

include delivered

theorem Delivered.sound : server.registry.Sound := by
  rw [delivered.filled]
  exact Registry.sound_empty.run operations

theorem Delivered.asks : Endpoint.Asks server.codec request.toRequest
    (cleaned registration.interface.name) (cleaned method) received := by
  have requests := requests_launch rfl delivered.launched
  exact ⟨delivered.decodable, requests.interfaceName, requests.methodName⟩

theorem Delivered.admitted : Endpoint.Admitted server request.toRequest where
  unchecked := by simp [Endpoint.isHealthCheck, delivered.noHealthCheck]
  posted := (requests_launch rfl delivered.launched).method

theorem Delivered.events_serve (behaviour : Endpoint.Behaviour α) {events : List Endpoint.Event}
    (resolved : (Endpoint.resolve server.codec server.registry request.toRequest).events =
      events) :
    (Endpoint.serve behaviour server request.toRequest).events = events ∨
      (Endpoint.serve behaviour server request.toRequest).events = events ++ [.awaited] := by
  rw [Endpoint.serve_of_unintercepted delivered.unintercepted delivered.admitted, ← resolved]
  exact Endpoint.events_serveIntercepted server request.toRequest

/-- What a call finds is what answers to the names as the headers carry them. -/
theorem Delivered.of_target {wanted : Endpoint.Target}
    (isFound : Endpoint.target server.codec server.registry request.toRequest = .ok wanted) :
    registration.interface.name ≠ "" ∧ method ≠ "" ∧
      wanted.registration ∈ server.registry.registrations ∧
      wanted.registration.interface.answersTo (cleaned registration.interface.name) = true ∧
      wanted.method = cleaned method := by
  obtain ⟨interfaceGiven, methodGiven, stored, isStored, _, rfl⟩ :=
    (Endpoint.target_eq_ok_iff delivered.asks).mp isFound
  obtain ⟨member, named⟩ := delivered.sound.find?_eq_some_iff.mp isStored
  exact ⟨mt cleaned_eq_empty_iff.mpr interfaceGiven, mt cleaned_eq_empty_iff.mpr methodGiven,
    member, named, rfl⟩

/-- The interface that was meant is met exactly if its name is legible, and the method likewise. -/
theorem Delivered.meant_iff {wanted : Endpoint.Target}
    (isFound : Endpoint.target server.codec server.registry request.toRequest = .ok wanted) :
    (wanted.registration = registration ↔ Legible registration.interface.name) ∧
      (wanted.method = method ↔ Legible method) := by
  obtain ⟨interfaceGiven, methodGiven, stored, named, isMethod⟩ := delivered.of_target isFound
  constructor
  · constructor
    · intro meant
      rw [meant] at named
      exact ⟨interfaceGiven, answersTo_cleaned_iff.mp named⟩
    · intro legible
      have answers := answersTo_cleaned_iff.mpr legible.plain
      have own := delivered.sound.find?_eq_some_iff.mpr ⟨delivered.registered, answers⟩
      rw [delivered.sound.find?_eq_some_iff.mpr ⟨stored, named⟩] at own
      exact Option.some.inj own
  · rw [isMethod]
    exact ⟨fun kept => ⟨methodGiven, cleaned_eq_self_iff.mp kept⟩, Legible.cleaned_eq⟩

/-- A call with legible names finds what it means. -/
theorem Delivered.target_of_legible (interface : Legible registration.interface.name)
    (legible : Legible method) :
    Endpoint.target server.codec server.registry request.toRequest =
      .ok ⟨registration.interface.name, registration, method, received⟩ := by
  have asks := delivered.asks
  rw [interface.cleaned_eq, legible.cleaned_eq] at asks
  have own : registration.interface.answersTo registration.interface.name = true :=
    Registry.storedName_eq_iff.mp rfl
  have isStored := delivered.sound.find?_eq_some_iff.mpr ⟨delivered.registered, own⟩
  exact (Endpoint.target_eq_ok_iff asks).mpr
    ⟨interface.nonempty, legible.nonempty, registration, isStored, delivered.declared, rfl⟩

end Deliveries

/-- A method of a registered interface is reached by its name exactly if a header carries this name
and that of the interface as they are.  Then the call finds its registration and no other, and the
method is dispatched, and nothing else, on the object that the registration makes.  What a call
finds otherwise is not what it means. -/
theorem reached_iff_legible {α : Type} {client : Client} {server : Endpoint.Server α}
    {operations : List Registry.Operation} {registration : Registration} {method : String}
    {parameters received : Parameters} {cache : Route.Cache}
    {found : Except Net.LookupFault (List Net.Address)} {request : OutboundRequest}
    (delivered : Delivered client server operations registration method parameters cache found
      request received)
    (behaviour : Endpoint.Behaviour α) :
    let interface := registration.interface.name
    let target := Endpoint.target server.codec server.registry request.toRequest
    let resolved := Endpoint.resolve server.codec server.registry request.toRequest
    let served := Endpoint.serve behaviour server request.toRequest
    (target = .ok ⟨interface, registration, method, received⟩ ↔
        Legible interface ∧ Legible method) ∧
      (∀ wanted, target = .ok wanted →
        (wanted.registration = registration ↔ Legible interface) ∧
          (wanted.method = method ↔ Legible method)) ∧
      (Legible interface → Legible method → ∀ object,
        registration.instantiate.1 = .ok object →
        resolved.result = (object.dispatch method received).elim
            (.error (.notOnObject registration.className method)) .ok ∧
          .dispatched method received ∈ served.events ∧
          ∀ other others, .dispatched other others ∈ served.events →
            other = method ∧ others = received) := by
  intro interface target resolved served
  have meant : ∀ wanted, target = .ok wanted →
      (wanted.registration = registration ↔ Legible interface) ∧
        (wanted.method = method ↔ Legible method) := fun _ isFound => delivered.meant_iff isFound
  refine ⟨⟨fun isFound => ?_, fun legible => ?_⟩, meant, ?_⟩
  · exact ⟨(meant _ isFound).1.mp rfl, (meant _ isFound).2.mp rfl⟩
  · exact delivered.target_of_legible legible.1 legible.2
  · intro interfaceLegible methodLegible object made
    have isFound := delivered.target_of_legible interfaceLegible methodLegible
    obtain ⟨events, result⟩ := Endpoint.resolve_of_made isFound made
    have journal := delivered.events_serve behaviour events
    refine ⟨result, ?_, ?_⟩
    · rcases journal with journal | journal <;> simp [served, journal]
    · intro other others
      rcases journal with journal | journal <;> simp [served, journal]

/-- The sum of the calculator is reached. -/
theorem reached_iff_legible_calculator :
    let registration : Registration :=
      ⟨Sample.calculatorInterface, "SimpleCalc", Sample.always Sample.calculator, 1⟩
    let server : Endpoint.Server Unit :=
      ⟨.json, Registry.empty.run [.register Sample.calculatorInterface
        (Sample.always Sample.calculator)], none, .empty⟩
    let parameters : Parameters := [.integer (.ofInt64 2), .integer (.ofInt64 3)]
    Endpoint.target server.codec server.registry
        (loopbackRequest "SimpleCalc" "add" parameters).toRequest =
      .ok ⟨"SimpleCalc", registration, "add", parameters⟩ := by
  intro registration server parameters
  have legible : Legible "SimpleCalc" ∧ Legible "add" :=
    ⟨⟨by decide, cleaned_eq_self_iff.mp (by decide)⟩,
      ⟨by decide, cleaned_eq_self_iff.mp (by decide)⟩⟩
  have delivered : Delivered loopback server [.register Sample.calculatorInterface
      (Sample.always Sample.calculator)] registration "add" parameters .usual (.ok [])
      (loopbackRequest "SimpleCalc" "add" parameters) parameters :=
    { filled := rfl
      registered := List.mem_singleton.mpr rfl
      declared := by decide
      launched := launch_loopback "SimpleCalc" "add" parameters .usual (.ok [])
      unintercepted := rfl
      noHealthCheck := nofun
      decodable := rfl }
  exact (reached_iff_legible delivered
    fun _ _ request chain => (.ok (.proceed request), chain)).1.mpr legible

/-- A registration of an interface whose one method gives the name of the interface. -/
def namesake (name : String) : Registration where
  interface := Sample.interfaceOf name ["say"]
  className := name
  factory := Sample.always (Sample.objectOf name fun _ _ => some (.ofOutcome (.ok (.string name))))
  runs := 1

/-- Registers two interfaces the names of which a header cannot tell apart. -/
def namesakes : List Registry.Operation :=
  [.register (namesake "é").interface (namesake "é").factory,
    .register (namesake "?").interface (namesake "?").factory]

theorem run_namesakes :
    Registry.empty.run namesakes =
      (Registry.empty.adding (namesake "é")).adding (namesake "?") := by
  have sound : (Registry.empty.adding (namesake "é")).Sound :=
    Registry.sound_empty.run [.register (namesake "é").interface (namesake "é").factory]
  have free : (Registry.empty.adding (namesake "é")).Free (namesake "?").interface.name := by
    intro registration stored
    cases List.mem_singleton.mp stored
    decide
  have ready : Registry.prepare (namesake "?").interface (namesake "?").factory =
      .ok (namesake "?") := rfl
  exact Registry.perform_register_of_free sound free ready

/-- A call for one registered interface finds another. -/
theorem finds_namesake :
    let server : Endpoint.Server Unit := ⟨.json, Registry.empty.run namesakes, none, .empty⟩
    let request := loopbackRequest "é" "say" []
    Delivered loopback server namesakes (namesake "é") "say" [] .usual (.ok []) request [] ∧
      Endpoint.target server.codec server.registry request.toRequest =
        .ok ⟨"?", namesake "?", "say", []⟩ := by
  intro server request
  have stored : server.registry.registrations = [namesake "é", namesake "?"] :=
    congrArg Registry.registrations run_namesakes
  have delivered : Delivered loopback server namesakes (namesake "é") "say" [] .usual (.ok [])
      request [] :=
    { filled := rfl
      registered := by simp [stored]
      declared := by decide
      launched := launch_loopback "é" "say" [] .usual (.ok [])
      unintercepted := rfl
      noHealthCheck := nofun
      decodable := rfl }
  have isStored : server.registry.find? (cleaned "é") = some (namesake "?") :=
    delivered.sound.find?_eq_some_iff.mpr ⟨by simp [stored], by decide⟩
  exact ⟨delivered, (Endpoint.target_eq_ok_iff delivered.asks).mpr
    ⟨by decide, by decide, namesake "?", isStored, by decide, rfl⟩⟩

/-- An interface of which an object is made once only. -/
def onceMade : Registration :=
  { namesake "Echo" with
    factory := fun run => if run = 0 then (namesake "Echo").factory 0 else .error "used up" }

/-- Of the interfaces that are registered one is never found, as a call for it finds another; and
one is found, but no object is made on which a method could be dispatched. -/
theorem misses_method :
    (let server : Endpoint.Server Unit := ⟨.json, Registry.empty.run namesakes, none, .empty⟩
      let request := loopbackRequest "é" "say" []
      Delivered loopback server namesakes (namesake "é") "say" [] .usual (.ok []) request [] ∧
        Endpoint.target server.codec server.registry request.toRequest =
          .ok ⟨"?", namesake "?", "say", []⟩) ∧
      let operations := [.register onceMade.interface onceMade.factory]
      let server : Endpoint.Server Unit := ⟨.json, Registry.empty.run operations, none, .empty⟩
      let request := loopbackRequest "Echo" "say" []
      Delivered loopback server operations onceMade "say" [] .usual (.ok []) request [] ∧
        ∀ behaviour method parameters, .dispatched method parameters ∉
          (Endpoint.serve behaviour server request.toRequest).events := by
  refine ⟨finds_namesake, ?_⟩
  intro operations server request
  have delivered : Delivered loopback server operations onceMade "say" [] .usual (.ok [])
      request [] :=
    { filled := rfl
      registered := List.mem_singleton.mpr rfl
      declared := by decide
      launched := launch_loopback "Echo" "say" [] .usual (.ok [])
      unintercepted := rfl
      noHealthCheck := nofun
      decodable := rfl }
  have isFound := delivered.target_of_legible
    ⟨by decide, cleaned_eq_self_iff.mp (by decide)⟩
    ⟨by decide, cleaned_eq_self_iff.mp (by decide)⟩
  have events := Endpoint.events_resolve_of_unmade isFound rfl
  refine ⟨delivered, ?_⟩
  intro behaviour method parameters
  rcases delivered.events_serve behaviour events with journal | journal <;> simp [journal]

end Flight
end RemoteCall
