import RemoteCall.Proofs.Service.Registrations

/-!
# A registration step by step

A registration takes three steps: its name is found free, its object is made and checked, and it is
stored if its name is free still.  The registry is open to others between these steps, so what a
step has found out has to be such that it stays true while the registry grows.
-/

namespace RemoteCall

namespace Registry

variable {registry next : Registry}

/-- What a registry has become without being cleared. -/
def Grows (registry next : Registry) : Prop :=
  ∃ operation, operation ≠ .clear ∧ Changes registry operation next

theorem Grows.refl (registry : Registry) : Grows registry registry :=
  ⟨.lookUp "", nofun, .kept _⟩

theorem Grows.sound (grows : Grows registry next) (sound : registry.Sound) : next.Sound := by
  obtain ⟨operation, _, changes⟩ := grows
  exact changes.sound sound

theorem Grows.keeps (grows : Grows registry next) {name : String} {registration : Registration}
    (found : registry.find? name = some registration) :
    ∃ runs, next.find? name = some { registration with runs := runs } := by
  obtain ⟨operation, uncleared, changes⟩ := grows
  exact changes.keeps uncleared found

theorem Grows.taken (grows : Grows registry next) {name : String}
    (taken : registry.find? name ≠ none) : next.find? name ≠ none := by
  obtain ⟨registration, found⟩ := Option.ne_none_iff_exists'.mp taken
  obtain ⟨runs, kept⟩ := grows.keeps found
  rw [kept]
  nofun

/-- All names that an interface answers to are looked up in one place. -/
theorem find?_of_answersTo {interface : Interface} {name : String}
    (named : interface.answersTo name = true) :
    registry.find? interface.name = registry.find? name := by
  rw [find?, find?, storedName_eq_iff.mpr named]

/-- Making an object stores nothing under a name that is free. -/
theorem find?_perform_instantiate {name : String} (free : registry.find? name = none)
    (other : String) : (registry.perform (.instantiate other)).find? name = none := by
  rw [perform, attempt, instantiate?]
  cases found : registry.find? other with
  | none => exact free
  | some registration =>
      have replaced : (registry.update other registration.instantiate.2).find? name = _ :=
        Pairs.lookup_replace registry.entries (storedName other) (storedName name) _
      change (registry.update other registration.instantiate.2).find? name = none
      rw [replaced]
      change (if _ then (registry.find? name).map _ else registry.find? name) = none
      rw [free, Option.map_none, ite_self]

end Registry

/-- An interface that is to be registered, with the factory of its objects (the arguments of
`RpcRegistry::register_fallible_remote_object`). -/
structure Application where
  interface : Interface
  factory : Factory

namespace Application

/-- How far a registration has come: the points of `RpcRegistry::register_fallible_remote_object`
between which it holds no lock. -/
inductive Progress where
  | begun
  /-- The name has been found free. -/
  | unopposed
  /-- The object has been made and checked. -/
  | prepared (registration : Registration)
  | ended (result : Except RegistryFault Unit)

/-- What the checks of an application say, whatever the registry holds. -/
def prepare (application : Application) : Except RegistryFault Registration :=
  Registry.prepare application.interface application.factory

/-- Why an application is refused whose name is taken. -/
def opposition (application : Application) : RegistryFault :=
  .alreadyRegistered application.interface.name

/-- The next step of a registration, and the registry after it
(`RpcRegistry::register_fallible_remote_object` from one of its points to the next). -/
def step (application : Application) (registry : Registry) : Progress → Progress × Registry
  | .begun =>
      match registry.checkFree application.interface with
      | .error fault => (.ended (.error fault), registry)
      | .ok () => (.unopposed, registry)
  | .unopposed =>
      match application.prepare with
      | .error fault => (.ended (.error fault), registry)
      | .ok registration => (.prepared registration, registry)
  | .prepared registration =>
      match registry.commit registration with
      | .error fault => (.ended (.error fault), registry)
      | .ok next => (.ended (.ok ()), next)
  | .ended result => (.ended result, registry)

/-- A registration after a number of steps with nothing between them. -/
def steps (application : Application) : Nat → Progress × Registry → Progress × Registry
  | 0, state => state
  | count + 1, state => application.steps count (application.step state.2 state.1)

/-- Three steps with nothing between them are what registering an interface is. -/
theorem steps_three (application : Application) (registry : Registry) :
    application.steps 3 (.begun, registry) =
      match registry.register application.interface application.factory with
      | .ok next => (.ended (.ok ()), next)
      | .error fault => (.ended (.error fault), registry) := by
  simp only [steps, step, Registry.register, prepare]
  cases registry.checkFree application.interface with
  | error fault => rfl
  | ok free =>
      cases Registry.prepare application.interface application.factory with
      | error fault => rfl
      | ok registration =>
          dsimp only
          cases registry.commit registration <;> rfl

variable {application : Application} {registry next : Registry} {progress after : Progress}

/-- How a step of a registration can go. -/
inductive Goes (application : Application) (registry : Registry) :
    Progress → Progress × Registry → Prop where
  | opposed (taken : registry.find? application.interface.name ≠ none) :
      Goes application registry .begun (.ended (.error application.opposition), registry)
  | unopposed (free : registry.find? application.interface.name = none) :
      Goes application registry .begun (.unopposed, registry)
  | unfit {fault : RegistryFault} (unfit : application.prepare = .error fault) :
      Goes application registry .unopposed (.ended (.error fault), registry)
  | fit {registration : Registration} (fit : application.prepare = .ok registration) :
      Goes application registry .unopposed (.prepared registration, registry)
  | late {registration : Registration}
      (taken : registry.find? registration.interface.name ≠ none) :
      Goes application registry (.prepared registration)
        (.ended (.error (.alreadyRegistered registration.interface.name)), registry)
  | stored {registration : Registration}
      (free : registry.find? registration.interface.name = none) :
      Goes application registry (.prepared registration)
        (.ended (.ok ()), registry.adding registration)
  | finished (result : Except RegistryFault Unit) :
      Goes application registry (.ended result) (.ended result, registry)

theorem goes (application : Application) (registry : Registry) (progress : Progress) :
    Goes application registry progress (application.step registry progress) := by
  cases progress with
  | begun =>
      rw [step, Registry.checkFree]
      cases found : registry.find? application.interface.name with
      | some registration => exact .opposed (by rw [found]; exact Option.some_ne_none _)
      | none => exact .unopposed found
  | unopposed =>
      rw [step]
      cases prepared : application.prepare with
      | error fault => exact .unfit prepared
      | ok registration => exact .fit prepared
  | prepared registration =>
      rw [step, Registry.commit, Registry.checkFree]
      cases found : registry.find? registration.interface.name with
      | some other => exact .late (by rw [found]; exact Option.some_ne_none _)
      | none => exact .stored found
  | ended result => exact .finished result

theorem interface_of_prepare {registration : Registration}
    (prepared : application.prepare = .ok registration) :
    registration.interface = application.interface :=
  (Registry.prepare_eq_iff.mp prepared).interface_eq

/-- What has been found out about an application whose registration has come so far. -/
def Honest (application : Application) (registry : Registry) : Progress → Prop
  | .begun | .unopposed => True
  | .prepared registration => application.prepare = .ok registration
  | .ended (.ok _) => ∃ registration runs, application.prepare = .ok registration ∧
      registry.find? application.interface.name = some { registration with runs := runs }
  | .ended (.error fault) => application.prepare = .error fault ∨
      fault = application.opposition ∧ registry.find? application.interface.name ≠ none

/-- What has been found out stays true. -/
theorem Honest.grows (honest : application.Honest registry progress)
    (grows : Registry.Grows registry next) : application.Honest next progress := by
  cases progress with
  | begun | unopposed => trivial
  | prepared registration => exact honest
  | ended result =>
      cases result with
      | ok stored =>
          obtain ⟨registration, _, prepared, found⟩ := honest
          obtain ⟨runs, kept⟩ := grows.keeps found
          exact ⟨registration, runs, prepared, kept⟩
      | error fault =>
          rcases honest with unfit | ⟨isFault, taken⟩
          · exact Or.inl unfit
          · exact Or.inr ⟨isFault, grows.taken taken⟩

theorem Goes.grows (goes : application.Goes registry progress (after, next))
    (sound : registry.Sound) (honest : application.Honest registry progress) :
    Registry.Grows registry next := by
  cases goes with
  | stored free =>
      have prepared := Registry.prepare_eq_iff.mp honest
      exact ⟨.lookUp "", nofun, .added (sound.find?_eq_none_iff.mp free) prepared.checked⟩
  | opposed | unopposed | unfit | fit | late | finished => exact .refl registry

theorem Goes.honest (goes : application.Goes registry progress (after, next))
    (honest : application.Honest registry progress) : application.Honest next after := by
  cases goes with
  | opposed taken => exact Or.inr ⟨rfl, taken⟩
  | unopposed => trivial
  | unfit unfit => exact Or.inl unfit
  | fit fit => exact fit
  | late taken =>
      rw [interface_of_prepare honest] at taken ⊢
      exact Or.inr ⟨rfl, taken⟩
  | @stored registration free =>
      have named : registration.interface.answersTo application.interface.name = true := by
        rw [interface_of_prepare honest]
        exact Registry.storedName_eq_iff.mp rfl
      rw [interface_of_prepare honest] at free
      refine ⟨registration, registration.runs, honest, ?_⟩
      rw [Registry.find?_adding, free, Option.none_or, if_pos named]
  | finished => exact honest

/-- Only the step that finds the name free once more stores a registration. -/
theorem Goes.won {state : Progress × Registry} (goes : application.Goes registry progress state)
    (honest : application.Honest registry progress) (won : state.1 = .ended (.ok ())) :
    progress = .ended (.ok ()) ∨ registry.find? application.interface.name = none := by
  cases goes with
  | stored free =>
      rw [interface_of_prepare honest] at free
      exact Or.inr free
  | finished => exact Or.inl won
  | opposed | unopposed | unfit | fit | late => cases won

/-- A name that was free is taken by a step only if the step wins it. -/
theorem Goes.earned (goes : application.Goes registry progress (after, next)) {name : String}
    (honest : application.Honest registry progress) (free : registry.find? name = none)
    (taken : next.find? name ≠ none) :
    application.interface.answersTo name = true ∧ after = .ended (.ok ()) := by
  cases goes with
  | @stored registration =>
      rw [Registry.find?_adding, free, Option.none_or, interface_of_prepare honest] at taken
      exact ⟨Decidable.byContradiction fun differs => taken (if_neg differs), rfl⟩
  | opposed | unopposed | unfit | fit | late | finished => exact absurd free taken

/-- How many steps a registration has before it at most. -/
def Progress.remaining : Progress → Nat
  | .begun => 3
  | .unopposed => 2
  | .prepared _ => 1
  | .ended _ => 0

theorem Progress.exists_of_remaining (none : progress.remaining = 0) :
    ∃ result, progress = .ended result := by
  cases progress with
  | ended result => exact ⟨result, rfl⟩
  | begun | unopposed | prepared => cases none

theorem Goes.remaining {state : Progress × Registry}
    (goes : application.Goes registry progress state) :
    state.1.remaining ≤ progress.remaining - 1 := by
  cases goes <;> simp [Progress.remaining]

end Application

end RemoteCall
