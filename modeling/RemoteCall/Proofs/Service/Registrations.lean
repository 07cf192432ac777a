import Mathlib.Data.List.Induction
import RemoteCall.Proofs.Text.Lowercase
import RemoteCall.Service.Registry

/-!
# Registrations over the life of a registry

A registry is filled, asked and cleared in any order, and other work may come into the middle of a
registration, because the factory of the new object runs before the registration is stored.  In all
that time an interface is stored once at most whatever the case of its name, only checked
registrations are stored, and looking a name up finds the interface that answers to it.  What is
stored first stays until the registry is cleared.
-/

namespace RemoteCall

/-- The methods answer later, and the object that was made first implements the interface. -/
structure Registration.Checked (registration : Registration) : Prop where
  deferred : ∀ method ∈ registration.interface.methods, method.returns = .deferred
  sampled : ∃ sample, registration.factory 0 = .ok sample ∧
    sample.implements registration.interface = true ∧
      sample.className = registration.className

theorem Interface.uncallable?_eq_none_iff {interface : Interface} :
    interface.uncallable? = none ↔ ∀ method ∈ interface.methods, method.returns = .deferred := by
  simp [uncallable?]

namespace Registry

section Names

theorem storedName_eq_iff {interface : Interface} {name : String} :
    storedName name = storedName interface.name ↔ interface.answersTo name = true := by
  rw [Interface.answersTo, Text.sameIgnoringCase_iff]
  exact eq_comm

/-- Letters beyond ASCII have no second form. -/
example : (Interface.mk "ÜberCalc" []).answersTo "üBERCALC" = false := by decide

end Names

/-- What happens to a registry (the methods of `RpcRegistry`). -/
inductive Operation where
  | register (interface : Interface) (factory : Factory)
  /-- The rest of a registration that found its name free before other operations came between. -/
  | complete (interface : Interface) (factory : Factory)
  | lookUp (name : String)
  /-- An object is made for a call. -/
  | instantiate (name : String)
  | clear

/-- What an operation makes of a registry, or why it is refused. -/
def attempt (registry : Registry) : Operation → Except RegistryFault Registry
  | .register interface factory => registry.register interface factory
  | .complete interface factory =>
      match prepare interface factory with
      | .error fault => .error fault
      | .ok registration => registry.commit registration
  | .lookUp _ => .ok registry
  | .instantiate name => .ok ((registry.instantiate? name).elim registry Prod.snd)
  | .clear => .ok registry.clear

/-- The registry after an operation; one that is refused leaves it as it is. -/
def perform (registry : Registry) (operation : Operation) : Registry :=
  match registry.attempt operation with
  | .ok next => next
  | .error _ => registry

def run (registry : Registry) (operations : List Operation) : Registry :=
  operations.foldl perform registry

/-- The stored registrations, in the order in which they came. -/
def registrations (registry : Registry) : List Registration := registry.entries.map Prod.snd

/-- No stored interface answers to a name. -/
def Free (registry : Registry) (name : String) : Prop :=
  ∀ registration ∈ registry.registrations, registration.interface.answersTo name = false

/-- The registry with one registration more. -/
def adding (registry : Registry) (registration : Registration) : Registry :=
  ⟨registry.entries ++ [(storedName registration.interface.name, registration)]⟩

/-- What a registration is found to be apart from its name: the factory runs, then what it has made
is looked at, and the methods last. -/
inductive Prepares (interface : Interface) (factory : Factory) :
    Except RegistryFault Registration → Prop where
  | unmade {explanation : String} (failed : factory 0 = .error explanation) :
      Prepares interface factory (.error (.instantiation interface.name explanation))
  | unimplemented {sample : RemoteObject} (made : factory 0 = .ok sample)
      (lacking : sample.implements interface = false) :
      Prepares interface factory (.error (.notImplemented interface.name sample.className))
  | uncallable {sample : RemoteObject} (made : factory 0 = .ok sample)
      (implemented : sample.implements interface = true) {method : Method}
      (first : interface.uncallable? = some method) :
      Prepares interface factory (.error (.invalidSignature interface.name method.name))
  | ready {sample : RemoteObject} (made : factory 0 = .ok sample)
      (implemented : sample.implements interface = true)
      (deferred : ∀ method ∈ interface.methods, method.returns = .deferred) :
      Prepares interface factory (.ok ⟨interface, sample.className, factory, 1⟩)

/-- What registering an interface comes to: the name is looked at before all else. -/
inductive Registers (registry : Registry) (interface : Interface) (factory : Factory) :
    Except RegistryFault Registry → Prop where
  | taken {registration : Registration} (stored : registration ∈ registry.registrations)
      (named : registration.interface.answersTo interface.name = true) :
      Registers registry interface factory (.error (.alreadyRegistered interface.name))
  | unready (free : registry.Free interface.name) {fault : RegistryFault}
      (unready : Prepares interface factory (.error fault)) :
      Registers registry interface factory (.error fault)
  | added (free : registry.Free interface.name) {registration : Registration}
      (ready : Prepares interface factory (.ok registration)) :
      Registers registry interface factory (.ok (registry.adding registration))

/-- A registry as it can be: stored by their names, the registrations differ in them, and each has
been checked. -/
structure Sound (registry : Registry) : Prop where
  keyed : ∀ entry ∈ registry.entries, entry.1 = storedName entry.2.interface.name
  distinct : (registry.entries.map Prod.fst).Nodup
  checked : ∀ entry ∈ registry.entries, entry.2.Checked

variable {registry next : Registry} {interface : Interface} {factory : Factory}
  {registration : Registration} {name : String}

section Lookups

theorem mem_of_find? (found : registry.find? name = some registration) :
    (storedName name, registration) ∈ registry.entries := by
  obtain ⟨earlier, later, split, _⟩ := List.lookup_eq_some_iff.mp found
  rw [split]
  exact List.mem_append_right earlier List.mem_cons_self

namespace Sound

variable (sound : registry.Sound)

include sound

/-- Looking a name up finds the stored interface that answers to it. -/
theorem find?_eq_some_iff :
    registry.find? name = some registration ↔
      registration ∈ registry.registrations ∧ registration.interface.answersTo name = true := by
  constructor
  · intro found
    have stored := mem_of_find? found
    exact ⟨List.mem_map_of_mem stored, storedName_eq_iff.mp (sound.keyed _ stored)⟩
  · rintro ⟨stored, named⟩
    obtain ⟨⟨key, value⟩, member, rfl⟩ := List.mem_map.mp stored
    have isKey : key = storedName name :=
      (sound.keyed _ member).trans (storedName_eq_iff.mpr named).symm
    rw [find?, ← isKey]
    exact Pairs.lookup_of_mem sound.distinct member

theorem find?_eq_none_iff : registry.find? name = none ↔ registry.Free name := by
  constructor
  · intro absent registration stored
    rw [← Bool.not_eq_true]
    intro named
    have found := sound.find?_eq_some_iff.mpr ⟨stored, named⟩
    rw [absent] at found
    cases found
  · intro free
    cases found : registry.find? name with
    | none => rfl
    | some registration =>
        obtain ⟨stored, named⟩ := sound.find?_eq_some_iff.mp found
        rw [free registration stored] at named
        cases named

/-- Of two stored interfaces neither answers to the name of the other. -/
theorem pairwise_registrations :
    registry.registrations.Pairwise fun first second =>
      first.interface.answersTo second.interface.name = false := by
  have differ := List.pairwise_map.mp sound.distinct
  refine List.pairwise_map.mpr (differ.imp_of_mem ?_)
  intro first second firstMember secondMember differ
  rw [← Bool.not_eq_true, ← storedName_eq_iff, ← sound.keyed first firstMember,
    ← sound.keyed second secondMember]
  exact Ne.symm differ

end Sound

end Lookups

section Steps

theorem sound_empty : Sound empty := ⟨nofun, List.nodup_nil, nofun⟩

theorem Sound.adding (sound : registry.Sound) (free : registry.Free registration.interface.name)
    (checked : registration.Checked) : (registry.adding registration).Sound where
  keyed entry member := by
    rcases List.mem_append.mp member with stored | new
    · exact sound.keyed entry stored
    · cases List.mem_singleton.mp new
      rfl
  distinct := by
    have fresh : storedName registration.interface.name ∉ registry.entries.map Prod.fst := by
      intro member
      obtain ⟨entry, stored, same⟩ := List.mem_map.mp member
      have named := storedName_eq_iff.mp (same.symm.trans (sound.keyed entry stored))
      rw [free entry.2 (List.mem_map_of_mem stored)] at named
      cases named
    rw [Registry.adding, List.map_append, List.nodup_append]
    refine ⟨sound.distinct, by simp, ?_⟩
    intro key stored other isNew
    rintro rfl
    cases List.mem_singleton.mp isNew
    exact fresh stored
  checked entry member := by
    rcases List.mem_append.mp member with stored | new
    · exact sound.checked entry stored
    · cases List.mem_singleton.mp new
      exact checked

theorem prepare_eq_iff {result : Except RegistryFault Registration} :
    prepare interface factory = result ↔ Prepares interface factory result := by
  constructor
  · rintro rfl
    cases made : factory 0 with
    | error explanation =>
        simp only [prepare, made]
        exact .unmade made
    | ok sample =>
        cases implemented : sample.implements interface with
        | false =>
            simp only [prepare, made, implemented]
            exact .unimplemented made implemented
        | true =>
            cases first : interface.uncallable? with
            | some method =>
                simp only [prepare, made, implemented, first]
                exact .uncallable made implemented first
            | none =>
                simp only [prepare, made, implemented, first]
                exact .ready made implemented (Interface.uncallable?_eq_none_iff.mp first)
  · intro prepares
    cases prepares with
    | unmade failed => simp [prepare, failed]
    | unimplemented made lacking => simp [prepare, made, lacking]
    | uncallable made implemented first => simp [prepare, made, implemented, first]
    | ready made implemented deferred =>
        simp [prepare, made, implemented, Interface.uncallable?_eq_none_iff.mpr deferred]

theorem Prepares.interface_eq (ready : Prepares interface factory (.ok registration)) :
    registration.interface = interface := by
  cases ready
  rfl

theorem Prepares.checked (ready : Prepares interface factory (.ok registration)) :
    registration.Checked := by
  cases ready with
  | ready made implemented deferred => exact ⟨deferred, _, made, implemented, rfl⟩

theorem Sound.checkFree_cases (sound : registry.Sound) (interface : Interface) :
    registry.checkFree interface = .ok () ∧ registry.Free interface.name ∨
      registry.checkFree interface = .error (.alreadyRegistered interface.name) ∧
        ∃ registration ∈ registry.registrations,
          registration.interface.answersTo interface.name = true := by
  cases found : registry.find? interface.name with
  | none =>
      exact Or.inl ⟨by rw [Registry.checkFree, found], sound.find?_eq_none_iff.mp found⟩
  | some registration =>
      refine Or.inr ⟨by rw [Registry.checkFree, found], registration, ?_⟩
      exact sound.find?_eq_some_iff.mp found

theorem Sound.update (sound : registry.Sound) (found : registry.find? name = some registration)
    (runs : Nat) : (registry.update name { registration with runs := runs }).Sound := by
  have stored := mem_of_find? found
  have entries : ∀ entry ∈ (registry.update name { registration with runs := runs }).entries,
      entry ∈ registry.entries ∨
        entry = (storedName name, { registration with runs := runs }) := by
    intro entry member
    obtain ⟨before, beforeMember, rfl⟩ := List.mem_map.mp member
    split
    · next same => exact Or.inr (by rw [same])
    · exact Or.inl beforeMember
  constructor
  · intro entry member
    rcases entries entry member with kept | rfl
    · exact sound.keyed entry kept
    · exact sound.keyed (storedName name, registration) stored
  · have sameKeys : (registry.update name { registration with runs := runs }).entries.map Prod.fst =
        registry.entries.map Prod.fst := by
      rw [Registry.update, List.map_map]
      apply List.map_congr_left
      intro entry _
      rw [Function.comp_apply]
      split <;> rfl
    rw [sameKeys]
    exact sound.distinct
  · intro entry member
    rcases entries entry member with kept | rfl
    · exact sound.checked entry kept
    · have checked := sound.checked (storedName name, registration) stored
      exact ⟨checked.deferred, checked.sampled⟩

/-- What becomes of a registry in one operation. -/
inductive Changes (registry : Registry) : Operation → Registry → Prop where
  | kept (operation : Operation) : Changes registry operation registry
  | added {operation : Operation} {registration : Registration}
      (free : registry.Free registration.interface.name) (checked : registration.Checked) :
      Changes registry operation (registry.adding registration)
  | ran {operation : Operation} {name : String} {registration : Registration}
      (found : registry.find? name = some registration) (runs : Nat) :
      Changes registry operation (registry.update name { registration with runs := runs })
  | cleared : Changes registry .clear empty

theorem Sound.commit_cases (sound : registry.Sound) (registration : Registration) :
    registry.Free registration.interface.name ∧
        registry.commit registration = .ok (registry.adding registration) ∨
      (∃ stored ∈ registry.registrations,
          stored.interface.answersTo registration.interface.name = true) ∧
        registry.commit registration = .error (.alreadyRegistered registration.interface.name) := by
  rw [commit]
  rcases sound.checkFree_cases registration.interface with ⟨isFree, free⟩ | ⟨isTaken, taken⟩
  · rw [isFree]
    exact Or.inl ⟨free, rfl⟩
  · rw [isTaken]
    exact Or.inr ⟨taken, rfl⟩

/-- Nothing comes between the two looks at the name, so the second one finds what the first one
found. -/
theorem Sound.register_of_free (sound : registry.Sound) (free : registry.Free interface.name) :
    registry.register interface factory = (prepare interface factory).map registry.adding := by
  have absent := sound.find?_eq_none_iff.mpr free
  simp only [register, checkFree, absent]
  cases prepared : prepare interface factory with
  | error fault => rfl
  | ok registration =>
      have isInterface := (prepare_eq_iff.mp prepared).interface_eq
      simp only [commit, checkFree, isInterface, absent]
      rw [Except.map, Registry.adding, isInterface]

/-- Registering an interface comes to exactly what its checks say, the first that fails deciding. -/
theorem Sound.register_eq_iff (sound : registry.Sound)
    {result : Except RegistryFault Registry} :
    registry.register interface factory = result ↔
      Registers registry interface factory result := by
  constructor
  · rintro rfl
    rcases sound.checkFree_cases interface with ⟨_, free⟩ | ⟨isTaken, stored, member, named⟩
    · rw [sound.register_of_free free]
      cases prepared : prepare interface factory with
      | error fault => exact .unready free (prepare_eq_iff.mp prepared)
      | ok registration => exact .added free (prepare_eq_iff.mp prepared)
    · rw [register, isTaken]
      exact .taken member named
  · intro registers
    cases registers with
    | taken stored named =>
        have found := sound.find?_eq_some_iff.mpr ⟨stored, named⟩
        simp only [register, checkFree, found]
    | unready free unready => rw [sound.register_of_free free, prepare_eq_iff.mpr unready]; rfl
    | added free ready => rw [sound.register_of_free free, prepare_eq_iff.mpr ready]; rfl

theorem Sound.changes (sound : registry.Sound) (operation : Operation) :
    Changes registry operation (registry.perform operation) := by
  cases operation with
  | register interface factory =>
      have registers := sound.register_eq_iff.mp (Eq.refl (registry.register interface factory))
      rw [perform, attempt]
      generalize registry.register interface factory = result at registers ⊢
      cases registers with
      | taken | unready => exact .kept _
      | added free ready =>
          rw [← ready.interface_eq] at free
          exact .added free ready.checked
  | complete interface factory =>
      rw [perform, attempt]
      cases prepared : prepare interface factory with
      | error fault => exact .kept _
      | ok registration =>
          dsimp only
          rcases sound.commit_cases registration with ⟨free, committed⟩ | ⟨_, committed⟩
          · rw [committed]
            exact .added free (prepare_eq_iff.mp prepared).checked
          · rw [committed]
            exact .kept _
  | lookUp name => exact .kept _
  | instantiate name =>
      rw [perform, attempt, instantiate?]
      cases found : registry.find? name with
      | none => exact .kept _
      | some registration => exact .ran found _
  | clear => exact .cleared

end Steps

section Runs

theorem Changes.sound {operation : Operation} (changes : Changes registry operation next)
    (sound : registry.Sound) : next.Sound := by
  cases changes with
  | kept => exact sound
  | added free checked => exact sound.adding free checked
  | ran found runs => exact sound.update found runs
  | cleared => exact sound_empty

theorem find?_adding (registry : Registry) (registration : Registration) (name : String) :
    (registry.adding registration).find? name =
      (registry.find? name).or
        (if registration.interface.answersTo name = true then some registration else none) := by
  simp only [← storedName_eq_iff]
  exact Pairs.lookup_concat _ _ _ _

theorem find?_update {other : String} {ran : Registration}
    (found : registry.find? other = some ran) (runs : Nat) (name : String) :
    (registry.update other { ran with runs := runs }).find? name =
      if storedName name = storedName other then some { ran with runs := runs }
      else registry.find? name := by
  refine (Pairs.lookup_replace registry.entries (storedName other) (storedName name) _).trans ?_
  by_cases same : storedName name = storedName other
  · rw [if_pos same, if_pos same, same]
    change (registry.find? other).map _ = _
    rw [found, Option.map_some]
  · rw [if_neg same, if_neg same]
    rfl

/-- What is stored under a name stays, whatever else is done, unless all are cleared. -/
theorem Changes.keeps {operation : Operation} (changes : Changes registry operation next)
    (uncleared : operation ≠ .clear) (found : registry.find? name = some registration) :
    ∃ runs, next.find? name = some { registration with runs := runs } := by
  cases changes with
  | kept => exact ⟨registration.runs, found⟩
  | added free checked =>
      refine ⟨registration.runs, ?_⟩
      rw [find?_adding, found, Option.some_or]
  | @ran _ other ran foundOther runs =>
      rw [find?_update foundOther]
      by_cases same : storedName name = storedName other
      · have isRan : registry.find? name = some ran := by rw [← foundOther, find?, same, find?]
        rw [found] at isRan
        cases isRan
        exact ⟨runs, if_pos same⟩
      · exact ⟨registration.runs, by rw [if_neg same, found]⟩
  | cleared => exact absurd rfl uncleared

/-- What is found after an operation was there before, or the operation has stored it. -/
theorem Changes.origin {operation : Operation} (changes : Changes registry operation next)
    (found : next.find? name = some registration) :
    (∃ runs, registry.find? name = some { registration with runs := runs }) ∨
      registry.Free registration.interface.name ∧ next = registry.adding registration ∧
        registration.interface.answersTo name = true := by
  cases changes with
  | kept => exact Or.inl ⟨registration.runs, found⟩
  | @added _ added free checked =>
      rw [find?_adding] at found
      cases before : registry.find? name with
      | some stored =>
          rw [before, Option.some_or] at found
          cases found
          exact Or.inl ⟨registration.runs, rfl⟩
      | none =>
          rw [before, Option.none_or] at found
          split at found
          · next named =>
              cases found
              exact Or.inr ⟨free, rfl, named⟩
          · cases found
  | @ran _ other ran foundOther runs =>
      rw [find?_update foundOther] at found
      split at found
      · next same =>
          cases found
          refine Or.inl ⟨ran.runs, ?_⟩
          rw [find?, same]
          exact foundOther
      · exact Or.inl ⟨registration.runs, found⟩
  | cleared => cases found

@[simp]
theorem run_nil : registry.run [] = registry := rfl

@[simp]
theorem run_cons (operation : Operation) (later : List Operation) :
    registry.run (operation :: later) = (registry.perform operation).run later := rfl

theorem run_append (registry : Registry) (earlier later : List Operation) :
    registry.run (earlier ++ later) = (registry.run earlier).run later :=
  List.foldl_append

theorem Sound.run (sound : registry.Sound) (operations : List Operation) :
    (registry.run operations).Sound := by
  induction operations generalizing registry with
  | nil => exact sound
  | cons operation later ih =>
      rw [run_cons]
      exact ih ((sound.changes operation).sound sound)

theorem Sound.find?_run (sound : registry.Sound) {operations : List Operation}
    (uncleared : Operation.clear ∉ operations)
    (found : registry.find? name = some registration) :
    ∃ runs, (registry.run operations).find? name = some { registration with runs := runs } := by
  induction operations generalizing registry registration with
  | nil => exact ⟨registration.runs, found⟩
  | cons operation later ih =>
      rw [List.mem_cons, not_or] at uncleared
      have changes := sound.changes operation
      obtain ⟨runs, kept⟩ := changes.keeps (Ne.symm uncleared.1) found
      obtain ⟨total, stays⟩ := ih (changes.sound sound) uncleared.2 kept
      exact ⟨total, stays⟩

/-- All registrations go at once, and every name is free again. -/
theorem clear_frees (registry : Registry) :
    registry.clear.registrations = [] ∧
      ∀ name, registry.clear.Free name ∧ registry.clear.find? name = none :=
  ⟨rfl, fun _ => ⟨nofun, rfl⟩⟩

/-- Nothing that was done before all were cleared counts any more. -/
theorem run_cleared (registry : Registry) (earlier later : List Operation) :
    registry.run (earlier ++ .clear :: later) = empty.run later := by
  rw [run_append, run_cons]
  rfl

/-- An operation of a run stores a registration: its name is free then, and the registry is not
cleared later. -/
structure Stores (operations earlier : List Operation) (operation : Operation)
    (later : List Operation) (registration : Registration) : Prop where
  split : operations = earlier ++ operation :: later
  free : (empty.run earlier).Free registration.interface.name
  stored : (empty.run earlier).attempt operation =
    .ok ((empty.run earlier).adding registration)
  uncleared : .clear ∉ later

theorem Stores.concat {operations earlier later : List Operation} {operation last : Operation}
    (stores : Stores operations earlier operation later registration) (uncleared : last ≠ .clear) :
    Stores (operations ++ [last]) earlier operation (later ++ [last]) registration where
  split := by rw [stores.split, List.append_assoc, List.cons_append]
  free := stores.free
  stored := stores.stored
  uncleared member := by
    rcases List.mem_append.mp member with before | isLast
    · exact stores.uncleared before
    · exact uncleared (List.mem_singleton.mp isLast).symm

/-- A registry that has changed was not refused the change. -/
theorem attempt_of_adding {operation : Operation}
    (added : registry.perform operation = registry.adding registration) :
    registry.attempt operation = .ok (registry.adding registration) := by
  rw [perform] at added
  cases attempted : registry.attempt operation with
  | ok next =>
      rw [attempted] at added
      rw [← added]
  | error fault =>
      rw [attempted] at added
      have longer := congrArg (List.length ∘ Registry.entries) added
      simp [Registry.adding] at longer

/-- What is found under a name is what some operation has stored since the last clearing. -/
theorem exists_stores {operations : List Operation}
    (found : (empty.run operations).find? name = some registration) :
    ∃ earlier operation later stored, Stores operations earlier operation later stored ∧
      stored.interface.answersTo name = true ∧
        ∃ runs, registration = { stored with runs := runs } := by
  induction operations using List.reverseRecOn generalizing registration with
  | nil => cases found
  | append_singleton operations last ih =>
      rw [run_append, run_cons, run_nil] at found
      by_cases isClear : last = .clear
      · rw [isClear] at found
        cases found
      · have changes := (sound_empty.run operations).changes last
        rcases changes.origin found with ⟨runs, before⟩ | ⟨free, added, named⟩
        · obtain ⟨earlier, operation, later, stored, stores, named, total, same⟩ := ih before
          refine ⟨earlier, operation, _, stored, stores.concat isClear, named,
            registration.runs, ?_⟩
          cases registration
          cases same
          rfl
        · exact ⟨operations, last, [], registration,
            ⟨rfl, free, attempt_of_adding added, nofun⟩, named, registration.runs, rfl⟩

/-- What an operation has stored is found until the registry is cleared. -/
theorem Stores.find? {operations earlier later : List Operation} {operation : Operation}
    (stores : Stores operations earlier operation later registration)
    (named : registration.interface.answersTo name = true) :
    ∃ runs, (empty.run operations).find? name = some { registration with runs := runs } := by
  have sound := sound_empty.run earlier
  have absent : (empty.run earlier).find? name = none := by
    rw [Registry.find?, storedName_eq_iff.mpr named]
    exact sound.find?_eq_none_iff.mpr stores.free
  have performed : (empty.run earlier).perform operation =
      (empty.run earlier).adding registration := by
    rw [perform, stores.stored]
  have stored : ((empty.run earlier).perform operation).find? name = some registration := by
    rw [performed, find?_adding, absent, Option.none_or, if_pos named]
  have kept := ((sound.changes operation).sound sound).find?_run stores.uncleared stored
  rw [stores.split, run_append, run_cons]
  exact kept

end Runs

theorem perform_of_refused {operation : Operation} {fault : RegistryFault}
    (refused : registry.attempt operation = .error fault) :
    registry.perform operation = registry := by
  rw [perform, refused]

/-- Whatever is done to a registry that was empty, no two of its interfaces have one name, all of
them have been checked, and names are looked up by the interfaces that answer to them.  Registering
adds one entry at the end or is refused for the first reason that there is, and then the registry
stays as it is.  A stored interface stays with its factory until the registry is cleared.  Clearing
leaves nothing stored and every name free, and the registry goes on from there like a new one; so
what is found under a name is always the first that was stored there since the last clearing. -/
theorem first_registration_stays (operations : List Operation) :
    let registry := empty.run operations
    (registry.registrations.Pairwise fun first second =>
        first.interface.answersTo second.interface.name = false) ∧
      (∀ registration ∈ registry.registrations, registration.Checked) ∧
      (∀ name registration, registry.find? name = some registration ↔
        registration ∈ registry.registrations ∧ registration.interface.answersTo name = true) ∧
      (∀ interface factory result, registry.register interface factory = result ↔
        Registers registry interface factory result) ∧
      (∀ operation fault, registry.attempt operation = .error fault →
        registry.perform operation = registry) ∧
      (∀ later name registration, Operation.clear ∉ later →
        registry.find? name = some registration →
          ∃ runs, (registry.run later).find? name =
            some { registration with runs := runs }) ∧
      (registry.attempt .clear = .ok registry.clear ∧ registry.clear.registrations = [] ∧
        ∀ name, registry.clear.Free name ∧ registry.clear.find? name = none) ∧
      (∀ earlier later, operations = earlier ++ .clear :: later → registry = empty.run later) ∧
      (∀ name registration, registry.find? name = some registration →
        ∃ earlier operation later stored, Stores operations earlier operation later stored ∧
          stored.interface.answersTo name = true ∧
            ∃ runs, registration = { stored with runs := runs }) ∧
      ∀ name earlier operation later stored, Stores operations earlier operation later stored →
        stored.interface.answersTo name = true →
          ∃ runs, registry.find? name = some { stored with runs := runs } := by
  intro registry
  have sound : registry.Sound := sound_empty.run operations
  refine ⟨sound.pairwise_registrations, ?_, ?_, ?_, ?_, ?_, ?_, ?_, ?_, ?_⟩
  · intro registration stored
    obtain ⟨entry, member, rfl⟩ := List.mem_map.mp stored
    exact sound.checked entry member
  · exact fun name registration => sound.find?_eq_some_iff
  · exact fun interface factory result => sound.register_eq_iff
  · exact fun operation fault => perform_of_refused
  · exact fun later name registration uncleared => sound.find?_run uncleared
  · exact ⟨rfl, clear_frees registry⟩
  · rintro earlier later rfl
    exact run_cleared empty earlier later
  · exact fun name registration => exists_stores
  · exact fun name earlier operation later stored stores => stores.find?

end Registry
end RemoteCall
