import RemoteCall.Pairs
import RemoteCall.Proofs.Flight.Errands
import RemoteCall.Proofs.Flight.Launch

/-!
# Stubs and the proxies that share them

A factory keeps the first interface that it is given under each name and never replaces it.  All
proxies of one name therefore stand for the same interface, each with a client of its own.  A proxy
has the name that it was asked for, and the methods that were declared when this name was first
used; if the name has been used for something else before, these are not the methods that it was
asked for.
-/

namespace RemoteCall

namespace Interface

theorem declares_iff (interface : Interface) (name : String) :
    interface.declares name = true ↔ name ∈ interface.methodNames := by
  rw [declares, method?, List.find?_isSome, methodNames, List.mem_map]
  simp only [beq_iff_eq]

end Interface

namespace BoundProxy

open Flight

variable {interface : Interface} {method : String}

/-- What has become of an order after some events. -/
def course (bound : BoundProxy) (method : String) (parameters : Parameters) (cache : Route.Cache)
    (events : List Event) : Errand × Route.Cache :=
  let started := bound.invoke method parameters cache
  Errand.run bound.client started.1 started.2 events

/-- Every order for the method becomes a call. -/
def Accepts (bound : BoundProxy) (method : String) : Prop :=
  ∀ parameters cache, ∃ flight, (bound.invoke method parameters cache).1 = .underway flight

/-- A proxy for an interface and a client.  An order for a method of the interface is one call of
the client under the name of the interface, from its start to its end; every other order is refused,
and nothing is sent or looked up for it.  Arguments that form a list are taken for this list. -/
structure Offers (bound : BoundProxy) (client : Client) (interface : Interface) : Prop where
  available : bound.proxy.interface.methodNames = interface.methodNames
  accepted : ∀ method ∈ interface.methodNames, ∀ parameters cache events,
    let begun := start client (.fresh interface.name method parameters) cache
    let flown := run client begun.1 begun.2 events
    bound.course method parameters cache events = (.underway flown.1, flown.2)
  refused : ∀ method ∉ interface.methodNames, ∀ parameters cache events,
    bound.course method parameters cache events =
      (.refused (.undeclared interface.name method), cache)
  listed : ∀ arguments parameters, Proxy.Lists arguments parameters → ∀ method cache,
    bound.call method arguments cache = bound.invoke method parameters cache

theorem invoke_declared (declared : method ∈ interface.methodNames)
    (client : Client) (parameters : Parameters) (cache : Route.Cache) :
    invoke ⟨client, ⟨interface⟩⟩ method parameters cache =
      let begun := start client (.fresh interface.name method parameters) cache
      (.underway begun.1, begun.2) := by
  rw [invoke, Proxy.invoke, if_pos ((interface.declares_iff method).mpr declared)]
  rfl

theorem invoke_undeclared (undeclared : method ∉ interface.methodNames)
    (client : Client) (parameters : Parameters) (cache : Route.Cache) :
    invoke ⟨client, ⟨interface⟩⟩ method parameters cache =
      (.refused (.undeclared interface.name method), cache) := by
  rw [invoke, Proxy.invoke, if_neg (mt (interface.declares_iff method).mp undeclared)]
  rfl

theorem offers (client : Client) (interface : Interface) :
    Offers ⟨client, ⟨interface⟩⟩ client interface where
  available := rfl
  accepted method declared parameters cache events := by
    rw [course, invoke_declared declared]
    exact Errand.run_underway client _ _ events
  refused method undeclared parameters cache events := by
    rw [course, invoke_undeclared undeclared]
    exact Errand.run_refused client _ cache events
  listed arguments parameters lists method cache := by
    rw [call, Proxy.call, Proxy.parameters_of_lists lists]
    rfl

theorem accepts_iff (bound : BoundProxy) (method : String) :
    bound.Accepts method ↔ method ∈ bound.proxy.interface.methodNames := by
  constructor
  · intro accepts
    by_cases declared : method ∈ bound.proxy.interface.methodNames
    · exact declared
    · obtain ⟨flight, underway⟩ := accepts [] .usual
      rw [invoke_undeclared declared] at underway
      cases underway
  · intro declared parameters cache
    rw [invoke_declared declared]
    exact ⟨_, rfl⟩

end BoundProxy

namespace ProxyFactory

open Flight

/-- What a proxy is asked for with (the arguments of `RpcProxyFactory::create_proxy`). -/
structure Creation where
  client : Client
  interface : Interface

/-- The proxies that a factory makes one after another. -/
def createAll (factory : ProxyFactory) : List Creation → List BoundProxy × ProxyFactory
  | [] => ([], factory)
  | creation :: later =>
      let (bound, factory) := factory.createFor creation.client creation.interface
      let (others, factory) := factory.createAll later
      (bound :: others, factory)

/-- The interface that proxies of a name stand for: the first one of this name, which is the one
asked for if its name is new. -/
def standing (earlier : List Creation) (interface : Interface) : Interface :=
  ((earlier.map Creation.interface).find? (·.name == interface.name)).getD interface

variable {earlier : List Creation} {interface : Interface}

theorem standing_cases (earlier : List Creation) (interface : Interface) :
    standing earlier interface = interface ∨ ∃ before ∈ earlier,
      before.interface.name = interface.name ∧ standing earlier interface = before.interface := by
  rw [standing]
  cases found : (earlier.map Creation.interface).find? (·.name == interface.name) with
  | none => exact Or.inl rfl
  | some first =>
      obtain ⟨before, member, rfl⟩ := List.mem_map.mp (List.mem_of_find?_eq_some found)
      have named : before.interface.name = interface.name := by
        simpa using List.find?_some found
      exact Or.inr ⟨before, member, named, rfl⟩

theorem standing_name (earlier : List Creation) (interface : Interface) :
    (standing earlier interface).name = interface.name := by
  rcases standing_cases earlier interface with same | ⟨before, _, named, isBefore⟩
  · rw [same]
  · rw [isBefore, named]

theorem standing_of_agree (agree : ∀ before ∈ earlier,
    before.interface.name = interface.name → before.interface = interface) :
    standing earlier interface = interface := by
  rcases standing_cases earlier interface with same | ⟨before, member, named, isBefore⟩
  · exact same
  · rw [isBefore, agree before member named]

theorem createFor_bound (factory : ProxyFactory) (client : Client) (interface : Interface) :
    (factory.createFor client interface).1 =
      ⟨client, ⟨(factory.stubs.lookup interface.name).getD interface⟩⟩ := by
  rw [createFor, create]
  cases factory.stubs.lookup interface.name <;> rfl

/-- A new proxy leaves a stub behind, unless there is one of its name. -/
theorem lookup_create (factory : ProxyFactory) (interface : Interface) (name : String) :
    (factory.create interface).2.stubs.lookup name =
      (factory.stubs.lookup name).or (if name = interface.name then some interface else none) := by
  rw [create]
  cases found : factory.stubs.lookup interface.name with
  | none => exact Pairs.lookup_concat factory.stubs interface.name name interface
  | some stub =>
      by_cases same : name = interface.name
      · rw [same, found, Option.some_or]
      · rw [if_neg same, Option.or_none]

/-- The stub of a name is the one that was there, or else the first interface of that name. -/
theorem lookup_createAll (factory : ProxyFactory) (creations : List Creation) (name : String) :
    (factory.createAll creations).2.stubs.lookup name = (factory.stubs.lookup name).or
      ((creations.map Creation.interface).find? (·.name == name)) := by
  induction creations generalizing factory with
  | nil => rw [createAll, List.map_nil, List.find?_nil, Option.or_none]
  | cons creation later ih =>
      rw [createAll, List.map_cons, List.find?_cons]
      refine (ih _).trans ?_
      rw [createFor, lookup_create, Option.or_assoc]
      by_cases same : name = creation.interface.name
      · simp [same]
      · have unequal : (creation.interface.name == name) = false := by
          simpa using Ne.symm same
        rw [if_neg same, Option.none_or, unequal]

theorem createAll_append (factory : ProxyFactory) (earlier later : List Creation) :
    factory.createAll (earlier ++ later) =
      ((factory.createAll earlier).1 ++ ((factory.createAll earlier).2.createAll later).1,
        ((factory.createAll earlier).2.createAll later).2) := by
  induction earlier generalizing factory with
  | nil => rfl
  | cons creation earlier ih =>
      rw [List.cons_append, createAll]
      dsimp only
      rw [ih]
      rfl

theorem length_createAll (factory : ProxyFactory) (creations : List Creation) :
    (factory.createAll creations).1.length = creations.length := by
  induction creations generalizing factory with
  | nil => rfl
  | cons creation later ih => exact congrArg Nat.succ (ih _)

/-- The proxy that a new factory makes after others. -/
theorem getElem?_createAll (earlier later : List Creation) (creation : Creation) :
    (empty.createAll (earlier ++ creation :: later)).1[earlier.length]? =
      some ⟨creation.client, ⟨standing earlier creation.interface⟩⟩ := by
  have found : (empty.createAll earlier).2.stubs.lookup creation.interface.name =
      (earlier.map Creation.interface).find? (·.name == creation.interface.name) :=
    lookup_createAll empty earlier creation.interface.name
  rw [createAll_append, List.getElem?_append_right (Nat.le_of_eq (length_createAll _ _)),
    length_createAll, Nat.sub_self, standing, ← found, ← createFor_bound]
  rfl

/-- Whatever a factory has been asked for before, a proxy stands for the first interface of the name
that it is asked for with, and for the client that it is asked for with.  It accepts exactly the
methods of that first interface, and it offers just the interface that it is asked for with if no
other one has had its name before. -/
theorem offers_as_first_named (earlier later : List Creation) (creation : Creation) :
    let made := (empty.createAll (earlier ++ creation :: later)).1
    let interface := standing earlier creation.interface
    ∃ bound, made[earlier.length]? = some bound ∧
      bound.Offers creation.client interface ∧ interface.name = creation.interface.name ∧
      (∀ method, bound.Accepts method ↔ method ∈ interface.methodNames) ∧
      ((∀ before ∈ earlier, before.interface.name = creation.interface.name →
          before.interface = creation.interface) →
        bound.Offers creation.client creation.interface) := by
  intro made interface
  refine ⟨_, getElem?_createAll earlier later creation, BoundProxy.offers _ _,
    standing_name earlier creation.interface, BoundProxy.accepts_iff _, fun agree => ?_⟩
  rw [standing_of_agree agree]
  exact BoundProxy.offers _ _

/-- The second interface of a name is not what its proxy offers. -/
theorem not_offers_namesake :
    let adder : Interface := ⟨"Calc", [⟨"add", .deferred⟩]⟩
    let subtracter : Interface := ⟨"Calc", [⟨"sub", .deferred⟩]⟩
    ∃ first second,
      (empty.createAll [⟨loopback, adder⟩, ⟨loopback, subtracter⟩]).1 = [first, second] ∧
      ("sub" ∈ subtracter.methodNames ∧ ¬second.Accepts "sub") ∧
      ("add" ∉ subtracter.methodNames ∧ second.Accepts "add") := by
  intro adder subtracter
  refine ⟨⟨loopback, ⟨adder⟩⟩, ⟨loopback, ⟨adder⟩⟩, by rfl, ⟨by decide, ?_⟩, by decide, ?_⟩
  · rw [BoundProxy.accepts_iff]
    decide
  · rw [BoundProxy.accepts_iff]
    decide

end ProxyFactory
end RemoteCall
