import RemoteCall.Service.Object

/-!
# The registry

A server knows its remote objects by interface.  For each call a factory makes a fresh object; the
first one it makes is checked at registration.  Names of interfaces are looked up without regard
to the case of ASCII letters, and the first registration of a name stays until all are cleared.
-/

namespace RemoteCall

/-- Makes an object on its first, second, … run, or fails with an explanation
(`RemoteObjectFactory`). -/
abbrev Factory := Nat → Except String RemoteObject

/-- A registered interface with the factory of its objects (`RemoteObjectRegistration`). -/
structure Registration where
  interface : Interface
  className : String
  factory : Factory
  /-- How often the factory has been run. -/
  runs : Nat

namespace Registration

/-- Makes an object, which counts as a run of the factory (`RemoteObjectRegistration::instantiate`).
-/
def instantiate (registration : Registration) : Except String RemoteObject × Registration :=
  (registration.factory registration.runs, { registration with runs := registration.runs + 1 })

end Registration

/-- Why an interface is not registered (`RegistryError`). -/
inductive RegistryFault where
  | alreadyRegistered (interface : String)
  | notImplemented (interface className : String)
  | invalidSignature (interface method : String)
  | instantiation (interface explanation : String)
  deriving DecidableEq, Repr

def RegistryFault.message : RegistryFault → String
  | .alreadyRegistered interface =>
      "Remote object implementing the interface " ++ interface ++ " is already registered."
  | .notImplemented interface className =>
      "Invalid remote object registration for " ++ interface ++ ", because " ++ className ++
        " does not implement " ++ interface ++ "."
  | .invalidSignature interface method =>
      interface ++ "::" ++ method ++ "() must declare a non-nullable deferred return."
  | .instantiation interface explanation =>
      "Invalid remote object registration for " ++ interface ++
        ", because its factory failed: " ++ explanation

/-- The registered interfaces, by their names in lower case (`RpcRegistry`). -/
structure Registry where
  entries : List (String × Registration)

namespace Registry

/-- The registry without any interface (`RpcRegistry::new`). -/
def empty : Registry := ⟨[]⟩

/-- The name under which an interface is stored. -/
def storedName (name : String) : String := Text.lowercaseAscii name

/-- The registration that a name leads to (`RpcRegistry::get_remote_object`). -/
def find? (registry : Registry) (name : String) : Option Registration :=
  registry.entries.lookup (storedName name)

/-- How many interfaces are registered (`RpcRegistry::len`). -/
def size (registry : Registry) : Nat := registry.entries.length

/-- Whether no interface is registered (`RpcRegistry::is_empty`). -/
def isEmpty (registry : Registry) : Bool := registry.entries.isEmpty

/-- First step of a registration: the name has to be free (in
`RpcRegistry::register_fallible_remote_object`). -/
def checkFree (registry : Registry) (interface : Interface) : Except RegistryFault Unit :=
  match registry.find? interface.name with
  | some _ => .error (.alreadyRegistered interface.name)
  | none => .ok ()

/-- Second step of a registration, which does not look at the registry: the factory has to make an
object that implements the interface, and all methods have to answer later (in
`RpcRegistry::register_fallible_remote_object`, with `check_methods_signature`). -/
def prepare (interface : Interface) (factory : Factory) : Except RegistryFault Registration :=
  match factory 0 with
  | .error explanation => .error (.instantiation interface.name explanation)
  | .ok sample =>
      if !sample.implements interface then
        .error (.notImplemented interface.name sample.className)
      else
        match interface.uncallable? with
        | some method => .error (.invalidSignature interface.name method.name)
        | none => .ok ⟨interface, sample.className, factory, 1⟩

/-- Last step of a registration: the name has to be free still (in
`RpcRegistry::register_fallible_remote_object`). -/
def commit (registry : Registry) (registration : Registration) : Except RegistryFault Registry :=
  match registry.checkFree registration.interface with
  | .error fault => .error fault
  | .ok () =>
      .ok ⟨registry.entries ++ [(storedName registration.interface.name, registration)]⟩

/-- Registers an interface, all three steps at once
(`RpcRegistry::register_fallible_remote_object`). -/
def register (registry : Registry) (interface : Interface) (factory : Factory) :
    Except RegistryFault Registry :=
  match registry.checkFree interface with
  | .error fault => .error fault
  | .ok () =>
      match prepare interface factory with
      | .error fault => .error fault
      | .ok registration => registry.commit registration

/-- Puts a registration in the place of the one stored under its name. -/
def update (registry : Registry) (name : String) (registration : Registration) : Registry :=
  ⟨registry.entries.map fun entry =>
    if entry.1 = storedName name then (entry.1, registration) else entry⟩

/-- Makes a fresh object of a registered interface. -/
def instantiate? (registry : Registry) (name : String) :
    Option (Except String RemoteObject × Registry) :=
  (registry.find? name).map fun registration =>
    let (made, registration) := registration.instantiate
    (made, registry.update name registration)

/-- Forgets all registrations (`RpcRegistry::clear_registry`). -/
def clear (_ : Registry) : Registry := empty

end Registry
end RemoteCall
