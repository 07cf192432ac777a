import RemoteCall.Text.Lowercase

/-!
# Interfaces

An interface has a name and a list of methods.  Each method declares how it answers: later, later
or not at all, or at once.  Only methods that answer later can be called remotely.
-/

namespace RemoteCall

/-- How a method answers (`ReturnKind`). -/
inductive ReturnKind where
  | deferred
  | nullableDeferred
  | immediate
  deriving DecidableEq, Repr

def ReturnKind.name : ReturnKind → String
  | .deferred => "Deferred"
  | .nullableDeferred => "NullableDeferred"
  | .immediate => "Immediate"

/-- The declaration of a method (`MethodSignature`). -/
structure Method where
  name : String
  returns : ReturnKind
  deriving DecidableEq, Repr

/-- An interface with its methods (`RemoteInterface`). -/
structure Interface where
  name : String
  methods : List Method
  deriving DecidableEq, Repr

namespace Interface

/-- The declaration of a method, the first one if there are several (`RemoteInterface::method`). -/
def method? (interface : Interface) (name : String) : Option Method :=
  interface.methods.find? fun method => method.name == name

/-- Whether a method is declared (`RemoteInterface::has_method`). -/
def declares (interface : Interface) (name : String) : Bool := (interface.method? name).isSome

/-- The names of the methods, in their order (`RpcProxy::available_methods`). -/
def methodNames (interface : Interface) : List String := interface.methods.map Method.name

/-- Whether a name denotes the interface; the case of ASCII letters does not matter
(`RemoteInterface::matches`). -/
def answersTo (interface : Interface) (name : String) : Bool :=
  Text.sameIgnoringCase interface.name name

/-- The first method that cannot be called remotely (in `check_methods_signature`). -/
def uncallable? (interface : Interface) : Option Method :=
  interface.methods.find? fun method => method.returns != .deferred

end Interface
end RemoteCall
