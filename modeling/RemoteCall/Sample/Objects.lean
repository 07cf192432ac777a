import RemoteCall.Service.Registry

/-!
# Example objects

Three small services that show how interfaces and objects are written: a calculator on words of
sixty-four bits, a repository of names, and a receiver of parcels.
-/

namespace RemoteCall
namespace Sample

/-- An interface all of whose methods answer later. -/
def interfaceOf (name : String) (methods : List String) : Interface :=
  ⟨name, methods.map fun method => ⟨method, .deferred⟩⟩

/-- An object that serves one interface, whatever the case of its name. -/
def objectOf (name : String) (dispatch : String → Parameters → Option Invocation) :
    RemoteObject where
  className := name
  implements interface := interface.answersTo name
  dispatch := dispatch

/-- The factory that makes the same object each time. -/
def always (object : RemoteObject) : Factory := fun _ => .ok object

def word (parameters : Parameters) (index : Nat) : Except RemoteError Int64 :=
  match parameters.read index (.plain .i64) with
  | .ok (.integer number) => .ok (Int64.ofInt number.value)
  | .ok _ => .ok 0
  | .error error => .error error

/-- Applies an operation to the first two parameters (`SimpleCalc::operands`). -/
def withWords (parameters : Parameters)
    (operation : Int64 → Int64 → Except RemoteError Json.Value) : Except RemoteError Json.Value :=
  match word parameters 0 with
  | .error error => .error error
  | .ok first =>
      match word parameters 1 with
      | .error error => .error error
      | .ok second => operation first second

def wordValue (value : Int64) : Json.Value := .integer (.ofInt64 value)

/-- The interface of the calculator (`SIMPLE_CALC_INTERFACE`). -/
def calculatorInterface : Interface := interfaceOf "SimpleCalc" ["add", "sub", "mul", "div"]

def quotient (first second : Int64) : Json.Value :=
  .float (.ofFloat ((Double.ofInt first.toInt).toFloat / (Double.ofInt second.toInt).toFloat))

/-- What is said of a division by zero. -/
def divisionByZero : RemoteError := ⟨"DivisionByZeroError", "Division by zero", 0⟩

/-- The calculator; sums, differences and products wrap around (`SimpleCalc`). -/
def calculator : RemoteObject :=
  objectOf "SimpleCalc" fun method parameters =>
    match method with
    | "add" => some (.ofOutcome (withWords parameters fun first second =>
        .ok (wordValue (first + second))))
    | "sub" => some (.ofOutcome (withWords parameters fun first second =>
        .ok (wordValue (first - second))))
    | "mul" => some (.ofOutcome (withWords parameters fun first second =>
        .ok (wordValue (first * second))))
    | "div" => some (.ofOutcome (withWords parameters fun first second =>
        if second = 0 then .error divisionByZero else .ok (quotient first second)))
    | _ => none

/-- The interface of the repository (`CLIENT_REPOSITORY_INTERFACE`). -/
def repositoryInterface : Interface := interfaceOf "ClientRepository" ["getClientName"]

/-- The repository of names, which knows one name (`ClientRepository`). -/
def repository : RemoteObject :=
  objectOf "ClientRepository" fun method parameters =>
    match method with
    | "getClientName" =>
        some (.ofOutcome ((word parameters 0).map fun _ => .string "Boris"))
    | _ => none

/-- The interface of the receiver (`OBJECT_SENDER_INTERFACE`). -/
def receiverInterface : Interface := interfaceOf "ObjectSender" ["sendObject"]

def acceptObject (parameters : Parameters) : Except RemoteError Json.Value :=
  match parameters.read 0 (.plain .any) with
  | .error error => .error error
  | .ok (.object _) => .ok (.bool true)
  | .ok _ => .error ⟨"TypeError", "Parameter #0 must be an object", 0⟩

/-- The receiver, which takes any object (`ObjectSender`). -/
def receiver : RemoteObject :=
  objectOf "ObjectSender" fun method parameters =>
    match method with
    | "sendObject" => some (.ofOutcome (acceptObject parameters))
    | _ => none

def services : List (Interface × RemoteObject) :=
  [(calculatorInterface, calculator), (repositoryInterface, repository),
    (receiverInterface, receiver)]

def service? (name : String) : Option (Interface × RemoteObject) :=
  services.find? fun service => service.1.name == name

end Sample
end RemoteCall
