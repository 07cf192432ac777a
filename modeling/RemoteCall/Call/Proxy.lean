import RemoteCall.Call.Flight
import RemoteCall.Json.Shape
import RemoteCall.Service.Interface

/-!
# Proxies

A proxy stands for a remote interface.  It makes calls under the interface's name, after checking
that the arguments form a list and that the method is declared, and converts the result to what its
caller expects.  An errand is one run of `RpcProxy::invoke` or `RpcProxy::call`, from its start on:
it is refused by the proxy, or a call is in flight for it.  A factory makes one stub for each name
of an interface and hands it out again whenever a proxy of that name is asked for.
-/

namespace RemoteCall

/-- Why a proxy fails on its own account (the errors of `RpcProxy::invoke` and `RpcProxy::call`). -/
inductive ProxyFault where
  | undeclared (interface method : String)
  /-- The arguments are neither a list nor nothing. -/
  | notAList (interface method : String) (arguments : Json.Value)
  | unconvertibleArguments (interface method : String) (mismatch : Json.Mismatch)
  | unconvertibleResult (interface method : String) (mismatch : Json.Mismatch)

namespace ProxyFault

def kind : ProxyFault → FailureKind
  | .undeclared _ _ => .general
  | .notAList _ _ _ | .unconvertibleArguments _ _ _ => .unprocessed
  | .unconvertibleResult _ _ _ => .possiblyProcessed

def message : ProxyFault → String
  | .undeclared interface method =>
      "Method " ++ method ++ " is not available for " ++ interface ++ "."
  | .notAList interface method arguments =>
      "Failed RPC call for " ++ interface ++ "::" ++ method ++
        "(). Arguments must form a positional list, got " ++ arguments.text ++ "."
  | .unconvertibleArguments interface method mismatch =>
      "Failed RPC call for " ++ interface ++ "::" ++ method ++
        "(). Failed to serialize arguments: " ++ mismatch.message ++ "."
  | .unconvertibleResult interface method mismatch =>
      "Failed to convert RPC result of " ++ interface ++ "::" ++ method ++ "(): " ++
        mismatch.message ++ "."

def cause : ProxyFault → Option Cause
  | .unconvertibleArguments _ _ mismatch | .unconvertibleResult _ _ mismatch =>
      some ⟨.conversion, mismatch.message⟩
  | _ => none

/-- The failure that the caller of the proxy learns of. -/
def failure (fault : ProxyFault) : Failure := ⟨fault.kind, fault.message, 0, none, fault.cause⟩

end ProxyFault

/-- The part of a proxy that is bound to an interface (`ProxyStub`). -/
structure Proxy where
  interface : Interface
  deriving DecidableEq, Repr

namespace Proxy

/-- The call of a method with parameters, if the interface declares it (`RpcProxy::invoke`). -/
def invoke (proxy : Proxy) (method : String) (parameters : Parameters) : Except ProxyFault Call :=
  if proxy.interface.declares method then
    .ok (Call.fresh proxy.interface.name method parameters)
  else .error (.undeclared proxy.interface.name method)

/-- The parameters that arguments stand for: a list for its items and null for none (in
`RpcProxy::call`). -/
def parameters (proxy : Proxy) (method : String) :
    Except Json.Mismatch Json.Value → Except ProxyFault Parameters
  | .ok (.array items) => .ok items
  | .ok .null => .ok []
  | .ok other => .error (.notAList proxy.interface.name method other)
  | .error mismatch => .error (.unconvertibleArguments proxy.interface.name method mismatch)

/-- The call of a method with arguments that may have failed to become a value (`RpcProxy::call` up
to the call of the client). -/
def call (proxy : Proxy) (method : String) (arguments : Except Json.Mismatch Json.Value) :
    Except ProxyFault Call :=
  match proxy.parameters method arguments with
  | .error fault => .error fault
  | .ok parameters => proxy.invoke method parameters

/-- The outcome of a call as its caller wants it: the result is read as a value of some type (the
end of `RpcProxy::call`). -/
def conclude {α : Type} (proxy : Proxy) (method : String)
    (read : Json.Value → Except Json.Mismatch α) : Outcome → Except Failure α
  | .error failure => .error failure
  | .ok value =>
      match read value with
      | .ok result => .ok result
      | .error mismatch =>
          .error (ProxyFault.unconvertibleResult proxy.interface.name method mismatch).failure

/-- The outcome of a call whose result is fitted to a shape. -/
def convert (proxy : Proxy) (method : String) (shape : Json.Shape) : Outcome → Outcome :=
  proxy.conclude method shape.fit

end Proxy

/-- What has become of an order to a proxy. -/
inductive Errand where
  /-- The proxy has refused it. -/
  | refused (fault : ProxyFault)
  /-- The call that the proxy has made is in flight. -/
  | underway (flight : Flight)

namespace Errand

/-- Starts the call that a proxy has made, if it has made one (`RpcClient::invoke`). -/
def start (client : Client) (made : Except ProxyFault Call) (cache : Route.Cache) :
    Errand × Route.Cache :=
  match made with
  | .error fault => (.refused fault, cache)
  | .ok call =>
      let (flight, cache) := Flight.start client call cache
      (.underway flight, cache)

/-- What an errand waits for. -/
def stage : Errand → Flight.Stage
  | refused fault => .settled (.error fault.failure)
  | underway flight => flight.stage

def outcome? (errand : Errand) : Option Outcome :=
  match errand.stage with
  | .settled outcome => some outcome
  | _ => none

def advance (client : Client) (errand : Errand) (cache : Route.Cache) (event : Flight.Event) :
    Errand × Route.Cache :=
  match errand with
  | refused fault => (refused fault, cache)
  | underway flight =>
      let (flight, cache) := flight.advance client cache event
      (underway flight, cache)

/-- An errand and its cache after some events. -/
def run (client : Client) (errand : Errand) (cache : Route.Cache) (events : List Flight.Event) :
    Errand × Route.Cache :=
  events.foldl (fun state event => advance client state.1 state.2 event) (errand, cache)

end Errand

/-- A proxy and the client that it makes its calls through (`RpcProxy`). -/
structure BoundProxy where
  client : Client
  proxy : Proxy

namespace BoundProxy

/-- Starts the errand of a method with parameters (`RpcProxy::invoke`). -/
def invoke (bound : BoundProxy) (method : String) (parameters : Parameters)
    (cache : Route.Cache) : Errand × Route.Cache :=
  Errand.start bound.client (bound.proxy.invoke method parameters) cache

/-- Starts the errand of a method with arguments that may have failed to become a value
(`RpcProxy::call`). -/
def call (bound : BoundProxy) (method : String) (arguments : Except Json.Mismatch Json.Value)
    (cache : Route.Cache) : Errand × Route.Cache :=
  Errand.start bound.client (bound.proxy.call method arguments) cache

end BoundProxy

/-- The stubs made so far, by the names of their interfaces (`RpcProxyFactory`). -/
structure ProxyFactory where
  stubs : List (String × Interface)
  deriving DecidableEq, Repr

namespace ProxyFactory

/-- A factory that has made no stub (`RpcProxyFactory::new`). -/
def empty : ProxyFactory := ⟨[]⟩

/-- How many stubs have been made (`RpcProxyFactory::cached_stub_count`). -/
def size (factory : ProxyFactory) : Nat := factory.stubs.length

/-- A proxy for an interface; it uses the stub made earlier for that name, if there is one (in
`RpcProxyFactory::create_proxy`). -/
def create (factory : ProxyFactory) (interface : Interface) : Proxy × ProxyFactory :=
  match factory.stubs.lookup interface.name with
  | some stub => (⟨stub⟩, factory)
  | none => (⟨interface⟩, ⟨factory.stubs ++ [(interface.name, interface)]⟩)

/-- A proxy for an interface that makes its calls through a client
(`RpcProxyFactory::create_proxy`). -/
def createFor (factory : ProxyFactory) (client : Client) (interface : Interface) :
    BoundProxy × ProxyFactory :=
  let (proxy, factory) := factory.create interface
  (⟨client, proxy⟩, factory)

end ProxyFactory
end RemoteCall
