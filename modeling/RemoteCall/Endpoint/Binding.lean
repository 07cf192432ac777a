import RemoteCall.Endpoint.Lifecycle
import RemoteCall.Endpoint.Pipeline

/-!
# Servers on sockets

A server listens on every address of the machine, and takes every request whatever its path and
method.  A request is served once its whole body is there; a body that cannot be read is reported
as a failure before any work.
-/

namespace RemoteCall
namespace Endpoint

/-- The most bytes that the body of a request may have (`MAX_REQUEST_BODY_SIZE`). -/
def bodyLimit : Nat := 64 * 1024 * 1024

/-- Why the body of a request is not there (in `handle_http_request`). -/
inductive IntakeFault where
  | tooLong
  /-- The connection failed, with its own explanation. -/
  | broken (explanation : String)
  deriving DecidableEq, Repr

namespace IntakeFault

def explanation : IntakeFault → String
  | .tooLong => "length limit exceeded"
  | .broken explanation => explanation

/-- The failure that is reported of a body that is not there (in `handle_http_request`). -/
def failure (fault : IntakeFault) : Failure :=
  .ofMessage .unprocessed ("Failed to read RPC request body: " ++ fault.explanation ++ ".")

end IntakeFault

/-- The body of a request, if all of it arrived and it is not too long (in `handle_http_request`).
-/
def intake : Except String Bytes → Except IntakeFault Bytes
  | .error explanation => .error (.broken explanation)
  | .ok body => if body.length ≤ bodyLimit then .ok body else .error .tooLong

/-- Serves a request with a body as it arrived (`handle_http_request`). -/
def receive {α : Type} (behaviour : Behaviour α) (server : Server α) (request : Request)
    (arrived : Except String Bytes) : Served α :=
  match intake arrived with
  | .ok body => serve behaviour server { request with body := body }
  | .error fault => ⟨Response.throwable (.ofFailure fault.failure) .unprocessed, 0, [], server⟩

/-- Why nothing can listen on an address. -/
inductive BindFault where
  | inUse
  | unavailable
  deriving DecidableEq, Repr

/-- The address that stands for all addresses of the longer family. -/
def everyIpv6 : Net.Address := .v6 ⟨.replicate 8 0⟩

/-- The address that stands for all addresses of the shorter family. -/
def everyIpv4 : Net.Address := .v4 ⟨.replicate 4 0⟩

/-- The listeners of a server on every address.  The longer family may be missing; the shorter one
may be in use, when the listener of the longer family serves both
(`RpcServerFactory::get_rpc_server`). -/
def listenEverywhere {Listener : Type} (bind : Net.Address → UInt16 → Except BindFault Listener)
    (port : UInt16) : Except LifecycleFault (List Listener) :=
  match bind everyIpv6 port, bind everyIpv4 port with
  | .ok longer, .ok shorter => .ok [longer, shorter]
  | .ok longer, .error .inUse => .ok [longer]
  | .error _, .ok shorter => .ok [shorter]
  | _, .error _ => .error (.notBound everyIpv4 port)

end Endpoint
end RemoteCall
