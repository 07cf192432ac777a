import RemoteCall.Net.Address

/-!
# The life of a listening server

A server is made with listeners that nobody serves yet.  Starting it takes all of them, so it can
be started once; it runs until it is stopped, and from then on it listens to nothing.  Each listener
is served by a task of its own, and stopping waits for all of them to end.
-/

namespace RemoteCall
namespace Endpoint

/-- Why a server does not come up, start or stop (`RpcServerError`). -/
inductive LifecycleFault where
  | notBound (address : Net.Address) (port : UInt16)
  | alreadyStarted
  | notRunning
  /-- Serving a listener has failed. -/
  | listenerFailed
  /-- The task that served a listener was cut off. -/
  | taskFailed
  deriving DecidableEq, Repr

def LifecycleFault.message : LifecycleFault → String
  | .notBound address port =>
      "failed to bind rpc server listener on " ++ Net.bracketed address.text ++ ":" ++
        toString port.toNat
  | .alreadyStarted => "rpc server was already started"
  | .notRunning => "rpc server is not running"
  | .listenerFailed => "rpc server listener failed"
  | .taskFailed => "rpc server task failed"

/-- How the task that serves a listener ends. -/
inductive Ending where
  | finished
  | failed
  | cutOff
  deriving DecidableEq, Repr

/-- What waiting for a task reports. -/
def Ending.report : Ending → Except LifecycleFault Unit
  | .finished => .ok ()
  | .failed => .error .listenerFailed
  | .cutOff => .error .taskFailed

/-- The listeners of a server (in `RpcServer`). -/
structure Lifecycle (Listener : Type) where
  /-- The listeners that nobody serves yet. -/
  pending : List Listener
  /-- The listeners that are served, while the server runs. -/
  served : Option (List Listener)
  deriving DecidableEq, Repr

/-- What a server is told to do. -/
inductive Command (Listener : Type) where
  | start
  /-- A stop, and how each listener's task ends when it is told to. -/
  | stop (ending : Listener → Ending)

namespace Lifecycle

variable {Listener : Type}

/-- A server that has not been started (`RpcServer::new`). -/
def ofListeners (listeners : List Listener) : Lifecycle Listener := ⟨listeners, none⟩

/-- Whether the server has been started and not stopped (`RpcServer::is_running`). -/
def isRunning (life : Lifecycle Listener) : Bool := life.served.isSome

/-- Serves all pending listeners.  When there are none, they count as taken by an earlier start
(`RpcServer::start`). -/
def start (life : Lifecycle Listener) : Except LifecycleFault Unit × Lifecycle Listener :=
  if life.pending.isEmpty then (.error .alreadyStarted, life)
  else (.ok (), ⟨[], some life.pending⟩)

/-- Waits for the tasks of listeners one after another, up to the first that ends badly (in
`RpcServer::stop`). -/
def awaitAll (ending : Listener → Ending) : List Listener → Except LifecycleFault Unit
  | [] => .ok ()
  | listener :: later =>
      match (ending listener).report with
      | .ok () => awaitAll ending later
      | .error fault => .error fault

/-- Stops serving.  The server is down as soon as its tasks have been told, whatever becomes of them
(`RpcServer::stop`). -/
def stop (life : Lifecycle Listener) (ending : Listener → Ending) :
    Except LifecycleFault Unit × Lifecycle Listener :=
  match life.served with
  | none => (.error .notRunning, life)
  | some listeners => (awaitAll ending listeners, { life with served := none })

def obey (life : Lifecycle Listener) :
    Command Listener → Except LifecycleFault Unit × Lifecycle Listener
  | .start => life.start
  | .stop ending => life.stop ending

/-- The server after some commands, whatever it has answered to them. -/
def run (life : Lifecycle Listener) (commands : List (Command Listener)) : Lifecycle Listener :=
  commands.foldl (fun life command => (life.obey command).2) life

@[simp]
theorem run_nil (life : Lifecycle Listener) : life.run [] = life := rfl

@[simp]
theorem run_concat (life : Lifecycle Listener) (earlier : List (Command Listener))
    (command : Command Listener) :
    life.run (earlier ++ [command]) = ((life.run earlier).obey command).2 := by
  simp [run]

end Lifecycle
end Endpoint
end RemoteCall
