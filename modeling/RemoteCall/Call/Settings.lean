/-!
# Settings of a client

How often a client follows redirects and tries again, how long it pauses before trying again, how
long a request may take, and which parameter names the entity a call is about.
-/

namespace RemoteCall

/-- The settings of a client (`RpcClientConfig`). -/
structure Settings where
  redirectsLimit : UInt32
  retriesLimit : UInt32
  /-- The pause before another attempt, in milliseconds, where the server asks for none. -/
  retryDelay : Nat
  /-- The bound on an exchange and on the gaps in an answer, in milliseconds. -/
  requestTimeout : Option Nat
  /-- The position of the parameter that names the entity. -/
  entityPosition : Option Nat
  deriving DecidableEq, Repr

namespace Settings

/-- Ten redirects, ten further attempts with pauses of 400 milliseconds, no bound on time
(`RpcClientConfig::default`). -/
def usual : Settings where
  redirectsLimit := 10
  retriesLimit := 10
  retryDelay := 400
  requestTimeout := none
  entityPosition := none

/-- The settings with a bound on time; a bound of zero is none
(`RpcClientConfig::with_request_timeout`). -/
def withRequestTimeout (settings : Settings) (timeout : Option Nat) : Settings :=
  { settings with requestTimeout := timeout.filter (· ≠ 0) }

end Settings
end RemoteCall
