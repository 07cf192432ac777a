import RemoteCall.Call.Flight
import RemoteCall.Http.Body
import RemoteCall.Rehearsal.Interceptor
import RemoteCall.Time.Timer

/-!
# Rehearsals

A rehearsal runs calls in a closed world, which takes the place of the resolver and the transport of
a client (`DnsResolver`, `RpcTransport`): names are looked up in a directory, answers come from a
script or from servers in the same world, and the clock moves only when something is waited for.
What a call sends and looks up is written down as it happens.
-/

namespace RemoteCall
namespace Rehearsal

/-- Where the answer to a request comes from. -/
inductive Reaction where
  | fault (fault : TransportFault)
  /-- An answer whose body arrives in parts. -/
  | answer (head : ResponseHead) (body : Body.Stream)
  /-- The server in charge of the authority that the request is sent to. -/
  | route

/-- How the world reacts to a request, and after how many milliseconds. -/
structure ScriptEntry where
  delay : Nat
  reaction : Reaction

/-- A request and the time at which it was sent. -/
structure Sent where
  time : Nat
  request : OutboundRequest

/-- A closed world, with what is written down of it. -/
structure World where
  clock : Nat
  /-- What is left of the script; its last entry stays. -/
  script : List ScriptEntry
  servers : List (String × ScriptedServer)
  /-- What a lookup of a host finds, or why it fails. -/
  directory : List (String × Except String (List Net.Address))
  /-- The body that is on its way. -/
  arriving : Body.Stream
  /-- The requests sent so far, the latest first. -/
  sent : List Sent
  /-- The hosts looked up so far, the latest first. -/
  lookups : List (String × Net.RecordKind)

namespace World

/-- What happens at a request when the script is empty. -/
def usualEntry : ScriptEntry := ⟨0, .route⟩

def nextEntry (world : World) : ScriptEntry × World :=
  match world.script with
  | [] => (usualEntry, world)
  | [last] => (last, world)
  | entry :: later => (entry, { world with script := later })

def pass (world : World) (milliseconds : Nat) : World :=
  { world with clock := world.clock + milliseconds }

/-- Waits for a timer that is set to some number of milliseconds. -/
def wait (world : World) (milliseconds : Nat) : World := world.pass (Timer.span milliseconds)

/-- Looks the addresses of a host up (`DnsResolver::resolve`). -/
def lookup (world : World) (host : String) (kind : Net.RecordKind) :
    Except Net.LookupFault (List Net.Address) × World :=
  let found :=
    match world.directory.lookup host with
    | none => .ok []
    | some (.ok addresses) => .ok addresses
    | some (.error explanation) => .error (.failed host explanation)
  (found, { world with lookups := (host, kind) :: world.lookups })

/-- The authority that a request is sent to. -/
def authorityOf (request : OutboundRequest) : String := request.uri.authority.getD ""

/-- Puts a server in the place of the one in charge of an authority. -/
def withServer (world : World) (authority : String) (server : ScriptedServer) : World :=
  { world with servers := world.servers.map fun entry =>
      if entry.1 = authority then (authority, server) else entry }

def timeOut (world : World) (bound : Option Nat) : Flight.Event × World :=
  let bound := bound.getD 0
  (.unanswered (.timedOut (.ofMilliseconds bound)), world.wait bound)

/-- Lets the server in charge serve a request, after some delay. -/
def serve (world : World) (request : OutboundRequest) (delay : Nat) (bound : Option Nat) :
    Flight.Event × World :=
  match world.servers.lookup (authorityOf request) with
  | none =>
      (.unanswered (.unprocessed ("no server at " ++ authorityOf request)), world.wait delay)
  | some server =>
      let served := Endpoint.serve behaviour server request.toRequest
      let world := world.withServer (authorityOf request) served.server
      if Timer.expires bound (Timer.span delay + Timer.span served.wait) then world.timeOut bound
      else
        (.answered served.response.head,
          { (world.wait delay).wait served.wait with
            arriving := .ofBytes served.response.body })

/-- Sends a request and waits for what comes of it (`RpcTransport::send`). -/
def exchange (world : World) (request : OutboundRequest) : Flight.Event × World :=
  let (entry, world) := world.nextEntry
  let world := { world with sent := ⟨world.clock, request⟩ :: world.sent }
  let bound := request.timeouts.map Timeouts.transfer
  if Timer.expires bound (Timer.span entry.delay) then world.timeOut bound
  else
    match entry.reaction with
    | .fault fault => (.unanswered fault, world.wait entry.delay)
    | .answer head body => (.answered head, { world.wait entry.delay with arriving := body })
    | .route => world.serve request entry.delay bound

/-- The world as it stands, with the clock at zero and nothing written down yet. -/
def rewound (world : World) : World := { world with clock := 0, sent := [], lookups := [] }

/-- The event that a call waits for; none if it waits for nothing. -/
def react (world : World) (flight : Flight) : Option Flight.Event × World :=
  match flight.stage with
  | .resolving host _ =>
      let (found, world) := world.lookup host .a
      (some (.resolved found), world)
  | .sending request =>
      let (event, world) := world.exchange request
      (some event, world)
  | .reading _ _ =>
      let gathered := Body.gather flight.call.inactivityBound world.arriving
      (some (.received gathered.result),
        { world.pass gathered.elapsed with arriving := .ofFrames [] })
  | .pausing milliseconds => (some .resumed, world.wait milliseconds)
  | .settled _ => (none, world)

end World
end Rehearsal
end RemoteCall
