import RemoteCall.Endpoint.Chain
import RemoteCall.Endpoint.Rejection
import RemoteCall.Service.Registry

/-!
# Serving requests

A request passes a health check, the check of its method and the interceptors; what is left of it
names an object and a method with parameters, which are dispatched; and the reply is awaited and
answered.  Along with the answer, serving a request gives a journal of what was done, so that
statements about it need not look inside.
-/

namespace RemoteCall
namespace Endpoint

/-- What an interceptor decides about a request (`Intercept`). -/
inductive Interception where
  | proceed (request : Request)
  | respond (response : Response)

/-- How interceptors behave.  While one runs the chain may change, by its own doing or otherwise, so
it is given the chain and gives it back (`RequestInterceptor`). -/
abbrev Behaviour (α : Type) :=
  InterceptorId → α → Request → Chain α → Except Failure Interception × Chain α

inductive Event where
  /-- An interceptor was given a request. -/
  | intercepted (id : InterceptorId) (request : Request)
  /-- A factory was run. -/
  | instantiated
  /-- A method of an object was dispatched. -/
  | dispatched (method : String) (parameters : Parameters)
  /-- A reply was awaited. -/
  | awaited

/-- A server as far as it decides about requests (`RpcRequestHandler`). -/
structure Server (α : Type) where
  codec : Codec
  registry : Registry
  healthRoute : Option String
  chain : Chain α

/-- The route of health checks, given with or without slashes in front
(`RpcRequestHandler::with_health_check_route`). -/
def healthRouteOf (route : String) : String :=
  "/" ++ String.ofList (route.toList.dropWhile (· = '/'))

/-- Whether a request asks for the server's health (`RpcRequestHandler::is_health_check`). -/
def isHealthCheck (healthRoute : Option String) (request : Request) : Bool :=
  healthRoute == some request.uri.path

/-- The certainty with which the failure of an interceptor is reported (in
`RpcRequestHandler::run_interceptors`). -/
def interceptorCertainty (failure : Failure) : Certainty :=
  match failure.kind with
  | .unprocessed => .unprocessed
  | _ => .possiblyProcessed

/-- What a chain makes of a request, the events on the way, and the chain afterwards. -/
structure Intercepted (α : Type) where
  result : Interception
  events : List Event
  chain : Chain α

/-- Gives a request to interceptors in turn, each the request that the one before left, until one
answers or fails (`RpcRequestHandler::run_interceptors`). -/
def intercept {α : Type} (behaviour : Behaviour α) :
    List (InterceptorId × α) → Request → Chain α → Intercepted α
  | [], request, chain => ⟨.proceed request, [], chain⟩
  | (id, interceptor) :: later, request, chain =>
      match behaviour id interceptor request chain with
      | (.ok (.proceed next), chain) =>
          let rest := intercept behaviour later next chain
          ⟨rest.result, .intercepted id request :: rest.events, rest.chain⟩
      | (.ok (.respond response), chain) =>
          ⟨.respond response, [.intercepted id request], chain⟩
      | (.error failure, chain) =>
          ⟨.respond (Response.throwable (.ofFailure failure) (interceptorCertainty failure)),
            [.intercepted id request], chain⟩

/-- An object and a method that a request asks for, with its parameters. -/
structure Target where
  interface : String
  registration : Registration
  method : String
  parameters : Parameters

/-- A header that names something: absent, unreadable and empty ones name nothing (in
`RpcRequestHandler::resolve_invocation`). -/
def nameIn (fields : Fields) (header : Header) : Option String :=
  (fields.read header).filter (!·.isEmpty)

/-- The object and the method that a request asks for, or why there are none
(`RpcRequestHandler::resolve_invocation` before it makes an object). -/
def target (codec : Codec) (registry : Registry) (request : Request) : Except Rejection Target :=
  match codec.decode request.body with
  | .error fault => .error (.undecodable fault)
  | .ok decoded =>
      match nameIn request.fields .interfaceName, nameIn request.fields .methodName with
      | some interface, some method =>
          match decoded with
          | .array parameters =>
              match registry.find? interface with
              | none => .error (.notRegistered interface method)
              | some registration =>
                  if registration.interface.declares method then
                    .ok ⟨interface, registration, method, parameters⟩
                  else .error (.notDeclared interface method)
          | other => .error (.notAList other.kindName)
      | interface, method => .error (.unnamed interface method)

/-- What a request comes to before its reply is awaited. -/
structure Resolved where
  result : Except Rejection Invocation
  events : List Event
  registry : Registry

/-- Makes the object that a request asks for and dispatches the method
(`RpcRequestHandler::resolve_invocation`). -/
def resolve (codec : Codec) (registry : Registry) (request : Request) : Resolved :=
  match target codec registry request with
  | .error rejection => ⟨.error rejection, [], registry⟩
  | .ok wanted =>
      let (made, registration) := wanted.registration.instantiate
      let registry := registry.update wanted.interface registration
      let className := registration.className
      match made with
      | .error explanation =>
          ⟨.error (.notInstantiated className wanted.method explanation), [.instantiated], registry⟩
      | .ok object =>
          let events := [.instantiated, .dispatched wanted.method wanted.parameters]
          match object.dispatch wanted.method wanted.parameters with
          | some invocation => ⟨.ok invocation, events, registry⟩
          | none => ⟨.error (.notOnObject className wanted.method), events, registry⟩

/-- The answer to what a reply comes to (the end of `RpcRequestHandler::handle`, with
`RpcRequestHandler::make_success_response`). -/
def answerTo (codec : Codec) : Except RemoteError Reply → Response
  | .error error => Response.throwable (.ofRemoteError error) .possiblyProcessed
  | .ok (.response response) => response
  | .ok (.value value) =>
      match codec.encode value with
      | .ok result => Response.success result
      | .error fault => (Rejection.unencodable fault).response

/-- A served request: the answer, the milliseconds until it is there, what was done, and the server
afterwards. -/
structure Served (α : Type) where
  response : Response
  wait : Nat
  events : List Event
  server : Server α

/-- Serves a request that the interceptors have let pass (`RpcRequestHandler::handle` after the
interceptors). -/
def serveIntercepted {α : Type} (server : Server α) (request : Request) : Served α :=
  let resolved := resolve server.codec server.registry request
  let server := { server with registry := resolved.registry }
  match resolved.result with
  | .error rejection => ⟨rejection.response, 0, resolved.events, server⟩
  | .ok (.immediate value) =>
      ⟨(Rejection.notDeferred (Invocation.immediate value).kindName).response, 0, resolved.events,
        server⟩
  | .ok (.deferred reply) =>
      ⟨answerTo server.codec reply.outcome, reply.wait, resolved.events ++ [.awaited], server⟩

/-- Serves a request (`RpcRequestHandler::handle`). -/
def serve {α : Type} (behaviour : Behaviour α) (server : Server α) (request : Request) : Served α :=
  if isHealthCheck server.healthRoute request then ⟨Response.health, 0, [], server⟩
  else if request.method ≠ "POST" then ⟨Rejection.notPosted.response, 0, [], server⟩
  else
    let intercepted := intercept behaviour server.chain.entries request server.chain
    let server := { server with chain := intercepted.chain }
    match intercepted.result with
    | .respond response => ⟨response, 0, intercepted.events, server⟩
    | .proceed request =>
        let served := serveIntercepted server request
        { served with events := intercepted.events ++ served.events }

/-- The interceptors that were given a request, in order. -/
def trace (events : List Event) : List InterceptorId :=
  events.filterMap fun event =>
    match event with
    | .intercepted id _ => some id
    | _ => none

end Endpoint
end RemoteCall
