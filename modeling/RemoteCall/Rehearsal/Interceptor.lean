import RemoteCall.Endpoint.Pipeline

/-!
# Scripted interceptors

In a rehearsal interceptors follow a script of actions on the request and on the chain they belong
to.  A script may be limited to a number of runs, after which the interceptor lets every request
pass unchanged.
-/

namespace RemoteCall
namespace Rehearsal

open Endpoint (Interception)

/-- What a scripted interceptor does. -/
inductive Action where
  /-- Ends the script here if the request has the header field. -/
  | unlessHeader (name : FieldName)
  | setHeader (header : Header) (text : String)
  | removeHeader (name : FieldName)
  | setBody (body : Bytes)
  | setMethod (method : String)
  | setUri (uri : Uri)
  /-- Answers instead of the server. -/
  | respond (response : Response)
  | fail (failure : Failure)
  | unregisterSelf
  | unregister (id : InterceptorId)
  /-- Registers another interceptor with its actions and its number of runs. -/
  | register (actions : List Action) (runs : Option Nat)

/-- An interceptor that follows a script, and how often it still does. -/
structure ScriptedInterceptor where
  actions : List Action
  runs : Option Nat

abbrev ScriptedChain := Chain ScriptedInterceptor

def follow (id : InterceptorId) :
    List Action → Request → ScriptedChain → Except Failure Interception × ScriptedChain
  | [], request, chain => (.ok (.proceed request), chain)
  | action :: later, request, chain =>
      match action with
      | .unlessHeader name =>
          if request.fields.contains name then (.ok (.proceed request), chain)
          else follow id later request chain
      | .setHeader header text =>
          follow id later { request with fields := request.fields.write header text } chain
      | .removeHeader name =>
          follow id later { request with fields := request.fields.erase name } chain
      | .setBody body => follow id later { request with body := body } chain
      | .setMethod method => follow id later { request with method := method } chain
      | .setUri uri => follow id later { request with uri := uri } chain
      | .respond response => (.ok (.respond response), chain)
      | .fail failure => (.error failure, chain)
      | .unregisterSelf => follow id later request (chain.unregister id).2
      | .unregister other => follow id later request (chain.unregister other).2
      | .register actions runs => follow id later request (chain.register ⟨actions, runs⟩).2

/-- How a scripted interceptor behaves (`RequestInterceptor`). -/
def behaviour : Endpoint.Behaviour ScriptedInterceptor := fun id interceptor request chain =>
  match interceptor.runs with
  | none => follow id interceptor.actions request chain
  | some 0 => (.ok (.proceed request), chain)
  | some (left + 1) =>
      follow id interceptor.actions request
        (chain.update id fun current => { current with runs := some left })

abbrev ScriptedServer := Endpoint.Server ScriptedInterceptor

end Rehearsal
end RemoteCall
