import RemoteCall.Failure.Basic
import RemoteCall.Response.Draft
import RemoteCall.Service.RemoteError

/-!
# The answers of the protocol

A server is healthy, has a result, asks to try again, sends the caller elsewhere, or reports what
went wrong.  A suggested pause of zero, a port of zero and an empty path are left out.
-/

namespace RemoteCall
namespace Response

/-- The answer to a health check (`HealthCheckRpcResponseFactory`). -/
def health : Response := (Draft.ofKind .success).finish

/-- The answer with an encoded result (`SuccessRpcResponseFactory`). -/
def success (result : Bytes) : Response :=
  ((Draft.ofKind .success).withBody result).withSerializedContent.finish

/-- The answer that asks to try again, after a number of milliseconds if one is given
(`RetryRpcResponseFactory`). -/
def retry (delay : Option UInt64) : Response :=
  let draft := Draft.ofKind .retry
  match delay with
  | some delay =>
      if delay = 0 then draft.finish
      else (draft.withHeader .retryDelay (toString delay.toNat)).finish
  | none => draft.finish

/-- Where a caller is sent (`RedirectRpcResponseFactory`). -/
structure Redirection where
  host : String
  path : Option String
  port : Option UInt16
  /-- The next server should serve the call and not redirect it again. -/
  direct : Bool
  deriving DecidableEq, Repr

/-- The path of the redirection as a header, unless it is absent or empty (in
`RedirectRpcResponseFactory::get_response`). -/
def Redirection.addPath (redirection : Redirection) (draft : Draft) : Draft :=
  match redirection.path with
  | some path => if path.isEmpty then draft else draft.withHeader .redirectPath path
  | none => draft

/-- The port of the redirection as a header, unless it is absent or zero (in
`RedirectRpcResponseFactory::get_response`). -/
def Redirection.addPort (redirection : Redirection) (draft : Draft) : Draft :=
  match redirection.port with
  | some port =>
      if port = 0 then draft else draft.withHeader .redirectPort (toString port.toNat)
  | none => draft

/-- The directness of the redirection as a header (in `RedirectRpcResponseFactory::get_response`).
-/
def Redirection.addDirection (redirection : Redirection) (draft : Draft) : Draft :=
  if redirection.direct then draft.withHeader .directDirection Header.yes else draft

/-- The answer that sends the caller elsewhere (`RedirectRpcResponseFactory::get_response`). -/
def redirect (redirection : Redirection) : Response :=
  let draft := (Draft.ofKind .redirect).withHeader .redirectHost redirection.host
  (redirection.addDirection (redirection.addPort (redirection.addPath draft))).finish

/-- What is reported of an error: its class, its code and its message (`Throwable`). -/
structure Report where
  className : String
  code : Int64
  message : String
  deriving DecidableEq, Repr

/-- What is reported of a failure (`RpcError` as a `Throwable`). -/
def Report.ofFailure (failure : Failure) : Report :=
  ⟨failure.kind.className, failure.code, failure.message⟩

/-- What is reported of the error of a remote method (`RemoteError` as a `Throwable`). -/
def Report.ofRemoteError (error : RemoteError) : Report :=
  ⟨error.className, error.code, error.message⟩

/-- The answer that reports an error, with what is known about the work of the call
(`ThrowableRpcResponseFactory`). -/
def throwable (report : Report) (certainty : Certainty) : Response :=
  let draft := (Draft.ofKind .throwable).withHeader .throwableType certainty.tag
  let draft := draft.withHeader .throwableCode (toString report.code.toInt)
  let draft := draft.withHeader .throwableClass report.className
  (draft.withBody (Text.encodeUtf8 report.message)).finish

end Response
end RemoteCall
