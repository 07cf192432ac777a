import RemoteCall.Failure.Kind

/-!
# Failures

What the caller of a failed call learns: the kind, a message, a code, the class of the remote error
if there was one, and the local error behind the failure if there was one.
-/

namespace RemoteCall

/-- The part of the library that a local error comes from. -/
inductive CauseOrigin where
  | requestBuilding
  | transport
  | unprocessedRequest
  | responseBody
  | codec
  | conversion
  | instantiation
  | remoteMethod
  /-- An error from outside, under a label of its own. -/
  | labelled (label : String)
  deriving DecidableEq, Repr

structure Cause where
  origin : CauseOrigin
  text : String
  deriving DecidableEq, Repr

/-- The failure of a call (`RpcError`). -/
structure Failure where
  kind : FailureKind
  message : String
  code : Int64
  remoteClass : Option String
  cause : Option Cause
  deriving DecidableEq, Repr

namespace Failure

/-- A failure with a message and nothing else (`RpcError::new`). -/
def ofMessage (kind : FailureKind) (message : String) : Failure := ⟨kind, message, 0, none, none⟩

/-- The failure with a local error behind it, in place of one it had
(`RpcError::with_boxed_source`). -/
def withCause (failure : Failure) (origin : CauseOrigin) (text : String) : Failure :=
  { failure with cause := some ⟨origin, text⟩ }

/-- The class of the error behind the failure: that of the remote error if it has a name, else the
label of the local error's origin (`RpcError::previous_class`). -/
def previousClass (failure : Failure) (label : CauseOrigin → String) : Option String :=
  match failure.remoteClass with
  | some name =>
      if name.isEmpty then failure.cause.map fun cause => label cause.origin else some name
  | none => failure.cause.map fun cause => label cause.origin

end Failure
end RemoteCall
