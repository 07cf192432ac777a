import RemoteCall.Protocol.Tag

/-!
# Kinds of failure

A failed call is classified by what is known about its effects, so that its caller can tell
whether calling again is safe.
-/

namespace RemoteCall

/-- What is known about the effects of a failed call (`RpcErrorKind`). -/
inductive FailureKind where
  /-- Not classified further. -/
  | general
  /-- No effects; safe to send elsewhere. -/
  | unprocessed
  /-- Effects unknown; unsafe to repeat blindly. -/
  | possiblyProcessed
  /-- Effects took place and the result was lost. -/
  | processed
  /-- All attempts were used up. -/
  | retriesExceeded
  /-- All redirects were used up. -/
  | redirectsExceeded
  deriving DecidableEq, Repr

namespace FailureKind

def all : List FailureKind :=
  [.general, .unprocessed, .possiblyProcessed, .processed, .retriesExceeded, .redirectsExceeded]

/-- The class under which a failure of this kind is reported to the other side
(`RpcErrorKind::class_name`). -/
def className : FailureKind → String
  | .general => "RpcException"
  | .unprocessed => "UnprocessedCallException"
  | .possiblyProcessed => "PossiblyProcessedCallException"
  | .processed => "ProcessedCallException"
  | .retriesExceeded => "RetriesCountExceededException"
  | .redirectsExceeded => "RedirectCountExceededException"

/-- The kind of a failure that the other side reported with some certainty (`RpcErrorKind::from`).
-/
def ofCertainty : Certainty → FailureKind
  | .unprocessed => .unprocessed
  | .possiblyProcessed => .possiblyProcessed
  | .processed => .processed

end FailureKind
end RemoteCall
