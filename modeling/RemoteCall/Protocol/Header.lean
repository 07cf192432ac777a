/-!
# The headers of the protocol

Calls and answers carry what the protocol needs in a fixed vocabulary of HTTP headers.  Names of
headers are compared without regard to case and travel in lower case.
-/

namespace RemoteCall

/-- A header of the protocol (`RpcMessageHeader`). -/
inductive Header where
  /-- Which kind of answer this is; every answer has it. -/
  | responseType
  /-- The body is an encoded result. -/
  | serializedContent
  | throwableType
  | throwableCode
  | throwableClass
  | interfaceName
  | methodName
  /-- Where a redirect leads. -/
  | redirectHost
  | redirectPath
  | redirectPort
  /-- The redirect comes from a relay, and the next server should not redirect again. -/
  | directDirection
  /-- The pause in milliseconds that a server asks for before the next attempt. -/
  | retryDelay
  /-- The entity the call is about, as a hint for routing. -/
  | targetEntity
  /-- The key under which the route of the call is remembered. -/
  | routeKey
  deriving DecidableEq, Repr

namespace Header

/-- All headers, in the order in which they are listed (`RpcMessageHeader::ALL`). -/
def all : List Header :=
  [.responseType, .serializedContent, .throwableType, .throwableCode, .throwableClass,
    .interfaceName, .methodName, .redirectHost, .redirectPath, .redirectPort, .directDirection,
    .retryDelay, .targetEntity, .routeKey]

/-- The spelling under which a header is documented (`RpcMessageHeader::as_str`). -/
def canonicalName : Header → String
  | .responseType => "rpc-response-type"
  | .serializedContent => "rpc-serialized-content"
  | .throwableType => "rpc-throwable-type"
  | .throwableCode => "rpc-throwable-code"
  | .throwableClass => "rpc-throwable-class"
  | .interfaceName => "rpc-interface-class-name"
  | .methodName => "rpc-method-name"
  | .redirectHost => "redirect-to-host-or-ip"
  | .redirectPath => "redirect-to-path"
  | .redirectPort => "redirect-to-port"
  | .directDirection => "directDirection"
  | .retryDelay => "retry-with-delay"
  | .targetEntity => "targetEntity"
  | .routeKey => "requestToUriCacheKey"

/-- The spelling on the wire, in lower case (in `RpcMessageHeader::header_name`). -/
def wireName : Header → String
  | .directDirection => "directdirection"
  | .targetEntity => "targetentity"
  | .routeKey => "requesttouricachekey"
  | header => header.canonicalName

/-- The value of a header that only has to be there (`RPC_HEADER_TRUE`). -/
def yes : String := "true"

end Header

/-- Why a header cannot be understood (`HeaderError`). -/
inductive HeaderFault where
  | missing (header : Header)
  | unknownValue (header : Header) (value : String)
  deriving DecidableEq, Repr

/-- The wording of a header that could not be understood. -/
def HeaderFault.message : HeaderFault → String
  | .missing header => "header \x60" ++ header.canonicalName ++ "\x60 is missing"
  | .unknownValue header value =>
      "header \x60" ++ header.canonicalName ++ "\x60 has unrecognized value \x60" ++ value ++ "\x60"

end RemoteCall
