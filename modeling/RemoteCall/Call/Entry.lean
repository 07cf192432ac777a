import RemoteCall.Text.Lowercase
import RemoteCall.Uri.Grammar

/-!
# Entry URIs

A client is configured with the scheme, the host and the port of the server that its calls enter
through.  The three are put together to one text in lower case, which then has to be a URI.
-/

namespace RemoteCall

/-- What the entry server of a client is configured with (`RpcClientBuilder`). -/
structure Entry where
  scheme : String
  host : String
  port : UInt16
  deriving DecidableEq, Repr

/-- Why a configured entry is no URI: the text and what is wrong with it
(`ClientBuildError::InvalidUri`). -/
structure EntryFault where
  text : String
  fault : Uri.Fault
  deriving DecidableEq, Repr

def EntryFault.message (refusal : EntryFault) : String :=
  "rpc server uri \x60" ++ refusal.text ++ "\x60 is invalid: " ++ refusal.fault.message

namespace Entry

/-- The scheme of an entry unless one is given (`DEFAULT_URI_SCHEME`). -/
def usualScheme : String := "http"

/-- The port of an entry unless one is given (`DEFAULT_RPC_SERVER_PORT`). -/
def usualPort : UInt16 := 8080

/-- The host as it stands in the URI: one with a colon gets brackets unless it starts with one (in
`RpcClientBuilder::server_uri`). -/
def bracketedHost (entry : Entry) : String :=
  if entry.host.toList.contains ':' && entry.host.toList.head? != some '[' then
    "[" ++ entry.host ++ "]"
  else entry.host

/-- The text of the URI in lower case (in `RpcClientBuilder::server_uri`). -/
def text (entry : Entry) : String :=
  Text.lowercase (entry.scheme ++ "://" ++ entry.bracketedHost ++ ":" ++ toString entry.port.toNat)

/-- The URI that calls enter through (`RpcClientBuilder::server_uri`). -/
def uri (entry : Entry) : Except EntryFault Uri :=
  match Uri.parse entry.text with
  | .ok uri => .ok uri
  | .error fault => .error ⟨entry.text, fault⟩

end Entry
end RemoteCall
