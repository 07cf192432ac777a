import RemoteCall.Net.Address
import RemoteCall.Uri.Grammar

/-!
# Re-aiming URIs

Parts of a URI are replaced one at a time while the others stay as they are.  A host that is an
address of the longer family gets its brackets, and a new authority is checked as a whole.
-/

namespace RemoteCall
namespace Uri

/-- Why a part of a URI cannot be replaced (`UriRewriteError`). -/
inductive AimFault where
  /-- The URI, given as text, has no authority. -/
  | missingAuthority (uri : String)
  | invalid (fault : Fault)
  deriving DecidableEq, Repr

def AimFault.message : AimFault → String
  | .missingAuthority uri => "uri \x60" ++ uri ++ "\x60 has no authority"
  | .invalid fault => fault.message

/-- The authority of a host and a port (`format_authority`). -/
def authorityText (host : String) (port : Option UInt16) : String :=
  match port with
  | some port => Net.bracketed host ++ ":" ++ toString port.toNat
  | none => Net.bracketed host

def schemeOrHttp (uri : Uri) : String := uri.scheme.getD "http"

/-- A URI with the scheme of another one and an authority, path and query given as texts
(`rebuild`). -/
def rebuild (uri : Uri) (newAuthority newLocator : String) : Except AimFault Uri :=
  match wholeAuthority newAuthority with
  | .error fault => .error (.invalid fault)
  | .ok authority =>
      match locator newLocator.toList with
      | .error fault => .error (.invalid fault)
      | .ok found => .ok ⟨some uri.schemeOrHttp, some authority, found.path, found.query⟩

/-- Replaces the host; the user information is dropped and the port kept (`uri_with_host`). -/
def withHost (uri : Uri) (host : String) : Except AimFault Uri :=
  uri.rebuild (authorityText host uri.port) uri.pathAndQuery

/-- Replaces the port; the user information is dropped (`uri_with_port`). -/
def withPort (uri : Uri) (port : UInt16) : Except AimFault Uri :=
  match uri.host with
  | none => .error (.missingAuthority uri.text)
  | some host => uri.rebuild (authorityText host (some port)) uri.pathAndQuery

/-- Replaces the path; a slash is put in front where it lacks one (`uri_with_path`). -/
def withPath (uri : Uri) (path : String) : Except AimFault Uri :=
  match uri.authority with
  | none => .error (.missingAuthority uri.text)
  | some authority =>
      let slash := if path.toList.head? = some '/' then "" else "/"
      let query :=
        match uri.query with
        | some query => "?" ++ query
        | none => ""
      uri.rebuild authority (slash ++ path ++ query)

/-- The target that a URI leads to, as it is remembered: scheme, authority and path, without the
path if it is the root (`uri_to_target_string`). -/
def targetText (uri : Uri) : String :=
  let base := uri.schemeOrHttp ++ "://" ++ uri.authority.getD ""
  if uri.path.isEmpty || uri.path == "/" then base else base ++ uri.path

end Uri
end RemoteCall
