import RemoteCall.Http.Fields
import RemoteCall.Uri.Aim

/-!
# Following redirects

A redirect names a host and may name a path and a port.  They replace the parts of the URI that the
request was sent to, the host first; whatever is not named stays.
-/

namespace RemoteCall

/-- Why a redirect leads nowhere (the errors of `redirect_target`). -/
inductive RedirectFault where
  | aim (fault : Uri.AimFault)
  | invalidPort (text : String)
  deriving DecidableEq, Repr

/-- The wording of a redirect that leads nowhere (in `redirect_target`). -/
def RedirectFault.message : RedirectFault → String
  | .aim fault => fault.message
  | .invalidPort text => "port \x60" ++ text ++ "\x60 is not valid"

namespace Redirect

/-- The port that a text names, blanks aside (in `redirect_target`). -/
def readPort? (text : String) : Option UInt16 :=
  (Text.readNatural? 0x10000 (Text.trimmed text)).map UInt16.ofNat

/-- Replaces the path if a path is named (in `redirect_target`). -/
def applyPath (uri : Uri) (fields : Fields) : Except RedirectFault Uri :=
  match fields.read .redirectPath with
  | none => .ok uri
  | some path => (uri.withPath path).mapError .aim

/-- Replaces the port if a port is named (in `redirect_target`). -/
def applyPort (uri : Uri) (fields : Fields) : Except RedirectFault Uri :=
  match fields.read .redirectPort with
  | none => .ok uri
  | some text =>
      match readPort? text with
      | none => .error (.invalidPort text)
      | some port => (uri.withPort port).mapError .aim

/-- Where a request is sent next, given its URI, the host named and the headers of the answer
(`redirect_target`). -/
def target (current : Uri) (host : String) (fields : Fields) : Except RedirectFault Uri :=
  match current.withHost host with
  | .error fault => .error (.aim fault)
  | .ok aimed =>
      match applyPath aimed fields with
      | .error fault => .error fault
      | .ok aimed => applyPort aimed fields

end Redirect
end RemoteCall
