/-!
# Route keys

Where a call landed is remembered under a key made of the host it was sent to, the interface, the
method and, if the call is about one entity, that entity.
-/

namespace RemoteCall
namespace Route

/-- The key of a call.  An empty entity counts as none (`build_request_to_uri_cache_key`). -/
def key (host interface method : String) (entity : Option String) : String :=
  let common := host ++ "->" ++ interface ++ "::" ++ method
  match entity with
  | none => common
  | some identifier => if identifier.isEmpty then common else common ++ "_" ++ identifier

end Route
end RemoteCall
