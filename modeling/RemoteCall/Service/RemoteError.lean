/-!
# Errors of remote methods

A remote method that fails says of which class its error is, what happened, and gives a code.
-/

namespace RemoteCall

/-- The error of a remote method (`RemoteError`). -/
structure RemoteError where
  className : String
  message : String
  code : Int64
  deriving DecidableEq, Repr

/-- The class and the message in one line (`RemoteError::fmt`). -/
def RemoteError.display (error : RemoteError) : String :=
  error.className ++ ": " ++ error.message

end RemoteCall
