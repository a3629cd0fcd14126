import DriverRegistration.Files.SystemError

/-!
# Failures around the registration socket
-/

namespace DriverRegistration

/-- Why there is no registration socket. -/
inductive SocketError where
  /-- It is not known what is at the path. -/
  | stat (path : String) (source : SystemError)
  /-- Something other than a socket is at the path. -/
  | notASocket (path : String)
  /-- The socket of an earlier run could not be removed. -/
  | remove (path : String) (source : SystemError)
  /-- The socket could not be created. -/
  | bind (path : String) (source : SystemError)
  deriving DecidableEq, Repr

namespace SocketError

/-- The text of an error. -/
def message : SocketError → String
  | stat path source => "failed to stat socket " ++ path ++ ": " ++ source.message
  | notASocket path => path ++ " exists and is not a socket"
  | remove path source => "failed to remove stale socket " ++ path ++ ": " ++ source.message
  | bind path source => "failed to listen on socket " ++ path ++ ": " ++ source.message

/-- The texts of what an error came from. -/
def sources : SocketError → List String
  | stat _ source | remove _ source | bind _ source => [source.message]
  | notASocket _ => []

end SocketError

end DriverRegistration
