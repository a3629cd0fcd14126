import DriverRegistration.Identity.Error
import DriverRegistration.Reconcile.Error
import DriverRegistration.Socket.Error

/-!
# Why a registrar ends

The errors of all parts together.  Those of a part keep their text and their sources.
-/

namespace DriverRegistration

/-- An error that ends a registrar. -/
inductive RegistrarError where
  | socket (source : SocketError)
  | identity (source : IdentityError)
  | reconcile (source : ReconcileError)
  /-- The plugin watcher could not register the driver. -/
  | registrationFailed (reason : String)
  /-- The configuration cannot be run with. -/
  | config (reason : String)
  deriving DecidableEq, Repr

namespace RegistrarError

/-- The text of an error. -/
def message : RegistrarError → String
  | socket e => e.message
  | identity e => e.message
  | reconcile e => e.message
  | registrationFailed reason => "registration process failed with error: " ++ reason
  | config reason => "invalid configuration: " ++ reason

/-- The texts of what an error came from, the nearest first. -/
def sources : RegistrarError → List String
  | socket e => e.sources
  | reconcile e => e.sources
  | identity _ | registrationFailed _ | config _ => []

end RegistrarError

end DriverRegistration
