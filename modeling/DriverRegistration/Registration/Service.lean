import DriverRegistration.Event
import DriverRegistration.Registration.Info

/-!
# The handshake with the plugin watcher

The plugin watcher asks for the plugin and later reports whether it could register it.  Reports of
failure are queued for whoever runs the service.  The queue is bounded, and a report that finds it
full is acknowledged and dropped, since the first failure ends the service.
-/

namespace DriverRegistration

/-- A report of the plugin watcher, as it is sent. -/
structure StatusMessage where
  registered : Bool
  /-- The reason of a failure; empty when there is none. -/
  error : String
  deriving DecidableEq, Repr

/-- A report of the plugin watcher. -/
structure RegistrationStatus where
  registered : Bool
  error : Option String
  deriving DecidableEq, Repr

/-- The report that a message stands for. -/
def StatusMessage.status (m : StatusMessage) : RegistrationStatus :=
  ⟨m.registered, if m.error = "" then none else some m.error⟩

/-- The reason of a report. -/
def RegistrationStatus.reason (s : RegistrationStatus) : String := s.error.getD ""

/-- The service that the plugin watcher calls, with the reports of failure that wait. -/
structure RegistrationService where
  info : RegistrationInfo
  /-- How many reports may wait. -/
  capacity : Nat
  /-- The reasons that wait, the oldest first. -/
  failures : List String := []
  deriving DecidableEq, Repr

namespace RegistrationService

/-- A service with an empty queue; a queue without room is refused. -/
def new? (info : RegistrationInfo) (capacity : Nat) : Option RegistrationService :=
  if capacity = 0 then none else some { info, capacity }

/-- A service with a reason added to its queue, if there is room. -/
def enqueue (reason : String) (s : RegistrationService) : RegistrationService :=
  if s.failures.length < s.capacity then { s with failures := s.failures ++ [reason] } else s

/-- Take note of a report.  Gives whether the driver was registered, and what is logged. -/
def observe (status : RegistrationStatus) (s : RegistrationService) :
    (Bool × List Event) × RegistrationService :=
  if status.registered then ((true, []), s)
  else ((false, [.registrationFailed s.info.name status.reason]), s.enqueue status.reason)

/-- The oldest reason that waits, which is taken from the queue. -/
def receive (s : RegistrationService) : Option String × RegistrationService :=
  match s.failures with
  | [] => (none, s)
  | reason :: rest => (some reason, { s with failures := rest })

/-- What can be done with a service. -/
inductive Step where
  /-- A call that asks for the plugin. -/
  | getInfo
  /-- A call that reports. -/
  | notify (message : StatusMessage)
  /-- A report from within the process. -/
  | observe (status : RegistrationStatus)
  /-- A look for a reason that waits. -/
  | receive
  deriving DecidableEq, Repr

/-- What comes of a step. -/
inductive Reply where
  | info (message : PluginInfo)
  | acknowledged
  | observed (registered : Bool)
  | failure (reason : Option String)
  deriving DecidableEq, Repr

/-- Take a step. -/
def step (s : RegistrationService) : Step → (Reply × List Event) × RegistrationService
  | .getInfo => ((.info s.info.message, []), s)
  | .notify message =>
    let ((_, events), s) := s.observe message.status
    ((.acknowledged, events), s)
  | .observe status =>
    let ((registered, events), s) := s.observe status
    ((.observed registered, events), s)
  | .receive =>
    let (reason, s) := s.receive
    ((.failure reason, []), s)

/-- Take steps one after another. -/
def run : RegistrationService → List Step → List (Reply × List Event)
  | _, [] => []
  | s, step :: steps => (s.step step).1 :: run (s.step step).2 steps

end RegistrationService

end DriverRegistration
