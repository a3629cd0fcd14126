import DriverRegistration.Error
import DriverRegistration.Registration.Service

/-!
# A handshake from beginning to end

A service is run until it is asked to stop or until the plugin watcher reports a failure, which ends
it with that failure at once: the watcher's call may be cut off, and later ones find nobody.
-/

namespace DriverRegistration

/-- What a plugin watcher does. -/
inductive WatcherCall where
  | getInfo
  | notify (message : StatusMessage)
  deriving DecidableEq, Repr

/-- The step of the service that a call is. -/
def WatcherCall.step : WatcherCall → RegistrationService.Step
  | getInfo => .getInfo
  | notify message => .notify message

/-- A handshake that is over: what the watcher was answered, how the service ended and what was
logged. -/
structure Handshake where
  /-- The answers, the first one first; a call that ended the service has none. -/
  answers : List (Option RegistrationService.Reply)
  ending : Except RegistrarError Unit
  events : List Event

namespace Handshake

/-- How many failures may wait for the service to end. -/
def capacity : Nat := 1

/-- Serve the calls of a watcher, and stop after the last one. -/
def serve : RegistrationService → List WatcherCall → Handshake
  | _, [] => ⟨[], .ok (), []⟩
  | s, call :: calls =>
    let ((reply, events), s) := s.step call.step
    match s.receive with
    | (some reason, _) => ⟨[none], .error (.registrationFailed reason), events⟩
    | (none, s) =>
      let rest := serve s calls
      ⟨some reply :: rest.answers, rest.ending, events ++ rest.events⟩

/-- The handshake about a plugin. -/
def run (info : RegistrationInfo) (calls : List WatcherCall) : Handshake :=
  serve { info, capacity } calls

end Handshake

end DriverRegistration
