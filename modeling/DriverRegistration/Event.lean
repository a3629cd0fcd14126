import DriverRegistration.Duration
import DriverRegistration.Reconcile.Error

/-!
# Log events

What a registrar reports besides its results, at the levels of a warning or an error.  An event is
written as a message with named fields, in a fixed order.
-/

namespace DriverRegistration

/-- How grave an event is. -/
inductive Level where
  | warn
  | error
  deriving DecidableEq, Repr

/-- The name of a level. -/
def Level.name : Level → String
  | warn => "WARN"
  | error => "ERROR"

/-- Something worth reporting. -/
inductive Event where
  /-- An update lost to another writer and is made again after a pause, which is named where the
  policy adds no random part to pauses. -/
  | retrying (attempt : Nat) (pause : Option Duration) (cause : StoreError)
  /-- The last update of the budget lost, too. -/
  | exhausted (attempts : Nat)
  /-- The node could not be read. -/
  | unreadable (cause : StoreError)
  /-- The value under the key is corrupt. -/
  | corrupt (key : String) (value : Option String) (cause : CorruptMap)
  /-- A periodic edit failed; the next one is made in time. -/
  | syncFailed (node driver : String) (cause : ReconcileError)
  /-- The removal at the end failed. -/
  | removalFailed (node driver : String) (cause : ReconcileError)
  /-- The plugin watcher could not register the driver. -/
  | registrationFailed (driver reason : String)
  /-- The driver is not up yet. -/
  | unreachable (reason : String)
  deriving DecidableEq, Repr

namespace Event

/-- The value of a field: a number, or a text. -/
inductive FieldValue where
  | number (value : Nat)
  | text (value : String)
  deriving DecidableEq, Repr

/-- The level of an event. -/
def level : Event → Level
  | retrying .. | unreachable _ => .warn
  | _ => .error

/-- The message of an event. -/
def message : Event → String
  | retrying .. => "node changed underneath us, retrying"
  | exhausted _ => "retry budget exhausted by conflicting updates"
  | unreadable _ => "failed to get latest version of node"
  | corrupt .. => "failed to parse node annotation"
  | syncFailed .. => "failed to sync node annotation"
  | removalFailed .. => "failed to remove driver from node"
  | registrationFailed .. => "registration process failed"
  | unreachable _ => "CSI driver not reachable yet, still trying"

/-- The fields of an event. -/
def fields : Event → List (String × FieldValue)
  | retrying attempt pause cause =>
    ("attempt", .number attempt) :: pause.toList.map (fun d => ("delay", .text d.text)) ++
      [("error", .text cause.message)]
  | exhausted attempts => [("attempts", .number attempts)]
  | unreadable cause => [("error", .text cause.message)]
  | corrupt key value cause =>
    [("key", .text key), ("value", .text (Text.quotedOption value)),
      ("error", .text cause.message)]
  | syncFailed node driver cause | removalFailed node driver cause =>
    [("node", .text node), ("driver", .text driver), ("error", .text cause.message)]
  | registrationFailed driver reason => [("driver", .text driver), ("error", .text reason)]
  | unreachable reason => [("error", .text reason)]

end Event

end DriverRegistration
