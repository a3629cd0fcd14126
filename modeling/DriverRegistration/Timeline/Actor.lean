import DriverRegistration.Identity.Fetch
import DriverRegistration.Node.MemoryStore
import DriverRegistration.Reconcile.Sync

/-!
# Actors on a timeline

Several registrars and other writers work on one store in memory.  Each of them starts at its own
time and waits for the store: a read or a write takes effect some time after it was asked for.
Times are whole milliseconds from the start of the timeline.
-/

namespace DriverRegistration

/-- How long a read and a write take to reach the store, by the time they are asked for. -/
structure Latency where
  get : Nat → Nat
  update : Nat → Nat

/-- Latencies that are always the same. -/
def Latency.constant (get update : Nat) : Latency := ⟨fun _ => get, fun _ => update⟩

namespace Timeline

/-- What an actor does. -/
inductive Work where
  /-- Record a driver periodically until the given time, then remove it. -/
  | runUntil (identity : DriverIdentity) (interval : Duration) (stop : Nat)
  /-- Record a driver periodically until the given time. -/
  | syncLoop (identity : DriverIdentity) (interval : Duration) (stop : Nat)
  /-- Make one edit. -/
  | edit (edit : DriverEdit)
  /-- Change the store at once. -/
  | change (act : MemoryStore → MemoryStore)

/-- An actor. -/
structure Actor where
  name : String
  start : Nat
  node : String
  reconciler : Reconciler
  latency : Latency
  work : Work

namespace Actor

/-- An edit that the actor makes on its node. -/
def task (a : Actor) (edit : DriverEdit) : EditTask := { a.reconciler with node := a.node, edit }

/-- The edit that a periodic actor makes in every cycle. -/
def upsert (a : Actor) (identity : DriverIdentity) : EditTask :=
  Sync.recording a.reconciler a.node identity

/-- The edit that removes a driver. -/
def removal (a : Actor) (identity : DriverIdentity) : EditTask := a.task (.remove identity.name)

/-- How long it takes from a phase of an edit, which begins at `now`, until what is due takes
effect. -/
def wait (a : Actor) (now : Nat) : EditTask.Phase → Nat
  | .reading _ => a.latency.get now
  | .writing .. => a.latency.update now
  | .pausing attempt => (a.reconciler.retry.delay attempt).pause.ceilMillis
  | _ => 0

end Actor

/-- How an actor ended. -/
inductive Ending where
  /-- A change was made. -/
  | changed
  | edited (result : EditResult)
  | stopped
  /-- The periodic part, or the edit, could not go on. -/
  | died

/-- What happens on a timeline. -/
inductive Occurrence where
  | asked (call : EditTask.Call)
  /-- The time has come to stop and to remove the driver. -/
  | shutdown
  | ended (how : Ending)

/-- What happened, when, and to which actor. -/
structure Entry where
  time : Nat
  actor : String
  what : Occurrence

end Timeline

end DriverRegistration
