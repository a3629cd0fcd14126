import DriverRegistration.Event
import DriverRegistration.Identity.Fetch
import DriverRegistration.Reconcile.Run

/-!
# Periodic edits

A registrar makes the edit that records its driver again and again.  Each cycle starts at its
deadline, or once the one before it is over.  The deadlines are a period apart; a cycle that starts
much too late moves the following deadlines back, so that no burst of cycles makes up for the delay.
A cycle that fails is reported and changes nothing else.
-/

namespace DriverRegistration.Sync

variable {σ : Type}

/-- How late a cycle may start without moving the deadlines, in nanoseconds. -/
def grace : Nat := 5000000

/-- The deadline after one whose cycle started at the given time. -/
def nextDeadline (period deadline start : Nat) : Nat :=
  if deadline + grace < start then start + period else deadline + period

/-- What is reported about a cycle. -/
def report (node driver : String) : EditResult → List Event
  | .ok _ => []
  | .error e => [.syncFailed node driver e]

/-- One cycle: when it started and ended, and what was reported about it. -/
structure Cycle where
  start : Nat
  finish : Nat
  events : List Event

/-- The edit that a registrar makes in every cycle. -/
def recording (r : Reconciler) (node : String) (identity : DriverIdentity) : EditTask :=
  { r with node, edit := .upsert identity.name identity.nodeId }

/-- A cycle of the loop, and what its edit has brought. -/
structure Round where
  cycle : Cycle
  progress : EditTask.Progress

/-- A number of cycles of the loop, each of which makes the edit from the store that the one before
it has left.  An edit that does not come to an end takes the loop with it. -/
def loopFrom (store : NodeStore σ) (t : EditTask) (period : Nat) (duration : Nat → Nat) :
    Nat → Nat → Nat → Nat → σ → List Round
  | 0, _, _, _, _ => []
  | count + 1, i, deadline, free, s =>
    let (progress, s') := t.run store s
    match progress.phase with
    | .finished result =>
      let start := Nat.max deadline free
      let finish := start + duration i
      let next := nextDeadline period deadline start
      ⟨⟨start, finish, report t.node t.edit.driver result⟩, progress⟩ ::
        loopFrom store t period duration count (i + 1) next finish s'
    | _ => []

/-- The first cycles of the loop from a time on.  There is no loop without a period. -/
def loop (store : NodeStore σ) (t : EditTask) (interval : Duration) (duration : Nat → Nat)
    (count start : Nat) (s : σ) : List Round :=
  if interval.nanos = 0 then [] else loopFrom store t interval.nanos duration count 0 start start s

/-- The store after a number of edits. -/
def storeAfter (store : NodeStore σ) (t : EditTask) : Nat → σ → σ
  | 0, s => s
  | count + 1, s => storeAfter store t count (t.run store s).2

end DriverRegistration.Sync
