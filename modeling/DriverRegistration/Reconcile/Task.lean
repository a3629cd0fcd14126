import DriverRegistration.DriverEdit
import DriverRegistration.Event
import DriverRegistration.RetryPolicy

/-!
# One edit of the driver map of a node

An edit is made in attempts.  An attempt reads the node, decodes the map under the annotation key,
makes the edit in it and writes the record back on the condition that the node is still at the
version that was read.  Only an attempt that loses to another writer is followed by a further one,
after a pause and from a fresh read.

The attempts are given as a machine: `Phase` says what is due next, `afterRead` and `afterWrite`
what an answer of the store makes of it, and `advance` lets what is due take effect.  Whoever drives
the machine decides when.
-/

namespace DriverRegistration

/-- The annotation that holds the driver map of a node. -/
def standardKey : String := "csi.volume.kubernetes.io/nodeid"

/-- How a driver map is edited: under which annotation, and how often at most. -/
structure Reconciler where
  key : String := standardKey
  retry : RetryPolicy := .standard
  deriving DecidableEq, Repr

/-- An edit to be made on a node. -/
structure EditTask extends Reconciler where
  node : String
  edit : DriverEdit
  deriving DecidableEq, Repr

namespace EditTask

/-- What is due next in an edit. -/
inductive Phase where
  /-- A read of the node. -/
  | reading (attempt : Nat)
  /-- The write of a record. -/
  | writing (attempt : Nat) (record : NodeRecord)
  /-- The pause after an attempt that lost. -/
  | pausing (attempt : Nat)
  /-- Nothing: the edit has ended. -/
  | finished (result : EditResult)
  /-- Nothing: the pause after an attempt that lost is not defined. -/
  | stuck

/-- The first phase of every edit. -/
def start : Phase := .reading 1

/-- What an edit has come to, if it has ended. -/
def Phase.result? : Phase → Option EditResult
  | finished result => some result
  | _ => none

/-- A record with its driver map replaced. -/
def revised (t : EditTask) (r : NodeRecord) (m : DriverMap) : NodeRecord :=
  { r with annotations := some (rebind r.annotations t.key (DriverMap.encode m)) }

/-- The record to write in place of the one that was read, or nothing when that one already reflects
the edit. -/
def proposal (t : EditTask) (r : NodeRecord) : Except CorruptMap (Option NodeRecord) :=
  match DriverMap.decode (r.value? t.key) with
  | .ok m => .ok ((t.edit.apply m).map (t.revised r))
  | .error e => .error e

/-- What the answer to a read makes of an edit. -/
def afterRead (t : EditTask) (attempt : Nat) :
    Except StoreError NodeRecord → Phase × List Event
  | .error e => (.finished (.error (.fetch t.node e)), [.unreadable e])
  | .ok r =>
    match t.proposal r with
    | .error e =>
      (.finished (.error (.corrupt t.node t.key e)), [.corrupt t.key (r.value? t.key) e])
    | .ok none => (.finished (.ok .unchanged), [])
    | .ok (some r') => (.writing attempt r', [])

/-- What becomes of an edit whose attempt lost to another writer. -/
def afterConflict (t : EditTask) (attempt : Nat) (e : StoreError) : Phase × List Event :=
  if t.retry.budget ≤ attempt then
    (.finished (.error (.exhausted t.node t.retry.budget)), [.exhausted t.retry.budget])
  else if t.retry.delay attempt = .undefined then (.stuck, [])
  else (.pausing attempt, [.retrying attempt (t.retry.fixedDelay? attempt) e])

/-- What the answer to a write makes of an edit. -/
def afterWrite (t : EditTask) (attempt : Nat) :
    Except StoreError NodeRecord → Phase × List Event
  | .ok _ => (.finished (.ok (.updated attempt)), [])
  | .error e =>
    if e.isConflict then t.afterConflict attempt e
    else (.finished (.error (.write t.node e)), [])

/-! ## Steps -/

/-- A question that was put to a store, with the answer. -/
inductive Call where
  | get (node : String) (answer : Except StoreError NodeRecord)
  | update (record : NodeRecord) (answer : Except StoreError NodeRecord)

/-- What a step has brought: the phase it leads to, the questions it has put to the store, and what
it has reported. -/
structure Progress where
  phase : Phase
  calls : List Call := []
  events : List Event := []

/-- What two steps have brought, one after the other. -/
def Progress.append (p q : Progress) : Progress :=
  ⟨q.phase, p.calls ++ q.calls, p.events ++ q.events⟩

/-- Let what is due take effect. -/
def advance {σ : Type} (store : NodeStore σ) (t : EditTask) : Phase → σ → Progress × σ
  | .reading attempt, s =>
    let (answer, s) := store.get t.node s
    let (phase, events) := t.afterRead attempt answer
    (⟨phase, [.get t.node answer], events⟩, s)
  | .writing attempt record, s =>
    let (answer, s) := store.update record s
    let (phase, events) := t.afterWrite attempt answer
    (⟨phase, [.update record answer], events⟩, s)
  | .pausing attempt, s => ({ phase := .reading (attempt + 1) }, s)
  | phase, s => ({ phase }, s)

end EditTask

end DriverRegistration
