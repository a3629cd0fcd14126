import DriverRegistration.DriverMap
import DriverRegistration.Node.Store

/-!
# Outcomes of an edit

An edit of the driver map of a node ends without a write, with a write after a number of attempts,
or in one of four errors.
-/

namespace DriverRegistration

/-- How an edit succeeded. -/
inductive EditOutcome where
  /-- The node already reflected the edit. -/
  | unchanged
  /-- The node was written in the last of so many attempts. -/
  | updated (attempts : Nat)
  deriving DecidableEq, Repr

/-- How an edit failed. -/
inductive ReconcileError where
  /-- The node could not be read. -/
  | fetch (node : String) (source : StoreError)
  /-- The node could not be written, for a reason that a retry does not mend. -/
  | write (node : String) (source : StoreError)
  /-- The value under the key is corrupt. -/
  | corrupt (node key : String) (source : CorruptMap)
  /-- Every attempt lost to another writer. -/
  | exhausted (node : String) (attempts : Nat)
  deriving DecidableEq, Repr

namespace ReconcileError

/-- The text of an error. -/
def message : ReconcileError → String
  | fetch node source => "failed to get node " ++ node ++ ": " ++ source.message
  | write node source => "failed to update node " ++ node ++ ": " ++ source.message
  | corrupt node key source => "node " ++ node ++ " annotation " ++ key ++ ": " ++ source.message
  | exhausted node attempts =>
    "giving up on node " ++ node ++ " after " ++ toString attempts ++ " conflicting updates"

/-- The texts of what an error came from, the nearest first. -/
def sources : ReconcileError → List String
  | fetch _ source => [source.message]
  | write _ source => [source.message]
  | corrupt _ _ source => [source.message, source.reason]
  | exhausted .. => []

/-- Whether the budget of attempts was used up. -/
def isExhausted : ReconcileError → Bool
  | exhausted .. => true
  | _ => false

end ReconcileError

/-- How an edit ended. -/
abbrev EditResult := Except ReconcileError EditOutcome

end DriverRegistration
