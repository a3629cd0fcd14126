import DriverRegistration.Node.Record

/-!
# Access to node records

A store answers two questions: the record of a node, and the write of a record on the condition that
the node is still at the version of the record.  What a store is made of stays open (`NodeStore`),
since the records may lie in memory or behind a cluster's interface.
-/

namespace DriverRegistration

/-- Why a store does not answer with a record. -/
inductive StoreError where
  /-- The write was based on a version that is no longer current. -/
  | conflict (node message : String)
  /-- There is no such node. -/
  | notFound (node : String)
  /-- Anything else: the interface, the network, a permission. -/
  | api (message : String)
  deriving DecidableEq, Repr

namespace StoreError

/-- The text of an error. -/
def message : StoreError → String
  | conflict node text => "conflicting update to node " ++ node ++ ": " ++ text
  | notFound node => "node " ++ node ++ " not found"
  | api text => "node store error: " ++ text

/-- Whether the write may succeed when it is made again from a fresh read. -/
def isConflict : StoreError → Bool
  | conflict .. => true
  | _ => false

end StoreError

/-- Read access and conditional write access to node records, over states of type `σ`. -/
structure NodeStore (σ : Type) where
  /-- The record of a node. -/
  get : String → σ → Except StoreError NodeRecord × σ
  /-- Write the annotations of a record, if the node is still at its version. -/
  update : NodeRecord → σ → Except StoreError NodeRecord × σ

end DriverRegistration
