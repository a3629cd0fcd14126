import DriverRegistration.Node.Store
import DriverRegistration.Text.Quoted

/-!
# Node records in memory

Every node has a version that grows by one with each change.  A write based on an older version is
refused.  Two queues stand for the rest of the world: failures that the next writes run into, and
writes of others that land just before the next write is checked.
-/

namespace DriverRegistration

/-- What another writer does to the annotations of a node. -/
abbrev ForeignWrite := TextMap String → TextMap String

/-- Another writer that clears the annotations if asked to, then sets some and drops some. -/
def ForeignWrite.ofLists (clear : Bool) (set : List (String × String)) (remove : List String) :
    ForeignWrite := fun m =>
  remove.foldl (fun m k => m.erase k)
    (set.foldl (fun m e => m.insert e.1 e.2) (if clear then .empty else m))

/-- A node in memory: its record, which carries a text for the version, and the version itself. -/
structure StoredNode where
  record : NodeRecord
  version : Nat
  deriving DecidableEq, Repr

namespace StoredNode

/-- The next version of a node, with these annotations; the record is given the text for it. -/
def advanced (annotations : Option (TextMap String)) (n : StoredNode) : StoredNode :=
  let version := n.version + 1
  ⟨{ n.record with annotations, version := some (toString version) }, version⟩

/-- A node that another writer has changed. -/
def changedBy (write : ForeignWrite) (n : StoredNode) : StoredNode :=
  n.advanced (some (write (n.record.annotations.getD .empty)))

end StoredNode

/-- Node records held in memory. -/
structure MemoryStore where
  nodes : TextMap StoredNode
  /-- Writes of others, each of which lands before one of the next updates. -/
  foreign : List ForeignWrite
  /-- Errors that the next updates answer with. -/
  failures : List StoreError
  gets : Nat
  updates : Nat
  writes : Nat

namespace MemoryStore

/-- The store without nodes. -/
def empty : MemoryStore := ⟨.empty, [], [], 0, 0, 0⟩

instance : Inhabited MemoryStore := ⟨empty⟩

/-! ## Preparation and inspection -/

/-- Create or replace a node. -/
def insertNode (name : String) (annotations : Option (TextMap String)) (s : MemoryStore) :
    MemoryStore :=
  let version := match s.nodes.get? name with
    | some n => n.version + 1
    | none => 1
  { s with nodes := s.nodes.insert name ⟨⟨name, annotations, some (toString version)⟩, version⟩ }

/-- The record of a node, without counting a read. -/
def record? (s : MemoryStore) (name : String) : Option NodeRecord :=
  (s.nodes.get? name).map StoredNode.record

/-- The value of an annotation of a node. -/
def value? (s : MemoryStore) (name key : String) : Option String :=
  (s.record? name).bind (·.value? key)

/-- Let another writer change the node of the next update before it is checked. -/
def interleave (write : ForeignWrite) (s : MemoryStore) : MemoryStore :=
  { s with foreign := s.foreign ++ [write] }

/-- Let another writer touch the nodes of the next updates without changing their annotations. -/
def injectConflicts (count : Nat) (s : MemoryStore) : MemoryStore :=
  { s with foreign := s.foreign ++ List.replicate count id }

/-- Let the next update fail. -/
def failNext (error : StoreError) (s : MemoryStore) : MemoryStore :=
  { s with failures := s.failures ++ [error] }

/-! ## The two questions -/

/-- Read the record of a node. -/
def get (name : String) (s : MemoryStore) : Except StoreError NodeRecord × MemoryStore :=
  let s := { s with gets := s.gets + 1 }
  match s.record? name with
  | some r => (.ok r, s)
  | none => (.error (.notFound name), s)

/-- Let the next queued write of another land on a node; without the node it is lost. -/
def landForeign (name : String) (s : MemoryStore) : MemoryStore :=
  match s.foreign with
  | [] => s
  | write :: rest =>
    match s.nodes.get? name with
    | none => { s with foreign := rest }
    | some n => { s with foreign := rest, nodes := s.nodes.insert name (n.changedBy write) }

/-- The refusal of a write that was based on another version. -/
def staleVersion (r : NodeRecord) (n : StoredNode) : StoreError :=
  .conflict r.name
    ("version " ++ Text.quotedOption r.version ++ " is stale, node is at " ++
      Text.quotedOption n.record.version)

/-- Write a record if the node still carries its version. -/
def commit (r : NodeRecord) (s : MemoryStore) : Except StoreError NodeRecord × MemoryStore :=
  match s.nodes.get? r.name with
  | none => (.error (.notFound r.name), s)
  | some n =>
    if r.version ≠ n.record.version then (.error (staleVersion r n), s)
    else
      let n' := n.advanced r.annotations
      (.ok n'.record, { s with nodes := s.nodes.insert r.name n', writes := s.writes + 1 })

/-- Write a record on the condition that the node is still at its version: a queued failure comes
first, then a queued write of another, then the check. -/
def update (r : NodeRecord) (s : MemoryStore) : Except StoreError NodeRecord × MemoryStore :=
  let s := { s with updates := s.updates + 1 }
  match s.failures with
  | error :: rest => (.error error, { s with failures := rest })
  | [] => commit r (s.landForeign r.name)

/-- Memory as a store. -/
def store : NodeStore MemoryStore := ⟨get, update⟩

end MemoryStore

end DriverRegistration
