import DriverRegistration.Json.Value
import DriverRegistration.Node.Record
import DriverRegistration.Uri

/-!
# Requests to the cluster's interface

A node is read by its name, and written by a merge patch that carries the version that the record
was read at, so that the interface refuses a write that another one overtook.  A name goes into the
target of the request as it is: what a target cannot hold makes the request impossible, and a `#`
ends it.
-/

namespace DriverRegistration.Cluster

/-- What is asked of a node object. -/
inductive Method where
  | get
  | patch
  deriving DecidableEq, Repr

/-- The word for a method on the wire. -/
def Method.word : Method → String
  | get => "GET"
  | patch => "PATCH"

/-- A request: what is asked, of which target, and the merge patch where there is one. -/
structure Request where
  method : Method
  target : String
  change : Option Json.Value
  deriving Repr

/-- Why a request cannot be made. -/
inductive RequestFault where
  | emptyName
  /-- The name does not fit into a target. -/
  | target (fault : UriFault)
  deriving DecidableEq, Repr

/-- The text of a fault. -/
def RequestFault.message : RequestFault → String
  | emptyName => "failed to validate request: A non-empty name is required"
  | target fault => "failed to build request: " ++ fault.message

/-- The target that some text describes. -/
def targetOf (s : String) : Except RequestFault String :=
  ((Uri.parse s).map Uri.text).mapError .target

/-- The place of the node objects. -/
def nodesPath : String := "/api/v1/nodes/"

namespace Request

/-- The media type of a merge patch. -/
def mergePatchType : String := "application/merge-patch+json"

/-- The type of the body, where there is one. -/
def contentType (r : Request) : Option String := r.change.map fun _ => mergePatchType

/-- The body of a request. -/
def body (r : Request) : String := (r.change.map Json.Value.write).getD ""

/-- The request that reads a node. -/
def read (name : String) : Except RequestFault Request :=
  if name = "" then .error .emptyName
  else (targetOf (nodesPath ++ name)).map fun t => ⟨.get, t, none⟩

/-- The patch that gives a node the annotations of a record, at the version of the record. -/
def patchOf (r : NodeRecord) : Json.Value :=
  .object
    [("metadata", .object
      [("annotations", .ofTextMap? r.annotations), ("resourceVersion", .ofText? r.version)])]

/-- The request that writes the annotations of a record. -/
def write (r : NodeRecord) : Except RequestFault Request :=
  if r.name = "" then .error .emptyName
  else (targetOf (nodesPath ++ r.name ++ "?")).map fun t => ⟨.patch, t, some (patchOf r)⟩

end Request

end DriverRegistration.Cluster
