import DriverRegistration.Json.Shape
import DriverRegistration.Node.Record
import DriverRegistration.Timestamp

/-!
# Node objects

The shape of the node objects that the cluster's interface answers with, and the part of an object
that a registrar sees.  All members are optional.
-/

namespace DriverRegistration.Cluster.NodeObject

open Json (Shape)

/-! ## Shapes of single values -/

/-- A 64-bit integer. -/
def long : Shape := .integer "i64" (-9223372036854775808) 9223372036854775807

/-- A 32-bit integer. -/
def int : Shape := .integer "i32" (-2147483648) 2147483647

/-- A point in time. -/
def time : Shape :=
  .formatted "an RFC 3339 formatted date and time string" fun s =>
    match Timestamp.read s with
    | .ok _ => .ok ()
    | .error f => .error f.message

/-- Members that are all texts. -/
def textMembers (keys : List String) : List (String × Shape) := keys.map (·, .text)

/-! ## The metadata of an object -/

/-- Who manages some of the fields of an object. -/
def managedFields : Shape :=
  .object "ManagedFieldsEntry" <|
    textMembers ["apiVersion", "fieldsType", "manager", "operation", "subresource"] ++
      [("fieldsV1", .anything), ("time", time)]

/-- An object that an object belongs to. -/
def ownerReference : Shape :=
  .object "OwnerReference" <|
    textMembers ["apiVersion", "kind", "name", "uid"] ++
      [("blockOwnerDeletion", .flag), ("controller", .flag)]

/-- The metadata of an object. -/
def metadata : Shape :=
  .object "ObjectMeta" <|
    textMembers ["generateName", "name", "namespace", "resourceVersion", "selfLink", "uid"] ++
      [("annotations", .dict .text), ("labels", .dict .text), ("creationTimestamp", time),
        ("deletionTimestamp", time), ("deletionGracePeriodSeconds", long), ("generation", long),
        ("finalizers", .list .text), ("managedFields", .list managedFields),
        ("ownerReferences", .list ownerReference)]

/-! ## What is wanted of a node -/

/-- Where the configuration of a node comes from. -/
def configSource : Shape :=
  .object "NodeConfigSource"
    [("configMap", .object "ConfigMapNodeConfigSource" <|
      textMembers ["kubeletConfigKey", "name", "namespace", "resourceVersion", "uid"])]

/-- What keeps pods off a node. -/
def taint : Shape :=
  .object "Taint" <| textMembers ["effect", "key", "value"] ++ [("timeAdded", time)]

/-- What is wanted of a node. -/
def spec : Shape :=
  .object "NodeSpec" <|
    textMembers ["externalID", "podCIDR", "providerID"] ++
      [("configSource", configSource), ("podCIDRs", .list .text), ("taints", .list taint),
        ("unschedulable", .flag)]

/-! ## What is known of a node -/

/-- A condition that a node is in. -/
def condition : Shape :=
  .object "NodeCondition" <|
    textMembers ["message", "reason", "status", "type"] ++
      [("lastHeartbeatTime", time), ("lastTransitionTime", time)]

/-- The configuration that a node runs with. -/
def config : Shape :=
  .object "NodeConfigStatus"
    [("active", configSource), ("assigned", configSource), ("error", .text),
      ("lastKnownGood", configSource)]

/-- Where the services on a node listen. -/
def daemonEndpoints : Shape :=
  .object "NodeDaemonEndpoints" [("kubeletEndpoint", .object "DaemonEndpoint" [("Port", int)])]

/-- An image that a node holds. -/
def image : Shape := .object "ContainerImage" [("names", .list .text), ("sizeBytes", long)]

/-- The identity and the software of a node. -/
def nodeInfo : Shape :=
  .object "NodeSystemInfo" <|
    textMembers ["architecture", "bootID", "containerRuntimeVersion", "kernelVersion",
      "kubeProxyVersion", "kubeletVersion", "machineID", "operatingSystem", "osImage", "systemUUID"]

/-- A way to run containers. -/
def runtimeHandler : Shape :=
  .object "NodeRuntimeHandler"
    [("features", .object "NodeRuntimeHandlerFeatures"
        [("recursiveReadOnlyMounts", .flag), ("userNamespaces", .flag)]),
      ("name", .text)]

/-- What is known of a node. -/
def status : Shape :=
  .object "NodeStatus"
    [("addresses", .list (.object "NodeAddress" (textMembers ["address", "type"]))),
      ("allocatable", .dict .text), ("capacity", .dict .text), ("conditions", .list condition),
      ("config", config), ("daemonEndpoints", daemonEndpoints),
      ("features", .object "NodeFeatures" [("supplementalGroupsPolicy", .flag)]),
      ("images", .list image), ("nodeInfo", nodeInfo), ("phase", .text),
      ("runtimeHandlers", .list runtimeHandler),
      ("volumesAttached", .list (.object "AttachedVolume" (textMembers ["devicePath", "name"]))),
      ("volumesInUse", .list .text)]

/-! ## The object -/

/-- The version of the interface that node objects belong to. -/
def apiVersion : String := "v1"

/-- The kind of a node object. -/
def kind : String := "Node"

/-- The shape of a node object. -/
def shape : Shape :=
  .object kind
    [("apiVersion", .constant apiVersion apiVersion), ("kind", .constant kind kind),
      ("metadata", metadata), ("spec", spec), ("status", status)]

/-- What a registrar sees of a node object. -/
def record (v : Json.Value) : NodeRecord :=
  let meta? := v.get? "metadata"
  { name := ((meta?.bind (·.get? "name")).bind (·.text?)).getD ""
    annotations := (meta?.bind (·.get? "annotations")).bind (·.textMap?)
    version := (meta?.bind (·.get? "resourceVersion")).bind (·.text?) }

/-- The node object in a body; a refusal is given as its text. -/
def decode (body : String) : Except String Json.Value :=
  (shape.document body).mapError (·.message body)

end DriverRegistration.Cluster.NodeObject
