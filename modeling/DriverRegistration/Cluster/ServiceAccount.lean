import DriverRegistration.Cluster.Connection
import DriverRegistration.Text.Integer

/-!
# Access from inside a cluster

A process that runs in a cluster finds the address of the cluster in its environment, and its token
and the certificates of the cluster in files.
-/

namespace DriverRegistration.Cluster.ServiceAccount

/-- Where the files of the service account are. -/
def directory : String := "/var/run/secrets/kubernetes.io/serviceaccount/"

/-- The variable with the host of the cluster. -/
def hostVariable : String := "KUBERNETES_SERVICE_HOST"

/-- The variable with the port of the cluster. -/
def portVariable : String := "KUBERNETES_SERVICE_PORT"

/-- The largest port. -/
def portLimit : Nat := 65535

/-- The port that an address need not name. -/
def usualPort : Nat := 443

/-- Why a process does not find its cluster. -/
inductive Fault where
  | noVariable
  | port (fault : Text.IntegerFault)
  | address (fault : UriFault)
  | namespaceFile (source : SystemError)
  | certificateFile (source : SystemError)
  | certificates (fault : Text.SectionFault)
  deriving DecidableEq, Repr

/-- The text of a fault. -/
def Fault.message : Fault → String
  | noVariable =>
    "failed to read an incluster environment variable: environment variable not found"
  | port fault => "failed to parse cluster port: " ++ fault.message
  | address fault => "failed to parse cluster url: " ++ fault.message
  | namespaceFile source => "failed to read the default namespace: " ++ source.message
  | certificateFile source => "failed to read a certificate bundle: " ++ source.message
  | certificates fault => "failed to parse PEM-encoded certificates: " ++ fault.message

/-- The address of a host and a port as it is written. -/
def addressText (host : String) (port : Nat) : String :=
  let host := if Text.isLongAddress host.toList then "[" ++ host ++ "]" else host
  "https://" ++ host ++ if port = usualPort then "" else ":" ++ toString port

/-- The address of the cluster. -/
def address (environment : String → Option String) : Except Fault Uri := do
  match environment hostVariable, environment portVariable with
  | some host, some port =>
    let port ← (Text.natural portLimit port.toList).mapError .port
    (Uri.parse (addressText host port)).mapError .address
  | _, _ => .error .noVariable

/-- The access of the process to its cluster. -/
def access (environment : String → Option String) (files : FileReader) : Except Fault Access := do
  let address ← address environment
  let _ ← (files (directory ++ "namespace")).mapError .namespaceFile
  let octets ← (files (directory ++ "ca.crt")).mapError .certificateFile
  let sections ← (Text.sections (Text.utf8 octets)).mapError .certificates
  return {
    address
    authorities := some (Endpoint.certificatesOf sections)
    credentials := { tokenFile := some (directory ++ "token") } }

/-- Connect to the cluster that a process runs in, at a time in seconds of the epoch. -/
def connect (environment : String → Option String) (files : FileReader) (now : Int) :
    Except ConnectFailure Access := do
  let a ← (access environment files).mapError fun f =>
    .refused (.api ("in-cluster config: " ++ f.message))
  a.judge files now
  return a

end DriverRegistration.Cluster.ServiceAccount
