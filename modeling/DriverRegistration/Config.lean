import DriverRegistration.RetryPolicy

/-!
# Configuration

What a registrar is told once, at its start.  The mode is chosen by the registration path: a
non-empty one is the endpoint that the registration handshake advertises, and without one the driver
map of the node is maintained.
-/

namespace DriverRegistration

/-- How the driver is announced. -/
inductive Mode where
  /-- Answer the handshake of the plugin watcher, which scans `directory` for sockets. -/
  | handshake (endpoint directory : String)
  /-- Keep the entry of the driver on the node record, re-asserted every `interval`. -/
  | reconcile (kubeconfig : Option String) (interval : Duration)
  deriving DecidableEq, Repr

/-- The mode that a registration path selects. -/
def Mode.select (registrationPath : Option String) (directory : String)
    (kubeconfig : Option String) (interval : Duration) : Mode :=
  match registrationPath with
  | none => .reconcile kubeconfig interval
  | some endpoint =>
    if endpoint = "" then .reconcile kubeconfig interval else .handshake endpoint directory

/-- The versions of the handshake that are offered, oldest first. -/
def supportedVersions : List String := ["0.2.0", "0.3.0"]

/-- What a registrar runs with. -/
structure Config where
  nodeName : String
  csiAddress : String
  /-- How long the driver is waited for at the start. -/
  connectionTimeout : Duration
  retry : RetryPolicy
  versions : List String
  mode : Mode
  deriving DecidableEq, Repr

namespace Config

/-- A configuration with the standard timeout, retry policy and versions. -/
def ofMode (nodeName csiAddress : String) (mode : Mode) : Config where
  nodeName := nodeName
  csiAddress := csiAddress
  connectionTimeout := .ofSeconds 60
  retry := .standard
  versions := supportedVersions
  mode := mode

/-- Why a registrar cannot run with a configuration. -/
inductive Fault where
  | emptyNodeName
  | emptyAddress
  | emptyDirectory
  | noInterval
  deriving DecidableEq, Repr

/-- The text of a fault. -/
def Fault.message : Fault → String
  | emptyNodeName => "node name must not be empty"
  | emptyAddress => "CSI address must not be empty"
  | emptyDirectory => "registration directory must not be empty"
  | noInterval => "sync interval must be positive"

/-- The first fault of a mode. -/
def modeFault? : Mode → Option Fault
  | .handshake _ directory => if directory = "" then some .emptyDirectory else none
  | .reconcile _ interval => if interval.nanos = 0 then some .noInterval else none

/-- The first fault of a configuration. -/
def fault? (c : Config) : Option Fault :=
  if c.nodeName = "" then some .emptyNodeName
  else if c.csiAddress = "" then some .emptyAddress
  else modeFault? c.mode

end Config

end DriverRegistration
