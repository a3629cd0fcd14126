import DriverRegistration.Cluster.ServiceAccount
import DriverRegistration.CommandLine
import DriverRegistration.Identity.Connect
import DriverRegistration.Identity.Fetch
import DriverRegistration.Log.Record
import DriverRegistration.Registration.Handshake
import DriverRegistration.Socket.Path
import DriverRegistration.Socket.Prepare

/-!
# A registrar from start to end

A registrar learns who its driver is and then announces it.  Everything that it meets on the way is
given as `Surroundings`.  Each stage may end it with an error, of which the whole chain of causes is
logged; once the driver is announced, it ends when it is told to or when the announcement fails.
-/

namespace DriverRegistration.Registrar

/-- What a registrar meets. -/
structure Surroundings where
  files : FileContext FileTree
  /-- How the driver answers the question for its name. -/
  name : DriverIdentity.Answer
  /-- How the driver answers the question for the node id. -/
  nodeId : DriverIdentity.Answer
  /-- The variables of the environment. -/
  environment : String → Option String
  /-- The time, in seconds of the epoch. -/
  now : Int
  /-- What the plugin watcher does. -/
  watcher : List WatcherCall
  /-- Whether the registrar is told to stop in the end. -/
  stopped : Bool

/-- How a run ends. -/
inductive Ending where
  /-- With an exit status. -/
  | exited (status : Nat)
  /-- Only when it is told to, which nobody does; or only after talks with the cluster, which are
  not told here. -/
  | openEnded
  deriving DecidableEq, Repr

/-- A run: how it ends, what was logged, and what the plugin watcher was answered. -/
structure Run where
  ending : Ending
  records : List LogRecord := []
  answers : List (Option RegistrationService.Reply) := []

/-- An error with the texts of its causes. -/
def chain (texts : List String) : String := ": ".intercalate texts

/-- The error that ends a run before the driver is announced. -/
def startFailure (texts : List String) : Run :=
  { ending := .exited 1, records := [.failure (chain texts)] }

/-- An error of the registrar with the texts before it. -/
def endedBy (before : List String) (e : RegistrarError) : Run :=
  startFailure (before ++ e.message :: e.sources)

/-! ## Stages -/

/-- Reach the driver: there must be a socket at its address. -/
def reach (c : Config) (s : Surroundings) : Connect.Report :=
  let listens :=
    match s.files.files.stat (SocketPath.ofAddress c.csiAddress) with
    | .ok node => node.isSocket
    | .error _ => false
  Connect.run c.csiAddress c.connectionTimeout
    (if listens then fun _ => ⟨.ok (), .zero⟩ else Connect.refused Connect.noListener)

/-- How an answer looks to the side that asked. -/
def received (a : DriverIdentity.Answer) : DriverIdentity.Answer :=
  { a with reply := a.reply.mapError (·.received) }

/-- Ask the driver who it is. -/
def learn (s : Surroundings) : Except IdentityError DriverIdentity :=
  (DriverIdentity.fetch DriverIdentity.callLimit (received s.name) (received s.nodeId)).1

/-- Announce the driver in a handshake. -/
def handshake (c : Config) (endpoint directory : String) (driver : DriverIdentity)
    (s : Surroundings) : Run :=
  let path := SocketPath.registration directory driver.name
  match (RegistrationSocket.prepare FileTree.calls path s.files).1 with
  | .error e => endedBy ["failed to prepare registration socket " ++ path] (.socket e)
  | .ok () =>
    let h := Handshake.run (.ofDriver driver.name endpoint c.versions) s.watcher
    let events := h.events.map LogRecord.ofEvent
    match h.ending with
    | .ok () =>
      { ending := if s.stopped then .exited 0 else .openEnded, records := events,
        answers := h.answers }
    | .error e =>
      let stopped := LogRecord.failure "registration server stopped" [("error", .text e.message)]
      { ending := .exited 1, records := events ++ [stopped], answers := h.answers }

/-- The exit status of a run that ends at once. -/
def crashStatus : Nat := 101

/-- Announce the driver on the node record: find the cluster. -/
def reconcile (kubeconfig : Option String) (s : Surroundings) : Run :=
  let found := match kubeconfig with
    | some path => Cluster.Kubeconfig.connect path s.environment s.files.files.content s.now
    | none => Cluster.ServiceAccount.connect s.environment s.files.files.content s.now
  match found with
  | .ok _ => { ending := .openEnded }
  | .error (.refused e) => startFailure ["failed to build Kubernetes client", e.message]
  | .error .crash => { ending := .exited crashStatus }

/-- Announce the driver. -/
def announce (c : Config) (driver : DriverIdentity) (s : Surroundings) : Run :=
  match c.mode with
  | .handshake endpoint directory => handshake c endpoint directory driver s
  | .reconcile kubeconfig _ => reconcile kubeconfig s

/-- Run with a configuration. -/
def runConfig (c : Config) (s : Surroundings) : Run :=
  match c.fault? with
  | some fault => endedBy [] (.config fault.message)
  | none =>
    if !Connect.fitsClock c.connectionTimeout then { ending := .exited crashStatus }
    else
      let report := reach c s
      let before := report.events.map LogRecord.ofEvent
      let run :=
        match report.result with
        | .error e => endedBy [] (.identity e)
        | .ok () =>
          match learn s with
          | .error e => endedBy ["failed to learn CSI driver identity"] (.identity e)
          | .ok driver => announce c driver s
      { run with records := before ++ run.records }

/-- Run with a command line, under a log filter that may be set otherwise. -/
def run (c : CommandLine) (filter : Option String) (s : Surroundings) : Run :=
  match LogFilter.choose? filter c.logFilter with
  | some f =>
    let run := runConfig c.config s
    { run with records := LogRecord.kept f run.records }
  | none => { ending := .exited crashStatus }

end DriverRegistration.Registrar
