import DriverRegistration.Cluster.Kubeconfig
import DriverRegistration.Text.Sections

/-!
# Access to a cluster

The current context of a kubeconfig names a cluster and a user (`Kubeconfig.current`).  An `Access`
is what is needed to reach the cluster as that user, with all addresses taken apart.
-/

namespace DriverRegistration.Cluster

/-- Why a kubeconfig leads to no cluster. -/
inductive ContextFault where
  | noCurrentContext
  | unknownContext (name : String)
  | unknownCluster (name : String)
  | noAddress
  | invalidAddress (fault : UriFault)
  | authority
  | certificates (fault : Text.SectionFault)
  | invalidProxy (fault : UriFault)
  deriving DecidableEq, Repr

/-- The text of a fault. -/
def ContextFault.message : ContextFault → String
  | noCurrentContext => "failed to determine current context"
  | unknownContext name => "failed to load current context: " ++ name
  | unknownCluster name => "failed to load the cluster of context: " ++ name
  | noAddress => "cluster url is missing on selected cluster"
  | invalidAddress fault => "failed to parse cluster url: " ++ fault.message
  | authority => "failed to load certificate authority"
  | certificates fault => "failed to parse PEM-encoded certificates: " ++ fault.message
  | invalidProxy fault => "failed to parse proxy url: " ++ fault.message

/-- A cluster as a user reaches it. -/
structure Access where
  address : Uri
  /-- The certificates of the authorities that are trusted, if they are given. -/
  authorities : Option (List (List UInt8)) := none
  proxy : Option Uri := none
  serverName : Option String := none
  credentials : Credentials := {}

namespace Kubeconfig

/-- What a name stands for, where that has a content. -/
def find? {α : Type} (name : String) (named : List (String × Option α)) : Option α :=
  (named.lookup name).join

/-- The cluster and the user of the current context.  Unknown users have no credentials. -/
def current (k : Kubeconfig) : Except ContextFault (Endpoint × Credentials) :=
  match k.currentContext with
  | none => .error .noCurrentContext
  | some name =>
    match find? name k.contexts with
    | none => .error (.unknownContext name)
    | some context =>
      match find? context.cluster k.clusters with
      | none => .error (.unknownCluster context.cluster)
      | some endpoint =>
        .ok (endpoint, (context.user.bind fun user => find? user k.users).getD {})

end Kubeconfig

namespace Endpoint

/-- The label of a certificate. -/
def certificateLabel : String := "CERTIFICATE"

/-- Load what is given of the authorities that are trusted. -/
def loadAuthority (e : Endpoint) (files : FileReader) : Except ContextFault (Option (List UInt8)) :=
  if e.authority.isMissing then .ok none
  else
    match e.authority.load? files with
    | some octets => .ok (some octets)
    | none => .error .authority

/-- The certificates among some sections. -/
def certificatesOf (sections : List Text.Section) : List (List UInt8) :=
  (sections.filter (·.label = certificateLabel)).map (·.content)

/-- The variables that may name a proxy, the first one counting most. -/
def proxyVariables : List String := ["HTTP_PROXY", "http_proxy", "HTTPS_PROXY", "https_proxy"]

/-- The proxy that is named, by the kubeconfig or else by the environment.  Empty names do not
count. -/
def proxyName (e : Endpoint) (environment : String → Option String) : Option String :=
  (e.proxy :: proxyVariables.map environment).findSome? fun name => name.filter (· ≠ "")

/-- How a cluster is reached with some credentials. -/
def access (e : Endpoint) (c : Credentials) (environment : String → Option String)
    (files : FileReader) : Except ContextFault Access := do
  if c.program.any (·.knowsCluster) then
    let _ ← e.loadAuthority files
  let address ← match e.address with
    | none => .error .noAddress
    | some address => (Uri.parse address).mapError .invalidAddress
  let authorities ← (← e.loadAuthority files).mapM fun octets =>
    ((Text.sections octets).map certificatesOf).mapError .certificates
  let proxy ← (e.proxyName environment).mapM fun p => (Uri.parse p).mapError .invalidProxy
  return { address, authorities, proxy, serverName := e.serverName, credentials := c }

end Endpoint

end DriverRegistration.Cluster
