import DriverRegistration.Cluster.Credentials
import DriverRegistration.Yaml.Composition

/-!
# Kubeconfigs

A kubeconfig names clusters, users and contexts, and one context as the current one.  A file may
hold several documents, of which an earlier one counts more (`Kubeconfig.merge`).  `Kubeconfig.read`
reads a file.
-/

namespace DriverRegistration.Cluster

open Yaml
open Yaml.Reader (check record)

/-- How a cluster is reached. -/
structure Endpoint where
  address : Option String := none
  authority : Material := {}
  proxy : Option String := none
  /-- The name that the certificate of the cluster must bear. -/
  serverName : Option String := none
  deriving DecidableEq, Repr

/-- A cluster and a user. -/
structure Context where
  cluster : String
  user : Option String := none
  deriving DecidableEq, Repr

/-- What a kubeconfig says. -/
structure Kubeconfig where
  kind : Option String := none
  apiVersion : Option String := none
  currentContext : Option String := none
  clusters : List (String × Option Endpoint) := []
  users : List (String × Option Credentials) := []
  contexts : List (String × Option Context) := []
  deriving DecidableEq, Repr

/-- Why a kubeconfig is not read. -/
inductive KubeconfigFault where
  /-- There is no file to read. -/
  | unreadable (path : String) (source : SystemError)
  | notYaml (fault : Yaml.Fault)
  | invalid (reason : String)
  | kindMismatch
  | apiVersionMismatch
  deriving DecidableEq, Repr

/-- The text of a fault. -/
def KubeconfigFault.message : KubeconfigFault → String
  | unreadable path source =>
    "failed to read kubeconfig from '" ++ Text.quotedPath path ++ "': " ++ source.message
  | notYaml fault => "failed to parse kubeconfig YAML: " ++ fault.message
  | invalid reason => "the structure of the parsed kubeconfig is invalid: " ++ reason
  | kindMismatch => "kubeconfigs with mismatching kind cannot be merged"
  | apiVersionMismatch => "kubeconfigs with mismatching api version cannot be merged"

/-! ## Reading -/

/-- How deep what is told in JSON may be nested. -/
def extensionDepth : Nat := 2 * Document.depthLimit

/-- Read something that has a name and may have a content. -/
def named {α : Type} (kind key : String) (r : Reader α) : Reader (String × Option α) := fun v => do
  let ms ← record kind [check "name" .string, check key (.optional r)] v
  return (← ms.get "name" .string, ← ms.get? key r)

/-- Judge an extension, which has a name and a content. -/
def extension : Reader Unit := fun v => do
  let ms ← record "NamedExtension"
    [check "name" .string, check "extension" (.document extensionDepth)] v
  let _ ← ms.get "name" .string
  let _ ← ms.get "extension" (.document extensionDepth)

/-- A list of extensions that may be missing. -/
def extensions : String × Reader Unit := check "extensions" (.optional (.list extension))

namespace Endpoint

/-- Read how a cluster is reached. -/
def reader : Reader Endpoint := fun v => do
  let ms ← record "Cluster"
    (["server", "certificate-authority", "certificate-authority-data", "proxy-url",
        "tls-server-name"].map (check · (.optional .string)) ++
      ["insecure-skip-tls-verify", "disable-compression"].map (check · (.optional .flag)) ++
      [extensions]) v
  return {
    address := ← ms.get? "server" .string
    authority := ← Material.ofMembers ms "certificate-authority"
    proxy := ← ms.get? "proxy-url" .string
    serverName := ← ms.get? "tls-server-name" .string }

end Endpoint

namespace Context

/-- Read a context. -/
def reader : Reader Context := fun v => do
  let ms ← record "Context"
    [check "cluster" .string, check "user" (.optional .string),
      check "namespace" (.optional .string), extensions] v
  return { cluster := ← ms.get "cluster" .string, user := ← ms.get? "user" .string }

end Context

namespace Kubeconfig

/-- Judge the preferences of a kubeconfig. -/
def preferences : Reader Unit := fun v =>
  (record "Preferences" [check "colors" (.optional .flag), extensions] v).map fun _ => ()

/-- Read the clusters of a kubeconfig. -/
def clustersReader : Reader (List (String × Option Endpoint)) :=
  .list (named "NamedCluster" "cluster" Endpoint.reader)

/-- Read the users of a kubeconfig. -/
def usersReader : Reader (List (String × Option Credentials)) :=
  .list (named "NamedAuthInfo" "user" Credentials.reader)

/-- Read the contexts of a kubeconfig. -/
def contextsReader : Reader (List (String × Option Context)) :=
  .list (named "NamedContext" "context" Context.reader)

/-- Read a kubeconfig. -/
def reader : Reader Kubeconfig := fun v => do
  let ms ← record "Kubeconfig"
    (["kind", "apiVersion", "current-context"].map (check · (.optional .string)) ++
      [check "preferences" (.optional preferences), check "clusters" (.optional clustersReader),
        check "users" (.optional usersReader), check "contexts" (.optional contextsReader),
        extensions]) v
  return {
    kind := ← ms.get? "kind" .string
    apiVersion := ← ms.get? "apiVersion" .string
    currentContext := ← ms.get? "current-context" .string
    clusters := (← ms.get? "clusters" clustersReader).getD []
    users := (← ms.get? "users" usersReader).getD []
    contexts := (← ms.get? "contexts" contextsReader).getD [] }

/-- The kubeconfig of a document. -/
def ofDocument (d : Document) : Except KubeconfigFault Kubeconfig := do
  let v ← d.compose.mapError .notYaml
  (reader v).mapError fun m => .invalid m.message

/-! ## Several documents -/

/-- Named things with those added whose names are new. -/
def withNew {α : Type} (old new : List (String × α)) : List (String × α) :=
  old ++ new.filter fun n => (old.lookup n.1).isNone

/-- Whether two texts are there and differ. -/
def differ (x y : Option String) : Bool := x.isSome && y.isSome && x ≠ y

/-- Two kubeconfigs as one, where the first counts more. -/
def merge (a b : Kubeconfig) : Except KubeconfigFault Kubeconfig :=
  if differ a.kind b.kind then .error .kindMismatch
  else if differ a.apiVersion b.apiVersion then .error .apiVersionMismatch
  else
    .ok {
      kind := a.kind <|> b.kind
      apiVersion := a.apiVersion <|> b.apiVersion
      currentContext := a.currentContext <|> b.currentContext
      clusters := withNew a.clusters b.clusters
      users := withNew a.users b.users
      contexts := withNew a.contexts b.contexts }

/-- The kubeconfig in a text, as it is seen from its directory. -/
def seenFrom (directory : String) (k : Kubeconfig) : Kubeconfig :=
  { k with
    clusters := k.clusters.map fun (name, e) =>
      (name, e.map fun e => { e with authority := e.authority.seenFrom directory })
    users := k.users.map fun (name, c) => (name, c.map (·.seenFrom directory)) }

/-- The characters of a file after a mark of the byte order. -/
def content (raw : String) : List Char := Document.withoutByteOrderMark raw.toList

/-- The kubeconfig in a text: that of its documents. -/
def decode (raw : String) : Except KubeconfigFault Kubeconfig := do
  match ← (Document.ofText (content raw)).mapM ofDocument with
  | [] => return {}
  | k :: ks => ks.foldlM merge k

/-- The kubeconfig in a file. -/
def read (path : String) (files : FileReader) : Except KubeconfigFault Kubeconfig := do
  let raw ← (files path).mapError (.unreadable path)
  return (← decode raw).seenFrom (FilePath.parent path)

end Kubeconfig

end DriverRegistration.Cluster
