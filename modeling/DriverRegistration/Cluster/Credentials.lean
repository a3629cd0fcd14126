import DriverRegistration.Cluster.Material
import DriverRegistration.Text.Quoted
import DriverRegistration.Timestamp
import DriverRegistration.Uri

/-!
# Credentials of a user

A user shows who they are by a password, by a token, by a token in a file, or by what a provider or
a program of the system says.  `Credentials.reader` reads them from a kubeconfig, and
`Credentials.authorization` finds the first kind that is given.  No provider but a plain token and
no program can be used here, so these are faults.
-/

namespace DriverRegistration.Cluster

open Yaml
open Yaml.Reader (check record)

/-- A provider of tokens, with its settings. -/
structure AuthProvider where
  name : String
  config : List (String × String) := []
  deriving DecidableEq, Repr

/-- A program that provides credentials. -/
structure AuthProgram where
  command : Option String := none
  /-- What it is started with. -/
  words : List String := []
  /-- Whether it is told about the cluster. -/
  knowsCluster : Bool := false
  deriving DecidableEq, Repr

/-- The credentials of a user. -/
structure Credentials where
  username : Option String := none
  password : Option String := none
  token : Option String := none
  tokenFile : Option String := none
  certificate : Material := {}
  key : Material := {}
  /-- The user that is acted for. -/
  actsFor : Option String := none
  /-- The groups that are acted for. -/
  actsForGroups : List String := []
  provider : Option AuthProvider := none
  program : Option AuthProgram := none
  deriving DecidableEq, Repr

/-! ## Reading -/

namespace AuthProvider

/-- Read a provider. -/
def reader : Reader AuthProvider := fun v => do
  let ms ← record "AuthProviderConfig"
    [check "name" .string, check "config" .dictionary] v
  return { name := ← ms.get "name" .string
           config := (← ms.get? "config" .dictionary).getD [] }

end AuthProvider

namespace AuthProgram

/-- When a program may ask its user. -/
def interactiveModes : List String := ["Never", "IfAvailable", "Always"]

/-- The name and the value of a variable that a program is started with. -/
def variableWords (ms : List (String × String)) : List String :=
  match ms.lookup "name", ms.lookup "value" with
  | some name, some value => [name, value]
  | _, _ => []

/-- Read a program. -/
def reader : Reader AuthProgram := fun v => do
  let ms ← record "ExecConfig"
    [check "apiVersion" (.optional .string), check "command" (.optional .string),
      check "args" (.optional (.list .string)), check "env" (.optional (.list .dictionary)),
      check "interactiveMode" (.optional (.choice interactiveModes)),
      check "provideClusterInfo" .flag] v
  return { command := ← ms.get? "command" .string
           words := (← ms.listOf "args" .string) ++
             (← ms.listOf "env" .dictionary).flatMap variableWords
           knowsCluster := (← ms.get? "provideClusterInfo" .flag).getD false }

end AuthProgram

namespace Credentials

/-- Read credentials. -/
def reader : Reader Credentials := fun v => do
  let ms ← record "AuthInfo"
    (["username", "password", "token", "tokenFile", "client-certificate", "client-certificate-data",
        "client-key", "client-key-data", "as"].map (check · (.optional .string)) ++
      [check "as-groups" (.optional (.list .string)),
        check "auth-provider" (.optional AuthProvider.reader),
        check "exec" (.optional AuthProgram.reader)]) v
  return {
    username := ← ms.get? "username" .string
    password := ← ms.get? "password" .string
    token := ← ms.get? "token" .string
    tokenFile := ← ms.get? "tokenFile" .string
    certificate := ← Material.ofMembers ms "client-certificate"
    key := ← Material.ofMembers ms "client-key"
    actsFor := ← ms.get? "as" .string
    actsForGroups := ← ms.listOf "as-groups" .string
    provider := ← ms.get? "auth-provider" AuthProvider.reader
    program := ← ms.get? "exec" AuthProgram.reader }

/-- Credentials as they are seen from the directory of their kubeconfig. -/
def seenFrom (directory : String) (c : Credentials) : Credentials :=
  { c with
    tokenFile := c.tokenFile.map (FilePath.seenFrom directory)
    certificate := c.certificate.seenFrom directory
    key := c.key.seenFrom directory }

end Credentials

/-! ## Programs -/

/-- The largest number of bytes of the name of a program. -/
def programNameLimit : Nat := 255

/-- Why a program cannot be started.  A program without a slash in its name is looked up, and none
is found; what is at the path of any other cannot be run. -/
def startFault (command : String) (words : List String) (files : FileReader) : SystemError :=
  if (command :: words).any (·.toList.contains '\x00') then .nulInArgument
  else if command.toList.contains '/' then
    match files command with
    | .ok _ => .notPermitted
    | .error e => if e = .isADirectory then .notPermitted else e
  else if programNameLimit < Text.byteLength command.toList then .nameTooLong
  else .noEntry

/-! ## Authorization -/

/-- Why credentials cannot be used. -/
inductive AuthFault where
  /-- A provider cannot give a token. -/
  | provider (reason : String)
  | expiration (fault : Timestamp.Fault)
  | tokenFile (path : String) (source : SystemError)
  | noCommand
  | program (source : SystemError)
  deriving DecidableEq, Repr

/-- The text of a fault. -/
def AuthFault.message : AuthFault → String
  | provider reason => "failed exec auth: " ++ reason
  | expiration fault => "malformed token expiration date: " ++ fault.message
  | tokenFile path source =>
    "failed to read token file '" ++ Text.quotedPath path ++ "': " ++ source.message
  | noCommand => "command must be specified to use exec authentication plugin"
  | program source => "unable to run auth exec: " ++ source.message

/-- How requests are authorized. -/
inductive Authorization where
  | anonymous
  | password
  /-- By a token that stands in every request. -/
  | token (token : String)
  /-- By a token that is read anew as it expires. -/
  | expiring
  deriving DecidableEq, Repr

/-- The token that stands in every request. -/
def Authorization.tokens : Authorization → List String
  | token t => [t]
  | _ => []

/-- How long before its end a token counts as expired, in seconds. -/
def expiryMargin : Int := 60

namespace AuthProvider

/-- A provider that cannot give a token. -/
def refuse {α : Type} (reason : String) : Except AuthFault α := .error (.provider reason)

/-- The token of a provider of identities. -/
def identityToken (p : AuthProvider) : Except AuthFault Authorization :=
  match p.config.lookup "id-token" with
  | some token => .ok (.token token)
  | none => refuse "No id-token for oidc Authentication provider"

/-- Ask a program of the cloud for a token. -/
def cloudCommand (p : AuthProvider) (files : FileReader) : Except AuthFault Authorization :=
  match p.config.lookup "cmd-path" with
  | some command =>
    let words := (p.config.lookup "cmd-args").toList
    refuse ("Executing " ++ command ++ " failed: " ++ (startFault command words files).described)
  | none =>
    refuse "Enable oauth feature to use Google Application Credentials-based token source"

/-- The token of a provider of the cloud, at a time in seconds of the epoch. -/
def cloudToken (p : AuthProvider) (files : FileReader) (now : Int) :
    Except AuthFault Authorization := do
  match p.config.lookup "id-token", p.config.lookup "access-token", p.config.lookup "expiry" with
  | some token, _, _ => return .token token
  | none, some _, some expiry =>
    match Timestamp.read expiry with
    | .error f => .error (.expiration f)
    | .ok t => if now + expiryMargin < t.seconds then return .expiring else p.cloudCommand files
  | none, _, _ => p.cloudCommand files

/-- The address of the program that serves in place of one of the providers. -/
def azureProgram : Uri :=
  { scheme := some "https", authority := some "github.com", path := "/Azure/kubelogin" }

/-- The token of a provider, at a time in seconds of the epoch. -/
def authorization (p : AuthProvider) (files : FileReader) (now : Int) :
    Except AuthFault Authorization :=
  match p.name with
  | "oidc" => p.identityToken
  | "gcp" => p.cloudToken files now
  | "azure" =>
    refuse ("The azure auth plugin is not supported; use " ++ azureProgram.text ++ " instead")
  | name => refuse ("Authentication provider with name " ++ name ++ " not supported")

end AuthProvider

namespace Credentials

/-- How requests are authorized with some credentials. -/
def authorization (c : Credentials) (files : FileReader) (now : Int) :
    Except AuthFault Authorization :=
  match c.provider, c.username, c.password, c.token, c.tokenFile, c.program with
  | some p, _, _, _, _, _ => p.authorization files now
  | none, some _, some _, _, _, _ => .ok .password
  | none, _, _, some token, _, _ => .ok (.token token)
  | none, _, _, none, some path, _ =>
    match files path with
    | .ok _ => .ok .expiring
    | .error e => .error (.tokenFile path e)
  | none, _, _, none, none, some program =>
    .error (match program.command with
      | some command => .program (startFault command program.words files)
      | none => .noCommand)
  | none, _, _, none, none, none => .ok .anonymous

end Credentials

end DriverRegistration.Cluster
