import DriverRegistration.Config
import DriverRegistration.Json.Members
import DriverRegistration.Json.Writer

/-!
# What a plugin says about itself

The plugin watcher asks for the kind and the name of the plugin, for the path of its socket and for
the versions of the handshake that it offers.  As a document this is an object of four members.  The
members may come in any order and among others, each exactly once; a list of the four values is
read, too.  To the plugin watcher itself the four values are sent as the fields of a message.
-/

namespace DriverRegistration

/-- The answer to a plugin watcher that asks for a plugin. -/
structure RegistrationInfo where
  pluginType : String
  name : String
  /-- The path of the plugin's own socket. -/
  endpoint : String
  /-- The versions offered, in order. -/
  versions : List String
  deriving DecidableEq, Repr

/-- The message that a plugin watcher is answered with. -/
structure PluginInfo where
  pluginType : String
  name : String
  endpoint : String
  supportedVersions : List String
  deriving DecidableEq, Repr

namespace RegistrationInfo

/-- The message that an answer is sent as. -/
def message (i : RegistrationInfo) : PluginInfo where
  pluginType := i.pluginType
  name := i.name
  endpoint := i.endpoint
  supportedVersions := i.versions

/-- The kind of plugin that a storage driver is. -/
def driverType : String := "CSIPlugin"

/-- The answer for a storage driver. -/
def ofDriver (name endpoint : String) (versions : List String) : RegistrationInfo :=
  ⟨driverType, name, endpoint, versions⟩

/-- The document of an answer. -/
def encode (i : RegistrationInfo) : String :=
  String.ofList <| Json.writtenObject
    [("type", Json.writtenText i.pluginType), ("name", Json.writtenText i.name),
      ("endpoint", Json.writtenText i.endpoint),
      ("supportedVersions", Json.writtenList (i.versions.map Json.writtenText))]

/-! ## Reading -/

/-- The members that were met so far. -/
structure Draft where
  pluginType : Option String := none
  name : Option String := none
  endpoint : Option String := none
  versions : Option (List String) := none

/-- Read the list of versions. -/
def versionList (cs : List Char) : Except Json.Fault (List String × List Char) :=
  Json.listValue "a sequence" Json.textValue cs

/-- Read one member; those of other names are passed over. -/
def member (key : String) (d : Draft) (cs : List Char) : Except Json.Fault (Draft × List Char) :=
  if key = "type" then do
    let (a, rest) ← Json.onceOnly key d.pluginType Json.textValue cs
    return ({ d with pluginType := a }, rest)
  else if key = "name" then do
    let (a, rest) ← Json.onceOnly key d.name Json.textValue cs
    return ({ d with name := a }, rest)
  else if key = "endpoint" then do
    let (a, rest) ← Json.onceOnly key d.endpoint Json.textValue cs
    return ({ d with endpoint := a }, rest)
  else if key = "supportedVersions" then do
    let (a, rest) ← Json.onceOnly key d.versions versionList cs
    return ({ d with versions := a }, rest)
  else do return (d, ← Json.ignoredValue (← Json.colon cs))

/-- The answer of four members. -/
def Draft.finish (d : Draft) : Except Json.Cause RegistrationInfo := do
  let pluginType ← Json.required "type" d.pluginType
  let name ← Json.required "name" d.name
  let endpoint ← Json.required "endpoint" d.endpoint
  let versions ← Json.required "supportedVersions" d.versions
  return ⟨pluginType, name, endpoint, versions⟩

/-- What a list of the values is expected to be. -/
def expectedList : String := "struct RegistrationInfo with 4 elements"

/-- Read an answer that is given as a list, from just after its opening bracket. -/
def listed (cs : List Char) : Except Json.Fault (RegistrationInfo × List Char) := do
  let (pluginType, cs) ← Json.nextValue expectedList 0 Json.textValue cs
  let (name, cs) ← Json.nextValue expectedList 1 Json.textValue cs
  let (endpoint, cs) ← Json.nextValue expectedList 2 Json.textValue cs
  let (versions, cs) ← Json.nextValue expectedList 3 versionList cs
  return (⟨pluginType, name, endpoint, versions⟩, ← Json.endOfList cs)

/-- Read an answer. -/
def value (cs : List Char) : Except Json.Fault (RegistrationInfo × List Char) := do
  match ← Json.startOfValue cs with
  | '\x7b' :: rest => Json.object member {} Draft.finish rest
  | '[' :: rest => listed rest
  | rest => .error (Json.wrongType "struct RegistrationInfo" rest)

/-- Read a whole document. -/
def document (cs : List Char) : Except Json.Fault RegistrationInfo := do
  let (i, rest) ← value cs
  Json.endOfText rest
  return i

/-- The answer that a document describes; a refusal is given as its text. -/
def decode (raw : String) : Except String RegistrationInfo :=
  (document raw.toList).mapError (·.message raw)

end RegistrationInfo

end DriverRegistration
