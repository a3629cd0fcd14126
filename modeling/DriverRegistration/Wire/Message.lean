import DriverRegistration.Registration.Service
import DriverRegistration.Wire.Field

/-!
# The messages of the handshake and of the driver

Each kind of message says how one field is read into it (`mergeField`) and how it is written.  A
message is read field by field into the empty one: of a field that holds one value the last one
counts, lists grow, and maps are united.
-/

namespace DriverRegistration.Wire

/-- A kind of message. -/
class Message (α : Type) where
  /-- The message without fields. -/
  empty : α
  /-- Read the field of a key into a message. -/
  mergeField : Key → α → List UInt8 → Except Fault (α × List UInt8)
  /-- The bytes of a message. -/
  encode : α → List UInt8

/-- Read the fields of a message into another one. -/
def merge {α : Type} [Message α] (a : α) (bytes : List UInt8) : Except Fault α := do
  return (← fieldsDownTo 0 (⟨none, ·⟩) Message.mergeField bytes.length a bytes).1

/-- The message that bytes hold. -/
def decode {α : Type} [Message α] (bytes : List UInt8) : Except Fault α :=
  merge Message.empty bytes

/-- What a reader gives, with the field named in a refusal and put in its place in the message. -/
def inField {α β : Type} (field : String) (place : β → α) :
    Except Cause (β × List UInt8) → Except Fault (α × List UInt8)
  | .ok (b, rest) => .ok (place b, rest)
  | .error cause => .error ⟨some field, cause⟩

/-- Pass over a field that a message has no place for. -/
def passOver {α : Type} (k : Key) (a : α) (bytes : List UInt8) : Except Fault (α × List UInt8) :=
  match skipValue depthLimit k bytes with
  | .ok rest => .ok (a, rest)
  | .error cause => .error ⟨none, cause⟩

/-! ## What a plugin says about itself -/

instance : Message PluginInfo where
  empty := ⟨"", "", "", []⟩
  mergeField k p bytes :=
    match k.tag with
    | 1 => inField "PluginInfo.r#type" (fun s => { p with pluginType := s })
      (textValue k.wireType bytes)
    | 2 => inField "PluginInfo.name" (fun s => { p with name := s }) (textValue k.wireType bytes)
    | 3 => inField "PluginInfo.endpoint" (fun s => { p with endpoint := s })
      (textValue k.wireType bytes)
    | 4 => inField "PluginInfo.supported_versions"
      (fun s => { p with supportedVersions := p.supportedVersions ++ [s] })
      (textValue k.wireType bytes)
    | _ => passOver k p bytes
  encode p :=
    textField 1 p.pluginType ++ textField 2 p.name ++ textField 3 p.endpoint ++
      textFields 4 p.supportedVersions

/-! ## What the plugin watcher reports -/

instance : Message StatusMessage where
  empty := ⟨false, ""⟩
  mergeField k m bytes :=
    match k.tag with
    | 1 => inField "RegistrationStatus.plugin_registered" (fun b => { m with registered := b })
      (flagValue k.wireType bytes)
    | 2 => inField "RegistrationStatus.error" (fun s => { m with error := s })
      (textValue k.wireType bytes)
    | _ => passOver k m bytes
  encode m := flagField 1 m.registered ++ textField 2 m.error

/-! ## What a driver says about itself -/

/-- The answer of a driver that is asked what it is. -/
structure DriverDescription where
  name : String
  vendorVersion : String
  manifest : TextMap String
  deriving DecidableEq, Repr

instance : Message DriverDescription where
  empty := ⟨"", "", .empty⟩
  mergeField k d bytes :=
    match k.tag with
    | 1 => inField "GetPluginInfoResponse.name" (fun s => { d with name := s })
      (textValue k.wireType bytes)
    | 2 => inField "GetPluginInfoResponse.vendor_version" (fun s => { d with vendorVersion := s })
      (textValue k.wireType bytes)
    | 3 => inField "GetPluginInfoResponse.manifest"
      (fun e => { d with manifest := d.manifest.insert e.1 e.2 }) (entryValue bytes)
    | _ => passOver k d bytes
  encode d :=
    textField 1 d.name ++ textField 2 d.vendorVersion ++ d.manifest.entries.flatMap (entryBytes 3)

/-- The answer of a driver that is asked for its node id. -/
structure DriverNodeId where
  nodeId : String
  deriving DecidableEq, Repr

instance : Message DriverNodeId where
  empty := ⟨""⟩
  mergeField k n bytes :=
    match k.tag with
    | 1 => inField "NodeGetIdResponse.node_id" (fun s => { n with nodeId := s })
      (textValue k.wireType bytes)
    | _ => passOver k n bytes
  encode n := textField 1 n.nodeId

/-! ## A question without parameters -/

/-- The question of the plugin watcher for the plugin. -/
structure InfoRequest where
  deriving DecidableEq, Repr

instance : Message InfoRequest where
  empty := {}
  mergeField k r bytes := passOver k r bytes
  encode _ := []

end DriverRegistration.Wire
