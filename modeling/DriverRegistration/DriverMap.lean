import DriverRegistration.Json.Structure
import DriverRegistration.Json.Writer

/-!
# The driver map and its text

The storage drivers of a node share one value: a map from driver names to the node ids the drivers
use, kept as a flat JSON object of strings.  An absent value, an empty one and `null` stand for the
empty map.  Text that is none of these is corrupt and is never read as an empty map, since writing
over it would drop the entries of the other drivers.
-/

namespace DriverRegistration

/-- The entries of a node: driver name to the node id that the driver uses. -/
abbrev DriverMap := TextMap String

/-- Text that does not decode, kept as it is, and the fault found in it. -/
structure CorruptMap where
  raw : String
  fault : Json.Fault
  deriving DecidableEq, Repr

namespace CorruptMap

/-- The text of the fault. -/
def reason (e : CorruptMap) : String := e.fault.message e.raw

/-- The text of the refusal. -/
def message (e : CorruptMap) : String :=
  "annotation value " ++ Text.quoted e.raw ++
    " is not a JSON map of driver names to node ids: " ++ e.reason

end CorruptMap

namespace DriverMap

/-- Read one member: its value is a string, and a later member of a key replaces an earlier one. -/
def member (key : String) (m : DriverMap) (cs : List Char) :
    Except Json.Fault (DriverMap × List Char) := do
  let (v, rest) ← Json.textValue (← Json.colon cs)
  return (m.insert key v, rest)

/-- Read the value of a document: `null` or an object of strings. -/
def value (cs : List Char) : Except Json.Fault (DriverMap × List Char) :=
  match Json.skipBlanks cs with
  | [] => .error (.next .eofValue [])
  | 'n' :: r => do return (TextMap.empty, ← Json.literal ['u', 'l', 'l'] r)
  | '\x7b' :: r => Json.object member TextMap.empty .ok r
  | r => .error (Json.wrongType "a map" r)

/-- Read a whole document. -/
def document (cs : List Char) : Except Json.Fault DriverMap := do
  let (m, rest) ← value cs
  Json.endOfText rest
  return m

/-- The driver map that a value stands for. -/
def decode : Option String → Except CorruptMap DriverMap
  | none => .ok TextMap.empty
  | some raw =>
    if raw = "" then .ok TextMap.empty
    else
      match document raw.toList with
      | .ok m => .ok m
      | .error fault => .error ⟨raw, fault⟩

/-- The text of a driver map: its entries in key order, without blanks. -/
def encode (m : DriverMap) : String := String.ofList (Json.writtenTextMap m)

end DriverMap

end DriverRegistration
