import DriverRegistration.Text.Utf8
import DriverRegistration.Wire.Varint

/-!
# Fields of wire messages

A message is a sequence of fields.  A field begins with a key, which gives its number and the kind
of its value.  Readers are given the remaining bytes and give back what they read and the bytes
after it; fields of unknown numbers are passed over, whatever they hold.
-/

namespace DriverRegistration.Wire

open Text

/-- How the value of a field is laid out. -/
inductive WireType where
  | varint
  | bits64
  | delimited
  | startGroup
  | endGroup
  | bits32
  deriving DecidableEq, Repr

namespace WireType

/-- The kind of a number. -/
def ofNumber? : Nat → Option WireType
  | 0 => some varint
  | 1 => some bits64
  | 2 => some delimited
  | 3 => some startGroup
  | 4 => some endGroup
  | 5 => some bits32
  | _ => none

/-- The number of a kind. -/
def number : WireType → Nat
  | varint => 0
  | bits64 => 1
  | delimited => 2
  | startGroup => 3
  | endGroup => 4
  | bits32 => 5

/-- The name of a kind. -/
def name : WireType → String
  | varint => "Varint"
  | bits64 => "SixtyFourBit"
  | delimited => "LengthDelimited"
  | startGroup => "StartGroup"
  | endGroup => "EndGroup"
  | bits32 => "ThirtyTwoBit"

theorem ofNumber?_number (w : WireType) : ofNumber? w.number = some w := by cases w <;> rfl

end WireType

/-- Why bytes are no message. -/
inductive Cause where
  | invalidVarint
  | invalidKey (key : Nat)
  | invalidWireType (number : Nat)
  | zeroTag
  | wrongWireType (found expected : WireType)
  | underflow
  | notUtf8
  | unexpectedEndGroup
  | recursionLimit
  | entryTooLong
  deriving DecidableEq, Repr

/-- The text of a cause. -/
def Cause.message : Cause → String
  | invalidVarint => "invalid varint"
  | invalidKey key => "invalid key value: " ++ toString key
  | invalidWireType number => "invalid wire type value: " ++ toString number
  | zeroTag => "invalid tag value: 0"
  | wrongWireType found expected =>
    "invalid wire type: " ++ found.name ++ " (expected " ++ expected.name ++ ")"
  | underflow => "buffer underflow"
  | notUtf8 => "invalid string value: data is not UTF-8 encoded"
  | unexpectedEndGroup => "unexpected end group tag"
  | recursionLimit => "recursion limit reached"
  | entryTooLong => "delimited length exceeded"

/-- A refusal: its cause, and the known field it was found in. -/
structure Fault where
  field : Option String
  cause : Cause
  deriving DecidableEq, Repr

/-- The text of a refusal. -/
def Fault.message (f : Fault) : String :=
  "failed to decode Protobuf message: " ++
    (match f.field with
      | some field => field ++ ": "
      | none => "") ++ f.cause.message

/-! ## Reading -/

/-- Read a number. -/
def number (bytes : List UInt8) : Except Cause (Nat × List UInt8) :=
  match readVarint? bytes with
  | some r => .ok r
  | none => .error .invalidVarint

/-- The largest key. -/
def keyLimit : Nat := 4294967295

/-- The number of a field and the kind of its value. -/
structure Key where
  tag : Nat
  wireType : WireType
  deriving DecidableEq, Repr

/-- Read a key. -/
def key (bytes : List UInt8) : Except Cause (Key × List UInt8) := do
  let (n, rest) ← number bytes
  if keyLimit < n then .error (.invalidKey n)
  else
    match WireType.ofNumber? (n % 8) with
    | none => .error (.invalidWireType (n % 8))
    | some wireType => if n / 8 = 0 then .error .zeroTag else .ok (⟨n / 8, wireType⟩, rest)

/-- The bytes after so many, which must be there. -/
def dropExactly (n : Nat) (bytes : List UInt8) : Except Cause (List UInt8) :=
  if bytes.length < n then .error .underflow else .ok (bytes.drop n)

/-- Refuse a value of another kind. -/
def expect (expected found : WireType) : Except Cause Unit :=
  if found = expected then .ok () else .error (.wrongWireType found expected)

/-- Read a text with its length in front. -/
def textValue (wireType : WireType) (bytes : List UInt8) : Except Cause (String × List UInt8) := do
  expect .delimited wireType
  let (n, rest) ← number bytes
  let after ← dropExactly n rest
  match ofUtf8? (rest.take n) with
  | some s => .ok (s, after)
  | none => .error .notUtf8

/-- Read a flag: any number but zero is true. -/
def flagValue (wireType : WireType) (bytes : List UInt8) : Except Cause (Bool × List UInt8) := do
  expect .varint wireType
  let (n, rest) ← number bytes
  return (n ≠ 0, rest)

/-- How deep values may be nested. -/
def depthLimit : Nat := 100

/-- Pass over a value that is no group. -/
def skipPlain (wireType : WireType) (bytes : List UInt8) : Except Cause (List UInt8) :=
  match wireType with
  | .varint => do return (← number bytes).2
  | .bits64 => dropExactly 8 bytes
  | .bits32 => dropExactly 4 bytes
  | .delimited => do
    let (n, rest) ← number bytes
    dropExactly n rest
  | .startGroup | .endGroup => .error .unexpectedEndGroup

/-- Pass over the rest of the groups that are open, the innermost first.  A field inside as many
groups as the depth allows is refused.  Every step takes a key, so as many steps as there are bytes
are enough. -/
def skipGroups (depth : Nat) : Nat → List Nat → List UInt8 → Except Cause (List UInt8)
  | _, [], bytes => .ok bytes
  | 0, _ :: _, _ => .error .invalidVarint
  | fuel + 1, tag :: tags, bytes => do
    let (k, rest) ← key bytes
    if k.wireType = .endGroup then
      if k.tag = tag then skipGroups depth fuel tags rest else .error .unexpectedEndGroup
    else if depth ≤ tags.length + 1 then .error .recursionLimit
    else if k.wireType = .startGroup then skipGroups depth fuel (k.tag :: tag :: tags) rest
    else skipGroups depth fuel (tag :: tags) (← skipPlain k.wireType rest)

/-- Pass over the value of a field. -/
def skipValue (depth : Nat) (k : Key) (bytes : List UInt8) : Except Cause (List UInt8) :=
  match k.wireType with
  | .startGroup => skipGroups depth (bytes.length + 1) [k.tag] bytes
  | wireType => skipPlain wireType bytes

/-- Read fields one after another until so many bytes are left, or fewer; `step` is given a key,
what was made of the fields before it and the bytes after the key.  Every field takes at least one
byte, so as many steps as there are bytes are enough. -/
def fieldsDownTo {σ ε : Type} (left : Nat) (refuse : Cause → ε)
    (step : Key → σ → List UInt8 → Except ε (σ × List UInt8)) :
    Nat → σ → List UInt8 → Except ε (σ × List UInt8)
  | 0, s, bytes => .ok (s, bytes)
  | fuel + 1, s, bytes =>
    if bytes.length ≤ left then .ok (s, bytes)
    else
      match key bytes with
      | .error cause => .error (refuse cause)
      | .ok (k, rest) =>
        match step k s rest with
        | .error e => .error e
        | .ok (s, rest) => fieldsDownTo left refuse step fuel s rest

/-! ### Entries of a map -/

/-- Read one field of an entry: its key, its value, or what is passed over. -/
def entryField (k : Key) (e : String × String) (bytes : List UInt8) :
    Except Cause ((String × String) × List UInt8) :=
  if k.tag = 1 then do
    let (s, rest) ← textValue k.wireType bytes
    return ((s, e.2), rest)
  else if k.tag = 2 then do
    let (s, rest) ← textValue k.wireType bytes
    return ((e.1, s), rest)
  else do return (e, ← skipValue (depthLimit - 1) k bytes)

/-- Read an entry of a map of texts, with its length in front.  A key or a value that is left out is
empty.  The kind of the field is not looked at. -/
def entryValue (bytes : List UInt8) : Except Cause ((String × String) × List UInt8) := do
  let (n, rest) ← number bytes
  if rest.length < n then .error .underflow
  else
    let left := rest.length - n
    let (e, rest) ← fieldsDownTo left id entryField rest.length ("", "") rest
    if rest.length = left then .ok (e, rest) else .error .entryTooLong

/-! ## Writing -/

/-- The bytes of a key. -/
def keyBytes (k : Key) : List UInt8 := varint (k.tag * 8 + k.wireType.number)

/-- Bytes with their number in front. -/
def delimited (bytes : List UInt8) : List UInt8 := varint bytes.length ++ bytes

/-- A field that holds bytes. -/
def delimitedField (tag : Nat) (bytes : List UInt8) : List UInt8 :=
  keyBytes ⟨tag, .delimited⟩ ++ delimited bytes

/-- A field that holds a text; an empty one is left out. -/
def textField (tag : Nat) (s : String) : List UInt8 :=
  if s = "" then [] else delimitedField tag (utf8 s)

/-- A field that holds a flag; one that is not set is left out. -/
def flagField (tag : Nat) (b : Bool) : List UInt8 :=
  if b then keyBytes ⟨tag, .varint⟩ ++ varint 1 else []

/-- Fields of one number that hold the texts of a list, empty ones included. -/
def textFields (tag : Nat) (ss : List String) : List UInt8 :=
  ss.flatMap fun s => delimitedField tag (utf8 s)

/-- A field that holds an entry of a map. -/
def entryBytes (tag : Nat) (e : String × String) : List UInt8 :=
  delimitedField tag (textField 1 e.1 ++ textField 2 e.2)

end DriverRegistration.Wire
