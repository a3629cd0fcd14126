import DriverRegistration.Binary64.Shortest
import DriverRegistration.Text.Quoted
import DriverRegistration.Text.Utf8

/-!
# Faults of a JSON text

A reader that refuses a text says why (`Cause`) and where.  The place is kept as the number of bytes
that were still unread, which every reader knows from the characters it is given; `Fault.message`
turns it into a line and a column of the whole text.
-/

namespace DriverRegistration.Json

open Text

/-- What stands in a text where something else was due. -/
inductive Found where
  | null
  | flag (value : Bool)
  | integer (value : Int)
  | float (value : Binary64)
  | text (value : String)
  | sequence
  | map
  deriving DecidableEq, Repr

/-- Numbers in faults are positional from `1e-5` up to `1e15`, and else have an exponent with its
sign. -/
def numberLayout : Binary64.Layout := ⟨-5, 15, true⟩

/-- The name of what was found. -/
def Found.name : Found → String
  | null => "null"
  | flag b => s!"boolean `{b}`"
  | integer n => s!"integer `{n}`"
  | float x => "floating point `" ++ Binary64.text numberLayout x ++ "`"
  | text s => "string " ++ quoted s
  | sequence => "sequence"
  | map => "map"

/-- Why a text is refused. -/
inductive Cause where
  | eofList
  | eofObject
  | eofString
  | eofValue
  | expectedColon
  | expectedListEnd
  | expectedObjectEnd
  | expectedIdent
  | expectedValue
  | invalidEscape
  | invalidNumber
  | numberOutOfRange
  | controlCharacter
  | keyNotString
  | loneSurrogate
  | unfinishedSurrogate
  | trailingComma
  | trailingCharacters
  | recursionLimit
  | wrongType (found : Found) (expected : String)
  | wrongValue (found : Found) (expected : String)
  | wrongLength (length : Nat) (expected : String)
  | missingMember (name : String)
  | duplicateMember (name : String)
  /-- A member's own format refuses its text. -/
  | badMember (reason : String)
  deriving DecidableEq, Repr

/-- The text of a cause. -/
def Cause.message : Cause → String
  | eofList => "EOF while parsing a list"
  | eofObject => "EOF while parsing an object"
  | eofString => "EOF while parsing a string"
  | eofValue => "EOF while parsing a value"
  | expectedColon => "expected `:`"
  | expectedListEnd => "expected `,` or `]`"
  | expectedObjectEnd => "expected `,` or `\x7d`"
  | expectedIdent => "expected ident"
  | expectedValue => "expected value"
  | invalidEscape => "invalid escape"
  | invalidNumber => "invalid number"
  | numberOutOfRange => "number out of range"
  | controlCharacter => "control character (\\u0000-\\u001F) found while parsing a string"
  | keyNotString => "key must be a string"
  | loneSurrogate => "lone leading surrogate in hex escape"
  | unfinishedSurrogate => "unexpected end of hex escape"
  | trailingComma => "trailing comma"
  | trailingCharacters => "trailing characters"
  | recursionLimit => "recursion limit exceeded"
  | wrongType found expected => "invalid type: " ++ found.name ++ ", expected " ++ expected
  | wrongValue found expected => "invalid value: " ++ found.name ++ ", expected " ++ expected
  | wrongLength n expected => s!"invalid length {n}, expected " ++ expected
  | missingMember name => "missing field `" ++ name ++ "`"
  | duplicateMember name => "duplicate field `" ++ name ++ "`"
  | badMember reason => reason

/-- A refusal: its cause, and how many bytes of the text were unread where it shows. -/
structure Fault where
  cause : Cause
  left : Nat
  deriving DecidableEq, Repr

/-- A fault that shows just before the remaining characters. -/
def Fault.here (cause : Cause) (rest : List Char) : Fault := ⟨cause, byteLength rest⟩

/-- A fault that shows one byte into the remaining characters, or at the end of the text. -/
def Fault.next (cause : Cause) (rest : List Char) : Fault := ⟨cause, byteLength rest - 1⟩

/-- The line, from one, and the column, from zero in bytes, of a place in a text. -/
def place (raw : String) (left : Nat) : Nat × Nat :=
  let bytes := utf8 raw
  let before := bytes.take (bytes.length - left)
  (before.count 10 + 1, (before.reverse.takeWhile (· ≠ 10)).length)

/-- The text of a fault of `raw`. -/
def Fault.message (raw : String) (f : Fault) : String :=
  let (line, column) := place raw f.left
  f.cause.message ++ s!" at line {line} column {column}"

end DriverRegistration.Json
