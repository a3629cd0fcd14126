import DriverRegistration.Event
import DriverRegistration.Json.Value
import DriverRegistration.Log.Filter
import DriverRegistration.Text.Quoted

/-!
# Log records

A record is an event as it is written: under the target of the part that it comes from, and within
the call that it belongs to, where that call is followed itself.
-/

namespace DriverRegistration

/-- A record in the log. -/
structure LogRecord where
  level : Level
  target : String
  /-- The call that the record was made in. -/
  span : Option LogSpan := none
  message : String
  fields : List (String × Event.FieldValue) := []
  deriving DecidableEq, Repr

/-- How much must be logged for a level to be. -/
def Level.verbosity : Level → Verbosity
  | warn => .warn
  | error => .error

namespace LogRecord

/-- The target of the program itself. -/
def program : String := "csi_registrar"

/-- The part that an event comes from. -/
def targetOf : Event → String
  | .registrationFailed .. => "libregistrar::registration"
  | .unreachable _ => "libregistrar::identity"
  | _ => "libregistrar::reconciler"

/-- The call that an event belongs to. -/
def spanOf : Event → Option LogSpan
  | .registrationFailed .. =>
    some ⟨"notify_registration_status", "libregistrar::registration", .info⟩
  | _ => none

/-- The record of an event. -/
def ofEvent (e : Event) : LogRecord where
  level := e.level
  target := targetOf e
  span := spanOf e
  message := e.message
  fields := e.fields

/-- An error of the program itself. -/
def failure (message : String) (fields : List (String × Event.FieldValue) := []) : LogRecord where
  level := .error
  target := program
  message := message
  fields := fields

/-- The names of the fields of a record, of which the message is one. -/
def fieldNames (r : LogRecord) : List String := "message" :: r.fields.map (·.1)

/-- The records that a filter lets through, with the calls that it follows. -/
def kept (f : LogFilter) (rs : List LogRecord) : List LogRecord :=
  (rs.filter fun r => f.allows r.span r.target r.fieldNames r.level.verbosity).map fun r =>
    { r with span := r.span.filter f.follows }

/-- A character of a message as it is written: the controls that a terminal obeys are spelled
out. -/
def writtenChar (c : Char) : List Char :=
  if c = '\x07' || c = '\x08' || c = '\x0c' || c = '\x1b' || c = '\x7f' then
    ['\\', 'x', Nat.digitChar (c.toNat / 16), Nat.digitChar (c.toNat % 16)]
  else if 0x80 ≤ c.toNat && c.toNat < 0xA0 then
    '\\' :: 'u' :: '\x7b' :: (Text.hexDigits c.toNat ++ ['\x7d'])
  else [c]

/-- A message as it is written in a line. -/
def writtenMessage (s : String) : String := String.ofList (s.toList.flatMap writtenChar)

/-- A field as it is written after a message. -/
def writtenField (field : String × Event.FieldValue) : String :=
  " " ++ field.1 ++ "=" ++
    match field.2 with
    | .number n => toString n
    | .text s => s

/-- A record as a line of text. -/
def text (r : LogRecord) : String :=
  r.level.name ++ " " ++ (r.span.map (·.name ++ ": ")).getD "" ++ r.target ++ ": " ++
    writtenMessage r.message ++ String.join (r.fields.map writtenField)

/-- The value of a field as JSON. -/
def fieldValue : Event.FieldValue → Json.Value
  | .number n => .number (.integer n)
  | .text s => .text s

/-- A record as a JSON object. -/
def value (r : LogRecord) : Json.Value :=
  .object
    [("level", .text r.level.name),
      ("fields", .object
        (("message", .text r.message) :: r.fields.map fun f => (f.1, fieldValue f.2))),
      ("target", .text r.target)]

end LogRecord

end DriverRegistration
