import DriverRegistration.Text.Blank
import DriverRegistration.Text.Quoted

/-!
# Durations

A duration is a number of nanoseconds.  It is written on the command line as digits and a unit,
`Duration.parse`, and shown in messages in the largest unit that it fills, `Duration.text`.
-/

namespace DriverRegistration

/-- A length of time. -/
structure Duration where
  nanos : Nat
  deriving DecidableEq, Repr, Inhabited

namespace Duration

/-- No time at all. -/
def zero : Duration := ⟨0⟩

/-- A number of milliseconds. -/
def ofMillis (n : Nat) : Duration := ⟨n * 1000000⟩

/-- A number of seconds. -/
def ofSeconds (n : Nat) : Duration := ⟨n * 1000000000⟩

/-- The least number of milliseconds that is not shorter. -/
def ceilMillis (d : Duration) : Nat := (d.nanos + 999999) / 1000000

/-! ## Text -/

/-- The decimal digits of a fraction `n / 10 ^ places`, without trailing zeros. -/
def fractionDigits (n places : Nat) : List Char :=
  let digits := (toString n).toList
  let padded := List.replicate (places - digits.length) '0' ++ digits
  (padded.reverse.dropWhile (· = '0')).reverse

/-- A number of units with the fraction that exceeds it. -/
def decimal (n per places : Nat) (unit : String) : String :=
  let fraction := fractionDigits (n % per) places
  toString (n / per) ++ (if fraction = [] then "" else "." ++ String.ofList fraction) ++ unit

/-- A duration in the largest unit that it fills: seconds, milliseconds, microseconds or
nanoseconds. -/
def text (d : Duration) : String :=
  if 1000000000 ≤ d.nanos then decimal d.nanos 1000000000 9 "s"
  else if 1000000 ≤ d.nanos then decimal d.nanos 1000000 6 "ms"
  else if 1000 ≤ d.nanos then decimal d.nanos 1000 3 "µs"
  else toString d.nanos ++ "ns"

/-! ## Reading -/

/-- Why a text is no duration; each names the text without its surrounding blanks. -/
inductive Fault where
  | invalid (raw : String)
  | unknownUnit (unit raw : String)
  | outOfRange (raw : String)
  deriving DecidableEq, Repr

/-- The text of a fault. -/
def Fault.message : Fault → String
  | invalid raw => "invalid duration " ++ Text.quoted raw
  | unknownUnit unit raw =>
    "unknown unit " ++ Text.quoted unit ++ " in duration " ++ Text.quoted raw
  | outOfRange raw => "duration " ++ Text.quoted raw ++ " out of range"

/-- Numbers are read up to 64 bits. -/
def limit : Nat := 18446744073709551616

/-- The number that decimal digits write. -/
def digitsValue (digits : List Char) : Nat :=
  digits.foldl (fun n c => n * 10 + (c.toNat - 48)) 0

/-- A unit of time, by its name; seconds need no name. -/
inductive TimeUnit where
  | millis
  | seconds
  | minutes
  | hours
  deriving DecidableEq, Repr

namespace TimeUnit

/-- The unit of a name. -/
def ofName? (name : String) : Option TimeUnit :=
  if name = "ms" then some millis
  else if name = "" || name = "s" then some seconds
  else if name = "m" then some minutes
  else if name = "h" then some hours
  else none

/-- How many whole seconds a unit has; milliseconds are counted apart. -/
def seconds? : TimeUnit → Option Nat
  | millis => none
  | seconds => some 1
  | minutes => some 60
  | hours => some 3600

end TimeUnit

/-- A number of a unit, where the number of seconds still fits 64 bits. -/
def ofUnit? (n : Nat) (unit : TimeUnit) : Option Duration :=
  match unit.seconds? with
  | none => some (ofMillis n)
  | some per => if n * per < limit then some (ofSeconds (n * per)) else none

/-- Read digits and a unit, between blanks. -/
def parse (text : String) : Except Fault Duration :=
  let cs := Text.trim text.toList
  let raw := String.ofList cs
  let digits := cs.takeWhile Char.isDigit
  let unit := String.ofList (cs.dropWhile Char.isDigit)
  if digits = [] || limit ≤ digitsValue digits then .error (.invalid raw)
  else
    match TimeUnit.ofName? unit with
    | none => .error (.unknownUnit unit raw)
    | some u =>
      match ofUnit? (digitsValue digits) u with
      | none => .error (.outOfRange raw)
      | some d => .ok d

end Duration

end DriverRegistration
