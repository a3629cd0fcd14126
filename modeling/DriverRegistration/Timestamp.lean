import DriverRegistration.Text.Blank
import DriverRegistration.Text.Utf8

/-!
# Timestamps

A timestamp is a date, a time and an offset from UTC, such as `2024-05-01T10:20:30Z`.  Reading is
lenient: blanks may stand around the parts, a lower case letter or a blank may stand for `T`, and
the year may carry a sign and then any number of digits.  `Timestamp.read` gives the fault that
shows first, from left to right, and judges the date as a whole only after the last character.
-/

namespace DriverRegistration

open Text

/-- A point in time as it is written, with the offset in seconds. -/
structure Timestamp where
  year : Int
  month : Nat
  day : Nat
  hour : Nat
  minute : Nat
  second : Nat
  nanos : Nat
  offset : Int
  deriving DecidableEq, Repr

namespace Timestamp

/-- Why a text is no timestamp. -/
inductive Fault where
  | invalid
  | tooShort
  | tooLong
  | outOfRange
  | impossible
  deriving DecidableEq, Repr

/-- The text of a fault. -/
def Fault.message : Fault → String
  | invalid => "input contains invalid characters"
  | tooShort => "premature end of input"
  | tooLong => "trailing input"
  | outOfRange => "input is out of range"
  | impossible => "no possible date and time matching input"

/-! ## The parts of a text -/

/-- The characters after any blanks. -/
def skipBlanks (cs : List Char) : List Char := cs.dropWhile isBlank

/-- The value of a list of decimal digits. -/
def ofDigits (ds : List Char) : Nat := ds.foldl (fun n d => n * 10 + (d.toNat - 48)) 0

/-- Read a number of at most so many digits, one at least. -/
def number (width : Nat) (cs : List Char) : Except Fault (Nat × List Char) :=
  match cs with
  | [] => .error .tooShort
  | c :: _ =>
    if c.isDigit then
      let digits := (cs.take width).takeWhile Char.isDigit
      .ok (ofDigits digits, cs.drop digits.length)
    else .error .invalid

/-- Read a number between two limits, after any blanks. -/
def numberWithin (width low high : Nat) (cs : List Char) : Except Fault (Nat × List Char) := do
  let (n, rest) ← number width (skipBlanks cs)
  if low ≤ n && n ≤ high then return (n, rest) else .error .outOfRange

/-- Read a mark, after any blanks. -/
def mark (m : Char) (cs : List Char) : Except Fault (List Char) :=
  match skipBlanks cs with
  | [] => .error .tooShort
  | c :: rest => if c = m then .ok rest else .error .invalid

/-- The years that a signed 32-bit number can hold. -/
def yearLimit : Int := 2147483648

/-- Read a year: four digits, or a sign and any number of digits. -/
def yearPart (cs : List Char) : Except Fault (Int × List Char) := do
  let cs := skipBlanks cs
  let (y, rest) ← match cs with
    | '-' :: r => (number r.length r).map fun (n, rest) => (-(n : Int), rest)
    | '+' :: r => (number r.length r).map fun (n, rest) => ((n : Int), rest)
    | r => (number 4 r).map fun (n, rest) => ((n : Int), rest)
  if -yearLimit ≤ y && y < yearLimit then return (y, rest) else .error .outOfRange

/-- Read the mark between the date and the time. -/
def between : List Char → Except Fault (List Char)
  | [] => .error .tooShort
  | c :: rest => if c = 'T' || c = 't' || c = ' ' then .ok rest else .error .invalid

/-- Read a fraction of a second, where there is one; digits after the ninth do not count. -/
def fraction (cs : List Char) : Except Fault (Nat × List Char) := do
  match cs with
  | '.' :: r =>
    let (n, rest) ← number 9 r
    return (n * Nat.pow 10 (9 - (r.length - rest.length)), rest.dropWhile Char.isDigit)
  | r => return (0, r)

/-- Read two digits that must follow at once. -/
def twoDigits (cs : List Char) : Except Fault (Nat × List Char) :=
  if byteLength cs < 2 then .error .tooShort
  else
    match cs with
    | a :: b :: rest =>
      if a.isDigit && b.isDigit then .ok (ofDigits [a, b], rest) else .error .invalid
    | _ => .error .invalid

/-- Read the hours and the minutes of an offset, with colons or blanks between them. -/
def offsetDigits (cs : List Char) : Except Fault (Int × List Char) := do
  let (hours, rest) ← twoDigits cs
  let (minutes, rest) ← twoDigits (rest.dropWhile fun c => c = ':' || isBlank c)
  if minutes < 60 then return (hours * 3600 + minutes * 60, rest) else .error .outOfRange

/-- Read an offset: `Z` or `UTC` in either case, or a sign with hours and minutes. -/
def offsetPart (cs : List Char) : Except Fault (Int × List Char) := do
  match skipBlanks cs with
  | [] => .error .tooShort
  | c :: rest =>
    if (c :: rest.take 2).map Char.toUpper = ['U', 'T', 'C'] then return (0, rest.drop 2)
    else if c = 'Z' || c = 'z' then return (0, rest)
    else if c = '+' then offsetDigits rest
    else if c = '-' || c = '\u2212' then
      let (n, rest) ← offsetDigits rest
      return (-n, rest)
    else .error .invalid

/-- Read the parts of a timestamp from left to right. -/
def parts (cs : List Char) : Except Fault Timestamp := do
  let (year, cs) ← yearPart cs
  let (month, cs) ← numberWithin 2 1 12 (← mark '-' cs)
  let (day, cs) ← numberWithin 2 1 31 (← mark '-' cs)
  let (hour, cs) ← numberWithin 2 0 23 (← between cs)
  let (minute, cs) ← numberWithin 2 0 59 (← mark ':' cs)
  let (second, cs) ← numberWithin 2 0 60 (← mark ':' cs)
  let (nanos, cs) ← fraction cs
  let (offset, cs) ← offsetPart cs
  if skipBlanks cs = [] then return ⟨year, month, day, hour, minute, second, nanos, offset⟩
  else .error .tooLong

/-! ## The date as a whole -/

/-- Whether a year has a 29th of February. -/
def isLeapYear (y : Int) : Bool := y % 4 = 0 && (y % 100 ≠ 0 || y % 400 = 0)

/-- The number of days of a month. -/
def daysIn (y : Int) (month : Nat) : Nat :=
  if month = 2 then (if isLeapYear y then 29 else 28)
  else if month = 4 || month = 6 || month = 9 || month = 11 then 30
  else 31

/-- The first year that can be told. -/
def firstYear : Int := -262143

/-- The last year that can be told. -/
def lastYear : Int := 262142

/-- The seconds of the day, as the clock at the offset shows them; a leap second counts as the one
before it. -/
def secondOfDay (t : Timestamp) : Nat := t.hour * 3600 + t.minute * 60 + min t.second 59

/-- Whether the day in UTC is before the first or after the last that can be told. -/
def leavesRange (t : Timestamp) : Bool :=
  (t.year = firstYear && t.month = 1 && t.day = 1 && t.secondOfDay < t.offset) ||
    (t.year = lastYear && t.month = 12 && t.day = 31 && 86400 ≤ t.secondOfDay - t.offset)

/-- The fault of the date or the offset as a whole. -/
def fault? (t : Timestamp) : Option Fault :=
  if t.year < firstYear || lastYear < t.year || daysIn t.year t.month < t.day then some .outOfRange
  else if 86400 ≤ t.offset.natAbs then some .outOfRange
  else if t.leavesRange then some .impossible
  else none

/-- The days from the first of January 1970 to a day. -/
def dayNumber (year : Int) (month day : Nat) : Int :=
  let y := if month ≤ 2 then year - 1 else year
  let fromMarch := ((153 * ((month + 9) % 12) + 2) / 5 : Nat)
  y * 365 + y / 4 - y / 100 + y / 400 + fromMarch + day - 719469

/-- The seconds from the begin of 1970 to a timestamp. -/
def seconds (t : Timestamp) : Int :=
  dayNumber t.year t.month t.day * 86400 + t.secondOfDay - t.offset

/-- Read a timestamp. -/
def read (s : String) : Except Fault Timestamp := do
  let t ← parts s.toList
  match t.fault? with
  | some f => .error f
  | none => return t

end Timestamp

end DriverRegistration
