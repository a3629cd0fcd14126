import DriverRegistration.Json.Token
import DriverRegistration.TextMap

/-!
# Writing JSON

Documents are written without blanks, members in the order they are given in.  In a string the
quotation mark, the backslash and the control characters are escaped, and every other character
stands for itself.
-/

namespace DriverRegistration.Json

/-- A digit of a `\u` escape. -/
def hexDigit (n : Nat) : Char := if n < 10 then Char.ofNat (48 + n) else Char.ofNat (87 + n)

/-- How a character is written inside a string. -/
def writtenChar (c : Char) : List Char :=
  if c = '"' then ['\\', '"']
  else if c = '\\' then ['\\', '\\']
  else if c = '\x08' then ['\\', 'b']
  else if c = '\t' then ['\\', 't']
  else if c = '\n' then ['\\', 'n']
  else if c = '\x0c' then ['\\', 'f']
  else if c = '\r' then ['\\', 'r']
  else if c.toNat < 0x20 then
    ['\\', 'u', '0', '0', hexDigit (c.toNat / 16), hexDigit (c.toNat % 16)]
  else [c]

/-- A string with its quotation marks. -/
def writtenText (s : String) : List Char := '"' :: (s.toList.flatMap writtenChar ++ ['"'])

/-- Written items with a comma between neighbours. -/
def commaSeparated (items : List (List Char)) : List Char := (items.intersperse [',']).flatten

/-- An object from its keys and its written members. -/
def writtenObject (ms : List (String × List Char)) : List Char :=
  '\x7b' :: (commaSeparated (ms.map fun m => writtenText m.1 ++ ':' :: m.2) ++ ['\x7d'])

/-- A list from its written elements. -/
def writtenList (items : List (List Char)) : List Char :=
  '[' :: (commaSeparated items ++ [']'])

/-- A map of texts as an object, in the order of its keys. -/
def writtenTextMap (m : TextMap String) : List Char :=
  writtenObject (m.entries.map fun e => (e.1, writtenText e.2))

end DriverRegistration.Json
