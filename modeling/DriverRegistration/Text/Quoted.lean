import DriverRegistration.Text.Unprintable

/-!
# Quoted text

Messages show a text of unknown content between double quotes.  A backslash and a double quote are
escaped, tab, carriage return, line feed and NUL have short forms, a character without a mark of its
own is shown by its code, and every other character stands for itself.
-/

namespace DriverRegistration.Text

/-- The lower-case hexadecimal digits of a number, without leading zeros. -/
def hexDigits (n : Nat) : List Char := Nat.toDigits 16 n

/-- How a character is shown between double quotes. -/
def quotedChar (c : Char) : List Char :=
  if c = '"' then ['\\', '"']
  else if c = '\\' then ['\\', '\\']
  else if c = '\t' then ['\\', 't']
  else if c = '\r' then ['\\', 'r']
  else if c = '\n' then ['\\', 'n']
  else if c.toNat = 0 then ['\\', '0']
  else if isUnprintable c then '\\' :: 'u' :: '\x7b' :: (hexDigits c.toNat ++ ['\x7d'])
  else [c]

/-- A text between double quotes. -/
def quoted (s : String) : String := String.ofList ('"' :: (s.toList.flatMap quotedChar ++ ['"']))

/-- A path between double quotes, where a single one is escaped as well. -/
def quotedPath (path : String) : String :=
  String.ofList ('"' :: (path.toList.flatMap escaped ++ ['"']))
where
  escaped (c : Char) : List Char := if c = '\'' then ['\\', c] else quotedChar c

/-- An optional text: `None`, or `Some` with the quoted text. -/
def quotedOption : Option String → String
  | none => "None"
  | some s => "Some(" ++ quoted s ++ ")"

end DriverRegistration.Text
