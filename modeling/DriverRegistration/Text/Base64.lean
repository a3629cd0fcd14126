/-!
# Octets in base 64

Three octets are written as four characters of six bits each.  Fewer ones at the end are filled up
with bits of zero, and with equality signs in place of characters.
-/

namespace DriverRegistration.Text

/-- The six bits that a character stands for. -/
def sixBits? (c : Char) : Option Nat :=
  if c.isUpper then some (c.toNat - 65)
  else if c.isLower then some (c.toNat - 71)
  else if c.isDigit then some (c.toNat + 4)
  else if c = '+' then some 62
  else if c = '/' then some 63
  else none

/-- The octets of four characters. -/
def fourChars? (last : Bool) (a b c d : Char) : Option (List UInt8) := do
  let x ← sixBits? a
  let y ← sixBits? b
  let first := UInt8.ofNat (x * 4 + y / 16)
  if last && c = '=' && d = '=' then
    if y % 16 = 0 then some [first] else none
  else
    let z ← sixBits? c
    let second := UInt8.ofNat (y % 16 * 16 + z / 4)
    if last && d = '=' then
      if z % 4 = 0 then some [first, second] else none
    else
      let w ← sixBits? d
      some [first, second, UInt8.ofNat (z % 4 * 64 + w)]

/-- The octets that some characters write. -/
def ofBase64? : List Char → Option (List UInt8)
  | [] => some []
  | a :: b :: c :: d :: r => do
    let os ← fourChars? r.isEmpty a b c d
    return os ++ (← ofBase64? r)
  | _ => none

end DriverRegistration.Text
