import DriverRegistration.Json.Token

/-!
# Numbers of a JSON text

A number is an integer while it is written without fraction and exponent and fits the 64-bit ranges;
otherwise it is a binary64 value.  The digits that fit 64 bits form the significand, further digits
only shift the exponent, and the significand is scaled by one power of ten.
-/

namespace DriverRegistration.Json

/-- A number as it was read. -/
inductive Number where
  | integer (value : Int)
  | float (value : Binary64)
  deriving DecidableEq, Repr

/-- What a number is called in a fault. -/
def Number.found : Number → Found
  | integer n => .integer n
  | float x => .float x

/-- The value of a decimal digit. -/
def digitValue (c : Char) : Nat := c.toNat - 48

/-- The limits of the 64-bit ranges. -/
def wordLimit : Nat := 18446744073709551616

/-- Whether the next character is a decimal digit. -/
def startsWithDigit : List Char → Bool
  | c :: _ => c.isDigit
  | [] => false

/-- Take digits while the number they write fits 64 bits; gives the number, how many digits were
taken, and the rest. -/
def takeWord (acc count : Nat) : List Char → Nat × Nat × List Char
  | [] => (acc, count, [])
  | c :: cs =>
    if c.isDigit && acc * 10 + digitValue c < wordLimit then
      takeWord (acc * 10 + digitValue c) (count + 1) cs
    else (acc, count, c :: cs)

/-- `x * 10 ^ e`, by one product or quotient with a power of ten; first in steps of `10 ^ 308` for
an exponent below `-308`.  Fails where the value is too large. -/
def scaleByTen (x : Binary64) (e : Int) : Option Binary64 :=
  if e < -308 then
    if x.isZero then some x else scaleByTen (x / Binary64.ofNat (Nat.pow 10 308)) (e + 308)
  else if e < 0 then some (x / Binary64.ofNat (Nat.pow 10 (-e).toNat))
  else if e ≤ 308 then
    let y := x * Binary64.ofNat (Nat.pow 10 e.toNat)
    if y.isInfinite then none else some y
  else if x.isZero then some x
  else none
termination_by (-e).toNat
decreasing_by omega

/-- The value of a sign, a significand and an exponent of ten. -/
def float (negative : Bool) (significand : Nat) (e : Int) (cs : List Char) :
    Except Fault (Number × List Char) :=
  match scaleByTen (Binary64.ofNat significand) e with
  | some x => .ok (.float (if negative then -x else x), cs)
  | none => .error (.here .numberOutOfRange cs)

/-- The largest exponent that is read as a number. -/
def exponentLimit : Nat := 2147483648

/-- Read the digits of an exponent after the first one. -/
def exponentDigits (negative down : Bool) (significand : Nat) (start : Int) (acc : Nat) :
    List Char → Except Fault (Number × List Char)
  | [] => float negative significand (if down then start - acc else start + acc) []
  | c :: cs =>
    if c.isDigit then
      if acc * 10 + digitValue c < exponentLimit then
        exponentDigits negative down significand start (acc * 10 + digitValue c) cs
      else if significand ≠ 0 && !down then .error (.here .numberOutOfRange cs)
      else .ok (.float (.finite negative 0), cs.dropWhile Char.isDigit)
    else float negative significand (if down then start - acc else start + acc) (c :: cs)

/-- Read an exponent from just after its letter. -/
def exponentPart (negative : Bool) (significand : Nat) (start : Int) (cs : List Char) :
    Except Fault (Number × List Char) :=
  let (down, cs) := match cs with
    | '+' :: r => (false, r)
    | '-' :: r => (true, r)
    | r => (false, r)
  match cs with
  | [] => .error (.here .eofValue [])
  | c :: r =>
    if c.isDigit then exponentDigits negative down significand start (digitValue c) r
    else .error (.next .invalidNumber (c :: r))

/-- Read what may follow the digits of a number: an exponent. -/
def exponentOrEnd (negative : Bool) (significand : Nat) (start : Int) :
    List Char → Except Fault (Number × List Char)
  | 'e' :: cs | 'E' :: cs => exponentPart negative significand start cs
  | cs => float negative significand start cs

/-- Read a fraction from just after its point. -/
def fractionPart (negative : Bool) (significand : Nat) (start : Int) (cs : List Char) :
    Except Fault (Number × List Char) :=
  let (acc, count, rest) := takeWord significand 0 cs
  if count = 0 && !startsWithDigit rest then
    .error (.next (if rest = [] then .eofValue else .invalidNumber) rest)
  else exponentOrEnd negative acc (start - count) (rest.dropWhile Char.isDigit)

/-- Read what may follow the integer digits of a number that is not an integer. -/
def fractionOrEnd (negative : Bool) (significand : Nat) (start : Int) :
    List Char → Except Fault (Number × List Char)
  | '.' :: cs => fractionPart negative significand start cs
  | cs => exponentOrEnd negative significand start cs

/-- The number of a significand without fraction or exponent; a negative zero, and what the signed
range does not hold, is a binary64 value. -/
def wholeNumber (negative : Bool) (n : Nat) : Number :=
  if !negative then .integer n
  else if n = 0 || 9223372036854775808 < n then .float (-Binary64.ofNat n)
  else .integer (-n)

/-- Read what follows the integer digits that fit 64 bits. -/
def afterInteger (negative : Bool) (significand : Nat) (cs : List Char) :
    Except Fault (Number × List Char) :=
  match cs with
  | '.' :: _ | 'e' :: _ | 'E' :: _ => fractionOrEnd negative significand 0 cs
  | c :: _ =>
    if c.isDigit then
      fractionOrEnd negative significand (cs.takeWhile Char.isDigit).length
        (cs.dropWhile Char.isDigit)
    else .ok (wholeNumber negative significand, cs)
  | [] => .ok (wholeNumber negative significand, [])

/-- Read a number from just after its sign. -/
def number (negative : Bool) : List Char → Except Fault (Number × List Char)
  | [] => .error (.here .eofValue [])
  | c :: cs =>
    if c = '0' then
      if startsWithDigit cs then .error (.next .invalidNumber cs) else afterInteger negative 0 cs
    else if c.isDigit then
      let (n, _, rest) := takeWord (digitValue c) 0 cs
      afterInteger negative n rest
    else .error (.next .invalidNumber (c :: cs))

/-! ## Numbers whose value is not asked for -/

/-- Pass over an exponent from just after its letter. -/
def skipExponent (cs : List Char) : Except Fault (List Char) :=
  let cs := match cs with
    | '+' :: r => r
    | '-' :: r => r
    | r => r
  if startsWithDigit cs then .ok (cs.dropWhile Char.isDigit) else .error (.next .invalidNumber cs)

/-- Pass over a fraction and an exponent, if there are any. -/
def skipFraction : List Char → Except Fault (List Char)
  | '.' :: cs =>
    if startsWithDigit cs then
      match cs.dropWhile Char.isDigit with
      | 'e' :: r | 'E' :: r => skipExponent r
      | r => .ok r
    else .error (.next .invalidNumber cs)
  | 'e' :: r | 'E' :: r => skipExponent r
  | cs => .ok cs

/-- Pass over a number from just after its sign. -/
def skipNumber : List Char → Except Fault (List Char)
  | [] => .error (.here .invalidNumber [])
  | c :: cs =>
    if c = '0' then
      if startsWithDigit cs then .error (.next .invalidNumber cs) else skipFraction cs
    else if c.isDigit then skipFraction (cs.dropWhile Char.isDigit)
    else .error (.next .invalidNumber (c :: cs))

end DriverRegistration.Json
