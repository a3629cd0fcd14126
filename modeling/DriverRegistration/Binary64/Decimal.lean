import DriverRegistration.Binary64

/-!
# Reading decimals

A decimal has an optional sign, digits with an optional point among them, and an optional exponent
of ten; infinities and what is not a number are spelled in letters of either case.  The value is the
binary64 value nearest to the exact decimal.
-/

namespace DriverRegistration.Binary64

/-- The number that decimal digits write. -/
def digitsValue (ds : List Char) : Nat := ds.foldl (fun n d => n * 10 + (d.toNat - 48)) 0

/-- Powers of ten beyond this one leave the range of values in either direction, whatever digit they
are multiplied with. -/
def exponentBound : Nat := 400

/-- The value nearest to `digits * 10 ^ exponent`. -/
def ofDecimal (negative : Bool) (digits : Nat) (exponent : Int) : Binary64 :=
  let length : Int := (Nat.toDigits 10 digits).length
  if digits = 0 then finite negative 0
  else if (exponentBound : Int) < exponent + length then infinite negative
  else if exponent + length < -(exponentBound : Int) then finite negative 0
  else if 0 ≤ exponent then ofRatio negative (digits * Nat.pow 10 exponent.toNat) 1
  else ofRatio negative digits (Nat.pow 10 (-exponent).toNat)

/-- The exponent at the end of a decimal, zero where there is none. -/
def exponentOf? (cs : List Char) : Option Int :=
  match cs with
  | [] => some 0
  | c :: r =>
    if c = 'e' || c = 'E' then
      let (negative, ds) := match r with
        | '-' :: r => (true, r)
        | '+' :: r => (false, r)
        | r => (false, r)
      if ds ≠ [] && ds.all Char.isDigit then
        some (if negative then -(digitsValue ds : Int) else digitsValue ds)
      else none
    else none

/-- Read a decimal without a sign. -/
def ofUnsigned? (negative : Bool) (cs : List Char) : Option Binary64 :=
  let word := String.ofList (cs.map Char.toLower)
  if word = "inf" || word = "infinity" then some (infinite negative)
  else if word = "nan" then some nan
  else
    let whole := cs.takeWhile Char.isDigit
    let rest := cs.drop whole.length
    let (fraction, rest) := match rest with
      | '.' :: r => (r.takeWhile Char.isDigit, r.dropWhile Char.isDigit)
      | r => ([], r)
    if whole = [] && fraction = [] then none
    else
      (exponentOf? rest).map fun e =>
        ofDecimal negative (digitsValue (whole ++ fraction)) (e - fraction.length)

/-- Read a decimal. -/
def ofText? (s : String) : Option Binary64 :=
  match s.toList with
  | '-' :: cs => ofUnsigned? true cs
  | '+' :: cs => ofUnsigned? false cs
  | cs => ofUnsigned? false cs

end DriverRegistration.Binary64
