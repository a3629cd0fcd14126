import DriverRegistration.Binary64

/-!
# Shortest decimal text

A finite binary64 value is written with the fewest decimal digits that read back as the same value,
the nearest such decimal where several have that many digits.  The decimals that read back are those
of an interval around the value, which holds its ends when the significand is even; for each number
of digits only the two neighbours of the value on that decimal grid need a test.
-/

namespace DriverRegistration.Binary64

/-- The decimals that read back as `u` units, with bounds in quarters of a unit. -/
structure Interval where
  low : Nat
  high : Nat
  /-- Whether the bounds themselves read back. -/
  closed : Bool

/-- The decimals that read back as a positive number of units. -/
def interval (u : Nat) : Interval :=
  let gap := spacing u 1
  let below := if u = 4503599627370496 * gap && gap ≠ 1 then gap else 2 * gap
  { low := 4 * u - below, high := 4 * u + 2 * gap, closed := u / gap % 2 = 0 }

/-- A decimal `digits * 10 ^ exponent`. -/
structure Decimal where
  digits : Nat
  exponent : Int
  deriving DecidableEq, Repr

/-- `n * 10 ^ e` as a quotient of naturals. -/
def scaleTen (n : Nat) (e : Int) : Nat × Nat :=
  if 0 ≤ e then (n * Nat.pow 10 e.toNat, 1) else (n, Nat.pow 10 (-e).toNat)

/-- Whether a decimal lies in an interval. -/
def Interval.contains (i : Interval) (d : Decimal) : Bool :=
  let (n, m) := scaleTen (d.digits * (4 * unitsPerOne)) d.exponent
  if i.closed then i.low * m ≤ n && n ≤ i.high * m else i.low * m < n && n < i.high * m

/-- The exponent of the first decimal digit of a value below one, found by raising the value. -/
def fractionExponent (u : Nat) : Nat → Nat → Int
  | 0, j => -j
  | fuel + 1, j => if unitsPerOne ≤ u * Nat.pow 10 j then -j else fractionExponent u fuel (j + 1)

/-- The exponent of the first decimal digit of a positive number of units. -/
def decimalExponent (u : Nat) : Int :=
  if unitsPerOne ≤ u then ((Nat.toDigits 10 (u / unitsPerOne)).length : Int) - 1
  else fractionExponent u 330 1

/-- The decimal of `n` digits after `k * 10 ^ e`, which is a power of ten after nines alone. -/
def nextDecimal (n k : Nat) (e : Int) : Decimal :=
  if k + 1 = Nat.pow 10 n then ⟨Nat.pow 10 (n - 1), e + 1⟩ else ⟨k + 1, e⟩

/-- The decimal of `n` digits that reads back and lies nearest to `u` units, if one does. -/
def decimalOfLength (u : Nat) (n : Nat) : Option Decimal :=
  let e := decimalExponent u - n + 1
  let (a, b) := scaleTen u (-e)
  let k := a / (b * unitsPerOne)
  let lower : Decimal := ⟨k, e⟩
  let upper := nextDecimal n k e
  let i := interval u
  match i.contains lower, i.contains upper with
  | true, false => some lower
  | false, true => some upper
  | false, false => none
  | true, true =>
    let twice := 2 * (a % (b * unitsPerOne))
    if twice < b * unitsPerOne || (twice = b * unitsPerOne && k % 2 = 0) then some lower
    else some upper

/-- The shortest decimal that reads back as a positive number of units. -/
def shortestDecimal (u : Nat) : Decimal :=
  ((List.range 17).findSome? fun n => decimalOfLength u (n + 1)).getD ⟨0, 0⟩

/-- How the digits of a value are laid out. -/
structure Layout where
  /-- The least exponent of the first digit that is written positionally. -/
  leastPositional : Int
  /-- The greatest exponent of the first digit that is written positionally. -/
  greatestPositional : Int
  /-- Whether a positive exponent carries its sign. -/
  signedExponent : Bool

/-- Zeros. -/
def zeros (n : Nat) : String := "".pushn '0' n

/-- A decimal with a point: an integer keeps one zero after it. -/
def positional (d : Decimal) : String :=
  let s := toString d.digits
  if 0 ≤ d.exponent then s ++ zeros d.exponent.toNat ++ ".0"
  else
    let places := (-d.exponent).toNat
    let s := zeros (places + 1 - s.length) ++ s
    String.ofList (s.toList.take (s.length - places)) ++ "." ++
      String.ofList (s.toList.drop (s.length - places))

/-- A decimal with one digit before the point, and an exponent. -/
def scientific (signed : Bool) (d : Decimal) : String :=
  let s := (toString d.digits).toList
  let e := d.exponent + (s.length - 1 : Nat)
  let rest := s.drop 1
  String.ofList (s.take 1) ++ (if rest = [] then "" else "." ++ String.ofList rest) ++ "e" ++
    (if signed && 0 ≤ e then "+" else "") ++ toString e

/-- The text of a value in a layout. -/
def text (l : Layout) : Binary64 → String
  | nan => "NaN"
  | infinite s => if s then "-inf" else "inf"
  | finite s u =>
    (if s then "-" else "") ++
      if u = 0 then "0.0"
      else
        let d := shortestDecimal u
        let e := d.exponent + ((toString d.digits).length - 1 : Nat)
        if l.leastPositional ≤ e && e ≤ l.greatestPositional then positional d
        else scientific l.signedExponent d

end DriverRegistration.Binary64
