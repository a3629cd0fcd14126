/-!
# Binary floating point of 64 bits

Growth factors, jitter fractions and the numbers in faulty documents are binary64 values.  Every
finite one is a whole multiple of `2 ^ -1074`, so a finite value is a sign and a count of these
units.  An exact quotient of naturals is brought to 53 significant bits by `roundUnits`, to the
nearest with ties to even, and `ofUnits` turns what is too large into an infinity.  Products and
quotients are exact results so rounded.
-/

namespace DriverRegistration

/-- A binary64 value: not a number, an infinity, or a signed count of units of `2 ^ -1074`. -/
inductive Binary64 where
  | nan
  | infinite (negative : Bool)
  | finite (negative : Bool) (units : Nat)
  deriving DecidableEq, Repr, Inhabited

namespace Binary64

/-- How many units make one. -/
def unitsPerOne : Nat := Nat.pow 2 1074

/-- The first count of units beyond the finite values, `2 ^ 1024`. -/
def unitsLimit : Nat := Nat.pow 2 2098

/-! ## Rounding -/

/-- The natural nearest to `n / d`, an even one of two equally near. -/
def roundHalfEven (n d : Nat) : Nat :=
  if 2 * (n % d) < d then n / d
  else if d < 2 * (n % d) then n / d + 1
  else n / d + n / d % 2

/-- The distance, in units, of neighbouring values around `n / d` units. -/
def spacing (n d : Nat) : Nat := Nat.pow 2 ((n / d).log2 - 52)

/-- `n / d` units brought to 53 significant bits. -/
def roundUnits (n d : Nat) : Nat := roundHalfEven n (d * spacing n d) * spacing n d

/-- The value nearest to `n / d` units, with the given sign. -/
def ofUnits (negative : Bool) (n d : Nat) : Binary64 :=
  if roundUnits n d < unitsLimit then finite negative (roundUnits n d) else infinite negative

/-- The value nearest to `n / d`. -/
def ofRatio (negative : Bool) (n d : Nat) : Binary64 := ofUnits negative (n * unitsPerOne) d

/-- The value nearest to a natural. -/
def ofNat (n : Nat) : Binary64 := ofRatio false n 1

instance (n : Nat) : OfNat Binary64 n := ⟨ofNat n⟩

/-- An exact quotient is its own rounding to a whole. -/
theorem roundHalfEven_mul {d : Nat} (k : Nat) (hd : 0 < d) : roundHalfEven (k * d) d = k := by
  simp [roundHalfEven, Nat.mul_mod_left, Nat.mul_div_cancel _ hd, hd]

/-! ## Arithmetic -/

/-- The value of opposite sign. -/
def neg : Binary64 → Binary64
  | nan => nan
  | infinite s => infinite !s
  | finite s u => finite (!s) u

/-- The product, rounded once. -/
def mul : Binary64 → Binary64 → Binary64
  | nan, _ | _, nan => nan
  | infinite s, infinite t => infinite (s != t)
  | infinite s, finite t u | finite t u, infinite s => if u = 0 then nan else infinite (s != t)
  | finite s u, finite t v => ofUnits (s != t) (u * v) unitsPerOne

/-- The quotient, rounded once. -/
def div : Binary64 → Binary64 → Binary64
  | nan, _ | _, nan => nan
  | infinite _, infinite _ => nan
  | infinite s, finite t _ => infinite (s != t)
  | finite s _, infinite t => finite (s != t) 0
  | finite s u, finite t v =>
    if v = 0 then (if u = 0 then nan else infinite (s != t))
    else ofUnits (s != t) (u * unitsPerOne) v

instance : Neg Binary64 := ⟨neg⟩

instance : Mul Binary64 := ⟨mul⟩

instance : Div Binary64 := ⟨div⟩

/-- `r * a ^ n` by repeated squaring: every step multiplies `r` when the exponent is odd, squares
`a` and halves the exponent. -/
def powFrom (r a : Binary64) (n : Nat) : Binary64 :=
  let r := if n % 2 = 1 then r * a else r
  if n / 2 = 0 then r else powFrom r (a * a) (n / 2)
termination_by n
decreasing_by omega

/-- The power by repeated squaring, rounding at every product. -/
def pow (a : Binary64) (n : Nat) : Binary64 := powFrom 1 a n

/-! ## Order -/

/-- Whether the value is not a number. -/
def isNaN : Binary64 → Bool
  | nan => true
  | _ => false

/-- Whether the value is an infinity. -/
def isInfinite : Binary64 → Bool
  | infinite _ => true
  | _ => false

/-- Whether the value is a zero of either sign. -/
def isZero : Binary64 → Bool
  | finite _ 0 => true
  | _ => false

/-- The place of a number in the order, an infinity lying beyond all counts of units. -/
def rank : Binary64 → Int
  | nan => 0
  | infinite s => if s then -(unitsLimit : Int) else unitsLimit
  | finite s u => if s then -(u : Int) else u

/-- The larger of two values; one that is not a number gives way to the other. -/
def max (a b : Binary64) : Binary64 :=
  if a.isNaN then b else if b.isNaN then a else if a.rank < b.rank then b else a

/-- The smaller of two values; one that is not a number gives way to the other. -/
def min (a b : Binary64) : Binary64 :=
  if a.isNaN then b else if b.isNaN then a else if b.rank < a.rank then b else a

/-- A value kept between two bounds; what is not a number stays so. -/
def clamp (a lo hi : Binary64) : Binary64 :=
  if a.isNaN then a
  else if a.rank < lo.rank then lo
  else if hi.rank < a.rank then hi
  else a

/-- The natural nearest to a positive finite value, a half going up; nothing else has one. -/
def roundToNat? : Binary64 → Option Nat
  | finite false (u + 1) => some ((2 * (u + 1) + unitsPerOne) / (2 * unitsPerOne))
  | _ => none

end Binary64

end DriverRegistration
