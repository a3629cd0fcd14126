import DriverRegistration.Binary64.Decimal
import DriverRegistration.Text.Utf8
import DriverRegistration.Yaml.Quoted
import DriverRegistration.Yaml.Value

/-!
# Values of scalars

A plain scalar stands for nothing, a truth value or a number where it is spelled like one, and else
for its own text.  Any other scalar is a text.  A tag may say which of these a scalar must be.
-/

namespace DriverRegistration.Yaml

/-- The spellings of nothing. -/
def nullWords : List String := ["null", "Null", "NULL", "~"]

/-- The spellings of the truth values. -/
def flagWords : List (String × Bool) :=
  [("true", true), ("True", true), ("TRUE", true), ("false", false), ("False", false),
    ("FALSE", false)]

/-! ## Integers -/

/-- The letters after a zero that name a base. -/
def bases : List (Char × Nat) := [('x', 16), ('o', 8), ('b', 2)]

/-- The number that digits of a base write. -/
def basedNumber? (base : Nat) (cs : List Char) : Option Nat :=
  if cs = [] then none
  else cs.foldlM (fun n c => ((hexValue? c).filter (· < base)).map (n * base + ·)) 0

/-- A scalar without its sign, if there is one. -/
def unsigned : List Char → List Char
  | '+' :: cs | '-' :: cs => cs
  | cs => cs

/-- Whether digits begin with a zero that no number begins with. -/
def hasLeadingZero (cs : List Char) : Bool :=
  match unsigned cs with
  | '0' :: c :: r => (c :: r).all Char.isDigit
  | _ => false

/-- The number without a sign that a scalar is spelled like. -/
def naturalOf? (cs : List Char) : Option Nat :=
  let based :=
    match cs with
    | '0' :: c :: r => (bases.lookup c).bind fun base => basedNumber? base r
    | _ => none
  based <|> if hasLeadingZero cs then none else basedNumber? 10 cs

/-- The integer that a scalar is spelled like. -/
def integerOf? : List Char → Option Int
  | '+' :: cs => (naturalOf? cs).map fun n => (n : Int)
  | '-' :: cs => (naturalOf? cs).map fun n => -(n : Int)
  | cs => (naturalOf? cs).map fun n => (n : Int)

/-- The largest integer that a value may be. -/
def largestInteger : Int := 18446744073709551615

/-- The smallest integer that a value may be. -/
def smallestInteger : Int := -9223372036854775808

/-- The largest integer that is told from other numbers. -/
def largestWide : Int := 340282366920938463463374607431768211455

/-- The smallest integer that is told from other numbers. -/
def smallestWide : Int := -170141183460469231731687303715884105728

/-- The value of a scalar that is spelled like an integer.  One that is too large or too small for a
value is refused; one that is beyond that is no integer. -/
def integerValue? (cs : List Char) : Option (Except String Value) :=
  (integerOf? cs).bind fun n =>
    if smallestInteger ≤ n && n ≤ largestInteger then some (.ok (.integer n))
    else if n < smallestWide || largestWide < n then none
    else
      let width := if n < 0 then "i128" else "u128"
      some (.error s!"invalid type: integer `{n}` as {width}, expected any YAML value")

/-! ## Other numbers -/

/-- The spellings of infinity. -/
def infinityWords : List String := [".inf", ".Inf", ".INF"]

/-- The spellings of what is not a number. -/
def nanWords : List String := [".nan", ".NaN", ".NAN"]

/-- Whether a value is a number that is not infinite. -/
def isFinite (x : Binary64) : Bool := !x.isNaN && !x.isInfinite

/-- The number that a scalar is spelled like. -/
def floatOf? (cs : List Char) : Option Binary64 :=
  let digits := match cs with
    | '+' :: r => r
    | r => r
  let s := String.ofList digits
  if cs.head? = some '+' && (digits.head? = some '+' || digits.head? = some '-') then none
  else if infinityWords.contains s then some (.infinite false)
  else if infinityWords.any (fun w => String.ofList cs = "-" ++ w) then some (.infinite true)
  else if nanWords.contains (String.ofList cs) then some .nan
  else (Binary64.ofText? s).filter isFinite

/-! ## Scalars -/

/-- The value of a plain scalar, or why it has none. -/
def plainValue (s : String) : Except String Value :=
  if s = "" || nullWords.contains s then .ok .null
  else
    match flagWords.lookup s, integerValue? s.toList with
    | some b, _ => .ok (.flag b)
    | none, some r => r
    | none, none =>
      if hasLeadingZero s.toList then .ok (.text s)
      else
        match floatOf? s.toList with
        | some x => .ok (.float x)
        | none => .ok (.text s)

/-- The value of a scalar that is not told by a tag. -/
def scalarValue (plain : Bool) (s : String) : Except String Value :=
  if plain then plainValue s else .ok (.text s)

/-- The refusal of a scalar that is not what its tag says. -/
def wrongScalar (s expected : String) : Except String Value :=
  .error ("invalid value: string " ++ Text.quoted s ++ ", expected " ++ expected)

/-- The value of a scalar that must be of some kind. -/
def valueOfKind? (kind s : String) : Option (Except String Value) :=
  match kind with
  | "tag:yaml.org,2002:bool" =>
    some (((flagWords.lookup s).map fun b => .ok (.flag b)).getD (wrongScalar s "a boolean"))
  | "tag:yaml.org,2002:int" =>
    some ((integerValue? s.toList).getD (wrongScalar s "an integer"))
  | "tag:yaml.org,2002:float" =>
    some (((floatOf? s.toList).map fun x => .ok (.float x)).getD (wrongScalar s "a float"))
  | "tag:yaml.org,2002:null" =>
    some (if nullWords.contains s then .ok .null else wrongScalar s "null")
  | _ => none

/-- The value of a scalar with a tag that is not one of its own. -/
def scalarOfKind (tag : Option (List UInt8)) (plain : Bool) (s : String) : Except String Value :=
  match tag with
  | none => scalarValue plain s
  | some octets =>
    match (Text.ofUtf8? octets).bind fun kind => valueOfKind? kind s with
    | some r => r
    | none => scalarValue (plain && octets.head? = some 0x21) s

end DriverRegistration.Yaml
